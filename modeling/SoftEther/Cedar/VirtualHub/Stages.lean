import SoftEther.Cedar.VirtualHub.Frame

/-!
# The stages of a packet

`StorePacket` taken apart: the filters leave the tables alone but for the DHCP
replies they record, the MAC address table is written at one place and the IP
table at another, and giving out the packet writes no table.
-/

namespace SoftEther
namespace VirtualHub

open AccessList

variable (cfg : Settings)

/-! ## Steps that change sessions only -/

theorem sameTables_noteSender
    (now : Nat)
    (s : Option SessionId)
    (packet : Pkt)
    (hub : Hub) :
    SameTables hub (noteSender cfg now s packet hub) := by
  unfold noteSender
  cases s with
  | none => exact .refl hub
  | some source =>
      apply sameTables_updateSession
      intro state
      rfl

theorem packetQueue_noteSender
    (now : Nat)
    (s : Option SessionId)
    (packet : Pkt)
    (hub : Hub)
    (dest : SessionId) :
    (noteSender cfg now s packet hub).packetQueue dest =
      hub.packetQueue dest := by
  unfold noteSender
  cases s with
  | none => rfl
  | some source =>
      apply packetQueue_updateSession
      intro state
      rfl

theorem sameTables_storePacketFilterByTrafficLimiter
    (now : Nat)
    (s : SessionId)
    (p : Pkt)
    (hub : Hub) :
    SameTables hub (storePacketFilterByTrafficLimiter cfg now s p hub).2 := by
  unfold storePacketFilterByTrafficLimiter
  split_ifs
  · exact .refl hub
  · exact .refl hub
  · split
    · exact .refl hub
    · exact sameTables_updatePa hub s _

theorem packetQueue_storePacketFilterByTrafficLimiter
    (now : Nat)
    (s : SessionId)
    (p : Pkt)
    (hub : Hub)
    (dest : SessionId) :
    (storePacketFilterByTrafficLimiter cfg now s p hub).2.packetQueue dest =
      hub.packetQueue dest := by
  unfold storePacketFilterByTrafficLimiter
  split_ifs
  · rfl
  · rfl
  · split
    · rfl
    · apply packetQueue_updatePa
      intro pa
      rfl

theorem sameTables_applyAccessList
    (now : Nat)
    (s : SessionId)
    (p : Pkt)
    (hub : Hub) :
    SameTables hub (applyAccessList cfg now s p hub).2 := by
  unfold applyAccessList
  dsimp only
  have changed (acl : AccessList.Session) :
      SameTables hub (hub.updateSession s fun state =>
        { state with acl := acl }) := by
    apply sameTables_updateSession
    intro state
    rfl
  split
  · exact (changed _).trans
      (sameTables_storePacketToHubPa cfg now s none _ none false false _)
  · exact changed _

/-- Only the redirection reply goes to the source. -/
theorem delivers_applyAccessList
    (now : Nat)
    (s : SessionId)
    (p : Pkt)
    (hub : Hub) :
    Delivers (fun dest block => dest = s ∧ block.packet = none) hub
      (applyAccessList cfg now s p hub).2 := by
  unfold applyAccessList
  dsimp only
  have changed (acl : AccessList.Session) :
      Delivers (fun dest block => dest = s ∧ block.packet = none) hub
        (hub.updateSession s fun state => { state with acl := acl }) := by
    apply delivers_of_same
    apply packetQueue_updateSession
    intro state
    rfl
  split
  · exact (changed _).trans
      (delivers_storePacketToHubPa cfg now s none _ none false false _)
  · exact changed _

theorem sameTables_checkBroadcastStorm
    (stormDraw now : Nat)
    (s : SessionId)
    (p : Pkt)
    (hub : Hub) :
    SameTables hub (checkBroadcastStorm cfg stormDraw now s p hub).2 := by
  unfold checkBroadcastStorm
  split_ifs
  · exact .refl hub
  · split
    · exact .refl hub
    · exact sameTables_updatePa hub s _

theorem packetQueue_checkBroadcastStorm
    (stormDraw now : Nat)
    (s : SessionId)
    (p : Pkt)
    (hub : Hub)
    (dest : SessionId) :
    (checkBroadcastStorm cfg stormDraw now s p hub).2.packetQueue dest =
      hub.packetQueue dest := by
  unfold checkBroadcastStorm
  split_ifs
  · rfl
  · split
    · rfl
    · apply packetQueue_updatePa
      intro pa
      rfl

theorem sameTables_learnOwnAddress
    (s : SessionId)
    (ip : UInt32)
    (hub : Hub) :
    SameTables hub (learnOwnAddress cfg s ip hub) := by
  unfold learnOwnAddress
  split_ifs
  · apply sameTables_updateSession
    intro state
    split_ifs <;> rfl
  · exact .refl hub

theorem packetQueue_learnOwnAddress
    (s : SessionId)
    (ip : UInt32)
    (hub : Hub)
    (dest : SessionId) :
    (learnOwnAddress cfg s ip hub).packetQueue dest = hub.packetQueue dest := by
  unfold learnOwnAddress
  split_ifs
  · apply packetQueue_updateSession
    intro state
    split_ifs <;> rfl
  · rfl

theorem sameTables_delayPacket
    (draws : Draws)
    (source : SessionId)
    (packet : Pkt)
    (hub : Hub) :
    SameTables hub (delayPacket draws source packet hub) := by
  unfold delayPacket
  apply sameTables_updateSession
  intro state
  rfl

theorem packetQueue_delayPacket
    (draws : Draws)
    (source : SessionId)
    (packet : Pkt)
    (hub : Hub)
    (dest : SessionId) :
    (delayPacket draws source packet hub).packetQueue dest =
      hub.packetQueue dest := by
  unfold delayPacket
  apply packetQueue_updateSession
  intro state
  rfl

/-! ## Steps that change a table -/

/-- Lists, packet adapters and queues stay the same. -/
structure KeepsSessions (before after : Hub) : Prop where
  sessionList : after.sessionList = before.sessionList
  monitorList : after.monitorList = before.monitorList
  attached : ∀ s, after.isAttached s = before.isAttached s
  queue : ∀ s, after.packetQueue s = before.packetQueue s

theorem KeepsSessions.refl (hub : Hub) : KeepsSessions hub hub :=
  ⟨rfl, rfl, fun _ => rfl, fun _ => rfl⟩

variable {first second third : Hub} {now : Nat}

theorem KeepsSessions.trans
    (left : KeepsSessions first second)
    (right : KeepsSessions second third) :
    KeepsSessions first third where
  sessionList := right.sessionList.trans left.sessionList
  monitorList := right.monitorList.trans left.monitorList
  attached s := (right.attached s).trans (left.attached s)
  queue s := (right.queue s).trans (left.queue s)

theorem SameTables.keepsSessions
    {before after : Hub}
    (same : SameTables before after)
    (queue : ∀ s, after.packetQueue s = before.packetQueue s) :
    KeepsSessions before after :=
  ⟨same.sessionList, same.monitorList, same.attached, queue⟩

structure OnlyIpTable (before after : Hub) : Prop
    extends KeepsSessions before after where
  mac : after.macHashTable = before.macHashTable
  flush : after.lastFlushTick = before.lastFlushTick

structure OnlyMacTable (before after : Hub) : Prop
    extends KeepsSessions before after where
  ip : after.ipTable = before.ipTable

theorem OnlyIpTable.refl (hub : Hub) : OnlyIpTable hub hub :=
  ⟨.refl hub, rfl, rfl⟩

theorem OnlyIpTable.trans
    (left : OnlyIpTable first second)
    (right : OnlyIpTable second third) :
    OnlyIpTable first third where
  toKeepsSessions := left.toKeepsSessions.trans right.toKeepsSessions
  mac := right.mac.trans left.mac
  flush := right.flush.trans left.flush

theorem onlyIpTable_set
    (hub : Hub)
    (table : KeyedList IpTableEntry.ip (@compareBytes 20)) :
    OnlyIpTable hub { hub with ipTable := table } :=
  ⟨⟨rfl, rfl, fun _ => rfl, fun _ => rfl⟩, rfl, rfl⟩

theorem onlyIpTable_learnOwnAddress
    (s : SessionId)
    (ip : UInt32)
    (hub : Hub) :
    OnlyIpTable hub (learnOwnAddress cfg s ip hub) :=
  have same := sameTables_learnOwnAddress cfg s ip hub
  ⟨same.keepsSessions (packetQueue_learnOwnAddress cfg s ip hub), same.mac,
    same.flush⟩

theorem onlyIpTable_registerDhcpAddress
    (now : Nat)
    (p : Pkt)
    (client : SessionId)
    (ip : UInt32)
    (hub : Hub) :
    OnlyIpTable hub (registerDhcpAddress cfg now p client ip hub) := by
  apply (onlyIpTable_learnOwnAddress cfg client ip hub).trans
  unfold registerDhcpAddress
  dsimp only
  split
  · exact onlyIpTable_set _ _
  · exact onlyIpTable_set _ _

theorem onlyIpTable_recordDhcpReply
    (now : Nat)
    (p : Pkt)
    (hub : Hub) :
    OnlyIpTable hub (recordDhcpReply cfg now p hub) := by
  unfold recordDhcpReply
  split_ifs
  · exact .refl hub
  · split
    · exact .refl hub
    · split
      · exact .refl hub
      · exact onlyIpTable_registerDhcpAddress cfg now p _ _ hub

theorem onlyIpTable_checkIPv6Source
    (now : Nat)
    (s : SessionId)
    (packet : Pkt)
    (hub : Hub) :
    OnlyIpTable hub (checkIPv6Source cfg now s packet hub).2 := by
  unfold checkIPv6Source
  split
  · exact .refl hub
  · split
    · split_ifs
      · exact .refl hub
      · exact onlyIpTable_set _ _
      · exact .refl hub
    · split_ifs
      · exact onlyIpTable_set _ _
      · exact .refl hub
      · exact .refl hub

theorem onlyIpTable_checkIPv4Source
    (now : Nat)
    (s : SessionId)
    (packet : Pkt)
    (hub : Hub) :
    OnlyIpTable hub (checkIPv4Source cfg now s packet hub).2 := by
  unfold checkIPv4Source
  dsimp only
  split
  · exact .refl hub
  · split
    · split_ifs
      · exact .refl hub
      · exact .refl hub
      · exact (onlyIpTable_set _ _).trans (onlyIpTable_learnOwnAddress cfg s _ _)
      · exact .refl hub
    · split_ifs
      · exact onlyIpTable_set _ _
      · exact .refl hub
      · exact .refl hub
      · exact onlyIpTable_set _ _

theorem onlyIpTable_checkIpTable
    (now : Nat)
    (s : SessionId)
    (packet : Pkt)
    (hub : Hub) :
    OnlyIpTable hub (checkIpTable cfg now s packet hub).2 := by
  unfold checkIpTable
  split_ifs
  · exact .refl hub
  · have first := onlyIpTable_checkIPv6Source cfg now s packet hub
    generalize checkIPv6Source cfg now s packet hub = result at first ⊢
    rcases result with ⟨_ | _, after⟩
    · exact first
    · exact first.trans (onlyIpTable_checkIPv4Source cfg now s packet after)

theorem onlyMacTable_set
    (hub : Hub)
    (table : HashList MacTableEntry.key compareMacTable getHashOfMacTable) :
    OnlyMacTable hub { hub with macHashTable := table } :=
  ⟨⟨rfl, rfl, fun _ => rfl, fun _ => rfl⟩, rfl⟩

theorem onlyMacTable_flushMacTable (now : Nat) (hub : Hub) :
    OnlyMacTable hub (flushMacTable cfg now hub) := by
  unfold flushMacTable
  split_ifs
  · exact ⟨⟨rfl, rfl, fun _ => rfl, fun _ => rfl⟩, rfl⟩
  · exact ⟨.refl hub, rfl⟩

theorem onlyMacTable_learnMac
    (now : Nat)
    (s : SessionId)
    (packet : Pkt)
    (hub : Hub) :
    OnlyMacTable hub (learnMac cfg now s packet hub).2 := by
  unfold learnMac
  split
  · unfold registerMac
    dsimp only
    have flushed := onlyMacTable_flushMacTable cfg now hub
    split_ifs
    · exact flushed
    · exact flushed
    · exact ⟨flushed.toKeepsSessions.trans (onlyMacTable_set _ _).1, flushed.ip⟩
  · split_ifs
    · exact onlyMacTable_set _ _
    · unfold claimMac
      split_ifs
      · exact onlyMacTable_set _ _
      · exact ⟨.refl hub, rfl⟩
      · exact onlyMacTable_set _ _

/-! ## The stages of a packet of a session -/

/-- The same frame, perhaps marked by an access list. -/
def Pkt.SameFrame (packet passed : Pkt) : Prop :=
  ∃ (checked : Bool) (delay jitter loss : Nat),
    passed =
      { packet with
        accessChecked := checked
        delay := delay
        jitter := jitter
        loss := loss }

theorem Pkt.SameFrame.refl (packet : Pkt) : packet.SameFrame packet :=
  ⟨packet.accessChecked, packet.delay, packet.jitter, packet.loss, rfl⟩

theorem packet_applyAccessListToStoredPacket
    (userListContains : List UInt8 → UInt64 → Nat → Bool)
    (hub : AccessList.Hub)
    (s : AccessList.Session)
    (p : AccessList.Pkt) :
    (applyAccessListToStoredPacket userListContains hub s p).packet = p ∨
      ∃ a, (applyAccessListToStoredPacket userListContains hub s p).packet =
        p.check a := by
  unfold applyAccessListToStoredPacket
  split
  · exact .inl rfl
  · dsimp only
    cases scanStored userListContains hub s p hub.accessList with
    | none => exact .inl rfl
    | some a => exact .inr ⟨a, rfl⟩

theorem sameFrame_applyAccessList
    {s : SessionId}
    {p passed : Pkt}
    {hub : Hub}
    (passes : (applyAccessList cfg now s p hub).1 = some passed) :
    p.SameFrame passed := by
  unfold applyAccessList at passes
  dsimp only at passes
  split_ifs at passes
  injection passes with same
  subst same
  obtain same | ⟨a, same⟩ := packet_applyAccessListToStoredPacket
    cfg.userListContains cfg.acl (hub.sessions s).acl p.toPkt
  · rw [same]
    exact .refl p
  · rw [same]
    exact ⟨_, _, _, _, rfl⟩

/-- The hub when the filters come to record the DHCP reply of a packet; there is
nothing when the packet does not get there. -/
def recordingDhcpReply
    (now : Nat)
    (source : SessionId)
    (packet : Pkt)
    (hub : Hub) :
    Option Hub :=
  if packet.delayedForwardTick = 0 then
    match storePacketFilterByTrafficLimiter cfg now source packet hub with
    | (false, _) => none
    | (true, noted) =>
        if droppedByPolicy (cfg.session source).policy packet then none
        else some noted
  else none

/-- The tables after the filters: they are as before, but for a DHCP reply that
was recorded. -/
structure Filtered
    (now : Nat)
    (packet : Pkt)
    (recording : Option Hub)
    (before after : Hub) :
    Prop where
  mac : after.macHashTable = before.macHashTable
  flush : after.lastFlushTick = before.lastFlushTick
  sessionList : after.sessionList = before.sessionList
  monitorList : after.monitorList = before.monitorList
  attached : ∀ s, after.isAttached s = before.isAttached s
  ip :
    after.ipTable = before.ipTable ∨
      ∃ noted, recording = some noted ∧ SameTables before noted ∧
        after.ipTable = (recordDhcpReply cfg now packet noted).ipTable

theorem filtered_of_sameTables
    {packet : Pkt}
    {recording : Option Hub}
    {before after : Hub}
    (same : SameTables before after) :
    Filtered cfg now packet recording before after :=
  ⟨same.mac, same.flush, same.sessionList, same.monitorList, same.attached,
    .inl same.ip⟩

theorem Filtered.then_sameTables
    {packet : Pkt}
    {recording : Option Hub}
    (filtered : Filtered cfg now packet recording first second)
    (same : SameTables second third) :
    Filtered cfg now packet recording first third where
  mac := same.mac.trans filtered.mac
  flush := same.flush.trans filtered.flush
  sessionList := same.sessionList.trans filtered.sessionList
  monitorList := same.monitorList.trans filtered.monitorList
  attached s := (same.attached s).trans (filtered.attached s)
  ip := by
    rw [same.ip]
    exact filtered.ip

theorem applyStoreFilter_spec
    (now : Nat)
    (source : SessionId)
    (packet : Pkt)
    (hub : Hub) :
    let result := applyStoreFilter cfg now (some source) packet hub
    Filtered cfg now packet (recordingDhcpReply cfg now source packet hub) hub
      result.2 ∧
    Delivers (fun dest block => dest = source ∧ block.packet = none) hub
      result.2 ∧
    ∀ passed, result.1 = some passed → packet.SameFrame passed := by
  unfold applyStoreFilter recordingDhcpReply
  dsimp only
  by_cases fresh : packet.delayedForwardTick = 0
  · rw [if_pos fresh, if_pos fresh]
    unfold storePacketFilter
    have limited :=
      sameTables_storePacketFilterByTrafficLimiter cfg now source packet hub
    have limitedQueue :=
      packetQueue_storePacketFilterByTrafficLimiter cfg now source packet hub
    generalize storePacketFilterByTrafficLimiter cfg now source packet hub =
      limit at limited limitedQueue ⊢
    obtain ⟨_ | _, noted⟩ := limit
    · exact ⟨filtered_of_sameTables cfg limited,
        delivers_of_same limitedQueue _, by simp⟩
    · unfold storePacketFilterByPolicy
      dsimp only
      split_ifs
      · exact ⟨filtered_of_sameTables cfg limited,
          delivers_of_same limitedQueue _, by simp⟩
      · have recorded := onlyIpTable_recordDhcpReply cfg now packet noted
        have byPolicy : Filtered cfg now packet (some noted) hub
            (recordDhcpReply cfg now packet noted) :=
          { mac := recorded.mac.trans limited.mac
            flush := recorded.flush.trans limited.flush
            sessionList := recorded.sessionList.trans limited.sessionList
            monitorList := recorded.monitorList.trans limited.monitorList
            attached := fun s =>
              (recorded.attached s).trans (limited.attached s)
            ip := .inr ⟨noted, rfl, limited, rfl⟩ }
        refine ⟨?_, ?_, ?_⟩
        · exact byPolicy.then_sameTables cfg
            (sameTables_applyAccessList cfg now source packet _)
        · exact ((delivers_of_same limitedQueue _).trans
            (delivers_of_same recorded.queue _)).trans
            (delivers_applyAccessList cfg now source packet _)
        · intro passed passes
          exact sameFrame_applyAccessList cfg passes
  · rw [if_neg fresh, if_neg fresh]
    refine ⟨filtered_of_sameTables cfg (.refl hub), .refl _ hub, ?_⟩
    intro passed passes
    injection passes with same
    rw [← same]
    exact .refl packet

/-- The hub when `StorePacket` comes to record the DHCP reply of a packet. -/
def beforeDhcpReply
    (now : Nat)
    (source : SessionId)
    (packet : Pkt)
    (hub : Hub) :
    Option Hub :=
  if isFromMonitorPort cfg (some source) then none
  else
    recordingDhcpReply cfg now source packet
      (noteSender cfg now (some source) packet hub)

/-- The packet and the hub when the source is looked up in the MAC address
table; there is nothing when the packet does not get there. -/
def beforeMacTable
    (draws : Draws)
    (now : Nat)
    (source : SessionId)
    (packet : Pkt)
    (hub : Hub) :
    Option (Pkt × Hub) :=
  if isFromMonitorPort cfg (some source) then none
  else
    match applyStoreFilter cfg now (some source) packet
        (noteSender cfg now (some source) packet hub) with
    | (none, _) => none
    | (some passed, filtered) =>
        if isLost draws passed ∨ delayAfterJitter draws passed ≠ 0 ∨
            passed.macAddressSrc = cfg.hubMacAddr then
          none
        else some (passed, filtered)

/-- The packet and the hub when the source is looked up in the IP table, with
the way that the packet is to go. -/
def beforeIpTable
    (draws : Draws)
    (now : Nat)
    (source : SessionId)
    (packet : Pkt)
    (hub : Hub) :
    Option (Pkt × Route × Hub) :=
  match beforeMacTable cfg draws now source packet hub with
  | none => none
  | some (passed, filtered) =>
      match learnMac cfg now source passed filtered with
      | (false, _) => none
      | (true, learned) =>
          match findDestination cfg (some source) passed learned with
          | none => none
          | some route => some (passed, route, learned)

/-- A packet that gets to the MAC address table, with the hub it meets there. -/
structure Arrives
    (draws : Draws)
    (now : Nat)
    (source : SessionId)
    (packet passed : Pkt)
    (hub filtered : Hub) :
    Prop where
  before :
    beforeMacTable cfg draws now source packet hub = some (passed, filtered)
  sameFrame : packet.SameFrame passed
  filters :
    Filtered cfg now packet (beforeDhcpReply cfg now source packet hub) hub
      filtered
  delivers :
    Delivers (fun dest block => dest = source ∧ block.packet = none) hub filtered

/-- How far a packet of a session gets, and the hub it leaves behind. -/
inductive Stages
    (draws : Draws)
    (now : Nat)
    (source : SessionId)
    (packet : Pkt)
    (hub : Hub) :
    Verdict → Hub → Prop
  /-- It does not get to the tables. -/
  | stopped {verdict : Verdict} {after : Hub} :
      beforeMacTable cfg draws now source packet hub = none →
      verdict ≠ .forwarded →
      Filtered cfg now packet (beforeDhcpReply cfg now source packet hub) hub
        after →
      Delivers (fun dest block => dest = source ∧ block.packet = none) hub
        after →
      Stages draws now source packet hub verdict after
  | refusedByMac {passed : Pkt} {filtered : Hub} :
      Arrives cfg draws now source packet passed hub filtered →
      beforeIpTable cfg draws now source packet hub = none →
      Stages draws now source packet hub .discarded
        (learnMac cfg now source passed filtered).2
  | refusedByIp {passed : Pkt} {filtered : Hub} {route : Route} :
      Arrives cfg draws now source packet passed hub filtered →
      (learnMac cfg now source passed filtered).1 = true →
      beforeIpTable cfg draws now source packet hub =
        some (passed, route, (learnMac cfg now source passed filtered).2) →
      (checkIpTable cfg now source passed
        (learnMac cfg now source passed filtered).2).1 = false →
      Stages draws now source packet hub .discarded
        (checkIpTable cfg now source passed
          (learnMac cfg now source passed filtered).2).2
  | storm {passed : Pkt} {filtered after : Hub} {route : Route} :
      Arrives cfg draws now source packet passed hub filtered →
      (learnMac cfg now source passed filtered).1 = true →
      beforeIpTable cfg draws now source packet hub =
        some (passed, route, (learnMac cfg now source passed filtered).2) →
      (checkIpTable cfg now source passed
        (learnMac cfg now source passed filtered).2).1 = true →
      SameTables (checkIpTable cfg now source passed
        (learnMac cfg now source passed filtered).2).2 after →
      (∀ dest, after.packetQueue dest = (checkIpTable cfg now source passed
        (learnMac cfg now source passed filtered).2).2.packetQueue dest) →
      Stages draws now source packet hub .discarded after
  /-- It is given out. -/
  | forwarded {passed : Pkt} {filtered ready : Hub} {route : Route} :
      Arrives cfg draws now source packet passed hub filtered →
      (learnMac cfg now source passed filtered).1 = true →
      findDestination cfg (some source) passed
        (learnMac cfg now source passed filtered).2 = some route →
      beforeIpTable cfg draws now source packet hub =
        some (passed, route, (learnMac cfg now source passed filtered).2) →
      (checkIpTable cfg now source passed
        (learnMac cfg now source passed filtered).2).1 = true →
      SameTables (checkIpTable cfg now source passed
        (learnMac cfg now source passed filtered).2).2 ready →
      (∀ dest, ready.packetQueue dest = (checkIpTable cfg now source passed
        (learnMac cfg now source passed filtered).2).2.packetQueue dest) →
      Stages draws now source packet hub .forwarded
        (forwardPacket cfg draws now (some source) passed route ready)

theorem admitPacket_stages
    {draws : Draws}
    {source : SessionId}
    {packet passed : Pkt}
    {hub filtered : Hub}
    (arrives : Arrives cfg draws now source packet passed hub filtered)
    (foreign : passed.macAddressSrc ≠ cfg.hubMacAddr) :
    Stages cfg draws now source packet hub
      (admitPacket cfg draws now (some source) passed filtered).1
      (admitPacket cfg draws now (some source) passed filtered).2 := by
  have reaches : beforeIpTable cfg draws now source packet hub =
      match learnMac cfg now source passed filtered with
      | (false, _) => none
      | (true, learned) =>
          match findDestination cfg (some source) passed learned with
          | none => none
          | some route => some (passed, route, learned) := by
    unfold beforeIpTable
    rw [arrives.before]
  unfold admitPacket checkTables
  dsimp only
  rw [if_neg foreign]
  have learnedOk := @Stages.refusedByMac cfg draws now source packet hub passed
    filtered arrives
  have checkedOk := @Stages.refusedByIp cfg draws now source packet hub passed
    filtered
  have stormOk := @Stages.storm cfg draws now source packet hub passed filtered
  have forwardedOk := @Stages.forwarded cfg draws now source packet hub passed
    filtered
  generalize learnMac cfg now source passed filtered = learn at *
  obtain ⟨_ | _, learned⟩ := learn
  · exact learnedOk reaches
  · dsimp only at reaches checkedOk stormOk forwardedOk learnedOk ⊢
    cases destination : findDestination cfg (some source) passed learned with
    | none =>
        rw [destination] at reaches
        exact learnedOk reaches
    | some route =>
        rw [destination] at reaches
        dsimp only at reaches ⊢
        generalize checkIpTable cfg now source passed learned = check at *
        obtain ⟨_ | _, checked⟩ := check
        · exact checkedOk arrives rfl reaches rfl
        · dsimp only at stormOk forwardedOk ⊢
          cases route with
          | unicast entry =>
              exact forwardedOk arrives rfl destination reaches rfl
                (.refl checked) fun _ => rfl
          | flood =>
              have same := sameTables_checkBroadcastStorm cfg draws.stormDraw now
                source passed checked
              have queue := packetQueue_checkBroadcastStorm cfg draws.stormDraw
                now source passed checked
              generalize checkBroadcastStorm cfg draws.stormDraw now source passed
                checked = calmed at same queue ⊢
              obtain ⟨_ | _, after⟩ := calmed
              · exact stormOk arrives rfl reaches rfl same queue
              · exact forwardedOk arrives rfl destination reaches rfl same queue

theorem storePacket_stages
    (draws : Draws)
    (now : Nat)
    (source : SessionId)
    (packet : Pkt)
    (hub : Hub) :
    Stages cfg draws now source packet hub
      (storePacket cfg draws now (some source) packet hub).1
      (storePacket cfg draws now (some source) packet hub).2 := by
  have reaches := beforeMacTable.eq_def cfg draws now source packet hub
  unfold storePacket
  by_cases monitor : isFromMonitorPort cfg (some source)
  · rw [if_pos monitor] at reaches ⊢
    exact .stopped reaches (by simp) (filtered_of_sameTables cfg (.refl hub))
      (.refl _ hub)
  · rw [if_neg monitor] at reaches ⊢
    have noted := sameTables_noteSender cfg now (some source) packet hub
    have notedQueue := packetQueue_noteSender cfg now (some source) packet hub
    obtain ⟨filters, delivers, marks⟩ := applyStoreFilter_spec cfg now source packet
      (noteSender cfg now (some source) packet hub)
    have recording : beforeDhcpReply cfg now source packet hub =
        recordingDhcpReply cfg now source packet
          (noteSender cfg now (some source) packet hub) := if_neg monitor
    have filtersHub : Filtered cfg now packet
        (beforeDhcpReply cfg now source packet hub) hub
        (applyStoreFilter cfg now (some source) packet
          (noteSender cfg now (some source) packet hub)).2 :=
      { mac := filters.mac.trans noted.mac
        flush := filters.flush.trans noted.flush
        sessionList := filters.sessionList.trans noted.sessionList
        monitorList := filters.monitorList.trans noted.monitorList
        attached := fun s => (filters.attached s).trans (noted.attached s)
        ip := by
          obtain same | ⟨before, records, same, recorded⟩ := filters.ip
          · exact .inl (same.trans noted.ip)
          · exact .inr ⟨before, recording.trans records, noted.trans same,
              recorded⟩ }
    have deliversHub := (delivers_of_same notedQueue _).trans delivers
    generalize applyStoreFilter cfg now (some source) packet
      (noteSender cfg now (some source) packet hub) = result at *
    obtain ⟨_ | passed, filtered⟩ := result
    · exact .stopped reaches (by simp) filtersHub deliversHub
    · dsimp only at *
      unfold lossAndDelay
      by_cases lost : isLost draws passed
      · rw [if_pos lost]
        rw [if_pos (.inl lost)] at reaches
        exact .stopped reaches (by simp) filtersHub deliversHub
      · rw [if_neg lost]
        dsimp only
        by_cases waits : delayAfterJitter draws passed = 0
        · rw [if_pos waits]
          by_cases own : passed.macAddressSrc = cfg.hubMacAddr
          · rw [if_pos (.inr (.inr own))] at reaches
            unfold admitPacket checkTables
            dsimp only
            rw [if_pos own]
            exact .stopped reaches (by simp) filtersHub deliversHub
          · rw [if_neg (by simp [lost, waits, own])] at reaches
            exact admitPacket_stages cfg
              ⟨reaches, marks passed rfl, filtersHub, deliversHub⟩ own
        · rw [if_neg waits]
          rw [if_pos (.inr (.inl waits))] at reaches
          exact .stopped reaches (by simp)
            (filtersHub.then_sameTables cfg
              (sameTables_delayPacket draws source passed filtered))
            (deliversHub.trans (delivers_of_same
              (packetQueue_delayPacket draws source passed filtered) _))

end VirtualHub
end SoftEther
