import SoftEther.Cedar.VirtualHub.StorePacket

/-!
# What the steps leave alone

Most steps of `StorePacket` change sessions only: the tables, the lists and the
packet adapters that exist stay the same.  Queues only grow, and every step says
for whom.
-/

namespace SoftEther
namespace VirtualHub

open AccessList

/-- Nothing but the state of sessions differs, and the same sessions have a
packet adapter. -/
structure SameTables (before after : Hub) : Prop where
  mac : after.macHashTable = before.macHashTable
  ip : after.ipTable = before.ipTable
  flush : after.lastFlushTick = before.lastFlushTick
  sessionList : after.sessionList = before.sessionList
  monitorList : after.monitorList = before.monitorList
  attached : ∀ s, after.isAttached s = before.isAttached s

theorem SameTables.refl (hub : Hub) : SameTables hub hub :=
  ⟨rfl, rfl, rfl, rfl, rfl, fun _ => rfl⟩

theorem SameTables.trans
    {first second third : Hub}
    (left : SameTables first second)
    (right : SameTables second third) :
    SameTables first third where
  mac := right.mac.trans left.mac
  ip := right.ip.trans left.ip
  flush := right.flush.trans left.flush
  sessionList := right.sessionList.trans left.sessionList
  monitorList := right.monitorList.trans left.monitorList
  attached s := (right.attached s).trans (left.attached s)

theorem SameTables.foldl
    {Item : Type}
    {change : Hub → Item → Hub}
    (single : ∀ hub item, SameTables hub (change hub item))
    (items : List Item)
    (hub : Hub) :
    SameTables hub (items.foldl change hub) := by
  induction items generalizing hub with
  | nil => exact .refl hub
  | cons item rest inductionHypothesis =>
      exact (single hub item).trans (inductionHypothesis (change hub item))

theorem sameTables_updateSession
    (hub : Hub)
    (s : SessionId)
    {change : SessionState → SessionState}
    (keeps : ∀ state, (change state).hubPa.isSome = state.hubPa.isSome) :
    SameTables hub (hub.updateSession s change) where
  mac := rfl
  ip := rfl
  flush := rfl
  sessionList := rfl
  monitorList := rfl
  attached t := by
    unfold Hub.isAttached Hub.updateSession
    dsimp only
    by_cases same : t = s
    · subst same
      rw [Function.update_self, keeps]
    · rw [Function.update_of_ne same]

theorem sameTables_updatePa
    (hub : Hub)
    (s : SessionId)
    (change : HubPa → HubPa) :
    SameTables hub (hub.updatePa s change) :=
  sameTables_updateSession hub s fun _ => Option.isSome_map

/-- Every queue keeps its blocks, and the new ones are as `allowed` says. -/
def Delivers
    (allowed : SessionId → Block → Prop)
    (before after : Hub) :
    Prop :=
  ∀ dest, ∃ blocks, after.packetQueue dest = before.packetQueue dest ++ blocks ∧
    ∀ block ∈ blocks, allowed dest block

theorem Delivers.refl (allowed : SessionId → Block → Prop) (hub : Hub) :
    Delivers allowed hub hub :=
  fun _ => ⟨[], (List.append_nil _).symm, fun _ present =>
    absurd present List.not_mem_nil⟩

theorem Delivers.trans
    {allowed : SessionId → Block → Prop}
    {first second third : Hub}
    (left : Delivers allowed first second)
    (right : Delivers allowed second third) :
    Delivers allowed first third := by
  intro dest
  obtain ⟨earlier, firstQueue, firstAllowed⟩ := left dest
  obtain ⟨later, secondQueue, secondAllowed⟩ := right dest
  refine ⟨earlier ++ later, ?_, ?_⟩
  · rw [secondQueue, firstQueue, List.append_assoc]
  · intro block present
    exact (List.mem_append.mp present).elim (firstAllowed block)
      (secondAllowed block)

theorem Delivers.mono
    {allowed weaker : SessionId → Block → Prop}
    {before after : Hub}
    (delivered : Delivers allowed before after)
    (implies : ∀ dest block, allowed dest block → weaker dest block) :
    Delivers weaker before after := by
  intro dest
  obtain ⟨blocks, queue, each⟩ := delivered dest
  exact ⟨blocks, queue, fun block present => implies dest block (each block present)⟩

theorem Delivers.foldl
    {Item : Type}
    {allowed : SessionId → Block → Prop}
    {change : Hub → Item → Hub}
    {items : List Item}
    (single : ∀ item ∈ items, ∀ hub, Delivers allowed hub (change hub item))
    (hub : Hub) :
    Delivers allowed hub (items.foldl change hub) := by
  induction items generalizing hub with
  | nil => exact .refl allowed hub
  | cons item rest inductionHypothesis =>
      exact (single item (by simp) hub).trans
        (inductionHypothesis (fun other present => single other (by simp [present]))
          (change hub item))

theorem delivers_of_same
    {before after : Hub}
    (same : ∀ dest, after.packetQueue dest = before.packetQueue dest)
    (allowed : SessionId → Block → Prop) :
    Delivers allowed before after :=
  fun dest => ⟨[], by rw [same, List.append_nil], fun _ present =>
    absurd present List.not_mem_nil⟩

theorem packetQueue_updateSession
    (hub : Hub)
    (s : SessionId)
    {change : SessionState → SessionState}
    (keeps : ∀ state, (change state).hubPa = state.hubPa)
    (dest : SessionId) :
    (hub.updateSession s change).packetQueue dest = hub.packetQueue dest := by
  unfold Hub.packetQueue Hub.updateSession
  dsimp only
  by_cases same : dest = s
  · subst same
    rw [Function.update_self, keeps]
  · rw [Function.update_of_ne same]

theorem packetQueue_updatePa
    (hub : Hub)
    (s : SessionId)
    {change : HubPa → HubPa}
    (keeps : ∀ pa, (change pa).packetQueue = pa.packetQueue)
    (dest : SessionId) :
    (hub.updatePa s change).packetQueue dest = hub.packetQueue dest := by
  unfold Hub.packetQueue Hub.updatePa Hub.updateSession
  dsimp only
  by_cases same : dest = s
  · subst same
    rw [Function.update_self]
    cases (hub.sessions dest).hubPa with
    | none => rfl
    | some pa => exact keeps pa
  · rw [Function.update_of_ne same]

/-! ## Delivery to a packet adapter -/

variable (cfg : Settings)

theorem sameTables_recordDLinkPacket
    (now : Nat)
    (src : Option SessionId)
    (dest : SessionId)
    (packet : Option Pkt)
    (hub : Hub) :
    SameTables hub (recordDLinkPacket cfg now src dest packet hub) := by
  unfold recordDLinkPacket
  split
  · split
    · exact sameTables_updateSession hub dest fun _ => rfl
    · exact .refl hub
  · exact .refl hub

theorem packetQueue_recordDLinkPacket
    (now : Nat)
    (src : Option SessionId)
    (dest : SessionId)
    (packet : Option Pkt)
    (hub : Hub)
    (other : SessionId) :
    (recordDLinkPacket cfg now src dest packet hub).packetQueue other =
      hub.packetQueue other := by
  unfold recordDLinkPacket
  split
  · split
    · apply packetQueue_updateSession
      intro state
      rfl
    · rfl
  · rfl

theorem sameTables_insertIntoQueue
    (src : Option SessionId)
    (dest : SessionId)
    (data : List UInt8)
    (packet : Option Pkt)
    (isFlooding : Bool)
    (hub : Hub) :
    SameTables hub (insertIntoQueue cfg src dest data packet isFlooding hub) := by
  unfold insertIntoQueue
  split
  · exact .refl hub
  · exact sameTables_updatePa hub dest _

/-- The block is made of the data without the VLAN tag of the destination. -/
def Block.MadeOf
    (src : Option SessionId)
    (dest : SessionId)
    (data : List UInt8)
    (block : Block) :
    Prop :=
  ∃ frame, untagged cfg src dest data = some frame ∧
    block.buf = withAdjustedMss cfg src dest frame

theorem delivers_insertIntoQueue
    (src : Option SessionId)
    (dest : SessionId)
    (data : List UInt8)
    (packet : Option Pkt)
    (isFlooding : Bool)
    (hub : Hub) :
    Delivers
      (fun other block => other = dest ∧ block.packet = packet ∧ block.MadeOf cfg src dest data) hub
      (insertIntoQueue cfg src dest data packet isFlooding hub) := by
  unfold insertIntoQueue
  split
  · exact .refl _ hub
  · rename_i frame found
    intro other
    by_cases same : other = dest
    · subst same
      unfold Hub.packetQueue Hub.updatePa Hub.updateSession
      dsimp only
      rw [Function.update_self]
      cases (hub.sessions other).hubPa with
      | none => exact ⟨[], rfl, by simp⟩
      | some pa =>
          rw [Option.map_some]
          unfold HubPa.store
          dsimp only
          split
          · refine ⟨_, rfl, fun block present => ?_⟩
            rw [List.mem_singleton.mp present]
            exact ⟨rfl, rfl, frame, found, rfl⟩
          · exact ⟨[], (List.append_nil _).symm, by simp⟩
    · refine ⟨[], ?_, by simp⟩
      unfold Hub.packetQueue Hub.updatePa Hub.updateSession
      dsimp only
      rw [Function.update_of_ne same, List.append_nil]

theorem sameTables_storePacketToHubPa
    (now : Nat)
    (dest : SessionId)
    (src : Option SessionId)
    (data : List UInt8)
    (packet : Option Pkt)
    (isFlooding noCheckAcl : Bool)
    (hub : Hub) :
    SameTables hub
      (storePacketToHubPa cfg now dest src data packet isFlooding noCheckAcl
        hub) := by
  have stored (before : Hub) :
      SameTables before (insertIntoQueue cfg src dest data packet isFlooding
        (recordDLinkPacket cfg now src dest packet before)) :=
    (sameTables_recordDLinkPacket cfg now src dest packet before).trans
      (sameTables_insertIntoQueue cfg src dest data packet isFlooding _)
  unfold storePacketToHubPa
  split
  · exact .refl hub
  · split_ifs
    · exact .refl hub
    · exact .refl hub
    · split
      · exact stored hub
      · dsimp only
        split_ifs
        · exact sameTables_updatePa hub dest _
        · exact (sameTables_updatePa hub dest _).trans (stored _)

theorem delivers_madeOf
    (now : Nat)
    (dest : SessionId)
    (src : Option SessionId)
    (data : List UInt8)
    (packet : Option Pkt)
    (isFlooding noCheckAcl : Bool)
    (hub : Hub) :
    Delivers
      (fun other block => other = dest ∧ block.packet = packet ∧ block.MadeOf cfg src dest data) hub
      (storePacketToHubPa cfg now dest src data packet isFlooding noCheckAcl
        hub) := by
  have stored (before : Hub) :
      Delivers (fun other block => other = dest ∧ block.packet = packet ∧
          block.MadeOf cfg src dest data) before
        (insertIntoQueue cfg src dest data packet isFlooding
          (recordDLinkPacket cfg now src dest packet before)) :=
    (delivers_of_same
      (packetQueue_recordDLinkPacket cfg now src dest packet before) _).trans
      (delivers_insertIntoQueue cfg src dest data packet isFlooding _)
  have limited (limiter : TrafficLimiter) :
      Delivers (fun other block => other = dest ∧ block.packet = packet ∧
          block.MadeOf cfg src dest data) hub
        (hub.updatePa dest fun pa => { pa with downloadLimiter := limiter }) := by
    apply delivers_of_same
    apply packetQueue_updatePa
    intro pa
    rfl
  unfold storePacketToHubPa
  split
  · exact .refl _ hub
  · split_ifs
    · exact .refl _ hub
    · exact .refl _ hub
    · split
      · exact stored hub
      · dsimp only
        split_ifs
        · exact limited _
        · exact (limited _).trans (stored _)

theorem delivers_storePacketToHubPa
    (now : Nat)
    (dest : SessionId)
    (src : Option SessionId)
    (data : List UInt8)
    (packet : Option Pkt)
    (isFlooding noCheckAcl : Bool)
    (hub : Hub) :
    Delivers (fun other block => other = dest ∧ block.packet = packet) hub
      (storePacketToHubPa cfg now dest src data packet isFlooding noCheckAcl hub) :=
  (delivers_madeOf cfg now dest src data packet isFlooding noCheckAcl hub).mono
    fun _ _ made => ⟨made.1, made.2.1⟩

/-! ## The ways to the sessions -/

theorem sameTables_checkMaxLoggedPacketsPerMinute
    (now : Nat)
    (s : SessionId)
    (hub : Hub) :
    SameTables hub (checkMaxLoggedPacketsPerMinute cfg now s hub).2 := by
  unfold checkMaxLoggedPacketsPerMinute
  dsimp only
  split
  · exact .refl hub
  · dsimp only
    apply sameTables_updateSession
    intro state
    rfl

theorem packetQueue_checkMaxLoggedPacketsPerMinute
    (now : Nat)
    (s : SessionId)
    (hub : Hub)
    (dest : SessionId) :
    (checkMaxLoggedPacketsPerMinute cfg now s hub).2.packetQueue dest =
      hub.packetQueue dest := by
  unfold checkMaxLoggedPacketsPerMinute
  dsimp only
  split
  · rfl
  · dsimp only
    apply packetQueue_updateSession
    intro state
    rfl

theorem sameTables_packetLog
    (now : Nat)
    (s : Option SessionId)
    (p : Pkt)
    (hub : Hub) :
    SameTables hub (packetLog cfg now s p hub).2 := by
  unfold packetLog
  cases s with
  | none => exact .refl hub
  | some source =>
      dsimp only
      split
      · exact sameTables_checkMaxLoggedPacketsPerMinute cfg now source hub
      · exact .refl hub

theorem packetQueue_packetLog
    (now : Nat)
    (s : Option SessionId)
    (p : Pkt)
    (hub : Hub)
    (dest : SessionId) :
    (packetLog cfg now s p hub).2.packetQueue dest = hub.packetQueue dest := by
  unfold packetLog
  cases s with
  | none => rfl
  | some source =>
      dsimp only
      split
      · exact packetQueue_checkMaxLoggedPacketsPerMinute cfg now source hub dest
      · rfl

theorem sameTables_storeToMonitors
    (now : Nat)
    (s : Option SessionId)
    (packet : Pkt)
    (hub : Hub) :
    SameTables hub (storeToMonitors cfg now s packet hub) :=
  SameTables.foldl
    (fun hub monitor => sameTables_storePacketToHubPa cfg now monitor s
      packet.packetData (some packet) false false hub)
    hub.monitorList hub

theorem delivers_storeToMonitors
    (now : Nat)
    (s : Option SessionId)
    (packet : Pkt)
    (hub : Hub) :
    Delivers
      (fun dest block => dest ∈ hub.monitorList ∧ block.packet = some packet)
      hub (storeToMonitors cfg now s packet hub) := by
  apply Delivers.foldl
  intro monitor listed before
  refine (delivers_storePacketToHubPa cfg now monitor s packet.packetData
    (some packet) false false before).mono ?_
  rintro dest block ⟨rfl, same⟩
  exact ⟨listed, same⟩

theorem sameTables_storeUnicast
    (now : Nat)
    (s : Option SessionId)
    (packet : Pkt)
    (entry : MacTableEntry)
    (hub : Hub) :
    SameTables hub (storeUnicast cfg now s packet entry hub) := by
  unfold storeUnicast
  dsimp only
  split_ifs
  · exact .refl hub
  · have logged := sameTables_packetLog cfg now s
      { packet with
        packetData := dataWithoutDefaultRouter cfg entry.session packet } hub
    generalize packetLog cfg now s _ hub = result at logged ⊢
    rcases result with ⟨_ | _, after⟩
    · exact logged
    · exact logged.trans
        (sameTables_storePacketToHubPa cfg now entry.hubPa s _ _ false false after)

theorem delivers_storeUnicast
    (now : Nat)
    (s : Option SessionId)
    (packet : Pkt)
    (entry : MacTableEntry)
    (hub : Hub) :
    Delivers
      (fun dest block => dest = entry.session ∧
        ∃ data, block.packet = some { packet with packetData := data } ∧
          droppedByDestination cfg s dest packet = false)
      hub (storeUnicast cfg now s packet entry hub) := by
  unfold storeUnicast
  dsimp only
  split_ifs with dropped
  · exact .refl _ hub
  · have logged := packetQueue_packetLog cfg now s
      { packet with
        packetData := dataWithoutDefaultRouter cfg entry.session packet } hub
    generalize packetLog cfg now s _ hub = result at logged ⊢
    rcases result with ⟨_ | _, after⟩
    · exact delivers_of_same logged _
    · refine (delivers_of_same logged _).trans
        ((delivers_storePacketToHubPa cfg now entry.hubPa s _ _ false false
          after).mono ?_)
      rintro dest block ⟨rfl, same⟩
      rw [entry.sameSession]
      exact ⟨rfl, _, same, Bool.eq_false_iff.mpr dropped⟩

theorem sameTables_floodTo
    (draws : Draws)
    (now : Nat)
    (s : Option SessionId)
    (packet : Pkt)
    (hub : Hub)
    (dest : SessionId) :
    SameTables hub (floodTo cfg draws now s packet hub dest) := by
  unfold floodTo
  split_ifs
  · exact .refl hub
  · exact .refl hub
  · exact sameTables_storePacketToHubPa cfg now dest s _ _ true true hub
  · exact .refl hub

theorem delivers_floodTo
    (draws : Draws)
    (now : Nat)
    (s : Option SessionId)
    (packet : Pkt)
    (hub : Hub)
    (dest : SessionId) :
    Delivers
      (fun other block => some other ≠ s ∧ block.packet = some packet ∧
        droppedByDestination cfg s other packet = false)
      hub (floodTo cfg draws now s packet hub dest) := by
  unfold floodTo
  split_ifs with back dropped
  · exact .refl _ hub
  · exact .refl _ hub
  · refine (delivers_storePacketToHubPa cfg now dest s _ (some packet) true true
      hub).mono ?_
    rintro other block ⟨rfl, same⟩
    exact ⟨back, same, Bool.eq_false_iff.mpr fun isDropped =>
      dropped (.inr isDropped)⟩
  · exact .refl _ hub

theorem sameTables_storeBroadcast
    (draws : Draws)
    (now : Nat)
    (s : Option SessionId)
    (packet : Pkt)
    (hub : Hub) :
    SameTables hub (storeBroadcast cfg draws now s packet hub) := by
  unfold storeBroadcast
  have logged := sameTables_packetLog cfg now s packet hub
  generalize packetLog cfg now s packet hub = result at logged ⊢
  rcases result with ⟨_ | _, after⟩
  · exact logged
  · exact logged.trans (SameTables.foldl
      (sameTables_floodTo cfg draws now s packet) after.sessionList after)

theorem delivers_storeBroadcast
    (draws : Draws)
    (now : Nat)
    (s : Option SessionId)
    (packet : Pkt)
    (hub : Hub) :
    Delivers
      (fun dest block => some dest ≠ s ∧ block.packet = some packet ∧
        droppedByDestination cfg s dest packet = false)
      hub (storeBroadcast cfg draws now s packet hub) := by
  unfold storeBroadcast
  have logged := packetQueue_packetLog cfg now s packet hub
  generalize packetLog cfg now s packet hub = result at logged ⊢
  rcases result with ⟨_ | _, after⟩
  · exact delivers_of_same logged _
  · apply (delivers_of_same logged _).trans
    apply Delivers.foldl
    intro dest _ before
    exact delivers_floodTo cfg draws now s packet before dest

theorem sameTables_forwardPacket
    (draws : Draws)
    (now : Nat)
    (s : Option SessionId)
    (packet : Pkt)
    (route : Route)
    (hub : Hub) :
    SameTables hub (forwardPacket cfg draws now s packet route hub) := by
  have copied := sameTables_storeToMonitors cfg now s packet hub
  unfold forwardPacket
  cases route with
  | flood =>
      exact copied.trans (sameTables_storeBroadcast cfg draws now s packet _)
  | unicast entry =>
      exact copied.trans (sameTables_storeUnicast cfg now s packet entry _)

/-- Who may get a packet that goes a way. -/
def MayReceive
    (hub : Hub)
    (s : Option SessionId)
    (packet : Pkt)
    (route : Route)
    (dest : SessionId)
    (block : Block) :
    Prop :=
  ∃ data, block.packet = some { packet with packetData := data } ∧
    (dest ∈ hub.monitorList ∨
      droppedByDestination cfg s dest packet = false ∧
        match route with
        | .flood => some dest ≠ s
        | .unicast entry => dest = entry.session)

theorem delivers_forwardPacket
    (draws : Draws)
    (now : Nat)
    (s : Option SessionId)
    (packet : Pkt)
    (route : Route)
    (hub : Hub) :
    Delivers (MayReceive cfg hub s packet route) hub
      (forwardPacket cfg draws now s packet route hub) := by
  have copied : Delivers (MayReceive cfg hub s packet route) hub
      (storeToMonitors cfg now s packet hub) := by
    apply (delivers_storeToMonitors cfg now s packet hub).mono
    intro dest block given
    exact ⟨packet.packetData, given.2, .inl given.1⟩
  unfold forwardPacket
  cases route with
  | flood =>
      apply copied.trans
      apply (delivers_storeBroadcast cfg draws now s packet _).mono
      rintro dest block ⟨other, same, kept⟩
      exact ⟨packet.packetData, same, .inr ⟨kept, other⟩⟩
  | unicast entry =>
      apply copied.trans
      apply (delivers_storeUnicast cfg now s packet entry _).mono
      rintro dest block ⟨owner, data, same, kept⟩
      exact ⟨data, same, .inr ⟨kept, owner⟩⟩

end VirtualHub
end SoftEther
