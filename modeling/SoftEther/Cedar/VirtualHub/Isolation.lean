import SoftEther.Cedar.VirtualHub.Ownership

/-!
# Who gets a packet

Nobody gets his own packet back, sessions under the privacy filter are kept
apart, and a packet to a known address goes to the session of the address.  The
monitoring ports get every packet that is given out.
-/

namespace SoftEther
namespace VirtualHub

open AccessList
open Library

variable {cfg : Settings}

variable {packet passed : Pkt}

theorem Arrives.notMonitorPort
    {draws : Draws}
    {now : Nat}
    {source : SessionId}
    {hub filtered : Hub}
    (arrives : Arrives cfg draws now source packet passed hub filtered) :
    (cfg.session source).policy.monitorPort = false := by
  have before := arrives.before
  unfold beforeMacTable at before
  split_ifs at before with monitor
  exact Bool.eq_false_iff.mpr monitor

/-- The way of a packet, as the MAC address table gives it. -/
structure Routed
    (hub after : Hub)
    (s : Option SessionId)
    (packet passed : Pkt)
    (route : Route)
    (dest : SessionId)
    (block : Block) :
    Prop where
  sameFrame : packet.SameFrame passed
  found : ∃ learned : Hub,
    learned.macHashTable = after.macHashTable ∧
      findDestination cfg s passed learned = some route
  receives : MayReceive cfg hub s passed route dest block

theorem delivers_storePacket
    (draws : Draws)
    (now : Nat)
    (source : SessionId)
    (packet : Pkt)
    (hub : Hub) :
    Delivers
      (fun dest block => block.packet = none ∨
        (cfg.session source).policy.monitorPort = false ∧
          ∃ passed route, @Routed cfg hub
            (storePacket cfg draws now (some source) packet hub).2 (some source)
            packet passed route dest block)
      hub (storePacket cfg draws now (some source) packet hub).2 := by
  have stages := storePacket_stages cfg draws now source packet hub
  generalize storePacket cfg draws now (some source) packet hub = result
    at stages ⊢
  obtain ⟨verdict, after⟩ := result
  dsimp only at stages ⊢
  have replies {allowed : SessionId → Block → Prop} {filtered : Hub}
      (delivers : Delivers (fun dest block =>
        dest = source ∧ block.packet = none) hub filtered) :
      Delivers (fun dest block => block.packet = none ∨ allowed dest block) hub
        filtered :=
    delivers.mono fun _ _ reply => .inl reply.2
  cases stages with
  | stopped _ _ _ delivers => exact replies delivers
  | @refusedByMac passed filtered arrives _ =>
      exact (replies arrives.delivers).trans (delivers_of_same
        (onlyMacTable_learnMac cfg now source passed filtered).queue _)
  | @refusedByIp passed filtered _ arrives _ _ _ =>
      exact ((replies arrives.delivers).trans (delivers_of_same
        (onlyMacTable_learnMac cfg now source passed filtered).queue _)).trans
        (delivers_of_same (onlyIpTable_checkIpTable cfg now source passed _).queue
          _)
  | @storm passed filtered _ _ arrives _ _ _ _ queue =>
      exact (((replies arrives.delivers).trans (delivers_of_same
        (onlyMacTable_learnMac cfg now source passed filtered).queue _)).trans
        (delivers_of_same (onlyIpTable_checkIpTable cfg now source passed _).queue
          _)).trans (delivers_of_same queue _)
  | @forwarded passed filtered ready route arrives _ found _ _ same queue =>
      have learned := onlyMacTable_learnMac cfg now source passed filtered
      have checked := onlyIpTable_checkIpTable cfg now source passed
        (learnMac cfg now source passed filtered).2
      have given := sameTables_forwardPacket cfg draws now (some source) passed
        route ready
      have monitors : ready.monitorList = hub.monitorList := by
        rw [same.monitorList, checked.monitorList, learned.monitorList,
          arrives.filters.monitorList]
      apply ((((replies arrives.delivers).trans
        (delivers_of_same learned.queue _)).trans
        (delivers_of_same checked.queue _)).trans
        (delivers_of_same queue _)).trans
      apply (delivers_forwardPacket cfg draws now (some source) passed route
        ready).mono
      intro dest block receives
      refine .inr ⟨arrives.notMonitorPort, passed, route, arrives.sameFrame,
        ⟨(learnMac cfg now source passed filtered).2, ?_, found⟩, ?_⟩
      · rw [given.mac, same.mac, checked.mac]
      · unfold MayReceive at receives ⊢
        rw [← monitors]
        exact receives

theorem findDestination_ne_source
    {s : Option SessionId}
    {packet : Pkt}
    {hub : Hub}
    {entry : MacTableEntry}
    (found : findDestination cfg s packet hub = some (.unicast entry)) :
    some entry.session ≠ s := by
  unfold findDestination at found
  split_ifs at found
  · injection found with absurdity
    exact nomatch absurdity
  · split at found
    · injection found with absurdity
      exact nomatch absurdity
    · split_ifs at found with own
      injection found with same
      injection same with same
      rw [← same]
      exact own

theorem Routed.ne_source
    {hub after : Hub}
    {source dest : SessionId}
    {route : Route}
    {block : Block}
    (routed : @Routed cfg hub after (some source) packet passed route dest block)
    (formed : WellFormed cfg hub)
    (notMonitorPort : (cfg.session source).policy.monitorPort = false) :
    dest ≠ source := by
  intro same
  obtain ⟨data, _, monitor | ⟨_, way⟩⟩ := routed.receives
  · have port := formed.monitors dest monitor
    rw [same, notMonitorPort] at port
    exact Bool.false_ne_true port
  · cases route with
    | flood => exact way (congrArg some same)
    | unicast entry =>
        obtain ⟨learned, _, found⟩ := routed.found
        apply findDestination_ne_source found
        rw [← way, same]

theorem privacyFilter_of_droppedByDestination
    {source dest : SessionId}
    {p : Pkt}
    (kept : droppedByDestination cfg (some source) dest p = false)
    (sourcePrivate : (cfg.session source).policy.privacyFilter = true)
    (destPrivate : (cfg.session dest).policy.privacyFilter = true) :
    (p.broadcastPacket = true ∧
        cfg.option.dropBroadcastsInPrivacyFilterMode = false) ∨
      (p.isArpPacket = true ∧ cfg.option.dropArpInPrivacyFilterMode = false) := by
  have passes : droppedByPrivacyFilter cfg source dest p = false := by
    apply Bool.eq_false_iff.mpr
    intro dropped
    apply Bool.eq_false_iff.mp kept
    unfold droppedByDestination droppedBetween
    simp [dropped]
  unfold droppedByPrivacyFilter at passes
  cases broadcasts : cfg.option.dropBroadcastsInPrivacyFilterMode <;>
    cases broadcast : p.broadcastPacket <;>
    cases arps : cfg.option.dropArpInPrivacyFilterMode <;>
    cases arp : p.isArpPacket <;>
    simp_all

/-- A packet is never queued to its source.  Between two sessions under the
privacy filter, of which the destination is not a monitoring port, only ARP and
broadcasts pass, each as long as the option of the hub does not drop it. -/
theorem storePacket_isolates
    {now : Nat}
    {sys : System}
    (reached : Reaches (step cfg) (fun _ _ => True) ⟨newHub, now⟩ sys)
    (draws : Draws)
    (source : SessionId)
    (packet : Pkt) :
    Delivers
      (fun dest block => ∀ queued, block.packet = some queued →
        dest ≠ source ∧
        ((cfg.session source).policy.privacyFilter = true →
          (cfg.session dest).policy.privacyFilter = true →
          (cfg.session dest).policy.monitorPort = false →
          (packet.broadcastPacket = true ∧
              cfg.option.dropBroadcastsInPrivacyFilterMode = false) ∨
            (packet.isArpPacket = true ∧
              cfg.option.dropArpInPrivacyFilterMode = false)))
      sys.hub (storePacket cfg draws sys.now (some source) packet sys.hub).2 := by
  have formed := wellFormed_of_reaches reached
  apply (delivers_storePacket draws sys.now source packet sys.hub).mono
  intro dest block given queued carries
  obtain reply | ⟨notMonitorPort, passed, route, routed⟩ := given
  · rw [reply] at carries
    exact nomatch carries
  refine ⟨routed.ne_source formed notMonitorPort, ?_⟩
  intro sourcePrivate destPrivate notMonitor
  obtain ⟨checked, delay, jitter, loss, rfl⟩ := routed.sameFrame
  obtain ⟨data, _, monitor | ⟨kept, _⟩⟩ := routed.receives
  · rw [formed.monitors dest monitor] at notMonitor
    exact absurd notMonitor (by decide)
  · exact privacyFilter_of_droppedByDestination kept sourcePrivate destPrivate

def privateSettings : Settings where
  hubMacAddr := ⟨[0, 174, 0, 0, 0, 1], rfl⟩
  acl := { accessList := [] }
  session := fun _ => { policy := { privacyFilter := true } }
  userListContains := fun _ _ _ => false
  isOnPrivateIPFile := fun _ => false
  hash := fun data => data
  adjustTcpMssL2 := fun data _ _ => data
  withoutDefaultRouter := fun data => data
  redirectReply := fun _ _ => []

/-- A client that no access list entry knows. -/
def someClient : AccessList.Session where
  usernameHash := 1
  groupnameHash := 0
  normalClient := true

/-- The address with one byte given. -/
def exampleMac (last : UInt8) : MacAddress :=
  ⟨[2, 0, 0, 0, 0, last], rfl⟩

/-- A frame that is neither IP nor ARP. -/
def exampleFrame (source dest : MacAddress) (broadcast : Bool) : Pkt where
  macAddressSrc := source
  macAddressDest := dest
  macProtocol := 34997
  l3 := .unknown
  l4 := .unknown
  payload := []
  packetData := dest.val ++ source.val ++ [136, 181, 1]
  broadcastPacket := broadcast

def twoSessions : List Event :=
  [.addSession 1 someClient, .hubPaInit 1, .addSession 2 someClient,
    .hubPaInit 2]

/-- A broadcast frame of the first session. -/
def broadcastFrame : Pkt :=
  exampleFrame (exampleMac 1) ⟨[255, 255, 255, 255, 255, 255], rfl⟩ true

set_option maxRecDepth 10000 in
/-- A broadcast that is not ARP goes from one session under the privacy filter
to another. -/
theorem broadcast_passesPrivacyFilter :
    broadcastFrame.isArpPacket = false ∧
    (privateSettings.session 1).policy.privacyFilter = true ∧
    (privateSettings.session 2).policy.privacyFilter = true ∧
    (run (step privateSettings)
        (twoSessions ++ [.storePacket {} (some 1) broadcastFrame])
        ⟨newHub, 1000⟩).map (fun sys => sys.hub.packetQueue 2) =
      some
        [{ buf := broadcastFrame.packetData
           isFlooding := true
           packet := some broadcastFrame }] :=
  ⟨rfl, rfl, rfl, rfl⟩

def twoSessionsHub : System :=
  (run (step privateSettings) twoSessions ⟨newHub, 1000⟩).getD ⟨newHub, 1000⟩

set_option maxRecDepth 10000 in
/-- The isolation of two sessions that have come to a hub. -/
theorem twoSessionsHub_isolates :
    Delivers
      (fun dest block => ∀ queued, block.packet = some queued →
        dest ≠ 1 ∧
        ((privateSettings.session 1).policy.privacyFilter = true →
          (privateSettings.session dest).policy.privacyFilter = true →
          (privateSettings.session dest).policy.monitorPort = false →
          (broadcastFrame.broadcastPacket = true ∧
              privateSettings.option.dropBroadcastsInPrivacyFilterMode = false) ∨
            (broadcastFrame.isArpPacket = true ∧
              privateSettings.option.dropArpInPrivacyFilterMode = false)))
      twoSessionsHub.hub
      (storePacket privateSettings {} twoSessionsHub.now (some 1) broadcastFrame
        twoSessionsHub.hub).2 :=
  storePacket_isolates
    (Reaches.of_run (show run (step privateSettings) twoSessions ⟨newHub, 1000⟩ =
      some twoSessionsHub from rfl)) {} 1 broadcastFrame

theorem delivers_storePacket_none
    (draws : Draws)
    (now : Nat)
    (packet : Pkt)
    (hub : Hub) :
    Delivers
      (fun dest block => ∃ route, @Routed cfg hub
        (storePacket cfg draws now none packet hub).2 none packet packet route
        dest block)
      hub (storePacket cfg draws now none packet hub).2 := by
  have same : (storePacket cfg draws now none packet hub).2.macHashTable =
      hub.macHashTable := (sameTables_storePacket_none draws now packet hub).mac
  have foreign : ¬isFromMonitorPort cfg none = true := Bool.false_ne_true
  unfold storePacket applyStoreFilter noteSender lossAndDelay admitPacket
    at same ⊢
  rw [if_neg foreign] at same ⊢
  dsimp only at same ⊢
  split at same
  · rename_i lost
    rw [if_pos lost]
    exact .refl _ hub
  · rename_i kept
    rw [if_neg kept]
    cases found : findDestination cfg none packet hub with
    | none => exact .refl _ hub
    | some route =>
        rw [found] at same
        dsimp only at same ⊢
        apply (delivers_forwardPacket cfg draws now none packet route hub).mono
        intro dest block receives
        exact ⟨route, .refl packet, ⟨hub, same.symm, found⟩, receives⟩

theorem Routed.owner
    {hub after : Hub}
    {s : Option SessionId}
    {route : Route}
    {dest : SessionId}
    {block : Block}
    {entry : MacTableEntry}
    (routed : @Routed cfg hub after s packet passed route dest block)
    (unicast : packet.broadcastPacket = false)
    (known : after.macHashTable.search
      (macKey cfg packet.macAddressDest packet) = some entry) :
    dest = entry.session ∨ dest ∈ hub.monitorList := by
  obtain ⟨checked, delay, jitter, loss, rfl⟩ := routed.sameFrame
  obtain ⟨learned, same, found⟩ := routed.found
  obtain ⟨data, _, monitor | ⟨_, way⟩⟩ := routed.receives
  · exact .inr monitor
  · unfold findDestination at found
    rw [same] at found
    have lookup : after.macHashTable.search (macKey cfg packet.macAddressDest
        { packet with
          accessChecked := checked
          delay := delay
          jitter := jitter
          loss := loss }) = some entry := known
    dsimp only at found
    rw [lookup, if_neg (by rw [unicast]; exact Bool.false_ne_true)] at found
    dsimp only at found
    split_ifs at found
    injection found with same
    rw [← same] at way
    exact .inl way

/-- In every reachable hub the tables have one entry for an address, their
entries belong to sessions with a packet adapter, and a packet to a registered
address is queued to the owner of the entry and to the monitoring ports only. -/
theorem hub_owners
    {now : Nat}
    {sys : System}
    (reached : Reaches (step cfg) (fun _ _ => True) ⟨newHub, now⟩ sys) :
    UniqueKeys MacTableEntry.key sys.hub.macHashTable.toArray ∧
    (∀ e ∈ sys.hub.macHashTable.toArray, sys.hub.isAttached e.session = true) ∧
    (∀ e ∈ sys.hub.ipTable.items, sys.hub.isAttached e.session = true) ∧
    ∀ draws s packet entry,
      packet.broadcastPacket = false →
      (storePacket cfg draws sys.now s packet sys.hub).2.macHashTable.search
        (macKey cfg packet.macAddressDest packet) = some entry →
      Delivers
        (fun dest block => ∀ queued, block.packet = some queued →
          dest = entry.session ∨ dest ∈ sys.hub.monitorList)
        sys.hub (storePacket cfg draws sys.now s packet sys.hub).2 := by
  have formed := wellFormed_of_reaches reached
  refine ⟨formed.uniqueMac, formed.macOwners, formed.ipOwners, ?_⟩
  intro draws s packet entry unicast known
  cases s with
  | none =>
      apply (delivers_storePacket_none draws sys.now packet sys.hub).mono
      rintro dest block ⟨route, routed⟩ queued carries
      exact routed.owner unicast known
  | some source =>
      apply (delivers_storePacket draws sys.now source packet sys.hub).mono
      intro dest block given queued carries
      obtain reply | ⟨_, passed, route, routed⟩ := given
      · rw [reply] at carries
        exact nomatch carries
      · exact routed.owner unicast known

def monitoredSettings : Settings :=
  { privateSettings with
    session := fun s => { policy := { monitorPort := decide (s = 3) } } }

/-- Two sessions show their addresses beside a monitoring port. -/
def monitoredSessions : List Event :=
  twoSessions ++
    [.addSession 3 someClient, .hubPaInit 3,
      .storePacket {} (some 2) (exampleFrame (exampleMac 2) (exampleMac 9) false),
      .hubPaGetNextPacket 3, .hubPaGetNextPacket 3]

/-- A frame from the first session to the second. -/
def unicastFrame : Pkt :=
  exampleFrame (exampleMac 1) (exampleMac 2) false

set_option maxRecDepth 10000 in
/-- A frame to a registered address is queued to the monitoring port, which does
not own the address. -/
theorem unicast_reachesMonitor :
    (run (step monitoredSettings)
        (monitoredSessions ++ [.storePacket {} (some 1) unicastFrame])
        ⟨newHub, 1000⟩).map (fun sys =>
          ((sys.hub.macHashTable.search (exampleMac 2, 0)).map
              MacTableEntry.session,
            sys.hub.packetQueue 3)) =
      some
        (some 2,
          [{ buf := unicastFrame.packetData
             isFlooding := false
             packet := some unicastFrame }]) :=
  rfl

def monitoredHub : System :=
  (run (step monitoredSettings) monitoredSessions ⟨newHub, 1000⟩).getD
    ⟨newHub, 1000⟩

set_option maxRecDepth 10000 in
/-- The owners in the hub with a monitoring port. -/
theorem monitoredHub_owners :
    UniqueKeys MacTableEntry.key monitoredHub.hub.macHashTable.toArray ∧
    (∀ e ∈ monitoredHub.hub.macHashTable.toArray,
      monitoredHub.hub.isAttached e.session = true) ∧
    (∀ e ∈ monitoredHub.hub.ipTable.items,
      monitoredHub.hub.isAttached e.session = true) ∧
    ∀ draws s packet entry,
      packet.broadcastPacket = false →
      (storePacket monitoredSettings draws monitoredHub.now s packet
          monitoredHub.hub).2.macHashTable.search
        (macKey monitoredSettings packet.macAddressDest packet) = some entry →
      Delivers
        (fun dest block => ∀ queued, block.packet = some queued →
          dest = entry.session ∨ dest ∈ monitoredHub.hub.monitorList)
        monitoredHub.hub
        (storePacket monitoredSettings draws monitoredHub.now s packet
          monitoredHub.hub).2 :=
  hub_owners
    (Reaches.of_run (show run (step monitoredSettings) monitoredSessions
      ⟨newHub, 1000⟩ = some monitoredHub from rfl))

end VirtualHub
end SoftEther
