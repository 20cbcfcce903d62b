import SoftEther.Cedar.InProc.Sending

/-!
# Runs of the in-process client

The next hop of a packet goes by the parameters that were set last, and by the routes of the
last parameters that had a route at all.
-/

namespace SoftEther
namespace InProc

open Library Network TcpIp

/-! ## Next hops -/

/-- The IPv4 parameters that a call has set. -/
structure Parameters where
  clientIP : Ip := uintToIP 0
  subnet : Ip := uintToIP 0
  gateway : Ip := uintToIP 0

def Event.parameters : Event → Option Parameters
  | .setIPv4Parameters ip subnet gw _ =>
      some { clientIP := ip, subnet := subnet, gateway := gw.getD (uintToIP 0) }
  | _ => none

def Event.routes : Event → Option DhcpClasslessRouteTable
  | .setIPv4Parameters _ _ _ rt => some (rt.getD {})
  | _ => none

def Event.givenRoutes : Event → Option DhcpClasslessRouteTable
  | .setIPv4Parameters _ _ _ (some rt) => if 1 ≤ rt.numExistingRoutes then some rt else none
  | _ => none

/-- The parameters set last; the latest event comes first. -/
def lastParameters (events : List Event) : Parameters :=
  (events.findSome? Event.parameters).getD {}

def lastRoutes (events : List Event) : DhcpClasslessRouteTable :=
  (events.findSome? Event.routes).getD {}

/-- The routes of the last parameters that had at least one. -/
def lastGivenRoutes (events : List Event) : DhcpClasslessRouteTable :=
  (events.findSome? Event.givenRoutes).getD {}

/-- A route of the table leads to the destination. -/
structure Leads (t : DhcpClasslessRouteTable) (ip : Ip) (e : DhcpClasslessRoute) : Prop where
  counted : t.numExistingRoutes ≠ 0
  listed : e ∈ t.entries
  exists_ : e.exists_ = true
  covers : isInSameNetwork4 ip e.network e.subnetMask = true

/-- The next hop of a destination: itself in the subnet, else the gateway of a route with the
longest mask, else the default gateway. -/
inductive NextHop (p : Parameters) (routes : DhcpClasslessRouteTable) (ip : Ip) : Ip → Prop
  | inside :
      isInSameNetwork4 ip p.clientIP p.subnet = true → NextHop p routes ip ip
  | route {e : DhcpClasslessRoute} :
      isInSameNetwork4 ip p.clientIP p.subnet = false → Leads routes ip e →
        (∀ other, Leads routes ip other → other.subnetMaskLen ≤ e.subnetMaskLen) →
          NextHop p routes ip e.gateway
  | gateway :
      isInSameNetwork4 ip p.clientIP p.subnet = false → (∀ e, ¬Leads routes ip e) →
        NextHop p routes ip p.gateway

/-- What the loop keeps: the longest mask so far, and the route with it. -/
structure BestSoFar
    (ip : Ip)
    (before : List DhcpClasslessRoute)
    (best : UInt32 × Option DhcpClasslessRoute) : Prop where
  found : ∀ e, best.2 = some e → e ∈ before ∧ e.exists_ = true ∧
    isInSameNetwork4 ip e.network e.subnetMask = true ∧ e.subnetMaskLen = best.1
  longest : ∀ e ∈ before, e.exists_ = true →
    isInSameNetwork4 ip e.network e.subnetMask = true → e.subnetMaskLen ≤ best.1 ∧ best.2.isSome

theorem BestSoFar.next
    {ip : Ip}
    {before : List DhcpClasslessRoute}
    {best : UInt32 × Option DhcpClasslessRoute}
    (sofar : BestSoFar ip before best)
    (start : best.2 = none → best.1 = 0)
    (e : DhcpClasslessRoute) :
    BestSoFar ip (before ++ [e]) (bestClasslessRouteLoop ip best e) ∧
      ((bestClasslessRouteLoop ip best e).2 = none →
        (bestClasslessRouteLoop ip best e).1 = 0) := by
  have keeps : (e.exists_ = true → isInSameNetwork4 ip e.network e.subnetMask = true →
      e.subnetMaskLen ≤ best.1 ∧ best.2.isSome) → BestSoFar ip (before ++ [e]) best := by
    intro covered
    constructor
    · intro other same
      obtain ⟨listed, rest⟩ := sofar.found other same
      exact ⟨List.mem_append_left _ listed, rest⟩
    · intro other listed exists_ covers
      obtain old | new := List.mem_append.mp listed
      · exact sofar.longest other old exists_ covers
      · obtain rfl := List.mem_singleton.mp new
        exact covered exists_ covers
  unfold bestClasslessRouteLoop
  split
  case isFalse absent => exact ⟨keeps fun exists_ => absurd exists_ absent, start⟩
  case isTrue exists_ =>
    split
    case isFalse outside => exact ⟨keeps fun _ covers => absurd covers outside, start⟩
    case isTrue covers =>
      split
      case isTrue longer =>
        refine ⟨⟨?_, ?_⟩, nofun⟩
        · rintro other ⟨⟩
          exact ⟨List.mem_append_right _ (List.mem_singleton_self _), exists_, covers, rfl⟩
        · intro other listed otherExists otherCovers
          refine ⟨?_, rfl⟩
          obtain old | new := List.mem_append.mp listed
          · exact UInt32.le_trans (sofar.longest other old otherExists otherCovers).1 longer
          · obtain rfl := List.mem_singleton.mp new
            exact UInt32.le_refl _
      case isFalse shorter =>
        have below : e.subnetMaskLen ≤ best.1 := UInt32.le_of_lt (UInt32.not_le.mp shorter)
        refine ⟨keeps fun _ _ => ⟨below, ?_⟩, start⟩
        cases known : best.2 with
        | some other => rfl
        | none => exact absurd (start known ▸ UInt32.zero_le) shorter

theorem BestSoFar.foldl
    {ip : Ip}
    {before : List DhcpClasslessRoute}
    {best : UInt32 × Option DhcpClasslessRoute}
    (sofar : BestSoFar ip before best)
    (start : best.2 = none → best.1 = 0)
    (rest : List DhcpClasslessRoute) :
    BestSoFar ip (before ++ rest) (rest.foldl (bestClasslessRouteLoop ip) best) := by
  induction rest generalizing before best with
  | nil => simpa using sofar
  | cons e rest inductionHypothesis =>
      obtain ⟨next, started⟩ := sofar.next start e
      have all := inductionHypothesis next started
      rwa [List.append_assoc, List.singleton_append] at all

theorem getBestClasslessRoute_best
    (t : DhcpClasslessRouteTable)
    (ip : Ip) :
    (∀ e, getBestClasslessRoute t ip = some e →
        Leads t ip e ∧ ∀ other, Leads t ip other → other.subnetMaskLen ≤ e.subnetMaskLen) ∧
      (getBestClasslessRoute t ip = none → ∀ e, ¬Leads t ip e) := by
  unfold getBestClasslessRoute
  by_cases empty : t.numExistingRoutes = 0
  · rw [if_pos empty]
    exact ⟨nofun, fun _ e leads => leads.counted empty⟩
  · rw [if_neg empty]
    have nothing : BestSoFar ip [] (0, none) := ⟨nofun, by simp⟩
    have best := nothing.foldl (fun _ => rfl) t.entries
    rw [List.nil_append] at best
    constructor
    · intro e found
      obtain ⟨listed, exists_, covers, same⟩ := best.found e found
      refine ⟨⟨empty, listed, exists_, covers⟩, fun other leads => ?_⟩
      rw [same]
      exact (best.longest other leads.listed leads.exists_ leads.covers).1
    · intro found e leads
      have some_ := (best.longest e leads.listed leads.exists_ leads.covers).2
      rw [found] at some_
      exact absurd some_ (by decide)

/-! ## Runs -/

/-- The settings of the IPC are those of the last calls. -/
structure Settled (ipc : Ipc) (events : List Event) : Prop where
  clientIP : ipc.clientIPAddress = (lastParameters events).clientIP
  subnet : ipc.subnetMask = (lastParameters events).subnet
  gateway : ipc.defaultGateway = (lastParameters events).gateway
  routes : ipc.classlessRoute = lastGivenRoutes events

theorem step_sameSettings
    (ipc : Ipc)
    {event : Event}
    (other : event.parameters = none) :
    SameSettings ipc (step ipc event) := by
  cases event with
  | setIPv4Parameters ip subnet gw rt => exact nomatch other
  | sendIPv4 now data =>
      unfold step ipcSendIPv4
      dsimp only
      cases routeOf ipc data with
      | nowhere => exact .refl ipc
      | broadcast => exact ipcSendIPv4WithDestMacAddr_sameSettings ipc data _
      | unicast nextIP =>
          dsimp only
          unfold ipcSendIPv4Unicast
          split
          case isTrue => exact .refl ipc
          case isFalse =>
            cases ipcSearchArpTable ipc nextIP with
            | none => exact ⟨_, _, _, rfl⟩
            | some a =>
                dsimp only
                split
                case isTrue =>
                  have used : SameSettings ipc
                      { ipc with
                        arpTable := ipc.arpTable.write a (a.use now) (a.key_use now) } :=
                    ⟨_, _, _, rfl⟩
                  exact used.trans (ipcSendIPv4WithDestMacAddr_sameSettings _ data _)
                case isFalse => exact ⟨_, _, _, rfl⟩
  | processL3Events now received =>
      have flushed : SameSettings ipc (ipcFlushArpTableEx ipc now) := ⟨_, _, _, rfl⟩
      exact flushed.trans (foldl_sameSettings
        (fun ipc b => processFrame_sameSettings ipc b.now b.frame) received _)
  | flushArpTable now => exact ⟨_, _, _, rfl⟩

theorem Settled.of_sameSettings
    {before after : Ipc}
    {events later : List Event}
    {macAddress : MacAddress}
    (settled : Settled before events)
    (mac : before.macAddress = macAddress)
    (same : SameSettings before after)
    (parameters : lastParameters later = lastParameters events)
    (routes : lastGivenRoutes later = lastGivenRoutes events) :
    Settled after later ∧ after.macAddress = macAddress := by
  obtain ⟨_, _, _, rfl⟩ := same
  refine ⟨⟨?_, ?_, ?_, ?_⟩, mac⟩
  · rw [parameters]
    exact settled.clientIP
  · rw [parameters]
    exact settled.subnet
  · rw [parameters]
    exact settled.gateway
  · rw [routes]
    exact settled.routes

/-- The settings follow the calls. -/
theorem settled_after
    (macAddress : MacAddress)
    (events : List Event) :
    Settled (ipcAfter macAddress events) events ∧
      (ipcAfter macAddress events).macAddress = macAddress := by
  induction events with
  | nil => exact ⟨⟨rfl, rfl, rfl, rfl⟩, rfl⟩
  | cons event earlier inductionHypothesis =>
      obtain ⟨settled, mac⟩ := inductionHypothesis
      cases event with
      | setIPv4Parameters ip subnet gw rt =>
          cases rt with
          | none => exact ⟨⟨rfl, rfl, rfl, settled.routes⟩, mac⟩
          | some rt =>
              unfold ipcAfter step ipcSetIPv4Parameters
              dsimp only
              have given : lastGivenRoutes (.setIPv4Parameters ip subnet gw (some rt) :: earlier) =
                  if 1 ≤ rt.numExistingRoutes then rt else lastGivenRoutes earlier := by
                unfold lastGivenRoutes
                rw [List.findSome?_cons, Event.givenRoutes]
                by_cases routes : 1 ≤ rt.numExistingRoutes
                · simp [routes]
                · simp [routes]
              split
              case isTrue routes =>
                rw [if_pos routes] at given
                exact ⟨⟨rfl, rfl, rfl, given.symm⟩, mac⟩
              case isFalse routes =>
                rw [if_neg routes] at given
                exact ⟨⟨rfl, rfl, rfl, settled.routes.trans given.symm⟩, mac⟩
      | sendIPv4 now data =>
          have other : Event.parameters (.sendIPv4 now data) = none := rfl
          exact settled.of_sameSettings mac (step_sameSettings _ other) rfl rfl
      | processL3Events now received =>
          have other : Event.parameters (.processL3Events now received) = none := rfl
          exact settled.of_sameSettings mac (step_sameSettings _ other) rfl rfl
      | flushArpTable now => exact settled.of_sameSettings mac ⟨_, _, _, rfl⟩ rfl rfl

theorem nextHop_ipDstLocal
    {ipc : Ipc}
    {events : List Event}
    (settled : Settled ipc events)
    (ipDst : Ip) :
    NextHop (lastParameters events) (lastGivenRoutes events) ipDst (ipDstLocal ipc ipDst) := by
  unfold ipDstLocal
  rw [settled.clientIP, settled.subnet, settled.routes, settled.gateway]
  obtain ⟨best, none_⟩ := getBestClasslessRoute_best (lastGivenRoutes events) ipDst
  split
  case isTrue outside =>
    cases chosen : getBestClasslessRoute (lastGivenRoutes events) ipDst with
    | none => exact .gateway outside (none_ chosen)
    | some e => exact .route outside (best e chosen).1 (best e chosen).2
  case isFalse inside => exact .inside (Bool.eq_true_of_not_eq_false inside)

theorem routeOf_unicast
    {ipc : Ipc}
    {data : List UInt8}
    {nextIP : Ip}
    (routed : routeOf ipc data = .unicast nextIP) :
    cmpIpAddr (uintToIP (uintAt data 12)) ipc.clientIPAddress = .eq ∧
      nextIP = ipDstLocal ipc (uintToIP (uintAt data 16)) := by
  unfold routeOf at routed
  dsimp only at routed
  split at routed
  case isTrue => exact nomatch routed
  case isFalse =>
    split at routed
    case isTrue => exact nomatch routed
    case isFalse =>
      split at routed
      case isTrue => exact nomatch routed
      case isFalse own =>
        refine ⟨not_not.mp own, ?_⟩
        split at routed
        case isTrue => exact nomatch routed
        case isFalse =>
          split at routed
          case isTrue => exact nomatch routed
          case isFalse =>
            split at routed
            case isTrue => exact nomatch routed
            case isFalse =>
              split at routed
              case isTrue => exact nomatch routed
              case isFalse =>
                injection routed with same
                exact same.symm

/-- What the IPC sends in a run, with the routes that are in force after some events: the
unicast IPv4 frames are the deliveries of the table of next hops, each goes to the MAC address
learnt last for its next hop, the packets for a next hop go out in order and at most once, a
packet that is accepted has the address of the client and a next hop by the parameters in force,
and the ARP table has one entry for an address. -/
structure SendsByNextHop
    (routesInForce : List Event → DhcpClasslessRouteTable)
    (macAddress : MacAddress)
    (events : List Event) : Prop where
  frames : (ipcAfter macAddress events).sendTube.filter isUnicastIPv4 =
    framesOf macAddress (recordAfter macAddress events).history
  addressed : Addressed (recordAfter macAddress events).history
  inOrder : InOrder (recordAfter macAddress events).history
  accepted : ∀ later event earlier, events = later ++ event :: earlier → ∀ hop packet,
    .accept hop packet ∈ inputs (ipcAfter macAddress earlier) event →
      (∃ now, event = .sendIPv4 now packet) ∧
        cmpIpAddr (uintToIP (uintAt packet 12)) (lastParameters earlier).clientIP = .eq ∧
        ∃ nextIP, hop = addressPart nextIP ∧
          NextHop (lastParameters earlier) (routesInForce earlier) (uintToIP (uintAt packet 16))
            nextIP
  unique : UniqueKeys IpcArp.key (ipcAfter macAddress events).arpTable.items

theorem sound_recordAfter
    (macAddress : MacAddress)
    (events : List Event) :
    (recordAfter macAddress events).Sound := by
  induction events with
  | nil => exact .initial
  | cons event earlier inductionHypothesis => exact inductionHypothesis.handleAll _ _

theorem sendIPv4_of_accept
    {ipc : Ipc}
    {event : Event}
    {hop : ByteArrayOf 20}
    {packet : List UInt8}
    (accepts : .accept hop packet ∈ inputs ipc event) :
    ∃ now, event = .sendIPv4 now packet ∧
      ∃ nextIP, hop = addressPart nextIP ∧ routeOf ipc packet = .unicast nextIP := by
  have learns : ∀ {ip macAddress}, .accept hop packet ∉ learnInputs ipc ip macAddress := by
    intro ip macAddress listed
    unfold learnInputs at listed
    split at listed <;> simp at listed
  have forgets : ∀ {now}, .accept hop packet ∉ forgetInputs ipc now := by
    intro now listed
    obtain ⟨_, _, same⟩ := List.mem_map.mp listed
    exact nomatch same
  have frames : ∀ {b}, .accept hop packet ∉ frameInputs ipc b := by
    intro b listed
    unfold frameInputs at listed
    split at listed
    case isTrue => exact nomatch listed
    case isFalse =>
      split at listed
      case isTrue =>
        unfold arpInputs at listed
        split at listed
        case isTrue => exact nomatch listed
        case isFalse => exact (List.mem_append.mp listed).elim learns learns
      case isFalse =>
        split at listed
        case isTrue =>
          unfold ipv4Inputs at listed
          split at listed
          case isTrue => exact nomatch listed
          case isFalse =>
            split at listed
            case isTrue => exact learns listed
            case isFalse => exact nomatch listed
        case isFalse => exact nomatch listed
  cases event with
  | setIPv4Parameters ip subnet gw rt => exact nomatch accepts
  | flushArpTable now => exact absurd accepts forgets
  | processL3Events now received =>
      obtain old | new := List.mem_append.mp accepts
      · exact absurd old forgets
      · obtain ⟨b, _, inside⟩ := List.mem_flatMap.mp new
        exact absurd inside frames
  | sendIPv4 now data =>
      change _ ∈ acceptInputs ipc data at accepts
      unfold acceptInputs at accepts
      cases routed : routeOf ipc data with
      | nowhere =>
          rw [routed] at accepts
          exact nomatch accepts
      | broadcast =>
          rw [routed] at accepts
          exact nomatch accepts
      | unicast nextIP =>
          rw [routed] at accepts
          have same := List.mem_singleton.mp accepts
          injection same with hops packets
          subst hops packets
          exact ⟨now, rfl, nextIP, rfl, routed⟩

/-- Every run sends by the next hops that the last routes given make. -/
theorem sendsByNextHop
    (macAddress : MacAddress)
    (events : List Event) :
    SendsByNextHop lastGivenRoutes macAddress events := by
  have refines := refines_after macAddress events
  have sound := sound_recordAfter macAddress events
  refine
    { frames := ?_
      addressed := sound.addressed
      inOrder := sound.inOrder
      accepted := ?_
      unique := refines.unique }
  · rw [refines.frames, (settled_after macAddress events).2]
  · rintro later event earlier rfl hop packet accepts
    obtain ⟨now, rfl, nextIP, rfl, routed⟩ := sendIPv4_of_accept accepts
    have settled := (settled_after macAddress earlier).1
    obtain ⟨own, rfl⟩ := routeOf_unicast routed
    refine ⟨⟨now, rfl⟩, ?_, _, rfl, nextHop_ipDstLocal settled _⟩
    rw [← settled.clientIP]
    exact own

/-- An IPv4 address. -/
def ip4 (a b c d : UInt8) : Ip where
  addr := ⟨[a, b, c, d], length_bytes4 a b c d⟩

def oneRoute : DhcpClasslessRouteTable where
  numExistingRoutes := 1
  entries :=
    [{ exists_ := true
       network := ip4 192 168 0 0
       subnetMask := ip4 255 255 0 0
       gateway := ip4 10 0 0 3
       subnetMaskLen := 16 }]

/-- The client gets 10.0.0.2. -/
def setParameters (rt : Option DhcpClasslessRouteTable) : Event :=
  .setIPv4Parameters (ip4 10 0 0 2) (ip4 255 255 255 0) (some (ip4 10 0 0 1)) rt

def farPacket : List UInt8 :=
  [69] ++ List.replicate 11 0 ++ [10, 0, 0, 2] ++ [192, 168, 0, 1]

def arpAnswer : Received where
  now := 0
  frame := (macOf 2).val ++ (macOf 4).val ++ bigEndian 2 MAC_PROTO_ARPV4 ++
    arpV4Header ARP_OPERATION_RESPONSE (macOf 4) (ipToUINT (ip4 10 0 0 3)) (macOf 2)
      (ipToUINT (ip4 10 0 0 2))

/-- The parameters are set with a route and then without one, a packet is sent, and the
gateway of the route answers. -/
def routeDropped : List Event :=
  [.processL3Events 0 [arpAnswer], .sendIPv4 0 farPacket, setParameters none,
    setParameters (some oneRoute)]

/-- The packet still goes to the gateway of the route. -/
theorem not_sendsByNextHop_lastRoutes :
    (ipcAfter (macOf 2) routeDropped).sendTube.filter isUnicastIPv4 =
        [ipv4Frame (macOf 2) (macOf 4) farPacket] ∧
      ¬SendsByNextHop lastRoutes (macOf 2) routeDropped := by
  refine ⟨by decide +kernel, fun sends => ?_⟩
  have split : routeDropped = [.processL3Events 0 [arpAnswer]] ++ .sendIPv4 0 farPacket ::
      [setParameters none, setParameters (some oneRoute)] := rfl
  have accepted := sends.accepted _ _ _ split (addressPart (ip4 10 0 0 3)) farPacket
  have routed : inputs (ipcAfter (macOf 2) [setParameters none, setParameters (some oneRoute)])
      (.sendIPv4 0 farPacket) = [.accept (addressPart (ip4 10 0 0 3)) farPacket] := rfl
  rw [routed] at accepted
  obtain ⟨_, _, nextIP, same, next⟩ := accepted (List.mem_singleton_self _)
  cases next with
  | inside inside => exact absurd inside (by decide +kernel)
  | route _ leads => exact leads.counted rfl
  | gateway => exact absurd same (by decide +kernel)

end InProc
end SoftEther
