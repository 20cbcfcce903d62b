import SoftEther.Cedar.Ike.Purge

/-!
# The handlers keep the graph

Every packet of the key exchange and every interrupt takes the server from a graph whose
pointers lead to its objects to another one, and follows no other pointers.
-/

namespace SoftEther
namespace Ike

open Library

section

variable {permitted : Fault → Prop}
variable {ike : IkeServer}

/-! ## Clients -/

theorem searchClient_eq_some
    {found : Nat}
    {endpoint : Endpoint}
    {c : IkeClient}
    (searched : searchClient ike found endpoint = some c) :
    c ∈ ike.clientList ∧ sameEndpoint c.endpoint endpoint = true := by
  unfold searchClient at searched
  cases first : ike.clientList.find? fun c =>
      decide (c.address = found ∧ sameEndpoint c.endpoint endpoint = true) with
  | some other =>
      rw [first] at searched
      injection searched with same
      subst same
      have fits := List.find?_some first
      exact ⟨List.mem_of_find?_eq_some first, by simpa using (of_decide_eq_true fits).2⟩
  | none =>
      rw [first] at searched
      have fits := List.find?_some searched
      exact ⟨List.mem_of_find?_eq_some searched, by simpa using fits⟩

theorem findIkeSaByEndPoint_ends
    (graph : Graph False ike)
    (endpoint : Endpoint)
    (initCookie : UInt64)
    (mode : Mode)
    {sas : List IkeSa}
    (inside : ∀ sa ∈ sas, sa ∈ ike.ikeSaList) :
    Ends permitted (findIkeSaByEndPoint ike endpoint initCookie mode sas) fun _ => True := by
  induction sas with
  | nil => exact .pure trivial
  | cons sa rest inductionHypothesis =>
      have there := (graph.ikeSas sa (inside sa List.mem_cons_self)).client
      refine there.follow.bind fun c _ => ?_
      split
      case isTrue => exact .pure trivial
      case isFalse =>
        exact inductionHypothesis fun other listed =>
          inside other (List.mem_cons_of_mem sa listed)

theorem searchClientByCookies_ends
    (graph : Graph False ike)
    (endpoint : Endpoint)
    (header : Header)
    {sas : List IkeSa}
    (inside : ∀ sa ∈ sas, sa ∈ ike.ikeSaList) :
    Ends permitted (searchClientByCookies ike endpoint header sas) fun found =>
      ∀ c, found = some c → ClientAt ike c := by
  induction sas with
  | nil => exact .pure fun _ nothing => nomatch nothing
  | cons sa rest inductionHypothesis =>
      have later := inductionHypothesis fun other listed =>
        inside other (List.mem_cons_of_mem sa listed)
      unfold searchClientByCookies
      split
      case isTrue =>
        have there := (graph.ikeSas sa (inside sa List.mem_cons_self)).client
        refine there.follow.bind fun cc ⟨listed, _⟩ => ?_
        split
        case isTrue =>
          refine .pure fun c same => ?_
          injection same with same
          exact same ▸ ⟨cc, listed, rfl⟩
        case isFalse => exact later
      case isFalse => exact later

theorem acceptClient_ends
    (graph : Graph False ike)
    {c : IkeClient}
    (listed : c ∈ ike.clientList)
    (endpoint : Endpoint)
    (header : Header) :
    Ends permitted (acceptClient ike c endpoint header) fun _ => True := by
  unfold acceptClient
  dsimp only
  split
  case isTrue => exact .pure trivial
  case isFalse =>
    cases current : c.currentIkeSa with
    | none => exact .pure trivial
    | some sa =>
        have there := ((graph.clients c listed).currentIkeSa sa current).allocated
        exact there.follow.bind fun _ _ => .pure trivial

theorem searchIkeClientForIkePacket_ends
    (graph : Graph False ike)
    (arrival : Arrival)
    (header : Header) :
    Ends permitted (searchIkeClientForIkePacket ike arrival header) fun found =>
      ∀ c, found = some c → ClientAt ike c := by
  have nothing : ∀ c, (none : Option Nat) = some c → ClientAt ike c :=
    fun _ same => nomatch same
  have byEndpoint : ∀ c, searchClient ike arrival.found arrival.endpoint = some c →
      Ends permitted
        (do
          let ok ← acceptClient ike c arrival.endpoint header
          pure (if ok then some c.address else none))
        fun found => ∀ c, found = some c → ClientAt ike c := by
    intro c searched
    have listed := (searchClient_eq_some searched).1
    refine (acceptClient_ends graph listed arrival.endpoint header).bind
      fun accepted _ => .pure fun other same => ?_
    split at same
    · injection same with same
      exact same ▸ ⟨c, listed, rfl⟩
    · exact nomatch same
  have byCookies := @searchClientByCookies_ends permitted _ graph arrival.endpoint header _
    fun _ listed => listed
  unfold searchIkeClientForIkePacket
  dsimp only
  cases searched : searchClient ike arrival.found arrival.endpoint with
  | none =>
      split
      case isTrue =>
        refine byCookies.bind ?_
        intro found there
        cases found with
        | some c => exact .pure there
        | none => exact .pure nothing
      case isFalse => exact .pure nothing
  | some c =>
      split
      case isTrue =>
        refine byCookies.bind ?_
        intro found there
        cases found with
        | some c => exact .pure there
        | none => exact byEndpoint c searched
      case isFalse => exact byEndpoint c searched

theorem Graph.newIkeClient
    (graph : Graph False ike)
    (endpoint : Endpoint) :
    Graph False (newIkeClient ike endpoint) ∧
      ClientAt (newIkeClient ike endpoint) ike.nextAddress := by
  have keeps : Keeps ike (Ike.newIkeClient ike endpoint) :=
    ⟨fun ⟨c, listed, here⟩ => ⟨c, List.mem_cons_of_mem _ listed, here⟩, id, id⟩
  refine ⟨?_, _, List.mem_cons_self, rfl⟩
  exact
    { ikeSasUnique := graph.ikeSasUnique
      ipsecSasUnique := graph.ipsecSasUnique
      ikeSasOld := fun sa listed => Nat.lt_succ_of_lt (graph.ikeSasOld sa listed)
      ipsecSasOld := fun sa listed => Nat.lt_succ_of_lt (graph.ipsecSasOld sa listed)
      clients := by
        intro c listed
        obtain rfl | old := List.mem_cons.mp listed
        · exact ⟨by simp, by simp, by simp⟩
        · exact (graph.clients c old).mono keeps
      ikeSas := fun sa listed => (graph.ikeSas sa listed).mono keeps
      ipsecSas := fun sa listed => (graph.ipsecSas sa listed).mono keeps }

theorem Graph.mergeIkeClient
    (graph : Graph False ike)
    {client cc : IkeClient}
    (listed : cc ∈ ike.clientList)
    (differ : cc.address ≠ client.address) :
    Graph False (mergeIkeClient ike client cc) ∧
      ClientAt (mergeIkeClient ike client cc) cc.address := by
  generalize same : Ike.mergeIkeClient ike client cc = after
  let move (owner : Nat) : Nat := if owner = client.address then cc.address else owner
  have ikeSas : after.ikeSaList = ike.ikeSaList.map fun sa =>
      { sa with ikeClient := move sa.ikeClient } := by rw [← same]; rfl
  have ipsecSas : after.ipsecSaList = ike.ipsecSaList.map fun sa =>
      { sa with ikeClient := move sa.ikeClient } := by rw [← same]; rfl
  have clients : ∀ c ∈ after.clientList, c.address ≠ client.address ∧
      ∃ old ∈ ike.clientList, c.address = old.address ∧
        c.currentIkeSa = old.currentIkeSa ∧ c.currentIpSecSaRecv = old.currentIpSecSaRecv ∧
        c.currentIpSecSaSend = old.currentIpSecSaSend := by
    intro c present
    rw [← same] at present
    obtain ⟨written, differs⟩ := List.mem_filter.mp present
    refine ⟨by simpa using differs, ?_⟩
    obtain ⟨old, _⟩ | ⟨old, oldListed, _, rfl⟩ := mem_writeAt written
    · exact ⟨c, old, rfl, rfl, rfl, rfl⟩
    · exact ⟨old, oldListed, rfl, rfl, rfl, rfl⟩
  have clientStays : ∀ {place}, ClientAt ike place → place ≠ client.address →
      ClientAt after place := by
    intro place there differs
    rw [← same]
    let touch (cc : IkeClient) : IkeClient :=
      { cc with
        firstCommTick := min cc.firstCommTick client.firstCommTick
        lastCommTick := max cc.lastCommTick client.lastCommTick }
    have sameAddress : ∀ c, (touch c).address = c.address := fun _ => rfl
    obtain ⟨c, written, here⟩ := (allocated_writeAt sameAddress place).mpr there
    exact ⟨c, List.mem_filter.mpr ⟨written, by simpa [here] using differs⟩, here⟩
  have taken : ClientAt after cc.address := clientStays ⟨cc, listed, rfl⟩ differ
  have moves : ∀ {owner}, ClientAt ike owner → ClientAt after (move owner) := by
    intro owner there
    by_cases goes : owner = client.address
    · simpa [move, goes] using taken
    · simpa [move, goes] using clientStays there goes
  have ikeSaMoves : ∀ {place owner}, IkeSaAt ike place owner →
      IkeSaAt after place (move owner) := by
    intro place owner ⟨sa, present, here, owned⟩
    refine ⟨{ sa with ikeClient := move sa.ikeClient }, ?_, here, congrArg move owned⟩
    rw [ikeSas]
    exact List.mem_map_of_mem present
  have ipsecSaStays : ∀ {place direction}, IPsecSaAt ike place direction →
      IPsecSaAt after place direction := by
    intro place direction ⟨sa, present, here, directed⟩
    refine ⟨{ sa with ikeClient := move sa.ikeClient }, ?_, here, directed⟩
    rw [ipsecSas]
    exact List.mem_map_of_mem present
  have allocatedStays : ∀ {place}, Allocated IPsecSa.address ike.ipsecSaList place →
      Allocated IPsecSa.address after.ipsecSaList place := by
    intro place ⟨sa, present, here⟩
    exact (ipsecSaStays ⟨sa, present, here, rfl⟩).allocated
  have sameNext : after.nextAddress = ike.nextAddress := by rw [← same]; rfl
  refine ⟨?_, taken⟩
  exact
    { ikeSasUnique := by
        unfold UniqueKeys
        rw [ikeSas, List.map_map]
        exact graph.ikeSasUnique
      ipsecSasUnique := by
        unfold UniqueKeys
        rw [ipsecSas, List.map_map]
        exact graph.ipsecSasUnique
      ikeSasOld := by
        intro sa present
        rw [ikeSas] at present
        obtain ⟨old, oldListed, rfl⟩ := List.mem_map.mp present
        exact sameNext ▸ graph.ikeSasOld old oldListed
      ipsecSasOld := by
        intro sa present
        rw [ipsecSas] at present
        obtain ⟨old, oldListed, rfl⟩ := List.mem_map.mp present
        exact sameNext ▸ graph.ipsecSasOld old oldListed
      clients := by
        intro c present
        obtain ⟨differs, old, oldListed, here, sa, recv, send⟩ := clients c present
        have pointers := graph.clients old oldListed
        rw [here] at differs
        refine ⟨fun place points => ?_, fun place points => ?_, fun place points => ?_⟩
        · have moved := ikeSaMoves (pointers.currentIkeSa place (sa ▸ points))
          rw [here]
          simpa [move, differs] using moved
        · exact allocatedStays (pointers.currentIpSecSaRecv place (recv ▸ points))
        · exact allocatedStays (pointers.currentIpSecSaSend place (send ▸ points))
      ikeSas := by
        intro sa present
        rw [ikeSas] at present
        obtain ⟨old, oldListed, rfl⟩ := List.mem_map.mp present
        exact .inr (moves (graph.ikeSas old oldListed).client)
      ipsecSas := by
        intro sa present
        rw [ipsecSas] at present
        obtain ⟨old, oldListed, rfl⟩ := List.mem_map.mp present
        have pointers := graph.ipsecSas old oldListed
        exact
          { ikeClient := .inr (moves pointers.client)
            ikeSa := pointers.ikeSa.imp id fun ⟨place, points, there⟩ =>
              ⟨place, points, ikeSaMoves there⟩
            pairIPsecSa := fun place points => ipsecSaStays (pointers.pairIPsecSa place points)
            keys := pointers.keys } }

/-- The client that a packet belongs to lies in memory. -/
structure Answered (result : IkeServer × Option Nat) : Prop where
  graph : Graph False result.1
  client : ∀ c, result.2 = some c → ClientAt result.1 c

theorem setIkeClientEndpoint_ends
    (graph : Graph False ike)
    {c : Nat}
    (there : ClientAt ike c)
    (arrival : Arrival) :
    Ends permitted (setIkeClientEndpoint ike c arrival) Answered := by
  refine there.follow.bind fun client ⟨listed, here⟩ => ?_
  have stays : Answered (ike, some c) :=
    ⟨graph, fun other same => Option.some.inj same ▸ there⟩
  have quiet : QuietIkeClient fun client => { client with endpoint := arrival.endpoint } :=
    ⟨fun _ => rfl, fun _ => rfl, fun _ => rfl, fun _ => rfl⟩
  have moved : Answered
      (ike.setIkeClient c fun client => { client with endpoint := arrival.endpoint }, some c) :=
    ⟨graph.setQuietIkeClient c quiet, fun other same =>
      Option.some.inj same ▸ (Keeps.setIkeClient ike c quiet.address).client there⟩
  split
  case isTrue => exact .pure ⟨graph, fun _ same => nomatch same⟩
  case isFalse =>
    split
    case isTrue => exact .pure stays
    case isFalse =>
      split
      case isTrue => exact .pure stays
      case isFalse =>
        cases searched : searchClient ike arrival.found arrival.endpoint with
        | none => exact .pure moved
        | some cc =>
            dsimp only
            split
            case isTrue merges =>
              have ccListed := (searchClient_eq_some searched).1
              obtain ⟨graphAfter, taken⟩ := graph.mergeIkeClient ccListed
                fun same => merges.1 (here.symm.trans same.symm)
              exact .pure ⟨graphAfter, fun other same => Option.some.inj same ▸ taken⟩
            case isFalse => exact .pure moved

theorem searchOrCreateNewIkeClientForIkePacket_ends
    (graph : Graph False ike)
    (arrival : Arrival)
    (header : Header) :
    Ends permitted (searchOrCreateNewIkeClientForIkePacket ike arrival header) Answered := by
  have nobody : Answered (ike, none) := ⟨graph, fun _ same => nomatch same⟩
  unfold searchOrCreateNewIkeClientForIkePacket
  split
  case isTrue => exact .pure nobody
  case isFalse =>
    refine (searchIkeClientForIkePacket_ends graph arrival header).bind fun found there => ?_
    cases found with
    | some c => exact setIkeClientEndpoint_ends graph (there c rfl) arrival
    | none =>
        dsimp only
        split
        case isTrue => exact .pure nobody
        case isFalse =>
          obtain ⟨graphAfter, created⟩ := graph.newIkeClient arrival.endpoint
          exact setIkeClientEndpoint_ends graphAfter created arrival

/-! ## Main mode and aggressive mode -/

theorem Graph.newIkeSa
    (graph : Graph False ike)
    {c : Nat}
    (there : ClientAt ike c)
    (header : Header)
    (mode : Mode)
    (content : Phase1Content) :
    Graph False (newIkeSa ike c header mode content) ∧
      Allocated IkeSa.address (newIkeSa ike c header mode content).ikeSaList
        ike.nextAddress := by
  have keeps : Keeps ike (Ike.newIkeSa ike c header mode content) :=
    ⟨id, fun ⟨sa, listed, here⟩ => ⟨sa, List.mem_cons_of_mem _ listed, here⟩, id⟩
  refine ⟨?_, _, List.mem_cons_self, rfl⟩
  exact
    { ikeSasUnique := graph.ikeSasUnique.cons fun sa listed =>
        Nat.ne_of_lt (graph.ikeSasOld sa listed)
      ipsecSasUnique := graph.ipsecSasUnique
      ikeSasOld := by
        intro sa listed
        obtain rfl | old := List.mem_cons.mp listed
        · exact Nat.lt_succ_self _
        · exact Nat.lt_succ_of_lt (graph.ikeSasOld sa old)
      ipsecSasOld := fun sa listed => Nat.lt_succ_of_lt (graph.ipsecSasOld sa listed)
      clients := fun c listed => (graph.clients c listed).mono keeps
      ikeSas := by
        intro sa listed
        obtain rfl | old := List.mem_cons.mp listed
        · exact .inr there
        · exact (graph.ikeSas sa old).mono keeps
      ipsecSas := fun sa listed => (graph.ipsecSas sa listed).mono keeps }

theorem startPhase1_ends
    (graph : Graph False ike)
    {c : Nat}
    (there : ClientAt ike c)
    (arrival : Arrival)
    (header : Header)
    (mode : Mode)
    (content : Phase1Content) :
    Ends permitted (startPhase1 ike c arrival header mode content) (Graph False) := by
  unfold startPhase1
  split
  case isTrue => exact .pure graph
  case isFalse =>
    refine (findIkeSaByEndPoint_ends graph arrival.endpoint.swapped header.initiatorCookie mode
      fun _ listed => listed).bind fun existing _ => ?_
    cases existing with
    | some _ => exact .pure graph
    | none =>
        dsimp only
        split
        case isTrue =>
          split
          case isTrue => exact .pure graph
          case isFalse =>
            obtain ⟨graphAfter, created⟩ := graph.newIkeSa there header mode content
            exact (ikeSaSendPacket_ends graphAfter created).bind fun _ _ => .pure graphAfter
        case isFalse =>
          exact (sendInformationalExchangePacketEx_ends graph there false).bind
            fun _ _ => .pure graph

theorem ikeSaRecvPacket_ends
    (null : permitted .nullPacket)
    (sa : IkeSa)
    (content : Phase1Content) :
    Ends permitted (ikeSaRecvPacket sa content) fun _ => True := by
  unfold ikeSaRecvPacket
  split
  case isTrue => exact .error null
  case isFalse => exact .pure trivial

theorem findIkeSaByResponderCookieAndClient_eq_some
    {cookie : UInt64}
    {c : Nat}
    {sa : IkeSa}
    (found : findIkeSaByResponderCookieAndClient ike cookie c = some sa) :
    sa ∈ ike.ikeSaList ∧ sa.ikeClient = c := by
  unfold findIkeSaByResponderCookieAndClient at found
  cases byCookie : findIkeSaByResponderCookie ike cookie with
  | none =>
      rw [byCookie] at found
      exact nomatch found
  | some other =>
      rw [byCookie] at found
      dsimp only at found
      split at found
      case isTrue => exact nomatch found
      case isFalse owned =>
        injection found with same
        subst same
        unfold findIkeSaByResponderCookie at byCookie
        split at byCookie
        case isTrue => exact nomatch byCookie
        case isFalse => exact ⟨List.mem_of_find?_eq_some byCookie, not_not.mp owned⟩

theorem Graph.useIkeSa
    (graph : Graph False ike)
    {c sa : Nat}
    (owned : IkeSaAt ike sa c)
    {change : IkeClient → IkeClient}
    (address : ∀ client, (change client).address = client.address)
    (currentIkeSa : ∀ client, (change client).currentIkeSa = some sa)
    (currentIpSecSaRecv : ∀ client,
      (change client).currentIpSecSaRecv = client.currentIpSecSaRecv)
    (currentIpSecSaSend : ∀ client,
      (change client).currentIpSecSaSend = client.currentIpSecSaSend) :
    Graph False (ike.setIkeClient c change) := by
  apply graph.setIkeClient c address
  intro client listed here
  have pointers := graph.clients client listed
  refine ⟨?_, ?_, ?_⟩
  · intro place points
    rw [currentIkeSa] at points
    rw [address, here]
    exact Option.some.inj points ▸ owned
  · rw [currentIpSecSaRecv]
    exact pointers.currentIpSecSaRecv
  · rw [currentIpSecSaSend]
    exact pointers.currentIpSecSaSend

theorem Graph.establishIkeSa
    (graph : Graph False ike)
    {c sa : Nat}
    (owned : IkeSaAt ike sa c) :
    Graph False (establishIkeSa ike c sa) := by
  have quiet : QuietIkeSa fun sa => { sa with state := .established, established := true } :=
    ⟨fun _ => rfl, fun _ => rfl, fun _ marked => marked⟩
  have owned := (Keeps.setIkeSa ike sa quiet).ikeSa owned
  exact (graph.setIkeSa sa quiet).useIkeSa owned (fun _ => rfl) (fun _ => rfl) (fun _ => rfl)
    fun _ => rfl

theorem quietIkeSa_touch (now : Nat) : QuietIkeSa fun sa => { sa with lastCommTick := now } :=
  ⟨fun _ => rfl, fun _ => rfl, fun _ marked => marked⟩

theorem procIkeMainModePacketRecv_ends
    (null : permitted .nullPacket)
    (graph : Graph False ike)
    (arrival : Arrival)
    (header : Header)
    (content : Phase1Content) :
    Ends permitted (procIkeMainModePacketRecv ike arrival header content) (Graph False) := by
  unfold procIkeMainModePacketRecv
  split
  case isTrue => exact .pure graph
  case isFalse =>
    refine (searchOrCreateNewIkeClientForIkePacket_ends graph arrival header).bind
      fun ⟨ike, c⟩ ⟨graph, there⟩ => ?_
    cases c with
    | none => exact .pure graph
    | some c =>
        have there := there c rfl
        dsimp only at graph there ⊢
        split
        case isTrue => exact startPhase1_ends graph there arrival header .main content
        case isFalse =>
          cases found : findIkeSaByResponderCookieAndClient ike header.responderCookie c with
          | none =>
              exact (sendInformationalExchangePacketEx_ends graph there true).bind
                fun _ _ => .pure graph
          | some sa =>
              obtain ⟨listed, owned⟩ := findIkeSaByResponderCookieAndClient_eq_some found
              dsimp only
              split
              case isTrue => exact .pure graph
              case isFalse =>
                have touched := quietIkeSa_touch ike.now
                have graph := graph.setIkeSa sa.address touched
                have held := (Keeps.setIkeSa ike sa.address touched).ikeSa
                  ⟨sa, listed, rfl, owned⟩
                generalize ike.setIkeSa sa.address _ = ike at graph held
                cases sa.state with
                | sa =>
                    refine (ikeSaRecvPacket_ends null sa content).bind fun received _ => ?_
                    split
                    case isTrue =>
                      refine (ikeSaSendPacket_ends graph held.allocated).bind fun _ _ => .pure ?_
                      exact graph.setIkeSa sa.address
                        ⟨fun _ => rfl, fun _ => rfl, fun _ marked => marked⟩
                    case isFalse => exact .pure graph
                | key =>
                    refine (ikeSaRecvPacket_ends null sa content).bind fun received _ => ?_
                    split
                    case isTrue =>
                      exact (ikeSaSendPacket_ends graph held.allocated).bind fun _ _ =>
                        .pure (graph.establishIkeSa held)
                    case isFalse => exact .pure graph
                | established => exact .pure graph

theorem procIkeAggressiveModePacketRecv_ends
    (null : permitted .nullPacket)
    (graph : Graph False ike)
    (arrival : Arrival)
    (header : Header)
    (content : Phase1Content) :
    Ends permitted (procIkeAggressiveModePacketRecv ike arrival header content)
      (Graph False) := by
  unfold procIkeAggressiveModePacketRecv
  split
  case isTrue => exact .pure graph
  case isFalse =>
    refine (searchOrCreateNewIkeClientForIkePacket_ends graph arrival header).bind
      fun ⟨ike, c⟩ ⟨graph, there⟩ => ?_
    cases c with
    | none => exact .pure graph
    | some c =>
        have there := there c rfl
        dsimp only at graph there ⊢
        split
        case isTrue => exact startPhase1_ends graph there arrival header .aggressive content
        case isFalse =>
          cases found : findIkeSaByResponderCookieAndClient ike header.responderCookie c with
          | none =>
              exact (sendInformationalExchangePacketEx_ends graph there true).bind
                fun _ _ => .pure graph
          | some sa =>
              obtain ⟨listed, owned⟩ := findIkeSaByResponderCookieAndClient_eq_some found
              dsimp only
              split
              case isTrue => exact .pure graph
              case isFalse =>
                have touched := quietIkeSa_touch ike.now
                have graph := graph.setIkeSa sa.address touched
                have held := (Keeps.setIkeSa ike sa.address touched).ikeSa
                  ⟨sa, listed, rfl, owned⟩
                generalize ike.setIkeSa sa.address _ = ike at graph held
                cases sa.state with
                | sa =>
                    refine (ikeSaRecvPacket_ends null sa content).bind fun received _ => ?_
                    split
                    case isTrue => exact .pure (graph.establishIkeSa held)
                    case isFalse => exact .pure graph
                | key => exact .pure graph
                | established => exact .pure graph

/-! ## Informational exchange -/

/-- What a part of a handler keeps. -/
structure Kept (before after : IkeServer) : Prop where
  graph : Graph False after
  keeps : Keeps before after

theorem Kept.refl (graph : Graph False ike) : Kept ike ike :=
  ⟨graph, .refl ike⟩

theorem Kept.trans
    {first second third : IkeServer}
    (early : Kept first second)
    (late : Kept second third) :
    Kept first third :=
  ⟨late.graph, early.keeps.trans late.keeps⟩

theorem Marked.kept
    {after : IkeServer}
    (marked : Marked False ike after) :
    Kept ike after :=
  ⟨marked.graph, marked.keeps⟩

theorem Kept.foldlM
    {Item : Type}
    {items : List Item}
    {body : IkeServer → Item → Except Fault IkeServer}
    (graph : Graph False ike)
    (keeps : ∀ state item, item ∈ items → Kept ike state →
      Ends permitted (body state item) (Kept state)) :
    Ends permitted (items.foldlM body ike) (Kept ike) :=
  Ends.foldlM (Kept ike) (.refl graph) fun state item listed kept =>
    (keeps state item listed kept).mono fun _ later => kept.trans later

theorem procDeletePayload_ends
    (graph : Graph False ike)
    (c : Nat)
    (payload : DeletePayload) :
    Ends permitted (procDeletePayload ike c payload) (Kept ike) := by
  cases payload with
  | ipsecEsp spis =>
      refine Kept.foldlM graph fun state spi _ kept => ?_
      cases found : searchIPsecSaBySpi state c spi with
      | none => exact .pure (.refl kept.graph)
      | some sa =>
          unfold searchIPsecSaBySpi at found
          split at found
          case isTrue => exact nomatch found
          case isFalse =>
            have listed := List.mem_of_find?_eq_some found
            exact (markIPsecSaAsDeleted_ends kept.graph ⟨sa, listed, rfl⟩).mono
              fun _ marked => marked.1.kept
  | ike cookies =>
      refine Kept.foldlM graph fun state cookie _ kept => ?_
      cases found : findIkeSaByResponderCookie state cookie with
      | none => exact .pure (.refl kept.graph)
      | some sa =>
          dsimp only
          split
          case isFalse => exact .pure (.refl kept.graph)
          case isTrue =>
            unfold findIkeSaByResponderCookie at found
            split at found
            case isTrue => exact nomatch found
            case isFalse =>
              have listed := List.mem_of_find?_eq_some found
              exact (markIkeSaAsDeleted_ends kept.graph ⟨sa, listed, rfl⟩).mono
                fun _ marked => marked.1.kept

theorem procNoticePayload_ends
    (graph : Graph False ike)
    {c ikeSa : Nat}
    (there : ClientAt ike c)
    (allocated : Allocated IkeSa.address ike.ikeSaList ikeSa)
    (notice : NoticePayload) :
    Ends permitted (procNoticePayload ike c ikeSa notice) (Kept ike) := by
  unfold procNoticePayload
  split
  case isTrue => exact .pure (.refl graph)
  case isFalse =>
    cases searchIkeSaByCookie ike notice.initCookie notice.respCookie with
    | none => exact .pure (.refl graph)
    | some found =>
        dsimp only
        split
        case isFalse => exact .pure (.refl graph)
        case isTrue =>
          have used : Ends permitted
              (do
                let used ← ike.ikeSa ikeSa
                let _ ← ike.ikeClient used.ikeClient
                let touch (sa : IkeSa) : IkeSa := { sa with lastCommTick := ike.now }
                let other := (ike.setIkeSa found.address touch).setIkeSa ikeSa touch
                let other := other.setIkeClient c fun client =>
                  { client with lastCommTick := other.now }
                pure
                  (other.setIkeClient used.ikeClient fun client =>
                    { client with lastCommTick := other.now, currentIkeSa := some ikeSa }))
              (Kept ike) := by
            refine allocated.follow.bind fun used ⟨listed, here⟩ => ?_
            refine (graph.ikeSas used listed).client.follow.bind fun _ _ => .pure ?_
            have touched := quietIkeSa_touch ike.now
            have first : Kept ike (ike.setIkeSa found.address _) :=
              ⟨graph.setIkeSa found.address touched, .setIkeSa ike found.address touched⟩
            have second := first.trans
              ⟨first.graph.setIkeSa ikeSa touched, .setIkeSa _ ikeSa touched⟩
            have quiet : QuietIkeClient fun client =>
                { client with lastCommTick := ike.now } :=
              ⟨fun _ => rfl, fun _ => rfl, fun _ => rfl, fun _ => rfl⟩
            have third := second.trans
              ⟨second.graph.setQuietIkeClient c quiet, .setIkeClient _ c quiet.address⟩
            have owned := third.keeps.ikeSa ⟨used, listed, here, rfl⟩
            exact third.trans
              ⟨third.graph.useIkeSa owned (fun _ => rfl) (fun _ => rfl) (fun _ => rfl)
                  fun _ => rfl,
                .setIkeClient _ used.ikeClient fun _ => rfl⟩
          split
          case isTrue =>
            exact (sendInformationalExchangePacketEx_ends graph there false).bind
              fun _ _ => used
          case isFalse => exact used

theorem procIkeInformationalExchangePacketRecv_ends
    (graph : Graph False ike)
    (arrival : Arrival)
    (header : Header)
    (content : Option InformationalContent) :
    Ends permitted (procIkeInformationalExchangePacketRecv ike arrival header content)
      (Graph False) := by
  unfold procIkeInformationalExchangePacketRecv
  split
  case isTrue => exact .pure graph
  case isFalse =>
    refine (searchOrCreateNewIkeClientForIkePacket_ends graph arrival header).bind
      fun ⟨ike, c⟩ ⟨graph, there⟩ => ?_
    cases c with
    | none => exact .pure graph
    | some c =>
        have there := there c rfl
        dsimp only at graph there ⊢
        split
        case h_2 => exact .pure graph
        case h_1 sa content found =>
          obtain ⟨listed, owned⟩ := findIkeSaByResponderCookieAndClient_eq_some found
          split
          case isFalse => exact .pure graph
          case isTrue =>
            refine (Kept.foldlM graph fun state payload _ kept =>
              procDeletePayload_ends kept.graph c payload).bind fun state kept => ?_
            have held : IkeSaAt ike sa.address c := ⟨sa, listed, rfl, owned⟩
            refine (Kept.foldlM kept.graph fun later notice _ laterKept => ?_).mono
              fun _ kept => kept.graph
            have keeps := kept.keeps.trans laterKept.keeps
            exact procNoticePayload_ends laterKept.graph (keeps.client there)
              (keeps.ikeSa held).allocated notice

end

end Ike
end SoftEther
