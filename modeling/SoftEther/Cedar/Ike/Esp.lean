import SoftEther.Cedar.Ike.Interrupts

/-!
# ESP packets

An ESP packet may arrive before the SA that it names has its keys, and the client of the
SA may be merged into another one while the packet is processed.
-/

namespace SoftEther
namespace Ike

open Library

section

variable {permitted : Fault → Prop}
variable {ike : IkeServer}

/-! ## Clients that are merged -/

/-- `SetIkeClientEndpoint` merges the client into the one that has the endpoint of the
packet. -/
def Merges (ike : IkeServer) (c : Nat) (arrival : Arrival) : Prop :=
  arrival.endpoint.clientPort ≠ 0 ∧ arrival.endpoint.serverPort ≠ 0 ∧
    isSpecialPort arrival.endpoint.clientPort = false ∧
    isSpecialPort arrival.endpoint.serverPort = false ∧
    ∃ client cc, ike.ikeClient c = .ok client ∧
      sameEndpoint client.endpoint arrival.endpoint = false ∧ client.l2tp = false ∧
      searchClient ike arrival.found arrival.endpoint = some cc ∧
      cc.address ≠ c ∧ cc.deleting = false

theorem setIkeClientEndpoint_client
    (graph : Graph False ike)
    {c : Nat}
    (there : ClientAt ike c)
    (arrival : Arrival) :
    Ends permitted (setIkeClientEndpoint ike c arrival) fun result =>
      Answered result ∧ (ClientAt result.1 c ↔ ¬Merges ike c arrival) := by
  have accepted : Ends permitted (setIkeClientEndpoint ike c arrival) Answered :=
    setIkeClientEndpoint_ends graph there arrival
  refine accepted.and ?_
  obtain ⟨client, read, listed, here⟩ :
      ∃ client, ike.ikeClient c = .ok client ∧ client ∈ ike.clientList ∧ client.address = c :=
    there.follow_eq_ok
  have merges : Merges ike c arrival ↔
      arrival.endpoint.clientPort ≠ 0 ∧ arrival.endpoint.serverPort ≠ 0 ∧
        isSpecialPort arrival.endpoint.clientPort = false ∧
        isSpecialPort arrival.endpoint.serverPort = false ∧
        sameEndpoint client.endpoint arrival.endpoint = false ∧ client.l2tp = false ∧
        ∃ cc, searchClient ike arrival.found arrival.endpoint = some cc ∧
          cc.address ≠ c ∧ cc.deleting = false := by
    unfold Merges
    constructor
    · rintro ⟨one, two, three, four, other, cc, otherRead, five, six, seven⟩
      rw [read] at otherRead
      injection otherRead with same
      subst same
      exact ⟨one, two, three, four, five, six, cc, seven⟩
    · rintro ⟨one, two, three, four, five, six, cc, seven⟩
      exact ⟨one, two, three, four, client, cc, read, five, six, seven⟩
  have moved : ClientAt
      (ike.setIkeClient c fun client => { client with endpoint := arrival.endpoint }) c :=
    (Keeps.setIkeClient ike c (by simp)).client there
  unfold setIkeClientEndpoint
  rw [read]
  change Ends permitted (if _ then _ else _) _
  rw [merges]
  split
  case isTrue zero => exact .pure (iff_of_true there fun ⟨one, two, _⟩ => zero.elim one two)
  case isFalse =>
    split
    case isTrue same =>
      exact .pure (iff_of_true there fun ⟨_, _, _, _, differs, _⟩ => by simp [same] at differs)
    case isFalse =>
      split
      case isTrue special =>
        exact .pure (iff_of_true there fun ⟨_, _, three, four, _⟩ => by
          simp [three, four] at special)
      case isFalse =>
        cases searched : searchClient ike arrival.found arrival.endpoint with
        | none =>
            exact .pure (iff_of_true moved fun ⟨_, _, _, _, _, _, _, found, _⟩ => nomatch found)
        | some cc =>
            dsimp only
            split
            case isTrue goes =>
              refine .pure (iff_of_false ?_ (not_not_intro ?_))
              · rintro ⟨left, leftListed, leftHere⟩
                have kept := (List.mem_filter.mp leftListed).2
                simp [leftHere, here] at kept
              · simp_all [Ne.symm goes.1]
            case isFalse stays =>
              refine .pure (iff_of_true moved ?_)
              rintro ⟨_, _, _, _, _, noL2tp, other, found, differs, alive⟩
              injection found with same
              subst same
              exact stays ⟨Ne.symm differs, alive, noL2tp⟩

/-- What decides whether a client is merged. -/
def IkeClient.look (c : IkeClient) : Nat × Endpoint × Bool × Bool :=
  (c.address, c.endpoint, c.deleting, c.l2tp)

theorem find?_look
    {before after : List IkeClient}
    (same : after.map IkeClient.look = before.map IkeClient.look)
    (wanted : Nat × Endpoint × Bool × Bool → Bool) :
    (after.find? (wanted ∘ IkeClient.look)).map IkeClient.look =
      (before.find? (wanted ∘ IkeClient.look)).map IkeClient.look := by
  rw [← List.find?_map, ← List.find?_map, same]

theorem searchClient_look
    {other : IkeServer}
    (same : other.clientList.map IkeClient.look = ike.clientList.map IkeClient.look)
    (found : Nat)
    (endpoint : Endpoint) :
    (searchClient other found endpoint).map IkeClient.look =
      (searchClient ike found endpoint).map IkeClient.look := by
  have chosen := find?_look same fun look =>
    decide (look.1 = found ∧ sameEndpoint look.2.1 endpoint = true)
  have any := find?_look same fun look => sameEndpoint look.2.1 endpoint
  change (other.clientList.find? fun c =>
      decide (c.address = found ∧ sameEndpoint c.endpoint endpoint = true)).map _ =
    (ike.clientList.find? fun c =>
      decide (c.address = found ∧ sameEndpoint c.endpoint endpoint = true)).map _ at chosen
  unfold searchClient
  cases left : other.clientList.find? fun c =>
      decide (c.address = found ∧ sameEndpoint c.endpoint endpoint = true) with
  | some c =>
      cases right : ike.clientList.find? fun c =>
          decide (c.address = found ∧ sameEndpoint c.endpoint endpoint = true) with
      | some c' =>
          rw [left, right] at chosen
          exact chosen
      | none =>
          rw [left, right] at chosen
          exact nomatch chosen
  | none =>
      cases right : ike.clientList.find? fun c =>
          decide (c.address = found ∧ sameEndpoint c.endpoint endpoint = true) with
      | some c' =>
          rw [left, right] at chosen
          exact nomatch chosen
      | none => exact any

theorem ikeClient_look
    {other : IkeServer}
    (same : other.clientList.map IkeClient.look = ike.clientList.map IkeClient.look)
    {c : Nat}
    {client : IkeClient}
    (read : ike.ikeClient c = .ok client) :
    ∃ after, other.ikeClient c = .ok after ∧ after.look = client.look := by
  have looks := find?_look same fun look => decide (look.1 = c)
  change (other.clientList.find? fun client => decide (client.address = c)).map _ =
    (ike.clientList.find? fun client => decide (client.address = c)).map _ at looks
  unfold IkeServer.ikeClient follow at read ⊢
  split at read
  case h_2 => exact nomatch read
  case h_1 found here =>
    injection read with sameClient
    subst sameClient
    rw [here] at looks
    obtain ⟨after, there, sameLook⟩ := Option.map_eq_some_iff.mp looks
    rw [there]
    exact ⟨after, rfl, sameLook⟩

theorem Merges.of_look
    {other : IkeServer}
    {c : Nat}
    {arrival : Arrival}
    (merges : Merges ike c arrival)
    (same : other.clientList.map IkeClient.look = ike.clientList.map IkeClient.look) :
    Merges other c arrival := by
  obtain ⟨one, two, three, four, client, cc, read, differs, noL2tp, searched, elsewhere, alive⟩ :=
    merges
  obtain ⟨after, afterRead, afterLook⟩ := ikeClient_look same read
  have looks := searchClient_look same arrival.found arrival.endpoint
  rw [searched] at looks
  obtain ⟨ccAfter, ccSearched, ccLook⟩ := Option.map_eq_some_iff.mp looks
  unfold IkeClient.look at afterLook ccLook
  simp only [Prod.mk.injEq] at afterLook ccLook
  obtain ⟨_, sameEndpoint, _, sameL2tp⟩ := afterLook
  obtain ⟨sameAddress, _, sameDeleting, _⟩ := ccLook
  exact ⟨one, two, three, four, after, ccAfter, afterRead, by rw [sameEndpoint, differs],
    sameL2tp.trans noL2tp, ccSearched, by rwa [sameAddress], sameDeleting.trans alive⟩

theorem merges_iff_of_look
    {other : IkeServer}
    (same : other.clientList.map IkeClient.look = ike.clientList.map IkeClient.look)
    (c : Nat)
    (arrival : Arrival) :
    Merges other c arrival ↔ Merges ike c arrival :=
  ⟨fun merges => merges.of_look same.symm, fun merges => merges.of_look same⟩

theorem look_setIkeClient
    (ike : IkeServer)
    (place : Nat)
    {change : IkeClient → IkeClient}
    (sameLook : ∀ c, (change c).look = c.look) :
    (ike.setIkeClient place change).clientList.map IkeClient.look =
      ike.clientList.map IkeClient.look := by
  unfold IkeServer.setIkeClient writeAt
  rw [List.map_map]
  apply List.map_congr_left
  intro c _
  by_cases here : c.address = place
  · simp [here, sameLook]
  · simp [here]

/-! ## Processing the payload -/

/-- What a virtual server changes in its client. -/
def Service.manage (service : Service) (client : IkeClient) : IkeClient :=
  match service with
  | .l2tp => { client with l2tp := true }
  | .etherIP => { client with etherIP := true }

theorem manageServer_ends
    (graph : Graph False ike)
    {c : Nat}
    (there : ClientAt ike c)
    (service : Service)
    (arrival : Arrival) :
    Ends permitted (manageServer ike c service) fun after =>
      Kept ike after ∧ (Merges after c arrival ↔ Merges ike c arrival ∧ service ≠ .l2tp) := by
  have quiet : QuietIkeClient service.manage := by
    constructor <;> intro client <;> cases service <;> rfl
  have kept : Kept ike (ike.setIkeClient c service.manage) :=
    ⟨graph.setQuietIkeClient c quiet, .setIkeClient ike c quiet.address⟩
  have managed : Merges (ike.setIkeClient c service.manage) c arrival ↔
      Merges ike c arrival ∧ service ≠ .l2tp := by
    cases service with
    | etherIP =>
        have sameLook : ∀ client, (Service.etherIP.manage client).look = client.look :=
          fun _ => rfl
        rw [merges_iff_of_look (look_setIkeClient ike c sameLook)]
        simp
    | l2tp =>
        refine iff_of_false ?_ (by simp)
        rintro ⟨_, _, _, _, client, _, read, _, noL2tp, _⟩
        obtain ⟨other, otherRead, listed, here⟩ :
            ∃ client, (ike.setIkeClient c Service.l2tp.manage).ikeClient c = .ok client ∧
              client ∈ (ike.setIkeClient c Service.l2tp.manage).clientList ∧
              client.address = c :=
          (kept.keeps.client there).follow_eq_ok
        rw [read] at otherRead
        injection otherRead with same
        subst same
        obtain ⟨_, elsewhere⟩ | ⟨old, _, _, rfl⟩ := mem_writeAt listed
        · exact elsewhere here
        · exact nomatch noL2tp
  refine there.follow.bind ?_
  rintro client ⟨listed, _⟩
  dsimp only
  split
  case h_2 => exact .pure ⟨kept, managed⟩
  case h_1 recv points =>
    have allocated := (graph.clients client listed).currentIpSecSaRecv recv points
    have followed : Ends permitted
        (do let _ ← ike.ipsecSa recv; pure (ike.setIkeClient c service.manage))
        fun after => Kept ike after ∧
          (Merges after c arrival ↔ Merges ike c arrival ∧ service ≠ .l2tp) :=
      allocated.follow.bind fun _ _ => .pure ⟨kept, managed⟩
    cases service with
    | l2tp =>
        cases client.l2tp with
        | true => exact .pure ⟨kept, managed⟩
        | false => exact followed
    | etherIP =>
        cases client.etherIP with
        | true => exact .pure ⟨kept, managed⟩
        | false => exact followed

theorem deliver_ends
    (algorithms : Algorithms)
    (graph : Graph False ike)
    {c : Nat}
    (there : ClientAt ike c)
    (sa : IPsecSa)
    (payload : List UInt8)
    (arrival : Arrival) :
    Ends permitted (deliver algorithms ike c sa payload) fun after =>
      Kept ike after ∧
        (Merges after c arrival ↔ Merges ike c arrival ∧
          algorithms.service (isIPsecSaTunnelMode sa) (payload.getLastD 0) payload ≠
            some .l2tp) := by
  unfold deliver
  cases algorithms.service (isIPsecSaTunnelMode sa) (payload.getLastD 0) payload with
  | none => exact .pure ⟨.refl graph, by simp⟩
  | some service =>
      refine (manageServer_ends graph there service arrival).mono fun after ⟨kept, merges⟩ => ?_
      exact ⟨kept, by simpa using merges⟩

theorem updateStatus_ends
    (graph : Graph False ike)
    {sa : IPsecSa}
    (there : ClientAt ike sa.ikeClient)
    (allocated : Allocated IPsecSa.address ike.ipsecSaList sa.address)
    (paired : ∀ pair, sa.pairIPsecSa = some pair →
      Allocated IPsecSa.address ike.ipsecSaList pair)
    (arrival : Arrival) :
    Ends permitted (updateStatus ike arrival sa) fun after =>
      Kept ike after ∧
        after.clientList.map IkeClient.look = ike.clientList.map IkeClient.look := by
  let touch (sa : IPsecSa) : IPsecSa := { sa with lastCommTick := ike.now }
  have quietTouch : QuietIPsecSa touch :=
    ⟨fun _ => rfl, fun _ => rfl, fun _ => rfl, fun _ => rfl, fun _ => rfl, fun _ marked => marked⟩
  have touched : ∀ {before : IkeServer} (place : Nat), Graph False before →
      Kept before (before.setIPsecSa place touch) := fun place graph =>
    ⟨graph.setQuietIPsecSa place quietTouch fun _ _ _ _ fits => fits,
      .setIPsecSa _ place quietTouch.address quietTouch.serverToClient⟩
  refine there.follow.bind fun _ _ => ?_
  have received : Kept ike (ike.setIkeClient sa.ikeClient fun client =>
      { client with currentIpSecSaRecv := some sa.address, lastCommTick := ike.now }) := by
    refine ⟨graph.setIkeClient _ (fun _ => rfl) fun client listed _ => ?_,
      .setIkeClient ike _ fun _ => rfl⟩
    have pointers := graph.clients client listed
    exact ⟨pointers.currentIkeSa, fun _ points => Option.some.inj points ▸ allocated,
      pointers.currentIpSecSaSend⟩
  have receivedLook : (ike.setIkeClient sa.ikeClient fun client =>
        { client with
          currentIpSecSaRecv := some sa.address
          lastCommTick := ike.now }).clientList.map IkeClient.look =
      ike.clientList.map IkeClient.look :=
    look_setIkeClient ike sa.ikeClient (by simp [IkeClient.look])
  generalize ike.setIkeClient sa.ikeClient _ = first at received receivedLook ⊢
  dsimp only
  split
  case h_1 =>
    exact .pure ⟨received.trans (touched sa.address received.graph), receivedLook⟩
  case h_2 pair points =>
    have pairThere := received.keeps.allocated (paired pair points)
    refine pairThere.follow.bind fun _ _ => ?_
    have sent : Kept first (first.setIkeClient sa.ikeClient fun client =>
        { client with currentIpSecSaSend := some pair }) := by
      refine ⟨received.graph.setIkeClient _ (fun _ => rfl) fun client listed _ => ?_,
        .setIkeClient first _ fun _ => rfl⟩
      have pointers := received.graph.clients client listed
      exact ⟨pointers.currentIkeSa, pointers.currentIpSecSaRecv,
        fun _ points => Option.some.inj points ▸ pairThere⟩
    have sentLook : (first.setIkeClient sa.ikeClient fun client =>
          { client with currentIpSecSaSend := some pair }).clientList.map IkeClient.look =
        first.clientList.map IkeClient.look :=
      look_setIkeClient first sa.ikeClient (by simp [IkeClient.look])
    generalize first.setIkeClient sa.ikeClient _ = second at sent sentLook ⊢
    have throughNat : Kept second (second.setIPsecSa pair fun other =>
        { other with
          transformSetting :=
            { other.transformSetting with
              capsuleMode := other.transformSetting.capsuleMode.throughNat } }) :=
      ⟨sent.graph.setQuietIPsecSa pair
          ⟨fun _ => rfl, fun _ => rfl, fun _ => rfl, fun _ => rfl, fun _ => rfl,
            fun _ marked => marked⟩
          fun _ _ _ _ fits => fits,
        .setIPsecSa _ pair (fun _ => rfl) fun _ => rfl⟩
    have finish : ∀ third, Kept second third → third.clientList = second.clientList →
        Kept ike ((third.setIPsecSa sa.address touch).setIPsecSa pair touch) ∧
          ((third.setIPsecSa sa.address touch).setIPsecSa pair touch).clientList.map
            IkeClient.look = ike.clientList.map IkeClient.look := by
      intro third later sameClients
      have one := touched sa.address later.graph
      refine ⟨(((received.trans sent).trans later).trans one).trans (touched pair one.graph), ?_⟩
      change third.clientList.map _ = _
      rw [sameClients, sentLook, receivedLook]
    split
    case isTrue => exact .pure (finish _ throughNat rfl)
    case isFalse => exact .pure (finish _ (.refl sent.graph) rfl)

theorem startQuickModeAsSoon_ends
    (graph : Graph False ike)
    (sa : IPsecSa)
    (data : List UInt8) :
    Ends
      (fun fault => fault = .danglingClient ∧
        ((wantsQuickMode sa data = true ∧ sa.startQMFlagSet = false) ∧
          ¬ClientAt ike sa.ikeClient))
      (startQuickModeAsSoon ike sa data)
      fun after => Graph False after ∧
        ¬((wantsQuickMode sa data = true ∧ sa.startQMFlagSet = false) ∧
          ¬ClientAt ike sa.ikeClient) := by
  unfold startQuickModeAsSoon
  split
  case isFalse calm => exact .pure ⟨graph, fun bad => calm bad.1⟩
  case isTrue wants =>
    by_cases there : ClientAt ike sa.ikeClient
    · refine there.follow.bind fun _ _ => .pure ⟨?_, fun bad => bad.2 there⟩
      exact (graph.startQuickModeAsSoon sa.address sa.ikeClient).graph
    · have dangling : ike.ikeClient sa.ikeClient = .error .danglingClient :=
        follow_eq_error there
      rw [dangling]
      exact .error ⟨rfl, wants, there⟩

theorem procDecrypted_ends
    (algorithms : Algorithms)
    (graph : Graph False ike)
    {sa : IPsecSa}
    (listed : sa ∈ ike.ipsecSaList)
    (arrival : Arrival)
    (data payload : List UInt8)
    (padded : ¬payload.length - 2 < (payload.getD (payload.length - 2) 0).toNat)
    {bad : Prop}
    (meaning : bad ↔ Merges ike sa.ikeClient arrival ∧
      algorithms.service (isIPsecSaTunnelMode sa) (payload.getLastD 0) payload ≠ some .l2tp ∧
      wantsQuickMode { sa with totalSize := sa.totalSize + payload.length } data = true ∧
      sa.startQMFlagSet = false) :
    Ends (fun fault => fault = .danglingClient ∧ bad)
      (procDecrypted algorithms ike arrival data sa payload)
      fun after => Graph False after ∧ ¬bad := by
  have pointers := graph.ipsecSas sa listed
  unfold procDecrypted
  rw [if_neg padded]
  dsimp only
  let counted : IPsecSa := { sa with totalSize := sa.totalSize + payload.length }
  have sized : Kept ike (ike.setIPsecSa sa.address fun other =>
      { other with totalSize := sa.totalSize + payload.length }) :=
    ⟨graph.setQuietIPsecSa sa.address
        ⟨fun _ => rfl, fun _ => rfl, fun _ => rfl, fun _ => rfl, fun _ => rfl,
          fun _ marked => marked⟩
        fun _ _ _ _ fits => fits,
      .setIPsecSa ike sa.address (fun _ => rfl) fun _ => rfl⟩
  have sizedMerges : Merges (ike.setIPsecSa sa.address fun other =>
        { other with totalSize := sa.totalSize + payload.length }) sa.ikeClient arrival ↔
      Merges ike sa.ikeClient arrival := by
    apply merges_iff_of_look
    simp [IkeServer.setIPsecSa]
  generalize ike.setIPsecSa sa.address _ = first at sized sizedMerges ⊢
  refine (deliver_ends algorithms sized.graph (sized.keeps.client pointers.client) counted payload
    arrival).bind ?_
  rintro second ⟨two, delivered⟩
  have keeps := sized.keeps.trans two.keeps
  refine (@updateStatus_ends _ second two.graph counted (keeps.client pointers.client)
    (keeps.allocated ⟨sa, listed, rfl⟩)
    (fun pair points => keeps.allocated (pointers.pairIPsecSa pair points).allocated)
    arrival).bind ?_
  rintro third ⟨three, looks⟩
  refine (setIkeClientEndpoint_client three.graph ((keeps.trans three.keeps).client
    pointers.client) arrival).bind ?_
  rintro ⟨fourth, _⟩ ⟨accepted, stays⟩
  rw [merges_iff_of_look looks, delivered, sizedMerges] at stays
  have lost : ¬ClientAt fourth sa.ikeClient ↔ Merges ike sa.ikeClient arrival ∧
      algorithms.service (isIPsecSaTunnelMode sa) (payload.getLastD 0) payload ≠ some .l2tp := by
    rw [stays, not_not]
    rfl
  have same : bad ↔ (wantsQuickMode counted data = true ∧ counted.startQMFlagSet = false) ∧
      ¬ClientAt fourth counted.ikeClient := by
    rw [meaning]
    constructor
    · rintro ⟨merges, service, wants, unset⟩
      exact ⟨⟨wants, unset⟩, lost.mpr ⟨merges, service⟩⟩
    · rintro ⟨⟨wants, unset⟩, gone⟩
      obtain ⟨merges, service⟩ := lost.mp gone
      exact ⟨merges, service, wants, unset⟩
  rw [same]
  exact startQuickModeAsSoon_ends accepted.graph counted data

/-- The SA and the payload of an ESP packet that is processed to its end. -/
def espPayload (algorithms : Algorithms) (ike : IkeServer) (data : List UInt8) :
    Option (IPsecSa × List UInt8) :=
  match espSa ike data with
  | none => none
  | some sa =>
      let payload := encryptedPayload sa data
      if hashMatches algorithms sa data = false ∨ payload = [] ∨
          payload.length % sa.transformSetting.crypto.blockSize ≠ 0 then none
      else
        match sa.cryptoKey with
        | none => none
        | some key =>
            let iv := (data.drop 8).take sa.transformSetting.crypto.blockSize
            let payload := algorithms.decrypt key iv payload
            if payload.length - 2 < (payload.getD (payload.length - 2) 0).toNat then none
            else some (sa, payload)

/-- The packet merges its client into another one and then asks for a quick mode, without
the server having asked for one before. -/
def MergedAway (algorithms : Algorithms) (ike : IkeServer) : Event → Prop
  | .esp arrival data =>
      ∃ sa payload, espPayload algorithms ike data = some (sa, payload) ∧
        Merges ike sa.ikeClient arrival ∧
        algorithms.service (isIPsecSaTunnelMode sa) (payload.getLastD 0) payload ≠
          some .l2tp ∧
        wantsQuickMode { sa with totalSize := sa.totalSize + payload.length } data = true ∧
        sa.startQMFlagSet = false
  | _ => False

/-- An ESP packet that is long enough names an SA of a quick mode that the server has
started, and the second packet of the quick mode has not come. -/
def TooEarly (ike : IkeServer) : Event → Prop
  | .esp _ data => ∃ sa, espSa ike data = some sa ∧ sa.Waiting
  | _ => False

theorem espSa_eq_some
    {data : List UInt8}
    {sa : IPsecSa}
    (found : espSa ike data = some sa) :
    sa ∈ ike.ipsecSaList ∧ sa.serverToClient = false := by
  unfold espSa at found
  split at found
  case isTrue => exact nomatch found
  case isFalse =>
    cases searched : searchClientToServerIPsecSaBySpi ike (readUint data) with
    | none =>
        rw [searched] at found
        exact nomatch found
    | some other =>
        rw [searched] at found
        dsimp only at found
        split at found
        case isTrue => exact nomatch found
        case isFalse =>
          injection found with same
          subst same
          unfold searchClientToServerIPsecSaBySpi at searched
          split at searched
          case isTrue => exact nomatch searched
          case isFalse =>
            have fits := List.find?_some searched
            have fits := of_decide_eq_true fits
            exact ⟨List.mem_of_find?_eq_some searched, fits.1⟩

def EspFault (algorithms : Algorithms) (ike : IkeServer) (arrival : Arrival)
    (data : List UInt8) (fault : Fault) : Prop :=
  (fault = .danglingClient ∧ MergedAway algorithms ike (.esp arrival data)) ∨
    (fault = .nullKey ∧ ¬MergedAway algorithms ike (.esp arrival data) ∧
      TooEarly ike (.esp arrival data))

theorem procIPsecEspPacketRecv_ends
    (algorithms : Algorithms)
    (graph : Graph False ike)
    (arrival : Arrival)
    (data : List UInt8) :
    Ends (EspFault algorithms ike arrival data)
      (procIPsecEspPacketRecv algorithms ike arrival data)
      fun after => Graph False after ∧ ¬MergedAway algorithms ike (.esp arrival data) := by
  have ignored : espPayload algorithms ike data = none →
      ¬MergedAway algorithms ike (.esp arrival data) := by
    rintro nothing ⟨sa, payload, found, _⟩
    exact nomatch nothing.symm.trans found
  unfold procIPsecEspPacketRecv
  cases found : espSa ike data with
  | none => exact .pure ⟨graph, ignored (by simp [espPayload, found])⟩
  | some sa =>
      obtain ⟨listed, direction⟩ := espSa_eq_some found
      dsimp only
      split
      case isTrue wrong => exact .pure ⟨graph, ignored (by simp [espPayload, found, wrong])⟩
      case isFalse right =>
        split
        case isTrue empty =>
          exact .pure ⟨graph, ignored (by simp [espPayload, found, empty])⟩
        case isFalse blocks =>
          cases made : sa.cryptoKey with
          | none =>
              have waits : sa.Waiting := by
                by_contra ready
                have fits := (graph.ipsecSas sa listed).keys direction
                unfold IPsecSa.KeysFit at fits
                rw [if_neg ready] at fits
                obtain ⟨keyMat, _, derived, _⟩ := fits
                exact nomatch made.symm.trans derived
              exact .error (.inr ⟨rfl, ignored (by simp [espPayload, found, made]),
                sa, found, waits⟩)
          | some key =>
              dsimp only
              generalize decrypted : algorithms.decrypt key _ _ = payload
              by_cases padded :
                  payload.length - 2 < (payload.getD (payload.length - 2) 0).toNat
              · unfold procDecrypted
                rw [if_pos padded]
                refine .pure ⟨graph, ignored ?_⟩
                simpa [espPayload, found, made, right, blocks, decrypted] using padded
              · have processed : espPayload algorithms ike data = some (sa, payload) := by
                  simpa [espPayload, found, made, right, blocks, decrypted] using padded
                refine (procDecrypted_ends algorithms graph listed arrival data payload padded
                  ?_).permit fun fault lost => .inl lost
                constructor
                · rintro ⟨other, otherPayload, otherProcessed, bad⟩
                  rw [processed] at otherProcessed
                  injection otherProcessed with same
                  injection same with sameSa samePayload
                  subst sameSa samePayload
                  exact bad
                · intro bad
                  exact ⟨sa, payload, processed, bad⟩

end

end Ike
end SoftEther
