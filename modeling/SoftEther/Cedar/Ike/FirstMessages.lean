import SoftEther.Cedar.Ike.Soundness

/-!
# First messages that are sent again

A client that gets no answer sends its first message of main mode or of aggressive mode
again.  The server looks for the IKE SA of the message by the endpoint and the cookie of the
initiator, but with the two sides of the endpoint exchanged.  An IKE SA also gets another
endpoint when its client moves.
-/

namespace SoftEther
namespace Ike

open Library

/-- What tells IKE SAs apart: the client, the cookie of the initiator and the mode. -/
structure IkeSaName where
  ikeClient : Nat
  initiatorCookie : UInt64
  mode : Mode
  deriving DecidableEq

def IkeSa.name (sa : IkeSa) : IkeSaName where
  ikeClient := sa.ikeClient
  initiatorCookie := sa.initiatorCookie
  mode := sa.mode

def IkeClient.place (c : IkeClient) : Nat × Endpoint :=
  (c.address, c.endpoint)

def AtEndpoint (ike : IkeServer) (endpoint : Endpoint) (c : Nat) : Prop :=
  ∃ client ∈ ike.clientList, client.address = c ∧ sameEndpoint client.endpoint endpoint = true

/-- Two IKE SAs have one endpoint, one cookie of the initiator and one mode. -/
structure SameKey (ike : IkeServer) (left right : IkeSaName) : Prop where
  endpoint : ∃ endpoint, AtEndpoint ike endpoint left.ikeClient ∧
    AtEndpoint ike endpoint right.ikeClient
  initiatorCookie : left.initiatorCookie = right.initiatorCookie
  mode : left.mode = right.mode

/-- There is at most one IKE SA for an endpoint, a cookie of the initiator and a mode. -/
def AtMostOne (ike : IkeServer) : Prop :=
  ike.ikeSaList.Pairwise fun left right => ¬SameKey ike left.name right.name

section

variable (ike : IkeServer)

/-- An IKE SA has the endpoint, the cookie of the initiator and the mode. -/
def keyTaken (endpoint : Endpoint) (initiatorCookie : UInt64) (mode : Mode) : Bool :=
  ike.ikeSaList.any fun sa =>
    decide (sa.initiatorCookie = initiatorCookie ∧ sa.mode = mode) &&
      ike.clientList.any fun c =>
        decide (c.address = sa.ikeClient) && sameEndpoint c.endpoint endpoint

/-- `SetIkeClientEndpoint` gives the client another endpoint. -/
def moves (c : Nat) (endpoint : Endpoint) : Bool :=
  decide (endpoint.clientPort ≠ 0 ∧ endpoint.serverPort ≠ 0) &&
    (!isSpecialPort endpoint.clientPort && !isSpecialPort endpoint.serverPort) &&
      ike.clientList.any fun client =>
        decide (client.address = c) && !sameEndpoint client.endpoint endpoint

/-- The client moves to an endpoint that has an IKE SA with the cookie and the mode of one of
its own. -/
def movesOnto (c : Nat) (endpoint : Endpoint) : Bool :=
  moves ike c endpoint &&
    ike.ikeSaList.any fun sa =>
      decide (sa.ikeClient = c) && keyTaken ike endpoint sa.initiatorCookie sa.mode

/-- The client that `SearchIkeClientForIkePacket` finds moves in this way. -/
def packetMovesOnto (arrival : Arrival) (header : Header) : Bool :=
  match searchIkeClientForIkePacket ike arrival header with
  | .ok (some c) => movesOnto ike c arrival.endpoint
  | _ => false

/-- The client of a packet is found or created, and it may have another IKE SA. -/
def roomForIkeSa (arrival : Arrival) (header : Header) : Bool :=
  match searchIkeClientForIkePacket ike arrival header with
  | .ok (some c) => getNumberOfIkeSaOfIkeClient ike c ≤ IKE_QUOTA_MAX_SA_PER_CLIENT
  | .ok none =>
      ¬(IKE_QUOTA_MAX_NUM_CLIENTS_PER_IP <
            (ike.clientList.countP fun c => sameIp c.endpoint.clientIP
              arrival.endpoint.clientIP) ∨
          IKE_QUOTA_MAX_NUM_CLIENTS < ike.clientList.length)
  | .error _ => false

/-- The first message of a phase 1 that has an IKE SA starts another one: the lookup with the
two sides of the endpoint exchanged finds none. -/
def startsAnother
    (arrival : Arrival)
    (header : Header)
    (mode : Mode)
    (content : Phase1Content) : Bool :=
  decide (header.initiatorCookie ≠ 0 ∧ header.responderCookie = 0) &&
    (content.parsed && content.natTraversal && content.transform &&
      (decide (mode = .main) || content.keyExchange)) &&
    roomForIkeSa ike arrival header &&
    !keyTaken ike arrival.endpoint.swapped header.initiatorCookie mode &&
    keyTaken ike arrival.endpoint header.initiatorCookie mode

/-- The header of a packet that the server takes for quick mode or for the informational
exchange. -/
def Header.ofPhase2 (header : Header) : Bool :=
  header.initiatorCookie ≠ 0 ∧ header.responderCookie ≠ 0 ∧ header.messageId ≠ 0 ∧
    header.flagEncrypted

/-- A packet of phase 1 gives an endpoint a second IKE SA with one cookie and one mode. -/
def phase1Crowds
    (arrival : Arrival)
    (header : Header)
    (mode : Mode)
    (content : Phase1Content) :
    Bool :=
  decide (header.initiatorCookie ≠ 0) && packetMovesOnto ike arrival header ||
    startsAnother ike arrival header mode content

/-- The event gives an endpoint a second IKE SA with one cookie and one mode. -/
def crowds (algorithms : Algorithms) : Event → Bool
  | .main arrival header content =>
      phase1Crowds { ike with now := arrival.now } arrival header .main content
  | .aggressive arrival header content =>
      phase1Crowds { ike with now := arrival.now } arrival header .aggressive content
  | .quick arrival header _ =>
      header.ofPhase2 && packetMovesOnto { ike with now := arrival.now } arrival header
  | .informational arrival header _ =>
      header.ofPhase2 && packetMovesOnto { ike with now := arrival.now } arrival header
  | .esp arrival data =>
      match espPayload algorithms { ike with now := arrival.now } data with
      | none => false
      | some (sa, _) => movesOnto { ike with now := arrival.now } sa.ikeClient arrival.endpoint
  | .interrupt _ => false

end

/-! ## Steps that bring no IKE SA and no endpoint -/

/-- IKE SAs and clients may go; those that stay keep their names and their endpoints. -/
structure Shrinks (before after : IkeServer) : Prop where
  sas : (after.ikeSaList.map IkeSa.name).Sublist (before.ikeSaList.map IkeSa.name)
  clients : (after.clientList.map IkeClient.place).Sublist (before.clientList.map IkeClient.place)
  nextAddress : before.nextAddress ≤ after.nextAddress

theorem Shrinks.refl (ike : IkeServer) : Shrinks ike ike :=
  ⟨.refl _, .refl _, Nat.le_refl _⟩

theorem Shrinks.trans
    {first second third : IkeServer}
    (early : Shrinks first second)
    (late : Shrinks second third) :
    Shrinks first third :=
  ⟨late.sas.trans early.sas, late.clients.trans early.clients,
    early.nextAddress.trans late.nextAddress⟩

section

variable {ike : IkeServer}

variable {after : IkeServer}

theorem Shrinks.of_sameLists
    (sas : after.ikeSaList = ike.ikeSaList)
    (clients : after.clientList = ike.clientList)
    (nextAddress : ike.nextAddress ≤ after.nextAddress) :
    Shrinks ike after :=
  ⟨sas ▸ .refl _, clients ▸ .refl _, nextAddress⟩

theorem map_view_writeAt
    {Object View : Type}
    {address : Object → Nat}
    {view : Object → View}
    {change : Object → Object}
    (same : ∀ object, view (change object) = view object)
    (table : List Object)
    (place : Nat) :
    (writeAt address table place change).map view = table.map view := by
  unfold writeAt
  rw [List.map_map]
  apply List.map_congr_left
  intro object _
  by_cases here : address object = place
  · simp [here, same]
  · simp [here]

theorem Shrinks.setIkeClient
    {c : Nat}
    {change : IkeClient → IkeClient}
    (shrinks : Shrinks ike after)
    (same : ∀ client, (change client).place = client.place) :
    Shrinks ike (after.setIkeClient c change) :=
  ⟨shrinks.sas, map_view_writeAt same after.clientList c ▸ shrinks.clients, shrinks.nextAddress⟩

theorem Shrinks.setIkeSa
    {place : Nat}
    {change : IkeSa → IkeSa}
    (shrinks : Shrinks ike after)
    (same : ∀ sa, (change sa).name = sa.name) :
    Shrinks ike (after.setIkeSa place change) :=
  ⟨map_view_writeAt same after.ikeSaList place ▸ shrinks.sas, shrinks.clients,
    shrinks.nextAddress⟩

theorem Shrinks.setIPsecSa
    {place : Nat}
    {change : IPsecSa → IPsecSa}
    (shrinks : Shrinks ike after) :
    Shrinks ike (after.setIPsecSa place change) :=
  ⟨shrinks.sas, shrinks.clients, shrinks.nextAddress⟩

theorem Shrinks.mem_client
    (shrinks : Shrinks ike after)
    {client : IkeClient}
    (listed : client ∈ after.clientList) :
    ∃ old ∈ ike.clientList, old.address = client.address ∧ old.endpoint = client.endpoint := by
  have place := shrinks.clients.mem (List.mem_map_of_mem (f := IkeClient.place) listed)
  obtain ⟨old, oldListed, same⟩ := List.mem_map.mp place
  exact ⟨old, oldListed, congrArg Prod.fst same, congrArg Prod.snd same⟩

theorem Shrinks.mem_sa
    (shrinks : Shrinks ike after)
    {sa : IkeSa}
    (listed : sa ∈ after.ikeSaList) :
    ∃ old ∈ ike.ikeSaList, old.name = sa.name :=
  List.mem_map.mp (shrinks.sas.mem (List.mem_map_of_mem (f := IkeSa.name) listed))

theorem AtEndpoint.of_shrinks
    (shrinks : Shrinks ike after)
    {endpoint : Endpoint}
    {c : Nat}
    (there : AtEndpoint after endpoint c) :
    AtEndpoint ike endpoint c := by
  obtain ⟨client, listed, here, same⟩ := there
  obtain ⟨old, oldListed, address, sameEndpoint⟩ := shrinks.mem_client listed
  exact ⟨old, oldListed, address.trans here, sameEndpoint ▸ same⟩

end

section

variable {ike : IkeServer}

variable {after : IkeServer} {endpoint : Endpoint}

theorem SameKey.of_shrinks
    (shrinks : Shrinks ike after)
    {left right : IkeSaName}
    (same : SameKey after left right) :
    SameKey ike left right where
  endpoint :=
    have ⟨endpoint, leftThere, rightThere⟩ := same.endpoint
    ⟨endpoint, leftThere.of_shrinks shrinks, rightThere.of_shrinks shrinks⟩
  initiatorCookie := same.initiatorCookie
  mode := same.mode

theorem AtMostOne.names
    (atMostOne : AtMostOne ike) :
    (ike.ikeSaList.map IkeSa.name).Pairwise fun left right => ¬SameKey ike left right :=
  List.pairwise_map.mpr atMostOne

theorem AtMostOne.of_shrinks
    (atMostOne : AtMostOne ike)
    (shrinks : Shrinks ike after) :
    AtMostOne after := by
  have fewer := (atMostOne.names.sublist shrinks.sas).imp fun apart same =>
    apart (SameKey.of_shrinks shrinks same)
  exact List.pairwise_map.mp fewer

/-- The clients have addresses of their own, the addresses that are taken are old, and no two
IKE SAs have one key. -/
structure Distinct (ike : IkeServer) : Prop where
  clientsUnique : UniqueKeys IkeClient.address ike.clientList
  clientsOld : ∀ c ∈ ike.clientList, c.address < ike.nextAddress
  ownersOld : ∀ sa ∈ ike.ikeSaList, sa.ikeClient < ike.nextAddress
  atMostOne : AtMostOne ike

theorem Distinct.initial : Distinct {} where
  clientsUnique := List.nodup_nil
  clientsOld := by simp
  ownersOld := by simp
  atMostOne := List.Pairwise.nil

theorem Distinct.of_shrinks
    (distinct : Distinct ike)
    (shrinks : Shrinks ike after) :
    Distinct after where
  clientsUnique := by
    have addresses : after.clientList.map IkeClient.address =
        (after.clientList.map IkeClient.place).map Prod.fst := by
      rw [List.map_map]
      rfl
    unfold UniqueKeys
    rw [addresses]
    refine List.Nodup.sublist (shrinks.clients.map Prod.fst) ?_
    rw [List.map_map]
    exact distinct.clientsUnique
  clientsOld c listed := by
    obtain ⟨old, oldListed, here, _⟩ := shrinks.mem_client listed
    rw [← here]
    exact (distinct.clientsOld old oldListed).trans_le shrinks.nextAddress
  ownersOld sa listed := by
    obtain ⟨old, oldListed, same⟩ := shrinks.mem_sa listed
    have owner : old.ikeClient = sa.ikeClient := congrArg IkeSaName.ikeClient same
    rw [← owner]
    exact (distinct.ownersOld old oldListed).trans_le shrinks.nextAddress
  atMostOne := distinct.atMostOne.of_shrinks shrinks

theorem keyTaken_iff
    {initiatorCookie : UInt64}
    {mode : Mode} :
    keyTaken ike endpoint initiatorCookie mode = true ↔
      ∃ sa ∈ ike.ikeSaList, sa.initiatorCookie = initiatorCookie ∧ sa.mode = mode ∧
        AtEndpoint ike endpoint sa.ikeClient := by
  simp only [keyTaken, AtEndpoint, List.any_eq_true, Bool.and_eq_true, decide_eq_true_eq, and_assoc]

theorem moves_iff {c : Nat} {endpoint : Endpoint} :
    moves ike c endpoint = true ↔
      (endpoint.clientPort ≠ 0 ∧ endpoint.serverPort ≠ 0) ∧
        (isSpecialPort endpoint.clientPort = false ∧
          isSpecialPort endpoint.serverPort = false) ∧
        ∃ client ∈ ike.clientList, client.address = c ∧
          sameEndpoint client.endpoint endpoint = false := by
  simp only [moves, List.any_eq_true, Bool.and_eq_true, Bool.not_eq_true', decide_eq_true_eq,
    and_assoc]

theorem movesOnto_iff {c : Nat} {endpoint : Endpoint} :
    movesOnto ike c endpoint = true ↔
      moves ike c endpoint = true ∧ ∃ sa ∈ ike.ikeSaList, sa.ikeClient = c ∧
        keyTaken ike endpoint sa.initiatorCookie sa.mode = true := by
  simp only [movesOnto, List.any_eq_true, Bool.and_eq_true, decide_eq_true_eq]

theorem Shrinks.keyTaken
    (shrinks : Shrinks ike after)
    {initiatorCookie : UInt64}
    {mode : Mode}
    (taken : keyTaken after endpoint initiatorCookie mode = true) :
    keyTaken ike endpoint initiatorCookie mode = true := by
  obtain ⟨sa, listed, cookie, sameMode, there⟩ := keyTaken_iff.mp taken
  obtain ⟨old, oldListed, same⟩ := shrinks.mem_sa listed
  have owner : old.ikeClient = sa.ikeClient := congrArg IkeSaName.ikeClient same
  have oldCookie : old.initiatorCookie = sa.initiatorCookie :=
    congrArg IkeSaName.initiatorCookie same
  have oldMode : old.mode = sa.mode := congrArg IkeSaName.mode same
  exact keyTaken_iff.mpr ⟨old, oldListed, oldCookie.trans cookie, oldMode.trans sameMode,
    owner ▸ there.of_shrinks shrinks⟩

theorem Shrinks.movesOnto
    (shrinks : Shrinks ike after)
    {c : Nat}
    (onto : movesOnto after c endpoint = true) :
    movesOnto ike c endpoint = true := by
  obtain ⟨moved, sa, listed, owned, taken⟩ := movesOnto_iff.mp onto
  obtain ⟨ports, usual, client, clientListed, here, differs⟩ := moves_iff.mp moved
  obtain ⟨oldClient, oldClientListed, address, sameEndpoint⟩ := shrinks.mem_client clientListed
  obtain ⟨old, oldListed, same⟩ := shrinks.mem_sa listed
  have owner : old.ikeClient = sa.ikeClient := congrArg IkeSaName.ikeClient same
  have cookie : old.initiatorCookie = sa.initiatorCookie :=
    congrArg IkeSaName.initiatorCookie same
  have mode : old.mode = sa.mode := congrArg IkeSaName.mode same
  refine movesOnto_iff.mpr ⟨moves_iff.mpr ⟨ports, usual, oldClient, oldClientListed,
    address.trans here, sameEndpoint ▸ differs⟩, old, oldListed, owner.trans owned, ?_⟩
  rw [cookie, mode]
  exact shrinks.keyTaken taken

end

theorem sameEndpoint_refl (endpoint : Endpoint) : sameEndpoint endpoint endpoint = true := by
  simp [sameEndpoint, sameIp]

theorem sameEndpoint_symm
    {left right : Endpoint}
    (same : sameEndpoint left right = true) :
    sameEndpoint right left = true := by
  simp only [sameEndpoint, sameIp, decide_eq_true_eq] at same ⊢
  obtain ⟨⟨client, client6⟩, ⟨server, server6⟩, clientPort, serverPort⟩ := same
  exact ⟨⟨client.symm, client6.symm⟩, ⟨server.symm, server6.symm⟩, clientPort.symm,
    serverPort.symm⟩

theorem sameEndpoint_trans
    {first second third : Endpoint}
    (early : sameEndpoint first second = true)
    (late : sameEndpoint second third = true) :
    sameEndpoint first third = true := by
  simp only [sameEndpoint, sameIp, decide_eq_true_eq] at early late ⊢
  obtain ⟨⟨client, client6⟩, ⟨server, server6⟩, clientPort, serverPort⟩ := early
  rw [client, client6, server, server6, clientPort, serverPort]
  exact late

section

variable {ike : IkeServer}

variable {c : Nat} {endpoint : Endpoint}

theorem AtEndpoint.congr
    {endpoint other : Endpoint}
    (there : AtEndpoint ike endpoint c)
    (same : sameEndpoint endpoint other = true) :
    AtEndpoint ike other c := by
  obtain ⟨client, listed, here, at_⟩ := there
  exact ⟨client, listed, here, sameEndpoint_trans at_ same⟩

theorem AtEndpoint.unique
    (distinct : Distinct ike)
    {endpoint other : Endpoint}
    (there : AtEndpoint ike endpoint c)
    (here : AtEndpoint ike other c) :
    sameEndpoint endpoint other = true := by
  obtain ⟨client, listed, address, first⟩ := there
  obtain ⟨again, againListed, againAddress, second⟩ := here
  have same : client = again :=
    distinct.clientsUnique.eq_of_key listed againListed (address.trans againAddress.symm)
  subst same
  exact sameEndpoint_trans (sameEndpoint_symm first) second

theorem Distinct.newIkeClient
    (distinct : Distinct ike)
    (endpoint : Endpoint) :
    Distinct (newIkeClient ike endpoint) where
  clientsUnique :=
    distinct.clientsUnique.cons fun other listed =>
      Nat.ne_of_lt (distinct.clientsOld other listed)
  clientsOld c listed := by
    obtain rfl | old := List.mem_cons.mp listed
    · exact Nat.lt_succ_self _
    · exact (distinct.clientsOld c old).trans (Nat.lt_succ_self _)
  ownersOld sa listed := (distinct.ownersOld sa listed).trans (Nat.lt_succ_self _)
  atMostOne := by
    have before : ∀ {endpoint' : Endpoint} {c : Nat}, c < ike.nextAddress →
        AtEndpoint (Ike.newIkeClient ike endpoint) endpoint' c → AtEndpoint ike endpoint' c := by
      rintro endpoint' c old ⟨client, listed, here, same⟩
      obtain rfl | oldListed := List.mem_cons.mp listed
      · exact absurd here (Nat.ne_of_gt old)
      · exact ⟨client, oldListed, here, same⟩
    refine distinct.atMostOne.imp_of_mem fun {left right} leftListed rightListed apart same => ?_
    obtain ⟨there, leftThere, rightThere⟩ := same.endpoint
    exact apart
      { endpoint := ⟨there, before (distinct.ownersOld left leftListed) leftThere,
          before (distinct.ownersOld right rightListed) rightThere⟩
        initiatorCookie := same.initiatorCookie
        mode := same.mode }

theorem Distinct.newIkeSa
    (distinct : Distinct ike)
    (there : AtEndpoint ike endpoint c)
    {header : Header}
    {mode : Mode}
    (free : keyTaken ike endpoint header.initiatorCookie mode = false)
    (content : Phase1Content) :
    Distinct (newIkeSa ike c header mode content) where
  clientsUnique := distinct.clientsUnique
  clientsOld c listed := (distinct.clientsOld c listed).trans (Nat.lt_succ_self _)
  ownersOld sa listed := by
    obtain rfl | old := List.mem_cons.mp listed
    · obtain ⟨client, clientListed, here, _⟩ := there
      exact (here ▸ distinct.clientsOld client clientListed).trans (Nat.lt_succ_self _)
    · exact (distinct.ownersOld sa old).trans (Nat.lt_succ_self _)
  atMostOne := by
    have old := distinct.atMostOne.imp fun {left right} apart
      (same : SameKey (Ike.newIkeSa ike c header mode content) left.name right.name) =>
        apart ⟨same.endpoint, same.initiatorCookie, same.mode⟩
    refine List.Pairwise.cons ?_ old
    intro other listed same
    obtain ⟨shared, newThere, otherThere⟩ := same.endpoint
    have newThere : AtEndpoint ike shared c := newThere
    have otherThere : AtEndpoint ike shared other.ikeClient := otherThere
    have taken : keyTaken ike endpoint header.initiatorCookie mode = true :=
      keyTaken_iff.mpr ⟨other, listed, same.initiatorCookie.symm, same.mode.symm,
        otherThere.congr (newThere.unique distinct there)⟩
    exact absurd taken (by simp [free])

/-! ## Clients that move -/

theorem apart_of_not_movesOnto
    (moved : moves ike c endpoint = true)
    (clear : movesOnto ike c endpoint = false)
    {own other : IkeSa}
    (ownListed : own ∈ ike.ikeSaList)
    (otherListed : other ∈ ike.ikeSaList)
    (owned : own.ikeClient = c)
    (there : AtEndpoint ike endpoint other.ikeClient)
    (cookie : own.initiatorCookie = other.initiatorCookie)
    (mode : own.mode = other.mode) :
    False := by
  have onto : movesOnto ike c endpoint = true :=
    movesOnto_iff.mpr ⟨moved, own, ownListed, owned,
      keyTaken_iff.mpr ⟨other, otherListed, cookie.symm, mode.symm, there⟩⟩
  simp [clear] at onto

/-- What belongs to the client comes to the endpoint, and everything else stays. -/
def Regroups
    (before after : IkeServer)
    (c : Nat)
    (endpoint : Endpoint)
    (owner : Nat → Nat) : Prop :=
  ∀ other shared, AtEndpoint after shared (owner other) →
    if other = c then sameEndpoint shared endpoint = true else AtEndpoint before shared other

theorem Regroups.apart
    {after : IkeServer}
    {owner : Nat → Nat}
    (regroups : Regroups ike after c endpoint owner)
    (moved : moves ike c endpoint = true)
    (clear : movesOnto ike c endpoint = false)
    {left right : IkeSa}
    (leftListed : left ∈ ike.ikeSaList)
    (rightListed : right ∈ ike.ikeSaList)
    (apart : ¬SameKey ike left.name right.name) :
    ¬SameKey after { left.name with ikeClient := owner left.ikeClient }
      { right.name with ikeClient := owner right.ikeClient } := by
  intro same
  obtain ⟨shared, leftThere, rightThere⟩ := same.endpoint
  have leftThere := regroups _ shared leftThere
  have rightThere := regroups _ shared rightThere
  have cookie : left.initiatorCookie = right.initiatorCookie := same.initiatorCookie
  have mode : left.mode = right.mode := same.mode
  by_cases leftOwned : left.ikeClient = c
  · rw [if_pos leftOwned] at leftThere
    by_cases rightOwned : right.ikeClient = c
    · obtain ⟨_, _, client, listed, here, _⟩ := moves_iff.mp moved
      have own : AtEndpoint ike client.endpoint c :=
        ⟨client, listed, here, sameEndpoint_refl client.endpoint⟩
      have leftOwn : AtEndpoint ike client.endpoint left.ikeClient := leftOwned.symm ▸ own
      have rightOwn : AtEndpoint ike client.endpoint right.ikeClient := rightOwned.symm ▸ own
      exact apart ⟨⟨client.endpoint, leftOwn, rightOwn⟩, cookie, mode⟩
    · rw [if_neg rightOwned] at rightThere
      exact apart_of_not_movesOnto moved clear leftListed rightListed leftOwned
        (rightThere.congr leftThere) cookie mode
  · rw [if_neg leftOwned] at leftThere
    by_cases rightOwned : right.ikeClient = c
    · rw [if_pos rightOwned] at rightThere
      exact apart_of_not_movesOnto moved clear rightListed leftListed rightOwned
        (leftThere.congr rightThere) cookie.symm mode.symm
    · rw [if_neg rightOwned] at rightThere
      exact apart ⟨⟨shared, leftThere, rightThere⟩, cookie, mode⟩

theorem Distinct.setIkeClientEndpoint
    (distinct : Distinct ike)
    (moved : moves ike c endpoint = true)
    (clear : movesOnto ike c endpoint = false) :
    Distinct (ike.setIkeClient c fun client => { client with endpoint := endpoint }) where
  clientsUnique := by
    unfold UniqueKeys
    have addresses : (ike.setIkeClient c fun client =>
        { client with endpoint := endpoint }).clientList.map IkeClient.address =
          ike.clientList.map IkeClient.address := map_address_writeAt fun _ => rfl
    rw [addresses]
    exact distinct.clientsUnique
  clientsOld client listed := by
    obtain ⟨old, _⟩ | ⟨old, oldListed, _, rfl⟩ := mem_writeAt listed
    · exact distinct.clientsOld client old
    · exact distinct.clientsOld old oldListed
  ownersOld := distinct.ownersOld
  atMostOne := by
    have regroups : Regroups ike
        (ike.setIkeClient c fun client => { client with endpoint := endpoint }) c endpoint id := by
      rintro other shared ⟨client, listed, here, same⟩
      obtain ⟨oldListed, elsewhere⟩ | ⟨old, oldListed, there, rfl⟩ := mem_writeAt listed
      · rw [if_neg fun own : other = c => elsewhere (here.trans own)]
        exact ⟨client, oldListed, here, same⟩
      · have own : other = c := here.symm.trans there
        rw [if_pos own]
        exact sameEndpoint_symm same
    exact distinct.atMostOne.imp_of_mem fun leftListed rightListed =>
      regroups.apart moved clear leftListed rightListed

theorem Distinct.mergeIkeClient
    (distinct : Distinct ike)
    {client cc : IkeClient}
    (ccListed : cc ∈ ike.clientList)
    (there : sameEndpoint cc.endpoint endpoint = true)
    (moved : moves ike client.address endpoint = true)
    (clear : movesOnto ike client.address endpoint = false) :
    Distinct (mergeIkeClient ike client cc) := by
  have kept : ∀ c ∈ (Ike.mergeIkeClient ike client cc).clientList, c.address ≠ client.address ∧
      ∃ old ∈ ike.clientList, old.place = c.place := by
    intro c listed
    obtain ⟨written, stays⟩ := List.mem_filter.mp listed
    refine ⟨by simpa using stays, ?_⟩
    obtain ⟨old, _⟩ | ⟨old, oldListed, _, rfl⟩ := mem_writeAt written
    · exact ⟨c, old, rfl⟩
    · exact ⟨old, oldListed, rfl⟩
  refine
    { clientsUnique := ?_
      clientsOld := ?_
      ownersOld := ?_
      atMostOne := ?_ }
  · refine UniqueKeys.sublist ?_ List.filter_sublist
    unfold UniqueKeys
    rw [map_address_writeAt]
    · exact distinct.clientsUnique
    · exact fun _ => rfl
  · intro c listed
    obtain ⟨_, old, oldListed, same⟩ := kept c listed
    have address : old.address = c.address := congrArg Prod.fst same
    exact address ▸ distinct.clientsOld old oldListed
  · intro sa listed
    obtain ⟨old, oldListed, rfl⟩ := List.mem_map.mp listed
    dsimp only
    split
    case isTrue => exact distinct.clientsOld cc ccListed
    case isFalse => exact distinct.ownersOld old oldListed
  · have regroups : Regroups ike (Ike.mergeIkeClient ike client cc) client.address endpoint
        fun owner => if owner = client.address then cc.address else owner := by
      rintro owner shared ⟨c, listed, here, same⟩
      dsimp only at here
      obtain ⟨_, old, oldListed, place⟩ := kept c listed
      have address : old.address = c.address := congrArg Prod.fst place
      have endpoints : old.endpoint = c.endpoint := congrArg Prod.snd place
      have at_ : AtEndpoint ike shared c.address :=
        ⟨old, oldListed, address, endpoints ▸ same⟩
      by_cases owned : owner = client.address
      · rw [if_pos owned] at here ⊢
        have ccThere : AtEndpoint ike endpoint cc.address := ⟨cc, ccListed, rfl, there⟩
        exact (here ▸ at_).unique distinct ccThere
      · rw [if_neg owned] at here ⊢
        exact here ▸ at_
    exact List.pairwise_map.mpr (distinct.atMostOne.imp_of_mem fun leftListed rightListed =>
      regroups.apart moved clear leftListed rightListed)

end

section

variable {ike : IkeServer}

theorem ends_any {Result : Type} (computation : Except Fault Result) :
    Ends (fun _ => True) computation fun _ => True := by
  cases computation <;> trivial

theorem setIkeClientEndpoint_distinct
    (distinct : Distinct ike)
    (c : Nat)
    (arrival : Arrival)
    (clear : movesOnto ike c arrival.endpoint = false) :
    Ends (fun _ => True) (setIkeClientEndpoint ike c arrival) fun result =>
      Distinct result.1 := by
  have follows : Ends (fun _ => True) (ike.ikeClient c) fun client =>
      client ∈ ike.clientList ∧ client.address = c := follow_ends trivial
  refine follows.bind ?_
  rintro client ⟨listed, here⟩
  split
  case isTrue => exact .pure distinct
  case isFalse ports =>
    split
    case isTrue => exact .pure distinct
    case isFalse differs =>
      split
      case isTrue => exact .pure distinct
      case isFalse usual =>
        have moved : moves ike c arrival.endpoint = true := by
          refine moves_iff.mpr ⟨not_or.mp ports, ?_, client, listed, here,
            Bool.eq_false_of_not_eq_true differs⟩
          obtain ⟨clientPort, serverPort⟩ := not_or.mp usual
          exact ⟨Bool.eq_false_of_not_eq_true clientPort,
            Bool.eq_false_of_not_eq_true serverPort⟩
        cases searched : searchClient ike arrival.found arrival.endpoint with
        | none => exact .pure (distinct.setIkeClientEndpoint moved clear)
        | some cc =>
            obtain ⟨ccListed, there⟩ := searchClient_eq_some searched
            dsimp only
            split
            case isTrue =>
              subst here
              exact .pure (distinct.mergeIkeClient ccListed there moved clear)
            case isFalse => exact .pure (distinct.setIkeClientEndpoint moved clear)

theorem moves_newIkeClient (distinct : Distinct ike) (endpoint : Endpoint) :
    moves (newIkeClient ike endpoint) ike.nextAddress endpoint = false := by
  refine Bool.eq_false_of_not_eq_true fun moved => ?_
  obtain ⟨_, _, client, listed, here, differs⟩ := moves_iff.mp moved
  obtain rfl | old := List.mem_cons.mp listed
  · simp [sameEndpoint_refl] at differs
  · exact absurd here (Nat.ne_of_lt (distinct.clientsOld client old))

theorem searchOrCreateNewIkeClientForIkePacket_distinct
    (distinct : Distinct ike)
    (arrival : Arrival)
    (header : Header)
    (clear : packetMovesOnto ike arrival header = false) :
    Ends (fun _ => True) (searchOrCreateNewIkeClientForIkePacket ike arrival header)
      fun result => Distinct result.1 := by
  unfold searchOrCreateNewIkeClientForIkePacket
  split
  case isTrue => exact .pure distinct
  case isFalse =>
    cases searched : searchIkeClientForIkePacket ike arrival header with
    | error fault => trivial
    | ok found =>
        cases found with
        | some c =>
            refine setIkeClientEndpoint_distinct distinct c arrival ?_
            simpa [packetMovesOnto, searched] using clear
        | none =>
            change Ends _ (if _ then _ else _) _
            split
            case isTrue => exact .pure distinct
            case isFalse =>
              refine setIkeClientEndpoint_distinct (distinct.newIkeClient arrival.endpoint)
                ike.nextAddress arrival ?_
              rw [movesOnto, moves_newIkeClient distinct, Bool.false_and]

end

/-! ## First messages -/

/-- The server and the client that a first message meets: the client is where the message
comes from, and no IKE SA has changed. -/
structure FirstArrival
    (ike : IkeServer)
    (arrival : Arrival)
    (header : Header)
    (after : IkeServer)
    (c : Nat) : Prop where
  there : AtEndpoint after arrival.endpoint c
  sas : after.ikeSaList = ike.ikeSaList
  old : ∀ {endpoint other}, other < ike.nextAddress →
    (AtEndpoint after endpoint other ↔ AtEndpoint ike endpoint other)
  room : getNumberOfIkeSaOfIkeClient after c ≤ IKE_QUOTA_MAX_SA_PER_CLIENT →
    roomForIkeSa ike arrival header = true

section

variable {ike : IkeServer}

variable {header : Header}

theorem searchIkeClientForIkePacket_first
    (arrival : Arrival)
    (first : header.responderCookie = 0) :
    Ends (fun _ => True) (searchIkeClientForIkePacket ike arrival header) fun found =>
      ∀ c, found = some c → AtEndpoint ike arrival.endpoint c := by
  unfold searchIkeClientForIkePacket
  rw [if_neg fun both => both.2 first]
  have skipped : Ends (fun _ => True) (pure none : Except Fault (Option Nat))
      fun byCookies => byCookies = none := .pure rfl
  refine skipped.bind ?_
  rintro _ rfl
  dsimp only
  cases searched : searchClient ike arrival.found arrival.endpoint with
  | none => exact .pure nofun
  | some client =>
      obtain ⟨listed, same⟩ := searchClient_eq_some searched
      refine (ends_any _).bind fun ok _ => .pure fun c chosen => ?_
      split at chosen
      case isTrue =>
        injection chosen with address
        exact ⟨client, listed, address, same⟩
      case isFalse => exact nomatch chosen

theorem setIkeClientEndpoint_there
    (distinct : Distinct ike)
    {c : Nat}
    {arrival : Arrival}
    (there : AtEndpoint ike arrival.endpoint c) :
    Ends (fun _ => True) (setIkeClientEndpoint ike c arrival) fun result =>
      result.1 = ike ∧ ∀ other, result.2 = some other → other = c := by
  have follows : Ends (fun _ => True) (ike.ikeClient c) fun client =>
      client ∈ ike.clientList ∧ client.address = c := follow_ends trivial
  refine follows.bind ?_
  rintro client ⟨listed, here⟩
  split
  case isTrue => exact .pure ⟨rfl, nofun⟩
  case isFalse =>
    have own : AtEndpoint ike client.endpoint c :=
      ⟨client, listed, here, sameEndpoint_refl client.endpoint⟩
    rw [if_pos (own.unique distinct there)]
    exact .pure ⟨rfl, fun other same => (Option.some.inj same).symm⟩

theorem atEndpoint_newIkeClient
    {endpoint shared : Endpoint}
    {other : Nat}
    (old : other < ike.nextAddress) :
    AtEndpoint (newIkeClient ike endpoint) shared other ↔ AtEndpoint ike shared other := by
  constructor
  · rintro ⟨client, listed, here, same⟩
    obtain rfl | oldListed := List.mem_cons.mp listed
    · exact absurd here (Nat.ne_of_gt old)
    · exact ⟨client, oldListed, here, same⟩
  · rintro ⟨client, listed, here, same⟩
    exact ⟨client, List.mem_cons_of_mem _ listed, here, same⟩

theorem searchOrCreateNewIkeClientForIkePacket_first
    (distinct : Distinct ike)
    (arrival : Arrival)
    (first : header.responderCookie = 0) :
    Ends (fun _ => True) (searchOrCreateNewIkeClientForIkePacket ike arrival header)
      fun result => ∀ c, result.2 = some c →
        FirstArrival ike arrival header result.1 c := by
  unfold searchOrCreateNewIkeClientForIkePacket
  split
  case isTrue => exact .pure nofun
  case isFalse =>
    have finds : Ends (fun _ => True) (searchIkeClientForIkePacket ike arrival header)
        fun found => ∀ c, found = some c → AtEndpoint ike arrival.endpoint c :=
      searchIkeClientForIkePacket_first arrival first
    cases searched : searchIkeClientForIkePacket ike arrival header with
    | error fault => trivial
    | ok found =>
        cases found with
        | some c =>
            have there := finds.of_ok searched c rfl
            refine (setIkeClientEndpoint_there distinct there).mono ?_
            rintro ⟨after, next⟩ ⟨rfl, same⟩ other chosen
            obtain rfl := same other chosen
            exact
              { there := there
                sas := rfl
                old := fun _ => Iff.rfl
                room := fun few => by simpa [roomForIkeSa, searched] using few }
        | none =>
            change Ends _ (if _ then _ else _) _
            split
            case isTrue => exact .pure nofun
            case isFalse room =>
              have there : AtEndpoint (newIkeClient ike arrival.endpoint) arrival.endpoint
                  ike.nextAddress :=
                ⟨_, List.mem_cons_self, rfl, sameEndpoint_refl arrival.endpoint⟩
              refine (setIkeClientEndpoint_there (distinct.newIkeClient arrival.endpoint)
                there).mono ?_
              rintro ⟨after, next⟩ ⟨rfl, same⟩ other chosen
              obtain rfl := same other chosen
              exact
                { there := there
                  sas := rfl
                  old := fun old => atEndpoint_newIkeClient old
                  room := fun _ => by simpa [roomForIkeSa, searched] using room }

theorem findIkeSaByEndPoint_none
    (distinct : Distinct ike)
    (endpoint : Endpoint)
    (initCookie : UInt64)
    (mode : Mode)
    (sas : List IkeSa) :
    Ends (fun _ => True) (findIkeSaByEndPoint ike endpoint initCookie mode sas) fun found =>
      found = none → ∀ sa ∈ sas, sa.initiatorCookie = initCookie → sa.mode = mode →
        ¬AtEndpoint ike endpoint sa.ikeClient := by
  induction sas with
  | nil => exact .pure fun _ sa listed => absurd listed List.not_mem_nil
  | cons sa rest inductionHypothesis =>
      have follows : Ends (fun _ => True) (ike.ikeClient sa.ikeClient) fun client =>
          client ∈ ike.clientList ∧ client.address = sa.ikeClient := follow_ends trivial
      refine follows.bind ?_
      rintro client ⟨listed, here⟩
      split
      case isTrue => exact .pure nofun
      case isFalse differs =>
        refine inductionHypothesis.mono fun found later nothing other otherListed => ?_
        obtain rfl | otherRest := List.mem_cons.mp otherListed
        · intro cookie sameMode there
          have own : AtEndpoint ike client.endpoint other.ikeClient :=
            ⟨client, listed, here, sameEndpoint_refl client.endpoint⟩
          exact differs ⟨own.unique distinct there, cookie, sameMode⟩
        · exact later nothing other otherRest

theorem startPhase1_distinct
    {after : IkeServer}
    {c : Nat}
    {arrival : Arrival}
    (before : Distinct ike)
    (distinct : Distinct after)
    (met : FirstArrival ike arrival header after c)
    (nonzero : header.initiatorCookie ≠ 0)
    (first : header.responderCookie = 0)
    (mode : Mode)
    (content : Phase1Content)
    (clear : startsAnother ike arrival header mode content = false) :
    Ends (fun _ => True) (startPhase1 after c arrival header mode content) Distinct := by
  have taken : ∀ {endpoint}, keyTaken after endpoint header.initiatorCookie mode =
      keyTaken ike endpoint header.initiatorCookie mode := by
    intro endpoint
    rw [Bool.eq_iff_iff, keyTaken_iff, keyTaken_iff, met.sas]
    refine exists_congr fun sa => and_congr_right fun listed => ?_
    rw [met.old (before.ownersOld sa listed)]
  unfold startPhase1
  split
  case isTrue => exact .pure distinct
  case isFalse parsed =>
    refine (findIkeSaByEndPoint_none distinct arrival.endpoint.swapped header.initiatorCookie mode
      after.ikeSaList).bind fun existing unmet => ?_
    cases existing with
    | some sa => exact .pure distinct
    | none =>
        dsimp only
        split
        case isTrue suits =>
          split
          case isTrue => exact .pure distinct
          case isFalse exchange =>
            refine (ends_any _).bind fun _ _ => .pure (distinct.newIkeSa met.there ?_ content)
            have unmatched : keyTaken ike arrival.endpoint.swapped header.initiatorCookie mode =
                false := by
              refine Bool.eq_false_of_not_eq_true fun matched => ?_
              obtain ⟨sa, listed, cookie, sameMode, there⟩ := keyTaken_iff.mp (taken.trans matched)
              exact unmet rfl sa listed cookie sameMode there
            have room := met.room suits.2
            have whole : content.parsed = true ∧ content.natTraversal = true := by
              simpa [not_or] using parsed
            have exchanged : (decide (mode = .main) || content.keyExchange) = true := by
              cases mode with
              | main => rfl
              | aggressive => simpa using exchange
            rw [taken]
            simpa [startsAnother, nonzero, first, whole, suits.1, exchanged, room,
              unmatched] using clear
        case isFalse => exact (ends_any _).bind fun _ _ => .pure distinct

end

/-! ## Handlers that bring no IKE SA -/

/-- The computation brings no IKE SA and no endpoint. -/
abbrev Tame (ike : IkeServer) (computation : Except Fault IkeServer) : Prop :=
  Ends (fun _ => True) computation (Shrinks ike)

section

variable {ike : IkeServer}

theorem Tame.read
    {Result : Type}
    {computation : Except Fault Result}
    {next : Result → Except Fault IkeServer}
    (rest : ∀ result, Tame ike (next result)) :
    Tame ike (computation >>= next) :=
  (ends_any computation).bind fun result _ => rest result

theorem Tame.andThen
    {computation : Except Fault IkeServer}
    {next : IkeServer → Except Fault IkeServer}
    (first : Tame ike computation)
    (rest : ∀ middle, Tame middle (next middle)) :
    Tame ike (computation >>= next) :=
  first.bind fun middle shrinks => (rest middle).mono fun _ later => shrinks.trans later

theorem Tame.after
    {middle : IkeServer}
    {computation : Except Fault IkeServer}
    (shrinks : Shrinks ike middle)
    (rest : Tame middle computation) :
    Tame ike computation :=
  rest.mono fun _ later => shrinks.trans later

theorem Tame.foldlM
    {Item : Type}
    {body : IkeServer → Item → Except Fault IkeServer}
    (items : List Item)
    (tame : ∀ state item, Tame state (body state item)) :
    Tame ike (items.foldlM body ike) :=
  Ends.foldlM (Shrinks ike) (.refl ike) fun state item _ shrinks =>
    Tame.after shrinks (tame state item)

/-- Nothing is done. -/
theorem Tame.stay : Tame ike (pure ike) :=
  .pure (.refl ike)

theorem markIkeSaAsDeleted_tame (ike : IkeServer) (sa : Nat) :
    Tame ike (markIkeSaAsDeleted ike sa) := by
  unfold markIkeSaAsDeleted
  refine .read fun ikeSa => ?_
  split
  case isTrue => exact .stay
  case isFalse =>
    have marked : Shrinks ike (ike.setIkeSa sa fun ikeSa => { ikeSa with deleting := true }) :=
      .setIkeSa (.refl ike) fun _ => rfl
    exact .read fun _ => .pure ⟨marked.sas, marked.clients, marked.nextAddress⟩

theorem markIPsecSaAsDeleted_tame (ike : IkeServer) (sa : Nat) :
    Tame ike (markIPsecSaAsDeleted ike sa) := by
  unfold markIPsecSaAsDeleted
  refine .read fun ipsecSa => ?_
  split
  case isTrue => exact .stay
  case isFalse => exact .read fun _ => .pure (.of_sameLists rfl rfl (Nat.le_refl _))

theorem markIkeClientAsDeleted_tame (ike : IkeServer) (c : Nat) :
    Tame ike (markIkeClientAsDeleted ike c) := by
  unfold markIkeClientAsDeleted
  refine .read fun client => ?_
  split
  case isTrue => exact .stay
  case isFalse =>
    have marked : Shrinks ike (ike.setIkeClient c fun client =>
        { client with deleting := true }) := .setIkeClient (.refl ike) fun _ => rfl
    exact .pure ⟨marked.sas, marked.clients, marked.nextAddress⟩

theorem procDeletePayload_tame (ike : IkeServer) (c : Nat) (payload : DeletePayload) :
    Tame ike (procDeletePayload ike c payload) := by
  cases payload with
  | ipsecEsp spis =>
      refine .foldlM spis fun state spi => ?_
      cases searchIPsecSaBySpi state c spi with
      | none => exact .stay
      | some sa => exact markIPsecSaAsDeleted_tame state sa.address
  | ike cookies =>
      refine .foldlM cookies fun state cookie => ?_
      cases findIkeSaByResponderCookie state cookie with
      | none => exact .stay
      | some sa =>
          dsimp only
          split
          case isTrue => exact markIkeSaAsDeleted_tame state sa.address
          case isFalse => exact .stay

/-- The IKE SAs and the clients of a notification have communicated. -/
def touchNotice (ike : IkeServer) (c ikeSa found used : Nat) : IkeServer :=
  let touch (sa : IkeSa) : IkeSa := { sa with lastCommTick := ike.now }
  (((ike.setIkeSa found touch).setIkeSa ikeSa touch).setIkeClient c fun client =>
    { client with lastCommTick := ike.now }).setIkeClient used fun client =>
      { client with lastCommTick := ike.now, currentIkeSa := some ikeSa }

theorem Shrinks.touchNotice (ike : IkeServer) (c ikeSa found used : Nat) :
    Shrinks ike (touchNotice ike c ikeSa found used) :=
  .setIkeClient (.setIkeClient
    (.setIkeSa (.setIkeSa (.refl ike) fun _ => rfl) fun _ => rfl) fun _ => rfl) fun _ => rfl

theorem procNoticePayload_tame
    (ike : IkeServer)
    (c ikeSa : Nat)
    (notice : NoticePayload) :
    Tame ike (procNoticePayload ike c ikeSa notice) := by
  unfold procNoticePayload
  split
  case isTrue => exact .stay
  case isFalse =>
    cases searchIkeSaByCookie ike notice.initCookie notice.respCookie with
    | none => exact .stay
    | some found =>
        dsimp only
        split
        case isTrue =>
          have touched : ∀ used, Tame ike (do
              let _ ← ike.ikeClient used
              pure (touchNotice ike c ikeSa found.address used)) := fun used =>
            .read fun _ => .pure (.touchNotice ike c ikeSa found.address used)
          split
          case isTrue => exact .read fun _ => .read fun used => touched used.ikeClient
          case isFalse => exact .read fun used => touched used.ikeClient
        case isFalse => exact .stay

/-! ## Quick mode and ESP -/

theorem Shrinks.insertPair
    {after : IkeServer}
    {cs sc : IPsecSa}
    (shrinks : Shrinks ike after) :
    Shrinks ike (insertPair after cs sc) :=
  ⟨shrinks.sas, shrinks.clients, shrinks.nextAddress.trans (Nat.le_add_right _ 2)⟩

theorem startQuickMode_tame (ike : IkeServer) (c : Nat) (start : QuickStart) :
    Tame ike (startQuickMode ike c start) := by
  unfold startQuickMode
  refine .read fun client => ?_
  split
  · exact .read fun _ => .read fun _ => .pure (.insertPair (.refl ike))
  · exact .stay

theorem procQuickFirst_tame
    (algorithms : Algorithms)
    (ike : IkeServer)
    (c : Nat)
    (header : Header)
    (sa : IkeSa)
    (content : QuickFirst) :
    Tame ike (procQuickFirst algorithms ike c header sa content) := by
  unfold procQuickFirst
  split
  · exact .read fun _ => .stay
  · split
    case isTrue =>
      dsimp only
      split
      case isTrue =>
        exact .read fun _ =>
          .pure (.insertPair (.setIkeClient (.refl ike) fun _ => rfl))
      case isFalse => exact .pure (.setIkeClient (.refl ike) fun _ => rfl)
    case isFalse => exact .read fun _ => .stay

theorem Shrinks.establishPair (ike : IkeServer) (c : Nat) (cs sc : IPsecSa) :
    Shrinks ike (establishPair ike c cs sc) :=
  .setIkeClient (.setIPsecSa (.setIPsecSa (.refl ike))) fun _ => rfl

theorem procQuickSecond_tame
    (algorithms : Algorithms)
    (ike : IkeServer)
    (c : Nat)
    (cs sc : IPsecSa)
    (content : QuickSecond) :
    Tame ike (procQuickSecond algorithms ike c cs sc content) := by
  unfold procQuickSecond
  split
  · exact .read fun _ => .stay
  · split
    case isTrue =>
      exact .read fun _ => .pure (.setIPsecSa (.setIPsecSa (.establishPair ike c cs sc)))
    case isFalse => exact .stay

theorem procQuickNext_tame
    (algorithms : Algorithms)
    (ike : IkeServer)
    (c : Nat)
    (cs : IPsecSa)
    (content : QuickContent) :
    Tame ike (procQuickNext algorithms ike c cs content) := by
  unfold procQuickNext
  split
  · exact .stay
  · refine .read fun sc => ?_
    split
    case isTrue => exact .stay
    case isFalse =>
      refine .read fun _ => ?_
      split
      · exact Ends.error trivial
      · split
        case isTrue => exact .pure (.establishPair ike c cs sc)
        case isFalse => exact .stay
      · split
        case isTrue => exact procQuickSecond_tame algorithms ike c cs sc _
        case isFalse => exact .stay
      · exact .stay

def withServer (service : Service) (client : IkeClient) : IkeClient :=
  match service with
  | .l2tp => { client with l2tp := true }
  | .etherIP => { client with etherIP := true }

theorem place_withServer (service : Service) (client : IkeClient) :
    (withServer service client).place = client.place := by
  cases service <;> rfl

theorem manageServer_tame (ike : IkeServer) (c : Nat) (service : Service) :
    Tame ike (manageServer ike c service) := by
  unfold manageServer
  refine .read fun client => ?_
  have done : Tame ike (pure (ike.setIkeClient c (withServer service))) :=
    .pure (.setIkeClient (.refl ike) (place_withServer service))
  dsimp only
  split
  · split
    all_goals
      split
      case isTrue => exact done
      case isFalse => exact .read fun _ => done
  · exact done

theorem deliver_tame
    (algorithms : Algorithms)
    (ike : IkeServer)
    (c : Nat)
    (sa : IPsecSa)
    (payload : List UInt8) :
    Tame ike (deliver algorithms ike c sa payload) := by
  unfold deliver
  split
  · exact .stay
  · exact manageServer_tame ike c _

theorem updateStatus_tame (ike : IkeServer) (arrival : Arrival) (sa : IPsecSa) :
    Tame ike (updateStatus ike arrival sa) := by
  unfold updateStatus
  refine .read fun _ => ?_
  dsimp only
  split
  · exact .pure (.setIPsecSa (.setIkeClient (.refl ike) fun _ => rfl))
  · refine .read fun _ => .pure ?_
    split
    case isTrue =>
      exact .setIPsecSa (.setIPsecSa (.setIPsecSa (.setIkeClient
        (.setIkeClient (.refl ike) fun _ => rfl) fun _ => rfl)))
    case isFalse =>
      exact .setIPsecSa (.setIPsecSa (.setIkeClient
        (.setIkeClient (.refl ike) fun _ => rfl) fun _ => rfl))

theorem startQuickModeAsSoon_tame (ike : IkeServer) (sa : IPsecSa) (data : List UInt8) :
    Tame ike (startQuickModeAsSoon ike sa data) := by
  unfold startQuickModeAsSoon
  split
  case isTrue =>
    exact .read fun _ => .pure (.setIPsecSa (.setIkeClient (.refl ike) fun _ => rfl))
  case isFalse => exact .stay

end

/-! ## Purging and interrupts -/

section

variable {ike : IkeServer}

theorem purgeIPsecSa_tame (ike : IkeServer) (sa : Nat) : Tame ike (purgeIPsecSa ike sa) := by
  unfold purgeIPsecSa
  refine .read fun _ => .read fun other => .pure ⟨.refl _, ?_, Nat.le_refl _⟩
  rw [List.map_map]
  exact .refl _

theorem replaceIkeSa_tame
    (sa : Nat)
    (other : Option IkeSa)
    (ike : IkeServer)
    (ipsecSa : Nat) :
    Tame ike (replaceIkeSa sa other ike ipsecSa) := by
  unfold replaceIkeSa
  refine .read fun current => ?_
  split
  case isTrue => exact .stay
  case isFalse =>
    cases other with
    | none =>
        exact (markIPsecSaAsDeleted_tame ike ipsecSa).andThen fun middle =>
          .pure (.setIPsecSa (.refl middle))
    | some other => exact .pure (.setIPsecSa (.refl ike))

theorem purgeIkeSa_tame (ike : IkeServer) (sa : Nat) : Tame ike (purgeIkeSa ike sa) := by
  unfold purgeIkeSa
  refine .read fun ikeSa => ?_
  refine (Tame.foldlM _ fun state ipsecSa =>
    replaceIkeSa_tame sa (getOtherLatestIkeSa ike ikeSa) state ipsecSa).andThen fun middle => ?_
  refine .pure ⟨List.filter_sublist.map IkeSa.name, ?_, Nat.le_refl _⟩
  rw [List.map_map]
  exact .refl _

theorem purgeIkeClient_tame (ike : IkeServer) (c : Nat) : Tame ike (purgeIkeClient ike c) := by
  unfold purgeIkeClient
  refine (Tame.foldlM _ fun state sa => ?_).andThen fun middle =>
    (Tame.foldlM _ fun state sa => ?_).andThen fun last =>
      .pure ⟨.refl _, List.filter_sublist.map IkeClient.place, Nat.le_refl _⟩
  · refine .read fun ikeSa => ?_
    split
    case isTrue => exact markIkeSaAsDeleted_tame state sa
    case isFalse => exact .stay
  · refine .read fun ipsecSa => ?_
    split
    case isTrue => exact markIPsecSaAsDeleted_tame state sa
    case isFalse => exact .stay

theorem purgeDeletingSAsAndClients_tame (ike : IkeServer) :
    Tame ike (purgeDeletingSAsAndClients ike) :=
  (Tame.foldlM _ purgeIkeSa_tame).andThen fun _ =>
    (Tame.foldlM _ purgeIPsecSa_tame).andThen fun _ => .foldlM _ purgeIkeClient_tame

theorem purgeWhileChanged_tame (rounds : Nat) (ike : IkeServer) :
    Tame ike (purgeWhileChanged rounds ike) := by
  induction rounds generalizing ike with
  | zero => exact .error trivial
  | succ rounds inductionHypothesis =>
      have cleared : Shrinks ike { ike with stateHasChanged := false } :=
        .of_sameLists rfl rfl (Nat.le_refl _)
      refine .after cleared ((purgeDeletingSAsAndClients_tame _).andThen fun middle => ?_)
      split
      case isTrue => exact inductionHypothesis middle
      case isFalse => exact .stay

theorem interruptIkeSa_tame (timedOut : Nat → Bool) (ike : IkeServer) (sa : Nat) :
    Tame ike (interruptIkeSa timedOut ike sa) := by
  unfold interruptIkeSa
  refine .read fun _ => .read fun _ => ?_
  split
  case isTrue => exact markIkeSaAsDeleted_tame ike sa
  case isFalse => exact .stay

theorem interruptIPsecSa_tame (timedOut : Nat → Bool) (ike : IkeServer) (sa : Nat) :
    Tame ike (interruptIPsecSa timedOut ike sa) := by
  unfold interruptIPsecSa
  refine .read fun _ => .read fun _ => ?_
  split
  case isTrue =>
    refine .read fun _ => ?_
    split
    case isTrue => exact markIPsecSaAsDeleted_tame ike sa
    case isFalse => exact .stay
  case isFalse => exact .stay

theorem ipsecSendPacketByIkeClient_tame (c : Nat) (ike : IkeServer) (softLimit : Bool) :
    Tame ike (ipsecSendPacketByIkeClient c ike softLimit) := by
  unfold ipsecSendPacketByIkeClient
  refine .read fun _ => ?_
  split
  · exact .stay
  · refine .read fun _ => .read fun _ => ?_
    split
    case isTrue => exact .pure (.setIkeClient (.setIPsecSa (.refl ike)) fun _ => rfl)
    case isFalse => exact .stay

theorem interruptQuickMode_tame (ike : IkeServer) (interrupt : Interrupt) (c : Nat) :
    Tame ike (interruptQuickMode ike interrupt c) := by
  unfold interruptQuickMode
  refine .read fun _ => ?_
  split
  · refine .read fun _ => ?_
    split
    case isTrue => exact .stay
    case isFalse =>
      refine .after ?_ (startQuickMode_tame _ c _)
      exact .setIkeClient (.refl ike) fun _ => rfl
  · exact .stay

theorem interruptServers_tame (ike : IkeServer) (interrupt : Interrupt) (c : Nat) :
    Tame ike (interruptServers ike interrupt c) := by
  unfold interruptServers
  refine .read fun _ => ?_
  split
  case isTrue => exact .foldlM _ fun state softLimit => ipsecSendPacketByIkeClient_tame c state _
  case isFalse => exact .stay

theorem interruptIkeClient_tame (interrupt : Interrupt) (ike : IkeServer) (c : Nat) :
    Tame ike (interruptIkeClient interrupt ike c) := by
  unfold interruptIkeClient
  refine (interruptQuickMode_tame ike interrupt c).andThen fun started => ?_
  have rest : ∀ marked, Tame marked (do
      let ike ← interruptServers marked interrupt c
      interruptDpd ike interrupt c
      pure ike) := fun marked =>
    (interruptServers_tame marked interrupt c).andThen fun _ => .read fun _ => .stay
  dsimp only
  split
  case isTrue => exact (markIkeClientAsDeleted_tame started c).andThen rest
  case isFalse => exact Tame.stay.andThen rest

theorem processIKEInterrupts_tame (ike : IkeServer) (interrupt : Interrupt) :
    Tame ike (processIKEInterrupts ike interrupt) := by
  have clocked : Shrinks ike { ike with now := interrupt.now } :=
    .of_sameLists rfl rfl (Nat.le_refl _)
  refine .after clocked ((Tame.foldlM _ ?_).andThen fun _ => (Tame.foldlM _ ?_).andThen fun _ =>
    (Tame.foldlM _ ?_).andThen fun ike => purgeWhileChanged_tame _ ike)
  · exact interruptIkeSa_tame interrupt.ikeSaTimedOut
  · exact interruptIPsecSa_tame interrupt.ipsecSaTimedOut
  · exact interruptIkeClient_tame interrupt

end

/-! ## Packets -/

section

variable {ike : IkeServer}

theorem Distinct.of_tame
    {computation : Except Fault IkeServer}
    (distinct : Distinct ike)
    (tame : Tame ike computation) :
    Ends (fun _ => True) computation Distinct :=
  tame.mono fun _ shrinks => distinct.of_shrinks shrinks

theorem procDecrypted_distinct
    (algorithms : Algorithms)
    (distinct : Distinct ike)
    (arrival : Arrival)
    (data : List UInt8)
    (sa : IPsecSa)
    (payload : List UInt8)
    (clear : movesOnto ike sa.ikeClient arrival.endpoint = false) :
    Ends (fun _ => True) (procDecrypted algorithms ike arrival data sa payload) Distinct := by
  unfold procDecrypted
  split
  case isTrue => exact .pure distinct
  case isFalse =>
    have before : Tame ike (do
        let ike ← deliver algorithms (ike.setIPsecSa sa.address fun other =>
            { other with totalSize := sa.totalSize + payload.length }) sa.ikeClient
          { sa with totalSize := sa.totalSize + payload.length } payload
        updateStatus ike arrival { sa with totalSize := sa.totalSize + payload.length }) :=
      .after (.setIPsecSa (.refl ike)) ((deliver_tame ..).andThen fun ike =>
        updateStatus_tame ike arrival _)
    rw [← bind_assoc]
    refine before.bind fun middle shrinks => ?_
    have stays : movesOnto middle sa.ikeClient arrival.endpoint = false := by
      refine Bool.eq_false_of_not_eq_true fun onto => ?_
      simpa [clear] using shrinks.movesOnto onto
    refine (setIkeClientEndpoint_distinct (distinct.of_shrinks shrinks) sa.ikeClient arrival
      stays).bind ?_
    rintro ⟨after, _⟩ moved
    exact moved.of_tame (startQuickModeAsSoon_tame after _ data)

theorem procIPsecEspPacketRecv_distinct
    (algorithms : Algorithms)
    (distinct : Distinct ike)
    (arrival : Arrival)
    (data : List UInt8)
    (clear : ∀ sa payload, espPayload algorithms ike data = some (sa, payload) →
      movesOnto ike sa.ikeClient arrival.endpoint = false) :
    Ends (fun _ => True) (procIPsecEspPacketRecv algorithms ike arrival data) Distinct := by
  unfold procIPsecEspPacketRecv
  cases found : espSa ike data with
  | none => exact .pure distinct
  | some sa =>
      dsimp only
      split
      case isTrue => exact .pure distinct
      case isFalse right =>
        split
        case isTrue => exact .pure distinct
        case isFalse blocks =>
          cases made : sa.cryptoKey with
          | none => exact .error trivial
          | some key =>
              dsimp only
              generalize decrypted : algorithms.decrypt key _ _ = payload
              by_cases padded :
                  payload.length - 2 < (payload.getD (payload.length - 2) 0).toNat
              · unfold procDecrypted
                rw [if_pos padded]
                exact .pure distinct
              · have processed : espPayload algorithms ike data = some (sa, payload) := by
                  simpa [espPayload, found, made, right, blocks, decrypted] using padded
                exact procDecrypted_distinct algorithms distinct arrival data sa payload
                  (clear sa payload processed)

theorem phase1_distinct
    (distinct : Distinct ike)
    (arrival : Arrival)
    {header : Header}
    (nonzero : header.initiatorCookie ≠ 0)
    (mode : Mode)
    (content : Phase1Content)
    (clear : phase1Crowds ike arrival header mode content = false) :
    Ends (fun _ => True) (searchOrCreateNewIkeClientForIkePacket ike arrival header)
      fun result => Distinct result.1 ∧ ∀ c, result.2 = some c → header.responderCookie = 0 →
        Ends (fun _ => True) (startPhase1 result.1 c arrival header mode content) Distinct := by
  obtain ⟨onto, another⟩ : packetMovesOnto ike arrival header = false ∧
      startsAnother ike arrival header mode content = false := by
    simpa [phase1Crowds, nonzero] using clear
  have found := searchOrCreateNewIkeClientForIkePacket_distinct distinct arrival header onto
  by_cases first : header.responderCookie = 0
  · have met := searchOrCreateNewIkeClientForIkePacket_first distinct arrival first
    refine (found.and met).mono fun result both => ⟨both.1, fun c chosen _ => ?_⟩
    exact startPhase1_distinct distinct both.1 (both.2 c chosen) nonzero first mode content another
  · exact found.mono fun result kept => ⟨kept, fun _ _ zero => absurd zero first⟩

theorem Shrinks.establishIkeSa
    {after : IkeServer}
    {c sa : Nat}
    (shrinks : Shrinks ike after) :
    Shrinks ike (establishIkeSa after c sa) :=
  .setIkeClient (.setIkeSa shrinks fun _ => rfl) fun _ => rfl

theorem procIkeMainModePacketRecv_distinct
    (distinct : Distinct ike)
    (arrival : Arrival)
    (header : Header)
    (content : Phase1Content)
    (clear : phase1Crowds ike arrival header .main content = false) :
    Ends (fun _ => True) (procIkeMainModePacketRecv ike arrival header content) Distinct := by
  unfold procIkeMainModePacketRecv
  split
  case isTrue => exact .pure distinct
  case isFalse nonzero =>
    refine (phase1_distinct distinct arrival nonzero .main content clear).bind ?_
    rintro ⟨after, c⟩ ⟨kept, starts⟩
    cases c with
    | none => exact .pure kept
    | some c =>
        dsimp only
        split
        case isTrue first => exact starts c rfl first
        case isFalse =>
          refine kept.of_tame ?_
          have touched : ∀ sa, Shrinks after
              (after.setIkeSa sa fun sa => { sa with lastCommTick := after.now }) := fun _ =>
            .setIkeSa (.refl after) fun _ => rfl
          split
          · exact .read fun _ => .stay
          · split
            case isTrue => exact .stay
            case isFalse =>
              split
              · refine .read fun _ => ?_
                split
                case isTrue =>
                  exact .read fun _ => .pure (.setIkeSa (touched _) fun _ => rfl)
                case isFalse => exact .pure (touched _)
              · refine .read fun _ => ?_
                split
                case isTrue => exact .read fun _ => .pure (touched _).establishIkeSa
                case isFalse => exact .pure (touched _)
              · exact .pure (touched _)

theorem procIkeAggressiveModePacketRecv_distinct
    (distinct : Distinct ike)
    (arrival : Arrival)
    (header : Header)
    (content : Phase1Content)
    (clear : phase1Crowds ike arrival header .aggressive content = false) :
    Ends (fun _ => True) (procIkeAggressiveModePacketRecv ike arrival header content)
      Distinct := by
  unfold procIkeAggressiveModePacketRecv
  split
  case isTrue => exact .pure distinct
  case isFalse nonzero =>
    refine (phase1_distinct distinct arrival nonzero .aggressive content clear).bind ?_
    rintro ⟨after, c⟩ ⟨kept, starts⟩
    cases c with
    | none => exact .pure kept
    | some c =>
        dsimp only
        split
        case isTrue first => exact starts c rfl first
        case isFalse =>
          refine kept.of_tame ?_
          have touched : ∀ sa, Shrinks after
              (after.setIkeSa sa fun sa => { sa with lastCommTick := after.now }) := fun _ =>
            .setIkeSa (.refl after) fun _ => rfl
          split
          · exact .read fun _ => .stay
          · split
            case isTrue => exact .stay
            case isFalse =>
              split
              · refine .read fun _ => ?_
                split
                case isTrue => exact .pure (touched _).establishIkeSa
                case isFalse => exact .pure (touched _)
              · exact .pure (touched _)

theorem procIkeInformationalExchangePacketRecv_distinct
    (distinct : Distinct ike)
    (arrival : Arrival)
    (header : Header)
    (content : Option InformationalContent)
    (clear : (header.ofPhase2 && packetMovesOnto ike arrival header) = false) :
    Ends (fun _ => True) (procIkeInformationalExchangePacketRecv ike arrival header content)
      Distinct := by
  unfold procIkeInformationalExchangePacketRecv
  split
  case isTrue => exact .pure distinct
  case isFalse fits =>
    have whole : header.ofPhase2 = true := by
      simpa [Header.ofPhase2, not_or] using fits
    rw [whole, Bool.true_and] at clear
    refine (searchOrCreateNewIkeClientForIkePacket_distinct distinct arrival header clear).bind ?_
    rintro ⟨after, c⟩ kept
    cases c with
    | none => exact .pure kept
    | some c =>
        refine kept.of_tame ?_
        dsimp only
        split
        · split
          case isTrue =>
            exact (Tame.foldlM _ fun state payload =>
              procDeletePayload_tame state c payload).andThen fun middle =>
                .foldlM _ fun state notice => procNoticePayload_tame state c _ notice
          case isFalse => exact .stay
        · exact .stay

theorem procIkeQuickModePacketRecv_distinct
    (algorithms : Algorithms)
    (distinct : Distinct ike)
    (arrival : Arrival)
    (header : Header)
    (content : QuickContent)
    (clear : (header.ofPhase2 && packetMovesOnto ike arrival header) = false) :
    Ends (fun _ => True) (procIkeQuickModePacketRecv algorithms ike arrival header content)
      Distinct := by
  unfold procIkeQuickModePacketRecv
  split
  case isTrue => exact .pure distinct
  case isFalse fits =>
    have whole : header.ofPhase2 = true := by
      simpa [Header.ofPhase2, not_or] using fits
    rw [whole, Bool.true_and] at clear
    refine (searchOrCreateNewIkeClientForIkePacket_distinct distinct arrival header clear).bind ?_
    rintro ⟨after, c⟩ kept
    cases c with
    | none => exact .pure kept
    | some c =>
        refine kept.of_tame ?_
        dsimp only
        cases findIkeSaByResponderCookieAndClient after header.responderCookie c with
        | none => exact .read fun _ => .stay
        | some sa =>
            have touched : Shrinks after ((after.setIkeSa sa.address fun sa =>
                { sa with lastCommTick := after.now }).setIkeClient sa.ikeClient fun client =>
                  { client with
                    lastCommTick := after.now
                    currentIkeSa := some sa.address }) :=
              .setIkeClient (.setIkeSa (.refl after) fun _ => rfl) fun _ => rfl
            dsimp only
            split
            case isTrue =>
              refine .read fun _ => .after touched ?_
              split
              · exact procQuickNext_tame algorithms _ c _ content
              · split
                · exact procQuickFirst_tame algorithms _ c header sa _
                · exact .stay
            case isFalse => exact .stay

end

section

variable (algorithms : Algorithms)

theorem proc_distinct
    {ike : IkeServer}
    (distinct : Distinct ike)
    (event : Event)
    (clear : crowds ike algorithms event = false) :
    Ends (fun _ => True) (proc algorithms ike event) Distinct := by
  have now : ∀ now, Distinct { ike with now := now } := fun _ =>
    distinct.of_shrinks (.of_sameLists rfl rfl (Nat.le_refl _))
  cases event with
  | main arrival header content =>
      exact procIkeMainModePacketRecv_distinct (now _) arrival header content clear
  | aggressive arrival header content =>
      exact procIkeAggressiveModePacketRecv_distinct (now _) arrival header content clear
  | quick arrival header content =>
      exact procIkeQuickModePacketRecv_distinct algorithms (now _) arrival header content clear
  | informational arrival header content =>
      exact procIkeInformationalExchangePacketRecv_distinct (now _) arrival header content clear
  | esp arrival data =>
      refine procIPsecEspPacketRecv_distinct algorithms (now _) arrival data
        fun sa payload processed => ?_
      simpa [crowds, processed] using clear
  | interrupt interrupt => exact distinct.of_tame (processIKEInterrupts_tame ike interrupt)

/-- In a run without a first message that starts another IKE SA, and without a packet that
moves a client onto one, there is at most one IKE SA for an endpoint, a cookie of the
initiator and a mode. -/
theorem atMostOne_of_reaches
    {ike : IkeServer}
    (reached : Reaches (step algorithms)
      (fun before event => crowds before algorithms event = false) {} ike) :
    AtMostOne ike := by
  have distinct : Distinct ike := by
    refine reached.invariant Distinct .initial fun before event after kept clear stepped => ?_
    exact (proc_distinct algorithms kept event clear).of_ok (proc_eq_ok_of_step stepped)
  exact distinct.atMostOne

/-- The first message of the second client once more; the server makes another cookie. -/
def secondClientAgain : Event :=
  .main (arrivalFrom 3)
    { initiatorCookie := 5, responderCookie := 0, messageId := 0, flagEncrypted := false }
    (rightPhase1 7)

/-- A first message of main mode that is sent twice starts two IKE SAs. -/
theorem not_atMostOne_secondClientAgain :
    Reached plainAlgorithms (stateAfter [secondClient, secondClientAgain]) ∧
      ¬AtMostOne (stateAfter [secondClient, secondClientAgain]) := by
  refine ⟨reached_stateAfter _, fun atMostOne => ?_⟩
  have names : (stateAfter [secondClient, secondClientAgain]).ikeSaList.map IkeSa.name =
      [{ ikeClient := 2, initiatorCookie := 5, mode := .main },
        { ikeClient := 0, initiatorCookie := 5, mode := .main }] := by
    decide +kernel
  have there : AtEndpoint (stateAfter [secondClient, secondClientAgain]) (endpointOf 3) 2 ∧
      AtEndpoint (stateAfter [secondClient, secondClientAgain]) (endpointOf 3) 0 := by
    unfold AtEndpoint
    decide +kernel
  have apart := atMostOne.names
  rw [names] at apart
  exact (List.pairwise_cons.mp apart).1 _ (List.mem_singleton_self _)
    { endpoint := ⟨endpointOf 3, there⟩
      initiatorCookie := rfl
      mode := rfl }

/-- The rule after both clients have come. -/
theorem atMostOne_secondClient :
    ∃ ike, runChecked (step plainAlgorithms)
        (fun before event => !crowds before plainAlgorithms event)
        (establishing ++ [secondClient]) {} = some ike ∧ AtMostOne ike := by
  cases ran : runChecked (step plainAlgorithms)
      (fun before event => !crowds before plainAlgorithms event)
      (establishing ++ [secondClient]) {} with
  | none => exact absurd (congrArg Option.isSome ran) (by decide +kernel)
  | some ike =>
      exact ⟨ike, rfl, atMostOne_of_reaches plainAlgorithms
        ((Reaches.of_runChecked ran).mono fun _ _ clear => by simpa using clear)⟩

end

end Ike
end SoftEther
