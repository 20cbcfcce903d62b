import SoftEther.Cedar.Ike.Server
import SoftEther.Library.KeyedTables

/-!
# The objects of the IKE server

The pointers between clients, IKE SAs and IPsec SAs lead to objects of the lists, and the
IPsec SAs that ESP packets are verified with have keys unless the server has started
their quick mode and waits for an answer.
-/

namespace SoftEther
namespace Ike

open Library

/-! ## What pointers lead to -/

def ClientAt (ike : IkeServer) (place : Nat) : Prop :=
  Allocated IkeClient.address ike.clientList place

def IkeSaAt (ike : IkeServer) (place owner : Nat) : Prop :=
  ∃ sa ∈ ike.ikeSaList, sa.address = place ∧ sa.ikeClient = owner

/-- An IPsec SA of a direction lies at the address. -/
def IPsecSaAt (ike : IkeServer) (place : Nat) (serverToClient : Bool) : Prop :=
  ∃ sa ∈ ike.ipsecSaList, sa.address = place ∧ sa.serverToClient = serverToClient

/-- What lies at an address in one state lies there in another one. -/
structure Keeps (before after : IkeServer) : Prop where
  client : ∀ {place}, ClientAt before place → ClientAt after place
  ikeSa : ∀ {place owner}, IkeSaAt before place owner → IkeSaAt after place owner
  ipsecSa : ∀ {place serverToClient},
    IPsecSaAt before place serverToClient → IPsecSaAt after place serverToClient

theorem Keeps.refl (ike : IkeServer) : Keeps ike ike :=
  ⟨id, id, id⟩

theorem Keeps.trans
    {first second third : IkeServer}
    (early : Keeps first second)
    (late : Keeps second third) :
    Keeps first third :=
  ⟨fun held => late.client (early.client held),
    fun held => late.ikeSa (early.ikeSa held),
    fun held => late.ipsecSa (early.ipsecSa held)⟩

/-- The keys of an SA have been derived from its key material. -/
def IPsecSa.HasKeys (sa : IPsecSa) : Prop :=
  ∃ keyMat, sa.keyMat = some keyMat ∧
    sa.cryptoKey = some (keyMat.take sa.transformSetting.cryptoKeySize) ∧
    sa.hashKey = hashKeyOf sa.transformSetting keyMat

/-- The server has started the quick mode of the SA and waits for the second packet. -/
def IPsecSa.Waiting (sa : IPsecSa) : Prop :=
  sa.initiated = true ∧ sa.established = false

instance (sa : IPsecSa) : Decidable sa.Waiting :=
  inferInstanceAs (Decidable (_ ∧ _))

/-- An SA has its keys, unless it waits for the second packet. -/
def IPsecSa.KeysFit (sa : IPsecSa) : Prop :=
  if sa.Waiting then sa.cryptoKey = none else sa.HasKeys

structure ClientPointers (ike : IkeServer) (c : IkeClient) : Prop where
  currentIkeSa : ∀ place, c.currentIkeSa = some place → IkeSaAt ike place c.address
  currentIpSecSaRecv : ∀ place, c.currentIpSecSaRecv = some place →
    Allocated IPsecSa.address ike.ipsecSaList place
  currentIpSecSaSend : ∀ place, c.currentIpSecSaSend = some place →
    Allocated IPsecSa.address ike.ipsecSaList place

/-- The pointers of an IKE SA; while the server purges, the client may be gone before its
SAs are. -/
def IkeSaPointers (purging : Prop) (ike : IkeServer) (sa : IkeSa) : Prop :=
  (purging ∧ sa.deleting = true) ∨ ClientAt ike sa.ikeClient

structure IPsecSaPointers (purging : Prop) (ike : IkeServer) (sa : IPsecSa) : Prop where
  ikeClient : (purging ∧ sa.deleting = true) ∨ ClientAt ike sa.ikeClient
  ikeSa : (purging ∧ sa.deleting = true ∧ sa.ikeSa = none) ∨
    ∃ place, sa.ikeSa = some place ∧ IkeSaAt ike place sa.ikeClient
  pairIPsecSa : ∀ place, sa.pairIPsecSa = some place → IPsecSaAt ike place !sa.serverToClient
  keys : sa.serverToClient = false → sa.KeysFit

/-- The graph of the objects of the server. -/
structure Graph (purging : Prop) (ike : IkeServer) : Prop where
  ikeSasUnique : UniqueKeys IkeSa.address ike.ikeSaList
  ipsecSasUnique : UniqueKeys IPsecSa.address ike.ipsecSaList
  ikeSasOld : ∀ sa ∈ ike.ikeSaList, sa.address < ike.nextAddress
  ipsecSasOld : ∀ sa ∈ ike.ipsecSaList, sa.address < ike.nextAddress
  clients : ∀ c ∈ ike.clientList, ClientPointers ike c
  ikeSas : ∀ sa ∈ ike.ikeSaList, IkeSaPointers purging ike sa
  ipsecSas : ∀ sa ∈ ike.ipsecSaList, IPsecSaPointers purging ike sa

variable {place : Nat} {before after : IkeServer}

theorem IPsecSaAt.allocated
    {ike : IkeServer}
    {serverToClient : Bool}
    (there : IPsecSaAt ike place serverToClient) :
    Allocated IPsecSa.address ike.ipsecSaList place := by
  obtain ⟨sa, listed, here, _⟩ := there
  exact ⟨sa, listed, here⟩

theorem IkeSaAt.allocated
    {ike : IkeServer}
    {place owner : Nat}
    (there : IkeSaAt ike place owner) :
    Allocated IkeSa.address ike.ikeSaList place := by
  obtain ⟨sa, listed, here, _⟩ := there
  exact ⟨sa, listed, here⟩

theorem Keeps.allocated
    (keeps : Keeps before after)
    (allocated : Allocated IPsecSa.address before.ipsecSaList place) :
    Allocated IPsecSa.address after.ipsecSaList place := by
  obtain ⟨sa, listed, here⟩ := allocated
  exact (keeps.ipsecSa ⟨sa, listed, here, rfl⟩).allocated

theorem Keeps.allocatedIkeSa
    (keeps : Keeps before after)
    (allocated : Allocated IkeSa.address before.ikeSaList place) :
    Allocated IkeSa.address after.ikeSaList place := by
  obtain ⟨sa, listed, here⟩ := allocated
  exact (keeps.ikeSa ⟨sa, listed, here, rfl⟩).allocated

theorem ClientPointers.mono
    {c : IkeClient}
    (pointers : ClientPointers before c)
    (keeps : Keeps before after) :
    ClientPointers after c where
  currentIkeSa place same := keeps.ikeSa (pointers.currentIkeSa place same)
  currentIpSecSaRecv place same := keeps.allocated (pointers.currentIpSecSaRecv place same)
  currentIpSecSaSend place same := keeps.allocated (pointers.currentIpSecSaSend place same)

theorem IkeSaPointers.mono
    {purging : Prop}
    {sa : IkeSa}
    (pointers : IkeSaPointers purging before sa)
    (keeps : Keeps before after) :
    IkeSaPointers purging after sa :=
  pointers.imp id keeps.client

theorem IPsecSaPointers.mono
    {purging : Prop}
    {sa : IPsecSa}
    (pointers : IPsecSaPointers purging before sa)
    (keeps : Keeps before after) :
    IPsecSaPointers purging after sa where
  ikeClient := pointers.ikeClient.imp id keeps.client
  ikeSa := pointers.ikeSa.imp id fun ⟨place, same, there⟩ => ⟨place, same, keeps.ikeSa there⟩
  pairIPsecSa place same := keeps.ipsecSa (pointers.pairIPsecSa place same)
  keys := pointers.keys

/-! ## Writing to an object -/

theorem Keeps.setIkeClient
    (ike : IkeServer)
    (place : Nat)
    {change : IkeClient → IkeClient}
    (sameAddress : ∀ c, (change c).address = c.address) :
    Keeps ike (ike.setIkeClient place change) :=
  ⟨(allocated_writeAt sameAddress _).mpr, id, id⟩

structure QuietIkeSa (change : IkeSa → IkeSa) : Prop where
  address : ∀ sa, (change sa).address = sa.address
  ikeClient : ∀ sa, (change sa).ikeClient = sa.ikeClient
  deleting : ∀ sa, sa.deleting = true → (change sa).deleting = true

theorem Keeps.setIkeSa
    (ike : IkeServer)
    (place : Nat)
    {change : IkeSa → IkeSa}
    (quiet : QuietIkeSa change) :
    Keeps ike (ike.setIkeSa place change) := by
  refine ⟨id, ?_, id⟩
  rintro other owner ⟨sa, listed, here, owned⟩
  refine ⟨_, List.mem_map.mpr ⟨sa, listed, rfl⟩, ?_, ?_⟩
  · split
    · rw [quiet.address, here]
    · exact here
  · split
    · rw [quiet.ikeClient, owned]
    · exact owned

theorem Keeps.setIPsecSa
    (ike : IkeServer)
    (place : Nat)
    {change : IPsecSa → IPsecSa}
    (sameAddress : ∀ sa, (change sa).address = sa.address)
    (sameDirection : ∀ sa, (change sa).serverToClient = sa.serverToClient) :
    Keeps ike (ike.setIPsecSa place change) := by
  refine ⟨id, id, ?_⟩
  rintro other direction ⟨sa, listed, here, directed⟩
  refine ⟨_, List.mem_map.mpr ⟨sa, listed, rfl⟩, ?_, ?_⟩
  · split
    · rw [sameAddress, here]
    · exact here
  · split
    · rw [sameDirection, directed]
    · exact directed

section

variable {purging : Prop}
variable {ike : IkeServer}

theorem Graph.setIkeClient
    (graph : Graph purging ike)
    (place : Nat)
    {change : IkeClient → IkeClient}
    (sameAddress : ∀ c, (change c).address = c.address)
    (pointers : ∀ c ∈ ike.clientList, c.address = place → ClientPointers ike (change c)) :
    Graph purging (ike.setIkeClient place change) := by
  have keeps := Keeps.setIkeClient ike place sameAddress
  exact
    { ikeSasUnique := graph.ikeSasUnique
      ipsecSasUnique := graph.ipsecSasUnique
      ikeSasOld := graph.ikeSasOld
      ipsecSasOld := graph.ipsecSasOld
      clients := by
        intro c listed
        obtain ⟨old, _⟩ | ⟨old, oldListed, here, rfl⟩ := mem_writeAt listed
        · exact (graph.clients c old).mono keeps
        · exact (pointers old oldListed here).mono keeps
      ikeSas := fun sa listed => (graph.ikeSas sa listed).mono keeps
      ipsecSas := fun sa listed => (graph.ipsecSas sa listed).mono keeps }

/-- A change of a client that keeps its address and its pointers. -/
structure QuietIkeClient (change : IkeClient → IkeClient) : Prop where
  address : ∀ c, (change c).address = c.address
  currentIkeSa : ∀ c, (change c).currentIkeSa = c.currentIkeSa
  currentIpSecSaRecv : ∀ c, (change c).currentIpSecSaRecv = c.currentIpSecSaRecv
  currentIpSecSaSend : ∀ c, (change c).currentIpSecSaSend = c.currentIpSecSaSend

theorem Graph.setQuietIkeClient
    (graph : Graph purging ike)
    (place : Nat)
    {change : IkeClient → IkeClient}
    (quiet : QuietIkeClient change) :
    Graph purging (ike.setIkeClient place change) := by
  apply graph.setIkeClient place quiet.address
  intro c listed _
  have pointers := graph.clients c listed
  refine ⟨?_, ?_, ?_⟩
  · rw [quiet.currentIkeSa, quiet.address]
    exact pointers.currentIkeSa
  · rw [quiet.currentIpSecSaRecv]
    exact pointers.currentIpSecSaRecv
  · rw [quiet.currentIpSecSaSend]
    exact pointers.currentIpSecSaSend

theorem Graph.setIkeSa
    (graph : Graph purging ike)
    (place : Nat)
    {change : IkeSa → IkeSa}
    (quiet : QuietIkeSa change) :
    Graph purging (ike.setIkeSa place change) := by
  have keeps := Keeps.setIkeSa ike place quiet
  have sameAddresses : (ike.setIkeSa place change).ikeSaList.map IkeSa.address =
      ike.ikeSaList.map IkeSa.address :=
    map_address_writeAt quiet.address
  exact
    { ikeSasUnique := by
        unfold UniqueKeys
        rw [sameAddresses]
        exact graph.ikeSasUnique
      ipsecSasUnique := graph.ipsecSasUnique
      ikeSasOld := by
        intro sa listed
        obtain ⟨old, _⟩ | ⟨old, oldListed, _, rfl⟩ := mem_writeAt listed
        · exact graph.ikeSasOld sa old
        · rw [quiet.address]
          exact graph.ikeSasOld old oldListed
      ipsecSasOld := graph.ipsecSasOld
      clients := fun c listed => (graph.clients c listed).mono keeps
      ikeSas := by
        intro sa listed
        obtain ⟨old, _⟩ | ⟨old, oldListed, _, rfl⟩ := mem_writeAt listed
        · exact (graph.ikeSas sa old).mono keeps
        · have pointers := (graph.ikeSas old oldListed).mono keeps
          unfold IkeSaPointers at pointers ⊢
          rw [quiet.ikeClient]
          exact pointers.imp (fun ⟨held, gone⟩ => ⟨held, quiet.deleting old gone⟩) id
      ipsecSas := fun sa listed => (graph.ipsecSas sa listed).mono keeps }

theorem Graph.setIPsecSa
    (graph : Graph purging ike)
    (place : Nat)
    {change : IPsecSa → IPsecSa}
    (sameAddress : ∀ sa, (change sa).address = sa.address)
    (sameDirection : ∀ sa, (change sa).serverToClient = sa.serverToClient)
    (pointers : ∀ sa ∈ ike.ipsecSaList, sa.address = place →
      IPsecSaPointers purging ike (change sa)) :
    Graph purging (ike.setIPsecSa place change) := by
  have keeps := Keeps.setIPsecSa ike place sameAddress sameDirection
  have sameAddresses : (ike.setIPsecSa place change).ipsecSaList.map IPsecSa.address =
      ike.ipsecSaList.map IPsecSa.address :=
    map_address_writeAt sameAddress
  exact
    { ikeSasUnique := graph.ikeSasUnique
      ipsecSasUnique := by
        unfold UniqueKeys
        rw [sameAddresses]
        exact graph.ipsecSasUnique
      ikeSasOld := graph.ikeSasOld
      ipsecSasOld := by
        intro sa listed
        obtain ⟨old, _⟩ | ⟨old, oldListed, _, rfl⟩ := mem_writeAt listed
        · exact graph.ipsecSasOld sa old
        · rw [sameAddress]
          exact graph.ipsecSasOld old oldListed
      clients := fun c listed => (graph.clients c listed).mono keeps
      ikeSas := fun sa listed => (graph.ikeSas sa listed).mono keeps
      ipsecSas := by
        intro sa listed
        obtain ⟨old, _⟩ | ⟨old, oldListed, here, rfl⟩ := mem_writeAt listed
        · exact (graph.ipsecSas sa old).mono keeps
        · exact (pointers old oldListed here).mono keeps }

/-- A change of an IPsec SA that keeps its pointers. -/
structure QuietIPsecSa (change : IPsecSa → IPsecSa) : Prop where
  address : ∀ sa, (change sa).address = sa.address
  serverToClient : ∀ sa, (change sa).serverToClient = sa.serverToClient
  ikeClient : ∀ sa, (change sa).ikeClient = sa.ikeClient
  ikeSa : ∀ sa, (change sa).ikeSa = sa.ikeSa
  pairIPsecSa : ∀ sa, (change sa).pairIPsecSa = sa.pairIPsecSa
  deleting : ∀ sa, sa.deleting = true → (change sa).deleting = true

theorem Graph.setQuietIPsecSa
    (graph : Graph purging ike)
    (place : Nat)
    {change : IPsecSa → IPsecSa}
    (quiet : QuietIPsecSa change)
    (keys : ∀ sa ∈ ike.ipsecSaList, sa.address = place → sa.serverToClient = false →
      sa.KeysFit → (change sa).KeysFit) :
    Graph purging (ike.setIPsecSa place change) := by
  apply graph.setIPsecSa place quiet.address quiet.serverToClient
  intro sa listed here
  have pointers := graph.ipsecSas sa listed
  refine ⟨?_, ?_, ?_, ?_⟩
  · rw [quiet.ikeClient]
    exact pointers.ikeClient.imp (fun ⟨held, gone⟩ => ⟨held, quiet.deleting sa gone⟩) id
  · rw [quiet.ikeSa, quiet.ikeClient]
    exact pointers.ikeSa.imp
      (fun ⟨held, gone, nowhere⟩ => ⟨held, quiet.deleting sa gone, nowhere⟩) id
  · rw [quiet.pairIPsecSa, quiet.serverToClient]
    exact pointers.pairIPsecSa
  · rw [quiet.serverToClient]
    exact fun clientToServer => keys sa listed here clientToServer (pointers.keys clientToServer)

theorem Graph.of_sameLists
    {other : IkeServer}
    (graph : Graph purging ike)
    (clients : other.clientList = ike.clientList)
    (ikeSas : other.ikeSaList = ike.ikeSaList)
    (ipsecSas : other.ipsecSaList = ike.ipsecSaList)
    (nextAddress : other.nextAddress = ike.nextAddress) :
    Graph purging other := by
  cases other
  cases ike
  dsimp only at clients ikeSas ipsecSas nextAddress
  subst clients ikeSas ipsecSas nextAddress
  exact
    { ikeSasUnique := graph.ikeSasUnique
      ipsecSasUnique := graph.ipsecSasUnique
      ikeSasOld := graph.ikeSasOld
      ipsecSasOld := graph.ipsecSasOld
      clients := fun c listed => (graph.clients c listed).mono ⟨id, id, id⟩
      ikeSas := fun sa listed => (graph.ikeSas sa listed).mono ⟨id, id, id⟩
      ipsecSas := fun sa listed => (graph.ipsecSas sa listed).mono ⟨id, id, id⟩ }

end

end Ike
end SoftEther
