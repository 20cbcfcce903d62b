import SoftEther.Cedar.Ike.Marking

/-!
# Purging

Each round first lets the marked IKE SAs go, then the marked IPsec SAs and last the marked
clients, whose SAs it marks.  A round that sets the flag has marked an SA, so the rounds
come to an end, and after the last round nothing that is left is marked.
-/

namespace SoftEther
namespace Ike

open Library

section

variable {permitted : Fault → Prop}
variable {ike : IkeServer}

/-- What a part of a round keeps. -/
structure Purging (start state : IkeServer) : Prop where
  graph : Graph True state
  progress : Progress start state

theorem Purging.trans
    {first second third : IkeServer}
    (early : Purging first second)
    (late : Purging second third) :
    Purging first third :=
  ⟨late.graph, early.progress.trans late.progress⟩

/-! ## IKE SAs -/

theorem getOtherLatestIkeSa_eq_some
    {sa other : IkeSa}
    (found : getOtherLatestIkeSa ike sa = some other) :
    other ∈ ike.ikeSaList ∧ other.address ≠ sa.address ∧ other.ikeClient = sa.ikeClient := by
  have loop : ∀ other, getOtherLatestIkeSa ike sa = some other →
      other ∈ ike.ikeSaList ∧ other.address ≠ sa.address ∧ other.ikeClient = sa.ikeClient := by
    unfold getOtherLatestIkeSa
    refine List.foldlRecOn ike.ikeSaList _ (b := (0, none)) (motive := fun found =>
      ∀ other, found.2 = some other → other ∈ ike.ikeSaList ∧ other.address ≠ sa.address ∧
        other.ikeClient = sa.ikeClient) (fun _ none => nomatch none) ?_
    intro best holds sa2 listed other
    split
    case isTrue later =>
      intro same
      injection same with same
      exact same ▸ ⟨listed, later.1, later.2.1⟩
    case isFalse => exact holds other
  exact loop other found

theorem Graph.setIkeSaOfIPsecSa
    (graph : Graph True ike)
    (place : Nat)
    (new : Option Nat)
    (fits : ∀ sa ∈ ike.ipsecSaList, sa.address = place →
      (new = none ∧ sa.deleting = true) ∨
        ∃ there, new = some there ∧ IkeSaAt ike there sa.ikeClient) :
    Purging ike (ike.setIPsecSa place fun sa => { sa with ikeSa := new }) ∧
      Keeps ike (ike.setIPsecSa place fun sa => { sa with ikeSa := new }) := by
  refine ⟨⟨graph.setIPsecSa place (fun _ => rfl) (fun _ => rfl) fun sa listed here => ?_, ?_⟩,
    .setIPsecSa ike place (fun _ => rfl) fun _ => rfl⟩
  · have pointers := graph.ipsecSas sa listed
    exact
      { ikeClient := pointers.ikeClient
        ikeSa := (fits sa listed here).imp (fun ⟨gone, marked⟩ => ⟨trivial, marked, gone⟩) id
        pairIPsecSa := pointers.pairIPsecSa
        keys := pointers.keys }
  · apply Progress.of_sameFlag
    · exact Nat.add_le_add_left (countP_writeAt_le (by simp) _ _) _
    · simp [IkeServer.setIPsecSa]

theorem replaceIkeSa_ends
    (graph : Graph True ike)
    {sa : IkeSa}
    {other : Option IkeSa}
    (listed : sa ∈ ike.ikeSaList)
    (found : ∀ new, other = some new →
      new ∈ ike.ikeSaList ∧ new.address ≠ sa.address ∧ new.ikeClient = sa.ikeClient)
    {place : Nat}
    (allocated : Allocated IPsecSa.address ike.ipsecSaList place) :
    Ends permitted (replaceIkeSa sa.address other ike place) fun after =>
      Purging ike after ∧ Keeps ike after ∧
        after.clientList = ike.clientList ∧ after.ikeSaList = ike.ikeSaList ∧
        ∀ left ∈ after.ipsecSaList, left.ikeSa = some sa.address →
          left ∈ ike.ipsecSaList ∧ left.address ≠ place := by
  refine allocated.follow.bind fun current ⟨currentListed, here⟩ => ?_
  by_cases uses : current.ikeSa ≠ some sa.address
  · rw [if_pos uses]
    refine .pure ⟨⟨graph, .refl ike⟩, .refl ike, rfl, rfl, fun left leftListed leftUses => ?_⟩
    refine ⟨leftListed, fun same => uses ?_⟩
    rw [← graph.ipsecSasUnique.eq_of_key leftListed currentListed (same.trans here.symm)]
    exact leftUses
  · rw [if_neg uses]
    have uses : current.ikeSa = some sa.address := not_not.mp uses
    cases other with
    | none =>
        refine (markIPsecSaAsDeleted_ends graph allocated).bind
          fun after ⟨marked, sameIkeSas, sas⟩ => ?_
        have fits : ∀ left ∈ after.ipsecSaList, left.address = place → left.deleting = true :=
          fun left leftListed leftHere =>
            (sas left leftListed).elim (fun kept => absurd leftHere kept.2) And.right
        obtain ⟨redirected, keeps⟩ := marked.graph.setIkeSaOfIPsecSa place none
          fun left leftListed leftHere => .inl ⟨rfl, fits left leftListed leftHere⟩
        refine .pure ⟨⟨redirected.graph, marked.progress.trans redirected.progress⟩,
          marked.keeps.trans keeps, marked.clientList, sameIkeSas,
          fun left leftListed leftUses => ?_⟩
        obtain ⟨kept, elsewhere⟩ | ⟨old, _, _, rfl⟩ := mem_writeAt leftListed
        · exact (sas left kept).resolve_right fun there => elsewhere there.1
        · exact nomatch leftUses
    | some new =>
        obtain ⟨newListed, differs, sameClient⟩ := found new rfl
        have fits : ∀ left ∈ ike.ipsecSaList, left.address = place →
            IkeSaAt ike new.address left.ikeClient := by
          intro left leftListed leftHere
          obtain rfl := graph.ipsecSasUnique.eq_of_key leftListed currentListed
            (leftHere.trans here.symm)
          obtain ⟨_, _, nowhere⟩ | ⟨there, same, owner, ownerListed, ownerHere, owned⟩ :=
            (graph.ipsecSas left leftListed).ikeSa
          · exact nomatch nowhere.symm.trans uses
          · obtain rfl := Option.some.inj (same.symm.trans uses)
            obtain rfl := graph.ikeSasUnique.eq_of_key ownerListed listed ownerHere
            exact ⟨new, newListed, rfl, sameClient.trans owned⟩
        obtain ⟨redirected, keeps⟩ := graph.setIkeSaOfIPsecSa place (some new.address)
          fun left leftListed leftHere => .inr ⟨_, rfl, fits left leftListed leftHere⟩
        refine .pure ⟨redirected, keeps, rfl, rfl, fun left leftListed leftUses => ?_⟩
        obtain kept | ⟨old, _, _, rfl⟩ := mem_writeAt leftListed
        · exact kept
        · exact absurd (Option.some.inj leftUses) differs

theorem replaced_eq_some
    {old place : Nat}
    {new pointer : Option Nat}
    (same : replaced old new pointer = some place) :
    (pointer = some old ∧ new = some place) ∨ (pointer = some place ∧ place ≠ old) := by
  unfold replaced at same
  by_cases goes : pointer = some old
  · rw [if_pos goes] at same
    exact .inl ⟨goes, same⟩
  · rw [if_neg goes] at same
    exact .inr ⟨same, fun here => goes (here ▸ same)⟩

theorem Graph.removeIkeSa
    (graph : Graph True ike)
    {sa : IkeSa}
    {other : Option IkeSa}
    (listed : sa ∈ ike.ikeSaList)
    (found : ∀ new, other = some new →
      new ∈ ike.ikeSaList ∧ new.address ≠ sa.address ∧ new.ikeClient = sa.ikeClient)
    (unused : ∀ left ∈ ike.ipsecSaList, left.ikeSa ≠ some sa.address) :
    Graph True
      { ike with
        clientList := ike.clientList.map fun c =>
          { c with
            currentIkeSa := replaced sa.address (other.map IkeSa.address) c.currentIkeSa }
        ikeSaList := ike.ikeSaList.filter fun other => other.address ≠ sa.address } := by
  have stays : ∀ {place owner}, IkeSaAt ike place owner → place ≠ sa.address →
      ∃ left ∈ ike.ikeSaList.filter fun other => decide (other.address ≠ sa.address),
        left.address = place ∧ left.ikeClient = owner := by
    intro place owner ⟨left, leftListed, here, owned⟩ differs
    exact ⟨left, List.mem_filter.mpr ⟨leftListed, by simpa [here] using differs⟩, here, owned⟩
  have clientStays : ∀ {place}, ClientAt ike place →
      Allocated IkeClient.address (ike.clientList.map fun c =>
        { c with
          currentIkeSa := replaced sa.address (other.map IkeSa.address) c.currentIkeSa })
        place := by
    intro place ⟨c, cListed, here⟩
    exact ⟨_, List.mem_map_of_mem cListed, here⟩
  exact
    { ikeSasUnique := graph.ikeSasUnique.sublist List.filter_sublist
      ipsecSasUnique := graph.ipsecSasUnique
      ikeSasOld := fun left leftListed =>
        graph.ikeSasOld left (List.mem_of_mem_filter leftListed)
      ipsecSasOld := graph.ipsecSasOld
      clients := by
        intro c cListed
        obtain ⟨old, oldListed, rfl⟩ := List.mem_map.mp cListed
        have pointers := graph.clients old oldListed
        refine ⟨fun place same => ?_, pointers.currentIpSecSaRecv, pointers.currentIpSecSaSend⟩
        obtain ⟨pointed, fresh⟩ | ⟨kept, differs⟩ := replaced_eq_some same
        · obtain ⟨new, chosen, rfl⟩ := Option.map_eq_some_iff.mp fresh
          obtain ⟨newListed, differs, sameClient⟩ := found new chosen
          obtain ⟨used, usedListed, usedHere, owned⟩ := pointers.currentIkeSa _ pointed
          obtain rfl := graph.ikeSasUnique.eq_of_key usedListed listed usedHere
          exact stays ⟨new, newListed, rfl, sameClient.trans owned⟩ differs
        · exact stays (pointers.currentIkeSa place kept) differs
      ikeSas := fun left leftListed =>
        (graph.ikeSas left (List.mem_of_mem_filter leftListed)).imp id clientStays
      ipsecSas := by
        intro left leftListed
        have pointers := graph.ipsecSas left leftListed
        exact
          { ikeClient := pointers.ikeClient.imp id clientStays
            ikeSa := pointers.ikeSa.imp id fun ⟨place, same, there⟩ =>
              ⟨place, same, stays there fun here => unused left leftListed (here ▸ same)⟩
            pairIPsecSa := pointers.pairIPsecSa
            keys := pointers.keys } }

variable {place : Nat}

theorem purgeIkeSa_ends
    (graph : Graph True ike)
    (allocated : Allocated IkeSa.address ike.ikeSaList place) :
    Ends permitted (purgeIkeSa ike place) fun after =>
      Purging ike after ∧
        after.ikeSaList = ike.ikeSaList.filter fun other => other.address ≠ place := by
  refine allocated.follow.bind fun sa ⟨listed, here⟩ => ?_
  obtain rfl := here
  have found : ∀ new, getOtherLatestIkeSa ike sa = some new → _ := fun new =>
    getOtherLatestIkeSa_eq_some
  generalize getOtherLatestIkeSa ike sa = other at found ⊢
  have loop : Ends permitted
      ((ike.ipsecSaList.map IPsecSa.address).foldlM (replaceIkeSa sa.address other) ike)
      fun state => Purging ike state ∧ Keeps ike state ∧ state.clientList = ike.clientList ∧
        state.ikeSaList = ike.ikeSaList ∧
        ∀ left ∈ state.ipsecSaList, left.ikeSa ≠ some sa.address := by
    refine (Ends.foldlM_addresses IPsecSa.address IkeServer.ipsecSaList
      (fun state => Purging ike state ∧ Keeps ike state ∧ state.clientList = ike.clientList ∧
        state.ikeSaList = ike.ikeSaList)
      (fun left => left.ikeSa = some sa.address) ⟨⟨graph, .refl ike⟩, .refl ike, rfl, rfl⟩
      graph.ipsecSasUnique (fun _ present => List.mem_map.mp present)
      (fun left leftListed _ => List.mem_map_of_mem leftListed) ?_).mono ?_
    · intro state place ⟨purging, keeps, sameClients, sameIkeSas⟩ allocated
      have foundHere := found
      rw [← sameIkeSas] at listed foundHere
      refine (replaceIkeSa_ends purging.graph listed foundHere allocated).mono
        fun after ⟨later, laterKeeps, laterClients, laterIkeSas, left⟩ => ?_
      refine ⟨⟨purging.trans later, keeps.trans laterKeeps, laterClients.trans sameClients,
        laterIkeSas.trans sameIkeSas⟩, fun other otherListed uses => ?_,
        fun _ _ => laterKeeps.allocated⟩
      obtain ⟨before, differs⟩ := left other otherListed uses
      exact ⟨other, before, uses, rfl, differs⟩
    · intro state ⟨⟨purging, keeps, sameClients, sameIkeSas⟩, unused⟩
      exact ⟨purging, keeps, sameClients, sameIkeSas, unused⟩
  refine loop.bind fun state ⟨purging, keeps, sameClients, sameIkeSas, unused⟩ => .pure ?_
  rw [← sameIkeSas] at found listed
  refine ⟨⟨purging.graph.removeIkeSa listed found unused, purging.progress.trans ?_⟩, ?_⟩
  · apply Progress.of_sameFlag
    · exact Nat.add_le_add_right (List.filter_sublist.countP_le) _
    · rfl
  · exact congrArg _ sameIkeSas

/-! ## IPsec SAs -/

theorem getOtherLatestIPsecSa_ends
    (graph : Graph True ike)
    (sa : IPsecSa) :
    Ends permitted (getOtherLatestIPsecSa ike sa) fun found => ∀ other, found = some other →
      other ∈ ike.ipsecSaList ∧ other.address ≠ sa.address ∧
        other.serverToClient = sa.serverToClient := by
  refine (Ends.foldlM
    (fun found : Nat × Option IPsecSa => ∀ other, found.2 = some other →
      other ∈ ike.ipsecSaList ∧ other.address ≠ sa.address ∧
        other.serverToClient = sa.serverToClient)
    (fun _ nothing => by simp at nothing) ?_).bind fun _ found => .pure found
  intro best sa2 listed holds
  split
  case isFalse => exact .pure holds
  case isTrue fits =>
    refine (lastCommTickOf_ends graph listed).bind fun tick _ => .pure ?_
    intro other
    by_cases later : best.1 < tick
    · rw [if_pos later]
      intro same
      injection same with same
      exact same ▸ ⟨listed, fits.1, fits.2.2.1⟩
    · rw [if_neg later]
      exact holds other

def withoutIPsecSa (ike : IkeServer) (place : Nat) (new : Option Nat) : IkeServer :=
  { ike with
    ipsecSaList :=
      (ike.ipsecSaList.map fun sa =>
        { sa with pairIPsecSa := replaced place new sa.pairIPsecSa }).filter
          fun sa => sa.address ≠ place
    clientList := ike.clientList.map fun c =>
      { c with
        currentIpSecSaRecv := replaced place new c.currentIpSecSaRecv
        currentIpSecSaSend := replaced place new c.currentIpSecSaSend } }

theorem IPsecSaAt.without
    {place other : Nat}
    {serverToClient : Bool}
    (there : IPsecSaAt ike other serverToClient)
    (new : Option Nat)
    (differs : other ≠ place) :
    IPsecSaAt (withoutIPsecSa ike place new) other serverToClient := by
  obtain ⟨sa, listed, here, directed⟩ := there
  refine ⟨_, List.mem_filter.mpr ⟨List.mem_map_of_mem listed, ?_⟩, here, directed⟩
  simpa [here] using differs

theorem mem_withoutIPsecSa
    {new : Option Nat}
    {sa : IPsecSa}
    (listed : sa ∈ (withoutIPsecSa ike place new).ipsecSaList) :
    sa.address ≠ place ∧ ∃ old ∈ ike.ipsecSaList,
      sa = { old with pairIPsecSa := replaced place new old.pairIPsecSa } := by
  obtain ⟨mapped, differs⟩ := List.mem_filter.mp listed
  obtain ⟨old, oldListed, rfl⟩ := List.mem_map.mp mapped
  exact ⟨by simpa using differs, old, oldListed, rfl⟩

theorem Graph.removeIPsecSa
    (graph : Graph True ike)
    {sa : IPsecSa}
    {other : Option IPsecSa}
    (listed : sa ∈ ike.ipsecSaList)
    (found : ∀ new, other = some new →
      new ∈ ike.ipsecSaList ∧ new.address ≠ sa.address ∧
        new.serverToClient = sa.serverToClient) :
    Graph True (withoutIPsecSa ike sa.address (other.map IPsecSa.address)) := by
  have clientStays : ∀ {place}, ClientAt ike place →
      ClientAt (withoutIPsecSa ike sa.address (other.map IPsecSa.address)) place := by
    intro place ⟨c, cListed, here⟩
    exact ⟨_, List.mem_map_of_mem cListed, here⟩
  -- A pointer leads to an SA of the same direction as before.
  have redirected : ∀ {pointer place direction},
      replaced sa.address (other.map IPsecSa.address) pointer = some place →
      (∀ there, pointer = some there → IPsecSaAt ike there direction) →
      IPsecSaAt (withoutIPsecSa ike sa.address (other.map IPsecSa.address)) place
        direction := by
    intro pointer place direction same leads
    obtain ⟨pointed, fresh⟩ | ⟨kept, differs⟩ := replaced_eq_some same
    · obtain ⟨new, chosen, rfl⟩ := Option.map_eq_some_iff.mp fresh
      obtain ⟨newListed, differs, sameDirection⟩ := found new chosen
      obtain ⟨used, usedListed, usedHere, directed⟩ := leads _ pointed
      obtain rfl := graph.ipsecSasUnique.eq_of_key usedListed listed usedHere
      have there : IPsecSaAt ike new.address direction :=
        ⟨new, newListed, rfl, sameDirection.trans directed⟩
      exact there.without _ differs
    · exact (leads place kept).without _ differs
  -- The pointers of a client do not fix a direction.
  have redirectedClient : ∀ {pointer place},
      replaced sa.address (other.map IPsecSa.address) pointer = some place →
      (∀ there, pointer = some there → Allocated IPsecSa.address ike.ipsecSaList there) →
      Allocated IPsecSa.address
        (withoutIPsecSa ike sa.address (other.map IPsecSa.address)).ipsecSaList place := by
    intro pointer place same leads
    cases pointed : pointer with
    | none =>
        rw [pointed] at same
        simp [replaced] at same
    | some there =>
        obtain ⟨used, usedListed, usedHere⟩ := leads there pointed
        exact (redirected same fun other same => by
          obtain rfl := Option.some.inj (pointed.symm.trans same)
          exact ⟨used, usedListed, usedHere, rfl⟩).allocated
  exact
    { ikeSasUnique := graph.ikeSasUnique
      ipsecSasUnique := by
        let rewrite (left : IPsecSa) : IPsecSa :=
          { left with
            pairIPsecSa := replaced sa.address (other.map IPsecSa.address) left.pairIPsecSa }
        have unique : UniqueKeys IPsecSa.address (ike.ipsecSaList.map rewrite) := by
          unfold UniqueKeys
          rw [List.map_map]
          exact graph.ipsecSasUnique
        exact unique.sublist List.filter_sublist
      ikeSasOld := graph.ikeSasOld
      ipsecSasOld := by
        intro left leftListed
        obtain ⟨_, old, oldListed, rfl⟩ := mem_withoutIPsecSa leftListed
        exact graph.ipsecSasOld old oldListed
      clients := by
        intro c cListed
        obtain ⟨old, oldListed, rfl⟩ := List.mem_map.mp cListed
        have pointers := graph.clients old oldListed
        exact
          { currentIkeSa := pointers.currentIkeSa
            currentIpSecSaRecv := fun place same =>
              redirectedClient same pointers.currentIpSecSaRecv
            currentIpSecSaSend := fun place same =>
              redirectedClient same pointers.currentIpSecSaSend }
      ikeSas := fun left leftListed => (graph.ikeSas left leftListed).imp id clientStays
      ipsecSas := by
        intro left leftListed
        obtain ⟨_, old, oldListed, rfl⟩ := mem_withoutIPsecSa leftListed
        have pointers := graph.ipsecSas old oldListed
        exact
          { ikeClient := pointers.ikeClient.imp id clientStays
            ikeSa := pointers.ikeSa
            pairIPsecSa := fun place same => redirected same pointers.pairIPsecSa
            keys := pointers.keys } }

theorem purgeIPsecSa_ends
    (graph : Graph True ike)
    (allocated : Allocated IPsecSa.address ike.ipsecSaList place) :
    Ends permitted (purgeIPsecSa ike place) fun after =>
      Purging ike after ∧ after.ikeSaList = ike.ikeSaList ∧
        (∀ sa ∈ after.ipsecSaList, ∃ old ∈ ike.ipsecSaList,
          old.address = sa.address ∧ old.deleting = sa.deleting ∧ sa.address ≠ place) ∧
        ∀ other, other ≠ place → Allocated IPsecSa.address ike.ipsecSaList other →
          Allocated IPsecSa.address after.ipsecSaList other := by
  refine allocated.follow.bind fun sa ⟨listed, here⟩ => ?_
  obtain rfl := here
  refine (getOtherLatestIPsecSa_ends graph sa).bind fun other found => .pure ?_
  refine ⟨⟨graph.removeIPsecSa listed found, ?_⟩, rfl, fun left leftListed => ?_,
    fun place differs ⟨left, leftListed, leftHere⟩ => ?_⟩
  · apply Progress.of_sameFlag
    · refine Nat.add_le_add_left (List.filter_sublist.countP_le.trans ?_) _
      rw [List.countP_map]
      exact le_refl _
    · rfl
  · obtain ⟨differs, old, oldListed, rfl⟩ := mem_withoutIPsecSa leftListed
    exact ⟨old, oldListed, rfl, rfl, differs⟩
  · have there : IPsecSaAt ike place left.serverToClient := ⟨left, leftListed, leftHere, rfl⟩
    exact (there.without _ differs).allocated

/-! ## Clients -/

/-- The flag is set, or no SA is marked. -/
def Settled (ike : IkeServer) : Prop :=
  ike.stateHasChanged = true ∨
    ((∀ sa ∈ ike.ikeSaList, sa.deleting = false) ∧
      ∀ sa ∈ ike.ipsecSaList, sa.deleting = false)

theorem Settled.marked
    {after : IkeServer}
    (settled : Settled ike)
    (marked : Marked True ike after) :
    Settled after :=
  marked.changed.elim (fun same => same ▸ settled) .inl

/-- What the purge of a client keeps while it marks SAs. -/
structure Marking (start state : IkeServer) : Prop where
  purging : Purging start state
  keeps : Keeps start state
  settled : Settled start → Settled state

theorem Marking.refl (graph : Graph True ike) : Marking ike ike :=
  ⟨⟨graph, .refl ike⟩, .refl ike, id⟩

theorem Marking.marked
    {start after : IkeServer}
    (marking : Marking start ike)
    (marked : Marked True ike after) :
    Marking start after :=
  ⟨marking.purging.trans ⟨marked.graph, marked.progress⟩, marking.keeps.trans marked.keeps,
    fun settled => (marking.settled settled).marked marked⟩

theorem markIkeSasOf_ends
    (graph : Graph True ike)
    (c : Nat) :
    Ends permitted
      ((ike.ikeSaList.map IkeSa.address).foldlM
        (fun ike sa => do
          let ikeSa ← ike.ikeSa sa
          if ikeSa.ikeClient = c then markIkeSaAsDeleted ike sa else pure ike)
        ike)
      fun after => Marking ike after ∧
        ∀ sa ∈ after.ikeSaList, sa.ikeClient = c → sa.deleting = true := by
  refine (Ends.foldlM_addresses IkeSa.address IkeServer.ikeSaList (Marking ike)
    (fun sa => sa.ikeClient = c ∧ sa.deleting = false) (.refl graph) graph.ikeSasUnique
    (fun _ present => List.mem_map.mp present)
    (fun sa listed _ => List.mem_map_of_mem listed) ?_).mono ?_
  · intro state place marking there
    have graphHere := marking.purging.graph
    refine there.follow.bind fun found ⟨foundListed, here⟩ => ?_
    by_cases owned : found.ikeClient = c
    · rw [if_pos owned]
      refine (markIkeSaAsDeleted_ends graphHere there).mono fun after ⟨marked, _, sas⟩ => ?_
      refine ⟨marking.marked marked, fun sa listed unmarked => ?_,
        fun _ _ => marked.keeps.allocatedIkeSa⟩
      obtain ⟨before, differs⟩ | ⟨_, isMarked⟩ := sas sa listed
      · exact ⟨sa, before, unmarked, rfl, differs⟩
      · exact nomatch unmarked.2.symm.trans isMarked
    · rw [if_neg owned]
      refine .pure ⟨marking, fun sa listed unmarked =>
        ⟨sa, listed, unmarked, rfl, fun same => owned ?_⟩, fun _ _ => id⟩
      rw [← graphHere.ikeSasUnique.eq_of_key listed foundListed (same.trans here.symm)]
      exact unmarked.1
  · intro state ⟨marking, done⟩
    exact ⟨marking, fun sa listed owned =>
      Bool.of_not_eq_false fun unmarked => done sa listed ⟨owned, unmarked⟩⟩

theorem markIPsecSasOf_ends
    (graph : Graph True ike)
    (c : Nat) :
    Ends permitted
      ((ike.ipsecSaList.map IPsecSa.address).foldlM
        (fun ike sa => do
          let ipsecSa ← ike.ipsecSa sa
          if ipsecSa.ikeClient = c then markIPsecSaAsDeleted ike sa else pure ike)
        ike)
      fun after => Marking ike after ∧ after.ikeSaList = ike.ikeSaList ∧
        ∀ sa ∈ after.ipsecSaList, sa.ikeClient = c → sa.deleting = true := by
  refine (Ends.foldlM_addresses IPsecSa.address IkeServer.ipsecSaList
    (fun state => Marking ike state ∧ state.ikeSaList = ike.ikeSaList)
    (fun sa => sa.ikeClient = c ∧ sa.deleting = false) ⟨.refl graph, rfl⟩ graph.ipsecSasUnique
    (fun _ present => List.mem_map.mp present)
    (fun sa listed _ => List.mem_map_of_mem listed) ?_).mono ?_
  · intro state place ⟨marking, sameIkeSas⟩ there
    have graphHere := marking.purging.graph
    refine there.follow.bind fun found ⟨foundListed, here⟩ => ?_
    by_cases owned : found.ikeClient = c
    · rw [if_pos owned]
      refine (markIPsecSaAsDeleted_ends graphHere there).mono
        fun after ⟨marked, laterIkeSas, sas⟩ => ?_
      refine ⟨⟨marking.marked marked, laterIkeSas.trans sameIkeSas⟩,
        fun sa listed unmarked => ?_, fun _ _ => marked.keeps.allocated⟩
      obtain ⟨before, differs⟩ | ⟨_, isMarked⟩ := sas sa listed
      · exact ⟨sa, before, unmarked, rfl, differs⟩
      · exact nomatch unmarked.2.symm.trans isMarked
    · rw [if_neg owned]
      refine .pure ⟨⟨marking, sameIkeSas⟩, fun sa listed unmarked =>
        ⟨sa, listed, unmarked, rfl, fun same => owned ?_⟩, fun _ _ => id⟩
      rw [← graphHere.ipsecSasUnique.eq_of_key listed foundListed (same.trans here.symm)]
      exact unmarked.1
  · intro state ⟨⟨marking, sameIkeSas⟩, done⟩
    exact ⟨marking, sameIkeSas, fun sa listed owned =>
      Bool.of_not_eq_false fun unmarked => done sa listed ⟨owned, unmarked⟩⟩

theorem Graph.removeIkeClient
    (graph : Graph True ike)
    {c : Nat}
    (ikeSas : ∀ sa ∈ ike.ikeSaList, sa.ikeClient = c → sa.deleting = true)
    (ipsecSas : ∀ sa ∈ ike.ipsecSaList, sa.ikeClient = c → sa.deleting = true) :
    Graph True
      { ike with clientList := ike.clientList.filter fun other => other.address ≠ c } := by
  have stays : ∀ {place}, ClientAt ike place → place ≠ c →
      Allocated IkeClient.address
        (ike.clientList.filter fun other => decide (other.address ≠ c)) place := by
    intro place ⟨client, listed, here⟩ differs
    exact ⟨client, List.mem_filter.mpr ⟨listed, by simpa [here] using differs⟩, here⟩
  exact
    { ikeSasUnique := graph.ikeSasUnique
      ipsecSasUnique := graph.ipsecSasUnique
      ikeSasOld := graph.ikeSasOld
      ipsecSasOld := graph.ipsecSasOld
      clients := by
        intro client listed
        have pointers := graph.clients client (List.mem_of_mem_filter listed)
        exact
          ⟨pointers.currentIkeSa, pointers.currentIpSecSaRecv, pointers.currentIpSecSaSend⟩
      ikeSas := by
        intro sa listed
        by_cases owned : sa.ikeClient = c
        · exact .inl ⟨trivial, ikeSas sa listed owned⟩
        · exact (graph.ikeSas sa listed).imp id fun there => stays there owned
      ipsecSas := by
        intro sa listed
        have pointers := graph.ipsecSas sa listed
        refine ⟨?_, pointers.ikeSa, pointers.pairIPsecSa, pointers.keys⟩
        by_cases owned : sa.ikeClient = c
        · exact .inl ⟨trivial, ipsecSas sa listed owned⟩
        · exact pointers.ikeClient.imp id fun there => stays there owned }

theorem purgeIkeClient_ends
    (graph : Graph True ike)
    (c : Nat) :
    Ends permitted (purgeIkeClient ike c) fun after =>
      Purging ike after ∧ (Settled ike → Settled after) := by
  refine (markIkeSasOf_ends graph c).bind fun first ⟨early, ikeSas⟩ => ?_
  refine (markIPsecSasOf_ends early.purging.graph c).bind
    fun second ⟨late, sameIkeSas, ipsecSas⟩ => .pure ?_
  rw [← sameIkeSas] at ikeSas
  have marked := early.purging.trans late.purging
  exact ⟨⟨marked.graph.removeIkeClient ikeSas ipsecSas,
      marked.progress.trans (.of_sameFlag (le_refl _) rfl)⟩,
    fun settled => late.settled (early.settled settled)⟩

/-! ## Rounds -/

theorem purgeIkeSas_ends (graph : Graph True ike) :
    Ends permitted
      (((ike.ikeSaList.filter IkeSa.deleting).map IkeSa.address).foldlM purgeIkeSa ike)
      fun after => Purging ike after ∧ ∀ sa ∈ after.ikeSaList, sa.deleting = false := by
  refine (Ends.foldlM_addresses IkeSa.address IkeServer.ikeSaList (Purging ike)
    (fun sa => sa.deleting = true) ⟨graph, .refl ike⟩
    (graph.ikeSasUnique.sublist List.filter_sublist) ?_ ?_ ?_).mono ?_
  · intro place present
    obtain ⟨sa, listed, here⟩ := List.mem_map.mp present
    exact ⟨sa, List.mem_of_mem_filter listed, here⟩
  · intro sa listed marked
    exact List.mem_map_of_mem (List.mem_filter.mpr ⟨listed, marked⟩)
  · intro state place purging there
    refine (purgeIkeSa_ends purging.graph there).mono fun after ⟨later, remaining⟩ => ?_
    rw [remaining]
    refine ⟨purging.trans later, fun sa listed marked => ?_, fun other differs allocated => ?_⟩
    · obtain ⟨before, differs⟩ := List.mem_filter.mp listed
      exact ⟨sa, before, marked, rfl, by simpa using differs⟩
    · obtain ⟨sa, listed, here⟩ := allocated
      exact ⟨sa, List.mem_filter.mpr ⟨listed, by simpa [here] using differs⟩, here⟩
  · intro state ⟨purging, done⟩
    exact ⟨purging, fun sa listed => Bool.of_not_eq_true (done sa listed)⟩

theorem purgeIPsecSas_ends (graph : Graph True ike) :
    Ends permitted
      (((ike.ipsecSaList.filter IPsecSa.deleting).map IPsecSa.address).foldlM purgeIPsecSa ike)
      fun after => Purging ike after ∧ after.ikeSaList = ike.ikeSaList ∧
        ∀ sa ∈ after.ipsecSaList, sa.deleting = false := by
  refine (Ends.foldlM_addresses IPsecSa.address IkeServer.ipsecSaList
    (fun state => Purging ike state ∧ state.ikeSaList = ike.ikeSaList)
    (fun sa => sa.deleting = true) ⟨⟨graph, .refl ike⟩, rfl⟩
    (graph.ipsecSasUnique.sublist List.filter_sublist) ?_ ?_ ?_).mono ?_
  · intro place present
    obtain ⟨sa, listed, here⟩ := List.mem_map.mp present
    exact ⟨sa, List.mem_of_mem_filter listed, here⟩
  · intro sa listed marked
    exact List.mem_map_of_mem (List.mem_filter.mpr ⟨listed, marked⟩)
  · intro state place ⟨purging, sameIkeSas⟩ there
    refine (purgeIPsecSa_ends purging.graph there).mono
      fun after ⟨later, laterIkeSas, remaining, stays⟩ => ?_
    refine ⟨⟨purging.trans later, laterIkeSas.trans sameIkeSas⟩, fun sa listed marked => ?_,
      stays⟩
    obtain ⟨old, before, here, sameMark, differs⟩ := remaining sa listed
    exact ⟨old, before, sameMark.trans marked, here, differs⟩
  · intro state ⟨⟨purging, sameIkeSas⟩, done⟩
    exact ⟨purging, sameIkeSas, fun sa listed => Bool.of_not_eq_true (done sa listed)⟩

/-- One round. -/
theorem purgeDeletingSAsAndClients_ends (graph : Graph True ike) :
    Ends permitted (purgeDeletingSAsAndClients ike) fun after =>
      Purging ike after ∧ Settled after := by
  refine (purgeIkeSas_ends graph).bind fun first ⟨one, ikeSas⟩ => ?_
  refine (purgeIPsecSas_ends one.graph).bind fun second ⟨two, sameIkeSas, ipsecSas⟩ => ?_
  have settled : Settled second := .inr ⟨sameIkeSas ▸ ikeSas, ipsecSas⟩
  refine (Ends.foldlM (fun state => Purging second state ∧ Settled state)
    ⟨⟨two.graph, .refl second⟩, settled⟩ ?_).mono ?_
  · intro state c _ ⟨purging, settled⟩
    exact (purgeIkeClient_ends purging.graph c).mono fun after ⟨later, keeps⟩ =>
      ⟨purging.trans later, keeps settled⟩
  · intro state ⟨three, settled⟩
    exact ⟨(one.trans two).trans three, settled⟩

theorem Graph.of_settled
    (graph : Graph True ike)
    (ikeSas : ∀ sa ∈ ike.ikeSaList, sa.deleting = false)
    (ipsecSas : ∀ sa ∈ ike.ipsecSaList, sa.deleting = false) :
    Graph False ike :=
  { graph with
    ikeSas := by
      intro sa listed
      exact (graph.ikeSas sa listed).imp
        (fun gone => nomatch gone.2.symm.trans (ikeSas sa listed)) id
    ipsecSas := by
      intro sa listed
      have pointers := graph.ipsecSas sa listed
      have unmarked := ipsecSas sa listed
      exact
        { ikeClient := pointers.ikeClient.imp
            (fun gone => nomatch gone.2.symm.trans unmarked) id
          ikeSa := pointers.ikeSa.imp
            (fun gone => nomatch gone.2.1.symm.trans unmarked) id
          pairIPsecSa := pointers.pairIPsecSa
          keys := pointers.keys } }

theorem Graph.toPurging (graph : Graph False ike) : Graph True ike :=
  { graph with
    ikeSas := fun sa listed => .inr (graph.ikeSas sa listed).client
    ipsecSas := by
      intro sa listed
      have pointers := graph.ipsecSas sa listed
      exact
        { ikeClient := .inr pointers.client
          ikeSa := .inr (pointers.ikeSa.resolve_left fun impossible => impossible.1)
          pairIPsecSa := pointers.pairIPsecSa
          keys := pointers.keys } }

theorem purgeWhileChanged_ends
    (graph : Graph True ike)
    {rounds : Nat}
    (enough : unmarked ike < rounds) :
    Ends permitted (purgeWhileChanged rounds ike) (Graph False) := by
  induction rounds generalizing ike with
  | zero => exact (Nat.not_lt_zero _ enough).elim
  | succ rounds inductionHypothesis =>
      refine (purgeDeletingSAsAndClients_ends (graph.changed false)).bind
        fun after ⟨purging, settled⟩ => ?_
      by_cases changed : after.stateHasChanged = true
      · rw [if_pos changed]
        -- A round that sets the flag has marked an SA.
        have less := (purging.progress.changed changed).resolve_left Bool.false_ne_true
        have unchanged : unmarked { ike with stateHasChanged := false } = unmarked ike := rfl
        exact inductionHypothesis purging.graph (by omega)
      · rw [if_neg changed]
        obtain ⟨ikeSas, ipsecSas⟩ := settled.resolve_left changed
        exact .pure (purging.graph.of_settled ikeSas ipsecSas)

end

end Ike
end SoftEther
