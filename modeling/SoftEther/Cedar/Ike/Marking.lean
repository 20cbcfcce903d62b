import SoftEther.Cedar.Ike.Graph

/-!
# Marking objects for deletion

Sending a packet follows pointers of the graph only.  Marking an SA or a client keeps the
graph, and each mark that changes something leaves fewer SAs that are not marked.
-/

namespace SoftEther
namespace Ike

open Library

section

variable {permitted : Fault → Prop}
variable {purging : Prop}
variable {ike : IkeServer}

theorem sendInformationalExchangePacketEx_ends
    (graph : Graph purging ike)
    {c : Nat}
    (there : ClientAt ike c)
    (forcePlain : Bool) :
    Ends permitted (sendInformationalExchangePacketEx ike c forcePlain) fun _ => True := by
  refine there.follow.bind fun client ⟨listed, _⟩ => ?_
  cases current : client.currentIkeSa with
  | none => exact .pure trivial
  | some sa =>
      cases forcePlain with
      | true => exact .pure trivial
      | false =>
          have allocated := ((graph.clients client listed).currentIkeSa sa current).allocated
          exact allocated.follow.bind fun _ _ => .pure trivial

theorem readIkeSaOf_ends
    {sa : IPsecSa}
    (pointers : IPsecSaPointers False ike sa) :
    Ends permitted (ike.readIkeSaOf sa) fun _ => True := by
  obtain ⟨impossible, _⟩ | ⟨place, same, there⟩ := pointers.ikeSa
  · exact impossible.elim
  · unfold IkeServer.readIkeSaOf
    rw [same]
    exact there.allocated.follow.bind fun _ _ => .pure trivial

theorem IPsecSaPointers.client
    {sa : IPsecSa}
    (pointers : IPsecSaPointers False ike sa) :
    ClientAt ike sa.ikeClient :=
  pointers.ikeClient.resolve_left fun impossible => impossible.1

theorem IkeSaPointers.client
    {sa : IkeSa}
    (pointers : IkeSaPointers False ike sa) :
    ClientAt ike sa.ikeClient :=
  pointers.resolve_left fun impossible => impossible.1

theorem ipsecSaSendPacket_ends
    (graph : Graph False ike)
    {sa : Nat}
    (allocated : Allocated IPsecSa.address ike.ipsecSaList sa) :
    Ends permitted (ipsecSaSendPacket ike sa) fun _ => True := by
  refine allocated.follow.bind fun sa ⟨listed, _⟩ => ?_
  have pointers := graph.ipsecSas sa listed
  refine (readIkeSaOf_ends pointers).bind fun _ _ => ?_
  have sent : Ends permitted
      (do let _ ← ike.ikeClient sa.ikeClient; pure () : Except Fault Unit) fun _ => True :=
    pointers.client.follow.bind fun _ _ => .pure trivial
  cases paired : sa.pairIPsecSa with
  | none => exact sent
  | some pair =>
      refine (pointers.pairIPsecSa pair paired).allocated.follow.bind
        fun other ⟨otherListed, _⟩ => ?_
      exact (readIkeSaOf_ends (graph.ipsecSas other otherListed)).bind fun _ _ => sent

theorem ikeSaSendPacket_ends
    (graph : Graph False ike)
    {sa : Nat}
    (allocated : Allocated IkeSa.address ike.ikeSaList sa) :
    Ends permitted (ikeSaSendPacket ike sa) fun _ => True := by
  refine allocated.follow.bind fun sa ⟨listed, _⟩ => ?_
  exact (graph.ikeSas sa listed).client.follow.bind fun _ _ => .pure trivial

theorem lastCommTickOf_ends
    (graph : Graph purging ike)
    {sa : IPsecSa}
    (listed : sa ∈ ike.ipsecSaList) :
    Ends permitted (lastCommTickOf ike sa) fun _ => True := by
  unfold lastCommTickOf
  split
  case h_1 pair _ paired =>
    have there := (graph.ipsecSas sa listed).pairIPsecSa pair paired
    exact there.allocated.follow.bind fun _ _ => .pure trivial
  case h_2 => exact .pure trivial

/-- There are no more unmarked SAs than before, and fewer if the flag has been set. -/
structure Progress (before after : IkeServer) : Prop where
  fewer : unmarked after ≤ unmarked before
  changed : after.stateHasChanged = true →
    before.stateHasChanged = true ∨ unmarked after < unmarked before

theorem Progress.refl (ike : IkeServer) : Progress ike ike :=
  ⟨le_refl _, .inl⟩

theorem Progress.trans
    {first second third : IkeServer}
    (early : Progress first second)
    (late : Progress second third) :
    Progress first third where
  fewer := late.fewer.trans early.fewer
  changed set := by
    obtain before | less := late.changed set
    · exact (early.changed before).imp id fun less => late.fewer.trans_lt less
    · exact .inr (less.trans_le early.fewer)

theorem Progress.of_sameFlag
    {before after : IkeServer}
    (fewer : unmarked after ≤ unmarked before)
    (same : after.stateHasChanged = before.stateHasChanged) :
    Progress before after :=
  ⟨fewer, fun set => .inl (same ▸ set)⟩

theorem countP_writeAt_le
    {Object : Type}
    {address : Object → Nat}
    {unmarked : Object → Bool}
    {change : Object → Object}
    (marks : ∀ object, unmarked (change object) = true → unmarked object = true)
    (table : List Object)
    (place : Nat) :
    (writeAt address table place change).countP unmarked ≤ table.countP unmarked := by
  unfold writeAt
  rw [List.countP_map]
  apply List.countP_mono_left
  intro object _ counted
  by_cases here : address object = place
  · exact marks object (by simpa [here] using counted)
  · simpa [here] using counted

theorem countP_writeAt_lt
    {Object : Type}
    {address : Object → Nat}
    {unmarked : Object → Bool}
    {table : List Object}
    {place : Nat}
    {change : Object → Object}
    (marks : ∀ object, unmarked (change object) = false)
    (present : ∃ object ∈ table, address object = place ∧ unmarked object = true) :
    (writeAt address table place change).countP unmarked < table.countP unmarked := by
  obtain ⟨object, listed, here, counted⟩ := present
  induction table with
  | nil => exact (List.not_mem_nil listed).elim
  | cons first rest inductionHypothesis =>
      have restFewer := @countP_writeAt_le _ address unmarked change
        (fun object counted => by simp [marks] at counted) rest place
      have unfolded : writeAt address (first :: rest) place change =
          (if address first = place then change first else first) ::
            writeAt address rest place change := by
        simp [writeAt]
      rw [unfolded, List.countP_cons, List.countP_cons]
      obtain rfl | listed := List.mem_cons.mp listed
      · simp [here, marks, counted]
        omega
      · have less := inductionHypothesis listed
        by_cases firstHere : address first = place
        · simp only [firstHere, if_true, marks]
          simp only [Bool.false_eq_true, if_false]
          omega
        · simp only [firstHere, if_false]
          omega

/-! ## Marks -/

/-- What marking an object does. -/
structure Marked (purging : Prop) (before after : IkeServer) : Prop where
  graph : Graph purging after
  keeps : Keeps before after
  progress : Progress before after
  clientList : after.clientList = before.clientList
  changed : after = before ∨ after.stateHasChanged = true

theorem Marked.refl (graph : Graph purging ike) : Marked purging ike ike :=
  ⟨graph, .refl ike, .refl ike, rfl, .inl rfl⟩

theorem Graph.changed (graph : Graph purging ike) (flag : Bool) :
    Graph purging { ike with stateHasChanged := flag } := by
  apply graph.of_sameLists <;> simp

theorem Keeps.changed
    {other : IkeServer}
    (keeps : Keeps ike other)
    (flag : Bool) :
    Keeps ike { other with stateHasChanged := flag } :=
  ⟨keeps.client, keeps.ikeSa, keeps.ipsecSa⟩

theorem markIkeSaAsDeleted_ends
    (graph : Graph purging ike)
    {place : Nat}
    (allocated : Allocated IkeSa.address ike.ikeSaList place) :
    Ends permitted (markIkeSaAsDeleted ike place) fun after =>
      Marked purging ike after ∧ after.ipsecSaList = ike.ipsecSaList ∧
        ∀ sa ∈ after.ikeSaList,
          (sa ∈ ike.ikeSaList ∧ sa.address ≠ place) ∨
            (sa.address = place ∧ sa.deleting = true) := by
  refine allocated.follow.bind fun ikeSa ⟨listed, here⟩ => ?_
  by_cases deleting : ikeSa.deleting = true
  · rw [if_pos deleting]
    refine .pure ⟨.refl graph, rfl, fun sa saListed => ?_⟩
    by_cases same : sa.address = place
    · have rightSa := graph.ikeSasUnique.eq_of_key saListed listed (same.trans here.symm)
      exact .inr ⟨same, rightSa ▸ deleting⟩
    · exact .inl ⟨saListed, same⟩
  · rw [if_neg deleting]
    have client : ClientAt ike ikeSa.ikeClient :=
      (graph.ikeSas ikeSa listed).resolve_left fun gone => deleting gone.2
    have quiet : QuietIkeSa fun sa => { sa with deleting := true } :=
      ⟨fun _ => rfl, fun _ => rfl, fun _ _ => rfl⟩
    have graphAfter := (graph.setIkeSa place quiet).changed true
    refine (sendInformationalExchangePacketEx_ends graphAfter client false).bind fun _ _ => ?_
    have less : unmarked
        { ike.setIkeSa place fun sa => { sa with deleting := true } with
          stateHasChanged := true } < unmarked ike :=
      Nat.add_lt_add_right
        (countP_writeAt_lt (by simp) ⟨ikeSa, listed, here, by simpa using deleting⟩) _
    refine .pure
      ⟨⟨graphAfter, (Keeps.setIkeSa ike place quiet).changed true,
        ⟨less.le, fun _ => .inr less⟩, rfl, .inr rfl⟩, rfl, fun sa saListed => ?_⟩
    obtain kept | ⟨old, _, oldHere, rfl⟩ := mem_writeAt saListed
    · exact .inl kept
    · exact .inr ⟨oldHere, rfl⟩

theorem markIPsecSaAsDeleted_ends
    (graph : Graph purging ike)
    {place : Nat}
    (allocated : Allocated IPsecSa.address ike.ipsecSaList place) :
    Ends permitted (markIPsecSaAsDeleted ike place) fun after =>
      Marked purging ike after ∧ after.ikeSaList = ike.ikeSaList ∧
        ∀ sa ∈ after.ipsecSaList,
          (sa ∈ ike.ipsecSaList ∧ sa.address ≠ place) ∨
            (sa.address = place ∧ sa.deleting = true) := by
  refine allocated.follow.bind fun ipsecSa ⟨listed, here⟩ => ?_
  by_cases deleting : ipsecSa.deleting = true
  · rw [if_pos deleting]
    refine .pure ⟨.refl graph, rfl, fun sa saListed => ?_⟩
    by_cases same : sa.address = place
    · have rightSa := graph.ipsecSasUnique.eq_of_key saListed listed (same.trans here.symm)
      exact .inr ⟨same, rightSa ▸ deleting⟩
    · exact .inl ⟨saListed, same⟩
  · rw [if_neg deleting]
    have client : ClientAt ike ipsecSa.ikeClient :=
      (graph.ipsecSas ipsecSa listed).ikeClient.resolve_left fun gone => deleting gone.2
    have quiet : QuietIPsecSa fun sa => { sa with deleting := true } :=
      ⟨fun _ => rfl, fun _ => rfl, fun _ => rfl, fun _ => rfl, fun _ => rfl, fun _ _ => rfl⟩
    have graphAfter :=
      (graph.setQuietIPsecSa place quiet fun _ _ _ _ fits => fits).changed true
    refine (sendInformationalExchangePacketEx_ends graphAfter client false).bind fun _ _ => ?_
    have less : unmarked
        { ike.setIPsecSa place fun sa => { sa with deleting := true } with
          stateHasChanged := true } < unmarked ike :=
      Nat.add_lt_add_left
        (countP_writeAt_lt (by simp) ⟨ipsecSa, listed, here, by simpa using deleting⟩) _
    refine .pure
      ⟨⟨graphAfter, (Keeps.setIPsecSa ike place quiet.address quiet.serverToClient).changed true,
        ⟨less.le, fun _ => .inr less⟩, rfl, .inr rfl⟩, rfl, fun sa saListed => ?_⟩
    obtain kept | ⟨old, _, oldHere, rfl⟩ := mem_writeAt saListed
    · exact .inl kept
    · exact .inr ⟨oldHere, rfl⟩

theorem markIkeClientAsDeleted_ends
    (graph : Graph purging ike)
    {place : Nat}
    (there : ClientAt ike place) :
    Ends permitted (markIkeClientAsDeleted ike place) fun after =>
      Graph purging after ∧ Keeps ike after := by
  refine there.follow.bind fun client _ => ?_
  by_cases deleting : client.deleting = true
  · rw [if_pos deleting]
    exact .pure ⟨graph, .refl ike⟩
  · rw [if_neg deleting]
    have quiet : QuietIkeClient fun client => { client with deleting := true } :=
      ⟨fun _ => rfl, fun _ => rfl, fun _ => rfl, fun _ => rfl⟩
    have graphAfter := graph.setQuietIkeClient place quiet
    have keeps := Keeps.setIkeClient ike place quiet.address
    exact .pure ⟨graphAfter.changed true, keeps.changed true⟩

end

end Ike
end SoftEther
