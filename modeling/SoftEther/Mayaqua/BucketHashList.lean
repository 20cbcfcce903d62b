import Mathlib.Algebra.BigOperators.Group.List.Lemmas
import Mathlib.Data.Multiset.AddSub
import SoftEther.Mayaqua.List

/-!
# Hash lists

`HASH_LIST` of `Memory.c`: a sorted list for each value of the hash, made when the first item
comes and released when the last one goes, a count of the items, and on request a list of all.
-/

namespace SoftEther

/-- `HASH_LIST`; `Entries` beyond `Size` are not used. -/
structure BucketHashList (α : Type) where
  size : Nat
  entries : Nat → Option (MayaquaList α)
  numItems : Nat
  allList : Option (MayaquaList α)

namespace BucketHashList

variable {α : Type} [DecidableEq α] (getHash : α → Nat) (cmp : α → α → Ordering)

/-- `NewHashList`, with a list of all items when `makeList` says so. -/
def new (bits : Nat) (makeList : Bool) : BucketHashList α where
  size := 2 ^ min (if bits = 0 then 16 else bits) 31
  entries := fun _ => none
  numItems := 0
  allList := if makeList then some {} else none

/-- `CalcHashForHashList`. -/
def calcHash (h : BucketHashList α) (p : α) : Nat :=
  getHash p % h.size

def addHash (h : BucketHashList α) (p : α) : BucketHashList α :=
  let r := calcHash getHash h p
  { h with
    entries := Function.update h.entries r (some (((h.entries r).getD {}).insert cmp p))
    allList := h.allList.map fun all => all.add p
    numItems := h.numItems + 1 }

/-- `DeleteHash`, with what it returns. -/
def deleteHash (h : BucketHashList α) (p : α) : Bool × BucketHashList α :=
  let r := calcHash getHash h p
  match h.entries r with
  | none => (false, h)
  | some o =>
      let entries :=
        Function.update h.entries r (if (o.delete p).num = 0 then none else some (o.delete p))
      if p ∈ o.items then
        (true,
          { h with
            entries := entries
            allList := h.allList.map fun all => all.delete p
            numItems := h.numItems - 1 })
      else (false, { h with entries := entries })

/-- `SearchHash`, with the list that `Search` may have sorted. -/
def searchHash (h : BucketHashList α) (t : α) : Option α × BucketHashList α :=
  let r := calcHash getHash h t
  match h.entries r with
  | none => (none, h)
  | some o =>
      let searched := o.search cmp (cmp t)
      (searched.1, { h with entries := Function.update h.entries r (some searched.2) })

/-- The items of a bucket, which may not be there. -/
def itemsOf (entry : Option (MayaquaList α)) : List α :=
  (entry.map MayaquaList.items).getD []

/-- `HashListToArray`. -/
def toArray (h : BucketHashList α) : List α :=
  match h.allList with
  | some all => all.items
  | none => (List.range h.size).flatMap fun i => itemsOf (h.entries i)

inductive Operation (α : Type)
  | add (p : α)
  | delete (p : α)
  | search (t : α)

def step (h : BucketHashList α) : Operation α → BucketHashList α
  | .add p => addHash getHash cmp h p
  | .delete p => (deleteHash getHash h p).2
  | .search t => (searchHash getHash cmp h t).2

def storedAfter (stored : Multiset α) : Operation α → Multiset α
  | .add p => p ::ₘ stored
  | .delete p => stored.erase p
  | .search _ => stored

/-- The hash list holds exactly what is stored. -/
structure Holds (h : BucketHashList α) (stored : Multiset α) : Prop where
  nonempty : 0 < h.size
  numItems : h.numItems = stored.card
  sorted : ∀ i o, h.entries i = some o → o.sorted = true ∧ MayaquaList.Ordered cmp o.items
  placed : ∀ i, ∀ p ∈ itemsOf (h.entries i), calcHash getHash h p = i
  counted : ∀ p, (itemsOf (h.entries (calcHash getHash h p))).count p = stored.count p
  all : ∀ o, h.allList = some o → (o.items : Multiset α) = stored

variable {getHash cmp}

theorem holds_new (bits : Nat) (makeList : Bool) :
    Holds getHash cmp (new bits makeList) 0 where
  nonempty := Nat.two_pow_pos _
  numItems := rfl
  sorted := fun _ _ listed => nomatch listed
  placed := fun _ _ listed => absurd listed List.not_mem_nil
  counted := fun _ => rfl
  all := by
    intro o listed
    cases makeList with
    | false => exact nomatch listed
    | true =>
        injection listed with same
        rw [← same]
        rfl

variable {h : BucketHashList α} {stored : Multiset α}

theorem Holds.getD
    (holds : Holds getHash cmp h stored)
    (i : Nat) :
    (h.entries i).getD {} = ⟨itemsOf (h.entries i), true⟩ ∧
      MayaquaList.Ordered cmp (itemsOf (h.entries i)) := by
  cases listed : h.entries i with
  | none => exact ⟨rfl, List.Pairwise.nil⟩
  | some o =>
      obtain ⟨sorted, ordered⟩ := holds.sorted i o listed
      refine ⟨?_, ordered⟩
      rw [← sorted]
      rfl

theorem Holds.replace
    (holds : Holds getHash cmp h stored)
    {r numItems : Nat}
    {o allList : Option (MayaquaList α)}
    {after : Multiset α}
    (sorted : ∀ new, o = some new → new.sorted = true ∧ MayaquaList.Ordered cmp new.items)
    (placed : ∀ q ∈ itemsOf o, calcHash getHash h q = r)
    (inside : ∀ q, calcHash getHash h q = r → (itemsOf o).count q = after.count q)
    (outside : ∀ q, calcHash getHash h q ≠ r → stored.count q = after.count q)
    (size : numItems = after.card)
    (all : ∀ list, allList = some list → (list.items : Multiset α) = after) :
    Holds getHash cmp ⟨h.size, Function.update h.entries r o, numItems, allList⟩ after := by
  refine ⟨holds.nonempty, size, fun i new listed => ?_, fun i q listed => ?_, fun q => ?_, all⟩
  · by_cases same : i = r
    · subst same
      exact sorted new (by simpa using listed)
    · exact holds.sorted i new (by simpa [same] using listed)
  · by_cases same : i = r
    · subst same
      exact placed q (by simpa using listed)
    · exact holds.placed i q (by simpa [same] using listed)
  · dsimp only [calcHash] at inside outside ⊢
    by_cases same : getHash q % h.size = r
    · rw [same, Function.update_self]
      exact inside q same
    · rw [Function.update_of_ne same, ← outside q same]
      exact holds.counted q

theorem Holds.addHash
    [Std.TransCmp cmp]
    (holds : Holds getHash cmp h stored)
    (p : α) :
    Holds getHash cmp (h.addHash getHash cmp p) (p ::ₘ stored) := by
  obtain ⟨list, ordered⟩ := holds.getD (calcHash getHash h p)
  obtain ⟨before, after, split, items, sorted, inserted⟩ :=
    MayaquaList.exists_insert_items ordered p
  unfold BucketHashList.addHash
  dsimp only
  rw [list]
  have same (q : α) : (itemsOf (some (MayaquaList.insert cmp
      ⟨itemsOf (h.entries (calcHash getHash h p)), true⟩ p))).count q =
        (p :: itemsOf (h.entries (calcHash getHash h p))).count q := by
    have isPerm : (before ++ p :: after).Perm (p :: (before ++ after)) := List.perm_middle
    change (MayaquaList.insert cmp _ p).items.count q = _
    rw [items, isPerm.count_eq, ← split]
  refine holds.replace ?_ ?_ ?_ ?_ ?_ ?_
  · rintro new ⟨⟩
    rw [items]
    exact ⟨sorted, inserted⟩
  · intro q listed
    rw [← List.count_pos_iff, same, List.count_pos_iff] at listed
    obtain rfl | old := List.mem_cons.mp listed
    · rfl
    · exact holds.placed _ q old
  · intro q bucket
    rw [same, List.count_cons, Multiset.count_cons, ← holds.counted q, bucket]
    simp only [beq_iff_eq, @eq_comm _ p q]
  · intro q other
    rw [Multiset.count_cons_of_ne]
    rintro rfl
    exact other rfl
  · rw [Multiset.card_cons, holds.numItems]
  · intro all listed
    obtain ⟨old, found, rfl⟩ := Option.map_eq_some_iff.mp listed
    rw [← holds.all old found]
    exact Multiset.coe_eq_coe.mpr (List.perm_append_singleton p old.items)

theorem Holds.mem_iff
    (holds : Holds getHash cmp h stored)
    (p : α) :
    p ∈ itemsOf (h.entries (calcHash getHash h p)) ↔ p ∈ stored := by
  rw [← List.count_pos_iff, holds.counted, Multiset.count_pos]

theorem itemsOf_delete (o : MayaquaList α) (p : α) :
    itemsOf (if (o.delete p).num = 0 then none else some (o.delete p)) = o.items.erase p := by
  by_cases empty : (o.delete p).num = 0
  · rw [if_pos empty]
    exact (List.length_eq_zero_iff.mp empty).symm
  · rw [if_neg empty]
    rfl

theorem Holds.deleteHash
    (holds : Holds getHash cmp h stored)
    (p : α) :
    Holds getHash cmp (h.deleteHash getHash p).2 (stored.erase p) := by
  have listed := holds.mem_iff p
  have counted := holds.counted
  have placed := holds.placed (calcHash getHash h p)
  have outside (q : α) (other : calcHash getHash h q ≠ calcHash getHash h p) :
      stored.count q = (stored.erase p).count q := by
    rw [Multiset.count_erase_of_ne]
    rintro rfl
    exact other rfl
  unfold BucketHashList.deleteHash
  dsimp only
  cases found : h.entries (calcHash getHash h p) with
  | none =>
      rw [found] at listed
      rw [Multiset.erase_of_notMem fun present => absurd (listed.mpr present) List.not_mem_nil]
      exact holds
  | some o =>
      obtain ⟨flag, ordered⟩ := holds.sorted _ o found
      rw [found] at listed placed
      have sorted (new : MayaquaList α)
          (kept : (if (o.delete p).num = 0 then none else some (o.delete p)) = some new) :
          new.sorted = true ∧ MayaquaList.Ordered cmp new.items := by
        split at kept
        · exact nomatch kept
        · injection kept with kept
          subst kept
          exact ⟨flag, ordered.sublist List.erase_sublist⟩
      have rest (q : α) (member : q ∈ itemsOf
          (if (o.delete p).num = 0 then none else some (o.delete p))) :
          calcHash getHash h q = calcHash getHash h p := by
        rw [itemsOf_delete] at member
        exact placed q (List.mem_of_mem_erase member)
      have inside (q : α) (bucket : calcHash getHash h q = calcHash getHash h p) :
          (itemsOf (if (o.delete p).num = 0 then none else some (o.delete p))).count q =
            (stored.erase p).count q := by
        have before := counted q
        rw [bucket, found] at before
        rw [itemsOf_delete]
        by_cases same : q = p
        · rw [same, List.count_erase_self, Multiset.count_erase_self, ← same, ← before]
          rfl
        · rw [List.count_erase_of_ne same, Multiset.count_erase_of_ne same, ← before]
          rfl
      dsimp only
      by_cases present : p ∈ o.items
      · rw [if_pos present]
        refine holds.replace sorted rest inside outside ?_ ?_
        · rw [Multiset.card_erase_of_mem (listed.mp present), holds.numItems]
          rfl
        · intro all new
          obtain ⟨old, foundAll, rfl⟩ := Option.map_eq_some_iff.mp new
          rw [← holds.all old foundAll, Multiset.coe_erase]
          rfl
      · rw [if_neg present]
        have absent : stored.erase p = stored :=
          Multiset.erase_of_notMem fun member => present (listed.mpr member)
        refine holds.replace sorted rest inside outside ?_ ?_
        · rw [absent, holds.numItems]
        · rw [absent]
          exact holds.all

theorem Holds.searchHash
    [Std.TransCmp cmp]
    (holds : Holds getHash cmp h stored)
    (consistent : ∀ p q, cmp p q = .eq → getHash p = getHash q)
    (t : α) :
    (h.searchHash getHash cmp t).2 = h ∧
      (∀ found, (h.searchHash getHash cmp t).1 = some found → found ∈ stored ∧ cmp t found = .eq) ∧
      ((h.searchHash getHash cmp t).1.isSome = true ↔ ∃ p ∈ stored, cmp t p = .eq) := by
  have bucket (p : α) (equal : cmp t p = .eq) : calcHash getHash h p = calcHash getHash h t := by
    rw [calcHash, calcHash, consistent t p equal]
  unfold BucketHashList.searchHash
  dsimp only
  cases found : h.entries (calcHash getHash h t) with
  | none =>
      refine ⟨rfl, by simp, by simp, ?_⟩
      rintro ⟨p, member, equal⟩
      have listed := (holds.mem_iff p).mpr member
      rw [bucket p equal, found] at listed
      exact absurd listed List.not_mem_nil
  | some o =>
      obtain ⟨items, flag⟩ := o
      obtain ⟨rfl, ordered⟩ := holds.sorted _ _ found
      have sound (p : α) (hit : (MayaquaList.search cmp (cmp t) ⟨items, true⟩).1 = some p) :
          p ∈ stored ∧ cmp t p = .eq := by
        obtain ⟨member, equal⟩ := MayaquaList.search_sound hit
        refine ⟨(holds.mem_iff p).mp ?_, equal⟩
        rw [bucket p equal, found]
        exact member
      refine ⟨?_, sound, fun hit => ?_, ?_⟩
      · change BucketHashList.mk _ (Function.update h.entries _ (some ⟨items, true⟩)) _ _ = h
        rw [← found, Function.update_eq_self]
      · obtain ⟨p, hit⟩ := Option.isSome_iff_exists.mp hit
        exact ⟨p, sound p hit⟩
      · rintro ⟨p, member, equal⟩
        have listed := (holds.mem_iff p).mpr member
        rw [bucket p equal, found] at listed
        exact MayaquaList.search_complete ordered listed equal

theorem Holds.toArray (holds : Holds getHash cmp h stored) : (h.toArray : Multiset α) = stored := by
  unfold BucketHashList.toArray
  cases all : h.allList with
  | some list => exact holds.all list all
  | none =>
      ext p
      have inRange : calcHash getHash h p ∈ List.range h.size :=
        List.mem_range.mpr (Nat.mod_lt _ holds.nonempty)
      dsimp only
      have others : ∀ i, i ≠ calcHash getHash h p → i ∈ List.range h.size →
          (List.count p ∘ fun i => itemsOf (h.entries i)) i = 0 :=
        fun i other _ => List.count_eq_zero.mpr fun member => other (holds.placed i p member).symm
      rw [Multiset.coe_count, List.count_flatMap, ← holds.counted p,
        List.sum_map_eq_nsmul_single _ _ others,
        List.count_eq_one_of_mem List.nodup_range inRange, one_nsmul]
      rfl

theorem Holds.step
    [Std.TransCmp cmp]
    (consistent : ∀ p q, cmp p q = .eq → getHash p = getHash q)
    (holds : Holds getHash cmp h stored)
    (operation : Operation α) :
    Holds getHash cmp (h.step getHash cmp operation) (storedAfter stored operation) := by
  cases operation with
  | add p => exact holds.addHash p
  | delete p => exact holds.deleteHash p
  | search t =>
      change Holds getHash cmp (h.searchHash getHash cmp t).2 stored
      rw [(holds.searchHash consistent t).1]
      exact holds

theorem isSome_allList_step (h : BucketHashList α) (operation : Operation α) :
    (h.step getHash cmp operation).allList.isSome = h.allList.isSome := by
  cases operation with
  | add p => exact Option.isSome_map
  | delete p =>
      unfold BucketHashList.step BucketHashList.deleteHash
      dsimp only
      split
      · rfl
      · split
        · exact Option.isSome_map
        · rfl
  | search t =>
      unfold BucketHashList.step BucketHashList.searchHash
      dsimp only
      split
      · rfl
      · rfl

theorem Holds.foldl
    [Std.TransCmp cmp]
    (consistent : ∀ p q, cmp p q = .eq → getHash p = getHash q)
    (operations : List (Operation α))
    (holds : Holds getHash cmp h stored) :
    Holds getHash cmp (operations.foldl (BucketHashList.step getHash cmp) h)
        (operations.foldl storedAfter stored) ∧
      (operations.foldl (BucketHashList.step getHash cmp) h).allList.isSome = h.allList.isSome := by
  induction operations generalizing h stored with
  | nil => exact ⟨holds, rfl⟩
  | cons operation rest inductionHypothesis =>
      obtain ⟨after, kept⟩ := inductionHypothesis (holds.step consistent operation)
      exact ⟨after, kept.trans (isSome_allList_step h operation)⟩

/-- **Hash lists.**  After any operations the count, the array and the list of all items, when there
is one, give exactly what was added and not deleted, and a search finds an item that compares equal
to the key if and only if one is stored. -/
theorem hashList_stored
    [Std.TransCmp cmp]
    (consistent : ∀ p q, cmp p q = .eq → getHash p = getHash q)
    (bits : Nat)
    (makeList : Bool)
    (operations : List (Operation α)) :
    let h := operations.foldl (step getHash cmp) (new bits makeList)
    let stored := operations.foldl storedAfter 0
    h.numItems = stored.card ∧ (h.toArray : Multiset α) = stored ∧
      h.allList.isSome = makeList ∧ (∀ o, h.allList = some o → (o.items : Multiset α) = stored) ∧
      ∀ t, (∀ found, (h.searchHash getHash cmp t).1 = some found →
          found ∈ stored ∧ cmp t found = .eq) ∧
        ((h.searchHash getHash cmp t).1.isSome = true ↔ ∃ p ∈ stored, cmp t p = .eq) := by
  intro h stored
  obtain ⟨holds, kept⟩ := (holds_new bits makeList).foldl consistent operations
  have made : (new bits makeList : BucketHashList α).allList.isSome = makeList := by
    cases makeList with
    | false => rfl
    | true => rfl
  exact ⟨holds.numItems, holds.toArray, kept.trans made, holds.all,
    fun t => (holds.searchHash consistent t).2⟩

/-- The numbers by their size, with their last digit as the hash. -/
theorem hashList_stored_numbers :
    let h := [Operation.add 12, .add 32, .delete 12].foldl (step (· % 10) compare) (new 8 true)
    h.numItems = 1 ∧ (h.toArray : Multiset Nat) = {32} := by
  have consistent (p q : Nat) (equal : compare p q = .eq) : p % 10 = q % 10 := by
    rw [Nat.compare_eq_eq.mp equal]
  obtain ⟨numItems, toArray, _⟩ := hashList_stored consistent 8 true [.add 12, .add 32, .delete 12]
  exact ⟨numItems, toArray⟩

end BucketHashList
end SoftEther
