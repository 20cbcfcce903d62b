import Mathlib.Data.List.Forall2
import Mathlib.Data.Multiset.AddSub
import SoftEther.Library.Runs
import SoftEther.Mayaqua.List
import SoftEther.Mayaqua.UInt

/-!
# The memory of lists

A `LIST` reserves memory for more pointers than it has.  The operations that store a pointer
double the reserved number when it is used up, `Delete` halves it, and `CloneList` reserves as many
as there are.
-/

namespace SoftEther

open Library

/-- `COMPARE`: a comparison that `qsort` and `bsearch` may use. -/
structure Compare (α : Type) where
  cmp : α → α → Ordering
  trans : Std.TransCmp cmp

/-- `LIST` with `num_reserved` and `cmp`. -/
structure PointerList (α : Type) where
  list : MayaquaList α := {}
  numReserved : Nat
  cmp : Option (Compare α)

namespace PointerList

def INIT_NUM_RESERVED : Nat := 32

variable {α : Type}

/-- `NewList` and `NewListFast`. -/
def new (cmp : Option (Compare α)) : PointerList α where
  numReserved := INIT_NUM_RESERVED
  cmp := cmp

/-- The list with one more pointer, when the store is inside the reserved memory: as many pointers
as are reserved, and as many bytes as the `UINT` argument of `ReAlloc` says. -/
def store (o : PointerList α) (list : MayaquaList α) : Option (PointerList α) :=
  let numReserved :=
    if o.numReserved < list.num then mulUINT o.numReserved 2 else o.numReserved
  if list.num ≤ numReserved ∧ 8 * list.num ≤ mulUINT 8 numReserved then
    some { o with list := list, numReserved := numReserved }
  else none

def add (o : PointerList α) (p : α) : Option (PointerList α) :=
  o.store (o.list.add p)

def insert (o : PointerList α) (p : α) : Option (PointerList α) :=
  match o.cmp with
  | none => o.add p
  | some c => o.store (o.list.insert c.cmp p)

def delete [DecidableEq α] (o : PointerList α) (p : α) : PointerList α :=
  if p ∈ o.list.items then
    { o with
      list := o.list.delete p
      numReserved :=
        if (o.list.delete p).num * 2 ≤ o.numReserved ∧ INIT_NUM_RESERVED * 2 < o.numReserved then
          o.numReserved / 2
        else o.numReserved }
  else o

def deleteAll (o : PointerList α) : PointerList α :=
  { o with list := { o.list with items := [] }, numReserved := INIT_NUM_RESERVED }

def sort (o : PointerList α) : PointerList α :=
  match o.cmp with
  | none => o
  | some c => { o with list := o.list.sort c.cmp }

def sortEx (o : PointerList α) (c : Compare α) : PointerList α :=
  { o with list := { o.list.sort c.cmp with sorted := false } }

/-- `CloneList`. -/
def clone (o : PointerList α) : PointerList α :=
  { o with numReserved := o.list.num }

/-- An operation on one list. -/
inductive Change (α : Type)
  | add (p : α)
  | insert (p : α)
  | delete (p : α)
  | deleteAll
  | sort
  | sortEx (c : Compare α)

/-- The list after an operation, unless it stores outside the reserved memory. -/
def change [DecidableEq α] (o : PointerList α) : Change α → Option (PointerList α)
  | .add p => o.add p
  | .insert p => o.insert p
  | .delete p => some (o.delete p)
  | .deleteAll => some o.deleteAll
  | .sort => some o.sort
  | .sortEx c => some (o.sortEx c)

/-- The pointers that a list has by its history. -/
def changed [DecidableEq α] (pointers : Multiset α) : Change α → Multiset α
  | .add p => p ::ₘ pointers
  | .insert p => p ::ₘ pointers
  | .delete p => pointers.erase p
  | .deleteAll => 0
  | .sort => pointers
  | .sortEx _ => pointers

/-- A full list that gets a pointer has memory reserved, and twice as much can be reserved. -/
def Roomy (o : PointerList α) : Change α → Prop
  | .add _ | .insert _ =>
      o.list.num = o.numReserved → 0 < o.numReserved ∧ 16 * o.numReserved < X32
  | _ => True

/-- The reserved memory holds the pointers, and they are sorted when the list says so. -/
structure Ok (o : PointerList α) : Prop where
  fits : o.list.num ≤ o.numReserved
  small : 8 * o.numReserved < X32
  ordered : o.list.sorted = true → ∀ c, o.cmp = some c → MayaquaList.Ordered c.cmp o.list.items

theorem store_eq
    {o : PointerList α}
    {list : MayaquaList α}
    (ok : o.Ok)
    (more : list.num = o.list.num + 1)
    (roomy : o.list.num = o.numReserved → 0 < o.numReserved ∧ 16 * o.numReserved < X32) :
    ∃ numReserved, o.store list = some { o with list := list, numReserved := numReserved } ∧
      list.num ≤ numReserved ∧ 8 * numReserved < X32 := by
  have fits := ok.fits
  have small := ok.small
  unfold store
  by_cases full : o.numReserved < list.num
  · obtain ⟨positive, bound⟩ := roomy (by omega)
    have doubled : mulUINT o.numReserved 2 = 2 * o.numReserved := by
      unfold mulUINT X32 at *
      omega
    have bytes : mulUINT 8 (2 * o.numReserved) = 16 * o.numReserved := by
      unfold mulUINT X32 at *
      omega
    refine ⟨2 * o.numReserved, ?_, by omega, by omega⟩
    rw [if_pos full, doubled, if_pos ⟨by omega, by rw [bytes]; omega⟩]
  · have bytes : mulUINT 8 o.numReserved = 8 * o.numReserved := Nat.mod_eq_of_lt small
    refine ⟨o.numReserved, ?_, by omega, small⟩
    rw [if_neg full, if_pos ⟨by omega, by rw [bytes]; omega⟩]

theorem Ok.store
    {o : PointerList α}
    {list : MayaquaList α}
    (ok : o.Ok)
    (roomy : o.list.num = o.numReserved → 0 < o.numReserved ∧ 16 * o.numReserved < X32)
    {p : α}
    (isPerm : list.items.Perm (p :: o.list.items))
    (ordered : list.sorted = true → ∀ c, o.cmp = some c → MayaquaList.Ordered c.cmp list.items) :
    ∃ after, o.store list = some after ∧ after.Ok ∧
      (after.list.items : Multiset α) = p ::ₘ (o.list.items : Multiset α) := by
  obtain ⟨numReserved, stored, fits, small⟩ := store_eq ok isPerm.length_eq roomy
  exact ⟨_, stored, ⟨fits, small, ordered⟩, Multiset.coe_eq_coe.mpr isPerm⟩

theorem Ok.add
    {o : PointerList α}
    (ok : o.Ok)
    (p : α)
    (roomy : o.list.num = o.numReserved → 0 < o.numReserved ∧ 16 * o.numReserved < X32) :
    ∃ after, o.add p = some after ∧ after.Ok ∧
      (after.list.items : Multiset α) = p ::ₘ (o.list.items : Multiset α) :=
  ok.store roomy (List.perm_append_singleton p o.list.items) fun flag => nomatch flag

variable [DecidableEq α]

theorem Ok.delete
    {o : PointerList α}
    (ok : o.Ok)
    (p : α) :
    (o.delete p).Ok ∧ (o.delete p).list.items = o.list.items.erase p := by
  have fits := ok.fits
  have small := ok.small
  unfold PointerList.delete
  by_cases present : p ∈ o.list.items
  · rw [if_pos present]
    have fewer : (o.list.delete p).num ≤ o.list.num := List.length_erase_le
    refine ⟨⟨?_, ?_, fun flag c known =>
      (ok.ordered flag c known).sublist List.erase_sublist⟩, rfl⟩
    · dsimp only
      split
      · omega
      · omega
    · dsimp only
      split
      · omega
      · omega
  · rw [if_neg present]
    exact ⟨ok, (List.erase_of_not_mem present).symm⟩

theorem Ok.change
    {o : PointerList α}
    {operation : Change α}
    (ok : o.Ok)
    (roomy : o.Roomy operation) :
    ∃ after, o.change operation = some after ∧ after.Ok ∧
      (after.list.items : Multiset α) = changed o.list.items operation := by
  cases operation with
  | add p => exact ok.add p roomy
  | insert p =>
      unfold PointerList.change PointerList.insert
      cases known : o.cmp with
      | none => exact ok.add p roomy
      | some c =>
          have transitive := c.trans
          obtain ⟨ordered, isPerm⟩ :=
            MayaquaList.insert_ordered (fun flag => ok.ordered flag c known) p
          refine ok.store roomy isPerm fun _ other same => ?_
          rw [known] at same
          injection same with same
          rw [← same]
          exact ordered
  | delete p =>
      obtain ⟨kept, items⟩ := ok.delete p
      exact ⟨_, rfl, kept, by rw [items]; rfl⟩
  | deleteAll =>
      have small : 8 * INIT_NUM_RESERVED < X32 := by decide
      exact ⟨_, rfl, ⟨Nat.zero_le _, small, fun _ _ _ => List.Pairwise.nil⟩, rfl⟩
  | sort =>
      unfold PointerList.change PointerList.sort
      cases known : o.cmp with
      | none => exact ⟨o, rfl, ok, rfl⟩
      | some c =>
          have transitive := c.trans
          have isPerm : (o.list.sort c.cmp).items.Perm o.list.items := List.perm_insertionSort _ _
          refine ⟨_, rfl, ⟨isPerm.length_eq.trans_le ok.fits, ok.small, fun _ other same => ?_⟩,
            Multiset.coe_eq_coe.mpr isPerm⟩
          rw [← Option.some.inj same]
          exact MayaquaList.sort_ordered o.list
  | sortEx c =>
      have isPerm : (o.list.sort c.cmp).items.Perm o.list.items := List.perm_insertionSort _ _
      exact ⟨_, rfl, ⟨isPerm.length_eq.trans_le ok.fits, ok.small, fun flag => nomatch flag⟩,
        Multiset.coe_eq_coe.mpr isPerm⟩

/-! ## Runs -/

/-- An operation on the lists of a run. -/
inductive Operation (α : Type)
  | new (cmp : Option (Compare α))
  | change (i : Nat) (operation : Change α)
  | clone (i : Nat)

/-- The lists after an operation, with the pointers that they have by their history. -/
def step
    (lists : List (PointerList α × Multiset α)) :
    Operation α → Option (List (PointerList α × Multiset α))
  | .new cmp => some (lists ++ [(new cmp, 0)])
  | .change i operation =>
      match lists[i]? with
      | none => some lists
      | some (o, pointers) =>
          (o.change operation).map fun after => lists.set i (after, changed pointers operation)
  | .clone i =>
      match lists[i]? with
      | none => some lists
      | some (o, pointers) => some (lists ++ [(o.clone, pointers)])

/-- The list that an operation stores into has room. -/
def HasRoom (lists : List (PointerList α × Multiset α)) : Operation α → Prop
  | .change i operation => ∀ o pointers, lists[i]? = some (o, pointers) → o.Roomy operation
  | _ => True

end PointerList
end SoftEther
