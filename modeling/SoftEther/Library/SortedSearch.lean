import Mathlib.Data.List.Basic

/-!
# Binary search in a list

The search compares a fixed target with the middle element and goes on in one
half.  A found element always compares equal; in a list that is ordered for the
target an equal element is always found.
-/

namespace SoftEther
namespace Library

section

variable {α : Type}
variable (compareTo : α → Ordering)

/-- Binary search for an element that the target compares equal to; `lt` means
that the target belongs before the element.  The number of elements bounds the
search. -/
def bsearch : Nat → List α → Option α
  | 0, _ => none
  | fuel + 1, items =>
      match items[items.length / 2]? with
      | none => none
      | some middle =>
          match compareTo middle with
          | .eq => some middle
          | .lt => bsearch fuel (items.take (items.length / 2))
          | .gt => bsearch fuel (items.drop (items.length / 2 + 1))

/-- The elements that the target belongs behind come first, those it belongs
before come last. -/
def OrderedFor (items : List α) : Prop :=
  items.Pairwise fun earlier later =>
    (compareTo earlier = .lt → compareTo later = .lt) ∧
    (compareTo later = .gt → compareTo earlier = .gt)

variable {compareTo}

theorem bsearch_sound
    {fuel : Nat}
    {items : List α}
    {found : α}
    (searched : bsearch compareTo fuel items = some found) :
    found ∈ items ∧ compareTo found = .eq := by
  induction fuel generalizing items with
  | zero => exact absurd searched (by simp [bsearch])
  | succ fuel inductionHypothesis =>
      unfold bsearch at searched
      cases middleAt : items[items.length / 2]? with
      | none =>
          rw [middleAt] at searched
          exact absurd searched (by simp)
      | some middle =>
          rw [middleAt] at searched
          dsimp only at searched
          cases compared : compareTo middle with
          | eq =>
              rw [compared] at searched
              injection searched with same
              subst same
              exact ⟨List.mem_of_getElem? middleAt, compared⟩
          | lt =>
              rw [compared] at searched
              obtain ⟨present, equal⟩ := inductionHypothesis searched
              exact ⟨List.mem_of_mem_take present, equal⟩
          | gt =>
              rw [compared] at searched
              obtain ⟨present, equal⟩ := inductionHypothesis searched
              exact ⟨List.mem_of_mem_drop present, equal⟩

theorem bsearch_map
    {β : Type}
    (image : β → α)
    (fuel : Nat)
    (items : List β) :
    bsearch compareTo fuel (items.map image) =
      (bsearch (fun item => compareTo (image item)) fuel items).map image := by
  induction fuel generalizing items with
  | zero => rfl
  | succ fuel inductionHypothesis =>
      unfold bsearch
      rw [List.length_map, List.getElem?_map]
      cases items[items.length / 2]? with
      | none => rfl
      | some middle =>
          simp only [Option.map_some, ← List.map_take, ← List.map_drop, inductionHypothesis]
          cases compareTo (image middle) <;> rfl

private theorem split_at
    {items : List α}
    {index : Nat}
    {middle : α}
    (middleAt : items[index]? = some middle) :
    items = items.take index ++ middle :: items.drop (index + 1) := by
  obtain ⟨inside, same⟩ := List.getElem?_eq_some_iff.mp middleAt
  rw [← same, ← List.drop_eq_getElem_cons inside, List.take_append_drop]

theorem bsearch_complete
    {fuel : Nat}
    {items : List α}
    (enough : items.length ≤ fuel)
    (ordered : OrderedFor compareTo items)
    {wanted : α}
    (present : wanted ∈ items)
    (equal : compareTo wanted = .eq) :
    (bsearch compareTo fuel items).isSome = true := by
  induction fuel generalizing items with
  | zero =>
      rw [Nat.le_zero, List.length_eq_zero_iff] at enough
      subst enough
      exact absurd present List.not_mem_nil
  | succ fuel inductionHypothesis =>
      have nonempty := List.length_pos_of_mem present
      have inside : items.length / 2 < items.length := by omega
      have middleAt := List.getElem?_eq_getElem inside
      generalize items[items.length / 2] = middle at middleAt
      have halves := split_at middleAt
      unfold OrderedFor at ordered
      rw [halves, List.pairwise_append, List.pairwise_cons] at ordered
      obtain ⟨leftOrdered, ⟨afterMiddle, rightOrdered⟩, across⟩ := ordered
      have cases : wanted ∈ items.take (items.length / 2) ∨ wanted = middle ∨
          wanted ∈ items.drop (items.length / 2 + 1) := by
        rw [halves] at present
        simpa using present
      unfold bsearch
      rw [middleAt]
      dsimp only
      cases compared : compareTo middle with
      | eq => rfl
      | lt =>
          apply inductionHypothesis _ leftOrdered
          · obtain left | same | right := cases
            · exact left
            · rw [same, compared] at equal
              exact absurd equal (by decide)
            · have before := (afterMiddle wanted right).1 compared
              rw [before] at equal
              exact absurd equal (by decide)
          · rw [List.length_take]
            omega
      | gt =>
          apply inductionHypothesis _ rightOrdered
          · obtain left | same | right := cases
            · have behind := (across wanted left middle (by simp)).2 compared
              rw [behind] at equal
              exact absurd equal (by decide)
            · rw [same, compared] at equal
              exact absurd equal (by decide)
            · exact right
          · rw [List.length_drop]
            omega

end

theorem transCmp_image
    {α κ : Type}
    (key : α → κ)
    (cmp : κ → κ → Ordering)
    [Std.TransCmp cmp] :
    Std.TransCmp fun left right => cmp (key left) (key right) where
  eq_swap := Std.OrientedCmp.eq_swap
  isLE_trans := Std.TransCmp.isLE_trans

end Library
end SoftEther
