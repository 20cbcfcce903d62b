import Mathlib.Data.List.Basic

/-!
# Numbered matches

Code that keeps items of several kinds in one list asks for the item of a kind that has some
number among those of its kind, and for how many there are.  A loop over the numbers visits the
items of the kind in their order.
-/

namespace SoftEther
namespace Library

section

variable {Item : Type} (kind : Item → Bool)

/-- The item of the kind with the number, when those before have been counted. -/
def findNumbered (number : Nat) : Nat → List Item → Option Item
  | _, [] => none
  | counted, item :: items =>
      if kind item then
        if counted = number then some item else findNumbered number (counted + 1) items
      else findNumbered number counted items

def numberedMatch (items : List Item) (number : Nat) : Option Item :=
  findNumbered kind number 0 items

/-- What a loop over the numbers of a kind visits. -/
def visitMatches (items : List Item) : List Item :=
  (List.range (items.countP kind)).filterMap (numberedMatch kind items)

theorem findNumbered_add
    (counted number : Nat)
    (items : List Item) :
    findNumbered kind (counted + number) counted items = (items.filter kind)[number]? := by
  induction items generalizing counted number with
  | nil => rfl
  | cons item items inductionHypothesis =>
      rw [findNumbered]
      by_cases isKind : kind item = true
      · rw [if_pos isKind, List.filter_cons_of_pos isKind]
        cases number with
        | zero => rw [if_pos (Nat.add_zero counted).symm, List.getElem?_cons_zero]
        | succ number =>
            have next := inductionHypothesis (counted + 1) number
            rw [Nat.add_assoc, Nat.add_comm 1 number] at next
            rw [if_neg (by omega), next, List.getElem?_cons_succ]
      · rw [if_neg isKind, List.filter_cons_of_neg isKind]
        exact inductionHypothesis counted number

theorem numberedMatch_eq (items : List Item) (number : Nat) :
    numberedMatch kind items number = (items.filter kind)[number]? := by
  have found := findNumbered_add kind 0 number items
  rwa [Nat.zero_add] at found

end

end Library
end SoftEther
