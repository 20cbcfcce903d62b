import Mathlib.Data.List.Basic

/-!
# Slices of lists

The items of a list from an offset on, so many of them.  The rules say how slices
meet, how they lie in a part of the list and what becomes of them when the list
grows.
-/

namespace SoftEther
namespace Library

section

variable {Item : Type}

/-- The items at `offset`, at most `size` of them. -/
def slice (items : List Item) (offset size : Nat) : List Item :=
  (items.drop offset).take size

@[simp] theorem slice_size_zero (items : List Item) (offset : Nat) :
    slice items offset 0 = [] :=
  List.take_zero

@[simp] theorem slice_offset_zero (items : List Item) (size : Nat) :
    slice items 0 size = items.take size := by
  simp [slice]

theorem length_slice
    {items : List Item}
    {offset size : Nat}
    (inside : offset + size ≤ items.length) :
    (slice items offset size).length = size := by
  unfold slice
  rw [List.length_take, List.length_drop]
  omega

theorem slice_append (items : List Item) (offset first second : Nat) :
    slice items offset first ++ slice items (offset + first) second =
      slice items offset (first + second) := by
  unfold slice
  rw [List.take_add, List.drop_drop]

theorem take_slice
    {size : Nat}
    (items : List Item)
    (offset : Nat)
    {fewer : Nat}
    (less : fewer ≤ size) :
    (slice items offset size).take fewer = slice items offset fewer := by
  unfold slice
  rw [List.take_take, Nat.min_eq_left less]

theorem drop_slice (items : List Item) (offset size skipped : Nat) :
    (slice items offset size).drop skipped =
      slice items (offset + skipped) (size - skipped) := by
  unfold slice
  rw [List.drop_take, List.drop_drop]

theorem slice_append_left
    {items : List Item}
    {offset size : Nat}
    (inside : offset + size ≤ items.length)
    (more : List Item) :
    slice (items ++ more) offset size = slice items offset size := by
  unfold slice
  rw [List.drop_append_of_le_length (by omega),
    List.take_append_of_le_length (by rw [List.length_drop]; omega)]

end

end Library
end SoftEther
