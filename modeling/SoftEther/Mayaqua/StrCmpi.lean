import Mathlib.Order.Basic
import SoftEther.Library.SortedSearch
import SoftEther.Mayaqua.Str

/-!
# The order of `StrCmpi`

`StrCmpi` compares the upper case values of two strings together with their
terminators, so it is a lexicographic order.
-/

namespace SoftEther

/-- The values that `StrCmpi` compares: those of the upper case characters and the
terminator. -/
def upperValues (str : CString) : List Int :=
  str.bytes.map (fun byte => charValue (toUpper byte)) ++ [0]

theorem charValue_toUpper_ne_zero :
    ∀ byte : UInt8, byte ≠ 0 → charValue (toUpper byte) ≠ 0 :=
  forall_byte (by decide +kernel)

theorem compareUpper_eq_compareLex
    {left right : List UInt8}
    (leftNoNul : 0 ∉ left)
    (rightNoNul : 0 ∉ right) :
    compareUpper left right =
      List.compareLex compare
        (left.map (fun byte => charValue (toUpper byte)) ++ [0])
        (right.map (fun byte => charValue (toUpper byte)) ++ [0]) := by
  induction left generalizing right with
  | nil =>
      cases right with
      | nil => rfl
      | cons first rest =>
          have nonzero : first ≠ 0 := fun zero => rightNoNul (by simp [zero])
          have different : compare 0 (charValue (toUpper first)) ≠ .eq := by
            intro same
            exact charValue_toUpper_ne_zero _ nonzero
              (Std.LawfulEqCmp.eq_of_compare same).symm
          simp only [compareUpper, List.map_nil, List.nil_append, List.map_cons,
            List.cons_append, List.compareLex_cons_cons]
          generalize compare 0 (charValue (toUpper first)) = result at different ⊢
          cases result with
          | eq => exact absurd rfl different
          | lt => rfl
          | gt => rfl
  | cons head tail inductionHypothesis =>
      cases right with
      | nil =>
          have nonzero : head ≠ 0 := fun zero => leftNoNul (by simp [zero])
          have different : compare (charValue (toUpper head)) 0 ≠ .eq := by
            intro same
            exact charValue_toUpper_ne_zero _ nonzero
              (Std.LawfulEqCmp.eq_of_compare same)
          simp only [compareUpper, List.map_nil, List.nil_append, List.map_cons,
            List.cons_append, List.compareLex_cons_cons]
          generalize compare (charValue (toUpper head)) 0 = result at different ⊢
          cases result with
          | eq => exact absurd rfl different
          | lt => rfl
          | gt => rfl
      | cons first rest =>
          have same := @inductionHypothesis rest
            (fun listed => leftNoNul (List.mem_cons_of_mem _ listed))
            (fun listed => rightNoNul (List.mem_cons_of_mem _ listed))
          simp only [compareUpper, List.map_cons, List.cons_append,
            List.compareLex_cons_cons, same]
          cases compare (charValue (toUpper head)) (charValue (toUpper first)) with
          | eq => rfl
          | lt => rfl
          | gt => rfl

theorem strCmpi_eq (left right : CString) :
    strCmpi left right =
      List.compareLex compare (upperValues left) (upperValues right) :=
  compareUpper_eq_compareLex left.noNul right.noNul

instance : Std.TransCmp strCmpi := by
  have same : strCmpi =
      fun left right => List.compareLex compare (upperValues left) (upperValues right) := by
    funext left right
    exact strCmpi_eq left right
  rw [same]
  exact Library.transCmp_image upperValues (List.compareLex compare)

end SoftEther
