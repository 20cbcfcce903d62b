import Mathlib.Data.List.Basic

/-!
# Replacing in a list

The occurrences of a pattern of `width` elements that a scan from left to right finds, each behind
the end of the one before, and the list with another one in their places.
-/

namespace SoftEther
namespace Library
namespace Replacing

variable {α : Type} (here : List α → Bool) (width : Nat)

/-- The list with its occurrences replaced. -/
def replaced (new : List α) : List α → List α
  | [] => []
  | first :: rest =>
      if here (first :: rest) then new ++ replaced new (rest.drop (width - 1))
      else first :: replaced new rest
termination_by list => list.length
decreasing_by
  · simp only [List.length_drop, List.length_cons]
    omega
  · simp

def occurrences : List α → Nat
  | [] => 0
  | first :: rest =>
      if here (first :: rest) then occurrences (rest.drop (width - 1)) + 1
      else occurrences rest
termination_by list => list.length
decreasing_by
  · simp only [List.length_drop, List.length_cons]
    omega
  · simp

variable {here width}

end Replacing
end Library
end SoftEther
