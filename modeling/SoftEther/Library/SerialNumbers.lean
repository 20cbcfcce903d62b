import Mathlib.Algebra.Order.Ring.Nat
import Mathlib.Tactic.Ring

/-!
# Serial numbers

Numbers that are only known modulo an even modulus, twice `half`.  The distance of two of
them tells the numbers apart as long as they are less than a modulus apart, and tells which
one is behind as long as they are no more than half of it apart.
-/

namespace SoftEther
namespace Library

variable {half : Nat}

/-- How far `number` is ahead of `base`, modulo twice `half`. -/
def serialDistance (half number base : Nat) : Nat :=
  (number + (2 * half - base % (2 * half))) % (2 * half)

/-- The comparison of serial numbers: `left` is behind `right`. -/
def serialLT (half left right : Nat) : Bool :=
  half ≤ serialDistance half left right

theorem serialDistance_add
    {steps : Nat}
    (small : steps < 2 * half)
    (base : Nat) :
    serialDistance half (base + steps) base = steps := by
  have parts := Nat.div_add_mod base (2 * half)
  have rest := Nat.mod_lt base (Nat.lt_of_le_of_lt (Nat.zero_le steps) small)
  have whole : base + steps + (2 * half - base % (2 * half)) =
      steps + 2 * half * (base / (2 * half) + 1) := by
    rw [Nat.mul_add, Nat.mul_one]
    omega
  unfold serialDistance
  rw [whole, Nat.add_mul_mod_self_left, Nat.mod_eq_of_lt small]

theorem serialDistance_of_le
    {number base : Nat}
    (ahead : base ≤ number)
    (near : number < base + 2 * half) :
    serialDistance half number base = number - base := by
  obtain ⟨steps, same⟩ := Nat.exists_eq_add_of_le ahead
  subst same
  rw [serialDistance_add (by omega)]
  omega

theorem serialDistance_of_lt
    {number base : Nat}
    (behind : number < base)
    (near : base < number + 2 * half) :
    serialDistance half number base = 2 * half - (base - number) := by
  have sameBase : serialDistance half number base =
      serialDistance half (number + 2 * half) base := by
    unfold serialDistance
    rw [Nat.add_right_comm, Nat.add_mod_right]
  rw [sameBase, serialDistance_of_le (by omega) (by omega)]
  omega

theorem serialLT_of_lt
    {left right : Nat}
    (behind : left < right)
    (near : right ≤ left + half) :
    serialLT half left right = true := by
  unfold serialLT
  rw [serialDistance_of_lt behind (by omega)]
  exact decide_eq_true (by omega)

theorem serialLT_of_le
    {left right : Nat}
    (ahead : right ≤ left)
    (near : left < right + half) :
    serialLT half left right = false := by
  unfold serialLT
  rw [serialDistance_of_le ahead (by omega)]
  exact decide_eq_false (by omega)

/-- Only the residues matter. -/
theorem serialDistance_congr
    {number other base otherBase : Nat}
    (sameNumber : number % (2 * half) = other % (2 * half))
    (sameBase : base % (2 * half) = otherBase % (2 * half)) :
    serialDistance half number base = serialDistance half other otherBase := by
  unfold serialDistance
  rw [sameBase, Nat.add_mod, sameNumber, ← Nat.add_mod]

end Library
end SoftEther
