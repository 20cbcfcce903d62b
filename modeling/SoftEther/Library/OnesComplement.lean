import Mathlib.Data.Nat.ModEq

/-!
# Ones' complement sums

Addition with an end-around carry, for words that are at most `m`.  A sum of words has one of the
values up to `m`: it is zero for zeros alone, and the number from 1 to `m` in the class of the
usual sum otherwise.
-/

namespace SoftEther
namespace Library
namespace OnesComplement

variable {m : Nat}

/-- The sum of two words, with the carry added again. -/
def add (m a b : Nat) : Nat :=
  if a + b ≤ m then a + b else a + b - m

def wordOf (m n : Nat) : Nat :=
  if n = 0 then 0 else (n - 1) % m + 1

def sum (m : Nat) (words : List Nat) : Nat :=
  words.foldl (add m) 0

theorem wordOf_le (positive : 0 < m) (n : Nat) : wordOf m n ≤ m := by
  have small := Nat.mod_lt (n - 1) positive
  unfold wordOf
  split <;> omega

theorem wordOf_modEq (n : Nat) : wordOf m n ≡ n [MOD m] := by
  unfold wordOf
  split
  · rename_i zero
    rw [zero]
  · rename_i nonzero
    have same : n - 1 + 1 = n := by omega
    have mod := (Nat.mod_modEq (n - 1) m).add_right 1
    rwa [same] at mod

theorem eq_wordOf
    {a n : Nat}
    (same : a ≡ n [MOD m])
    (small : a ≤ m)
    (zero : a = 0 ↔ n = 0) :
    a = wordOf m n := by
  unfold wordOf
  split
  · rename_i none
    exact zero.mpr none
  · rename_i nonzero
    have positive : a ≠ 0 := fun none => nonzero (zero.mp none)
    have shifted : a - 1 ≡ n - 1 [MOD m] := by
      apply Nat.ModEq.add_right_cancel' 1
      rwa [Nat.sub_add_cancel (by omega), Nat.sub_add_cancel (by omega)]
    have mod : (a - 1) % m = (n - 1) % m := shifted
    rw [Nat.mod_eq_of_lt (by omega)] at mod
    omega

theorem add_wordOf
    (positive : 0 < m)
    {w : Nat}
    (word : w ≤ m)
    (n : Nat) :
    add m (wordOf m n) w = wordOf m (n + w) := by
  have small := wordOf_le positive n
  have mod := (wordOf_modEq (m := m) n).add_right w
  have none : wordOf m n = 0 ↔ n = 0 := by
    unfold wordOf
    split <;> omega
  unfold add
  split
  · rename_i fits
    exact eq_wordOf mod fits (by omega)
  · rename_i above
    refine eq_wordOf ?_ (by omega) (by omega)
    have wrapped : wordOf m n + w - m + m = wordOf m n + w := by omega
    rw [← wrapped] at mod
    exact (Nat.add_modEq_right (a := wordOf m n + w - m) (n := m)).symm.trans mod

theorem sum_eq
    (positive : 0 < m)
    {words : List Nat}
    (all : ∀ w ∈ words, w ≤ m) :
    sum m words = wordOf m words.sum := by
  have from_ (n : Nat) : words.foldl (add m) (wordOf m n) = wordOf m (n + words.sum) := by
    induction words generalizing n with
    | nil => rfl
    | cons w rest inductionHypothesis =>
        rw [List.forall_mem_cons] at all
        rw [List.foldl_cons, add_wordOf positive all.1, inductionHypothesis all.2,
          List.sum_cons, Nat.add_assoc]
  have start := from_ 0
  rwa [Nat.zero_add] at start

end OnesComplement
end Library
end SoftEther
