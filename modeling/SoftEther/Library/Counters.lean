import Mathlib.Data.List.Nodup
import Mathlib.Data.List.Range

/-!
# Counters that wrap

A counter has a value at every number, and two numbers have one value exactly when they agree
modulo the size of the counter.  The values of successive numbers are distinct as long as
there are no more of them than the counter has values.
-/

namespace SoftEther
namespace Library

section

variable {Value : Type} {size : Nat} {value : Nat → Value}

/-- Two numbers have one value exactly when they agree modulo the size. -/
def WrapsAt (size : Nat) (value : Nat → Value) : Prop :=
  ∀ left right, value left = value right ↔ left % size = right % size

/-- The values of so many numbers from a start on. -/
def counted (value : Nat → Value) (start count : Nat) : List Value :=
  (List.range' start count).map value

theorem counted_succ (value : Nat → Value) (start count : Nat) :
    counted value start (count + 1) = counted value start count ++ [value (start + count)] := by
  unfold counted
  rw [List.range'_concat, List.map_append]
  simp

@[simp] theorem length_counted (value : Nat → Value) (start count : Nat) :
    (counted value start count).length = count := by
  simp [counted]

theorem eq_of_mod_eq
    {left right : Nat}
    (agree : left % size = right % size)
    (near : left < right + size)
    (other : right < left + size) :
    left = right := by
  have first := Nat.div_add_mod left size
  have second := Nat.div_add_mod right size
  rcases Nat.lt_trichotomy (left / size) (right / size) with less | same | more
  · have bound : size * (left / size) + size ≤ size * (right / size) := by
      rw [← Nat.mul_succ]
      exact Nat.mul_le_mul_left size less
    omega
  · rw [same] at first
    omega
  · have bound : size * (right / size) + size ≤ size * (left / size) := by
      rw [← Nat.mul_succ]
      exact Nat.mul_le_mul_left size more
    omega

theorem nodup_counted_iff
    (wraps : WrapsAt size value)
    (inhabited : 0 < size)
    (start count : Nat) :
    (counted value start count).Nodup ↔ count ≤ size := by
  unfold counted
  constructor
  · intro distinct
    by_contra many
    have first : start ∈ List.range' start count := by
      simp
      omega
    have again : start + size ∈ List.range' start count := by
      simp
      omega
    have same : value start = value (start + size) := by
      rw [wraps, Nat.add_mod_right]
    have equal := List.inj_on_of_nodup_map distinct first again same
    omega
  · intro few
    refine List.Nodup.map_on ?_ List.nodup_range'
    intro left leftListed right rightListed same
    have leftBounds := List.mem_range'_1.mp leftListed
    have rightBounds := List.mem_range'_1.mp rightListed
    exact eq_of_mod_eq ((wraps left right).mp same) (by omega) (by omega)

end

end Library
end SoftEther
