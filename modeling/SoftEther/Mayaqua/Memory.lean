import SoftEther.Library.SortedSearch

/-!
# Memory

Blocks of memory as lists.  Memory that nobody has written yet holds `none`.
-/

namespace SoftEther

/-- `Copy(memory + offset, data, size)` inside a block of memory. -/
def copyAt (memory : List α) (offset : Nat) (data : List α) : List α :=
  memory.take offset ++ data ++ memory.drop (offset + data.length)

/-- `ReAlloc` to a larger block: the new memory is unwritten. -/
def reAlloc (memory : List (Option α)) (size : Nat) : List (Option α) :=
  memory ++ List.replicate (size - memory.length) none

/-- `Cmp` of two blocks of the same size. -/
def cmpBytes : List UInt8 → List UInt8 → Ordering
  | left :: lefts, right :: rights =>
      match compare left right with
      | .eq => cmpBytes lefts rights
      | different => different
  | _, _ => .eq

abbrev ByteArrayOf (size : Nat) := { bytes : List UInt8 // bytes.length = size }

theorem length_zeros6 : (List.replicate 6 (0 : UInt8)).length = 6 :=
  List.length_replicate

theorem length_zeros8 : (List.replicate 8 (0 : UInt8)).length = 8 :=
  List.length_replicate

theorem length_zeros16 : (List.replicate 16 (0 : UInt8)).length = 16 :=
  List.length_replicate

theorem length_bytes4 (a b c d : UInt8) : [a, b, c, d].length = 4 :=
  rfl

abbrev MacAddress := { bytes : List UInt8 // bytes.length = 6 }

variable {offset : Nat} {left right : List UInt8}

theorem getElem?_copyAt
    {memory : List α}
    {data : List α}
    (inside : offset + data.length ≤ memory.length)
    (position : Nat) :
    (copyAt memory offset data)[position]? =
      if offset ≤ position ∧ position < offset + data.length then
        data[position - offset]?
      else
        memory[position]? := by
  have takeLength : (memory.take offset).length = offset := by
    rw [List.length_take]
    omega
  unfold copyAt
  by_cases before : position < offset
  · rw [if_neg (by omega), List.append_assoc,
      List.getElem?_append_left (by omega), List.getElem?_take_of_lt before]
  · rw [List.append_assoc, List.getElem?_append_right (by omega), takeLength]
    by_cases copied : position < offset + data.length
    · rw [if_pos (by omega), List.getElem?_append_left (by omega)]
    · rw [if_neg (by omega), List.getElem?_append_right (by omega),
        List.getElem?_drop]
      congr 1
      omega

theorem length_copyAt
    {memory : List α}
    {data : List α}
    (inside : offset + data.length ≤ memory.length) :
    (copyAt memory offset data).length = memory.length := by
  unfold copyAt
  simp only [List.length_append, List.length_take, List.length_drop]
  omega

theorem getElem?_copyAt_outside
    {memory data : List α}
    {offset position : Nat}
    (inside : offset + data.length ≤ memory.length)
    (outside : position < offset ∨ offset + data.length ≤ position) :
    (copyAt memory offset data)[position]? = memory[position]? := by
  rw [getElem?_copyAt inside, if_neg (by omega)]

theorem getElem?_copyAt_inside
    {memory data : List α}
    {offset position : Nat}
    (inside : offset + data.length ≤ memory.length)
    (written : position < data.length) :
    (copyAt memory offset data)[offset + position]? = data[position]? := by
  rw [getElem?_copyAt inside, if_pos (by omega), Nat.add_sub_cancel_left]

theorem copyAt_copyAt
    {memory first second : List α}
    (inside : offset + first.length ≤ memory.length)
    (same : first.length = second.length) :
    copyAt (copyAt memory offset first) offset second = copyAt memory offset second := by
  have stillInside : offset + second.length ≤ (copyAt memory offset first).length := by
    rw [length_copyAt inside]
    omega
  apply List.ext_getElem?
  intro position
  rw [getElem?_copyAt stillInside, getElem?_copyAt inside, getElem?_copyAt (by omega), same]
  split
  case isTrue => rfl
  case isFalse => rfl

/-- A block is written in the place of another one of its size. -/
theorem copyAt_middle
    {old data : List α}
    (same : old.length = data.length)
    (before after : List α) :
    copyAt (before ++ (old ++ after)) before.length data = before ++ (data ++ after) := by
  rw [copyAt, List.take_left, ← same, ← List.drop_drop, List.drop_left, List.drop_left,
    List.append_assoc]

/-- What is written into the first part of a block. -/
theorem take_copyAt_append
    {memory data : List α}
    (inside : offset + data.length ≤ memory.length)
    (more : List α) :
    (copyAt (memory ++ more) offset data).take memory.length = copyAt memory offset data := by
  have whole : (copyAt memory offset data).length = memory.length := length_copyAt inside
  have split : copyAt (memory ++ more) offset data = copyAt memory offset data ++ more := by
    unfold copyAt
    rw [List.take_append_of_le_length (by omega), List.drop_append_of_le_length inside,
      List.append_assoc, List.append_assoc, List.append_assoc]
  rw [split, ← whole, List.take_left]

/-- A larger block keeps what was written. -/
theorem getElem?_reAlloc
    {memory : List (Option α)}
    {position : Nat}
    (inside : position < memory.length)
    (size : Nat) :
    (reAlloc memory size)[position]? = memory[position]? := by
  unfold reAlloc
  rw [List.getElem?_append_left inside]

theorem length_reAlloc
    {memory : List (Option α)}
    {size : Nat}
    (larger : memory.length ≤ size) :
    (reAlloc memory size).length = size := by
  unfold reAlloc
  rw [List.length_append, List.length_replicate]
  omega

theorem eq_of_cmpBytes
    (sameLength : left.length = right.length)
    (equal : cmpBytes left right = .eq) :
    left = right := by
  induction left generalizing right with
  | nil => exact (List.eq_nil_of_length_eq_zero sameLength.symm).symm
  | cons first rest inductionHypothesis =>
      cases right with
      | nil => exact absurd sameLength (by simp)
      | cons other others =>
          unfold cmpBytes at equal
          cases compared : compare first other with
          | eq =>
              rw [compared] at equal
              have sameFirst : first = other :=
                Std.LawfulEqCmp.eq_of_compare compared
              rw [sameFirst,
                inductionHypothesis (by simpa using sameLength) equal]
          | lt =>
              rw [compared] at equal
              exact absurd equal (by simp)
          | gt =>
              rw [compared] at equal
              exact absurd equal (by simp)

/-- Blocks of the same size compare equal exactly when they are equal. -/
theorem cmpBytes_eq_iff
    (sameLength : left.length = right.length) :
    cmpBytes left right = .eq ↔ left = right := by
  constructor
  · exact eq_of_cmpBytes sameLength
  · rintro rfl
    induction left with
    | nil => rfl
    | cons first rest inductionHypothesis =>
        have same : compare first first = Ordering.eq := Std.ReflCmp.compare_self
        rw [cmpBytes, same]
        exact inductionHypothesis rfl

theorem MacAddress.eq_of_cmpBytes
    {left right : MacAddress}
    (equal : cmpBytes left.val right.val = .eq) :
    left = right :=
  Subtype.ext
    (SoftEther.eq_of_cmpBytes (left.property.trans right.property.symm) equal)

theorem cmpBytes_eq_compareLex
    (sameLength : left.length = right.length) :
    cmpBytes left right = List.compareLex compare left right := by
  induction left generalizing right with
  | nil =>
      rw [List.eq_nil_of_length_eq_zero sameLength.symm]
      rfl
  | cons first rest inductionHypothesis =>
      cases right with
      | nil => exact absurd sameLength (by simp)
      | cons other others =>
          rw [List.compareLex_cons_cons, cmpBytes,
            inductionHypothesis (by simpa using sameLength)]
          cases compare first other <;> rfl

/-- `Cmp` of blocks of `size` bytes. -/
def compareBytes
    {size : Nat}
    (left right : { bytes : List UInt8 // bytes.length = size }) :
    Ordering :=
  cmpBytes left.val right.val

theorem compareBytes_eq
    {size : Nat}
    (left right : { bytes : List UInt8 // bytes.length = size }) :
    compareBytes left right = List.compareLex compare left.val right.val :=
  cmpBytes_eq_compareLex (left.property.trans right.property.symm)

instance {size : Nat} : Std.TransCmp (@compareBytes size) := by
  have same : @compareBytes size =
      fun left right => List.compareLex compare left.val right.val := by
    ext left right
    exact compareBytes_eq left right
  rw [same]
  exact Library.transCmp_image Subtype.val (List.compareLex compare)

instance transCmp_compareBytes20 : Std.TransCmp (@compareBytes 20) :=
  inferInstance

instance {size : Nat} : Std.LawfulEqCmp (@compareBytes size) where
  compare_self {block} := by
    rw [compareBytes_eq]
    exact Std.ReflCmp.compare_self
  eq_of_compare {left right} equal := by
    rw [compareBytes_eq] at equal
    exact Subtype.ext (Std.LawfulEqCmp.eq_of_compare equal)

end SoftEther
