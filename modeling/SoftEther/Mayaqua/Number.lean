import Mathlib.Data.Nat.Digits.Lemmas
import SoftEther.Mayaqua.Str

/-!
# Numbers in strings

`ToStr` and `ToStr64` write a number in decimal digits; `ToInt`, through
`strtoul` with base 0, and `ToInt64` read one.
-/

namespace SoftEther

def digitChar (digit : Nat) : UInt8 :=
  UInt8.ofNat (48 + digit)

/-- The decimal digits of a number, as `ToStr64` and `sprintf` with `%u` write
them. -/
def decimal (value : Nat) : List UInt8 :=
  if value = 0 then [48] else (Nat.digits 10 value).reverse.map digitChar

def toStr (value : UInt32) : List UInt8 :=
  decimal value.toNat

def toStr64 (value : UInt64) : List UInt8 :=
  decimal value.toNat

/-- An upper case hexadecimal digit. -/
def hexChar (digit : Nat) : UInt8 :=
  if digit < 10 then UInt8.ofNat (48 + digit) else UInt8.ofNat (55 + digit)

/-- `%02X` of a byte. -/
def hex2 (byte : UInt8) : List UInt8 :=
  [hexChar (byte.toNat / 16), hexChar (byte.toNat % 16)]

def digitValue (char : UInt8) : Option Nat :=
  if 48 ≤ char ∧ char ≤ 57 then some (char.toNat - 48)
  else if 97 ≤ char ∧ char ≤ 122 then some (char.toNat - 87)
  else if 65 ≤ char ∧ char ≤ 90 then some (char.toNat - 55)
  else none

/-- The number that the leading digits of a string make, after the digits in
`value`. -/
def readDigits (base : Nat) (value : Nat) : List UInt8 → Nat
  | [] => value
  | char :: rest =>
      match digitValue char with
      | none => value
      | some digit =>
          if digit < base then readDigits base (value * base + digit) rest
          else value

def isSpace (char : UInt8) : Bool :=
  char = 32 ∨ 9 ≤ char ∧ char ≤ 13

def isDigitOf (base : Nat) (char : UInt8) : Bool :=
  match digitValue char with
  | none => false
  | some digit => digit < base

/-- The magnitude that `strtoul` reads with base 0. -/
def readMagnitude : List UInt8 → Nat
  | 48 :: mark :: digit :: rest =>
      if (mark = 120 ∨ mark = 88) ∧ isDigitOf 16 digit then
        readDigits 16 0 (digit :: rest)
      else readDigits 8 0 (mark :: digit :: rest)
  | 48 :: rest => readDigits 8 0 rest
  | str => readDigits 10 0 str

/-- `strtoul(str, NULL, 0)`. -/
def strtoul (str : List UInt8) : Nat :=
  let saturated (value : Nat) : Nat := min value (2 ^ 64 - 1)
  match str.dropWhile isSpace with
  | 43 :: rest => saturated (readMagnitude rest)
  | 45 :: rest =>
      if 2 ^ 64 ≤ readMagnitude rest then 2 ^ 64 - 1
      else (2 ^ 64 - readMagnitude rest) % 2 ^ 64
  | rest => saturated (readMagnitude rest)

/-- The zeros that `ToInt` skips, so that no number is read as octal. -/
def skipZeros : List UInt8 → List UInt8
  | 48 :: rest =>
      if rest.head? = some 120 ∨ rest.head? = some 88 then 48 :: rest
      else skipZeros rest
  | str => str

def toInt (str : List UInt8) : UInt32 :=
  UInt32.ofNat (strtoul (skipZeros str))

/-- The loop of `ToInt64`. -/
def readInt64 (value : UInt64) : List UInt8 → UInt64
  | [] => value
  | char :: rest =>
      if char = 44 then readInt64 value rest
      else if 48 ≤ char ∧ char ≤ 57 then
        readInt64 (value * 10 + UInt64.ofNat (char.toNat - 48)) rest
      else value

def toInt64 (str : List UInt8) : UInt64 :=
  readInt64 0 str

/-! ## Round trips -/

theorem digitValue_digitChar : ∀ digit < 10, digitValue (digitChar digit) = some digit := by
  decide

theorem digitChar_range :
    ∀ digit < 10, 48 ≤ digitChar digit ∧ digitChar digit ≤ 57 ∧
      (digitChar digit).toNat = 48 + digit := by
  decide

theorem readDigits_map_digitChar
    (digits : List Nat)
    (small : ∀ digit ∈ digits, digit < 10)
    (value : Nat) :
    readDigits 10 value (digits.map digitChar) =
      digits.foldl (fun value digit => value * 10 + digit) value := by
  induction digits generalizing value with
  | nil => rfl
  | cons digit rest inductionHypothesis =>
      have first := small digit List.mem_cons_self
      simp only [List.map_cons, readDigits, digitValue_digitChar digit first,
        if_pos first, List.foldl_cons]
      exact inductionHypothesis
        (fun other listed => small other (List.mem_cons_of_mem _ listed)) _

theorem foldl_reverse_digits (value : Nat) :
    (Nat.digits 10 value).reverse.foldl (fun value digit => value * 10 + digit) 0 =
      value := by
  rw [List.foldl_reverse]
  have digits := Nat.ofDigits_digits 10 value
  rw [Nat.ofDigits_eq_foldr] at digits
  simpa [Nat.mul_comm, Nat.add_comm] using digits

theorem decimal_of_pos
    {value : Nat}
    (positive : 0 < value) :
    ∃ first rest, 0 < first ∧ first < 10 ∧ (∀ digit ∈ rest, digit < 10) ∧
      decimal value = (first :: rest).map digitChar ∧
      (first :: rest).foldl (fun value digit => value * 10 + digit) 0 = value := by
  have nonempty : (Nat.digits 10 value).reverse ≠ [] := by
    simpa using Nat.digits_ne_nil_iff_ne_zero.mpr positive.ne'
  have digits := foldl_reverse_digits value
  have small : ∀ digit ∈ (Nat.digits 10 value).reverse, digit < 10 :=
    fun digit listed =>
      Nat.digits_lt_base (by decide) (List.mem_reverse.mp listed)
  have leading := Nat.getLast_digit_ne_zero 10 positive.ne'
  rw [← List.head_reverse nonempty] at leading
  unfold decimal
  rw [if_neg positive.ne']
  generalize (Nat.digits 10 value).reverse = reversed at *
  cases reversed with
  | nil => exact absurd rfl nonempty
  | cons first rest =>
      exact ⟨first, rest, Nat.pos_of_ne_zero leading,
        small first List.mem_cons_self,
        fun digit listed => small digit (List.mem_cons_of_mem _ listed), rfl,
        digits⟩

theorem digitChar_ne :
    ∀ digit < 10, 0 < digit → digitChar digit ≠ 48 ∧ digitChar digit ≠ 43 ∧
      digitChar digit ≠ 45 ∧ isSpace (digitChar digit) = false := by
  decide

theorem strtoul_digits
    {first : UInt8}
    (rest : List UInt8)
    (zero : first ≠ 48)
    (plus : first ≠ 43)
    (minus : first ≠ 45)
    (space : isSpace first = false) :
    strtoul (first :: rest) =
      min (readDigits 10 0 (first :: rest)) (2 ^ 64 - 1) := by
  have magnitude : readMagnitude (first :: rest) =
      readDigits 10 0 (first :: rest) := by
    unfold readMagnitude
    split
    · rename_i same
      injection same with same
      exact absurd same zero
    · rename_i same
      injection same with same
      exact absurd same zero
    · rfl
  unfold strtoul
  rw [List.dropWhile_cons_of_neg (by simp [space])]
  dsimp only
  split
  · rename_i same
    injection same with same
    exact absurd same plus
  · rename_i same
    injection same with same
    exact absurd same minus
  · rw [magnitude]

theorem toInt_toStr (value : UInt32) : toInt (toStr value) = value := by
  unfold toStr
  by_cases zero : value.toNat = 0
  · have same : value = 0 := UInt32.toNat_inj.mp zero
    rw [same]
    rfl
  · obtain ⟨first, rest, positive, small, others, written, digits⟩ :=
      decimal_of_pos (Nat.pos_of_ne_zero zero)
    obtain ⟨noZero, noPlus, noMinus, noSpace⟩ := digitChar_ne first small positive
    have skipped : skipZeros (digitChar first :: rest.map digitChar) =
        digitChar first :: rest.map digitChar := by
      unfold skipZeros
      split
      · rename_i same
        injection same with same
        exact absurd same noZero
      · rfl
    have inRange : value.toNat ≤ 2 ^ 64 - 1 := by
      have bound := value.toNat_lt
      omega
    unfold toInt
    rw [written, List.map_cons, skipped,
      strtoul_digits _ noZero noPlus noMinus noSpace, ← List.map_cons,
      readDigits_map_digitChar _ (List.forall_mem_cons.mpr ⟨small, others⟩), digits,
      Nat.min_eq_left inRange, UInt32.ofNat_toNat]

theorem readInt64_map_digitChar
    (digits : List Nat)
    (small : ∀ digit ∈ digits, digit < 10)
    (value : Nat) :
    readInt64 (UInt64.ofNat value) (digits.map digitChar) =
      UInt64.ofNat (digits.foldl (fun value digit => value * 10 + digit) value) := by
  induction digits generalizing value with
  | nil => rfl
  | cons digit rest inductionHypothesis =>
      obtain ⟨low, high, same⟩ :=
        digitChar_range digit (small digit List.mem_cons_self)
      have noComma : digitChar digit ≠ 44 := fun comma => by
        rw [comma] at low
        exact absurd low (by decide)
      have next : UInt64.ofNat value * 10 +
          UInt64.ofNat ((digitChar digit).toNat - 48) =
          UInt64.ofNat (value * 10 + digit) := by
        rw [same, Nat.add_sub_cancel_left, UInt64.ofNat_add, UInt64.ofNat_mul]
        rfl
      simp only [List.map_cons, readInt64, if_neg noComma, if_pos (And.intro low high),
        List.foldl_cons, next]
      exact inductionHypothesis
        (fun other listed => small other (List.mem_cons_of_mem _ listed)) _

theorem toInt64_toStr64 (value : UInt64) : toInt64 (toStr64 value) = value := by
  unfold toStr64 toInt64
  by_cases zero : value.toNat = 0
  · have same : value = 0 := UInt64.toNat_inj.mp zero
    rw [same]
    rfl
  · obtain ⟨first, rest, positive, small, others, written, digits⟩ :=
      decimal_of_pos (Nat.pos_of_ne_zero zero)
    have read := readInt64_map_digitChar (first :: rest)
      (List.forall_mem_cons.mpr ⟨small, others⟩) 0
    rw [written]
    rw [digits, UInt64.ofNat_toNat] at read
    exact read

theorem mem_decimal
    {value : Nat}
    {char : UInt8}
    (listed : char ∈ decimal value) :
    48 ≤ char ∧ char ≤ 57 := by
  unfold decimal at listed
  split_ifs at listed
  · rw [List.mem_singleton.mp listed]
    decide
  · obtain ⟨digit, inside, same⟩ := List.mem_map.mp listed
    have small := Nat.digits_lt_base (by decide) (List.mem_reverse.mp inside)
    obtain ⟨low, high, _⟩ := digitChar_range digit small
    rw [← same]
    exact ⟨low, high⟩

theorem decimal_ne_nil (value : Nat) : decimal value ≠ [] := by
  unfold decimal
  split_ifs with zero
  · simp
  · simpa using Nat.digits_ne_nil_iff_ne_zero.mpr zero

theorem toInt_hex2 :
    ∀ value < 37, toInt (48 :: 120 :: hex2 (UInt8.ofNat value)) =
      UInt32.ofNat value := by
  decide

end SoftEther
