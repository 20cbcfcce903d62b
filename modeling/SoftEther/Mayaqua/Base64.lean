import Mathlib.Data.Nat.Bitwise
import Mathlib.Tactic.SplitIfs
import SoftEther.Mayaqua.Str

/-!
# Base64

`B64_Encode` and `B64_Decode`, three bytes and four characters at a time, and
their round trip.
-/

namespace SoftEther

def b64CodeToChar (code : UInt8) : UInt8 :=
  if code ≤ 25 then code + 65
  else if code ≤ 51 then code - 26 + 97
  else if code ≤ 61 then code - 52 + 48
  else if code = 62 then 43
  else if code = 63 then 47
  else 61

/-- `B64_CharToCode`; 255 stands for -1. -/
def b64CharToCode (char : UInt8) : UInt8 :=
  if 65 ≤ char ∧ char ≤ 90 then char - 65
  else if 97 ≤ char ∧ char ≤ 122 then char - 97 + 26
  else if 48 ≤ char ∧ char ≤ 57 then char - 48 + 52
  else if char = 43 then 62
  else if char = 47 then 63
  else if char = 61 then 255
  else 0

def b64Encode : List UInt8 → List UInt8
  | [] => []
  | [first] =>
      [b64CodeToChar (first >>> 2), b64CodeToChar ((first &&& 3) <<< 4), 61, 61]
  | [first, second] =>
      [b64CodeToChar (first >>> 2),
        b64CodeToChar (((first &&& 3) <<< 4) + (second >>> 4)),
        b64CodeToChar ((second &&& 15) <<< 2), 61]
  | first :: second :: third :: rest =>
      b64CodeToChar (first >>> 2) ::
        b64CodeToChar (((first &&& 3) <<< 4) + (second >>> 4)) ::
        b64CodeToChar (((second &&& 15) <<< 2) + (third >>> 6)) ::
        b64CodeToChar (third &&& 63) :: b64Encode rest

/-- The bytes of a group of four codes; a padding character leaves out the bytes
that it is part of. -/
def b64Group (first second third fourth : UInt8) : List UInt8 :=
  (if first ≠ 255 ∧ second ≠ 255 then [(first <<< 2) + (second >>> 4)] else []) ++
  (if second ≠ 255 ∧ third ≠ 255 then [(second <<< 4) + (third >>> 2)] else []) ++
  if third ≠ 255 ∧ fourth ≠ 255 then [(third <<< 6) + fourth] else []

/-- `B64_Decode`.  A last group of fewer than four characters is read on past the
end of the string, here as zeros. -/
def b64Decode : List UInt8 → List UInt8
  | [] => []
  | first :: second :: third :: fourth :: rest =>
      b64Group (b64CharToCode first) (b64CharToCode second) (b64CharToCode third)
        (b64CharToCode fourth) ++ b64Decode rest
  | first :: rest =>
      b64Group (b64CharToCode first) (b64CharToCode (rest.getD 0 0))
        (b64CharToCode (rest.getD 1 0)) (b64CharToCode 0)

/-- The code of a character of the group at `i`.  A character that the tests of the loop put
behind the `len` characters is left out, like a padding character. -/
def b64CodeAt (source : Nat → UInt8) (len i place : Nat) : UInt8 :=
  if len + place ≤ i then 255 else b64CharToCode (source (i + place))

/-- The loop of `B64_Decode`, at most `fuel` groups. -/
def b64DecodeLoop (source : Nat → UInt8) (len : Nat) : (fuel i : Nat) → List UInt8
  | 0, _ => []
  | fuel + 1, i =>
      if len ≤ i then []
      else
        b64Group (b64CodeAt source len i 0) (b64CodeAt source len i 1) (b64CodeAt source len i 2)
            (b64CodeAt source len i 3) ++
          b64DecodeLoop source len fuel (i + 4)

/-- `B64_Decode` of `len` characters of the memory that `source` points to. -/
def b64DecodeFrom (source : Nat → UInt8) (len : Nat) : List UInt8 :=
  b64DecodeLoop source len ((len + 3) / 4) 0

/-- `B64_Decode` of `len` characters depends on these characters only. -/
def DependsOnText (source : Nat → UInt8) (len : Nat) : Prop :=
  ∀ other : Nat → UInt8, (∀ i < len, other i = source i) →
    b64DecodeFrom other len = b64DecodeFrom source len

theorem b64CharToCode_codeToChar :
    ∀ code < 64, b64CharToCode (b64CodeToChar (UInt8.ofNat code)) =
      UInt8.ofNat code := by
  decide

theorem b64Code_roundTrip
    {code : UInt8}
    (small : code.toNat < 64) :
    b64CharToCode (b64CodeToChar code) = code ∧ code ≠ 255 := by
  have same := b64CharToCode_codeToChar code.toNat small
  rw [UInt8.ofNat_toNat] at same
  refine ⟨same, ?_⟩
  intro padding
  rw [padding] at small
  exact absurd small (by decide)

theorem toNat_and_3 (byte : UInt8) : (byte &&& 3).toNat = byte.toNat % 4 :=
  Nat.and_two_pow_sub_one_eq_mod byte.toNat 2

theorem toNat_and_15 (byte : UInt8) : (byte &&& 15).toNat = byte.toNat % 16 :=
  Nat.and_two_pow_sub_one_eq_mod byte.toNat 4

theorem toNat_and_63 (byte : UInt8) : (byte &&& 63).toNat = byte.toNat % 64 :=
  Nat.and_two_pow_sub_one_eq_mod byte.toNat 6

theorem toNat_shiftRight_2 (byte : UInt8) : (byte >>> 2).toNat = byte.toNat / 4 :=
  Nat.shiftRight_eq_div_pow byte.toNat 2

theorem toNat_shiftRight_4 (byte : UInt8) : (byte >>> 4).toNat = byte.toNat / 16 :=
  Nat.shiftRight_eq_div_pow byte.toNat 4

theorem toNat_shiftRight_6 (byte : UInt8) : (byte >>> 6).toNat = byte.toNat / 64 :=
  Nat.shiftRight_eq_div_pow byte.toNat 6

theorem toNat_shiftLeft_2 (byte : UInt8) :
    (byte <<< 2).toNat = byte.toNat * 4 % 256 := by
  rw [UInt8.toNat_shiftLeft, Nat.shiftLeft_eq]
  rfl

theorem toNat_shiftLeft_4 (byte : UInt8) :
    (byte <<< 4).toNat = byte.toNat * 16 % 256 := by
  rw [UInt8.toNat_shiftLeft, Nat.shiftLeft_eq]
  rfl

theorem toNat_shiftLeft_6 (byte : UInt8) :
    (byte <<< 6).toNat = byte.toNat * 64 % 256 := by
  rw [UInt8.toNat_shiftLeft, Nat.shiftLeft_eq]
  rfl

/-! ## Groups -/

/-- The bytes that a group was made of. -/
theorem b64_first (first second : UInt8) :
    ((first >>> 2) <<< 2) + ((((first &&& 3) <<< 4) + (second >>> 4)) >>> 4) =
      first := by
  apply UInt8.toNat_inj.mp
  have bound := first.toNat_lt
  have otherBound := second.toNat_lt
  simp only [UInt8.toNat_add, toNat_shiftLeft_2, toNat_shiftRight_2,
    toNat_shiftRight_4, toNat_shiftLeft_4, toNat_and_3]
  omega

theorem b64_second (first second third : UInt8) :
    ((((first &&& 3) <<< 4) + (second >>> 4)) <<< 4) +
      ((((second &&& 15) <<< 2) + (third >>> 6)) >>> 2) = second := by
  apply UInt8.toNat_inj.mp
  have bound := first.toNat_lt
  have otherBound := second.toNat_lt
  have lastBound := third.toNat_lt
  simp only [UInt8.toNat_add, toNat_shiftLeft_2, toNat_shiftRight_2,
    toNat_shiftRight_4, toNat_shiftLeft_4, toNat_and_3, toNat_and_15,
    toNat_shiftRight_6]
  omega

theorem b64_third (second third : UInt8) :
    ((((second &&& 15) <<< 2) + (third >>> 6)) <<< 6) + (third &&& 63) = third := by
  apply UInt8.toNat_inj.mp
  have bound := third.toNat_lt
  simp only [UInt8.toNat_add, toNat_shiftLeft_2, toNat_and_15, toNat_shiftRight_6,
    toNat_shiftLeft_6, toNat_and_63]
  omega

theorem b64Codes_small (first second third : UInt8) :
    (first >>> 2).toNat < 64 ∧
    (((first &&& 3) <<< 4) + (second >>> 4)).toNat < 64 ∧
    (((second &&& 15) <<< 2) + (third >>> 6)).toNat < 64 ∧
    (third &&& 63).toNat < 64 := by
  have bound := first.toNat_lt
  have otherBound := second.toNat_lt
  have lastBound := third.toNat_lt
  simp only [UInt8.toNat_add, toNat_shiftLeft_2, toNat_shiftRight_2,
    toNat_shiftRight_4, toNat_shiftLeft_4, toNat_and_3, toNat_and_15,
    toNat_shiftRight_6, toNat_and_63]
  omega

theorem b64CharToCode_padding : b64CharToCode 61 = 255 := rfl

theorem b64Decode_encode (data : List UInt8) : b64Decode (b64Encode data) = data := by
  induction data using b64Encode.induct with
  | case1 => rfl
  | case2 first =>
      obtain ⟨small, otherSmall, _, _⟩ := b64Codes_small first 0 0
      have sum := b64_first first 0
      have noCarry : ((first &&& 3) <<< 4) + ((0 : UInt8) >>> 4) = (first &&& 3) <<< 4 :=
        UInt8.add_zero _
      rw [noCarry] at otherSmall sum
      obtain ⟨same, used⟩ := b64Code_roundTrip small
      obtain ⟨otherSame, otherUsed⟩ := b64Code_roundTrip otherSmall
      simp only [b64Encode, b64Decode, same, otherSame, b64CharToCode_padding]
      simp [b64Group, used, otherUsed, sum]
  | case3 first second =>
      obtain ⟨small, otherSmall, thirdSmall, _⟩ := b64Codes_small first second 0
      have sum := b64_first first second
      have otherSum := b64_second first second 0
      have noCarry : ((second &&& 15) <<< 2) + ((0 : UInt8) >>> 6) = (second &&& 15) <<< 2 :=
        UInt8.add_zero _
      rw [noCarry] at thirdSmall otherSum
      obtain ⟨same, used⟩ := b64Code_roundTrip small
      obtain ⟨otherSame, otherUsed⟩ := b64Code_roundTrip otherSmall
      obtain ⟨thirdSame, thirdUsed⟩ := b64Code_roundTrip thirdSmall
      simp only [b64Encode, b64Decode, same, otherSame, thirdSame,
        b64CharToCode_padding]
      simp [b64Group, used, otherUsed, thirdUsed, sum, otherSum]
  | case4 first second third rest inductionHypothesis =>
      obtain ⟨small, otherSmall, thirdSmall, lastSmall⟩ :=
        b64Codes_small first second third
      obtain ⟨same, used⟩ := b64Code_roundTrip small
      obtain ⟨otherSame, otherUsed⟩ := b64Code_roundTrip otherSmall
      obtain ⟨thirdSame, thirdUsed⟩ := b64Code_roundTrip thirdSmall
      obtain ⟨lastSame, lastUsed⟩ := b64Code_roundTrip lastSmall
      simp only [b64Encode, b64Decode, same, otherSame, thirdSame, lastSame,
        inductionHypothesis]
      simp [b64Group, used, otherUsed, thirdUsed, lastUsed, b64_first, b64_second,
        b64_third]

theorem b64CodeToChar_range :
    ∀ code : UInt8,
      43 ≤ (b64CodeToChar code).toNat ∧ (b64CodeToChar code).toNat ≤ 122 :=
  forall_byte (by decide +kernel)

theorem mem_b64Encode
    {data : List UInt8}
    {char : UInt8}
    (written : char ∈ b64Encode data) :
    43 ≤ char.toNat ∧ char.toNat ≤ 122 := by
  induction data using b64Encode.induct with
  | case1 => exact absurd written List.not_mem_nil
  | case2 first =>
      simp only [b64Encode, List.mem_cons, List.not_mem_nil, or_false] at written
      obtain rfl | rfl | rfl | rfl := written
      · exact b64CodeToChar_range _
      · exact b64CodeToChar_range _
      · decide
      · decide
  | case3 first second =>
      simp only [b64Encode, List.mem_cons, List.not_mem_nil, or_false] at written
      obtain rfl | rfl | rfl | rfl := written
      · exact b64CodeToChar_range _
      · exact b64CodeToChar_range _
      · exact b64CodeToChar_range _
      · decide
  | case4 first second third rest inductionHypothesis =>
      simp only [b64Encode, List.mem_cons] at written
      obtain rfl | rfl | rfl | rfl | inRest := written
      · exact b64CodeToChar_range _
      · exact b64CodeToChar_range _
      · exact b64CodeToChar_range _
      · exact b64CodeToChar_range _
      · exact inductionHypothesis inRest

theorem length_b64Encode_mod (data : List UInt8) : (b64Encode data).length % 4 = 0 := by
  induction data using b64Encode.induct with
  | case1 => rfl
  | case2 first => simp [b64Encode]
  | case3 first second => simp [b64Encode]
  | case4 first second third rest inductionHypothesis =>
      simp only [b64Encode, List.length_cons]
      omega

/-! ## The characters that the decoder reads -/

theorem b64CodeAt_of_lt
    {len i : Nat}
    (source : Nat → UInt8)
    (inside : i < len)
    (place : Nat) :
    b64CodeAt source len i place = b64CharToCode (source (i + place)) :=
  if_neg (by omega)

theorem b64DecodeLoop_succ
    {source : Nat → UInt8}
    {len i fuel : Nat}
    (inside : i < len) :
    b64DecodeLoop source len (fuel + 1) i =
      b64Group (b64CharToCode (source i)) (b64CharToCode (source (i + 1)))
          (b64CharToCode (source (i + 2))) (b64CharToCode (source (i + 3))) ++
        b64DecodeLoop source len fuel (i + 4) := by
  rw [b64DecodeLoop, if_neg (by omega)]
  simp only [b64CodeAt_of_lt source inside, Nat.add_zero]

theorem b64DecodeLoop_eq
    {source : Nat → UInt8}
    {len i fuel : Nat}
    {data : List UInt8}
    (reads : ∀ place, source (i + place) = data.getD place 0)
    (size : len = i + data.length)
    (enough : data.length ≤ 4 * fuel) :
    b64DecodeLoop source len fuel i = b64Decode data := by
  induction data using b64Decode.induct generalizing i fuel with
  | case1 =>
      cases fuel with
      | zero => rfl
      | succ fuel => exact if_pos (by simp [size])
  | case2 first second third fourth rest inductionHypothesis =>
      simp only [List.length_cons] at size enough
      obtain ⟨fuel, rfl⟩ : ∃ less, fuel = less + 1 := ⟨fuel - 1, by omega⟩
      have readsRest (place : Nat) : source (i + 4 + place) = rest.getD place 0 := by
        rw [Nat.add_assoc, Nat.add_comm 4 place]
        exact reads (place + 4)
      have next : b64DecodeLoop source len fuel (i + 4) = b64Decode rest :=
        inductionHypothesis readsRest (by omega) (by omega)
      rw [b64DecodeLoop_succ (by omega), next, reads 1, reads 2, reads 3,
        show source i = first from reads 0]
      rfl
  | case3 first rest short =>
      have few : rest.length ≤ 2 := by
        by_contra many
        obtain ⟨second, third, fourth, others, rfl⟩ :
            ∃ second third fourth others, rest = second :: third :: fourth :: others := by
          rcases rest with _ | ⟨second, _ | ⟨third, _ | ⟨fourth, others⟩⟩⟩
          · simp at many
          · simp at many
          · simp at many
          · exact ⟨second, third, fourth, others, rfl⟩
        exact short second third fourth others rfl
      simp only [List.length_cons] at size enough
      obtain ⟨fuel, rfl⟩ : ∃ less, fuel = less + 1 := ⟨fuel - 1, by omega⟩
      have last : (first :: rest).getD 3 0 = 0 := by
        rw [List.getD_eq_getElem?_getD, List.getElem?_eq_none (by simp; omega)]
        rfl
      have ends : b64DecodeLoop source len fuel (i + 4) = [] := by
        cases fuel with
        | zero => rfl
        | succ fuel => exact if_pos (by omega)
      rw [b64DecodeLoop_succ (by omega), ends, List.append_nil, reads 3, last, reads 1, reads 2,
        show source i = first from reads 0]
      simp only [b64Decode, List.getD_cons_succ]

theorem b64DecodeFrom_getD (data : List UInt8) :
    b64DecodeFrom (fun i => data.getD i 0) data.length = b64Decode data :=
  b64DecodeLoop_eq (fun place => by rw [Nat.zero_add]) (Nat.zero_add _).symm (by omega)

/-- The first groups of four whole characters read these characters. -/
theorem b64DecodeLoop_congr
    {source other : Nat → UInt8}
    {len i rounds : Nat}
    (inside : i + 4 * rounds ≤ len)
    (same : ∀ place < len, other place = source place) :
    b64DecodeLoop other len rounds i = b64DecodeLoop source len rounds i := by
  induction rounds generalizing i with
  | zero => rfl
  | succ rounds inductionHypothesis =>
      rw [b64DecodeLoop_succ (by omega), b64DecodeLoop_succ (by omega),
        inductionHypothesis (by omega), same i (by omega), same (i + 1) (by omega),
        same (i + 2) (by omega), same (i + 3) (by omega)]

theorem b64DecodeLoop_add
    (source : Nat → UInt8)
    {len i rounds : Nat}
    (inside : i + 4 * rounds ≤ len + 3)
    (fuel : Nat) :
    b64DecodeLoop source len (rounds + fuel) i =
      b64DecodeLoop source len rounds i ++ b64DecodeLoop source len fuel (i + 4 * rounds) := by
  induction rounds generalizing i with
  | zero => simp [b64DecodeLoop]
  | succ rounds inductionHypothesis =>
      have next : i + 4 + 4 * rounds = i + 4 * (rounds + 1) := by omega
      rw [Nat.add_right_comm, b64DecodeLoop_succ (by omega), b64DecodeLoop_succ (by omega),
        inductionHypothesis (by omega), next, List.append_assoc]

theorem dependsOnText_iff_last (source : Nat → UInt8) (len : Nat) :
    DependsOnText source len ↔
      ∀ other : Nat → UInt8, (∀ i < len, other i = source i) →
        b64DecodeLoop other len ((len + 3) / 4 - len / 4) (4 * (len / 4)) =
          b64DecodeLoop source len ((len + 3) / 4 - len / 4) (4 * (len / 4)) := by
  have rounds : (len + 3) / 4 = len / 4 + ((len + 3) / 4 - len / 4) := by omega
  have split (memory : Nat → UInt8) : b64DecodeFrom memory len =
      b64DecodeLoop memory len (len / 4) 0 ++
        b64DecodeLoop memory len ((len + 3) / 4 - len / 4) (4 * (len / 4)) := by
    have whole := b64DecodeLoop_add memory (by omega : 0 + 4 * (len / 4) ≤ len + 3)
      ((len + 3) / 4 - len / 4)
    rwa [← rounds, Nat.zero_add] at whole
  unfold DependsOnText
  apply forall_congr'
  intro other
  apply imp_congr_right
  intro same
  rw [split other, split source, b64DecodeLoop_congr (by omega) same, List.append_cancel_left_eq]

theorem b64CharToCode_eq_padding : ∀ char : UInt8, b64CharToCode char = 255 → char = 61 :=
  forall_byte (by decide +kernel)

theorem length_b64Group (first second third fourth : UInt8) :
    (b64Group first second third fourth).length =
      (if first ≠ 255 ∧ second ≠ 255 then 1 else 0) +
        (if second ≠ 255 ∧ third ≠ 255 then 1 else 0) +
          if third ≠ 255 ∧ fourth ≠ 255 then 1 else 0 := by
  unfold b64Group
  simp only [List.length_append, apply_ite List.length, List.length_singleton, List.length_nil]

theorem dependsOnText_iff (source : Nat → UInt8) (len : Nat) :
    DependsOnText source len ↔ len % 4 = 0 ∨ len % 4 = 3 ∧ source (len - 1) = 61 := by
  rw [dependsOnText_iff_last]
  by_cases whole : len % 4 = 0
  · rw [show (len + 3) / 4 - len / 4 = 0 by omega]
    simp [whole, b64DecodeLoop]
  · have last (memory : Nat → UInt8) :
        b64DecodeLoop memory len ((len + 3) / 4 - len / 4) (4 * (len / 4)) =
          b64Group (b64CharToCode (memory (4 * (len / 4))))
            (b64CharToCode (memory (4 * (len / 4) + 1)))
            (b64CharToCode (memory (4 * (len / 4) + 2)))
            (b64CharToCode (memory (4 * (len / 4) + 3))) := by
      rw [show (len + 3) / 4 - len / 4 = 0 + 1 by omega, b64DecodeLoop_succ (by omega)]
      exact List.append_nil _
    simp only [last]
    constructor
    · intro depends
      have letters := depends (fun i => if i < len then source i else 65)
        (fun i inside => if_pos inside)
      have padding := depends (fun i => if i < len then source i else 61)
        (fun i inside => if_pos inside)
      have sizes := congrArg List.length (letters.trans padding.symm)
      have letter : b64CharToCode 65 = 0 := rfl
      simp only [length_b64Group] at sizes
      obtain one | two | three : len % 4 = 1 ∨ len % 4 = 2 ∨ len % 4 = 3 := by omega
      · simp only [if_pos (show 4 * (len / 4) < len by omega),
          if_neg (show ¬4 * (len / 4) + 1 < len by omega),
          if_neg (show ¬4 * (len / 4) + 2 < len by omega),
          if_neg (show ¬4 * (len / 4) + 3 < len by omega), letter, b64CharToCode_padding] at sizes
        simp at sizes
      · simp only [if_pos (show 4 * (len / 4) + 1 < len by omega),
          if_pos (show 4 * (len / 4) < len by omega),
          if_neg (show ¬4 * (len / 4) + 2 < len by omega),
          if_neg (show ¬4 * (len / 4) + 3 < len by omega), letter, b64CharToCode_padding] at sizes
        simp at sizes
        omega
      · simp only [if_pos (show 4 * (len / 4) + 1 < len by omega),
          if_pos (show 4 * (len / 4) < len by omega),
          if_pos (show 4 * (len / 4) + 2 < len by omega),
          if_neg (show ¬4 * (len / 4) + 3 < len by omega), letter, b64CharToCode_padding] at sizes
        refine .inr ⟨three, ?_⟩
        rw [show len - 1 = 4 * (len / 4) + 2 by omega]
        apply b64CharToCode_eq_padding
        by_contra used
        simp [used] at sizes
    · rintro (zero | ⟨three, equals⟩) other same
      · exact absurd zero whole
      · rw [show len - 1 = 4 * (len / 4) + 2 by omega] at equals
        rw [same _ (by omega), same _ (by omega), same _ (by omega), equals]
        simp [b64Group, b64CharToCode_padding]

/-- **Base64.**  What `B64_Encode` writes is decoded to the same bytes, whatever lies behind it;
and the result of `B64_Decode` depends on its `len` characters alone exactly when the last group
is whole, or ends with padding before its last character. -/
theorem b64_text
    (data : List UInt8)
    (behind source : Nat → UInt8)
    (len : Nat) :
    b64DecodeFrom (fun i => (b64Encode data).getD i (behind i)) (b64Encode data).length = data ∧
      (DependsOnText source len ↔ len % 4 = 0 ∨ len % 4 = 3 ∧ source (len - 1) = 61) := by
  refine ⟨?_, dependsOnText_iff source len⟩
  have depends : DependsOnText (fun i => (b64Encode data).getD i 0) (b64Encode data).length :=
    (dependsOnText_iff _ _).mpr (.inl (length_b64Encode_mod data))
  have same (i : Nat) (inside : i < (b64Encode data).length) :
      (b64Encode data).getD i (behind i) = (b64Encode data).getD i 0 := by
    rw [List.getD_eq_getElem _ _ inside, List.getD_eq_getElem _ _ inside]
  rw [depends _ same, b64DecodeFrom_getD, b64Decode_encode]

/-- A single character is decoded with the characters behind it. -/
theorem not_dependsOnText :
    ¬∀ (source : Nat → UInt8) (len : Nat), DependsOnText source len := by
  intro all
  have same := all (fun _ => 81) 1 (fun i => if i < 1 then 81 else 61) fun i inside =>
    if_pos inside
  exact absurd same (by decide)

end SoftEther
