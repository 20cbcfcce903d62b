import SoftEther.Mayaqua.Internat
import SoftEther.Mayaqua.UInt

/-!
# Sizes of UTF-8 conversions

`CalcUniToUtf8` and `CalcUtf8ToUni` compute the sizes of the buffers that `UniToUtf8` and
`Utf8ToUni` fill.  The conversions take a size of zero for a buffer without a bound.
-/

namespace SoftEther

/-- `sizeof(wchar_t)`. -/
def SIZEOF_WCHAR : Nat := 4

/-- A wide string that lies in memory with its terminator. -/
abbrev WideText := { s : UniString // (s.chars.length + 1) * SIZEOF_WCHAR < X32 }

/-- A byte string that `Malloc` can hold: `MAX_MALLOC_MEM_SIZE` bytes. -/
abbrev ByteText := { u : List UInt8 // u.length ≤ 4294967231 }

/-- What a conversion writes, its terminator included, and the number that it returns. -/
structure Conversion (α : Type) where
  written : List α
  result : Nat

/-- The size of a buffer; zero is no bound. -/
def boundOf (size : Nat) : Nat :=
  if size = 0 then 0x3fffffff else size

/-- The bytes of `u`; the size zero stands for the ones before the terminator. -/
def bytesOf (u : List UInt8) (uSize : Nat) : List UInt8 :=
  if uSize = 0 then u.takeWhile (· ≠ 0) else u.take uSize

def calcUniToUtf8 (s : UniString) : Nat :=
  (s.chars.map getUniType).sum % X32

/-- `UniToUtf8`: the bytes are written as long as there is room. -/
def uniToUtf8Into (size : Nat) (s : UniString) : Conversion UInt8 :=
  let bytes := (uniToUtf8 s).take (boundOf size)
  { written := bytes ++ if bytes.length < boundOf size then [0] else []
    result := bytes.length }

/-- The loop of `Utf8Len`. -/
def countUtf8 : List UInt8 → Nat
  | [] => 0
  | first :: rest =>
      if first &&& 0x80 = 0 then countUtf8 rest + 1
      else if first &&& 0x20 = 0 then
        match rest with
        | [] => 0
        | _ :: rest => countUtf8 rest + 1
      else
        match rest with
        | [] => 0
        | [_] => 0
        | _ :: _ :: rest => countUtf8 rest + 1

def utf8Len (u : List UInt8) (uSize : Nat) : Nat :=
  countUtf8 (bytesOf u uSize)

def calcUtf8ToUni (u : List UInt8) (uSize : Nat) : Nat :=
  (utf8Len u uSize + 1) * SIZEOF_WCHAR % X32

/-- `Utf8ToUni`: the characters are written as long as there is room for one more behind them; the
room is a `size_t`. -/
def utf8ToUniInto (size : Nat) (u : List UInt8) (uSize : Nat) : Conversion UInt16 :=
  let room := boundOf size / SIZEOF_WCHAR
  let chars := (utf8Chars (bytesOf u uSize)).take ((room + X64 - 1) % X64)
  { written := chars ++ if chars.length < room then [0] else []
    result := chars.length }

/-- A wide string comes back through buffers of the computed sizes, and the conversions fill them. -/
def RoundTrips (s : UniString) : Prop :=
  let bytes := uniToUtf8Into (calcUniToUtf8 s) s
  let size := calcUtf8ToUni bytes.written bytes.result
  let chars := utf8ToUniInto size bytes.written bytes.result
  bytes.written.length = calcUniToUtf8 s ∧ chars.written.take chars.result = s.chars ∧
    chars.written.length * SIZEOF_WCHAR = size

/-- A byte string is converted within the buffer that was computed for it. -/
def WithinAnnounced (u : List UInt8) : Prop :=
  (utf8ToUniInto (calcUtf8ToUni u u.length) u u.length).written.length * SIZEOF_WCHAR ≤
    calcUtf8ToUni u u.length

theorem countUtf8_eq_length (u : List UInt8) : countUtf8 u = (utf8Chars u).length := by
  fun_induction countUtf8 u with
  | case1 => rfl
  | case2 first rest single inductionHypothesis =>
      rw [utf8Chars.eq_def]
      simp only [if_pos single, List.length_cons, inductionHypothesis]
  | case3 first many two => simp [utf8Chars, many, two]
  | case4 first many two second rest inductionHypothesis =>
      simp only [utf8Chars, if_neg many, if_pos two, List.length_cons, inductionHypothesis]
  | case5 first many three => simp [utf8Chars, many, three]
  | case6 first many three second => simp [utf8Chars, many, three]
  | case7 first many three second third rest inductionHypothesis =>
      simp only [utf8Chars, if_neg many, if_neg three, List.length_cons, inductionHypothesis]

theorem length_uniCharToUtf8 (char : UInt16) : (uniCharToUtf8 char).length = getUniType char := by
  unfold uniCharToUtf8 getUniType
  split <;> split <;> simp_all

theorem sum_getUniType (s : UniString) : (s.chars.map getUniType).sum = (uniToUtf8 s).length := by
  simp only [uniToUtf8, List.length_flatMap, length_uniCharToUtf8]

theorem getUniType_bounds (char : UInt16) : 1 ≤ getUniType char ∧ getUniType char ≤ 3 := by
  unfold getUniType
  split
  · split <;> omega
  · split <;> omega

theorem length_uniToUtf8_bounds (s : UniString) :
    s.chars.length ≤ (uniToUtf8 s).length ∧ (uniToUtf8 s).length ≤ 3 * s.chars.length := by
  rw [← sum_getUniType]
  induction s.chars with
  | nil => simp
  | cons char rest inductionHypothesis =>
      have bounds := getUniType_bounds char
      simp only [List.map_cons, List.sum_cons, List.length_cons]
      omega

/-- A string that is not empty fills the buffer of its size, without a terminator. -/
theorem uniToUtf8Into_calc (s : WideText) (nonempty : s.val.chars ≠ []) :
    calcUniToUtf8 s.val = (uniToUtf8 s.val).length ∧
      uniToUtf8Into (calcUniToUtf8 s.val) s.val =
        ⟨uniToUtf8 s.val, (uniToUtf8 s.val).length⟩ := by
  have small := s.property
  have bounds := length_uniToUtf8_bounds s.val
  have positive := List.length_pos_iff.mpr nonempty
  have size : calcUniToUtf8 s.val = (uniToUtf8 s.val).length := by
    unfold calcUniToUtf8
    rw [sum_getUniType]
    apply Nat.mod_eq_of_lt
    unfold SIZEOF_WCHAR X32 at small
    unfold X32
    omega
  refine ⟨size, ?_⟩
  unfold uniToUtf8Into boundOf
  rw [size, if_neg (by omega), List.take_length]
  dsimp only
  rw [if_neg (by omega), List.append_nil]

theorem roundTrips_iff_chars (s : WideText) : RoundTrips s.val ↔ s.val.chars ≠ [] := by
  constructor
  · rintro ⟨filled, _⟩ empty
    simp [calcUniToUtf8, uniToUtf8Into, uniToUtf8, boundOf, empty] at filled
  · intro nonempty
    obtain ⟨size, bytes⟩ := uniToUtf8Into_calc s nonempty
    have small := s.property
    have bounds := length_uniToUtf8_bounds s.val
    have positive := List.length_pos_iff.mpr nonempty
    have read : bytesOf (uniToUtf8 s.val) (uniToUtf8 s.val).length = uniToUtf8 s.val := by
      unfold bytesOf
      rw [if_neg (by omega), List.take_length]
    have chars : utf8Chars (uniToUtf8 s.val) = s.val.chars := utf8Chars_flatMap s.val.chars
    have announced : calcUtf8ToUni (uniToUtf8 s.val) (uniToUtf8 s.val).length =
        (s.val.chars.length + 1) * SIZEOF_WCHAR := by
      unfold calcUtf8ToUni utf8Len
      rw [read, countUtf8_eq_length, chars]
      exact Nat.mod_eq_of_lt small
    have converted : utf8ToUniInto ((s.val.chars.length + 1) * SIZEOF_WCHAR) (uniToUtf8 s.val)
        (uniToUtf8 s.val).length = ⟨s.val.chars ++ [0], s.val.chars.length⟩ := by
      have room : ((s.val.chars.length + 1) * SIZEOF_WCHAR / SIZEOF_WCHAR + X64 - 1) % X64 =
          s.val.chars.length := by
        unfold SIZEOF_WCHAR X32 at small
        unfold SIZEOF_WCHAR X64
        omega
      unfold utf8ToUniInto boundOf
      rw [if_neg (by unfold SIZEOF_WCHAR; omega), read, chars]
      dsimp only
      rw [room, List.take_length, if_pos (by unfold SIZEOF_WCHAR; omega)]
    unfold RoundTrips
    simp only [bytes, announced, converted]
    refine ⟨size.symm, List.take_left, ?_⟩
    rw [List.length_append]
    rfl

theorem withinAnnounced_iff (u : List UInt8) :
    WithinAnnounced u ↔ (utf8Len u u.length + 1) % 1073741824 ≠ 0 := by
  have written : ∀ size, (utf8ToUniInto size u u.length).written.length =
      min (utf8Len u u.length) ((boundOf size / SIZEOF_WCHAR + X64 - 1) % X64) +
        if min (utf8Len u u.length) ((boundOf size / SIZEOF_WCHAR + X64 - 1) % X64) <
            boundOf size / SIZEOF_WCHAR then 1 else 0 := by
    intro size
    unfold utf8ToUniInto utf8Len
    dsimp only
    rw [countUtf8_eq_length, List.length_append, List.length_take,
      Nat.min_comm (_ % X64)]
    split <;> rfl
  unfold WithinAnnounced
  rw [written]
  unfold calcUtf8ToUni boundOf SIZEOF_WCHAR X32 X64
  constructor
  · intro within zero
    have wrapped : (utf8Len u u.length + 1) * 4 % 4294967296 = 0 := by omega
    rw [wrapped] at within
    simp only [if_true] at within
    split at within <;> omega
  · intro fits
    rw [if_neg (by omega)]
    split <;> omega

theorem countUtf8_replicate (count : Nat) : countUtf8 (List.replicate count 65) = count := by
  induction count with
  | zero => rfl
  | succ count inductionHypothesis =>
      rw [List.replicate_succ]
      unfold countUtf8
      rw [if_pos (by decide), inductionHypothesis]

theorem not_withinAnnounced_replicate
    {count : Nat}
    (wraps : (count + 1) % 1073741824 = 0) :
    ¬WithinAnnounced (List.replicate count 65) := by
  rw [withinAnnounced_iff]
  unfold utf8Len bytesOf
  rw [List.length_replicate, if_neg (by omega), List.take_replicate, Nat.min_self,
    countUtf8_replicate]
  exact fun differs => differs wraps

/-- **Sizes of UTF-8 conversions.**  A wide string comes back through buffers of the computed sizes
if and only if it is not empty, and a byte string is converted within the computed size if and only
if the number of its characters and one is no multiple of 2^30. -/
theorem utf8_sizes (s : WideText) (u : ByteText) :
    (RoundTrips s.val ↔ s.val.chars ≠ []) ∧
      (WithinAnnounced u.val ↔ (utf8Len u.val u.val.length + 1) % 1073741824 ≠ 0) :=
  ⟨roundTrips_iff_chars s, withinAnnounced_iff u.val⟩

/-- The empty string is written with its terminator into a buffer of no bytes, and the buffer of
2^30 - 1 characters has a computed size of zero. -/
theorem not_utf8_sizes :
    ¬RoundTrips ⟨[], UniString.noNul_nil⟩ ∧
      ¬WithinAnnounced (List.replicate 1073741823 65) := by
  refine ⟨fun trips => ?_, not_withinAnnounced_replicate (by omega)⟩
  have filled := trips.1
  simp [calcUniToUtf8, uniToUtf8Into, uniToUtf8, boundOf] at filled

end SoftEther
