import Mathlib.Data.List.DropRight
import Mathlib.Data.List.TakeWhile
import SoftEther.Mayaqua.Str

/-!
# Wide strings

Wide strings hold characters of 16 bits.  `UniToUtf8` and `Utf8ToUni` convert
them to UTF-8 and back; the conversion to the local character set is done by the
C library or by `iconv` and is a parameter.
-/

namespace SoftEther

/-- The content of a wide string. -/
structure UniString where
  chars : List UInt16
  noNul : 0 ∉ chars
  deriving DecidableEq

namespace UniString

theorem noNul_nil : 0 ∉ ([] : List UInt16) :=
  List.not_mem_nil

@[ext] theorem ext
    {left right : UniString}
    (same : left.chars = right.chars) :
    left = right := by
  cases left
  cases right
  cases same
  rfl

/-- The string that a buffer holds: its characters up to the first zero. -/
def ofBuffer (buffer : List UInt16) : UniString where
  chars := buffer.takeWhile fun char => char ≠ 0
  noNul := by
    intro present
    exact absurd (List.mem_takeWhile_imp present) (by decide)

theorem chars_ofBuffer
    {buffer : List UInt16}
    (noNul : 0 ∉ buffer) :
    (ofBuffer buffer).chars = buffer := by
  unfold ofBuffer
  rw [List.takeWhile_eq_self_iff]
  intro char listed
  have nonzero : char ≠ 0 := fun zero => noNul (zero ▸ listed)
  exact decide_eq_true nonzero

/-- `UniStrCat`. -/
def append (left right : UniString) : UniString where
  chars := left.chars ++ right.chars
  noNul := by
    simp only [List.mem_append, left.noNul, right.noNul, or_self, not_false_eq_true]

end UniString

def highByte (char : UInt16) : UInt8 :=
  UInt8.ofNat (char.toNat / 256)

def lowByte (char : UInt16) : UInt8 :=
  UInt8.ofNat (char.toNat % 256)

/-- The character with the given bytes. -/
def joinBytes (high low : UInt8) : UInt16 :=
  UInt16.ofNat (high.toNat * 256 + low.toNat)

/-- `GetUniType`: the number of bytes of a character in UTF-8. -/
def getUniType (char : UInt16) : Nat :=
  if highByte char = 0 then
    if lowByte char ≤ 0x7f then 1 else 2
  else if highByte char &&& 0xf8 = 0 then 2
  else 3

def topBits (byte : UInt8) : UInt8 :=
  ((byte &&& 0xc0) >>> 6) &&& 0x03

/-- The first byte of a character of two bytes. -/
def leadOfTwo (high top : UInt8) : UInt8 :=
  (0xc0 : UInt8) ||| ((((high &&& 0x07) <<< 2) &&& 0x1c) ||| top)

/-- The first byte of a character of three bytes. -/
def leadOfThree (high : UInt8) : UInt8 :=
  (0xe0 : UInt8) ||| (((high &&& 0xf0) >>> 4) &&& 0x0f)

/-- The second byte of a character of three bytes. -/
def middleOfThree (high top : UInt8) : UInt8 :=
  (0x80 : UInt8) ||| (((high &&& 0x0f) <<< 2) &&& 0x3c) ||| top

/-- The last byte of a character of two or three bytes. -/
def trailByte (low : UInt8) : UInt8 :=
  (0x80 : UInt8) ||| (low &&& 0x3f)

def uniCharToUtf8 (char : UInt16) : List UInt8 :=
  match getUniType char with
  | 1 => [lowByte char]
  | 2 => [leadOfTwo (highByte char) (topBits (lowByte char)), trailByte (lowByte char)]
  | _ =>
      [leadOfThree (highByte char),
        middleOfThree (highByte char) (topBits (lowByte char)),
        trailByte (lowByte char)]

/-- `UniToUtf8` into a buffer of `CalcUniToUtf8` bytes and one. -/
def uniToUtf8 (str : UniString) : List UInt8 :=
  str.chars.flatMap uniCharToUtf8

def charOfTwo (lead trail : UInt8) : UInt16 :=
  joinBytes (((lead &&& 0x1c) >>> 2) &&& 0x07)
    ((((lead &&& 0x03) <<< 6) &&& 0xc0) ||| (trail &&& 0x3f))

def charOfThree (lead middle trail : UInt8) : UInt16 :=
  joinBytes
    ((((lead &&& 0x0f) <<< 4) &&& (0xf0 : UInt8)) |||
      (((middle &&& 0x3c) >>> 2) &&& (0x0f : UInt8)))
    ((((middle &&& 0x03) <<< 6) &&& 0xc0) ||| (trail &&& 0x3f))

/-- The loop of `Utf8ToUni`, with the case distinction of `GetUtf8Type`, into a
buffer of `CalcUtf8ToUni` bytes. -/
def utf8Chars : List UInt8 → List UInt16
  | [] => []
  | first :: rest =>
      if first &&& 0x80 = 0 then joinBytes 0 first :: utf8Chars rest
      else if first &&& 0x20 = 0 then
        match rest with
        | [] => []
        | second :: rest => charOfTwo first second :: utf8Chars rest
      else
        match rest with
        | [] => []
        | [_] => []
        | second :: third :: rest => charOfThree first second third :: utf8Chars rest

def utf8ToUni (str : CString) : UniString :=
  .ofBuffer (utf8Chars str.bytes)

/-! ## The round trip of UTF-8 -/

theorem joinBytes_high_low (char : UInt16) :
    joinBytes (highByte char) (lowByte char) = char := by
  apply UInt16.toNat_inj.mp
  have bound := char.toNat_lt
  simp only [joinBytes, highByte, lowByte, UInt16.toNat_ofNat', UInt8.toNat_ofNat']
  omega

theorem low_of_topBits :
    ∀ low : UInt8,
      ((topBits low <<< 6) &&& 0xc0) ||| (trailByte low &&& 0x3f) = low ∧
      (topBits low).toNat < 4 :=
  forall_byte (by decide +kernel)

theorem leadOfTwo_parts :
    ∀ high < 8, ∀ top < 4,
      let lead := leadOfTwo (UInt8.ofNat high) (UInt8.ofNat top)
      lead &&& 0x80 ≠ 0 ∧ lead &&& 0x20 = 0 ∧
        ((lead &&& 0x1c) >>> 2) &&& 0x07 = UInt8.ofNat high ∧
        lead &&& 0x03 = UInt8.ofNat top := by
  decide +kernel

theorem high_lt_of_masked :
    ∀ high : UInt8, high &&& 0xf8 = 0 → high.toNat < 8 :=
  forall_byte (by decide +kernel)

theorem three_parts :
    ∀ high < 256, ∀ top < 4,
      let lead := leadOfThree (UInt8.ofNat high)
      let middle := middleOfThree (UInt8.ofNat high) (UInt8.ofNat top)
      lead &&& 0x80 ≠ 0 ∧ lead &&& 0x20 ≠ 0 ∧
        (((lead &&& 0x0f) <<< 4) &&& (0xf0 : UInt8)) |||
            (((middle &&& 0x3c) >>> 2) &&& (0x0f : UInt8)) =
          UInt8.ofNat high ∧
        middle &&& 0x03 = UInt8.ofNat top := by
  decide +kernel

theorem single_of_le :
    ∀ low : UInt8, low ≤ 0x7f → low &&& 0x80 = 0 :=
  forall_byte (by decide +kernel)

theorem utf8Chars_uniCharToUtf8
    (char : UInt16)
    (rest : List UInt8) :
    utf8Chars (uniCharToUtf8 char ++ rest) = char :: utf8Chars rest := by
  obtain ⟨lowSame, topSmall⟩ := low_of_topBits (lowByte char)
  unfold uniCharToUtf8 getUniType
  by_cases highZero : highByte char = 0
  · rw [if_pos highZero]
    by_cases single : lowByte char ≤ 0x7f
    · rw [if_pos single]
      change utf8Chars (lowByte char :: rest) = _
      rw [utf8Chars.eq_def]
      dsimp only
      rw [if_pos (single_of_le _ single), ← highZero, joinBytes_high_low]
    · rw [if_neg single]
      obtain ⟨marked, two, highSame, topSame⟩ :=
        leadOfTwo_parts (highByte char).toNat (by rw [highZero]; decide)
          (topBits (lowByte char)).toNat topSmall
      rw [UInt8.ofNat_toNat, UInt8.ofNat_toNat] at marked two highSame topSame
      simp only [List.cons_append, List.nil_append, utf8Chars, if_neg marked,
        if_pos two, charOfTwo, highSame, topSame, lowSame, joinBytes_high_low]
  · rw [if_neg highZero]
    by_cases masked : highByte char &&& 0xf8 = 0
    · rw [if_pos masked]
      obtain ⟨marked, two, highSame, topSame⟩ :=
        leadOfTwo_parts (highByte char).toNat (high_lt_of_masked _ masked)
          (topBits (lowByte char)).toNat topSmall
      rw [UInt8.ofNat_toNat, UInt8.ofNat_toNat] at marked two highSame topSame
      simp only [List.cons_append, List.nil_append, utf8Chars, if_neg marked,
        if_pos two, charOfTwo, highSame, topSame, lowSame, joinBytes_high_low]
    · rw [if_neg masked]
      obtain ⟨marked, three, highSame, topSame⟩ :=
        three_parts (highByte char).toNat (highByte char).toNat_lt
          (topBits (lowByte char)).toNat topSmall
      simp only [UInt8.ofNat_toNat] at marked three highSame topSame
      simp only [List.cons_append, List.nil_append, utf8Chars, if_neg marked,
        if_neg three, charOfThree, highSame, topSame, lowSame, joinBytes_high_low]

theorem utf8Chars_flatMap (chars : List UInt16) :
    utf8Chars (chars.flatMap uniCharToUtf8) = chars := by
  induction chars with
  | nil => rfl
  | cons char rest inductionHypothesis =>
      rw [List.flatMap_cons, utf8Chars_uniCharToUtf8, inductionHypothesis]

theorem leadOfTwo_ne_zero (high top : UInt8) : 0 ≠ leadOfTwo high top :=
  fun zero => absurd (UInt8.or_eq_zero_iff.mp zero.symm).1 (by decide)

theorem leadOfThree_ne_zero (high : UInt8) : 0 ≠ leadOfThree high :=
  fun zero => absurd (UInt8.or_eq_zero_iff.mp zero.symm).1 (by decide)

theorem middleOfThree_ne_zero (high top : UInt8) : 0 ≠ middleOfThree high top :=
  fun zero => absurd
    (UInt8.or_eq_zero_iff.mp (UInt8.or_eq_zero_iff.mp zero.symm).1).1 (by decide)

theorem trailByte_ne_zero (low : UInt8) : 0 ≠ trailByte low :=
  fun zero => absurd (UInt8.or_eq_zero_iff.mp zero.symm).1 (by decide)

theorem zero_notMem_uniCharToUtf8
    {char : UInt16}
    (nonzero : char ≠ 0) :
    0 ∉ uniCharToUtf8 char := by
  unfold uniCharToUtf8
  split
  · rename_i single
    intro listed
    have lowZero := List.mem_singleton.mp listed
    have highZero : highByte char = 0 := by
      by_contra high
      unfold getUniType at single
      rw [if_neg high] at single
      split at single
      · exact absurd single (by decide)
      · exact absurd single (by decide)
    have same := joinBytes_high_low char
    rw [highZero, ← lowZero] at same
    exact nonzero same.symm
  · simp [leadOfTwo_ne_zero, trailByte_ne_zero]
  · simp [leadOfThree_ne_zero, middleOfThree_ne_zero, trailByte_ne_zero]

theorem zero_notMem_uniToUtf8 (str : UniString) : 0 ∉ uniToUtf8 str := by
  intro listed
  obtain ⟨char, present, byte⟩ := List.mem_flatMap.mp listed
  exact zero_notMem_uniCharToUtf8 (fun zero => str.noNul (zero ▸ present)) byte

theorem utf8ToUni_uniToUtf8
    {str : UniString}
    {bytes : CString}
    (written : bytes.bytes = uniToUtf8 str) :
    utf8ToUni bytes = str := by
  have chars : utf8Chars bytes.bytes = str.chars := by
    rw [written]
    exact utf8Chars_flatMap str.chars
  apply UniString.ext
  unfold utf8ToUni
  rw [chars, UniString.chars_ofBuffer str.noNul]

/-- A blank for `UniTrim`. -/
def isUniBlank (char : UInt16) : Bool :=
  char = 32 ∨ char = 9

def uniTrim (chars : List UInt16) : List UInt16 :=
  (chars.dropWhile isUniBlank).rdropWhile isUniBlank

/-- The conversions between the local character set and wide strings. -/
structure Locale where
  strToUni : CString → UniString
  uniToStr : UniString → CString

/-- `Format` with `"%s %s"`: the parts are converted to wide strings and the
result is converted back. -/
def Locale.formatPair (locale : Locale) (first second : CString) : CString :=
  locale.uniToStr
    (((locale.strToUni first).append ⟨[32], by decide⟩).append
      (locale.strToUni second))

/-- The character set `US`: a conversion gives the empty string when a character
is not ASCII. -/
def usAscii : Locale where
  strToUni str := .ofBuffer
    (if str.bytes.all (· < 128) then
      str.bytes.map fun byte => UInt16.ofNat byte.toNat
    else [])
  uniToStr str := .ofBuffer
    (if str.chars.all (· < 128) then
      str.chars.map fun char => UInt8.ofNat char.toNat
    else [])

end SoftEther
