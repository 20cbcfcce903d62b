import SoftEther.Mayaqua.Number

/-!
# Escaped names and values

`CfgEscape` makes a string of visible characters that `CfgUnescape` turns back.  A
character that may not stand in a name is written as a dollar sign and two
hexadecimal digits, the empty string as a dollar sign alone.
-/

namespace SoftEther
namespace Cfg

/-- `CfgCheckCharForName`. -/
def checkCharForName (c : UInt8) : Bool :=
  if 0 ≤ charValue c ∧ charValue c ≤ 31 then false
  else if c = 32 ∨ c = 9 then false
  else if c = 36 then false
  else true

/-- What `CfgEscape` writes for a character. -/
def escapeChar (c : UInt8) : List UInt8 :=
  if checkCharForName c then [c] else 36 :: hex2 c

/-- `CfgEscape`. -/
def escape (str : CString) : List UInt8 :=
  if str.strLen = 0 then [36] else str.bytes.flatMap escapeChar

/-- The loop of `CfgUnescape`.  Behind the end of the string stands its terminator,
which ends the digits. -/
def unescapeLoop : List UInt8 → List UInt8
  | [] => []
  | char :: rest =>
      if char ≠ 36 then char :: unescapeLoop rest
      else
        match rest with
        | [] => [UInt8.ofNat (toInt [48, 120]).toNat]
        | [high] => [UInt8.ofNat (toInt [48, 120, high]).toNat]
        | high :: low :: rest =>
            UInt8.ofNat (toInt [48, 120, high, low]).toNat :: unescapeLoop rest

/-- `CfgUnescape`. -/
def unescape (str : List UInt8) : CString :=
  .ofBuffer (if str = [36] then [] else unescapeLoop str)

theorem checkCharForName_cases :
    ∀ c : UInt8, if checkCharForName c then c ≠ 36 else c.toNat < 37 :=
  forall_byte (by decide +kernel)

theorem unescapeLoop_escapeChar
    (c : UInt8)
    (rest : List UInt8) :
    unescapeLoop (escapeChar c ++ rest) = c :: unescapeLoop rest := by
  have cases := checkCharForName_cases c
  unfold escapeChar
  by_cases plain : checkCharForName c
  · rw [if_pos plain] at cases ⊢
    rw [List.singleton_append, unescapeLoop.eq_def]
    exact if_pos cases
  · rw [if_neg plain] at cases ⊢
    have code := toInt_hex2 c.toNat cases
    rw [UInt8.ofNat_toNat] at code
    have number : UInt8.ofNat (toInt (48 :: 120 :: hex2 c)).toNat = c := by
      rw [code, UInt32.toNat_ofNat_of_lt' (by unfold UInt32.size; omega),
        UInt8.ofNat_toNat]
    exact congrArg (fun first => first :: unescapeLoop rest) number

theorem mem_escapeChar : ∀ c : UInt8, ∀ char ∈ escapeChar c, 32 < char.toNat :=
  forall_byte (by decide +kernel)

theorem mem_escape
    {str : CString}
    {char : UInt8}
    (written : char ∈ escape str) :
    32 < char.toNat := by
  unfold escape at written
  split at written
  · rw [List.mem_singleton.mp written]
    decide
  · obtain ⟨c, _, inChar⟩ := List.mem_flatMap.mp written
    exact mem_escapeChar c char inChar

theorem escape_ne_nil (str : CString) : escape str ≠ [] := by
  unfold escape CString.strLen
  split
  · exact List.cons_ne_nil _ _
  · rename_i nonempty
    cases first : str.bytes with
    | nil =>
        rw [first] at nonempty
        exact absurd rfl nonempty
    | cons c rest =>
        rw [List.flatMap_cons]
        unfold escapeChar
        split
        · exact List.cons_ne_nil _ _
        · exact List.cons_ne_nil _ _

theorem unescapeLoop_flatMap (bytes : List UInt8) :
    unescapeLoop (bytes.flatMap escapeChar) = bytes := by
  induction bytes with
  | nil => rfl
  | cons c rest inductionHypothesis =>
      rw [List.flatMap_cons, unescapeLoop_escapeChar, inductionHypothesis]

/-- Only the empty string is written as a dollar sign alone. -/
theorem flatMap_escapeChar_ne
    {bytes : List UInt8} :
    bytes.flatMap escapeChar ≠ [36] := by
  intro same
  have back := unescapeLoop_flatMap bytes
  rw [same] at back
  rw [← back] at same
  exact absurd same (by decide)

theorem unescape_escape (str : CString) : unescape (escape str) = str := by
  unfold escape
  by_cases empty : str.strLen = 0
  · rw [if_pos empty]
    apply CString.ext
    exact (List.eq_nil_of_length_eq_zero empty).symm
  · rw [if_neg empty]
    unfold unescape
    rw [if_neg flatMap_escapeChar_ne, unescapeLoop_flatMap]
    exact CString.ext (CString.bytes_ofBuffer str.noNul)

end Cfg
end SoftEther
