import SoftEther.Library.Tokens
import SoftEther.Mayaqua.Str

/-!
# Splitting a string into tokens

`ParseToken`, which is `ParseTokenWithoutNullStr`: its loop collects characters
in a buffer and hands the buffer on at a separator.  What it makes are the tokens
of the string.
-/

namespace SoftEther

open Library

/-- The token that the buffer holds at a separator.  Nothing is handed on behind
another separator or when the buffer is empty. -/
def handOn (lastFlag : Bool) (buffer : List UInt8) : List (List UInt8) :=
  if lastFlag = false ∧ buffer ≠ [] then [buffer] else []

/-- The loop of `ParseTokenWithoutNullStr`, with the content of the buffer and
`last_flag`; the terminator of the string counts as a separator. -/
def parseTokenLoop (splitChars : List UInt8) (buffer : List UInt8) (lastFlag : Bool) :
    List UInt8 → List (List UInt8)
  | [] => handOn lastFlag buffer
  | char :: rest =>
      if char ∈ splitChars then
        handOn lastFlag buffer ++
          parseTokenLoop splitChars (if lastFlag then buffer else []) true rest
      else
        parseTokenLoop splitChars (buffer ++ [char]) false rest

def parseToken (str : CString) (separator : List UInt8) : List (List UInt8) :=
  parseTokenLoop separator [] false str.bytes

theorem parseTokenLoop_eq_tokens
    {splitChars : List UInt8}
    {lastFlag : Bool}
    {buffer : List UInt8}
    (clean : ∀ char ∈ buffer, decide (char ∈ splitChars) = false)
    (handed : lastFlag = true → buffer = [])
    (str : List UInt8) :
    parseTokenLoop splitChars buffer lastFlag str =
      tokens (fun char => decide (char ∈ splitChars)) (buffer ++ str) := by
  induction str generalizing buffer lastFlag with
  | nil =>
      rw [List.append_nil, tokens_clean clean, parseTokenLoop, handOn]
      cases lastFlag with
      | true =>
          rw [handed rfl]
          rfl
      | false =>
          by_cases empty : buffer = []
          · simp [empty]
          · simp [empty]
  | cons char rest inductionHypothesis =>
      unfold parseTokenLoop
      by_cases separates : char ∈ splitChars
      · have emptied : (if lastFlag then buffer else []) = [] := by
          cases lastFlag with
          | true => exact handed rfl
          | false => rfl
        rw [if_pos separates, emptied,
          @inductionHypothesis true [] (by simp) fun _ => rfl,
          List.nil_append]
        by_cases empty : buffer = []
        · rw [empty, List.nil_append, tokens_separator (by simpa using separates)]
          simp [handOn]
        · have word : IsWord (fun char => decide (char ∈ splitChars)) buffer :=
            ⟨empty, clean⟩
          have notHanded : lastFlag = false := by
            cases lastFlag with
            | true => exact absurd (handed rfl) empty
            | false => rfl
          rw [tokens_word_separator word (by simpa using separates)]
          simp [handOn, notHanded, empty]
      · have collected : ∀ other ∈ buffer ++ [char],
            decide (other ∈ splitChars) = false := by
          intro other listed
          obtain inBuffer | last := List.mem_append.mp listed
          · exact clean other inBuffer
          · rw [List.mem_singleton.mp last]
            exact decide_eq_false separates
        rw [if_neg separates, @inductionHypothesis false _ collected (by simp),
          List.append_assoc, List.singleton_append]

theorem parseToken_eq_tokens (str : CString) (separator : List UInt8) :
    parseToken str separator =
      tokens (fun char => decide (char ∈ separator)) str.bytes :=
  parseTokenLoop_eq_tokens (by simp) (by simp) str.bytes

end SoftEther
