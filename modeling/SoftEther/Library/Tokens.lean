import Mathlib.Data.List.Basic

/-!
# Tokens

The tokens of a list are its longest runs without a separator.  A line that is
written as words between separators has the words as its tokens.
-/

namespace SoftEther
namespace Library

section

variable {α : Type}
variable (isSeparator : α → Bool)

/-- The longest runs of elements that are no separators. -/
def tokens (input : List α) : List (List α) :=
  (input.splitOnP isSeparator).filter fun token => !token.isEmpty

/-- A word: a token of its own. -/
structure IsWord (word : List α) : Prop where
  nonempty : word ≠ []
  clean : ∀ element ∈ word, isSeparator element = false

variable {isSeparator}

theorem tokens_separator
    {separator : α}
    (separates : isSeparator separator = true)
    (input : List α) :
    tokens isSeparator (separator :: input) = tokens isSeparator input := by
  simp [tokens, List.splitOnP_cons_eq_if_modifyHead, separates]

theorem tokens_separators
    {separators : List α}
    (separate : ∀ separator ∈ separators, isSeparator separator = true)
    (input : List α) :
    tokens isSeparator (separators ++ input) = tokens isSeparator input := by
  induction separators with
  | nil => rfl
  | cons separator rest inductionHypothesis =>
      rw [List.cons_append, tokens_separator (separate separator List.mem_cons_self),
        inductionHypothesis fun other listed =>
          separate other (List.mem_cons_of_mem _ listed)]

theorem tokens_clean
    {word : List α}
    (clean : ∀ element ∈ word, isSeparator element = false) :
    tokens isSeparator word = if word = [] then [] else [word] := by
  unfold tokens
  rw [List.splitOnP_eq_singleton clean]
  cases word with
  | nil => rfl
  | cons first rest => rfl

theorem tokens_word
    {word : List α}
    (isWord : IsWord isSeparator word) :
    tokens isSeparator word = [word] := by
  rw [tokens_clean isWord.clean, if_neg isWord.nonempty]

theorem tokens_word_separator
    {word : List α}
    (isWord : IsWord isSeparator word)
    {separator : α}
    (separates : isSeparator separator = true)
    (rest : List α) :
    tokens isSeparator (word ++ separator :: rest) =
      word :: tokens isSeparator rest := by
  have split := List.splitOnP_append_cons_of_forall_mem isWord.clean separator
    separates rest
  unfold tokens
  rw [split]
  cases word with
  | nil => exact absurd rfl isWord.nonempty
  | cons first others => rfl

end

end Library
end SoftEther
