import Mathlib.Data.List.Basic

/-!
# Reading what was written

A reader goes over a text with a state.  A text has an effect on the reader when
reading it, whatever follows, comes to going on behind it with the changed state.
Effects of texts compose along the text.
-/

namespace SoftEther
namespace Library

section

variable {α β σ τ : Type}

/-- Reading the text in any state comes to going on behind it with the state that
the effect makes. -/
def HasEffect
    (run : σ → List β → τ)
    (text : List β)
    (effect : σ → σ) : Prop :=
  ∀ state rest, run state (text ++ rest) = run (effect state) rest

theorem HasEffect.nil (run : σ → List β → τ) : HasEffect run [] id :=
  fun _ _ => rfl

theorem HasEffect.append
    {run : σ → List β → τ}
    {first second : List β}
    {firstEffect secondEffect : σ → σ}
    (before : HasEffect run first firstEffect)
    (after : HasEffect run second secondEffect) :
    HasEffect run (first ++ second) (secondEffect ∘ firstEffect) := by
  intro state rest
  rw [List.append_assoc, before, after]
  rfl

theorem HasEffect.flatMap
    {run : σ → List β → τ}
    {write : α → List β}
    {effect : σ → α → σ}
    {items : List α}
    (each : ∀ item ∈ items, HasEffect run (write item) fun state => effect state item) :
    HasEffect run (items.flatMap write) fun state => items.foldl effect state := by
  induction items with
  | nil => exact HasEffect.nil run
  | cons item rest inductionHypothesis =>
      exact (each item List.mem_cons_self).append
        (inductionHypothesis fun other listed =>
          each other (List.mem_cons_of_mem _ listed))

/-- A step that reads one item and leaves the rest of the text. -/
def ReadsOne
    (step : σ → List β → σ × List β)
    (text : List β)
    (effect : σ → σ) : Prop :=
  ∀ state rest, step state (text ++ rest) = (effect state, rest)

/-- A loop that takes a step for each of a counted number of items. -/
def readTimes (step : σ → List β → σ × List β) : Nat → σ → List β → σ × List β
  | 0, state, text => (state, text)
  | count + 1, state, text =>
      let (state, text) := step state text
      readTimes step count state text

theorem ReadsOne.readTimes
    {step : σ → List β → σ × List β}
    {write : α → List β}
    {effect : σ → α → σ}
    {items : List α}
    (each : ∀ item ∈ items, ReadsOne step (write item) fun state => effect state item) :
    ReadsOne (readTimes step items.length) (items.flatMap write)
      fun state => items.foldl effect state := by
  induction items with
  | nil => exact fun _ _ => rfl
  | cons item others inductionHypothesis =>
      intro state rest
      have first := each item List.mem_cons_self state (others.flatMap write ++ rest)
      have remaining := inductionHypothesis fun other listed =>
        each other (List.mem_cons_of_mem _ listed)
      rw [List.flatMap_cons, List.append_assoc, List.length_cons, Library.readTimes,
        first]
      exact remaining (effect state item) rest

theorem length_readTimes
    {step : σ → List β → σ × List β}
    {bound : Nat}
    (shrinks : ∀ state text, text.length ≤ bound → (step state text).2.length ≤ text.length)
    (count : Nat)
    (state : σ)
    {text : List β}
    (short : text.length ≤ bound) :
    (readTimes step count state text).2.length ≤ text.length := by
  induction count generalizing state text with
  | zero => exact Nat.le_refl _
  | succ count inductionHypothesis =>
      have first := shrinks state text short
      exact Nat.le_trans
        (inductionHypothesis (step state text).1 (Nat.le_trans first short)) first

theorem readTimes_congr
    {step other : σ → List β → σ × List β}
    {bound : Nat}
    (shrinks : ∀ state text, text.length ≤ bound →
      (other state text).2.length ≤ text.length)
    (agree : ∀ state text, text.length ≤ bound → step state text = other state text)
    (count : Nat)
    (state : σ)
    {text : List β}
    (short : text.length ≤ bound) :
    readTimes step count state text = readTimes other count state text := by
  induction count generalizing state text with
  | zero => rfl
  | succ count inductionHypothesis =>
      have first := shrinks state text short
      simp only [readTimes, agree state text short]
      exact inductionHypothesis _ (Nat.le_trans first short)

end

end Library
end SoftEther
