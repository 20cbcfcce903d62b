import Mathlib.Data.List.Basic

/-!
# Decoders of a byte stream

A decoder waits until a number of elements has come in, looks at them, uses some of them
and goes on in another phase.  Under a rank that goes down whenever nothing is used, it
comes to rest, and where it rests does not depend on how the stream was cut.
-/

namespace SoftEther
namespace Library

/-- A decoder with phases: how many elements it waits for, how many it uses, and what it
makes of them. -/
structure Decoder (Phase Element Item : Type) where
  want : Phase → Nat
  used : Phase → Nat
  next : Phase → List Element → Phase × List Item

namespace Decoder

variable {Phase Element Item : Type}
variable (decoder : Decoder Phase Element Item)

/-- The decoder goes from a phase and a buffer to others as long as it has what it wants,
and gives items. -/
inductive Steps : Phase → List Element → List Item → Phase → List Element → Prop
  | refl (phase : Phase) (buffer : List Element) : Steps phase buffer [] phase buffer
  | more {phase last : Phase} {buffer rest : List Element} {items : List Item} :
      decoder.want phase ≤ buffer.length →
      Steps (decoder.next phase (buffer.take (decoder.used phase))).1
        (buffer.drop (decoder.used phase)) items last rest →
      Steps phase buffer
        ((decoder.next phase (buffer.take (decoder.used phase))).2 ++ items) last rest

/-- The decoder waits for more. -/
def Rests (phase : Phase) (buffer : List Element) : Prop :=
  buffer.length < decoder.want phase

/-- The phases that can be met: the invariant holds in them. -/
structure Sound (invariant : Phase → Prop) : Prop where
  used_le : ∀ phase, invariant phase → decoder.used phase ≤ decoder.want phase
  next : ∀ phase elements, invariant phase → elements.length = decoder.used phase →
    invariant (decoder.next phase elements).1

variable {decoder}

variable {buffer rest : List Element} {items : List Item}

theorem Steps.cons
    {phase after last : Phase}
    {early items : List Item}
    (enough : decoder.want phase ≤ buffer.length)
    (next : decoder.next phase (buffer.take (decoder.used phase)) = (after, early))
    (steps : decoder.Steps after (buffer.drop (decoder.used phase)) items last rest) :
    decoder.Steps phase buffer (early ++ items) last rest := by
  have step : decoder.Steps (decoder.next phase (buffer.take (decoder.used phase))).1
      (buffer.drop (decoder.used phase)) items last rest := by
    rw [next]
    exact steps
  have steps := Steps.more enough step
  rw [next] at steps
  exact steps

theorem Steps.trans
    {first second third : Phase}
    {buffer middle rest : List Element}
    {early late : List Item}
    (before : decoder.Steps first buffer early second middle)
    (after : decoder.Steps second middle late third rest) :
    decoder.Steps first buffer (early ++ late) third rest := by
  induction before with
  | refl => exact after
  | more enough _ inductionHypothesis =>
      rw [List.append_assoc]
      exact .more enough (inductionHypothesis after)

theorem Steps.read
    {phase after : Phase}
    {elements : List Element}
    (rest : List Element)
    (used : elements.length = decoder.used phase)
    (wanted : decoder.want phase = decoder.used phase)
    (next : decoder.next phase elements = (after, items)) :
    decoder.Steps phase (elements ++ rest) items after rest := by
  have enough : decoder.want phase ≤ (elements ++ rest).length := by
    rw [wanted, ← used]
    simp
  have step : decoder.Steps phase (elements ++ rest) (items ++ []) after rest := by
    apply Steps.cons enough
    · rw [← used, List.take_left]
      exact next
    · rw [← used, List.drop_left]
      exact .refl _ _
  rwa [List.append_nil] at step

theorem Steps.append
    {invariant : Phase → Prop}
    (sound : decoder.Sound invariant)
    {first last : Phase}
    (steps : decoder.Steps first buffer items last rest)
    (holds : invariant first)
    (more : List Element) :
    decoder.Steps first (buffer ++ more) items last (rest ++ more) := by
  induction steps with
  | refl => exact .refl _ _
  | @more phase last buffer rest items enough _ inductionHypothesis =>
      have inside : decoder.used phase ≤ buffer.length :=
        Nat.le_trans (sound.used_le phase holds) enough
      have later := inductionHypothesis
        (sound.next phase _ holds (List.length_take_of_le inside))
      have wanted : decoder.want phase ≤ (buffer ++ more).length :=
        Nat.le_trans enough (by simp)
      have same : decoder.next phase ((buffer ++ more).take (decoder.used phase)) =
          decoder.next phase (buffer.take (decoder.used phase)) := by
        rw [List.take_append_of_le_length inside]
      apply Steps.cons wanted same
      rw [List.drop_append_of_le_length inside]
      exact later

theorem Steps.prefix_of_rests
    {first middle last : Phase}
    {buffer between rest : List Element}
    {early all : List Item}
    (steps : decoder.Steps first buffer early middle between)
    (complete : decoder.Steps first buffer all last rest)
    (atRest : decoder.Rests last rest) :
    ∃ remaining, all = early ++ remaining ∧
      decoder.Steps middle between remaining last rest := by
  induction steps generalizing all with
  | refl => exact ⟨all, rfl, complete⟩
  | more enough _ inductionHypothesis =>
      cases complete with
      | refl => exact absurd enough (Nat.not_le.mpr atRest)
      | more _ complete =>
          obtain ⟨remaining, rfl, left⟩ := inductionHypothesis complete
          exact ⟨remaining, by rw [List.append_assoc], left⟩

theorem Steps.of_rests
    {first last : Phase}
    (steps : decoder.Steps first buffer items last rest)
    (atRest : decoder.Rests first buffer) :
    items = [] ∧ last = first ∧ rest = buffer := by
  cases steps with
  | refl => exact ⟨rfl, rfl, rfl⟩
  | more enough _ => exact absurd enough (Nat.not_le.mpr atRest)

/-- A rank that goes down whenever nothing is used. -/
structure Ranked (decoder : Decoder Phase Element Item) (invariant : Phase → Prop)
    (rank : Phase → Nat) (bound : Nat) : Prop where
  rank_le : ∀ phase, rank phase ≤ bound
  idle : ∀ phase elements, invariant phase → decoder.used phase = 0 →
    elements.length = decoder.used phase → rank (decoder.next phase elements).1 < rank phase

/-- What is left to do. -/
def measure (rank : Phase → Nat) (bound : Nat) (phase : Phase) (buffer : List Element) : Nat :=
  (bound + 1) * buffer.length + rank phase

/-- Each step leaves less to do. -/
theorem Ranked.measure_lt
    {invariant : Phase → Prop}
    {rank : Phase → Nat}
    {bound : Nat}
    (ranked : Ranked decoder invariant rank bound)
    (sound : decoder.Sound invariant)
    {phase : Phase}
    {buffer : List Element}
    (holds : invariant phase)
    (enough : decoder.want phase ≤ buffer.length) :
    measure rank bound (decoder.next phase (buffer.take (decoder.used phase))).1
        (buffer.drop (decoder.used phase)) <
      measure rank bound phase buffer := by
  have inside : decoder.used phase ≤ buffer.length := Nat.le_trans (sound.used_le phase holds) enough
  have taken : (buffer.take (decoder.used phase)).length = decoder.used phase :=
    List.length_take_of_le inside
  unfold measure
  rw [List.length_drop]
  by_cases idle : decoder.used phase = 0
  · have less := ranked.idle phase _ holds idle taken
    rw [idle] at less ⊢
    simpa using less
  · have low := ranked.rank_le (decoder.next phase (buffer.take (decoder.used phase))).1
    have split : buffer.length = (buffer.length - decoder.used phase) + decoder.used phase := by
      omega
    have positive : 1 ≤ decoder.used phase := Nat.one_le_iff_ne_zero.mpr idle
    have more : (bound + 1) * 1 ≤ (bound + 1) * decoder.used phase :=
      Nat.mul_le_mul_left _ positive
    have total : (bound + 1) * buffer.length =
        (bound + 1) * (buffer.length - decoder.used phase) +
          (bound + 1) * decoder.used phase := by
      rw [← Nat.mul_add, ← split]
    omega

end Decoder

end Library
end SoftEther
