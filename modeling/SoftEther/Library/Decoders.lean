import Mathlib.Data.Option.Basic
import Mathlib.Data.List.Basic

/-!
# Decoders

A decoder takes a value off the front of some items and leaves the rest.  It is steady when
what follows does not change what it takes.  A steady decoder that takes some items as a whole
takes nothing off a part of them: the items it takes are free of prefixes.
-/

namespace SoftEther
namespace Library

section

variable {Item Value Next : Type}

/-- A decoder off the front of some items. -/
abbrev PrefixDecoder (Item Value : Type) : Type :=
  List Item → Option (Value × List Item)

/-- The decoder takes the items as the value, whatever follows. -/
def Decodes (decoder : PrefixDecoder Item Value) (items : List Item) (value : Value) : Prop :=
  ∀ rest, decoder (items ++ rest) = some (value, rest)

/-- What follows does not change what the decoder takes. -/
def Steady (decoder : PrefixDecoder Item Value) : Prop :=
  ∀ items value rest more, decoder items = some (value, rest) →
    decoder (items ++ more) = some (value, rest ++ more)

def decodeThen (decoder : PrefixDecoder Item Value) (next : Value → PrefixDecoder Item Next) :
    PrefixDecoder Item Next :=
  fun items =>
    match decoder items with
    | none => none
    | some (value, rest) => next value rest

def decodeNothing (value : Value) : PrefixDecoder Item Value :=
  fun items => some (value, items)

theorem decodeThen_eq_bind
    (decoder : PrefixDecoder Item Value)
    (next : Value → PrefixDecoder Item Next)
    (items : List Item) :
    decodeThen decoder next items =
      (decoder items).bind fun taken => next taken.1 taken.2 := by
  unfold decodeThen
  cases decoder items with
  | none => rfl
  | some taken => rfl

theorem Decodes.nothing (value : Value) :
    @Decodes Item Value (decodeNothing value) [] value :=
  fun _ => rfl

theorem Steady.nothing (value : Value) :
    @Steady Item Value (decodeNothing value) := by
  intro items other rest more taken
  cases taken
  rfl

variable {decoder : PrefixDecoder Item Value} {next : Value → PrefixDecoder Item Next}
    {value : Value} {items : List Item} {condition : Prop}

theorem Decodes.bind
    {items later : List Item}
    {result : Next}
    (first : Decodes decoder items value)
    (second : Decodes (next value) later result) :
    Decodes (decodeThen decoder next) (items ++ later) result := by
  intro rest
  rw [decodeThen, List.append_assoc, first]
  exact second rest

theorem Decodes.last
    {result : Next}
    (first : Decodes decoder items value)
    (second : Decodes (next value) [] result) :
    Decodes (decodeThen decoder next) items result := by
  have both := first.bind second
  rwa [List.append_nil] at both

theorem Steady.bind
    (first : Steady decoder)
    (second : ∀ value, Steady (next value)) :
    Steady (decodeThen decoder next) := by
  intro items result rest more taken
  unfold decodeThen at taken ⊢
  cases came : decoder items with
  | none =>
      rw [came] at taken
      exact nomatch taken
  | some pair =>
      obtain ⟨value, left⟩ := pair
      rw [came] at taken
      rw [first items value left more came]
      exact second value left result rest more taken

variable {decoder other : PrefixDecoder Item Value}

theorem Decodes.ite_pos
    [Decidable condition]
    (holds : condition)
    (decodes : Decodes decoder items value) :
    Decodes (fun items => if condition then decoder items else other items) items value := by
  intro rest
  dsimp only
  rw [if_pos holds]
  exact decodes rest

theorem Decodes.ite_neg
    [Decidable condition]
    (fails : ¬condition)
    (decodes : Decodes other items value) :
    Decodes (fun items => if condition then decoder items else other items) items value := by
  intro rest
  dsimp only
  rw [if_neg fails]
  exact decodes rest

theorem Steady.ite
    [Decidable condition]
    (first : condition → Steady decoder)
    (second : ¬condition → Steady other) :
    Steady fun items => if condition then decoder items else other items := by
  intro items result rest more taken
  dsimp only at taken ⊢
  split at taken
  · rename_i holds
    rw [if_pos holds]
    exact first holds items result rest more taken
  · rename_i fails
    rw [if_neg fails]
    exact second fails items result rest more taken

theorem Steady.none : @Steady Item Value fun _ => Option.none :=
  fun _ _ _ _ taken => nomatch taken

theorem Decodes.prefixFree
    {early late : List Item}
    (decodes : Decodes decoder (early ++ late) value)
    (steady : Steady decoder)
    (more : late ≠ []) :
    decoder early = none := by
  cases taken : decoder early with
  | none => rfl
  | some pair =>
      obtain ⟨other, rest⟩ := pair
      have whole := decodes []
      rw [List.append_nil, steady early other rest late taken] at whole
      injection whole with whole
      injection whole with _ nothing
      exact absurd (List.append_eq_nil_iff.mp nothing).2 more

/-- The decoder takes the values off the front of the items, one after the other, and leaves
the rest. -/
inductive Decodings (decoder : PrefixDecoder Item Value) :
    List Item → List Value → List Item → Prop
  | nil (items : List Item) : Decodings decoder items [] items
  | cons {items rest last : List Item} {value : Value} {values : List Value} :
      decoder items = some (value, rest) →
      Decodings decoder rest values last →
      Decodings decoder items (value :: values) last

variable {decoder : PrefixDecoder Item Value}

theorem Decodings.trans
    {items middle last : List Item}
    {early late : List Value}
    (before : Decodings decoder items early middle)
    (after : Decodings decoder middle late last) :
    Decodings decoder items (early ++ late) last := by
  induction before with
  | nil => exact after
  | cons taken _ inductionHypothesis => exact .cons taken (inductionHypothesis after)

theorem Decodings.append
    {items last : List Item}
    {values : List Value}
    (steady : Steady decoder)
    (decodings : Decodings decoder items values last)
    (more : List Item) :
    Decodings decoder (items ++ more) values (last ++ more) := by
  induction decodings with
  | nil items => exact .nil _
  | cons taken _ inductionHypothesis =>
      exact .cons (steady _ _ _ more taken) inductionHypothesis

theorem Decodings.prefix_of_none
    {items middle last : List Item}
    {early all : List Value}
    (decodings : Decodings decoder items early middle)
    (complete : Decodings decoder items all last)
    (nothing : decoder last = none) :
    ∃ late, all = early ++ late ∧ Decodings decoder middle late last := by
  induction decodings generalizing all with
  | nil items => exact ⟨all, rfl, complete⟩
  | cons taken _ inductionHypothesis =>
      cases complete with
      | nil => exact absurd (taken.symm.trans nothing) (by simp)
      | cons also complete =>
          obtain ⟨rfl, rfl⟩ := Prod.mk.inj (Option.some.inj (also.symm.trans taken))
          obtain ⟨late, rfl, left⟩ := inductionHypothesis complete
          exact ⟨late, rfl, left⟩

theorem Decodings.of_none
    {items last : List Item}
    {values : List Value}
    (decodings : Decodings decoder items values last)
    (nothing : decoder items = none) :
    values = [] ∧ last = items := by
  cases decodings with
  | nil => exact ⟨rfl, rfl⟩
  | cons taken _ => exact absurd (taken.symm.trans nothing) (by simp)

theorem Decodings.flatMap
    {write : Value → List Item}
    {values : List Value}
    (each : ∀ value ∈ values, Decodes decoder (write value) value) :
    Decodings decoder (values.flatMap write) values [] := by
  induction values with
  | nil => exact .nil []
  | cons value rest inductionHypothesis =>
      rw [List.flatMap_cons]
      exact .cons (each value List.mem_cons_self _)
        (inductionHypothesis fun other listed => each other (List.mem_cons_of_mem value listed))

end

end Library
end SoftEther
