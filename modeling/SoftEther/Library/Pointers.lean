import SoftEther.Library.Faults

/-!
# Parsers of memory behind a pointer

A parser of memory has a pointer and the size that it believes in.  It may reject what it
finds, and it may read behind the end of the memory.  The memory behind a pointer is the list
of the items that are left; the rules below show that a parser stays inside it.
-/

namespace SoftEther
namespace Library

inductive ParseFailure where
  /-- It has read behind the end of the memory. -/
  | outside
  | rejected
  deriving DecidableEq

section

variable {Item Value : Type}

/-- Some items behind a pointer. -/
def readItems (memory : List Item) (count : Nat) : Except ParseFailure (List Item) :=
  if count ≤ memory.length then .ok (memory.take count) else .error .outside

/-- The parser stays inside the memory, and what it accepts has the property. -/
abbrev Inside (parse : Except ParseFailure Value) (property : Value → Prop) : Prop :=
  Ends (· = ParseFailure.rejected) parse property

theorem readItems_of_le
    {memory : List Item}
    {count : Nat}
    (enough : count ≤ memory.length) :
    readItems memory count = .ok (memory.take count) :=
  if_pos enough

variable {Result : Type} {parse : Except ParseFailure Value} {property : Value → Prop}

@[simp] theorem ok_bind
    (value : Value)
    (next : Value → Except ParseFailure Result) :
    ((.ok value : Except ParseFailure Value) >>= next) = next value := by
  rfl

@[simp] theorem error_bind
    (failure : ParseFailure)
    (next : Value → Except ParseFailure Result) :
    ((.error failure : Except ParseFailure Value) >>= next) = .error failure := by
  rfl

theorem exists_of_bind_eq_ok
    {next : Value → Except ParseFailure Result}
    {result : Result}
    (ends : (parse >>= next) = .ok result) :
    ∃ value, parse = .ok value ∧ next value = .ok result := by
  cases parse with
  | error failure => exact nomatch ends
  | ok value => exact ⟨value, rfl, ends⟩

theorem readItems_append (block rest : List Item) :
    readItems (block ++ rest) block.length = .ok block := by
  rw [readItems_of_le (by simp), List.take_left]

theorem readItems_self (memory : List Item) :
    readItems memory memory.length = .ok memory := by
  rw [readItems_of_le (Nat.le_refl _), List.take_length]

theorem Inside.read
    {memory : List Item}
    {count : Nat}
    (enough : count ≤ memory.length) :
    Inside (readItems memory count) fun items => items = memory.take count := by
  rw [readItems_of_le enough]
  exact Ends.ok rfl

theorem Inside.reject {property : Value → Prop} :
    Inside (.error ParseFailure.rejected) property :=
  Ends.error rfl

theorem Inside.ite
    {condition : Prop}
    [Decidable condition]
    {first second : Except ParseFailure Value}
    (yes : condition → Inside first property)
    (no : ¬condition → Inside second property) :
    Inside (if condition then first else second) property := by
  by_cases holds : condition
  · rw [if_pos holds]
    exact yes holds
  · rw [if_neg holds]
    exact no holds

theorem Inside.ne_outside
    (inside : Inside parse property) :
    parse ≠ .error .outside := by
  intro outside
  exact nomatch inside.of_error outside

theorem Inside.map
    {finish : Value → Result}
    {result : Result → Prop}
    (inside : Inside parse property)
    (implies : ∀ value, property value → result (finish value)) :
    Inside (parse.map finish) result := by
  cases parse with
  | error failure => exact inside
  | ok value => exact implies value inside

/-- A parser of memory follows a parser that cannot leave it: it rejects what the other rejects,
and what the two accept is related. -/
inductive Follows
    {Shown : Type}
    (relates : Value → Shown → Prop) :
    Except ParseFailure Value → Option Shown → Prop
  | accepted
      {value : Value}
      {shown : Shown}
      (related : relates value shown) :
      Follows relates (.ok value) (some shown)
  | rejected : Follows relates (.error .rejected) none

variable {Shown Result Outcome : Type}

theorem Follows.bind
    {middle : Value → Shown → Prop}
    {relates : Result → Outcome → Prop}
    {model : Option Shown}
    {next : Value → Except ParseFailure Result}
    {nextModel : Shown → Option Outcome}
    (first : Follows middle parse model)
    (rest : ∀ value shown, middle value shown →
      Follows relates (next value) (nextModel shown)) :
    Follows relates (parse >>= next) (model.bind nextModel) := by
  cases first with
  | accepted related => exact rest _ _ related
  | rejected => exact .rejected

theorem Follows.ite
    {relates : Value → Shown → Prop}
    {condition other : Prop}
    [Decidable condition]
    [Decidable other]
    {first second : Except ParseFailure Value}
    {firstModel secondModel : Option Shown}
    (same : condition ↔ other)
    (yes : condition → Follows relates first firstModel)
    (no : ¬condition → Follows relates second secondModel) :
    Follows relates (if condition then first else second)
      (if other then firstModel else secondModel) := by
  by_cases holds : condition
  · rw [if_pos holds, if_pos (same.mp holds)]
    exact yes holds
  · rw [if_neg holds, if_neg fun also => holds (same.mpr also)]
    exact no holds

/-- What is accepted, when it is the same for both. -/
theorem Follows.eq
    {model : Option Value}
    (follows : Follows Eq parse model) :
    parse = model.elim (.error .rejected) .ok := by
  cases follows with
  | accepted related => exact congrArg Except.ok related
  | rejected => rfl

end

end Library
end SoftEther
