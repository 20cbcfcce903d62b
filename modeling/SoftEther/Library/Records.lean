import SoftEther.Library.Decoders

/-!
# Records one behind another

A list of records has no end of its own: a decoder takes one record after another off the front
of some items until it takes no more.  Where a record stops is counted from the first item.  What
stands behind the items is read too when the decoder goes on over their end.
-/

namespace SoftEther
namespace Library

structure Record (Value : Type) where
  stop : Nat
  /-- What it says. -/
  value : Value
  deriving DecidableEq

section

variable {Item Value : Type}

/-- The records off the front of some items that begin at a position, at most so many. -/
def records (decoder : PrefixDecoder Item Value) : Nat → Nat → List Item → List (Record Value)
  | 0, _, _ => []
  | rounds + 1, position, items =>
      match decoder items with
      | none => []
      | some (value, rest) =>
          let stop := position + (items.length - rest.length)
          { stop := stop, value := value } :: records decoder rounds stop rest

def Leaves (decoder : PrefixDecoder Item Value) : Prop :=
  ∀ items value rest, decoder items = some (value, rest) → rest.length ≤ items.length

/-- What one decoder takes with more items behind, another one takes without them, unless it takes
nothing at all. -/
def GoesOnOver (strict lax : PrefixDecoder Item Value) (more : List Item) : Prop :=
  ∀ items value rest, strict (items ++ more) = some (value, rest) →
    lax items = none ∨ ∃ left, rest = left ++ more ∧ lax items = some (value, left)

theorem stop_of_mem_records
    {decoder : PrefixDecoder Item Value}
    (leaves : Leaves decoder)
    {rounds position : Nat}
    {items : List Item}
    {record : Record Value}
    (listed : record ∈ records decoder rounds position items) :
    position ≤ record.stop ∧ record.stop ≤ position + items.length := by
  induction rounds generalizing position items with
  | zero => exact nomatch listed
  | succ rounds inductionHypothesis =>
      rw [records] at listed
      cases taken : decoder items with
      | none =>
          rw [taken] at listed
          exact nomatch listed
      | some both =>
          obtain ⟨value, rest⟩ := both
          have less := leaves items value rest taken
          rw [taken] at listed
          obtain isFirst | later := List.mem_cons.mp listed
          · rw [isFirst]
            dsimp only
            omega
          · have bounds := inductionHypothesis later
            omega

theorem find?_records_append
    {strict lax : PrefixDecoder Item Value}
    {more : List Item}
    (goesOn : GoesOnOver strict lax more)
    (wanted : Record Value → Bool)
    {rounds position : Nat}
    {items : List Item}
    {found : Record Value}
    (first : (records strict rounds position (items ++ more)).find? wanted = some found)
    (laxRounds : Nat) :
    found ∈ records lax laxRounds position items ∨
      ∀ record ∈ records lax laxRounds position items, wanted record = false := by
  induction laxRounds generalizing rounds position items with
  | zero =>
      right
      intro record listed
      exact nomatch listed
  | succ laxRounds inductionHypothesis =>
      cases rounds with
      | zero => exact nomatch first
      | succ rounds =>
          rw [records] at first ⊢
          cases taken : strict (items ++ more) with
          | none =>
              rw [taken] at first
              exact nomatch first
          | some both =>
              obtain ⟨value, rest⟩ := both
              rw [taken] at first
              dsimp only at first
              obtain nothing | ⟨left, restIs, same⟩ := goesOn items value rest taken
              · right
                rw [nothing]
                intro record listed
                exact nomatch listed
              · have stop : (items ++ more).length - rest.length = items.length - left.length := by
                  rw [restIs, List.length_append, List.length_append]
                  omega
                rw [stop, restIs] at first
                rw [same]
                dsimp only
                generalize headIs : ({
                  stop := position + (items.length - left.length)
                  value := value } : Record Value) = head at first ⊢
                by_cases isWanted : wanted head = true
                · rw [List.find?_cons_of_pos isWanted] at first
                  left
                  exact List.mem_cons.mpr (Or.inl (Option.some.inj first).symm)
                · rw [List.find?_cons_of_neg isWanted] at first
                  obtain listed | none_wanted := inductionHypothesis first
                  · exact Or.inl (List.mem_cons_of_mem _ listed)
                  · right
                    rw [List.forall_mem_cons]
                    exact ⟨by simpa using isWanted, none_wanted⟩

end

end Library
end SoftEther
