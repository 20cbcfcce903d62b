import Mathlib.Algebra.BigOperators.Group.List.Basic
import Mathlib.Tactic.Abel

/-!
# Ledgers

A total that many parties share.  Whoever changes a share adds the difference to the total,
so that the total stays the sum of the shares.
-/

namespace SoftEther
namespace Library

variable {Party Amount : Type}
variable [AddCommGroup Amount]

def Balanced (share : Party → Amount) (parties : List Party) (total : Amount) : Prop :=
  total = (parties.map share).sum

variable {share : Party → Amount}
variable {parties : List Party}
variable {total : Amount}

theorem Balanced.nil : Balanced share [] (0 : Amount) :=
  List.sum_nil.symm

theorem Balanced.join
    (balanced : Balanced share parties total)
    {party : Party}
    (nothing : share party = 0) :
    Balanced share (parties ++ [party]) total := by
  unfold Balanced at balanced ⊢
  rw [List.map_append, List.sum_append, ← balanced]
  simp [nothing]

theorem Balanced.set
    (balanced : Balanced share parties total)
    {index : Nat}
    {before after : Party}
    (found : parties[index]? = some before)
    {changed : Amount}
    (others : changed - share after = total - share before) :
    Balanced share (parties.set index after) changed := by
  obtain ⟨inside, same⟩ := List.getElem?_eq_some_iff.mp found
  unfold Balanced at balanced ⊢
  have whole : changed = total + (share after - share before) := by
    rw [eq_add_of_sub_eq others]
    abel
  rw [List.map_set, List.sum_set', dif_pos (by simpa using inside), List.getElem_map, same,
    ← balanced, whole]
  abel

theorem Balanced.settled
    (balanced : Balanced share parties total)
    (nothing : ∀ party ∈ parties, share party = 0) :
    total = 0 := by
  unfold Balanced at balanced
  rw [balanced]
  apply List.sum_eq_zero
  intro amount listed
  obtain ⟨party, inside, rfl⟩ := List.mem_map.mp listed
  exact nothing party inside

end Library
end SoftEther
