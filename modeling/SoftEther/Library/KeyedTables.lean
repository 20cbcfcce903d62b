import Mathlib.Data.List.Nodup
import Mathlib.Data.List.Perm.Basic

/-!
# Tables with unique keys

A table is a list of entries, each with a key; the order of the list does not
matter.  The rules say how inserting, rewriting and removing entries acts on
the uniqueness of the keys, on what all entries satisfy, on the number of
entries with a property, and on quotas of the owners of entries.
-/

namespace SoftEther
namespace Library

section

variable {Entry Key : Type}
variable {key : Entry → Key}

/-- No two entries of a table have the same key. -/
def UniqueKeys (key : Entry → Key) (table : List Entry) : Prop :=
  (table.map key).Nodup

theorem UniqueKeys.perm
    {before after : List Entry}
    (unique : UniqueKeys key before)
    (same : after.Perm before) :
    UniqueKeys key after :=
  (same.map key).nodup_iff.mpr unique

variable {table : List Entry} {old new : Entry}

theorem UniqueKeys.cons
    {entry : Entry}
    (unique : UniqueKeys key table)
    (fresh : ∀ other ∈ table, key other ≠ key entry) :
    UniqueKeys key (entry :: table) := by
  unfold UniqueKeys
  rw [List.map_cons, List.nodup_cons]
  refine ⟨?_, unique⟩
  intro present
  obtain ⟨other, inside, same⟩ := List.mem_map.mp present
  exact fresh other inside same

/-- Entries may go. -/
theorem UniqueKeys.sublist
    {before after : List Entry}
    (unique : UniqueKeys key before)
    (fewer : after.Sublist before) :
    UniqueKeys key after :=
  List.Nodup.sublist (fewer.map key) unique

theorem UniqueKeys.eq_of_key
    {left right : Entry}
    (unique : UniqueKeys key table)
    (leftIn : left ∈ table)
    (rightIn : right ∈ table)
    (same : key left = key right) :
    left = right :=
  List.inj_on_of_nodup_map unique leftIn rightIn same

theorem UniqueKeys.length_le
    {Record : Type}
    {recordKey : Record → Key}
    {records : List Record}
    (unique : UniqueKeys key table)
    (recorded : ∀ entry ∈ table, ∃ record ∈ records, recordKey record = key entry) :
    table.length ≤ records.length := by
  have included : table.map key ⊆ records.map recordKey := by
    intro k present
    obtain ⟨entry, listed, same⟩ := List.mem_map.mp present
    obtain ⟨record, found, sameKey⟩ := recorded entry listed
    exact List.mem_map.mpr ⟨record, found, sameKey.trans same⟩
  have shorter := (List.subperm_of_subset unique included).length_le
  simpa using shorter

variable [DecidableEq Entry]

theorem UniqueKeys.rewrite
    (unique : UniqueKeys key table)
    (present : old ∈ table)
    (sameKey : key new = key old) :
    UniqueKeys key (new :: table.erase old) := by
  have split := unique.perm (List.perm_cons_erase present).symm
  unfold UniqueKeys at split ⊢
  rw [List.map_cons] at split ⊢
  rw [sameKey]
  exact split

theorem forall_mem_rewrite
    {table after : List Entry}
    {property : Entry → Prop}
    (all : ∀ entry ∈ table, property entry)
    (rewritten : after.Perm (new :: table.erase old))
    (holds : property new) :
    ∀ entry ∈ after, property entry := by
  intro entry present
  obtain same | kept := List.mem_cons.mp (rewritten.mem_iff.mp present)
  · rw [same]
    exact holds
  · exact all entry (List.mem_of_mem_erase kept)

theorem countP_rewrite
    {table after : List Entry}
    (chosen : Entry → Bool)
    (present : old ∈ table)
    (rewritten : after.Perm (new :: table.erase old)) :
    after.countP chosen + (if chosen old then 1 else 0) =
      table.countP chosen + (if chosen new then 1 else 0) := by
  rw [rewritten.countP_eq chosen, List.countP_cons,
    (List.perm_cons_erase present).countP_eq chosen, List.countP_cons]
  omega

end

section

variable {Entry Key : Type}
variable {table : List Entry}
variable {index : Nat}
variable {change : Entry → Entry}

theorem mem_modify_cases
    {entry : Entry}
    (present : entry ∈ table.modify index change) :
    entry ∈ table ∨ ∃ old ∈ table, entry = change old := by
  obtain ⟨place, found⟩ := List.mem_iff_getElem?.mp present
  rw [List.getElem?_modify] at found
  cases old : table[place]? with
  | none => simp [old] at found
  | some before =>
      have listed : before ∈ table := List.mem_of_getElem? old
      rw [old] at found
      by_cases here : index = place
      · simp only [here, if_true] at found
        exact .inr ⟨before, listed, (Option.some.inj found).symm⟩
      · simp only [here, if_false] at found
        injection found with same
        exact .inl (same ▸ listed)

theorem map_key_modify
    {key : Entry → Key}
    (sameKey : ∀ entry, key (change entry) = key entry) :
    (table.modify index change).map key = table.map key := by
  apply List.ext_getElem?
  intro place
  rw [List.getElem?_map, List.getElem?_map, List.getElem?_modify]
  cases table[place]? with
  | none => rfl
  | some entry =>
      by_cases here : index = place
      · simp [here, sameKey]
      · simp [here]

end

section

variable {Entry Owner : Type}
variable [DecidableEq Owner]

/-- The number of entries of an owner. -/
def ownedBy (owner : Entry → Option Owner) (o : Owner) (table : List Entry) :
    Nat :=
  table.countP fun entry => owner entry = some o

/-- Every owner with a quota has at most as many entries. -/
def WithinQuota
    (owner : Entry → Option Owner)
    (quota : Owner → Option Nat)
    (table : List Entry) :
    Prop :=
  ∀ o bound, quota o = some bound → ownedBy owner o table ≤ bound

variable {owner : Entry → Option Owner}
variable {quota : Owner → Option Nat}

theorem WithinQuota.perm
    {before after : List Entry}
    (within : WithinQuota owner quota before)
    (same : after.Perm before) :
    WithinQuota owner quota after := by
  intro o bound limited
  unfold ownedBy
  rw [same.countP_eq]
  exact within o bound limited

/-- Entries may go. -/
theorem WithinQuota.sublist
    {before after : List Entry}
    (within : WithinQuota owner quota before)
    (fewer : after.Sublist before) :
    WithinQuota owner quota after :=
  fun o bound limited => Nat.le_trans fewer.countP_le (within o bound limited)

theorem WithinQuota.cons
    {table : List Entry}
    {entry : Entry}
    (within : WithinQuota owner quota table)
    (room : ∀ o bound, owner entry = some o → quota o = some bound →
      ownedBy owner o table < bound) :
    WithinQuota owner quota (entry :: table) := by
  intro o bound limited
  have before := within o bound limited
  unfold ownedBy at before ⊢
  rw [List.countP_cons]
  split_ifs with own
  · exact room o bound (of_decide_eq_true own) limited
  · exact before

variable [DecidableEq Entry]

theorem WithinQuota.rewrite
    {table : List Entry}
    {old new : Entry}
    (within : WithinQuota owner quota table)
    (present : old ∈ table)
    (room : ∀ o bound, owner new = some o → owner old ≠ some o →
      quota o = some bound → ownedBy owner o table < bound) :
    WithinQuota owner quota (new :: table.erase old) := by
  intro o bound limited
  have counted := countP_rewrite (fun entry => decide (owner entry = some o))
    present (.refl (new :: table.erase old))
  have before := within o bound limited
  unfold ownedBy at before ⊢
  by_cases own : owner new = some o
  · by_cases stays : owner old = some o
    · simp only [own, stays, decide_true, if_true] at counted
      omega
    · have free := room o bound own stays limited
      unfold ownedBy at free
      simp only [own, stays, decide_true, decide_false, if_true] at counted
      simp only [Bool.false_eq_true, if_false] at counted
      omega
  · simp only [own, decide_false, Bool.false_eq_true, if_false] at counted
    omega

end

end Library
end SoftEther
