import Mathlib.Data.List.Nodup
import Mathlib.Data.List.Sort
import SoftEther.Library.KeyedTables
import SoftEther.Library.SortedSearch

/-!
# Ordered lists and hash lists

`LIST` with a comparison function, as long as it is changed with `Insert` and
`Delete` alone: such a list is always in order, so `Search` never sorts it.
`HASH_LIST` without the list of all items: an array of such lists, in which an
item lies in the list with the index of its hash.

The comparison function looks at the key of an item.  An item is written through
its pointer, and its key stays the same.
-/

namespace SoftEther

open Library

section

variable {α κ : Type}

/-- `LIST` with a comparison function of the keys. -/
structure KeyedList (key : α → κ) (cmp : κ → κ → Ordering) where
  items : List α
  ordered :
    items.Pairwise fun earlier later =>
      (cmp (key earlier) (key later)).isLE = true
  deriving DecidableEq

namespace KeyedList

variable {key : α → κ}
variable {cmp : κ → κ → Ordering}

/-- `NewList`. -/
def empty : KeyedList key cmp where
  items := []
  ordered := .nil

/-- `LIST_NUM`. -/
def num (o : KeyedList key cmp) : Nat :=
  o.items.length

def search (o : KeyedList key cmp) (target : κ) : Option α :=
  bsearch (fun item => cmp target (key item)) o.num o.items

theorem ordered_of_map_eq
    {items others : List α}
    (sameKeys : others.map key = items.map key)
    (ordered : items.Pairwise fun earlier later =>
      (cmp (key earlier) (key later)).isLE = true) :
    others.Pairwise fun earlier later =>
      (cmp (key earlier) (key later)).isLE = true := by
  have onKeys : (items.map key).Pairwise fun earlier later =>
      (cmp earlier later).isLE = true :=
    List.pairwise_map.mpr ordered
  rw [← sameKeys] at onKeys
  exact List.pairwise_map.mp onKeys

theorem map_key_replace
    [DecidableEq α]
    {old new : α}
    (sameKey : key new = key old)
    (items : List α) :
    (items.replace old new).map key = items.map key := by
  induction items with
  | nil => rfl
  | cons item rest inductionHypothesis =>
      rw [List.replace_cons]
      cases same : old == item with
      | true =>
          rw [List.map_cons, List.map_cons, sameKey, eq_of_beq same]
      | false =>
          rw [List.map_cons, List.map_cons, inductionHypothesis]

theorem replace_perm
    [DecidableEq α]
    {old new : α}
    {items : List α}
    (present : old ∈ items) :
    (items.replace old new).Perm (new :: items.erase old) := by
  induction items with
  | nil => exact absurd present List.not_mem_nil
  | cons item rest inductionHypothesis =>
      rw [List.replace_cons]
      cases same : old == item with
      | true =>
          rw [eq_of_beq same, List.erase_cons_head]
      | false =>
          have different : item ≠ old := fun equal => by
            rw [equal, beq_self_eq_true] at same
            exact absurd same (by decide)
          rw [List.erase_cons_tail (by simpa using different)]
          have inRest := (List.mem_cons.mp present).resolve_left
            (Ne.symm different)
          exact ((inductionHypothesis inRest).cons item).trans (.swap _ _ _)

theorem search_sound_cmp
    {o : KeyedList key cmp}
    {target : κ}
    {found : α}
    (searched : o.search target = some found) :
    found ∈ o.items ∧ cmp target (key found) = .eq :=
  bsearch_sound searched

theorem search_sound
    [Std.LawfulEqCmp cmp]
    {o : KeyedList key cmp}
    {target : κ}
    {found : α}
    (searched : o.search target = some found) :
    found ∈ o.items ∧ key found = target := by
  obtain ⟨present, equal⟩ := search_sound_cmp searched
  exact ⟨present, (Std.LawfulEqCmp.eq_of_compare equal).symm⟩

section

variable [DecidableEq α]

theorem eq_of_mem_replace
    {old new item : α}
    {items : List α}
    (present : item ∈ items.replace old new)
    (absent : item ∉ items) :
    item = new := by
  by_cases replaced : old ∈ items
  · obtain same | kept := List.mem_cons.mp
      ((replace_perm replaced).mem_iff.mp present)
    · exact same
    · exact absurd (List.mem_of_mem_erase kept) absent
  · rw [List.replace_of_not_mem (by simpa using replaced)] at present
    exact absurd present absent

def delete (o : KeyedList key cmp) (p : α) : KeyedList key cmp where
  items := o.items.erase p
  ordered := o.ordered.sublist List.erase_sublist

/-- A write to an item that leaves its key alone. -/
def write
    (o : KeyedList key cmp)
    (old new : α)
    (sameKey : key new = key old) :
    KeyedList key cmp where
  items := o.items.replace old new
  ordered := ordered_of_map_eq (map_key_replace sameKey o.items) o.ordered

/-- A write to the item at a position that leaves its key alone. -/
def modify
    (o : KeyedList key cmp)
    (place : Nat)
    (change : α → α)
    (sameKey : ∀ item, key (change item) = key item) :
    KeyedList key cmp where
  items := o.items.modify place change
  ordered := ordered_of_map_eq (map_key_modify sameKey) o.ordered

/-- The loops that collect the items with a property and delete them. -/
def deleteAll (o : KeyedList key cmp) (chosen : α → Bool) : KeyedList key cmp :=
  (o.items.filter chosen).foldl delete o

theorem foldl_delete_perm
    {o : KeyedList key cmp}
    {items others : List α}
    (parts : o.items.Perm (items ++ others)) :
    (items.foldl delete o).items.Perm others := by
  induction items generalizing o with
  | nil => exact parts
  | cons item rest inductionHypothesis =>
      apply inductionHypothesis
      refine (parts.erase item).trans ?_
      rw [List.cons_append, List.erase_cons_head]

theorem deleteAll_perm (o : KeyedList key cmp) (chosen : α → Bool) :
    (o.deleteAll chosen).items.Perm
      (o.items.filter fun item => !chosen item) :=
  foldl_delete_perm (List.filter_append_perm chosen o.items).symm

theorem write_perm
    (o : KeyedList key cmp)
    {old new : α}
    (sameKey : key new = key old)
    (present : old ∈ o.items) :
    (o.write old new sameKey).items.Perm (new :: o.items.erase old) :=
  replace_perm present

end

section

variable [Std.TransCmp cmp]

/-- `Insert`: the bisection ends before the first item that is not smaller. -/
def insert (o : KeyedList key cmp) (p : α) : KeyedList key cmp where
  items :=
    o.items.orderedInsert
      (fun left right => (cmp (key left) (key right)).isLE = true) p
  ordered := by
    have total : Std.Total fun left right : α =>
        (cmp (key left) (key right)).isLE = true := ⟨fun left right => by
      by_cases before : (cmp (key left) (key right)).isLE = true
      · exact .inl before
      · have after := Std.OrientedCmp.lt_of_not_isLE before
        exact .inr (by rw [after]; rfl)⟩
    have transitive : IsTrans α fun left right : α =>
        (cmp (key left) (key right)).isLE = true :=
      ⟨fun _ _ _ => Std.TransCmp.isLE_trans⟩
    exact o.ordered.orderedInsert p _

theorem insert_perm (o : KeyedList key cmp) (p : α) :
    (o.insert p).items.Perm (p :: o.items) :=
  List.perm_orderedInsert _ p o.items

theorem search_complete_cmp
    {o : KeyedList key cmp}
    {target : κ}
    (searched : o.search target = none)
    {item : α}
    (present : item ∈ o.items) :
    cmp target (key item) ≠ .eq := by
  intro same
  have inOrder : OrderedFor (fun item => cmp target (key item)) o.items := by
    refine o.ordered.imp ?_
    intro earlier later before
    constructor
    · exact fun below => Std.TransCmp.lt_of_lt_of_isLE below before
    · intro above
      rw [Std.OrientedCmp.gt_iff_lt] at above ⊢
      exact Std.TransCmp.lt_of_isLE_of_lt before above
  have found := bsearch_complete (Nat.le_refl o.items.length) inOrder present same
  unfold search num at searched
  rw [searched] at found
  exact absurd found Bool.false_ne_true

theorem search_complete
    [Std.LawfulEqCmp cmp]
    {o : KeyedList key cmp}
    {target : κ}
    (searched : o.search target = none)
    {item : α}
    (present : item ∈ o.items) :
    key item ≠ target := by
  intro same
  apply search_complete_cmp searched present
  rw [same]
  exact Std.ReflCmp.compare_self

end

theorem num_insert
    [Std.TransCmp cmp]
    (o : KeyedList key cmp)
    (p : α) :
    (o.insert p).num = o.num + 1 :=
  (o.insert_perm p).length_eq

theorem num_delete_le
    [DecidableEq α]
    (o : KeyedList key cmp)
    (p : α) :
    (o.delete p).num ≤ o.num :=
  List.erase_sublist.length_le

theorem find?_least
    [Std.TransCmp cmp]
    {o : KeyedList key cmp}
    {p : α → Bool}
    {found other : α}
    (first : o.items.find? p = some found)
    (present : other ∈ o.items)
    (holds : p other = true) :
    (cmp (key found) (key other)).isLE = true := by
  obtain ⟨_, front, rest, split, none⟩ := List.find?_eq_some_iff_append.mp first
  have ordered := o.ordered
  rw [split] at present ordered
  obtain inFront | same | behind : other ∈ front ∨ other = found ∨ other ∈ rest := by
    simpa using present
  · exact absurd holds (by simpa using none other inFront)
  · rw [same]
    exact Ordering.isLE_of_eq_eq Std.ReflCmp.compare_self
  · exact (List.pairwise_cons.mp (List.pairwise_append.mp ordered).2.1).1 other behind

/-! ### Lists without duplicates -/

/-- No two items of the list compare equal. -/
def Distinct (o : KeyedList key cmp) : Prop :=
  o.items.Pairwise fun earlier later => cmp (key earlier) (key later) ≠ .eq

theorem Distinct.empty : (empty : KeyedList key cmp).Distinct :=
  .nil

theorem Distinct.delete
    [DecidableEq α]
    {o : KeyedList key cmp}
    (distinct : o.Distinct)
    (p : α) :
    (o.delete p).Distinct :=
  List.Pairwise.sublist List.erase_sublist distinct

theorem Distinct.insert
    [Std.TransCmp cmp]
    {o : KeyedList key cmp}
    {p : α}
    (distinct : o.Distinct)
    (searched : o.search (key p) = none) :
    (o.insert p).Distinct := by
  have symmetric : ∀ {left right : α}, cmp (key left) (key right) ≠ .eq →
      cmp (key right) (key left) ≠ .eq := by
    intro left right different same
    exact different (Std.OrientedCmp.eq_comm.mp same)
  unfold Distinct
  rw [(o.insert_perm p).pairwise_iff symmetric, List.pairwise_cons]
  exact ⟨fun item present => search_complete_cmp searched present, distinct⟩

theorem Distinct.write
    [DecidableEq α]
    {o : KeyedList key cmp}
    (distinct : o.Distinct)
    {old new : α}
    (sameKey : key new = key old) :
    (o.write old new sameKey).Distinct := by
  have onKeys : (o.items.map key).Pairwise fun earlier later => cmp earlier later ≠ .eq :=
    List.pairwise_map.mpr distinct
  rw [← map_key_replace sameKey o.items] at onKeys
  exact List.pairwise_map.mp onKeys

theorem deleteAll_sublist
    [DecidableEq α]
    (o : KeyedList key cmp)
    (chosen : α → Bool) :
    (o.deleteAll chosen).items.Sublist o.items := by
  have shorter : ∀ (items : List α) (o : KeyedList key cmp),
      (items.foldl KeyedList.delete o).items.Sublist o.items := by
    intro items
    induction items with
    | nil => exact fun o => .refl _
    | cons item rest inductionHypothesis =>
        exact fun o => (inductionHypothesis (o.delete item)).trans List.erase_sublist
  exact shorter _ o

theorem Distinct.deleteAll
    [DecidableEq α]
    {o : KeyedList key cmp}
    (distinct : o.Distinct)
    (chosen : α → Bool) :
    (o.deleteAll chosen).Distinct :=
  List.Pairwise.sublist (o.deleteAll_sublist chosen) distinct

theorem Distinct.nodup_keys
    [Std.ReflCmp cmp]
    {o : KeyedList key cmp}
    (distinct : o.Distinct) :
    (o.items.map key).Nodup := by
  refine List.pairwise_map.mpr (List.Pairwise.imp ?_ distinct)
  intro left right different same
  rw [same] at different
  exact different Std.ReflCmp.compare_self

theorem Distinct.search_eq_some
    [Std.TransCmp cmp]
    [Std.LawfulEqCmp cmp]
    {o : KeyedList key cmp}
    (distinct : o.Distinct)
    {p : α}
    (present : p ∈ o.items) :
    o.search (key p) = some p := by
  cases searched : o.search (key p) with
  | none => exact absurd rfl (search_complete searched present)
  | some found =>
      obtain ⟨listed, same⟩ := search_sound searched
      exact congrArg some (List.inj_on_of_nodup_map distinct.nodup_keys listed present same)

end KeyedList

/-- `HASH_LIST`; the index of an item is its hash modulo the number of lists. -/
structure HashList (key : α → κ) (cmp : κ → κ → Ordering) (hash : κ → Nat) where
  entries : List (KeyedList key cmp)
  /-- `Size` is a power of two. -/
  nonempty : 0 < entries.length
  /-- An item lies in the list with its index. -/
  placed :
    ∀ index o, entries[index]? = some o →
      ∀ item ∈ o.items, hash (key item) % entries.length = index

namespace HashList

variable {key : α → κ}
variable {cmp : κ → κ → Ordering}
variable {hash : κ → Nat}

/-- `NewHashList` with `size` lists. -/
def empty (size : Nat) (positive : 0 < size) : HashList key cmp hash where
  entries := List.replicate size KeyedList.empty
  nonempty := by simpa using positive
  placed index o listed item present := by
    obtain ⟨inside, same⟩ := List.getElem?_eq_some_iff.mp listed
    rw [List.getElem_replicate] at same
    rw [← same] at present
    exact absurd present List.not_mem_nil

/-- `CalcHashForHashList`. -/
def calcHash (h : HashList key cmp hash) (target : κ) : Nat :=
  hash target % h.entries.length

/-- `HashListToArray`. -/
def toArray (h : HashList key cmp hash) : List α :=
  h.entries.flatMap KeyedList.items

theorem toArray_empty (size : Nat) (positive : 0 < size) :
    (empty size positive : HashList key cmp hash).toArray = [] := by
  unfold toArray empty
  rw [List.flatMap_eq_nil_iff]
  intro o listed
  rw [List.eq_of_mem_replicate listed]
  rfl

/-- `HASH_LIST_NUM`. -/
def num (h : HashList key cmp hash) : Nat :=
  h.toArray.length

/-- `SearchHash`. -/
def search (h : HashList key cmp hash) (target : κ) : Option α :=
  match h.entries[h.calcHash target]? with
  | some o => o.search target
  | none => none

/-- A change of one list that adds only items with its index. -/
def modify
    (h : HashList key cmp hash)
    (index : Nat)
    (change : KeyedList key cmp → KeyedList key cmp)
    (stays : ∀ o : KeyedList key cmp, ∀ item ∈ (change o).items,
      item ∈ o.items ∨ h.calcHash (key item) = index) :
    HashList key cmp hash where
  entries := h.entries.modify index change
  nonempty := by
    rw [List.length_modify]
    exact h.nonempty
  placed position o listed item present := by
    rw [List.length_modify]
    rw [List.getElem?_modify] at listed
    cases before : h.entries[position]? with
    | none =>
        rw [before] at listed
        exact absurd listed (by simp)
    | some old =>
        rw [before, Option.map_eq_map, Option.map_some] at listed
        by_cases here : index = position
        · rw [if_pos here] at listed
          injection listed with same
          rw [← same] at present
          obtain kept | hashed := stays old item present
          · exact h.placed position old before item kept
          · exact hashed.trans here
        · rw [if_neg here] at listed
          injection listed with same
          subst same
          exact h.placed position old before item present

theorem perm_middle
    {first middle last : List α} :
    (first ++ (middle ++ last)).Perm (middle ++ (first ++ last)) := by
  rw [← List.append_assoc, ← List.append_assoc]
  exact List.perm_append_comm.append_right last

theorem modify_perm
    {h : HashList key cmp hash}
    {index : Nat}
    {change : KeyedList key cmp → KeyedList key cmp}
    {stays : ∀ o : KeyedList key cmp, ∀ item ∈ (change o).items,
      item ∈ o.items ∨ h.calcHash (key item) = index}
    {o : KeyedList key cmp}
    (listed : h.entries[index]? = some o) :
    ∃ others : List α,
      h.toArray.Perm (o.items ++ others) ∧
      (h.modify index change stays).toArray.Perm
        ((change o).items ++ others) := by
  obtain ⟨inside, same⟩ := List.getElem?_eq_some_iff.mp listed
  refine ⟨(h.entries.take index).flatMap KeyedList.items ++
    (h.entries.drop (index + 1)).flatMap KeyedList.items, ?_, ?_⟩
  · have split : h.entries =
        h.entries.take index ++ o :: h.entries.drop (index + 1) := by
      rw [← same, ← List.drop_eq_getElem_cons inside, List.take_append_drop]
    have parts := congrArg (List.flatMap KeyedList.items) split
    rw [List.flatMap_append, List.flatMap_cons] at parts
    unfold toArray
    rw [parts]
    exact perm_middle
  · have parts := congrArg (List.flatMap KeyedList.items)
      ((List.modify_eq_take_cons_drop inside :
        h.entries.modify index change = _))
    rw [List.flatMap_append, List.flatMap_cons, same] at parts
    unfold toArray modify
    dsimp only
    rw [parts]
    exact perm_middle

theorem listed (h : HashList key cmp hash) (target : κ) :
    ∃ o, h.entries[h.calcHash target]? = some o :=
  ⟨_, List.getElem?_eq_getElem (Nat.mod_lt _ h.nonempty)⟩

theorem mem_listed
    {h : HashList key cmp hash}
    {o : KeyedList key cmp}
    {item : α}
    (listed : h.entries[h.calcHash (key item)]? = some o)
    (present : item ∈ h.toArray) :
    item ∈ o.items := by
  obtain ⟨other, inside, member⟩ := List.mem_flatMap.mp present
  obtain ⟨index, at_index⟩ := List.mem_iff_getElem?.mp inside
  have same := h.placed index other at_index item member
  unfold calcHash at listed
  rw [same, at_index] at listed
  injection listed with equal
  rw [← equal]
  exact member

theorem search_sound
    [Std.LawfulEqCmp cmp]
    {h : HashList key cmp hash}
    {target : κ}
    {found : α}
    (searched : h.search target = some found) :
    found ∈ h.toArray ∧ key found = target := by
  obtain ⟨o, at_hash⟩ := h.listed target
  unfold search at searched
  rw [at_hash] at searched
  obtain ⟨present, same⟩ := KeyedList.search_sound searched
  exact ⟨List.mem_flatMap.mpr ⟨o, List.mem_of_getElem? at_hash, present⟩, same⟩

theorem search_complete
    [Std.TransCmp cmp]
    [Std.LawfulEqCmp cmp]
    {h : HashList key cmp hash}
    {target : κ}
    (searched : h.search target = none)
    {item : α}
    (present : item ∈ h.toArray) :
    key item ≠ target := by
  intro same
  obtain ⟨o, at_hash⟩ := h.listed target
  unfold search at searched
  rw [at_hash] at searched
  rw [← same] at at_hash
  exact KeyedList.search_complete searched (mem_listed at_hash present) same

section

variable [DecidableEq α]

/-- `DeleteHash`. -/
def delete (h : HashList key cmp hash) (p : α) : HashList key cmp hash :=
  h.modify (h.calcHash (key p)) (fun o => o.delete p) fun _ _ present =>
    .inl (List.mem_of_mem_erase present)

/-- A write to an item that leaves its key alone. -/
def write
    (h : HashList key cmp hash)
    (old new : α)
    (sameKey : key new = key old) :
    HashList key cmp hash :=
  h.modify (h.calcHash (key old)) (fun o => o.write old new sameKey)
    fun o item present => by
      by_cases kept : item ∈ o.items
      · exact .inl kept
      · exact .inr (by rw [KeyedList.eq_of_mem_replace present kept, sameKey])

theorem delete_perm
    {h : HashList key cmp hash}
    {p : α}
    (present : p ∈ h.toArray) :
    (h.delete p).toArray.Perm (h.toArray.erase p) := by
  obtain ⟨o, at_hash⟩ := h.listed (key p)
  obtain ⟨others, before, after⟩ := modify_perm at_hash
  have member := mem_listed at_hash present
  refine after.trans (List.Perm.trans ?_ (before.erase p).symm)
  rw [List.erase_append_left _ member]
  exact .refl _

theorem write_perm
    {h : HashList key cmp hash}
    {old new : α}
    (sameKey : key new = key old)
    (present : old ∈ h.toArray) :
    (h.write old new sameKey).toArray.Perm (new :: h.toArray.erase old) := by
  obtain ⟨o, at_hash⟩ := h.listed (key old)
  obtain ⟨others, before, after⟩ := modify_perm at_hash
  have member := mem_listed at_hash present
  have replaced := o.write_perm sameKey member
  refine after.trans ((replaced.append_right others).trans ?_)
  refine List.Perm.cons new (List.Perm.trans ?_ (before.erase old).symm)
  rw [List.erase_append_left _ member]
  exact .refl _

/-- The loops that collect the items with a property and delete them. -/
def deleteAll (h : HashList key cmp hash) (chosen : α → Bool) :
    HashList key cmp hash :=
  (h.toArray.filter chosen).foldl delete h

theorem foldl_delete_perm
    {h : HashList key cmp hash}
    {items others : List α}
    (parts : h.toArray.Perm (items ++ others)) :
    (items.foldl delete h).toArray.Perm others := by
  induction items generalizing h with
  | nil => exact parts
  | cons item rest inductionHypothesis =>
      have present : item ∈ h.toArray := parts.mem_iff.mpr (by simp)
      apply inductionHypothesis
      refine (delete_perm present).trans ((parts.erase item).trans ?_)
      rw [List.cons_append, List.erase_cons_head]

theorem deleteAll_perm (h : HashList key cmp hash) (chosen : α → Bool) :
    (h.deleteAll chosen).toArray.Perm
      (h.toArray.filter fun item => !chosen item) :=
  foldl_delete_perm (List.filter_append_perm chosen h.toArray).symm

end

section

variable [Std.TransCmp cmp]

/-- `AddHash`. -/
def add (h : HashList key cmp hash) (p : α) : HashList key cmp hash :=
  h.modify (h.calcHash (key p)) (fun o => o.insert p) fun o item present => by
    obtain same | kept := List.mem_cons.mp ((o.insert_perm p).mem_iff.mp present)
    · exact .inr (by rw [same])
    · exact .inl kept

theorem add_perm (h : HashList key cmp hash) (p : α) :
    (h.add p).toArray.Perm (p :: h.toArray) := by
  obtain ⟨o, at_hash⟩ := h.listed (key p)
  obtain ⟨others, before, after⟩ := modify_perm at_hash
  exact after.trans (((o.insert_perm p).append_right others).trans
    (before.symm.cons p))

end

end HashList
end
end SoftEther
