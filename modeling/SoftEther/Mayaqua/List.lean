import Mathlib.Data.List.InsertIdx
import Mathlib.Data.List.Sort
import SoftEther.Library.SortedSearch

/-!
# Lists

`LIST` of `Memory.c`: an array of items that remembers whether it is sorted.
The comparison function of a list is an argument of the operations that use it.
-/

namespace SoftEther

open Library

/-- `LIST`. -/
structure MayaquaList (α : Type) where
  items : List α := []
  sorted : Bool := true
  deriving DecidableEq

namespace MayaquaList

variable {α : Type}

/-- `LIST_NUM`. -/
def num (o : MayaquaList α) : Nat :=
  o.items.length

def add (o : MayaquaList α) (p : α) : MayaquaList α where
  items := o.items ++ [p]
  sorted := false

def delete [DecidableEq α] (o : MayaquaList α) (p : α) : MayaquaList α :=
  { o with items := o.items.erase p }

def sort (cmp : α → α → Ordering) (o : MayaquaList α) : MayaquaList α where
  items := o.items.insertionSort fun left right => (cmp left right).isLE
  sorted := true

/-- The list as `Search` and `Insert` look at it. -/
def ensureSorted (cmp : α → α → Ordering) (o : MayaquaList α) : MayaquaList α :=
  if o.sorted then o else o.sort cmp

/-- `Search`: the found item and the list, which is sorted afterwards. -/
def search
    (cmp : α → α → Ordering)
    (compareTo : α → Ordering)
    (o : MayaquaList α) :
    Option α × MayaquaList α :=
  let o := o.ensureSorted cmp
  (bsearch compareTo o.num o.items, o)

/-- The bisection of `Insert` between `low` and `high`: the first item that
compares equal, or else the place that is left. -/
def insertionPoint (compareTo : α → Ordering) (items : List α) :
    Nat → Nat → Nat → Nat
  | 0, low, _ => low
  | fuel + 1, low, high =>
      if low < high then
        match items[(low + high - 1) / 2]? with
        | none => low
        | some middle =>
            match compareTo middle with
            | .eq => (low + high - 1) / 2
            | .gt => insertionPoint compareTo items fuel low ((low + high - 1) / 2)
            | .lt =>
                insertionPoint compareTo items fuel ((low + high - 1) / 2 + 1) high
      else low

def insert (cmp : α → α → Ordering) (o : MayaquaList α) (p : α) :
    MayaquaList α :=
  let o := o.ensureSorted cmp
  let pos := insertionPoint (fun item => cmp item p) o.items o.num 0 o.num
  { o with items := o.items.insertIdx pos p }

/-- A write to an item through its pointer. -/
def write [DecidableEq α] (o : MayaquaList α) (old new : α) : MayaquaList α :=
  { o with items := o.items.replace old new }

theorem ensureSorted_perm (cmp : α → α → Ordering) (o : MayaquaList α) :
    (o.ensureSorted cmp).items.Perm o.items := by
  unfold ensureSorted
  split_ifs
  · exact .refl _
  · exact List.perm_insertionSort _ o.items

theorem search_perm
    (cmp : α → α → Ordering)
    (compareTo : α → Ordering)
    (o : MayaquaList α) :
    (o.search cmp compareTo).2.items.Perm o.items :=
  ensureSorted_perm cmp o

theorem search_sound
    {cmp : α → α → Ordering}
    {compareTo : α → Ordering}
    {o : MayaquaList α}
    {found : α}
    (searched : (o.search cmp compareTo).1 = some found) :
    found ∈ o.items ∧ compareTo found = .eq := by
  obtain ⟨present, equal⟩ := bsearch_sound searched
  exact ⟨(ensureSorted_perm cmp o).mem_iff.mp present, equal⟩

theorem insertionPoint_of_split
    {compareTo : α → Ordering}
    {before after : List α}
    (smaller : ∀ item ∈ before, compareTo item = .lt)
    (greater : ∀ item ∈ after, compareTo item = .gt)
    {fuel low high : Nat}
    (enough : high - low ≤ fuel)
    (lower : low ≤ before.length)
    (upper : before.length ≤ high)
    (inside : high ≤ (before ++ after).length) :
    insertionPoint compareTo (before ++ after) fuel low high = before.length := by
  induction fuel generalizing low high with
  | zero =>
      unfold insertionPoint
      omega
  | succ fuel inductionHypothesis =>
      unfold insertionPoint
      by_cases open_ : low < high
      · have middleInside : (low + high - 1) / 2 < (before ++ after).length := by omega
        rw [if_pos open_, List.getElem?_eq_getElem middleInside]
        dsimp only
        by_cases left : (low + high - 1) / 2 < before.length
        · have middle : compareTo (before ++ after)[(low + high - 1) / 2] = .lt := by
            rw [List.getElem_append_left left]
            exact smaller _ (List.getElem_mem left)
          rw [middle]
          exact inductionHypothesis (by omega) (by omega) upper inside
        · have middle : compareTo (before ++ after)[(low + high - 1) / 2] = .gt := by
            rw [List.getElem_append_right (by omega)]
            exact greater _ (List.getElem_mem _)
          rw [middle]
          exact inductionHypothesis (by omega) lower (by omega) (by omega)
      · rw [if_neg open_]
        omega

theorem insertIdx_append (before after : List α) (p : α) :
    (before ++ after).insertIdx before.length p = before ++ p :: after := by
  induction before with
  | nil => exact List.insertIdx_zero
  | cons first rest inductionHypothesis =>
      exact congrArg (List.cons first) inductionHypothesis

theorem insert_items_of_split
    {cmp : α → α → Ordering}
    {before after : List α}
    {p : α}
    (smaller : ∀ item ∈ before, cmp item p = .lt)
    (greater : ∀ item ∈ after, cmp item p = .gt) :
    (insert cmp ⟨before ++ after, true⟩ p).items = before ++ p :: after := by
  have place := insertionPoint_of_split smaller greater
    (Nat.sub_le (before ++ after).length 0) (Nat.zero_le _) (by simp)
    (Nat.le_refl _)
  simp only [insert, ensureSorted, if_true, num, place]
  exact insertIdx_append before after p

/-! ## Lists of images -/

section

variable {β : Type} (image : β → α)

theorem insertionPoint_map
    (compareTo : α → Ordering)
    (items : List β)
    (fuel low high : Nat) :
    insertionPoint compareTo (items.map image) fuel low high =
      insertionPoint (fun item => compareTo (image item)) items fuel low high := by
  induction fuel generalizing low high with
  | zero => rfl
  | succ fuel inductionHypothesis =>
      unfold insertionPoint
      rw [List.getElem?_map]
      cases items[(low + high - 1) / 2]? with
      | none => rfl
      | some middle => simp only [Option.map_some, inductionHypothesis]

theorem insert_map
    (cmp : α → α → Ordering)
    (items : List β)
    (p : β) :
    insert cmp ⟨items.map image, true⟩ (image p) =
      ⟨(insert (fun left right => cmp (image left) (image right)) ⟨items, true⟩ p).items.map image,
        true⟩ := by
  simp only [insert, ensureSorted, if_true, num, List.length_map, insertionPoint_map,
    List.map_insertIdx]

theorem search_map
    (cmp : α → α → Ordering)
    (items : List β)
    (p : β) :
    search cmp (cmp (image p)) ⟨items.map image, true⟩ =
      ((search (fun left right => cmp (image left) (image right)) (fun item =>
          cmp (image p) (image item)) ⟨items, true⟩).1.map image,
        ⟨items.map image, true⟩) := by
  simp only [search, ensureSorted, if_true, num, List.length_map, bsearch_map]

end

/-! ## Ordered lists -/

/-- The items stand in the order of the comparison. -/
def Ordered (cmp : α → α → Ordering) (items : List α) : Prop :=
  items.Pairwise fun earlier later => (cmp earlier later).isLE = true

/-- An item can stand at the place: those before it are not greater, the others not smaller. -/
structure Fits (cmp : α → α → Ordering) (items : List α) (p : α) (low high : Nat) : Prop where
  inside : high ≤ items.length
  before : ∀ item ∈ items.take low, (cmp item p).isLE = true
  after : ∀ item ∈ items.drop high, (cmp p item).isLE = true

section

variable {cmp : α → α → Ordering} [Std.TransCmp cmp] {items : List α} {p : α} {low high m : Nat}

theorem Fits.above
    (fits : Fits cmp items p low high)
    (ordered : Ordered cmp items)
    (inside : m < items.length)
    (below : (cmp items[m] p).isLE = true) :
    Fits cmp items p (m + 1) high := by
  refine ⟨fits.inside, fun item listed => ?_, fits.after⟩
  obtain ⟨place, small, rfl⟩ := List.mem_take_iff_getElem.mp listed
  obtain earlier | rfl := Nat.lt_or_eq_of_le (show place ≤ m by omega)
  · exact Std.TransCmp.isLE_trans (List.pairwise_iff_getElem.mp ordered _ _ _ inside earlier) below
  · exact below

theorem Fits.below
    (fits : Fits cmp items p low high)
    (ordered : Ordered cmp items)
    (inside : m < items.length)
    (above : (cmp p items[m]).isLE = true) :
    Fits cmp items p low m := by
  refine ⟨inside.le, fits.before, fun item listed => ?_⟩
  obtain ⟨place, small, rfl⟩ := List.mem_drop_iff_getElem.mp listed
  obtain rfl | later := Nat.eq_zero_or_pos place
  · exact above
  · exact Std.TransCmp.isLE_trans above
      (List.pairwise_iff_getElem.mp ordered m (m + place) inside (by omega) (by omega))

theorem insertionPoint_fits
    {fuel : Nat}
    (ordered : Ordered cmp items)
    (fits : Fits cmp items p low high)
    (enough : high - low ≤ fuel)
    (apart : low ≤ high) :
    Fits cmp items p (insertionPoint (fun item => cmp item p) items fuel low high)
      (insertionPoint (fun item => cmp item p) items fuel low high) := by
  induction fuel generalizing low high with
  | zero =>
      obtain rfl : low = high := by omega
      exact fits
  | succ fuel inductionHypothesis =>
      unfold insertionPoint
      by_cases wide : low < high
      · have inside : (low + high - 1) / 2 < items.length := by
          have bound := fits.inside
          omega
        rw [if_pos wide, List.getElem?_eq_getElem inside]
        dsimp only
        cases compared : cmp items[(low + high - 1) / 2] p with
        | eq =>
            have equal : (cmp items[(low + high - 1) / 2] p).isLE = true := by rw [compared]; rfl
            have reverse : (cmp p items[(low + high - 1) / 2]).isLE = true := by
              rw [Std.OrientedCmp.eq_symm compared]
              rfl
            have narrow := (fits.above ordered inside equal).below ordered inside reverse
            exact ⟨narrow.inside, fun item listed =>
              narrow.before item (List.take_subset_take_left _ (Nat.le_succ _) listed),
              narrow.after⟩
        | gt =>
            have reverse : (cmp p items[(low + high - 1) / 2]).isLE = true := by
              rw [Std.OrientedCmp.lt_of_gt compared]
              rfl
            exact inductionHypothesis (fits.below ordered inside reverse) (by omega) (by omega)
        | lt =>
            have below : (cmp items[(low + high - 1) / 2] p).isLE = true := by rw [compared]; rfl
            exact inductionHypothesis (fits.above ordered inside below) (by omega) (by omega)
      · rw [if_neg wide]
        obtain rfl : low = high := by omega
        exact fits

theorem exists_insert_items (ordered : Ordered cmp items) (p : α) :
    ∃ before after, items = before ++ after ∧
      (insert cmp ⟨items, true⟩ p).items = before ++ p :: after ∧
        (insert cmp ⟨items, true⟩ p).sorted = true ∧ Ordered cmp (before ++ p :: after) := by
  have whole : Fits cmp items p 0 items.length :=
    ⟨le_rfl, fun _ listed => by simp at listed, fun _ listed => by simp at listed⟩
  have fits := insertionPoint_fits ordered whole (Nat.sub_le _ _) (Nat.zero_le _)
  generalize placed : insertionPoint (fun item => cmp item p) items items.length 0 items.length =
    pos at fits
  refine ⟨items.take pos, items.drop pos, (List.take_append_drop pos items).symm, ?_, rfl, ?_⟩
  · change items.insertIdx (insertionPoint _ items items.length 0 items.length) p = _
    rw [placed]
    have inserted := insertIdx_append (items.take pos) (items.drop pos) p
    rwa [List.take_append_drop, List.length_take_of_le fits.inside] at inserted
  · rw [← List.take_append_drop pos items] at ordered
    obtain ⟨first, second, across⟩ := List.pairwise_append.mp ordered
    refine List.pairwise_append.mpr ⟨first, List.pairwise_cons.mpr ⟨fits.after, second⟩, ?_⟩
    intro earlier inFirst later inSecond
    obtain rfl | inRest := List.mem_cons.mp inSecond
    · exact fits.before earlier inFirst
    · exact across earlier inFirst later inRest

theorem search_complete
    {wanted : α}
    (ordered : Ordered cmp items)
    (present : wanted ∈ items)
    (equal : cmp p wanted = .eq) :
    ((search cmp (cmp p) ⟨items, true⟩).1).isSome = true := by
  apply bsearch_complete le_rfl _ present equal
  refine ordered.imp fun {earlier later} inOrder => ⟨fun less => ?_, fun greater => ?_⟩
  · exact Std.TransCmp.lt_of_lt_of_isLE less inOrder
  · exact Std.TransCmp.gt_of_gt_of_isGE greater (Std.OrientedCmp.isGE_of_isLE inOrder)

theorem sort_ordered (o : MayaquaList α) : Ordered cmp (o.sort cmp).items := by
  have total : Std.Total fun left right => (cmp left right).isLE = true := by
    refine ⟨fun left right => ?_⟩
    by_cases before : (cmp left right).isLE = true
    · exact .inl before
    · have after := Std.OrientedCmp.lt_of_not_isLE before
      exact .inr (by rw [after]; rfl)
  have transitive : IsTrans α fun left right => (cmp left right).isLE = true :=
    ⟨fun _ _ _ => Std.TransCmp.isLE_trans⟩
  exact List.pairwise_insertionSort _ o.items

theorem ensureSorted_ordered
    {o : MayaquaList α}
    (truthful : o.sorted = true → Ordered cmp o.items) :
    ∃ items, o.ensureSorted cmp = ⟨items, true⟩ ∧ Ordered cmp items := by
  unfold ensureSorted
  by_cases flag : o.sorted = true
  · rw [if_pos flag]
    refine ⟨o.items, ?_, truthful flag⟩
    rw [← flag]
  · rw [if_neg flag]
    exact ⟨_, rfl, sort_ordered o⟩

theorem insert_ordered
    {o : MayaquaList α}
    (truthful : o.sorted = true → Ordered cmp o.items)
    (p : α) :
    Ordered cmp (o.insert cmp p).items ∧ (o.insert cmp p).items.Perm (p :: o.items) := by
  obtain ⟨items, same, ordered⟩ := ensureSorted_ordered truthful
  obtain ⟨before, after, split, inserted, _, result⟩ := exists_insert_items ordered p
  have moved : (o.insert cmp p).items = before ++ p :: after := by
    rw [← inserted, insert, insert, same]
    rfl
  have isPerm := ensureSorted_perm cmp o
  rw [same, split] at isPerm
  rw [moved]
  exact ⟨result, List.perm_middle.trans (isPerm.cons p)⟩

end

end MayaquaList
end SoftEther
