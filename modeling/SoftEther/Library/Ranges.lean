import Mathlib.Order.Interval.Finset.Nat
import Mathlib.Algebra.BigOperators.Group.List.Basic
import Mathlib.Algebra.Order.BigOperators.Group.List

/-!
# Families of byte ranges

A range is an offset and a size.  This module says which bytes a list of
ranges covers, when its members are pairwise disjoint, and that a disjoint
family inside `[0, n)` whose sizes add up to `n` covers every byte of
`[0, n)`.
-/

namespace SoftEther
namespace Library

/-- A half-open range `[offset, offset + size)` of byte positions. -/
structure ByteRange where
  /-- First byte of the range. -/
  offset : Nat
  /-- Number of bytes in the range. -/
  size : Nat
  deriving DecidableEq

namespace ByteRange

/-- The first position after a range. -/
def stop (range : ByteRange) : Nat :=
  range.offset + range.size

/-- A position lies inside a range. -/
def Covers (range : ByteRange) (position : Nat) : Prop :=
  range.offset ≤ position ∧ position < range.stop

instance (range : ByteRange) (position : Nat) :
    Decidable (range.Covers position) :=
  inferInstanceAs (Decidable (_ ∧ _))

/-- Two ranges share no position. -/
def Apart (left right : ByteRange) : Prop :=
  ∀ position, left.Covers position → ¬right.Covers position

/-- One range lies inside another one. -/
def Within (inner outer : ByteRange) : Prop :=
  ∀ position, inner.Covers position → outer.Covers position

@[simp] theorem covers_mk (offset size position : Nat) :
    (ByteRange.mk offset size).Covers position ↔
      offset ≤ position ∧ position < offset + size :=
  Iff.rfl

theorem covers_iff (range : ByteRange) (position : Nat) :
    range.Covers position ↔
      range.offset ≤ position ∧ position < range.offset + range.size :=
  Iff.rfl

theorem not_covers_of_size_eq_zero
    {range : ByteRange}
    (empty : range.size = 0)
    (position : Nat) :
    ¬range.Covers position := by
  rw [covers_iff]
  omega

theorem Apart.symm
    {left right : ByteRange}
    (apart : left.Apart right) :
    right.Apart left :=
  fun position inRight inLeft => apart position inLeft inRight

theorem Within.stop_le
    {inner outer : ByteRange}
    (within : inner.Within outer)
    (nonempty : inner.size ≠ 0) :
    inner.stop ≤ outer.stop := by
  have lastInside : inner.Covers (inner.stop - 1) := by
    rw [covers_iff]
    unfold stop
    omega
  have before := (within _ lastInside).2
  omega

theorem Within.refl (range : ByteRange) : range.Within range :=
  fun _ inside => inside

/-- The positions of a range as a finite set. -/
def cells (range : ByteRange) : Finset Nat :=
  Finset.Ico range.offset range.stop

@[simp] theorem mem_cells (range : ByteRange) (position : Nat) :
    position ∈ range.cells ↔ range.Covers position := by
  simp [cells, Covers]

@[simp] theorem card_cells (range : ByteRange) :
    range.cells.card = range.size := by
  simp [cells, stop]

end ByteRange

/-- The set of positions that some member of a family covers. -/
def covered (family : List ByteRange) : Set Nat :=
  { position | ∃ range ∈ family, range.Covers position }

/-- The members of a family are pairwise disjoint. -/
def PairwiseApart (family : List ByteRange) : Prop :=
  family.Pairwise ByteRange.Apart

/-- The sum of the sizes of a family. -/
def totalSize (family : List ByteRange) : Nat :=
  (family.map ByteRange.size).foldr (· + ·) 0

@[simp] theorem covered_nil : covered [] = ∅ := by
  simp [covered]

@[simp] theorem mem_covered_cons
    (range : ByteRange)
    (family : List ByteRange)
    (position : Nat) :
    position ∈ covered (range :: family) ↔
      range.Covers position ∨ position ∈ covered family := by
  simp [covered]

@[simp] theorem mem_covered_append
    (left right : List ByteRange)
    (position : Nat) :
    position ∈ covered (left ++ right) ↔
      position ∈ covered left ∨ position ∈ covered right := by
  simp [covered, or_and_right, exists_or]

@[simp] theorem totalSize_nil : totalSize [] = 0 := rfl

@[simp] theorem totalSize_cons
    (range : ByteRange)
    (family : List ByteRange) :
    totalSize (range :: family) = range.size + totalSize family := by
  simp [totalSize]

theorem totalSize_append (left right : List ByteRange) :
    totalSize (left ++ right) = totalSize left + totalSize right := by
  unfold totalSize
  rw [List.map_append]
  exact List.sum_append

theorem totalSize_perm
    {left right : List ByteRange}
    (reordered : left.Perm right) :
    totalSize left = totalSize right :=
  (reordered.map ByteRange.size).sum_eq

variable {family : List ByteRange} {limit : Nat} {me : ByteRange}

theorem apart_of_not_mem_covered
    {range : ByteRange}
    (misses : ∀ position, range.Covers position → position ∉ covered family)
    {member : ByteRange}
    (present : member ∈ family) :
    range.Apart member :=
  fun position inRange inMember =>
    misses position inRange ⟨member, present, inMember⟩

theorem PairwiseApart.filter
    (apart : PairwiseApart family)
    (keep : ByteRange → Bool) :
    PairwiseApart (family.filter keep) :=
  List.Pairwise.filter keep apart

theorem covered_filter_nonempty (family : List ByteRange) :
    covered (family.filter fun range => range.size ≠ 0) = covered family := by
  ext position
  constructor
  · rintro ⟨range, present, inside⟩
    exact ⟨range, (List.mem_filter.mp present).1, inside⟩
  · rintro ⟨range, present, inside⟩
    refine ⟨range, List.mem_filter.mpr ⟨present, ?_⟩, inside⟩
    by_contra empty
    exact ByteRange.not_covers_of_size_eq_zero (by simpa using empty) _ inside

/-- The positions of a family as a finite set. -/
def familyCells : List ByteRange → Finset Nat
  | [] => ∅
  | range :: family => range.cells ∪ familyCells family

@[simp] theorem mem_familyCells
    (family : List ByteRange)
    (position : Nat) :
    position ∈ familyCells family ↔ position ∈ covered family := by
  induction family with
  | nil => simp [familyCells]
  | cons range family inductionHypothesis =>
      simp [familyCells, inductionHypothesis]

theorem card_familyCells
    (apart : PairwiseApart family) :
    (familyCells family).card = totalSize family := by
  induction family with
  | nil => rfl
  | cons range family inductionHypothesis =>
      have headApart := (List.pairwise_cons.mp apart).1
      have tailApart := (List.pairwise_cons.mp apart).2
      have disjoint : Disjoint range.cells (familyCells family) := by
        rw [Finset.disjoint_left]
        intro position inHead inTail
        rw [ByteRange.mem_cells] at inHead
        obtain ⟨member, present, inside⟩ :=
          (mem_familyCells family position).mp inTail
        exact headApart member present position inHead inside
      simp only [familyCells, totalSize_cons]
      rw [Finset.card_union_of_disjoint disjoint, ByteRange.card_cells,
        inductionHypothesis tailApart]

private theorem familyCells_subset_range
    (bounded : ∀ position ∈ covered family, position < limit) :
    familyCells family ⊆ Finset.range limit := by
  intro position present
  rw [Finset.mem_range]
  exact bounded position ((mem_familyCells family position).mp present)

theorem totalSize_le
    (apart : PairwiseApart family)
    (bounded : ∀ position ∈ covered family, position < limit) :
    totalSize family ≤ limit := by
  rw [← card_familyCells apart]
  simpa using Finset.card_le_card (familyCells_subset_range bounded)

theorem covered_of_totalSize_eq
    (apart : PairwiseApart family)
    (bounded : ∀ position ∈ covered family, position < limit)
    (full : totalSize family = limit)
    {position : Nat}
    (inside : position < limit) :
    position ∈ covered family := by
  have equal : familyCells family = Finset.range limit := by
    apply Finset.eq_of_subset_of_card_le (familyCells_subset_range bounded)
    rw [card_familyCells apart, full, Finset.card_range]
  rw [← mem_familyCells, equal, Finset.mem_range]
  exact inside

/-- A range moved towards position 0. -/
def ByteRange.shiftLeft (amount : Nat) (range : ByteRange) : ByteRange :=
  { range with offset := range.offset - amount }

/-- In a disjoint family, the members other than the one at position 0 begin
behind it. -/
theorem PairwiseApart.le_offset
    {first : ByteRange}
    (apart : PairwiseApart (first :: family))
    (atStart : first.offset = 0)
    (nonempty : ∀ range ∈ family, range.size ≠ 0)
    {range : ByteRange}
    (present : range ∈ family) :
    first.size ≤ range.offset := by
  by_contra before
  have positive := nonempty range present
  have inFirst : first.Covers range.offset := by
    rw [ByteRange.covers_iff]
    omega
  have inRange : range.Covers range.offset := by
    rw [ByteRange.covers_iff]
    omega
  exact (List.pairwise_cons.mp apart).1 range present _ inFirst inRange

theorem mem_covered_shiftLeft
    {amount : Nat}
    (behind : ∀ range ∈ family, amount ≤ range.offset)
    (position : Nat) :
    position ∈ covered (family.map (ByteRange.shiftLeft amount)) ↔
      amount + position ∈ covered family := by
  constructor
  · rintro ⟨shifted, present, inside⟩
    obtain ⟨range, rangePresent, rfl⟩ := List.mem_map.mp present
    have later := behind range rangePresent
    refine ⟨range, rangePresent, ?_⟩
    rw [ByteRange.covers_iff] at inside ⊢
    simp only [ByteRange.shiftLeft] at inside
    omega
  · rintro ⟨range, present, inside⟩
    have later := behind range present
    refine ⟨range.shiftLeft amount, List.mem_map_of_mem present, ?_⟩
    rw [ByteRange.covers_iff] at inside ⊢
    simp only [ByteRange.shiftLeft]
    omega

theorem PairwiseApart.shiftLeft
    {amount : Nat}
    (apart : PairwiseApart family)
    (behind : ∀ range ∈ family, amount ≤ range.offset) :
    PairwiseApart (family.map (ByteRange.shiftLeft amount)) := by
  refine List.pairwise_map.mpr (apart.imp_of_mem ?_)
  intro left right leftPresent rightPresent apart position inLeft inRight
  have leftLater := behind left leftPresent
  have rightLater := behind right rightPresent
  apply apart (amount + position)
  · rw [ByteRange.covers_iff] at inLeft ⊢
    simp only [ByteRange.shiftLeft] at inLeft
    omega
  · rw [ByteRange.covers_iff] at inRight ⊢
    simp only [ByteRange.shiftLeft] at inRight
    omega

/-- Disjointness does not depend on the order of a family. -/
theorem PairwiseApart.perm
    {left right : List ByteRange}
    (apart : PairwiseApart left)
    (reordered : left.Perm right) :
    PairwiseApart right :=
  (reordered.pairwise_iff fun apart => apart.symm).mp apart

theorem mem_covered_perm
    {left right : List ByteRange}
    (reordered : left.Perm right)
    (position : Nat) :
    position ∈ covered left ↔ position ∈ covered right := by
  unfold covered
  simp only [Set.mem_ofPred_eq, reordered.mem_iff]

instance (family : List ByteRange) (position : Nat) :
    Decidable (position ∈ covered family) :=
  inferInstanceAs (Decidable (∃ range ∈ family, range.Covers position))

theorem exists_not_mem_covered
    (family : List ByteRange)
    (start : Nat) :
    ∃ position, start ≤ position ∧ position ∉ covered family := by
  obtain ⟨position, missing⟩ :=
    Infinite.exists_notMem_finset (familyCells family ∪ Finset.range start)
  rw [Finset.mem_union, mem_familyCells, Finset.mem_range, not_or] at missing
  exact ⟨position, Nat.le_of_not_lt missing.2, missing.1⟩

/-- The first position from `start` on that a family misses. -/
def frontier (family : List ByteRange) (start : Nat) : Nat :=
  Nat.find (exists_not_mem_covered family start)

theorem mem_covered_of_lt_frontier
    {start position : Nat}
    (after : start ≤ position)
    (before : position < frontier family start) :
    position ∈ covered family := by
  by_contra missing
  exact Nat.find_min (exists_not_mem_covered family start) before
    ⟨after, missing⟩

theorem frontier_not_mem_covered
    (family : List ByteRange)
    (start : Nat) :
    frontier family start ∉ covered family :=
  (Nat.find_spec (exists_not_mem_covered family start)).2

theorem le_frontier
    (family : List ByteRange)
    (start : Nat) :
    start ≤ frontier family start :=
  (Nat.find_spec (exists_not_mem_covered family start)).1

theorem le_frontier_of_covered
    {start stop : Nat}
    (all : ∀ position, start ≤ position → position < stop →
      position ∈ covered family) :
    stop ≤ frontier family start := by
  by_contra beyond
  exact frontier_not_mem_covered family start
    (all _ (le_frontier family start) (Nat.lt_of_not_le beyond))

/-! ## Scanning a family with an arriving range -/

/-- An arriving range meets the members of a family one after the other; each
turn may trim both. -/
def scan (turn : ByteRange → ByteRange → ByteRange × ByteRange) :
    ByteRange → List ByteRange → ByteRange × List ByteRange
  | me, [] => (me, [])
  | me, range :: family =>
      let scanned := scan turn (turn me range).1 family
      (scanned.1, (turn me range).2 :: scanned.2)

theorem mem_scan
    {turn : ByteRange → ByteRange → ByteRange × ByteRange}
    {member : ByteRange}
    (present : member ∈ (scan turn me family).2) :
    ∃ range ∈ family, ∃ arriving, member = (turn arriving range).2 := by
  induction family generalizing me with
  | nil => exact absurd present (by simp [scan])
  | cons range family inductionHypothesis =>
      simp only [scan, List.mem_cons] at present
      obtain same | later := present
      · exact ⟨range, by simp, me, same⟩
      · obtain ⟨other, inFamily, arriving, same⟩ := inductionHypothesis later
        exact ⟨other, by simp [inFamily], arriving, same⟩

/-- One turn trims both ranges, leaves them apart and loses no position. -/
structure Splits (me range meAfter rangeAfter : ByteRange) : Prop where
  shrinks : meAfter.Within me
  /-- The member only shrinks. -/
  within : rangeAfter.Within range
  /-- Nothing is covered twice. -/
  apart : meAfter.Apart rangeAfter
  keeps : ∀ position, me.Covers position ∨ range.Covers position →
    meAfter.Covers position ∨ rangeAfter.Covers position

/-- What a scan leaves behind. -/
structure Scanned (me : ByteRange) (family : List ByteRange)
    (after : ByteRange × List ByteRange) : Prop where
  shrinks : after.1.Within me
  /-- The family stays disjoint. -/
  apart : PairwiseApart after.2
  within : ∀ position ∈ covered after.2, position ∈ covered family
  /-- What remains of the arriving range is new to the family. -/
  misses : ∀ position, after.1.Covers position → position ∉ covered after.2
  keeps : ∀ position, me.Covers position ∨ position ∈ covered family →
    after.1.Covers position ∨ position ∈ covered after.2

theorem scan_scanned
    {turn : ByteRange → ByteRange → ByteRange × ByteRange}
    (Ready : ByteRange → List ByteRange → Prop)
    (splits : ∀ me range family,
      PairwiseApart (range :: family) → Ready me (range :: family) →
        Splits me range (turn me range).1 (turn me range).2 ∧
          Ready (turn me range).1 family)
    {me : ByteRange}
    {family : List ByteRange}
    (apart : PairwiseApart family)
    (ready : Ready me family) :
    Scanned me family (scan turn me family) := by
  induction family generalizing me with
  | nil =>
      exact ⟨ByteRange.Within.refl me, List.Pairwise.nil, fun _ inside => inside,
        fun _ _ inside => by simp [scan] at inside, fun _ inside => inside⟩
  | cons range family inductionHypothesis =>
      obtain ⟨headApart, tailApart⟩ := List.pairwise_cons.mp apart
      obtain ⟨turned, tailReady⟩ := splits me range family apart ready
      have rest := inductionHypothesis tailApart tailReady
      simp only [scan]
      refine ⟨?_, ?_, ?_, ?_, ?_⟩
      · intro position inside
        exact turned.shrinks position (rest.shrinks position inside)
      · refine List.pairwise_cons.mpr ⟨?_, rest.apart⟩
        intro member present position inHead inMember
        obtain ⟨other, otherPresent, inOther⟩ :=
          rest.within position ⟨member, present, inMember⟩
        exact headApart other otherPresent position
          (turned.within position inHead) inOther
      · intro position inside
        rw [mem_covered_cons] at inside ⊢
        exact inside.imp (turned.within position) (rest.within position)
      · intro position inMe inside
        rw [mem_covered_cons] at inside
        obtain inHead | inTail := inside
        · exact turned.apart position (rest.shrinks position inMe) inHead
        · exact rest.misses position inMe inTail
      · intro position inside
        rw [mem_covered_cons] at inside ⊢
        have turnedKeeps := turned.keeps position
        have restKeeps := rest.keeps position
        tauto

theorem Scanned.pairwiseApart
    {after : ByteRange × List ByteRange}
    (scanned : Scanned me family after) :
    PairwiseApart (after.2 ++ [after.1]) := by
  refine List.pairwise_append.mpr ⟨scanned.apart, List.pairwise_singleton _ _, ?_⟩
  intro member present remaining isRemaining
  rw [List.mem_singleton] at isRemaining
  subst isRemaining
  exact (apart_of_not_mem_covered scanned.misses present).symm

theorem Scanned.mem_covered
    {after : ByteRange × List ByteRange}
    (scanned : Scanned me family after)
    (position : Nat) :
    position ∈ covered (after.2 ++ [after.1]) ↔
      me.Covers position ∨ position ∈ covered family := by
  rw [mem_covered_append, mem_covered_cons, covered_nil]
  constructor
  · rintro (inFamily | inMe | ⟨⟨⟩⟩)
    · exact .inr (scanned.within position inFamily)
    · exact .inl (scanned.shrinks position inMe)
  · intro inside
    exact (scanned.keeps position inside).symm.imp id .inl

end Library
end SoftEther
