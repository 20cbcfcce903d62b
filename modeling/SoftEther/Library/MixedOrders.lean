import Mathlib.Logic.Basic

/-!
# A comparison that uses two orders

Two elements are compared in one order when they are linked and in another one when they are not.
Each order is transitive.  The comparison is, unless three elements are tangled.
-/

namespace SoftEther
namespace Library
namespace MixedOrders

variable {α : Type} (link : α → α → Bool) (inner outer : α → α → Ordering)

/-- Linked elements are compared by `inner`, the others by `outer`. -/
def mixed (a b : α) : Ordering :=
  if link a b then inner a b else outer a b

/-- The outer element of two links does not follow the inner order, or something stands between
two linked elements that does not. -/
def Tangled (x y z : α) : Prop :=
  (link x y = true ∧ link y z = true ∧ link x z = false ∧ outer x z = .lt ∧
      (inner z y).isLE = true ∧ (inner y x).isLE = true) ∨
    (link x y = true ∧ link y z = false ∧ link x z = false ∧ outer y x = .lt ∧
      (outer y z).isLE = true ∧ (outer z x).isLE = true ∧ (inner x y).isLE = true)

variable {link inner outer}

theorem mixed_of_link
    {a b : α}
    (linked : link a b = true) :
    mixed link inner outer a b = inner a b :=
  if_pos linked

theorem mixed_of_not_link
    {a b : α}
    (apart : link a b = false) :
    mixed link inner outer a b = outer a b :=
  if_neg (Bool.eq_false_iff.mp apart)

/-- Links have no direction, and equal elements of the outer order are equal in the inner one. -/
structure Compatible (link : α → α → Bool) (inner outer : α → α → Ordering) : Prop where
  symmetric : ∀ a b, link a b = link b a
  agree : ∀ a b, outer a b = .eq → inner a b = .eq

section

variable [Std.TransCmp inner] [Std.TransCmp outer]
variable {a b c : α}

theorem mixed_swap (compatible : Compatible link inner outer) (a b : α) :
    mixed link inner outer a b = (mixed link inner outer b a).swap := by
  unfold mixed
  rw [compatible.symmetric a b]
  split
  · exact Std.OrientedCmp.eq_swap
  · exact Std.OrientedCmp.eq_swap

omit [Std.TransCmp inner] in
theorem not_tangled
    (compatible : Compatible link inner outer)
    {x y z : α}
    (transitive : ∀ a ∈ [x, y, z], ∀ b ∈ [x, y, z], ∀ c ∈ [x, y, z],
      (mixed link inner outer a b).isLE = true → (mixed link inner outer b c).isLE = true →
        (mixed link inner outer a c).isLE = true) :
    ¬Tangled link inner outer x y z := by
  rintro (⟨xy, yz, xz, less, zy, yx⟩ | ⟨xy, yz, xz, less, yzLe, zxLe, xyLe⟩)
  · have first : (mixed link inner outer z y).isLE = true := by
      rwa [mixed_of_link ((compatible.symmetric z y).trans yz)]
    have second : (mixed link inner outer y x).isLE = true := by
      rwa [mixed_of_link ((compatible.symmetric y x).trans xy)]
    have third := transitive z (by simp) y (by simp) x (by simp) first second
    rw [mixed_of_not_link ((compatible.symmetric z x).trans xz),
      Std.OrientedCmp.gt_of_lt less] at third
    cases third
  · have first : (mixed link inner outer x y).isLE = true := by rwa [mixed_of_link xy]
    have second : (mixed link inner outer y z).isLE = true := by rwa [mixed_of_not_link yz]
    have third := transitive x (by simp) y (by simp) z (by simp) first second
    have back : (mixed link inner outer z x).isLE = true := by
      rwa [mixed_of_not_link ((compatible.symmetric z x).trans xz)]
    have fourth := transitive z (by simp) x (by simp) y (by simp) back first
    rw [mixed_of_not_link xz] at third
    rw [mixed_of_not_link ((compatible.symmetric z y).trans yz)] at fourth
    have loop := Std.TransCmp.isLE_trans third fourth
    rw [Std.OrientedCmp.gt_of_lt less] at loop
    cases loop

omit [Std.TransCmp outer] in
theorem outer_lt
    (compatible : Compatible link inner outer)
    (le : (outer a b).isLE = true)
    (greater : inner b a = .lt) :
    outer a b = .lt := by
  cases compared : outer a b with
  | lt => rfl
  | eq =>
      have equal := compatible.agree a b compared
      rw [Std.OrientedCmp.gt_of_lt greater] at equal
      cases equal
  | gt =>
      rw [compared] at le
      cases le

theorem mixed_isLE_trans
    (compatible : Compatible link inner outer)
    (untangled : ∀ x ∈ [a, b, c], ∀ y ∈ [a, b, c], ∀ z ∈ [a, b, c],
      ¬Tangled link inner outer x y z)
    (ab : (mixed link inner outer a b).isLE = true)
    (bc : (mixed link inner outer b c).isLE = true) :
    (mixed link inner outer a c).isLE = true := by
  refine Decidable.byContradiction fun after => ?_
  have ca : mixed link inner outer c a = .lt := by
    rw [mixed_swap compatible]
    cases compared : mixed link inner outer a c with
    | gt => rfl
    | lt => exact absurd (compared ▸ rfl) after
    | eq => exact absurd (compared ▸ rfl) after
  have symmetric := compatible.symmetric
  have isLE {x y : α} {cmp : α → α → Ordering} (less : cmp x y = .lt) :
      (cmp x y).isLE = true := by
    rw [less]
    rfl
  cases linkAB : link a b <;> cases linkBC : link b c <;> cases linkCA : link c a
  case false.false.false =>
    rw [mixed_of_not_link linkAB] at ab
    rw [mixed_of_not_link linkBC] at bc
    rw [mixed_of_not_link linkCA] at ca
    have loop := Std.TransCmp.isLE_trans ab bc
    rw [Std.OrientedCmp.gt_of_lt ca] at loop
    cases loop
  case true.true.true =>
    rw [mixed_of_link linkAB] at ab
    rw [mixed_of_link linkBC] at bc
    rw [mixed_of_link linkCA] at ca
    have loop := Std.TransCmp.isLE_trans ab bc
    rw [Std.OrientedCmp.gt_of_lt ca] at loop
    cases loop
  -- Two links: the third pair is at the ends of them.
  case true.true.false =>
    rw [mixed_of_link linkAB] at ab
    rw [mixed_of_link linkBC] at bc
    rw [mixed_of_not_link linkCA] at ca
    exact untangled c (by simp) b (by simp) a (by simp)
      (.inl ⟨(symmetric c b).trans linkBC, (symmetric b a).trans linkAB, linkCA, ca, ab, bc⟩)
  case true.false.true =>
    rw [mixed_of_link linkAB] at ab
    rw [mixed_of_not_link linkBC] at bc
    rw [mixed_of_link linkCA] at ca
    have less : outer b c = .lt := outer_lt compatible bc (Std.TransCmp.lt_of_lt_of_isLE ca ab)
    exact untangled b (by simp) a (by simp) c (by simp)
      (.inl ⟨(symmetric b a).trans linkAB, (symmetric a c).trans linkCA, linkBC, less, isLE ca, ab⟩)
  case false.true.true =>
    rw [mixed_of_not_link linkAB] at ab
    rw [mixed_of_link linkBC] at bc
    rw [mixed_of_link linkCA] at ca
    have less : outer a b = .lt := outer_lt compatible ab (Std.TransCmp.lt_of_isLE_of_lt bc ca)
    exact untangled a (by simp) c (by simp) b (by simp)
      (.inl ⟨(symmetric a c).trans linkCA, (symmetric c b).trans linkBC, linkAB, less, bc, isLE ca⟩)
  -- One link: the third element is between its ends.
  case true.false.false =>
    rw [mixed_of_link linkAB] at ab
    rw [mixed_of_not_link linkBC] at bc
    rw [mixed_of_not_link linkCA] at ca
    exact untangled a (by simp) b (by simp) c (by simp)
      (.inr ⟨linkAB, linkBC, (symmetric a c).trans linkCA, Std.TransCmp.lt_of_isLE_of_lt bc ca, bc,
        isLE ca, ab⟩)
  case false.true.false =>
    rw [mixed_of_not_link linkAB] at ab
    rw [mixed_of_link linkBC] at bc
    rw [mixed_of_not_link linkCA] at ca
    exact untangled b (by simp) c (by simp) a (by simp)
      (.inr ⟨linkBC, linkCA, (symmetric b a).trans linkAB, Std.TransCmp.lt_of_lt_of_isLE ca ab,
        isLE ca, ab, bc⟩)
  case false.false.true =>
    rw [mixed_of_not_link linkAB] at ab
    rw [mixed_of_not_link linkBC] at bc
    rw [mixed_of_link linkCA] at ca
    have less : outer a c = .lt := outer_lt compatible (Std.TransCmp.isLE_trans ab bc) ca
    exact untangled c (by simp) a (by simp) b (by simp)
      (.inr ⟨linkCA, linkAB, (symmetric c b).trans linkBC, less, ab, bc, isLE ca⟩)

end

end MixedOrders
end Library
end SoftEther
