import SoftEther.Cedar.VirtualHub.Storm
import SoftEther.Library.MixedOrders

/-!
# The list of the storm records

`AddStormList` and `SearchStormList` of a packet adapter.  The list is searched by bisection, but
in the strict mode its comparison function is no order.
-/

namespace SoftEther
namespace VirtualHub

open Library.MixedOrders

/-- The arguments of `AddStormList` and `SearchStormList`; an address that is `NULL` counts as a
zero one. -/
structure StormKey where
  macAddress : MacAddress
  srcIp : IpAddr
  destIp : IpAddr
  strict : Bool
  deriving DecidableEq

/-- The record that is added, and the one that is searched with. -/
def StormKey.storm (k : StormKey) : Storm where
  macAddress := k.macAddress
  srcIp := k.srcIp
  destIp := k.destIp
  strictMode := k.strict

def addStormList (k : StormKey) (list : MayaquaList Storm) : MayaquaList Storm :=
  list.insert compareStormList k.storm

def searchStormList (k : StormKey) (list : MayaquaList Storm) :
    Option Storm × MayaquaList Storm :=
  list.search compareStormList (compareStormList k.storm)

/-- What `CheckBroadcastStorm` does: only what is not found is added. -/
def broadcast (list : MayaquaList Storm) (k : StormKey) : MayaquaList Storm :=
  match searchStormList k list with
  | (some _, list) => list
  | (none, list) => addStormList k list

theorem findStorm_eq (cfg : Settings) (p : Pkt) (list : MayaquaList Storm) :
    (findStorm cfg p list).2 =
      broadcast list
        { macAddress := p.macAddressSrc
          srcIp := (stormAddresses p).1
          destIp := (stormAddresses p).2
          strict := cfg.option.broadcastLimiterStrictMode } := by
  unfold findStorm broadcast searchStormList
  simp only [newStorm, StormKey.storm]
  split <;> split <;> simp_all [addStormList, StormKey.storm]

inductive StormCall
  | add (k : StormKey)
  | search (k : StormKey)

def StormCall.key : StormCall → StormKey
  | .add k => k
  | .search k => k

def StormCall.added : StormCall → Option StormKey
  | .add k => some k
  | .search _ => none

def StormCall.step (list : MayaquaList Storm) : StormCall → MayaquaList Storm
  | .add k => addStormList k list
  | .search k => (searchStormList k list).2

/-- The list of a new packet adapter after some calls. -/
def stormList (calls : List StormCall) : MayaquaList Storm :=
  calls.foldl StormCall.step {}

/-! ## The two orders -/

/-- A strict record is compared by the MAC address with one of the same destination or source. -/
def link (s1 s2 : Storm) : Bool :=
  (s1.strictMode ∨ s2.strictMode) ∧ (s1.destIp = s2.destIp ∨ s1.srcIp = s2.srcIp)

def byMac (s1 s2 : Storm) : Ordering :=
  compareBytes s1.macAddress s2.macAddress

def byAddresses (s1 s2 : Storm) : Ordering :=
  ((compareBytes s1.destIp s2.destIp).then (compareBytes s1.srcIp s2.srcIp)).then (byMac s1 s2)

theorem compareStormList_eq : compareStormList = mixed link byMac byAddresses := by
  funext s1 s2
  have dest : compareBytes s1.destIp s2.destIp = .eq ↔ s1.destIp = s2.destIp :=
    Std.LawfulEqCmp.compare_eq_iff_eq
  have src : compareBytes s1.srcIp s2.srcIp = .eq ↔ s1.srcIp = s2.srcIp :=
    Std.LawfulEqCmp.compare_eq_iff_eq
  simp only [compareStormList, dest, src]
  split
  case isTrue normal =>
    have apart : link s1 s2 = false := by simp [link, normal]
    rw [mixed_of_not_link apart]
    rfl
  case isFalse strict =>
    have some_ : s1.strictMode = true ∨ s2.strictMode = true := by
      simpa [Classical.or_iff_not_imp_left] using strict
    split
    case isTrue shared =>
      have linked : link s1 s2 = true := decide_eq_true ⟨some_, shared⟩
      rw [mixed_of_link linked]
      rfl
    case isFalse apart =>
      have notLinked : link s1 s2 = false := decide_eq_false fun linked => apart linked.2
      rw [mixed_of_not_link notLinked]
      have different : compareBytes s1.destIp s2.destIp ≠ .eq := fun equal =>
        apart (.inl (dest.mp equal))
      unfold byAddresses
      cases compared : compareBytes s1.destIp s2.destIp with
      | lt => rfl
      | eq => exact absurd compared different
      | gt => rfl

instance : Std.TransCmp byMac :=
  Library.transCmp_image Storm.macAddress compareBytes

instance : Std.TransCmp byAddresses :=
  have := Library.transCmp_image Storm.destIp (@compareBytes 20)
  have := Library.transCmp_image Storm.srcIp (@compareBytes 20)
  inferInstanceAs (Std.TransCmp (compareLex (compareLex
    (fun s1 s2 : Storm => compareBytes s1.destIp s2.destIp)
    (fun s1 s2 : Storm => compareBytes s1.srcIp s2.srcIp)) byMac))

theorem compatible : Compatible link byMac byAddresses where
  symmetric s1 s2 := by
    unfold link
    congr 1
    rw [eq_comm (a := s1.destIp), eq_comm (a := s1.srcIp), or_comm (a := s1.strictMode = true)]
  agree s1 s2 equal := (Ordering.then_eq_eq.mp equal).2

/-! ## Lists of some keys -/

section

variable {K : StormKey → Prop}

/-- No three of the keys are tangled. -/
def Untangled (K : StormKey → Prop) : Prop :=
  ∀ x y z, K x → K y → K z → ¬Tangled link byMac byAddresses x.storm y.storm z.storm

theorem exists_key
    {x y z : StormKey}
    (ofX : K x)
    (ofY : K y)
    (ofZ : K z)
    {s : Storm}
    (listed : s ∈ [x.storm, y.storm, z.storm]) :
    ∃ k, K k ∧ k.storm = s := by
  simp only [List.mem_cons, List.not_mem_nil, or_false] at listed
  obtain rfl | rfl | rfl := listed
  · exact ⟨x, ofX, rfl⟩
  · exact ⟨y, ofY, rfl⟩
  · exact ⟨z, ofZ, rfl⟩

/-- `CompareStormList` of keys. -/
def compareKeys (left right : { k // K k }) : Ordering :=
  compareStormList left.val.storm right.val.storm

theorem compareStormList_swap (s1 s2 : Storm) :
    compareStormList s1 s2 = (compareStormList s2 s1).swap := by
  rw [compareStormList_eq]
  exact mixed_swap compatible s1 s2

theorem Untangled.transCmp (untangled : Untangled K) :
    Std.TransCmp (@compareKeys K) where
  eq_swap := compareStormList_swap _ _
  isLE_trans {a b c} ab bc := by
    unfold compareKeys at ab bc ⊢
    rw [compareStormList_eq] at ab bc ⊢
    refine mixed_isLE_trans compatible (fun x inX y inY z inZ => ?_) ab bc
    obtain ⟨x, ofX, rfl⟩ := exists_key a.property b.property c.property inX
    obtain ⟨y, ofY, rfl⟩ := exists_key a.property b.property c.property inY
    obtain ⟨z, ofZ, rfl⟩ := exists_key a.property b.property c.property inZ
    exact untangled x y z ofX ofY ofZ

/-- The list holds the records of some keys in their order. -/
def Holds (K : StormKey → Prop) (list : MayaquaList Storm) (keys : List StormKey) : Prop :=
  ∃ items : List { k // K k },
    list = ⟨items.map fun k => k.val.storm, true⟩ ∧ MayaquaList.Ordered compareKeys items ∧
      (items.map Subtype.val).Perm keys

theorem holds_nil : Holds K {} [] :=
  ⟨[], rfl, .nil, .nil⟩

theorem Holds.add
    (untangled : Untangled K)
    {list : MayaquaList Storm}
    {keys : List StormKey}
    (holds : Holds K list keys)
    {k : StormKey}
    (ofK : K k) :
    Holds K (addStormList k list) (k :: keys) := by
  have := untangled.transCmp
  obtain ⟨items, rfl, ordered, perm⟩ := holds
  obtain ⟨ordered', perm'⟩ :=
    @MayaquaList.insert_ordered _ compareKeys _ ⟨items, true⟩ (fun _ => ordered) ⟨k, ofK⟩
  refine ⟨_, MayaquaList.insert_map (fun k : { k // K k } => k.val.storm) compareStormList items
    ⟨k, ofK⟩, ordered', ?_⟩
  exact (perm'.map Subtype.val).trans (perm.cons k)

theorem Holds.search
    {list : MayaquaList Storm}
    {keys : List StormKey}
    (holds : Holds K list keys)
    (k : StormKey) :
    (searchStormList k list).2 = list := by
  obtain ⟨items, rfl, _⟩ := holds
  rfl

theorem Holds.found
    {list : MayaquaList Storm}
    {keys : List StormKey}
    (holds : Holds K list keys)
    {k : StormKey}
    {s : Storm}
    (found : (searchStormList k list).1 = some s) :
    (∃ added ∈ keys, added.storm = s) ∧ compareStormList k.storm s = .eq := by
  obtain ⟨listed, equal⟩ := MayaquaList.search_sound found
  obtain ⟨items, rfl, _, perm⟩ := holds
  obtain ⟨item, inItems, rfl⟩ := List.mem_map.mp listed
  exact ⟨⟨item.val, perm.mem_iff.mp (List.mem_map_of_mem inItems), rfl⟩, equal⟩

theorem Holds.isSome_iff
    (untangled : Untangled K)
    {list : MayaquaList Storm}
    {keys : List StormKey}
    (holds : Holds K list keys)
    {k : StormKey}
    (ofK : K k) :
    (searchStormList k list).1.isSome = true ↔
      ∃ added ∈ keys, compareStormList k.storm added.storm = .eq := by
  constructor
  · intro isSome
    obtain ⟨s, found⟩ := Option.isSome_iff_exists.mp isSome
    obtain ⟨⟨added, listed, rfl⟩, equal⟩ := holds.found found
    exact ⟨added, listed, equal⟩
  · rintro ⟨added, listed, equal⟩
    have := untangled.transCmp
    obtain ⟨items, rfl, ordered, perm⟩ := holds
    obtain ⟨item, inItems, rfl⟩ := List.mem_map.mp (perm.mem_iff.mpr listed)
    have found := @MayaquaList.search_complete _ compareKeys _ items ⟨k, ofK⟩ item ordered inItems
      equal
    have same := MayaquaList.search_map (fun k : { k // K k } => k.val.storm) compareStormList items
      ⟨k, ofK⟩
    rw [searchStormList, same, Option.isSome_map]
    exact found

/-! ## Runs -/

theorem holds_stormList
    (untangled : Untangled K)
    {calls : List StormCall}
    (ofK : ∀ call ∈ calls, K call.key) :
    Holds K (stormList calls) (calls.filterMap StormCall.added).reverse := by
  induction calls using List.reverseRecOn with
  | nil => exact holds_nil
  | append_singleton calls call inductionHypothesis =>
      have before := inductionHypothesis fun call listed => ofK call (List.mem_append_left _ listed)
      have last := ofK call (by simp)
      rw [stormList, List.foldl_append, List.filterMap_append]
      cases call with
      | add k =>
          rw [List.reverse_append]
          exact before.add untangled last
      | search k =>
          simp only [List.filterMap_cons, List.filterMap_nil, StormCall.added, List.append_nil,
            List.foldl_cons, List.foldl_nil, StormCall.step]
          rwa [← stormList, before.search k]

theorem holds_broadcast
    (untangled : Untangled K)
    {keys : List StormKey}
    (ofK : ∀ k ∈ keys, K k) :
    ∃ added, Holds K (keys.foldl broadcast {}) added ∧
      added.Pairwise fun k1 k2 => compareStormList k1.storm k2.storm ≠ .eq := by
  induction keys using List.reverseRecOn with
  | nil => exact ⟨[], holds_nil, .nil⟩
  | append_singleton keys k inductionHypothesis =>
      obtain ⟨added, holds, distinct⟩ := inductionHypothesis fun k listed =>
        ofK k (List.mem_append_left _ listed)
      have last := ofK k (by simp)
      have same := holds.search k
      have complete := holds.isSome_iff untangled last
      rw [List.foldl_append, List.foldl_cons, List.foldl_nil]
      generalize keys.foldl broadcast {} = list at *
      unfold broadcast
      generalize searchStormList k list = result at same complete ⊢
      obtain ⟨found, after⟩ := result
      obtain rfl : after = list := same
      cases found with
      | some s => exact ⟨added, holds, distinct⟩
      | none =>
          refine ⟨k :: added, holds.add untangled last, List.pairwise_cons.mpr ⟨?_, distinct⟩⟩
          intro other listed equal
          cases complete.mpr ⟨other, listed, equal⟩

/-- The searches of a packet adapter whose keys are some keys are right. -/
structure Reliable (K : StormKey → Prop) : Prop where
  total :
    ∀ k1 k2, K k1 → K k2 → (compareStormList k1.storm k2.storm).isLE = true ∨
      (compareStormList k2.storm k1.storm).isLE = true
  transitive :
    ∀ k1 k2 k3, K k1 → K k2 → K k3 → (compareStormList k1.storm k2.storm).isLE = true →
      (compareStormList k2.storm k3.storm).isLE = true →
        (compareStormList k1.storm k3.storm).isLE = true
  isSome_iff :
    ∀ calls : List StormCall, (∀ call ∈ calls, K call.key) → ∀ k, K k →
      ((searchStormList k (stormList calls)).1.isSome = true ↔
        ∃ added ∈ calls.filterMap StormCall.added,
          compareStormList k.storm added.storm = .eq)
  found :
    ∀ calls : List StormCall, (∀ call ∈ calls, K call.key) → ∀ k s,
      (searchStormList k (stormList calls)).1 = some s →
        (∃ added ∈ calls.filterMap StormCall.added, added.storm = s) ∧
          compareStormList k.storm s = .eq
  /-- No equal records are in the list when only what is not found is added. -/
  distinct :
    ∀ keys : List StormKey, (∀ k ∈ keys, K k) →
      (keys.foldl broadcast {}).items.Pairwise fun s1 s2 => compareStormList s1 s2 ≠ .eq

end

/-- The searches are right if and only if no three keys are tangled. -/
theorem reliable_iff (K : StormKey → Prop) : Reliable K ↔ Untangled K := by
  constructor
  · intro reliable x y z ofX ofY ofZ
    refine not_tangled compatible ?_
    rw [← compareStormList_eq]
    intro a inA b inB c inC
    obtain ⟨a, ofA, rfl⟩ := exists_key ofX ofY ofZ inA
    obtain ⟨b, ofB, rfl⟩ := exists_key ofX ofY ofZ inB
    obtain ⟨c, ofC, rfl⟩ := exists_key ofX ofY ofZ inC
    exact reliable.transitive a b c ofA ofB ofC
  · intro untangled
    have order := untangled.transCmp
    refine ⟨fun k1 k2 _ _ => ?_, fun k1 k2 k3 of1 of2 of3 first second => ?_,
      fun calls ofK k isK => ?_, fun calls ofK k s searched => ?_, fun keys ofK => ?_⟩
    · rw [compareStormList_swap k2.storm]
      cases compareStormList k1.storm k2.storm <;> simp
    · exact order.isLE_trans (a := ⟨k1, of1⟩) (b := ⟨k2, of2⟩) (c := ⟨k3, of3⟩) first second
    · rw [(holds_stormList untangled ofK).isSome_iff untangled isK]
      simp only [List.mem_reverse]
    · simpa only [List.mem_reverse] using (holds_stormList untangled ofK).found searched
    · obtain ⟨added, ⟨items, is, _, perm⟩, distinct⟩ := holds_broadcast untangled ofK
      have symmetric {k1 k2 : StormKey} (different : compareStormList k1.storm k2.storm ≠ .eq) :
          compareStormList k2.storm k1.storm ≠ .eq := by
        rw [compareStormList_swap]
        cases compared : compareStormList k1.storm k2.storm <;> simp_all
      have pairwise := (perm.pairwise_iff symmetric).mpr distinct
      rw [is]
      rw [List.pairwise_map] at pairwise ⊢
      exact pairwise

/-! ## Without the strict mode -/

/-! ## A strict record that is not found -/

/-- A key of the strict mode, with two addresses and always the same MAC address. -/
def strictKey (srcIp destIp : UInt32) : StormKey where
  macAddress := ⟨List.replicate 6 0, length_zeros6⟩
  srcIp := uintToIP srcIp
  destIp := uintToIP destIp
  strict := true

/-- The first record has the same source and MAC address, but the bisection goes to the other side
of the second one. -/
theorem searchStormList_misses :
    (searchStormList (strictKey 1 3) (stormList [.add (strictKey 1 1), .add (strictKey 2 2)])).1 =
        none ∧
      compareStormList (strictKey 1 3).storm (strictKey 1 1).storm = .eq := by
  decide

theorem not_reliable : ¬Reliable fun _ => True := by
  intro reliable
  obtain ⟨missed, equal⟩ := searchStormList_misses
  have found := (reliable.isSome_iff [.add (strictKey 1 1), .add (strictKey 2 2)]
    (fun _ _ => trivial) (strictKey 1 3) trivial).mpr ⟨strictKey 1 1, by simp [StormCall.added], equal⟩
  rw [missed] at found
  cases found

end VirtualHub
end SoftEther
