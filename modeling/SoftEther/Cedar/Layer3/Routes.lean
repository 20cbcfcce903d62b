import SoftEther.Cedar.Layer3.Defs

/-!
# Routes

`L3GetBestRoute` goes once through the routing table with the largest mask and the smallest
metric so far.  The metric is not forgotten when a longer mask is found, so the found route is
the best one exactly when no shorter route on the way has a smaller metric.
-/

namespace SoftEther
namespace Layer3

/-- The comparison of `L3GetBestRoute`. -/
def L3Table.contains (t : L3Table) (ip : UInt32) : Bool :=
  t.networkAddress &&& t.subnetMask = ip &&& t.subnetMask

/-- The local variables of `L3GetBestRoute`. -/
structure BestRoute where
  maxMask : UInt32 := 0
  minMetric : UInt32 := 0xffffffff
  ret : Option L3Table := none

/-- The body of the loop of `L3GetBestRoute`. -/
def bestRouteLoop (ip : UInt32) (best : BestRoute) (t : L3Table) : BestRoute :=
  if t.contains ip then
    if best.maxMask ≤ t.subnetMask then
      if t.metric ≤ best.minMetric then ⟨t.subnetMask, t.metric, some t⟩
      else { best with maxMask := t.subnetMask }
    else best
  else best

/-- `L3GetBestRoute`, on the items of `TableList`. -/
def l3GetBestRoute (tableList : List L3Table) (ip : UInt32) : Option L3Table :=
  if ip = 0 then none
  else (tableList.foldl (bestRouteLoop ip) {}).ret

/-- The address lies in the subnet of an interface. -/
def L3If.inSubnet (f : L3If) (ip : UInt32) : Bool :=
  f.ipAddress &&& f.subnetMask = ip &&& f.subnetMask

/-- `L3GetNextIf`: the position of the interface in `IfList`, and the next hop. -/
def l3GetNextIf (s : L3Sw) (ip : UInt32) : Option (Nat × UInt32) :=
  if ip = 0 ∨ ip = allOnes then none
  else
    match s.ifList.items.findIdx? fun f => f.inSubnet ip with
    | some f => some (f, ip)
    | none =>
        match l3GetBestRoute s.tableList.items ip with
        | none => none
        | some t =>
            (s.ifList.items.findIdx? fun f => f.inSubnet t.gatewayAddress).map fun f =>
              (f, t.gatewayAddress)

/-- The contiguous mask with so many leading ones, as it lies in memory. -/
def subnetMaskOf (length : Nat) : UInt32 :=
  UInt32.ofNat (Endian32 (2 ^ 32 - 2 ^ (32 - length)))

def Contiguous (mask : UInt32) : Prop :=
  ∃ length ≤ 32, mask = subnetMaskOf length

def maskLength (mask : UInt32) : Nat :=
  (List.range 32).countP fun bit => mask.toNat.testBit bit

theorem maskLength_subnetMaskOf : ∀ length ≤ 32, maskLength (subnetMaskOf length) = length := by
  decide +kernel

theorem subnetMaskOf_le_iff :
    ∀ shorter ≤ 32, ∀ longer ≤ 32,
      subnetMaskOf shorter ≤ subnetMaskOf longer ↔ shorter ≤ longer := by
  decide +kernel

theorem Contiguous.le_iff
    {mask other : UInt32}
    (contiguous : Contiguous mask)
    (otherContiguous : Contiguous other) :
    mask ≤ other ↔ maskLength mask ≤ maskLength other := by
  obtain ⟨length, small, rfl⟩ := contiguous
  obtain ⟨otherLength, otherSmall, rfl⟩ := otherContiguous
  rw [maskLength_subnetMaskOf length small, maskLength_subnetMaskOf otherLength otherSmall]
  exact subnetMaskOf_le_iff length small otherLength otherSmall

section

variable (tableList : List L3Table)
variable (ip : UInt32)

/-- A route with a longest mask among those that contain the address. -/
structure IsLongest (t : L3Table) : Prop where
  listed : t ∈ tableList
  contains : t.contains ip
  longest : ∀ other ∈ tableList, other.contains ip →
    maskLength other.subnetMask ≤ maskLength t.subnetMask

/-- What a search for a route should find: a route with the longest mask, and with the smallest
metric among those with that mask. -/
def IsBestRoute : Option L3Table → Prop
  | none => ∀ t ∈ tableList, ¬t.contains ip
  | some t =>
      IsLongest tableList ip t ∧
        ∀ other ∈ tableList, other.contains ip → other.subnetMask = t.subnetMask →
          t.metric ≤ other.metric

/-- A route that contains the address and is as long as all such routes before it. -/
def OnTheWay (t : L3Table) : Prop :=
  ∃ before after, tableList = before ++ t :: after ∧ t.contains ip ∧
    ∀ earlier ∈ before, earlier.contains ip →
      maskLength earlier.subnetMask ≤ maskLength t.subnetMask

/-- No route on the way to the longest one has a smaller metric than the longest ones. -/
def NoCheaperOnTheWay : Prop :=
  ∀ t, OnTheWay tableList ip t → ∃ best, IsLongest tableList ip best ∧ best.metric ≤ t.metric

end

/-! ## The loop -/

variable {tableList passed : List L3Table}
variable {ip : UInt32}
variable {best : BestRoute}
variable {t : L3Table}

theorem onTheWay_append_iff
    {other : L3Table} :
    OnTheWay (passed ++ [t]) ip other ↔
      OnTheWay passed ip other ∨
        (other = t ∧ t.contains ip ∧ ∀ earlier ∈ passed, earlier.contains ip →
          maskLength earlier.subnetMask ≤ maskLength t.subnetMask) := by
  constructor
  · rintro ⟨before, after, split, contains, longest⟩
    obtain rfl | ⟨after, last, rfl⟩ := List.eq_nil_or_concat after
    · obtain ⟨rfl, same⟩ := List.append_inj' split rfl
      injection same with same
      subst same
      exact .inr ⟨rfl, contains, longest⟩
    · rw [List.concat_eq_append, ← List.cons_append, ← List.append_assoc] at split
      obtain ⟨rfl, _⟩ := List.append_inj' split rfl
      exact .inl ⟨before, after, rfl, contains, longest⟩
  · rintro (⟨before, after, rfl, contains, longest⟩ | ⟨rfl, contains, longest⟩)
    · exact ⟨before, after ++ [t], by simp, contains, longest⟩
    · exact ⟨passed, [], rfl, contains, longest⟩

/-- What the local variables say about the routes that the loop has passed. -/
structure BestRoute.Sound (ip : UInt32) (passed : List L3Table) (best : BestRoute) : Prop where
  contiguous : Contiguous best.maxMask
  longest : ∀ t ∈ passed, t.contains ip → maskLength t.subnetMask ≤ maskLength best.maxMask
  cheapest : ∀ t, OnTheWay passed ip t → best.minMetric ≤ t.metric
  nothing : best.ret = none →
    best.maxMask = 0 ∧ best.minMetric = 0xffffffff ∧ ∀ t ∈ passed, ¬t.contains ip
  attained : ∀ r, best.ret = some r → ∃ t ∈ passed, t.contains ip ∧
    maskLength t.subnetMask = maskLength best.maxMask
  found : ∀ r, best.ret = some r → OnTheWay passed ip r ∧ r.metric = best.minMetric ∧
    ∀ t ∈ passed, t.contains ip → maskLength t.subnetMask = maskLength best.maxMask →
      t.metric ≤ best.minMetric → maskLength r.subnetMask = maskLength best.maxMask

theorem BestRoute.sound_initial (ip : UInt32) : BestRoute.Sound ip [] {} where
  contiguous := ⟨0, by decide, by decide⟩
  longest := by simp
  cheapest := by
    rintro t ⟨before, after, split, _⟩
    simp at split
  nothing := by simp
  attained := by simp
  found := by simp

theorem BestRoute.Sound.skip
    (sound : best.Sound ip passed)
    (outside : ¬t.contains ip) :
    best.Sound ip (passed ++ [t]) := by
  have inside : ∀ other ∈ passed ++ [t], other.contains ip → other ∈ passed := by
    intro other listed contains
    obtain listed | last := List.mem_append.mp listed
    · exact listed
    · rw [List.mem_singleton.mp last] at contains
      exact absurd contains outside
  refine
    { contiguous := sound.contiguous
      longest := fun other listed contains =>
        sound.longest other (inside other listed contains) contains
      cheapest := ?_
      nothing := ?_
      attained := ?_
      found := ?_ }
  · intro other onTheWay
    obtain before | ⟨_, contains, _⟩ := onTheWay_append_iff.mp onTheWay
    · exact sound.cheapest other before
    · exact absurd contains outside
  · intro none
    obtain ⟨mask, metric, nothing⟩ := sound.nothing none
    refine ⟨mask, metric, fun other listed contains => ?_⟩
    exact nothing other (inside other listed contains) contains
  · intro r found
    obtain ⟨other, listed, attained⟩ := sound.attained r found
    exact ⟨other, List.mem_append_left _ listed, attained⟩
  · intro r found
    obtain ⟨onTheWay, metric, longest⟩ := sound.found r found
    refine ⟨onTheWay_append_iff.mpr (.inl onTheWay), metric, fun other listed contains => ?_⟩
    exact longest other (inside other listed contains) contains

theorem BestRoute.Sound.shorter
    (sound : best.Sound ip passed)
    (contiguous : Contiguous t.subnetMask)
    (shorter : ¬best.maxMask ≤ t.subnetMask) :
    best.Sound ip (passed ++ [t]) := by
  have less : maskLength t.subnetMask < maskLength best.maxMask := by
    rw [sound.contiguous.le_iff contiguous] at shorter
    exact Nat.lt_of_not_le shorter
  obtain ⟨r, found⟩ : ∃ r, best.ret = some r := by
    cases found : best.ret with
    | none =>
        rw [(sound.nothing found).1] at shorter
        exact absurd t.subnetMask.zero_le shorter
    | some r => exact ⟨r, rfl⟩
  obtain ⟨longer, inPassed, containsLonger, maximal⟩ := sound.attained r found
  refine
    { contiguous := sound.contiguous
      longest := ?_
      cheapest := ?_
      nothing := fun none => nomatch found.symm.trans none
      attained := ?_
      found := ?_ }
  · intro other listed contains
    obtain listed | last := List.mem_append.mp listed
    · exact sound.longest other listed contains
    · rw [List.mem_singleton.mp last]
      exact Nat.le_of_lt less
  · intro other onTheWay
    obtain before | ⟨rfl, _, longest⟩ := onTheWay_append_iff.mp onTheWay
    · exact sound.cheapest other before
    · have bound := longest longer inPassed containsLonger
      omega
  · intro r _
    exact ⟨longer, List.mem_append_left _ inPassed, containsLonger, maximal⟩
  · intro r found
    obtain ⟨onTheWay, metric, longest⟩ := sound.found r found
    refine ⟨onTheWay_append_iff.mpr (.inl onTheWay), metric, ?_⟩
    intro other listed contains same
    obtain listed | last := List.mem_append.mp listed
    · exact longest other listed contains same
    · rw [List.mem_singleton.mp last] at same
      omega

theorem BestRoute.Sound.onTheWay
    (sound : best.Sound ip passed)
    (contains : t.contains ip)
    (longer : maskLength best.maxMask ≤ maskLength t.subnetMask) :
    OnTheWay (passed ++ [t]) ip t :=
  onTheWay_append_iff.mpr (.inr ⟨rfl, contains, fun earlier listed earlierContains =>
    Nat.le_trans (sound.longest earlier listed earlierContains) longer⟩)

theorem BestRoute.Sound.longest_append
    (sound : best.Sound ip passed)
    (longer : maskLength best.maxMask ≤ maskLength t.subnetMask) :
    ∀ other ∈ passed ++ [t], other.contains ip →
      maskLength other.subnetMask ≤ maskLength t.subnetMask := by
  intro other listed contains
  obtain listed | last := List.mem_append.mp listed
  · exact Nat.le_trans (sound.longest other listed contains) longer
  · rw [List.mem_singleton.mp last]

theorem BestRoute.Sound.better
    (sound : best.Sound ip passed)
    (contiguous : Contiguous t.subnetMask)
    (contains : t.contains ip)
    (longer : best.maxMask ≤ t.subnetMask)
    (cheaper : t.metric ≤ best.minMetric) :
    BestRoute.Sound ip (passed ++ [t]) ⟨t.subnetMask, t.metric, some t⟩ := by
  rw [sound.contiguous.le_iff contiguous] at longer
  have listed : t ∈ passed ++ [t] := List.mem_append_right _ List.mem_cons_self
  refine
    { contiguous := contiguous
      longest := sound.longest_append longer
      cheapest := ?_
      nothing := nofun
      attained := fun _ _ => ⟨t, listed, contains, rfl⟩
      found := ?_ }
  · intro other onTheWay
    obtain before | ⟨rfl, _⟩ := onTheWay_append_iff.mp onTheWay
    · exact UInt32.le_trans cheaper (sound.cheapest other before)
    · exact UInt32.le_refl _
  · intro r found
    injection found with same
    subst same
    exact ⟨sound.onTheWay contains longer, rfl, fun _ _ _ _ _ => rfl⟩

theorem BestRoute.Sound.dearer
    (sound : best.Sound ip passed)
    (contiguous : Contiguous t.subnetMask)
    (contains : t.contains ip)
    (longer : best.maxMask ≤ t.subnetMask)
    (dearer : ¬t.metric ≤ best.minMetric) :
    BestRoute.Sound ip (passed ++ [t]) { best with maxMask := t.subnetMask } := by
  rw [sound.contiguous.le_iff contiguous] at longer
  have listed : t ∈ passed ++ [t] := List.mem_append_right _ List.mem_cons_self
  refine
    { contiguous := contiguous
      longest := sound.longest_append longer
      cheapest := ?_
      nothing := ?_
      attained := fun _ _ => ⟨t, listed, contains, rfl⟩
      found := ?_ }
  · intro other onTheWay
    obtain before | ⟨rfl, _⟩ := onTheWay_append_iff.mp onTheWay
    · exact sound.cheapest other before
    · exact UInt32.le_of_lt (UInt32.not_le.mp dearer)
  · intro none
    rw [(sound.nothing none).2.1] at dearer
    exact absurd (UInt32.le_iff_toNat_le.mpr (Nat.le_of_lt_succ t.metric.toNat_lt)) dearer
  · intro r found
    obtain ⟨onTheWay, metric, longest⟩ := sound.found r found
    refine ⟨onTheWay_append_iff.mpr (.inl onTheWay), metric, ?_⟩
    intro other otherListed otherContains same cheap
    dsimp only at same cheap ⊢
    obtain inPassed | last := List.mem_append.mp otherListed
    · have bound := sound.longest other inPassed otherContains
      have shared : maskLength best.maxMask = maskLength t.subnetMask := by omega
      rw [← shared]
      exact longest other inPassed otherContains (same.trans shared.symm) cheap
    · rw [List.mem_singleton.mp last] at cheap
      exact absurd cheap dearer

theorem BestRoute.Sound.step
    (sound : best.Sound ip passed)
    (contiguous : Contiguous t.subnetMask) :
    (bestRouteLoop ip best t).Sound ip (passed ++ [t]) := by
  unfold bestRouteLoop
  split
  case isTrue contains =>
    split
    case isTrue longer =>
      split
      case isTrue cheaper => exact sound.better contiguous contains longer cheaper
      case isFalse dearer => exact sound.dearer contiguous contains longer dearer
    case isFalse shorter => exact sound.shorter contiguous shorter
  case isFalse outside => exact sound.skip outside

theorem BestRoute.sound_foldl
    (contiguous : ∀ t ∈ tableList, Contiguous t.subnetMask)
    (ip : UInt32) :
    (tableList.foldl (bestRouteLoop ip) {}).Sound ip tableList := by
  induction tableList using List.reverseRecOn with
  | nil => exact sound_initial ip
  | append_singleton passed t inductionHypothesis =>
      rw [List.foldl_append]
      refine (inductionHypothesis fun other listed => ?_).step ?_
      · exact contiguous other (List.mem_append_left _ listed)
      · exact contiguous t (List.mem_append_right _ List.mem_cons_self)

theorem BestRoute.Sound.isBestRoute_iff
    (sound : best.Sound ip tableList) :
    IsBestRoute tableList ip best.ret ↔ NoCheaperOnTheWay tableList ip := by
  cases found : best.ret with
  | none =>
      obtain ⟨_, _, nothing⟩ := sound.nothing found
      refine iff_of_true nothing ?_
      rintro t ⟨before, after, rfl, contains, _⟩
      exact absurd contains (nothing t (by simp))
  | some r =>
      obtain ⟨onTheWay, metric, longest⟩ := sound.found r found
      constructor
      · rintro ⟨isLongest, _⟩ t tOnTheWay
        exact ⟨r, isLongest, metric ▸ sound.cheapest t tOnTheWay⟩
      · intro noCheaper
        obtain ⟨winner, wins, cheap⟩ := noCheaper r onTheWay
        obtain ⟨other, listed, contains, maximal⟩ := sound.attained r found
        have upper := sound.longest winner wins.listed wins.contains
        have lower := wins.longest other listed contains
        have rLongest : maskLength r.subnetMask = maskLength best.maxMask :=
          longest winner wins.listed wins.contains (by omega) (metric ▸ cheap)
        obtain ⟨before, after, rfl, rContains, _⟩ := onTheWay
        have rMaximal : IsLongest (before ++ r :: after) ip r :=
          { listed := by simp
            contains := rContains
            longest := fun other listed contains => by
              rw [rLongest]
              exact sound.longest other listed contains }
        refine ⟨rMaximal, fun equal equalListed equalContains sameMask => ?_⟩
        obtain ⟨front, back, split⟩ := List.append_of_mem equalListed
        rw [metric]
        refine sound.cheapest equal ⟨front, back, split, equalContains, ?_⟩
        intro earlier earlierListed earlierContains
        rw [sameMask]
        exact rMaximal.longest earlier (by simp [split, earlierListed]) earlierContains

/-- The search finds the best route exactly when no route on the way to it is cheaper, and an
address that is zero has no route. -/
theorem l3GetBestRoute_isBestRoute_iff
    (contiguous : ∀ t ∈ tableList, Contiguous t.subnetMask)
    (ip : UInt32) :
    IsBestRoute tableList ip (l3GetBestRoute tableList ip) ↔
      (ip = 0 → ∀ t ∈ tableList, ¬t.contains ip) ∧ NoCheaperOnTheWay tableList ip := by
  unfold l3GetBestRoute
  by_cases zero : ip = 0
  · rw [if_pos zero]
    constructor
    · intro nothing
      refine ⟨fun _ => nothing, ?_⟩
      rintro t ⟨before, after, rfl, contains, _⟩
      exact absurd contains (nothing t (by simp))
    · rintro ⟨nothing, _⟩
      exact nothing zero
  · rw [if_neg zero, (BestRoute.sound_foldl contiguous ip).isBestRoute_iff]
    exact (and_iff_right fun same => absurd same zero).symm

/-- A route to `10.0.0.0/8`, by `192.168.1.1`. -/
def shortRoute (metric : UInt32) : L3Table :=
  ⟨0x0000000a, 0x000000ff, 0x0101a8c0, metric⟩

/-- A route to `10.1.0.0/16`, by `192.168.1.2`. -/
def longRoute (metric : UInt32) : L3Table :=
  ⟨0x0000010a, 0x0000ffff, 0x0201a8c0, metric⟩

theorem contiguous_routes
    (metric otherMetric : UInt32) :
    ∀ t ∈ [shortRoute metric, longRoute otherMetric], Contiguous t.subnetMask := by
  intro t listed
  obtain rfl | rfl : t = shortRoute metric ∨ t = longRoute otherMetric := by
    simpa using listed
  · have short : (0x000000ff : UInt32) = subnetMaskOf 8 := by decide
    exact ⟨8, by decide, short⟩
  · have long : (0x0000ffff : UInt32) = subnetMaskOf 16 := by decide
    exact ⟨16, by decide, long⟩

/-- With a larger metric for the shorter route the longer one is found for `10.1.2.3`. -/
theorem l3GetBestRoute_isBestRoute_longRoute :
    l3GetBestRoute [shortRoute 5, longRoute 1] 0x0302010a = some (longRoute 1) ∧
      NoCheaperOnTheWay [shortRoute 5, longRoute 1] 0x0302010a := by
  have found : l3GetBestRoute [shortRoute 5, longRoute 1] 0x0302010a = some (longRoute 1) := by
    decide
  refine ⟨found, ((l3GetBestRoute_isBestRoute_iff (contiguous_routes 5 1) 0x0302010a).mp ?_).2⟩
  rw [found]
  refine ⟨⟨by decide, by decide, by decide⟩, by decide⟩

/-- With a smaller metric for the shorter route that one is found for `10.1.2.3`. -/
theorem not_isBestRoute_shortRoute :
    ¬∀ tableList : List L3Table, (∀ t ∈ tableList, Contiguous t.subnetMask) →
      ∀ ip, IsBestRoute tableList ip (l3GetBestRoute tableList ip) := by
  intro holds
  have best := holds _ (contiguous_routes 1 5) 0x0302010a
  have found : l3GetBestRoute [shortRoute 1, longRoute 5] 0x0302010a = some (shortRoute 1) := by
    decide
  rw [found] at best
  exact absurd (best.1.longest (longRoute 5) (by decide) (by decide)) (by decide)

theorem inSubnet_of_l3GetNextIf
    {s : L3Sw}
    {found : Nat × UInt32}
    (searched : l3GetNextIf s ip = some found) :
    ∃ f, s.ifList.items[found.1]? = some f ∧ f.inSubnet found.2 := by
  have listed : ∀ {hop : UInt32} {place : Nat},
      (s.ifList.items.findIdx? fun f => f.inSubnet hop) = some place →
        ∃ f, s.ifList.items[place]? = some f ∧ f.inSubnet hop := by
    intro hop place found
    obtain ⟨inside, holds, _⟩ := List.findIdx?_eq_some_iff_getElem.mp found
    exact ⟨_, List.getElem?_eq_getElem inside, holds⟩
  unfold l3GetNextIf at searched
  split at searched
  case isTrue => exact nomatch searched
  case isFalse =>
    split at searched
    case h_1 place direct =>
      injection searched with same
      subst same
      exact listed direct
    case h_2 =>
      split at searched
      case h_1 => exact nomatch searched
      case h_2 t _ =>
        obtain ⟨place, byGateway, rfl⟩ := Option.map_eq_some_iff.mp searched
        exact listed byGateway

end Layer3
end SoftEther
