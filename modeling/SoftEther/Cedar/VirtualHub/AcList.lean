import Mathlib.Data.List.Find
import SoftEther.Mayaqua.KeyedList
import SoftEther.Mayaqua.Network

/-!
# The access control list of a hub

The list of addresses from which clients may or may not connect to a hub.  An entry is for
IPv4 or for IPv6 addresses; the list mixes both.
-/

namespace SoftEther
namespace VirtualHub

open Network

def MAX_HUB_ACS : Nat := 4096

structure AC where
  id : UInt32 := 0
  priority : UInt32
  deny : Bool
  masked : Bool
  ipAddress : Ip
  subnetMask : Ip
  deriving DecidableEq

/-- What `CmpAc` compares. -/
def AC.key (ac : AC) : UInt32 × Bool :=
  (ac.priority, ac.deny)

def cmpAc : UInt32 × Bool → UInt32 × Bool → Ordering :=
  compareLex (compareOn Prod.fst) (compareOn Prod.snd)

instance : Std.TransCmp cmpAc :=
  inferInstanceAs (Std.TransCmp (compareLex _ _))

/-- The list that `NewAcList` makes. -/
abbrev AcList := KeyedList AC.key cmpAc

/-- The body of the loop of `NormalizeAcList`. -/
def normalizeAc (i : Nat) (ac : AC) : AC :=
  { ac with
    ipAddress :=
      if isIP6 ac.ipAddress then { ac.ipAddress with ipv6ScopeId := 0 } else ac.ipAddress
    id := UInt32.ofNat (i + 1) }

theorem map_key_normalizeAc (items : List AC) :
    (items.mapIdx normalizeAc).map AC.key = items.map AC.key := by
  apply List.ext_getElem?
  intro place
  rw [List.getElem?_map, List.getElem?_map, List.getElem?_mapIdx, Option.map_map]
  rfl

def normalizeAcList (o : AcList) : AcList where
  items := o.items.mapIdx normalizeAc
  ordered := KeyedList.ordered_of_map_eq (map_key_normalizeAc o.items) o.ordered

def addAc (o : AcList) (ac : AC) : AcList :=
  if o.num < MAX_HUB_ACS then normalizeAcList (o.insert ac) else o

/-- `DelAc`: the list, and whether there was such an entry. -/
def delAc (o : AcList) (id : UInt32) : AcList × Bool :=
  if id = 0 then (o, false)
  else
    match o.items.find? fun ac => ac.id = id with
    | none => (o, false)
    | some ac => (normalizeAcList (o.delete ac), true)

def setAc (o : AcList) (id : UInt32) (ac : AC) : AcList :=
  if id = 0 then o
  else if (delAc o id).2 then addAc (delAc o id).1 ac
  else o

def zeroIP6 : Ip :=
  setIP6 ⟨List.replicate 16 0, length_zeros16⟩

theorem length_andBytes (a b : Ipv6Addr) :
    (List.zipWith (· &&& ·) a.val b.val).length = 16 := by
  rw [List.length_zipWith, a.property, b.property, Nat.min_self]

/-- The bytes of two IPv6 addresses combined. -/
def andBytes (a b : Ipv6Addr) : Ipv6Addr :=
  ⟨List.zipWith (· &&& ·) a.val b.val, length_andBytes a b⟩

def ipAnd6 (a b : Ip) : Ip :=
  if isIP6 a = false ∨ isIP6 b = false then zeroIP6
  else setIP6 (andBytes a.ipv6Addr b.ipv6Addr)

/-- `IsIpMaskedByAc`, with the flag `GSF_DISABLE_AC`. -/
def isIpMaskedByAc (disableAc : Bool) (ip : Ip) (ac : AC) : Bool :=
  if disableAc then false
  else if isIP6 ip = false then
    let uip := ipToUINT ip
    let net := ipToUINT ac.ipAddress
    let mask := ipToUINT ac.subnetMask
    if ac.masked = false then uip = net else uip &&& mask = net &&& mask
  else if ac.masked = false then cmpIpAddr ip ac.ipAddress = .eq
  else cmpIpAddr (ipAnd6 ip ac.subnetMask) (ipAnd6 ac.ipAddress ac.subnetMask) = .eq

def isIpDeniedByAcList (disableAc : Bool) (ip : Ip) (o : AcList) : Bool :=
  if disableAc then false
  else
    match o.items.find? (isIpMaskedByAc disableAc ip) with
    | some ac => ac.deny
    | none => false

/-- The address lies in the IPv4 subnet. -/
def inSubnet4 (net mask uip : UInt32) : Bool :=
  uip &&& mask = net &&& mask

def inSubnet6 (net mask address : Ipv6Addr) : Bool :=
  andBytes address mask = andBytes net mask

/-- The entry is for the IP version of the client, and its address or subnet covers the
client. -/
def AC.covers (ac : AC) (ip : Ip) : Bool :=
  if isIP6 ac.ipAddress ≠ isIP6 ip then false
  else if isIP6 ip then
    if ac.masked then inSubnet6 ac.ipAddress.ipv6Addr ac.subnetMask.ipv6Addr ip.ipv6Addr
    else ip.ipv6Addr = ac.ipAddress.ipv6Addr
  else if ac.masked then
    inSubnet4 (ipToUINT ac.ipAddress) (ipToUINT ac.subnetMask) (ipToUINT ip)
  else ipToUINT ip = ipToUINT ac.ipAddress

/-- An entry comes before another one, or has the same place. -/
def AC.le (ac other : AC) : Bool :=
  (cmpAc ac.key other.key).isLE

/-- The client is denied by the first entry that covers its address. -/
def Denied (items : List AC) (ip : Ip) : Prop :=
  ∃ ac ∈ items, ac.covers ip = true ∧ ac.deny = true ∧
    ∀ other ∈ items, other.covers ip = true → ac.le other = true

/-- The address and the mask of an entry are of the same version. -/
def AC.SameVersion (ac : AC) : Prop :=
  isIP6 ac.subnetMask = isIP6 ac.ipAddress

instance (ac : AC) : Decidable ac.SameVersion :=
  inferInstanceAs (Decidable (_ = _))

/-- The IPv4 addresses that contain the mark of IPv6: 223.255.255.255, 255.255.255.254 and
255.255.255.255. -/
def containsMarker (ip : Ip) : Bool :=
  inSubnet4 (ipToUINT zeroIP6) (ipToUINT zeroIP6) (ipToUINT ip)

/-- The entry is a subnet of the other IP version and compares as one that covers the client:
an IPv4 subnet for every IPv6 client, an IPv6 subnet for an IPv4 client whose address contains
the mark. -/
def AC.strays (ac : AC) (ip : Ip) : Bool :=
  isIP6 ac.ipAddress ≠ isIP6 ip ∧ ac.masked ∧ (isIP6 ip ∨ containsMarker ip)

section

variable {ip other : Ip}

theorem cmpIpAddr_eq_iff :
    cmpIpAddr ip other = .eq ↔ ip.addr = other.addr ∧ ip.ipv6Addr = other.ipv6Addr := by
  unfold cmpIpAddr compareBytes
  rw [cmpBytes_eq_iff ((addressPart ip).property.trans (addressPart other).property.symm)]
  constructor
  · intro same
    obtain ⟨first, second⟩ := List.append_inj same
      (ip.addr.property.trans other.addr.property.symm)
    exact ⟨Subtype.ext first, Subtype.ext second⟩
  · rintro ⟨first, second⟩
    exact congrArg₂ (· ++ ·) (congrArg Subtype.val first) (congrArg Subtype.val second)

theorem cmpIpAddr_setIP6 (a b : Ipv6Addr) : cmpIpAddr (setIP6 a) (setIP6 b) = .eq ↔ a = b := by
  rw [cmpIpAddr_eq_iff]
  exact ⟨fun same => same.2, fun same => ⟨rfl, same⟩⟩

theorem addr_of_isIP6 (isIpv6 : isIP6 ip = true) : ip.addr = markerOfIPv6 := by
  simpa [isIP6] using isIpv6

theorem addr_of_ipToUINT (same : ipToUINT ip = ipToUINT other) : ip.addr = other.addr := by
  have octets := congrArg bytesOfUINT same
  rwa [bytesOfUINT_ipToUINT, bytesOfUINT_ipToUINT] at octets

end

theorem isIpMaskedByAc_eq
    {ac : AC}
    (sameVersion : ac.masked = true → ac.SameVersion)
    (ip : Ip) :
    isIpMaskedByAc false ip ac = (ac.covers ip || ac.strays ip) := by
  unfold isIpMaskedByAc AC.covers AC.strays
  rw [if_neg Bool.false_ne_true]
  cases client : isIP6 ip with
  | false =>
      cases entry : isIP6 ac.ipAddress with
      | false =>
          cases ac.masked with
          | false => simp
          | true => simp [inSubnet4]
      | true =>
          have marked : ipToUINT ac.ipAddress = ipToUINT zeroIP6 := by
            unfold ipToUINT
            rw [addr_of_isIP6 entry]
            rfl
          cases masked : ac.masked with
          | false =>
              have different : ipToUINT ip ≠ ipToUINT ac.ipAddress := by
                intro same
                have sameAddr := addr_of_ipToUINT same
                rw [addr_of_isIP6 entry] at sameAddr
                simp [isIP6, sameAddr] at client
              simp [different]
          | true =>
              have markedMask : ipToUINT ac.subnetMask = ipToUINT zeroIP6 := by
                unfold ipToUINT
                rw [addr_of_isIP6 ((sameVersion masked).trans entry)]
                rfl
              simp [marked, markedMask, containsMarker, inSubnet4]
  | true =>
      cases entry : isIP6 ac.ipAddress with
      | false =>
          cases masked : ac.masked with
          | false =>
              have different : ¬cmpIpAddr ip ac.ipAddress = .eq := by
                intro same
                have sameAddr := (cmpIpAddr_eq_iff.mp same).1
                rw [addr_of_isIP6 client] at sameAddr
                simp [isIP6, ← sameAddr] at entry
              simp [different]
          | true =>
              have ipv4Mask : isIP6 ac.subnetMask = false := (sameVersion masked).trans entry
              have zero : cmpIpAddr (ipAnd6 ip ac.subnetMask)
                  (ipAnd6 ac.ipAddress ac.subnetMask) = .eq := by
                rw [ipAnd6, ipAnd6, if_pos (.inr ipv4Mask), if_pos (.inr ipv4Mask)]
                exact (cmpIpAddr_setIP6 _ _).mpr rfl
              simp [zero]
      | true =>
          have versions : ip.addr = ac.ipAddress.addr :=
            (addr_of_isIP6 client).trans (addr_of_isIP6 entry).symm
          cases masked : ac.masked with
          | false => simp [cmpIpAddr_eq_iff, versions]
          | true =>
              have ipv6Mask : isIP6 ac.subnetMask = true := (sameVersion masked).trans entry
              simp [ipAnd6, client, entry, ipv6Mask, cmpIpAddr_setIP6, inSubnet6]

/-! ## Lists that are reached -/

/-- A call that changes the list. -/
inductive AcCall where
  /-- `AddAc`. -/
  | add (ac : AC)
  /-- `SetAc`. -/
  | set (id : UInt32) (ac : AC)
  /-- `DelAc`. -/
  | del (id : UInt32)

def AcCall.apply (o : AcList) : AcCall → AcList
  | .add ac => addAc o ac
  | .set id ac => setAc o id ac
  | .del id => (delAc o id).1

def afterCalls (calls : List AcCall) : AcList :=
  calls.foldl AcCall.apply .empty

/-- The entry that a call brings in has an address and a mask of the same version. -/
def AcCall.SameVersion : AcCall → Prop
  | .add ac => ac.masked = true → ac.SameVersion
  | .set _ ac => ac.masked = true → ac.SameVersion
  | .del _ => True

/-- Every subnet of the list has an address and a mask of the same version. -/
def SameVersions (o : AcList) : Prop :=
  ∀ ac ∈ o.items, ac.masked = true → ac.SameVersion

variable {o : AcList}

theorem SameVersions.normalizeAcList
    (sameVersions : SameVersions o) :
    SameVersions (normalizeAcList o) := by
  intro ac listed masked
  obtain ⟨place, inside, rfl⟩ := List.mem_mapIdx.mp listed
  have version : ∀ ip : Ip,
      isIP6 (if isIP6 ip then { ip with ipv6ScopeId := 0 } else ip) = isIP6 ip := by
    intro ip
    split
    case isTrue => rfl
    case isFalse => rfl
  exact (sameVersions _ (List.getElem_mem inside) masked).trans (version _).symm

theorem SameVersions.delAc
    (sameVersions : SameVersions o)
    (id : UInt32) :
    SameVersions (delAc o id).1 := by
  unfold VirtualHub.delAc
  split
  case isTrue => exact sameVersions
  case isFalse =>
    split
    case h_1 => exact sameVersions
    case h_2 ac _ =>
      apply SameVersions.normalizeAcList
      exact fun other listed => sameVersions other (List.mem_of_mem_erase listed)

theorem SameVersions.addAc
    {ac : AC}
    (sameVersions : SameVersions o)
    (sameVersion : ac.masked = true → ac.SameVersion) :
    SameVersions (addAc o ac) := by
  unfold VirtualHub.addAc
  split
  case isTrue =>
    apply SameVersions.normalizeAcList
    intro other listed
    obtain rfl | kept := List.mem_cons.mp ((o.insert_perm ac).mem_iff.mp listed)
    · exact sameVersion
    · exact sameVersions other kept
  case isFalse => exact sameVersions

theorem SameVersions.apply
    {call : AcCall}
    (sameVersions : SameVersions o)
    (sameVersion : call.SameVersion) :
    SameVersions (call.apply o) := by
  cases call with
  | add ac => exact sameVersions.addAc sameVersion
  | del id => exact sameVersions.delAc id
  | set id ac =>
      unfold AcCall.apply setAc
      dsimp only
      split
      case isTrue => exact sameVersions
      case isFalse =>
        split
        case isTrue => exact (sameVersions.delAc id).addAc sameVersion
        case isFalse => exact sameVersions

theorem sameVersions_afterCalls
    {calls : List AcCall}
    (sameVersion : ∀ call ∈ calls, call.SameVersion) :
    SameVersions (afterCalls calls) := by
  have run : ∀ (calls : List AcCall) (o : AcList), SameVersions o →
      (∀ call ∈ calls, call.SameVersion) → SameVersions (calls.foldl AcCall.apply o) := by
    intro calls
    induction calls with
    | nil => exact fun o sameVersions _ => sameVersions
    | cons call rest inductionHypothesis =>
        intro o sameVersions each
        exact inductionHypothesis (call.apply o)
          (sameVersions.apply (each call List.mem_cons_self))
          fun later listed => each later (List.mem_cons_of_mem call listed)
  exact run calls .empty (fun ac listed => nomatch listed) sameVersion

/-! ## When the decision is right -/

/-- Entries with the same place in the order have the same verdict. -/
theorem deny_eq_of_le
    {ac other : AC}
    (before : ac.le other = true)
    (behind : other.le ac = true) :
    ac.deny = other.deny := by
  have same : cmpAc ac.key other.key = .eq := by
    unfold AC.le at before behind
    have swapped : cmpAc other.key ac.key = (cmpAc ac.key other.key).swap :=
      Std.OrientedCmp.eq_swap
    rw [swapped] at behind
    generalize cmpAc ac.key other.key = order at before behind
    cases order with
    | lt => exact absurd behind (by decide)
    | eq => rfl
    | gt => exact absurd before (by decide)
  have sameVerdict : compare ac.key.2 other.key.2 = .eq := (compareLex_eq_eq.mp same).2
  exact Std.LawfulEqCmp.eq_of_compare sameVerdict

/-- No entry that strays comes before all others that cover the client or stray, unless its
verdict is the one of the entries that cover the client. -/
def StraysAreHarmless (items : List AC) (ip : Ip) : Prop :=
  ∀ stray ∈ items, stray.strays ip = true →
    (∀ other ∈ items, (other.covers ip || other.strays ip) = true → stray.le other = true) →
      (stray.deny = true ↔ Denied items ip)

theorem isIpDeniedByAcList_eq
    (sameVersions : SameVersions o)
    (ip : Ip) :
    isIpDeniedByAcList false ip o =
      ((o.items.find? fun ac => ac.covers ip || ac.strays ip).map AC.deny).getD false := by
  have same : o.items.find? (isIpMaskedByAc false ip) =
      o.items.find? fun ac => ac.covers ip || ac.strays ip :=
    List.find?_congr fun ac listed => isIpMaskedByAc_eq (sameVersions ac listed) ip
  unfold isIpDeniedByAcList
  rw [if_neg Bool.false_ne_true, same]
  cases o.items.find? fun ac => ac.covers ip || ac.strays ip with
  | none => rfl
  | some ac => rfl

theorem denied_iff_of_first
    {ip : Ip}
    {first : AC}
    (listed : first ∈ o.items)
    (covers : first.covers ip = true)
    (least : ∀ other ∈ o.items, other.covers ip = true → first.le other = true) :
    Denied o.items ip ↔ first.deny = true := by
  constructor
  · rintro ⟨ac, present, covering, deny, before⟩
    rw [deny_eq_of_le (least ac present covering) (before first listed covers)]
    exact deny
  · exact fun deny => ⟨first, listed, covers, deny, least⟩

/-- The list decides about the client as its entries for the client's version say exactly when
no entry of the other version that strays decides otherwise. -/
theorem isIpDeniedByAcList_iff
    {calls : List AcCall}
    (sameVersion : ∀ call ∈ calls, call.SameVersion)
    (ip : Ip) :
    (isIpDeniedByAcList false ip (afterCalls calls) = true ↔
        Denied (afterCalls calls).items ip) ↔
      StraysAreHarmless (afterCalls calls).items ip := by
  have sameVersions := sameVersions_afterCalls sameVersion
  generalize afterCalls calls = o at sameVersions ⊢
  rw [isIpDeniedByAcList_eq sameVersions]
  cases searched : o.items.find? fun ac => ac.covers ip || ac.strays ip with
  | none =>
      have nothing := List.find?_eq_none.mp searched
      refine iff_of_true (iff_of_false Bool.false_ne_true ?_) ?_
      · rintro ⟨ac, listed, covers, _⟩
        exact nothing ac listed (by simp [covers])
      · intro stray listed strays _
        exact absurd (by simp [strays]) (nothing stray listed)
  | some first =>
      have listed := List.mem_of_find?_eq_some searched
      have holds := List.find?_some searched
      have least : ∀ other ∈ o.items, (other.covers ip || other.strays ip) = true →
          first.le other = true :=
        fun other present matching => KeyedList.find?_least searched present matching
      have verdict : ((some first).map AC.deny).getD false = first.deny := rfl
      rw [verdict]
      constructor
      · intro right stray present strays before
        rw [← right, deny_eq_of_le (before first listed holds)
          (least stray present (by simp [strays]))]
      · intro harmless
        cases covers : first.covers ip with
        | true =>
            exact (denied_iff_of_first listed covers fun other present covering =>
              least other present (by simp [covering])).symm
        | false =>
            exact harmless first listed (by simpa [covers] using holds) least

/-- An entry that denies the subnet `10.0.0.0/8`. -/
def exampleAc : AC where
  priority := 1
  deny := true
  masked := true
  ipAddress := uintToIP 0x0000000a
  subnetMask := uintToIP 0x000000ff

def exampleClient6 : Ip :=
  setIP6 ⟨List.replicate 16 1, List.length_replicate⟩

/-- The list with the entry denies an IPv4 client of the subnet, as it should. -/
theorem isIpDeniedByAcList_iff_subnet :
    isIpDeniedByAcList false (uintToIP 0x0500000a) (afterCalls [.add exampleAc]) = true ↔
      Denied (afterCalls [.add exampleAc]).items (uintToIP 0x0500000a) := by
  have harmless : ∀ stray ∈ (afterCalls [.add exampleAc]).items,
      stray.strays (uintToIP 0x0500000a) = false := by
    decide +kernel
  have sameVersion : ∀ call ∈ [AcCall.add exampleAc], call.SameVersion := by
    intro call listed
    obtain rfl := List.mem_singleton.mp listed
    exact fun _ => by decide +kernel
  refine (isIpDeniedByAcList_iff sameVersion (uintToIP 0x0500000a)).mpr ?_
  · intro stray listed strays
    rw [harmless stray listed] at strays
    exact absurd strays Bool.false_ne_true

/-- The list denies every IPv6 client. -/
theorem not_isIpDeniedByAcList_ipv6 :
    ¬∀ (calls : List AcCall) (ip : Ip), (∀ call ∈ calls, call.SameVersion) →
      (isIpDeniedByAcList false ip (afterCalls calls) = true ↔
        Denied (afterCalls calls).items ip) := by
  intro decides
  have sameVersion : ∀ call ∈ [AcCall.add exampleAc], call.SameVersion := by
    intro call listed
    obtain rfl := List.mem_singleton.mp listed
    exact fun _ => by decide +kernel
  obtain ⟨ac, listed, covers, _⟩ := (decides [.add exampleAc]
    exampleClient6 sameVersion).mp
      (by decide +kernel)
  have nothing : ∀ ac ∈ (afterCalls [.add exampleAc]).items,
      ac.covers exampleClient6 =
        false := by
    decide +kernel
  rw [nothing ac listed] at covers
  exact absurd covers Bool.false_ne_true

end VirtualHub
end SoftEther
