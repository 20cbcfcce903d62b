import Mathlib.Algebra.Order.BigOperators.Group.List
import Mathlib.Tactic.IntervalCases
import SoftEther.Cedar.InProc.Runs
import SoftEther.Mayaqua.Buf
import SoftEther.Mayaqua.Network

/-!
# Classless routes

The routes of a DHCP server: how `DhcpBuildClasslessRouteData` writes them into an option,
how `DhcpParseClasslessRouteData` reads them, and which of them `GetBestClasslessRoute`
takes for a destination.
-/

namespace SoftEther
namespace InProc

open Library Network TcpIp

/-! ## The code -/

def MAX_DHCP_CLASSLESS_ROUTE_ENTRIES : Nat := 64

/-- The switch of `IntToSubnetMask32`. -/
def subnetMasks : List UInt32 :=
  [0x00000000, 0x80000000, 0xC0000000, 0xE0000000, 0xF0000000, 0xF8000000, 0xFC000000,
    0xFE000000, 0xFF000000, 0xFF800000, 0xFFC00000, 0xFFE00000, 0xFFF00000, 0xFFF80000,
    0xFFFC0000, 0xFFFE0000, 0xFFFF0000, 0xFFFF8000, 0xFFFFC000, 0xFFFFE000, 0xFFFFF000,
    0xFFFFF800, 0xFFFFFC00, 0xFFFFFE00, 0xFFFFFF00, 0xFFFFFF80, 0xFFFFFFC0, 0xFFFFFFE0,
    0xFFFFFFF0, 0xFFFFFFF8, 0xFFFFFFFC, 0xFFFFFFFE, 0xFFFFFFFF]

/-- `IntToSubnetMask32`; the host is little-endian. -/
def intToSubnetMask32 (i : UInt32) : UInt32 :=
  UInt32.ofNat (Endian32 (subnetMasks.getD i.toNat 0xFFFFFFFF).toNat)

def intToSubnetMask4 (i : UInt32) : Ip :=
  uintToIP (intToSubnetMask32 i)

/-- The number of significant octets of a network. -/
def significantOctets (subnetMaskLen : UInt32) : Nat :=
  (subnetMaskLen.toNat + 7) / 8

/-- What `DhcpBuildClasslessRouteData` writes for an entry. -/
def buildClasslessRoute (r : DhcpClasslessRoute) : List UInt8 :=
  if r.exists_ ∧ r.subnetMaskLen ≤ 32 then
    UInt8.ofNat r.subnetMaskLen.toNat ::
      (r.network.addr.val.take (significantOctets r.subnetMaskLen) ++
        (bytesOfUINT (ipToUINT r.gateway)).val)
  else []

def dhcpBuildClasslessRouteData (t : DhcpClasslessRouteTable) : Option (List UInt8) :=
  if t.numExistingRoutes = 0 then none
  else some ((t.entries.take MAX_DHCP_CLASSLESS_ROUTE_ENTRIES).flatMap buildClasslessRoute)

/-- A `UINT` from the bytes at its address. -/
def uintOfBytes (bytes : List UInt8) : UInt32 :=
  UInt32.ofNat (bytes.foldr (fun byte value => byte.toNat + 256 * value) 0)

theorem length_zeroExtended (bytes : List UInt8) :
    ((bytes ++ List.replicate 4 0).take 4).length = 4 := by
  rw [List.length_take, List.length_append, List.length_replicate]
  omega

/-- An address of which these are the first octets, and zeros behind them. -/
def addressOf (octets : List UInt8) : Ip where
  addr := ⟨(octets ++ List.replicate 4 0).take 4, length_zeroExtended octets⟩

/-- One round of `DhcpParseClasslessRouteData` as far as it reads: the entry and what is
left, or nothing when the data are invalid. -/
def parseClasslessRoute : List UInt8 → Option (DhcpClasslessRoute × List UInt8)
  | [] => none
  | c :: b =>
      let subnetMaskLen := UInt32.ofNat c.toNat
      if 32 < subnetMaskLen then none
      else
        let dataLen := significantOctets subnetMaskLen
        if 4 < dataLen then none
        else
          let (tmp, read, b) := readBuf b dataLen
          if read ≠ dataLen then none
          else
            let (ip32, read, b) := readBuf b 4
            if read ≠ 4 then none
            else
              some
                ({ exists_ := true
                   network := addressOf tmp
                   subnetMask := intToSubnetMask4 subnetMaskLen
                   gateway := uintToIP (uintOfBytes ip32)
                   subnetMaskLen },
                b)

/-- The rest of that round: the entry is added unless it is there; nothing when the table is
full. -/
def addClasslessRoute (t : DhcpClasslessRouteTable) (r : DhcpClasslessRoute) :
    Option DhcpClasslessRouteTable :=
  if r ∈ t.entries then some t
  else if MAX_DHCP_CLASSLESS_ROUTE_ENTRIES ≤ t.numExistingRoutes.toNat then none
  else
    some
      { numExistingRoutes := t.numExistingRoutes + 1
        entries := t.entries.set t.numExistingRoutes.toNat r }

/-- The loop of `DhcpParseClasslessRouteData`, with the number of its rounds. -/
def parseClasslessRoutesLoop : Nat → DhcpClasslessRouteTable → List UInt8 →
    DhcpClasslessRouteTable
  | 0, t, _ => t
  | rounds + 1, t, b =>
      match parseClasslessRoute b with
      | none => t
      | some (r, rest) =>
          match addClasslessRoute t r with
          | none => t
          | some t => parseClasslessRoutesLoop rounds t rest

/-- `DhcpParseClasslessRouteData`; every round takes a byte or more. -/
def dhcpParseClasslessRouteData (t : DhcpClasslessRouteTable) (data : Option (List UInt8)) :
    DhcpClasslessRouteTable :=
  match data with
  | none => t
  | some data => parseClasslessRoutesLoop data.length t data

def zeroRoute : DhcpClasslessRoute where
  exists_ := false
  network := uintToIP 0
  subnetMask := uintToIP 0
  gateway := uintToIP 0
  subnetMaskLen := 0

def zeroRouteTable : DhcpClasslessRouteTable where
  numExistingRoutes := 0
  entries := List.replicate MAX_DHCP_CLASSLESS_ROUTE_ENTRIES zeroRoute

def DhcpClasslessRouteTable.routes (t : DhcpClasslessRouteTable) : List DhcpClasslessRoute :=
  t.entries.filter (·.exists_)

/-- The network of a route holds a destination: all of them are IPv4, and address and network
have the same bits under the mask. -/
def DhcpClasslessRoute.Contains (e : DhcpClasslessRoute) (ip : Ip) : Prop :=
  isIP6 e.network = false ∧ isIP6 e.subnetMask = false ∧
    ipToUINT ip &&& ipToUINT e.subnetMask = ipToUINT e.network &&& ipToUINT e.subnetMask

instance (e : DhcpClasslessRoute) (ip : Ip) : Decidable (e.Contains ip) :=
  inferInstanceAs (Decidable (_ ∧ _ ∧ _))

/-- The number of entries of a table is the number of its routes. -/
def DhcpClasslessRouteTable.Counted (t : DhcpClasslessRouteTable) : Prop :=
  t.numExistingRoutes.toNat = t.routes.length

theorem cmpIpAddr_uintToIP (a b : UInt32) :
    cmpIpAddr (uintToIP a) (uintToIP b) = .eq ↔ a = b := by
  constructor
  · intro equal
    have same := congrArg Subtype.val (Std.LawfulEqCmp.eq_of_compare equal)
    have front : (uintToIP a).addr.val = (uintToIP b).addr.val :=
      (List.append_inj same
        ((uintToIP a).addr.property.trans (uintToIP b).addr.property.symm)).1
    have number : ipToUINT (uintToIP a) = ipToUINT (uintToIP b) := by
      rw [ipToUINT, ipToUINT, front]
    rw [ipToUINT_uintToIP, ipToUINT_uintToIP] at number
    exact number
  · rintro rfl
    change compareBytes _ _ = _
    exact Std.ReflCmp.compare_self

theorem isInSameNetwork4_iff
    {ip : Ip}
    (ipv4 : isIP6 ip = false)
    (e : DhcpClasslessRoute) :
    isInSameNetwork4 ip e.network e.subnetMask = true ↔ e.Contains ip := by
  unfold isInSameNetwork4 DhcpClasslessRoute.Contains ipAnd4
  cases network : isIP6 e.network with
  | true => simp
  | false =>
      cases mask : isIP6 e.subnetMask with
      | true => simp
      | false =>
          rw [ipv4]
          simp [cmpIpAddr_uintToIP]

theorem leads_iff
    {t : DhcpClasslessRouteTable}
    (counted : t.Counted)
    {ip : Ip}
    (ipv4 : isIP6 ip = false)
    (e : DhcpClasslessRoute) :
    Leads t ip e ↔ e ∈ t.routes ∧ e.Contains ip := by
  constructor
  · intro leads
    exact ⟨List.mem_filter.mpr ⟨leads.listed, leads.exists_⟩,
      (isInSameNetwork4_iff ipv4 e).mp leads.covers⟩
  · rintro ⟨listed, contains⟩
    obtain ⟨among, exists_⟩ := List.mem_filter.mp listed
    refine ⟨?_, among, exists_, (isInSameNetwork4_iff ipv4 e).mpr contains⟩
    intro zero
    rw [DhcpClasslessRouteTable.Counted, zero] at counted
    have none_ := List.length_eq_zero_iff.mp counted.symm
    rw [none_] at listed
    cases listed

/-- `GetBestClasslessRoute` gives a route whose network holds the destination, with the longest
mask among these, and `NULL` exactly when there is none. -/
theorem getBestClasslessRoute_longest
    {t : DhcpClasslessRouteTable}
    {ip : Ip}
    (counted : t.Counted)
    (ipv4 : isIP6 ip = false) :
    (∀ e, getBestClasslessRoute t ip = some e →
      e ∈ t.routes ∧ e.Contains ip ∧
        ∀ other ∈ t.routes, other.Contains ip → other.subnetMaskLen ≤ e.subnetMaskLen) ∧
    (getBestClasslessRoute t ip = none ↔ ∀ e ∈ t.routes, ¬e.Contains ip) := by
  obtain ⟨best, nothing⟩ := getBestClasslessRoute_best t ip
  refine ⟨?_, ?_, ?_⟩
  · intro e found
    obtain ⟨leads, longest⟩ := best e found
    obtain ⟨listed, contains⟩ := (leads_iff counted ipv4 e).mp leads
    refine ⟨listed, contains, ?_⟩
    intro other otherListed otherContains
    exact longest other ((leads_iff counted ipv4 other).mpr ⟨otherListed, otherContains⟩)
  · intro found e listed contains
    exact nothing found e ((leads_iff counted ipv4 e).mpr ⟨listed, contains⟩)
  · intro none_
    cases found : getBestClasslessRoute t ip with
    | none => rfl
    | some e =>
        obtain ⟨listed, contains⟩ := (leads_iff counted ipv4 e).mp (best e found).1
        exact absurd contains (none_ e listed)

/-- A route as the code makes it: the mask is the one of its length, and network and gateway are
addresses of four octets. -/
structure DhcpClasslessRoute.Proper (r : DhcpClasslessRoute) : Prop where
  masked : r.subnetMaskLen ≤ 32
  subnetMask : r.subnetMask = intToSubnetMask4 r.subnetMaskLen
  network : r.network = { addr := r.network.addr }
  gateway : r.gateway = { addr := r.gateway.addr }

/-- The network that a route is for: the address with the bits behind the mask cleared. -/
def DhcpClasslessRoute.normalized (r : DhcpClasslessRoute) : UInt32 :=
  ipToUINT r.network &&& ipToUINT r.subnetMask

/-- A route with the octets of its network that are not significant cleared. -/
def DhcpClasslessRoute.truncated (r : DhcpClasslessRoute) : DhcpClasslessRoute :=
  { r with network := addressOf (r.network.addr.val.take (significantOctets r.subnetMaskLen)) }

theorem significantOctets_le
    {len : UInt32}
    (masked : len ≤ 32) :
    significantOctets len ≤ 4 := by
  have le : len.toNat ≤ 32 := masked
  unfold significantOctets
  omega

variable {r : DhcpClasslessRoute} {done : List DhcpClasslessRoute}

/-- A round reads the entry that was written, without the octets that are not significant. -/
theorem parseClasslessRoute_build
    (exists_ : r.exists_ = true)
    (proper : r.Proper)
    (rest : List UInt8) :
    parseClasslessRoute (buildClasslessRoute r ++ rest) = some (r.truncated, rest) := by
  have few := significantOctets_le proper.masked
  have masked : r.subnetMaskLen.toNat ≤ 32 := proper.masked
  have written : buildClasslessRoute r =
      UInt8.ofNat r.subnetMaskLen.toNat ::
        (r.network.addr.val.take (significantOctets r.subnetMaskLen) ++ r.gateway.addr.val) := by
    rw [buildClasslessRoute, if_pos ⟨exists_, proper.masked⟩, bytesOfUINT_ipToUINT]
  have len : UInt32.ofNat (UInt8.ofNat r.subnetMaskLen.toNat).toNat = r.subnetMaskLen := by
    rw [UInt8.toNat_ofNat', Nat.mod_eq_of_lt (by omega), UInt32.ofNat_toNat]
  have octets : (r.network.addr.val.take (significantOctets r.subnetMaskLen)).length =
      significantOctets r.subnetMaskLen := by
    rw [List.length_take, r.network.addr.property]
    omega
  have first := readBuf_append (r.network.addr.val.take (significantOctets r.subnetMaskLen))
    (r.gateway.addr.val ++ rest)
  have second := readBuf_append r.gateway.addr.val rest
  have number : uintToIP (uintOfBytes r.gateway.addr.val) = r.gateway := by
    change ({ addr := bytesOfUINT (ipToUINT r.gateway) } : Ip) = r.gateway
    rw [bytesOfUINT_ipToUINT, ← proper.gateway]
  rw [octets] at first
  rw [r.gateway.addr.property] at second
  rw [written, List.cons_append, List.append_assoc, parseClasslessRoute, len]
  dsimp only
  rw [if_neg (UInt32.not_lt.mpr proper.masked), if_neg (Nat.not_lt_of_le few), first]
  dsimp only
  rw [if_neg (not_not_intro rfl), second]
  dsimp only
  rw [if_neg (not_not_intro rfl), number, ← proper.subnetMask, ← exists_]
  rfl

/-- A written entry is not empty. -/
theorem length_buildClasslessRoute
    (exists_ : r.exists_ = true)
    (proper : r.Proper) :
    1 ≤ (buildClasslessRoute r).length := by
  rw [buildClasslessRoute, if_pos ⟨exists_, proper.masked⟩, List.length_cons]
  omega

theorem ipToUINT_addressOf
    (ip : Ip)
    {count : Nat}
    (few : count ≤ 4) :
    (ipToUINT (addressOf (ip.addr.val.take count))).toNat =
      (ipToUINT ip).toNat % 2 ^ (8 * count) := by
  unfold ipToUINT addressOf
  obtain ⟨octets, size⟩ := ip.addr
  obtain ⟨a, b, c, d, rfl⟩ := List.length_eq_four.mp size
  have smallA := a.toNat_lt
  have smallB := b.toNat_lt
  have smallC := c.toNat_lt
  have smallD := d.toNat_lt
  interval_cases count <;>
    simp <;> omega

theorem intToSubnetMask32_low :
    ∀ len ≤ 32,
      (2 ^ (8 * ((len + 7) / 8)) - 1) &&& (intToSubnetMask32 (UInt32.ofNat len)).toNat =
        (intToSubnetMask32 (UInt32.ofNat len)).toNat := by
  decide

theorem DhcpClasslessRoute.Proper.low
    (proper : r.Proper) :
    (2 ^ (8 * significantOctets r.subnetMaskLen) - 1) &&& (ipToUINT r.subnetMask).toNat =
      (ipToUINT r.subnetMask).toNat := by
  have low := intToSubnetMask32_low r.subnetMaskLen.toNat proper.masked
  rw [UInt32.ofNat_toNat] at low
  rw [proper.subnetMask, intToSubnetMask4, ipToUINT_uintToIP]
  exact low

theorem DhcpClasslessRoute.Proper.normalized_truncated
    (proper : r.Proper) :
    r.truncated.normalized = r.normalized := by
  apply UInt32.toNat_inj.mp
  change (ipToUINT (addressOf _) &&& ipToUINT r.subnetMask).toNat =
    (ipToUINT r.network &&& ipToUINT r.subnetMask).toNat
  rw [UInt32.toNat_and, UInt32.toNat_and,
    ipToUINT_addressOf r.network (significantOctets_le proper.masked),
    ← Nat.and_two_pow_sub_one_eq_mod, Nat.and_assoc, proper.low]

theorem DhcpClasslessRoute.Proper.truncated_eq
    (proper : r.Proper)
    (clear : ipToUINT r.network = r.normalized) :
    r.truncated = r := by
  have number : ipToUINT r.truncated.network = ipToUINT r.network := by
    apply UInt32.toNat_inj.mp
    have bits : (ipToUINT r.network).toNat =
        (ipToUINT r.network).toNat &&& (ipToUINT r.subnetMask).toNat := by
      rw [← UInt32.toNat_and]
      exact congrArg UInt32.toNat clear
    change (ipToUINT (addressOf _)).toNat = _
    rw [ipToUINT_addressOf r.network (significantOctets_le proper.masked),
      ← Nat.and_two_pow_sub_one_eq_mod, bits, Nat.and_assoc,
      Nat.and_comm _ (2 ^ (8 * significantOctets r.subnetMaskLen) - 1), proper.low]
  have octets : r.truncated.network.addr = r.network.addr := by
    rw [← bytesOfUINT_ipToUINT, ← bytesOfUINT_ipToUINT, number]
  have network : r.truncated.network = r.network := by
    rw [proper.network, ← octets]
    rfl
  calc r.truncated = { r with network := r.truncated.network } := rfl
    _ = r := by rw [network]

/-! ### The table -/

/-- What tells routes apart. -/
def DhcpClasslessRoute.key (r : DhcpClasslessRoute) : UInt32 × Ip :=
  (r.normalized, r.subnetMask)

/-- A table into which these routes were read. -/
def tableOf (done : List DhcpClasslessRoute) : DhcpClasslessRouteTable where
  numExistingRoutes := UInt32.ofNat done.length
  entries := done ++ List.replicate (MAX_DHCP_CLASSLESS_ROUTE_ENTRIES - done.length) zeroRoute

theorem addClasslessRoute_tableOf
    (new : r ∉ done)
    (exists_ : r.exists_ = true)
    (room : done.length < MAX_DHCP_CLASSLESS_ROUTE_ENTRIES) :
    addClasslessRoute (tableOf done) r = some (tableOf (done ++ [r])) := by
  have small : done.length < 64 := room
  have count : (UInt32.ofNat done.length).toNat = done.length :=
    UInt32.toNat_ofNat_of_lt' (by change _ < 4294967296; omega)
  have absent : r ∉ (tableOf done).entries := by
    intro listed
    obtain old | zero := List.mem_append.mp listed
    · exact new old
    · rw [List.eq_of_mem_replicate zero] at exists_
      exact absurd exists_ (by decide)
  have next : UInt32.ofNat done.length + 1 = UInt32.ofNat (done ++ [r]).length := by
    rw [List.length_append, List.length_singleton, UInt32.ofNat_add]
    rfl
  obtain ⟨left, more⟩ : ∃ left, MAX_DHCP_CLASSLESS_ROUTE_ENTRIES - done.length = left + 1 :=
    ⟨MAX_DHCP_CLASSLESS_ROUTE_ENTRIES - done.length - 1, by omega⟩
  have rest : MAX_DHCP_CLASSLESS_ROUTE_ENTRIES - (done ++ [r]).length = left := by
    rw [List.length_append, List.length_singleton]
    omega
  have full : ¬MAX_DHCP_CLASSLESS_ROUTE_ENTRIES ≤ (tableOf done).numExistingRoutes.toNat := by
    change ¬_ ≤ (UInt32.ofNat done.length).toNat
    rw [count]
    omega
  rw [addClasslessRoute, if_neg absent, if_neg full]
  unfold tableOf
  dsimp only
  rw [count, next, more, rest, List.set_append_right _ _ le_rfl, Nat.sub_self,
    List.replicate_succ, List.set_cons_zero, List.append_assoc, List.singleton_append]

theorem parseClasslessRoutesLoop_build
    {rounds : Nat}
    {done routes : List DhcpClasslessRoute}
    (enough : routes.length ≤ rounds)
    (exists_ : ∀ r ∈ routes, r.exists_ = true)
    (proper : ∀ r ∈ routes, r.Proper)
    (distinct : (routes.map DhcpClasslessRoute.key).Nodup)
    (apart : ∀ old ∈ done, ∀ r ∈ routes, old.key ≠ r.key)
    (room : done.length + routes.length ≤ MAX_DHCP_CLASSLESS_ROUTE_ENTRIES) :
    parseClasslessRoutesLoop rounds (tableOf done) (routes.flatMap buildClasslessRoute) =
      tableOf (done ++ routes.map DhcpClasslessRoute.truncated) := by
  induction routes generalizing rounds done with
  | nil =>
      rw [List.map_nil, List.append_nil]
      cases rounds with
      | zero => rfl
      | succ rounds => rfl
  | cons r routes inductionHypothesis =>
      obtain ⟨fewer, rfl⟩ : ∃ fewer, rounds = fewer + 1 :=
        ⟨rounds - 1, by rw [List.length_cons] at enough; omega⟩
      rw [List.length_cons] at enough room
      rw [List.map_cons, List.nodup_cons] at distinct
      have first := List.mem_cons_self (a := r) (l := routes)
      have key : r.truncated.key = r.key :=
        Prod.ext (proper r first).normalized_truncated rfl
      have new : r.truncated ∉ done := by
        intro old
        exact apart r.truncated old r first key
      have read := parseClasslessRoute_build (exists_ r first) (proper r first)
        (routes.flatMap buildClasslessRoute)
      rw [List.flatMap_cons, parseClasslessRoutesLoop, read]
      dsimp only
      rw [addClasslessRoute_tableOf new (exists_ r first) (by omega)]
      dsimp only
      rw [inductionHypothesis (by omega)
        (fun other listed => exists_ other (List.mem_cons_of_mem r listed))
        (fun other listed => proper other (List.mem_cons_of_mem r listed)) distinct.2,
        List.append_assoc, List.singleton_append, List.map_cons]
      · intro old among other listed
        obtain before | this := List.mem_append.mp among
        · exact apart old before other (List.mem_cons_of_mem r listed)
        · rw [List.mem_singleton.mp this, key]
          intro same
          exact distinct.1 (List.mem_map.mpr ⟨other, listed, same.symm⟩)
      · rw [List.length_append, List.length_singleton]
        omega

theorem routes_tableOf
    (exists_ : ∀ r ∈ done, r.exists_ = true) :
    (tableOf done).routes = done := by
  have zeros (count : Nat) : (List.replicate count zeroRoute).filter (·.exists_) = [] := by
    rw [List.filter_replicate]
    rfl
  rw [DhcpClasslessRouteTable.routes, tableOf, List.filter_append, zeros, List.append_nil]
  exact List.filter_eq_self.mpr exists_

theorem flatMap_buildClasslessRoute (entries : List DhcpClasslessRoute) :
    entries.flatMap buildClasslessRoute =
      (entries.filter (·.exists_)).flatMap buildClasslessRoute := by
  induction entries with
  | nil => rfl
  | cons r entries inductionHypothesis =>
      rw [List.flatMap_cons, inductionHypothesis]
      cases exists_ : r.exists_ with
      | true => rw [List.filter_cons_of_pos exists_, List.flatMap_cons]
      | false =>
          have absent : ¬(r.exists_ = true ∧ r.subnetMaskLen ≤ 32) := by
            rw [exists_]
            exact fun both => Bool.false_ne_true both.1
          rw [List.filter_cons_of_neg (by rw [exists_]; decide), buildClasslessRoute,
            if_neg absent, List.nil_append]

/-- A table as the code makes it: the array has its size, its routes are counted, proper and
told apart by network and mask. -/
structure DhcpClasslessRouteTable.Valid (t : DhcpClasslessRouteTable) : Prop where
  sized : t.entries.length = MAX_DHCP_CLASSLESS_ROUTE_ENTRIES
  counted : t.Counted
  proper : ∀ r ∈ t.routes, r.Proper
  distinct : (t.routes.map DhcpClasslessRoute.key).Nodup

structure SameRoute (r other : DhcpClasslessRoute) : Prop where
  exists_ : other.exists_ = r.exists_
  network : other.normalized = r.normalized
  subnetMask : other.subnetMask = r.subnetMask
  subnetMaskLen : other.subnetMaskLen = r.subnetMaskLen
  gateway : other.gateway = r.gateway

theorem dhcpParseClasslessRouteData_routes
    {t : DhcpClasslessRouteTable}
    (valid : t.Valid) :
    (dhcpParseClasslessRouteData zeroRouteTable (dhcpBuildClasslessRouteData t)).routes =
      t.routes.map DhcpClasslessRoute.truncated := by
  have exists_ : ∀ r ∈ t.routes, r.exists_ = true := fun r listed =>
    (List.mem_filter.mp listed).2
  have zero : zeroRouteTable = tableOf [] := rfl
  have counted := valid.counted
  rw [dhcpBuildClasslessRouteData]
  by_cases nothing : t.numExistingRoutes = 0
  · rw [DhcpClasslessRouteTable.Counted, nothing] at counted
    rw [if_pos nothing, List.length_eq_zero_iff.mp counted.symm]
    exact routes_tableOf fun r listed => absurd listed List.not_mem_nil
  · have few : t.routes.length ≤ MAX_DHCP_CLASSLESS_ROUTE_ENTRIES := by
      rw [← valid.sized]
      exact List.length_filter_le _ _
    have enough : t.routes.length ≤ (t.routes.flatMap buildClasslessRoute).length := by
      rw [List.length_flatMap]
      have each : ∀ size ∈ t.routes.map fun r => (buildClasslessRoute r).length, 1 ≤ size := by
        intro size listed
        obtain ⟨r, among, rfl⟩ := List.mem_map.mp listed
        exact length_buildClasslessRoute (exists_ r among) (valid.proper r among)
      have sum := List.card_nsmul_le_sum _ 1 each
      rw [List.length_map] at sum
      simpa using sum
    rw [if_neg nothing, List.take_of_length_le valid.sized.le, flatMap_buildClasslessRoute]
    change (parseClasslessRoutesLoop (t.routes.flatMap buildClasslessRoute).length
      zeroRouteTable (t.routes.flatMap buildClasslessRoute)).routes = _
    rw [zero, parseClasslessRoutesLoop_build enough exists_ valid.proper valid.distinct
      (fun old listed => absurd listed List.not_mem_nil) (by rw [List.length_nil]; omega),
      List.nil_append]
    apply routes_tableOf
    intro r listed
    obtain ⟨other, among, rfl⟩ := List.mem_map.mp listed
    exact exists_ other among

/-- The routes that were written are read back in their order, each with its network, mask and
gateway; with every bit, when no network has bits behind its mask. -/
theorem dhcpParse_dhcpBuildClasslessRouteData
    {t : DhcpClasslessRouteTable}
    (valid : t.Valid) :
    List.Forall₂ SameRoute t.routes
        (dhcpParseClasslessRouteData zeroRouteTable (dhcpBuildClasslessRouteData t)).routes ∧
      ((∀ r ∈ t.routes, ipToUINT r.network = r.normalized) →
        (dhcpParseClasslessRouteData zeroRouteTable (dhcpBuildClasslessRouteData t)).routes =
          t.routes) := by
  rw [dhcpParseClasslessRouteData_routes valid]
  constructor
  · rw [List.forall₂_map_right_iff, List.forall₂_same]
    intro r listed
    exact
      { exists_ := rfl
        network := (valid.proper r listed).normalized_truncated
        subnetMask := rfl
        subnetMaskLen := rfl
        gateway := rfl }
  · intro clear
    have same : ∀ r ∈ t.routes, r.truncated = id r := fun r listed =>
      (valid.proper r listed).truncated_eq (clear r listed)
    rw [List.map_congr_left same, List.map_id]

theorem tableOf_counted
    (exists_ : ∀ r ∈ done, r.exists_ = true)
    (few : done.length ≤ MAX_DHCP_CLASSLESS_ROUTE_ENTRIES) :
    (tableOf done).Counted := by
  have small : done.length ≤ 64 := few
  rw [DhcpClasslessRouteTable.Counted, routes_tableOf exists_]
  exact UInt32.toNat_ofNat_of_lt' (by change _ < 4294967296; omega)

def ipv4Route (network len gateway : UInt32) : DhcpClasslessRoute where
  exists_ := true
  network := uintToIP network
  subnetMask := intToSubnetMask4 len
  gateway := uintToIP gateway
  subnetMaskLen := len

theorem ipv4Route_proper
    {len : UInt32}
    (masked : len ≤ 32)
    (network gateway : UInt32) :
    (ipv4Route network len gateway).Proper where
  masked
  subnetMask := rfl
  network := rfl
  gateway := rfl

/-- The network 10.0.0.0 with a mask of eight bits, a part of it with a mask of twelve bits, and
the default route. -/
def exampleRoutes : List DhcpClasslessRoute :=
  [ipv4Route 10 8 0x0101a8c0, ipv4Route 0x100a 12 0x0201a8c0, ipv4Route 0 0 0x0301a8c0]

theorem exampleRoutes_exist : ∀ r ∈ exampleRoutes, r.exists_ = true := by
  decide

theorem exampleTable_valid : (tableOf exampleRoutes).Valid where
  sized := by decide
  counted := tableOf_counted exampleRoutes_exist (by decide)
  proper := by
    rw [routes_tableOf exampleRoutes_exist]
    intro r listed
    simp only [exampleRoutes, List.mem_cons, List.not_mem_nil, or_false] at listed
    obtain rfl | rfl | rfl := listed
    · exact ipv4Route_proper (by decide) _ _
    · exact ipv4Route_proper (by decide) _ _
    · exact ipv4Route_proper (by decide) _ _
  distinct := by
    rw [routes_tableOf exampleRoutes_exist]
    decide

/-- The three routes are read back. -/
theorem dhcpParse_dhcpBuild_example :
    List.Forall₂ SameRoute (tableOf exampleRoutes).routes
        (dhcpParseClasslessRouteData zeroRouteTable
          (dhcpBuildClasslessRouteData (tableOf exampleRoutes))).routes ∧
      ((∀ r ∈ (tableOf exampleRoutes).routes, ipToUINT r.network = r.normalized) →
        (dhcpParseClasslessRouteData zeroRouteTable
          (dhcpBuildClasslessRouteData (tableOf exampleRoutes))).routes =
            (tableOf exampleRoutes).routes) :=
  dhcpParse_dhcpBuildClasslessRouteData exampleTable_valid

/-- The best of the three routes for 10.16.0.1. -/
theorem getBestClasslessRoute_longest_example :
    (∀ e, getBestClasslessRoute (tableOf exampleRoutes) (uintToIP 0x0100100a) = some e →
      e ∈ (tableOf exampleRoutes).routes ∧ e.Contains (uintToIP 0x0100100a) ∧
        ∀ other ∈ (tableOf exampleRoutes).routes, other.Contains (uintToIP 0x0100100a) →
          other.subnetMaskLen ≤ e.subnetMaskLen) ∧
    (getBestClasslessRoute (tableOf exampleRoutes) (uintToIP 0x0100100a) = none ↔
      ∀ e ∈ (tableOf exampleRoutes).routes, ¬e.Contains (uintToIP 0x0100100a)) :=
  getBestClasslessRoute_longest exampleTable_valid.counted (by decide)

end InProc
end SoftEther
