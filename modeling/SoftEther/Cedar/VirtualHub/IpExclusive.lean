import SoftEther.Cedar.VirtualHub.Limits

/-!
# IPv6 addresses in use

A session under the duplicate check may not use an IPv6 address that another
session used a short time ago.  The part of `StorePacket` for IPv6 lets a
session use an address that another session has not used for a while, and does
not rewrite the entry, so that the first session may come back at any time.
-/

namespace SoftEther
namespace VirtualHub

open AccessList
open Library

variable {cfg : Settings}

/-- A packet of a session that was given out, with its IPv6 source address. -/
structure Accepted where
  time : Nat
  session : SessionId
  ip : IpAddr
  deriving DecidableEq

variable (cfg) in
/-- The IPv6 source address of a packet, as far as the IP table is kept and is
about it. -/
def managedIPv6 (packet : Pkt) : Option IpAddr :=
  if cfg.option.noIpTable then none
  else (trackedIPv6 packet).filter (isIPManagementTargetForHUB cfg)

variable (cfg) in
/-- What an event adds to the history. -/
def acceptedBy (sys : System) (event : Event) : List Accepted :=
  match event with
  | .storePacket draws (some source) packet =>
      if (storePacket cfg draws sys.now (some source) packet sys.hub).1 =
          .forwarded then
        match managedIPv6 cfg packet with
        | some ip => [⟨sys.now, source, ip⟩]
        | none => []
      else []
  | _ => []

/-- A hub with the history of its IPv6 packets. -/
structure Recorded where
  sys : System
  history : List Accepted

variable (cfg) in
def stepRecorded (before : Recorded) (event : Event) : Option Recorded :=
  (step cfg before.sys event).map fun after =>
    ⟨after, acceptedBy cfg before.sys event ++ before.history⟩

/-- The duplicate check for IPv6 is on for the session. -/
def Accepted.isChecked (cfg : Settings) (a : Accepted) : Prop :=
  (cfg.session a.session).policy.checkIPv6 = true

/-- Different sessions under the duplicate check do not use one address within
the exclusive time. -/
def Apart (cfg : Settings) (history : List Accepted) : Prop :=
  ∀ a ∈ history, ∀ b ∈ history,
    a.isChecked cfg → b.isChecked cfg → a.ip = b.ip → a.session ≠ b.session →
    a.time + IP_TABLE_EXCLUSIVE_TIME ≤ b.time ∨
      b.time + IP_TABLE_EXCLUSIVE_TIME ≤ a.time

/-! ## Where the exclusive use is kept -/

variable (cfg) in
/-- The packet does not use an address that another session used long ago, and
the IP table is not full. -/
structure KeepsPacketIPv6
    (draws : Draws)
    (now : Nat)
    (source : SessionId)
    (packet : Pkt)
    (hub : Hub) :
    Prop where
  roomBefore : hub.ipTable.num < cfg.params.maxIpTables
  room : ∀ passed route learned,
    beforeIpTable cfg draws now source packet hub =
      some (passed, route, learned) →
    learned.ipTable.num < cfg.params.maxIpTables
  exclusive : ∀ passed route learned ip,
    beforeIpTable cfg draws now source packet hub =
      some (passed, route, learned) →
    managedIPv6 cfg passed = some ip →
    (cfg.session source).policy.checkIPv6 = true →
    ∀ e ∈ learned.ipTable.items, e.ip = ip → e.session ≠ source →
      e.isExclusive now = true

variable (cfg) in
/-- An event that takes no IPv6 address from a session but by the check. -/
def KeepsIPv6 (before : Recorded) (event : Event) : Prop :=
  match event with
  | .storePacket draws (some source) packet =>
      KeepsPacketIPv6 cfg draws before.sys.now source packet before.sys.hub
  | .hubPaFree s =>
      (cfg.session s).policy.checkIPv6 = true →
      ∀ e ∈ before.sys.hub.ipTable.items, isIP4 e.ip = false → e.session = s →
        e.isExclusive before.sys.now = false
  | _ => True

/-- The address is registered to the session, which used it at the time or
later; no DHCP server gave it out. -/
def HeldSince
    (table : List IpTableEntry)
    (s : SessionId)
    (ip : IpAddr)
    (time : Nat) :
    Prop :=
  ∃ e ∈ table, e.ip = ip ∧ e.session = s ∧ e.dhcpAllocated = false ∧
    time ≤ e.updatedTime

theorem isExpired_of_exclusive
    {now time : Nat}
    {e : IpTableEntry}
    (longer : IP_TABLE_EXCLUSIVE_TIME < cfg.params.ipTableExpireTime)
    (static : e.dhcpAllocated = false)
    (used : time ≤ e.updatedTime)
    (recent : now ≤ time + IP_TABLE_EXCLUSIVE_TIME) :
    e.isExpired cfg now = false := by
  unfold IpTableEntry.isExpired
  rw [decide_eq_false_iff_not, static, if_neg Bool.false_ne_true]
  omega

theorem trackedIPv6_ne_uintToIP
    {packet : Pkt}
    {ip : IpAddr}
    (tracked : trackedIPv6 packet = some ip)
    (value : UInt32) :
    uintToIP value ≠ ip := by
  unfold trackedIPv6 at tracked
  split at tracked
  · rename_i header _
    dsimp only at tracked
    split_ifs at tracked with skipped
    injection tracked with tracked
    intro same
    apply skipped
    refine .inr (.inr (.inl ?_))
    have zero : header.srcAddress.val = List.replicate 16 0 := by
      have tail : (uintToIP value).val.drop 4 =
          (ipv6AddrToIP header.srcAddress).val.drop 4 := by
        rw [same, tracked]
      exact tail.symm
    unfold isZeroIP6Addr
    rw [zero]
    rfl
  · exact nomatch tracked

theorem DhcpChange.heldSince
    {now time : Nat}
    {p : Pkt}
    {hub : Hub}
    {after : List IpTableEntry}
    {s : SessionId}
    {ip : IpAddr}
    (change : DhcpChange cfg now p hub after)
    (longer : IP_TABLE_EXCLUSIVE_TIME < cfg.params.ipTableExpireTime)
    (room : hub.ipTable.num < cfg.params.maxIpTables)
    (version : ∀ value, uintToIP value ≠ ip)
    (recent : now ≤ time + IP_TABLE_EXCLUSIVE_TIME)
    (held : HeldSince hub.ipTable.items s ip time) :
    HeldSince after s ip time := by
  obtain ⟨e, present, sameIp, own, static, used⟩ := held
  cases change with
  | untouched => exact ⟨e, present, sameIp, own, static, used⟩
  | recorded _ _ _ set =>
      refine ⟨e, ?_, sameIp, own, static, used⟩
      cases set with
      | inserted _ _ _ young perm =>
          apply perm.mem_iff.mpr
          exact List.mem_cons_of_mem _ (young room e present
            (isExpired_of_exclusive longer static used recent))
      | @replaced _ old inside oldIp perm =>
          apply perm.mem_iff.mpr
          apply List.mem_cons_of_mem
          apply (List.mem_erase_of_ne _).mpr present
          intro same
          apply version
          rw [← sameIp, same, oldIp]
          rfl

theorem IpChange.heldSince
    {now time : Nat}
    {source : SessionId}
    {packet : Pkt}
    {hub : Hub}
    {passes : Bool}
    {after : List IpTableEntry}
    {s : SessionId}
    {ip : IpAddr}
    (change : IpChange cfg now source packet hub passes after)
    (longer : IP_TABLE_EXCLUSIVE_TIME < cfg.params.ipTableExpireTime)
    (room : hub.ipTable.num < cfg.params.maxIpTables)
    (version : ∀ value, uintToIP value ≠ ip)
    (past : time ≤ now)
    (recent : now ≤ time + IP_TABLE_EXCLUSIVE_TIME)
    (held : HeldSince hub.ipTable.items s ip time) :
    HeldSince after s ip time := by
  obtain ⟨e, present, sameIp, own, static, used⟩ := held
  cases change with
  | untouched => exact ⟨e, present, sameIp, own, static, used⟩
  | registered _ _ _ _ young perm =>
      refine ⟨e, perm.mem_iff.mpr (List.mem_cons_of_mem _ ?_), sameIp, own,
        static, used⟩
      exact young room e present
        (isExpired_of_exclusive longer static used recent)
  | @refreshed _ old _ _ _ perm =>
      by_cases same : e = old
      · refine ⟨{ old with updatedTime := now, macAddress := packet.macAddressSrc },
          perm.mem_iff.mpr List.mem_cons_self, ?_, ?_, ?_, past⟩
        · rw [← sameIp, same]
        · rw [← own, same]
        · rw [← static, same]
      · refine ⟨e, perm.mem_iff.mpr (List.mem_cons_of_mem _ ?_), sameIp, own,
          static, used⟩
        exact (List.mem_erase_of_ne same).mpr present
  | @taken _ old value _ searched _ _ perm =>
      have oldIp := (KeyedList.search_sound searched).2
      refine ⟨e, perm.mem_iff.mpr (List.mem_cons_of_mem _ ?_), sameIp, own,
        static, used⟩
      apply (List.mem_erase_of_ne _).mpr present
      intro same
      apply version value
      rw [← sameIp, same, oldIp]

/-- DHCP gives out no address but IPv4 addresses. -/
def DhcpOnlyIPv4 (table : List IpTableEntry) : Prop :=
  ∀ e ∈ table, (∀ value, uintToIP value ≠ e.ip) → e.dhcpAllocated = false

theorem DhcpChange.dhcpOnlyIPv4
    {now : Nat}
    {p : Pkt}
    {hub : Hub}
    {after : List IpTableEntry}
    (change : DhcpChange cfg now p hub after)
    (only : DhcpOnlyIPv4 hub.ipTable.items) :
    DhcpOnlyIPv4 after := by
  cases change with
  | untouched => exact only
  | recorded _ _ _ set =>
      intro e present foreign
      obtain same | kept := set.mem present
      · rw [same] at foreign
        exact absurd rfl (foreign _)
      · exact only e kept foreign

theorem IpChange.dhcpOnlyIPv4
    {now : Nat}
    {source : SessionId}
    {packet : Pkt}
    {hub : Hub}
    {passes : Bool}
    {after : List IpTableEntry}
    (change : IpChange cfg now source packet hub passes after)
    (only : DhcpOnlyIPv4 hub.ipTable.items) :
    DhcpOnlyIPv4 after := by
  cases change with
  | untouched => exact only
  | registered _ fewer _ _ _ perm =>
      intro e present foreign
      obtain same | kept := List.mem_cons.mp (perm.mem_iff.mp present)
      · rw [same]
        rfl
      · exact only e (fewer.subset kept) foreign
  | @refreshed _ old _ present _ perm =>
      exact forall_mem_rewrite only perm fun foreign => only old present foreign
  | @taken _ old _ _ searched _ _ perm =>
      exact forall_mem_rewrite only perm fun foreign =>
        only old (KeyedList.search_sound searched).1 foreign

theorem Filtered.dhcpOnlyIPv4
    {now : Nat}
    {packet : Pkt}
    {recording : Option Hub}
    {hub filtered : Hub}
    (filters : Filtered cfg now packet recording hub filtered)
    (only : DhcpOnlyIPv4 hub.ipTable.items) :
    DhcpOnlyIPv4 filtered.ipTable.items := by
  obtain same | ⟨noted, _, kept, recorded⟩ := filters.ip
  · rw [same]
    exact only
  · rw [recorded]
    apply (recordDhcpReply_change cfg now packet noted).dhcpOnlyIPv4
    rw [kept.ip]
    exact only

/-! ## The check of a packet -/

theorem managedIPv6_spec
    {packet : Pkt}
    {ip : IpAddr}
    (managed : managedIPv6 cfg packet = some ip) :
    cfg.option.noIpTable = false ∧ trackedIPv6 packet = some ip ∧
      isIPManagementTargetForHUB cfg ip = true := by
  unfold managedIPv6 at managed
  split_ifs at managed with unused
  obtain ⟨tracked, target⟩ := Option.filter_eq_some_iff.mp managed
  exact ⟨Bool.eq_false_iff.mpr unused, tracked, target⟩

theorem checkIpTable_of_managedIPv6
    {now : Nat}
    {source : SessionId}
    {packet : Pkt}
    {hub : Hub}
    {ip : IpAddr}
    (managed : managedIPv6 cfg packet = some ip) :
    checkIpTable cfg now source packet hub =
      checkIPv6Source cfg now source packet hub := by
  obtain ⟨used, tracked, _⟩ := managedIPv6_spec managed
  have skipped (hub : Hub) :
      checkIPv4Source cfg now source packet hub = (true, hub) := by
    unfold checkIPv4Source
    rw [trackedIPv4_of_trackedIPv6 tracked]
  unfold checkIpTable
  rw [if_neg (Bool.eq_false_iff.mp used)]
  generalize checkIPv6Source cfg now source packet hub = result
  obtain ⟨_ | _, after⟩ := result
  · rfl
  · exact skipped after

theorem checkIpTable_respects
    {now : Nat}
    {source : SessionId}
    {packet : Pkt}
    {hub : Hub}
    {ip : IpAddr}
    {e : IpTableEntry}
    (managed : managedIPv6 cfg packet = some ip)
    (checked : (cfg.session source).policy.checkIPv6 = true)
    (passes : (checkIpTable cfg now source packet hub).1 = true)
    (unique : UniqueKeys IpTableEntry.ip hub.ipTable.items)
    (present : e ∈ hub.ipTable.items)
    (sameIp : e.ip = ip)
    (exclusive : e.isExclusive now = true) :
    e.session = source := by
  rw [checkIpTable_of_managedIPv6 managed] at passes
  unfold checkIPv6Source at passes
  rw [(managedIPv6_spec managed).2.1] at passes
  dsimp only at passes
  cases searched : hub.ipTable.search ip with
  | none => exact absurd sameIp (KeyedList.search_complete searched present)
  | some found =>
      obtain ⟨inside, foundIp⟩ := KeyedList.search_sound searched
      have same : found = e :=
        unique.eq_of_key inside present (foundIp.trans sameIp.symm)
      rw [searched, same] at passes
      dsimp only at passes
      by_contra other
      rw [if_neg other, if_pos ⟨checked, exclusive⟩] at passes
      exact Bool.false_ne_true passes

theorem checkIpTable_registers
    {now : Nat}
    {source : SessionId}
    {packet : Pkt}
    {hub : Hub}
    {ip : IpAddr}
    (managed : managedIPv6 cfg packet = some ip)
    (checked : (cfg.session source).policy.checkIPv6 = true)
    (passes : (checkIpTable cfg now source packet hub).1 = true)
    (only : DhcpOnlyIPv4 hub.ipTable.items)
    (exclusive : ∀ e ∈ hub.ipTable.items, e.ip = ip → e.session ≠ source →
      e.isExclusive now = true) :
    HeldSince (checkIpTable cfg now source packet hub).2.ipTable.items source ip
      now := by
  obtain ⟨_, tracked, target⟩ := managedIPv6_spec managed
  rw [checkIpTable_of_managedIPv6 managed] at passes ⊢
  unfold checkIPv6Source at passes ⊢
  rw [tracked] at passes ⊢
  dsimp only at passes ⊢
  cases searched : hub.ipTable.search ip with
  | none =>
      rw [searched] at passes
      dsimp only at passes ⊢
      split_ifs at passes ⊢
      obtain ⟨kept, _, _, perm, _⟩ := insertIpTableEntry_spec cfg now
        (newIpEntry now source packet ip) hub
      exact ⟨_, perm.mem_iff.mpr List.mem_cons_self, rfl, rfl, rfl,
        Nat.le_refl now⟩
  | some found =>
      obtain ⟨inside, foundIp⟩ := KeyedList.search_sound searched
      rw [searched] at passes
      dsimp only at passes ⊢
      by_cases own : found.session = source
      · rw [if_pos own]
        have perm := @refreshIp_perm now packet found hub inside
        have static : found.dhcpAllocated = false := by
          apply only found inside
          rw [foundIp]
          exact trackedIPv6_ne_uintToIP tracked
        exact ⟨_, perm.mem_iff.mpr List.mem_cons_self, foundIp, own, static,
          Nat.le_refl now⟩
      · rw [if_neg own, if_pos ⟨checked, exclusive found inside foundIp own⟩]
          at passes
        exact absurd passes Bool.false_ne_true

/-! ## Runs -/

/-- What holds of a hub and its history: checked sessions keep their addresses
for the exclusive time, and have used them apart. -/
structure KeepsHistory (cfg : Settings) (r : Recorded) : Prop where
  formed : WellFormed cfg r.sys.hub
  only : DhcpOnlyIPv4 r.sys.hub.ipTable.items
  past : ∀ a ∈ r.history, a.time ≤ r.sys.now
  version : ∀ a ∈ r.history, isIP4 a.ip = false
  foreign : ∀ a ∈ r.history, ∀ value, uintToIP value ≠ a.ip
  held : ∀ a ∈ r.history, a.isChecked cfg →
    r.sys.now ≤ a.time + IP_TABLE_EXCLUSIVE_TIME →
    HeldSince r.sys.hub.ipTable.items a.session a.ip a.time
  apart : Apart cfg r.history

theorem Filtered.heldSince
    {now time : Nat}
    {packet : Pkt}
    {recording : Option Hub}
    {hub filtered : Hub}
    {s : SessionId}
    {ip : IpAddr}
    (filters : Filtered cfg now packet recording hub filtered)
    (longer : IP_TABLE_EXCLUSIVE_TIME < cfg.params.ipTableExpireTime)
    (room : hub.ipTable.num < cfg.params.maxIpTables)
    (version : ∀ value, uintToIP value ≠ ip)
    (recent : now ≤ time + IP_TABLE_EXCLUSIVE_TIME)
    (held : HeldSince hub.ipTable.items s ip time) :
    HeldSince filtered.ipTable.items s ip time := by
  obtain same | ⟨noted, _, kept, recorded⟩ := filters.ip
  · rw [same]
    exact held
  · rw [recorded]
    apply (recordDhcpReply_change cfg now packet noted).heldSince longer _ version recent
    · rw [kept.ip]
      exact held
    · rw [kept.ip]
      exact room

theorem heldSince_storePacket
    {draws : Draws}
    {now time : Nat}
    {source s : SessionId}
    {packet : Pkt}
    {hub : Hub}
    {ip : IpAddr}
    (longer : IP_TABLE_EXCLUSIVE_TIME < cfg.params.ipTableExpireTime)
    (keeps : KeepsPacketIPv6 cfg draws now source packet hub)
    (version : ∀ value, uintToIP value ≠ ip)
    (past : time ≤ now)
    (recent : now ≤ time + IP_TABLE_EXCLUSIVE_TIME)
    (held : HeldSince hub.ipTable.items s ip time) :
    HeldSince (storePacket cfg draws now (some source) packet hub).2.ipTable.items
        s ip time ∧
      ∀ passed route learned,
        beforeIpTable cfg draws now source packet hub =
          some (passed, route, learned) →
        HeldSince learned.ipTable.items s ip time := by
  obtain ⟨filtered, filters, ways⟩ :=
    @storePacket_ip cfg draws now source packet hub
  have heldFiltered := filters.heldSince longer keeps.roomBefore
    version recent held
  obtain ⟨stopped, same, _⟩ | ⟨passed, route, learned, looks⟩ := ways
  · rw [same]
    refine ⟨heldFiltered, ?_⟩
    intro passed route learned before
    rw [stopped] at before
    exact nomatch before
  · rw [← looks.kept] at heldFiltered
    refine ⟨?_, ?_⟩
    · rw [looks.after]
      exact (checkIpTable_change cfg now source passed learned).heldSince longer
        (keeps.room passed route learned looks.before) version past
        recent heldFiltered
    · intro other way hub before
      rw [looks.before] at before
      injection before with same
      injection same with _ same
      injection same with _ same
      rw [← same]
      exact heldFiltered

theorem mem_acceptedBy
    {sys : System}
    {draws : Draws}
    {source : SessionId}
    {packet : Pkt}
    {a : Accepted}
    (listed : a ∈ acceptedBy cfg sys (.storePacket draws (some source) packet)) :
    a.time = sys.now ∧ a.session = source ∧
      managedIPv6 cfg packet = some a.ip ∧
      (storePacket cfg draws sys.now (some source) packet sys.hub).1 =
        .forwarded := by
  unfold acceptedBy at listed
  dsimp only at listed
  split_ifs at listed with given
  · split at listed
    · rename_i managed
      rw [List.mem_singleton.mp listed]
      exact ⟨rfl, rfl, managed, given⟩
    · exact absurd listed List.not_mem_nil
  · exact absurd listed List.not_mem_nil

theorem lookup_of_forwarded
    {draws : Draws}
    {now : Nat}
    {source : SessionId}
    {packet : Pkt}
    {hub : Hub}
    {ip : IpAddr}
    (formed : WellFormed cfg hub)
    (only : DhcpOnlyIPv4 hub.ipTable.items)
    (managed : managedIPv6 cfg packet = some ip)
    (given : (storePacket cfg draws now (some source) packet hub).1 =
      .forwarded) :
    ∃ passed route learned,
      beforeIpTable cfg draws now source packet hub =
          some (passed, route, learned) ∧
        managedIPv6 cfg passed = some ip ∧
        (checkIpTable cfg now source passed learned).1 = true ∧
        UniqueKeys IpTableEntry.ip learned.ipTable.items ∧
        DhcpOnlyIPv4 learned.ipTable.items ∧
        (storePacket cfg draws now (some source) packet hub).2.ipTable =
          (checkIpTable cfg now source passed learned).2.ipTable := by
  obtain ⟨filtered, filters, ways⟩ :=
    @storePacket_ip cfg draws now source packet hub
  obtain ⟨_, _, stopped⟩ | ⟨passed, route, learned, looks⟩ := ways
  · exact absurd given stopped
  · refine ⟨passed, route, learned, looks.before, ?_, looks.passes given, ?_, ?_,
      looks.after⟩
    · obtain ⟨checked, delay, jitter, loss, rfl⟩ := looks.sameFrame
      exact managed
    · rw [looks.kept]
      exact (formed.filtered filters).uniqueIp
    · rw [looks.kept]
      exact filters.dhcpOnlyIPv4 only

theorem KeepsHistory.stored
    {r : Recorded}
    {draws : Draws}
    {source : SessionId}
    {packet : Pkt}
    (longer : IP_TABLE_EXCLUSIVE_TIME < cfg.params.ipTableExpireTime)
    (before : KeepsHistory cfg r)
    (attached : r.sys.hub.isAttached source = true)
    (keeps : KeepsPacketIPv6 cfg draws r.sys.now source packet r.sys.hub) :
    KeepsHistory cfg
      ⟨{ r.sys with
          hub := (storePacket cfg draws r.sys.now (some source) packet
            r.sys.hub).2 },
        acceptedBy cfg r.sys (.storePacket draws (some source) packet) ++
          r.history⟩ := by
  have stays (a : Accepted) (listed : a ∈ r.history) (checked : a.isChecked cfg)
      (recent : r.sys.now ≤ a.time + IP_TABLE_EXCLUSIVE_TIME) :=
    heldSince_storePacket longer keeps (before.foreign a listed)
      (before.past a listed) recent (before.held a listed checked recent)
  -- A packet that is given out now comes late enough after the others.
  have late (a b : Accepted)
      (given : a ∈ acceptedBy cfg r.sys (.storePacket draws (some source) packet))
      (listed : b ∈ r.history) (checkedA : a.isChecked cfg)
      (checkedB : b.isChecked cfg) (sameIp : a.ip = b.ip)
      (different : a.session ≠ b.session) :
      b.time + IP_TABLE_EXCLUSIVE_TIME ≤ a.time := by
    obtain ⟨sameTime, sameSession, managed, forwarded⟩ := mem_acceptedBy given
    by_contra early
    rw [sameTime] at early
    have recent : r.sys.now ≤ b.time + IP_TABLE_EXCLUSIVE_TIME := by omega
    obtain ⟨passed, route, learned, reaches, managedPassed, passes, unique, _, _⟩ :=
      lookup_of_forwarded before.formed before.only managed forwarded
    obtain ⟨e, present, entryIp, own, _, used⟩ :=
      (stays b listed checkedB recent).2 passed route learned reaches
    have exclusive : e.isExclusive r.sys.now = true := by
      unfold IpTableEntry.isExclusive
      exact decide_eq_true (by omega)
    unfold Accepted.isChecked at checkedA
    rw [sameSession] at checkedA different
    apply different
    rw [← own]
    exact (checkIpTable_respects managedPassed checkedA passes unique present
      (entryIp.trans sameIp.symm) exclusive).symm
  refine
    { formed := ?_
      only := ?_
      past := ?_
      version := ?_
      foreign := ?_
      held := ?_
      apart := ?_ }
  · apply before.formed.storePacket
    intro other same
    injection same with same
    rw [← same]
    exact attached
  · obtain ⟨filtered, filters, ways⟩ :=
      @storePacket_ip cfg draws r.sys.now source packet r.sys.hub
    have onlyFiltered := filters.dhcpOnlyIPv4 before.only
    obtain ⟨_, same, _⟩ | ⟨passed, route, learned, looks⟩ := ways
    · rw [same]
      exact onlyFiltered
    · rw [looks.after]
      apply (checkIpTable_change cfg r.sys.now source passed
        learned).dhcpOnlyIPv4
      rw [looks.kept]
      exact onlyFiltered
  · intro a listed
    obtain given | listed := List.mem_append.mp listed
    · exact Nat.le_of_eq (mem_acceptedBy given).1
    · exact before.past a listed
  · intro a listed
    obtain given | listed := List.mem_append.mp listed
    · exact trackedIPv6_isIP6 (managedIPv6_spec (mem_acceptedBy given).2.2.1).2.1
    · exact before.version a listed
  · intro a listed
    obtain given | listed := List.mem_append.mp listed
    · exact trackedIPv6_ne_uintToIP
        (managedIPv6_spec (mem_acceptedBy given).2.2.1).2.1
    · exact before.foreign a listed
  · intro a listed checked recent
    obtain given | listed := List.mem_append.mp listed
    · obtain ⟨sameTime, sameSession, managed, forwarded⟩ := mem_acceptedBy given
      obtain ⟨passed, route, learned, reaches, managedPassed, passes, _, only, same⟩ :=
        lookup_of_forwarded before.formed before.only managed forwarded
      unfold Accepted.isChecked at checked
      rw [sameSession] at checked
      dsimp only
      rw [sameTime, sameSession, same]
      exact checkIpTable_registers managedPassed checked passes only
        (keeps.exclusive passed route learned a.ip reaches managedPassed checked)
    · exact (stays a listed checked recent).1
  · intro a listedA b listedB checkedA checkedB sameIp different
    obtain givenA | listedA := List.mem_append.mp listedA
    · obtain givenB | listedB := List.mem_append.mp listedB
      · exact absurd ((mem_acceptedBy givenA).2.1.trans
          (mem_acceptedBy givenB).2.1.symm) different
      · exact .inr (late a b givenA listedB checkedA checkedB sameIp different)
    · obtain givenB | listedB := List.mem_append.mp listedB
      · exact .inl (late b a givenB listedA checkedB checkedA sameIp.symm
          (Ne.symm different))
      · exact before.apart a listedA b listedB checkedA checkedB sameIp different

theorem KeepsHistory.step
    {r after : Recorded}
    {event : Event}
    (longer : IP_TABLE_EXCLUSIVE_TIME < cfg.params.ipTableExpireTime)
    (before : KeepsHistory cfg r)
    (keeps : KeepsIPv6 cfg r event)
    (stepped : stepRecorded cfg r event = some after) :
    KeepsHistory cfg after := by
  unfold stepRecorded at stepped
  obtain ⟨sys, moved, same⟩ := Option.map_eq_some_iff.mp stepped
  rw [← same]
  have formed := before.formed.step moved
  cases step_tables moved with
  | stored attached => exact before.stored longer attached keeps
  | @freed s =>
      have perm := r.sys.hub.ipTable.deleteAll_perm fun e => e.session = s
      have only : DhcpOnlyIPv4
          (r.sys.hub.ipTable.deleteAll fun e => e.session = s).items :=
        fun e present => before.only e
          (List.mem_of_mem_filter (perm.mem_iff.mp present))
      refine { before with formed := formed, only := only, held := ?_ }
      intro a listed checked recent
      obtain ⟨e, present, sameIp, own, static, used⟩ :=
        before.held a listed checked recent
      refine ⟨e, perm.mem_iff.mpr (List.mem_filter.mpr ⟨present, ?_⟩), sameIp, own,
        static, used⟩
      by_contra freed
      have gone : e.session = s := by simpa using freed
      have idle : e.isExclusive r.sys.now = false := by
        apply keeps
        · rw [← gone, own]
          exact checked
        · exact present
        · rw [sameIp]
          exact before.version a listed
        · exact gone
      unfold IpTableEntry.isExclusive at idle
      have late := of_decide_eq_false idle
      dsimp only at recent
      omega
  | elsewhere other _ ip later =>
      have nothing : acceptedBy cfg r.sys event = [] := by
        unfold acceptedBy
        split
        · rename_i draws source packet
          exact absurd rfl (other draws source packet)
        · rfl
      rw [nothing, List.nil_append]
      exact
        { before with
          formed := formed
          only := by
            rw [ip]
            exact before.only
          past := fun a listed => (before.past a listed).trans later
          held := fun a listed checked recent => by
            dsimp only at recent ⊢
            rw [ip]
            exact before.held a listed checked (later.trans recent) }

end VirtualHub
end SoftEther
