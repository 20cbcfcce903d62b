import SoftEther.Cedar.VirtualHub.Stages
import SoftEther.Library.KeyedTables

/-!
# Changes of the tables

What one step does to the MAC address table and to the IP table, as lists up to
their order: entries go, one entry comes in under a new key, or one entry is
rewritten under its key.
-/

namespace SoftEther
namespace VirtualHub

open AccessList
open Library

variable (cfg : Settings)

/-! ## The MAC address table -/

theorem flushMacTable_perm (now : Nat) (hub : Hub) :
    ∃ kept, (flushMacTable cfg now hub).macHashTable.toArray.Perm kept ∧
      kept.Sublist hub.macHashTable.toArray := by
  unfold flushMacTable
  split_ifs
  · exact ⟨_, hub.macHashTable.deleteAll_perm _, List.filter_sublist⟩
  · exact ⟨_, .refl _, .refl _⟩

/-- The step of the MAC address table for a packet of a session: whether it
passes, and the table afterwards. -/
inductive MacChange
    (now : Nat)
    (s : SessionId)
    (packet : Pkt)
    (hub : Hub) :
    Bool → List MacTableEntry → Prop
  /-- The address is new, and there is no room for it. -/
  | refused {kept after : List MacTableEntry} :
      kept.Sublist hub.macHashTable.toArray →
      after.Perm kept →
      MacChange now s packet hub false after
  | registered {kept after : List MacTableEntry} {entry : MacTableEntry} :
      kept.Sublist hub.macHashTable.toArray →
      (∀ other ∈ hub.macHashTable.toArray, other.key ≠ entry.key) →
      entry.key = macKey cfg packet.macAddressSrc packet →
      entry.session = s →
      entry.updatedTime = now →
      (Policy.limitsMac (cfg.session s).policy = true →
        (cfg.session s).isOpenVPNL3Session = false →
        kept.countP (fun e => e.session = s) <
          Policy.macLimit (cfg.session s).policy) →
      (flushMacTable cfg now hub).macHashTable.toArray.Perm kept →
      (flushMacTable cfg now hub).macHashTable.num < cfg.params.maxMacTables →
      after.Perm (entry :: kept) →
      MacChange now s packet hub true after
  /-- The address belongs to the session. -/
  | refreshed {after : List MacTableEntry} {entry : MacTableEntry} :
      entry ∈ hub.macHashTable.toArray →
      entry.key = macKey cfg packet.macAddressSrc packet →
      entry.session = s →
      after.Perm ({ entry with updatedTime := now } ::
        hub.macHashTable.toArray.erase entry) →
      MacChange now s packet hub true after
  /-- The address belongs to another session, which keeps it. -/
  | held {entry : MacTableEntry} :
      entry ∈ hub.macHashTable.toArray →
      entry.key = macKey cfg packet.macAddressSrc packet →
      entry.session ≠ s →
      (claimMac cfg now s packet entry hub).1 = false →
      MacChange now s packet hub false hub.macHashTable.toArray
  /-- The address goes over from another session. -/
  | taken {after : List MacTableEntry} {entry : MacTableEntry} :
      entry ∈ hub.macHashTable.toArray →
      entry.key = macKey cfg packet.macAddressSrc packet →
      entry.session ≠ s →
      (claimMac cfg now s packet entry hub).1 = true →
      after.Perm
        ({ entry with
            session := s
            hubPa := s
            createdTime := now
            updatedTime := now
            sameSession := rfl } ::
          hub.macHashTable.toArray.erase entry) →
      MacChange now s packet hub true after

theorem learnMac_change
    (now : Nat)
    (s : SessionId)
    (packet : Pkt)
    (hub : Hub) :
    MacChange cfg now s packet hub (learnMac cfg now s packet hub).1
      (learnMac cfg now s packet hub).2.macHashTable.toArray := by
  unfold learnMac
  cases searched :
    hub.macHashTable.search (macKey cfg packet.macAddressSrc packet) with
  | none =>
      obtain ⟨kept, flushed, fewer⟩ := flushMacTable_perm cfg now hub
      dsimp only
      unfold registerMac
      dsimp only
      split_ifs with limited full
      · exact .refused fewer flushed
      · exact .refused fewer flushed
      · refine .registered fewer ?_ rfl rfl rfl ?_ flushed (Nat.not_le.mp full)
          ((HashList.add_perm _ _).trans (flushed.cons _))
        · intro other present
          exact HashList.search_complete searched present
        · intro limits bridged
          rw [← flushed.countP_eq]
          unfold isMacLimitReached numMac at limited
          simpa [limits, bridged] using limited
  | some entry =>
      obtain ⟨present, sameKey⟩ := HashList.search_sound searched
      dsimp only
      split_ifs with own
      · exact .refreshed present sameKey own (HashList.write_perm _ present)
      · have held := @MacChange.held cfg now s packet hub entry present sameKey
          own
        have taken := @MacChange.taken cfg now s packet hub
          (takeOverMac now s entry hub).macHashTable.toArray entry present
          sameKey own
        unfold claimMac at held taken ⊢
        split_ifs at held taken ⊢
        · exact taken rfl (HashList.write_perm _ present)
        · exact held rfl
        · exact taken rfl (HashList.write_perm _ present)

/-! ## The IP table -/

theorem deleteOldIpTableEntry_sublist
    (o : KeyedList IpTableEntry.ip (@compareBytes 20)) :
    (deleteOldIpTableEntry o).items.Sublist o.items := by
  unfold deleteOldIpTableEntry
  split
  · exact List.erase_sublist
  · exact .refl _

/-- The entries that a new entry finds: expired ones are gone, and an old one if
there was no room. -/
def ipEntriesWithRoom (now : Nat) (hub : Hub) : List IpTableEntry :=
  let o := hub.ipTable.deleteAll (IpTableEntry.isExpired cfg now)
  (if cfg.params.maxIpTables ≤ o.num then deleteOldIpTableEntry o else o).items

theorem insertIpTableEntry_spec (now : Nat) (e : IpTableEntry) (hub : Hub) :
    ∃ kept,
      kept.Sublist hub.ipTable.items ∧
      (ipEntriesWithRoom cfg now hub).Perm kept ∧
      (insertIpTableEntry cfg now e hub).ipTable.items.Perm (e :: kept) ∧
      (hub.ipTable.num < cfg.params.maxIpTables →
        ∀ other ∈ hub.ipTable.items, other.isExpired cfg now = false →
          other ∈ kept) := by
  unfold insertIpTableEntry ipEntriesWithRoom
  dsimp only
  have remaining := hub.ipTable.deleteAll_perm (IpTableEntry.isExpired cfg now)
  generalize hub.ipTable.deleteAll (IpTableEntry.isExpired cfg now) = o
    at remaining ⊢
  have fewer : (hub.ipTable.items.filter fun item =>
      !item.isExpired cfg now).Sublist hub.ipTable.items := List.filter_sublist
  split_ifs with full
  · obtain ⟨kept, same, inside⟩ :=
      ((deleteOldIpTableEntry_sublist o).subperm).trans
        (remaining.subperm.trans fewer.subperm)
    refine ⟨kept, inside, same.symm,
      (KeyedList.insert_perm _ e).trans (same.symm.cons e), ?_⟩
    intro room
    have shorter := remaining.length_eq
    have bound := fewer.length_le
    unfold KeyedList.num at room full
    omega
  · refine ⟨_, fewer, remaining,
      (KeyedList.insert_perm _ e).trans (remaining.cons e), ?_⟩
    intro _ other present young
    exact List.mem_filter.mpr ⟨present, by simp [young]⟩

theorem refreshIp_perm
    {now : Nat}
    {packet : Pkt}
    {e : IpTableEntry}
    {hub : Hub}
    (present : e ∈ hub.ipTable.items) :
    (refreshIp now packet e hub).ipTable.items.Perm
      ({ e with updatedTime := now, macAddress := packet.macAddressSrc } ::
        hub.ipTable.items.erase e) := by
  unfold refreshIp
  apply KeyedList.write_perm
  · rfl
  · exact present

theorem takeOverIp_perm
    {now : Nat}
    {s : SessionId}
    {packet : Pkt}
    {e : IpTableEntry}
    {hub : Hub}
    (present : e ∈ hub.ipTable.items) :
    (takeOverIp now s packet e hub).ipTable.items.Perm
      ({ e with
          session := s
          updatedTime := now
          macAddress := packet.macAddressSrc } ::
        hub.ipTable.items.erase e) := by
  unfold takeOverIp
  apply KeyedList.write_perm
  · rfl
  · exact present

/-- An entry comes in for its address, where there was none or in the place of
the old one. -/
inductive IpSet (now : Nat) (hub : Hub) (e : IpTableEntry) :
    List IpTableEntry → Prop
  | inserted {kept after : List IpTableEntry} :
      kept.Sublist hub.ipTable.items →
      (∀ other ∈ hub.ipTable.items, other.ip ≠ e.ip) →
      (ipEntriesWithRoom cfg now hub).Perm kept →
      (hub.ipTable.num < cfg.params.maxIpTables →
        ∀ other ∈ hub.ipTable.items, other.isExpired cfg now = false →
          other ∈ kept) →
      after.Perm (e :: kept) →
      IpSet now hub e after
  | replaced {after : List IpTableEntry} {old : IpTableEntry} :
      old ∈ hub.ipTable.items →
      old.ip = e.ip →
      after.Perm (e :: hub.ipTable.items.erase old) →
      IpSet now hub e after

/-- The entry that a recorded DHCP reply makes. -/
def dhcpEntry (now : Nat) (p : Pkt) (client : SessionId) (ip : UInt32) :
    IpTableEntry where
  ip := uintToIP ip
  session := client
  dhcpAllocated := true
  createdTime := now
  updatedTime := now
  macAddress := p.macAddressDest

theorem registerDhcpAddress_change
    (now : Nat)
    (p : Pkt)
    (client : SessionId)
    (ip : UInt32)
    (hub : Hub) :
    IpSet cfg now hub (dhcpEntry now p client ip)
      (registerDhcpAddress cfg now p client ip hub).ipTable.items := by
  have same := (sameTables_learnOwnAddress cfg client ip hub).ip
  unfold registerDhcpAddress
  dsimp only
  split
  · rename_i absent
    rw [same] at absent
    obtain ⟨kept, inside, roomy, perm, young⟩ := insertIpTableEntry_spec cfg now
      (dhcpEntry now p client ip) (learnOwnAddress cfg client ip hub)
    unfold ipEntriesWithRoom at roomy
    rw [same] at inside roomy young
    exact .inserted inside (fun _ present =>
      KeyedList.search_complete absent present) roomy young perm
  · rename_i old found
    rw [same] at found
    obtain ⟨present, sameIp⟩ := KeyedList.search_sound found
    refine .replaced present sameIp ?_
    rw [← same] at present ⊢
    exact KeyedList.write_perm _ sameIp.symm present

/-- A DHCP reply is recorded for the session that the address of the client is
registered to, or not at all. -/
inductive DhcpChange (now : Nat) (p : Pkt) (hub : Hub) :
    List IpTableEntry → Prop
  | untouched : DhcpChange now p hub hub.ipTable.items
  | recorded {after : List IpTableEntry} {entry : MacTableEntry}
      {ip : UInt32} {mac : MacAddress} :
      cfg.option.noIpTable = false →
      dhcpAllocation p = some (ip, mac) →
      hub.macHashTable.search (mac, 0) = some entry →
      IpSet cfg now hub (dhcpEntry now p entry.session ip) after →
      DhcpChange now p hub after

theorem recordDhcpReply_change (now : Nat) (p : Pkt) (hub : Hub) :
    DhcpChange cfg now p hub (recordDhcpReply cfg now p hub).ipTable.items := by
  unfold recordDhcpReply
  split_ifs with unused
  · exact .untouched
  · cases allocated : dhcpAllocation p with
    | none => exact .untouched
    | some allocation =>
        obtain ⟨ip, mac⟩ := allocation
        dsimp only
        cases found : hub.macHashTable.search (mac, 0) with
        | none => exact .untouched
        | some entry =>
            exact .recorded (by simpa using unused) allocated found
              (registerDhcpAddress_change cfg now p entry.session ip hub)

/-- The source address that the IP table is about. -/
def trackedIp (packet : Pkt) : Option IpAddr :=
  match trackedIPv6 packet with
  | some ip => some ip
  | none => (trackedIPv4 packet).map uintToIP

/-- The step of the IP table for a packet of a session: whether it passes, and
the table afterwards. -/
inductive IpChange
    (now : Nat)
    (s : SessionId)
    (packet : Pkt)
    (hub : Hub) :
    Bool → List IpTableEntry → Prop
  | untouched {passes : Bool} :
      IpChange now s packet hub passes hub.ipTable.items
  | registered {kept after : List IpTableEntry} {ip : IpAddr} :
      trackedIp packet = some ip →
      kept.Sublist hub.ipTable.items →
      (∀ other ∈ hub.ipTable.items, other.ip ≠ ip) →
      (isIP4 ip = true → isIPv4LimitReached cfg hub s = false) →
      (hub.ipTable.num < cfg.params.maxIpTables →
        ∀ other ∈ hub.ipTable.items, other.isExpired cfg now = false →
          other ∈ kept) →
      after.Perm (newIpEntry now s packet ip :: kept) →
      IpChange now s packet hub true after
  /-- The address belongs to the session. -/
  | refreshed {after : List IpTableEntry} {e : IpTableEntry} :
      trackedIp packet = some e.ip →
      e ∈ hub.ipTable.items →
      e.session = s →
      after.Perm
        ({ e with updatedTime := now, macAddress := packet.macAddressSrc } ::
          hub.ipTable.items.erase e) →
      IpChange now s packet hub true after
  /-- The IPv4 address goes over from another session. -/
  | taken {after : List IpTableEntry} {e : IpTableEntry} {ip : UInt32} :
      trackedIPv4 packet = some ip →
      hub.ipTable.search (uintToIP ip) = some e →
      e.session ≠ s →
      (checkIPv4Source cfg now s packet hub).1 = true →
      after.Perm
        ({ e with
            session := s
            updatedTime := now
            macAddress := packet.macAddressSrc } ::
          hub.ipTable.items.erase e) →
      IpChange now s packet hub true after

theorem isIP6_ipv6AddrToIP (addr : Ipv6Addr) :
    isIP6 (ipv6AddrToIP addr) = true := by
  unfold isIP6 ipv6AddrToIP
  simp

theorem trackedIPv6_isIP6
    {packet : Pkt}
    {ip : IpAddr}
    (tracked : trackedIPv6 packet = some ip) :
    isIP4 ip = false := by
  unfold trackedIPv6 at tracked
  split at tracked
  · dsimp only at tracked
    split_ifs at tracked
    injection tracked with same
    unfold isIP4
    rw [← same, isIP6_ipv6AddrToIP]
    rfl
  · exact absurd tracked (by simp)

theorem trackedIPv4_of_trackedIPv6
    {packet : Pkt}
    {ip : IpAddr}
    (tracked : trackedIPv6 packet = some ip) :
    trackedIPv4 packet = none := by
  unfold trackedIPv6 at tracked
  unfold trackedIPv4 Pkt.sourceIPv4
  cases header : packet.l3 with
  | ipv6 _ => cases packet.l7 <;> rfl
  | _ =>
      rw [header] at tracked
      exact absurd tracked (by simp)

theorem trackedIp_of_trackedIPv6
    {packet : Pkt}
    {ip : IpAddr}
    (tracked : trackedIPv6 packet = some ip) :
    trackedIp packet = some ip := by
  unfold trackedIp
  rw [tracked]

theorem trackedIp_of_trackedIPv4
    {packet : Pkt}
    {ip : UInt32}
    (tracked : trackedIPv4 packet = some ip) :
    trackedIp packet = some (uintToIP ip) := by
  unfold trackedIp
  cases version : trackedIPv6 packet with
  | some other =>
      rw [trackedIPv4_of_trackedIPv6 version] at tracked
      exact absurd tracked (by simp)
  | none => rw [tracked, Option.map_some]

theorem checkIPv6Source_change
    (now : Nat)
    (s : SessionId)
    (packet : Pkt)
    (hub : Hub) :
    IpChange cfg now s packet hub (checkIPv6Source cfg now s packet hub).1
      (checkIPv6Source cfg now s packet hub).2.ipTable.items := by
  unfold checkIPv6Source
  cases tracked : trackedIPv6 packet with
  | none => exact .untouched
  | some ip =>
      dsimp only
      cases searched : hub.ipTable.search ip with
      | none =>
          dsimp only
          split_ifs
          · exact .untouched
          · obtain ⟨kept, inside, _, perm, young⟩ := insertIpTableEntry_spec cfg now
              (newIpEntry now s packet ip) hub
            refine .registered (trackedIp_of_trackedIPv6 tracked) inside ?_ ?_
              young perm
            · intro _ present
              exact KeyedList.search_complete searched present
            · intro version
              rw [trackedIPv6_isIP6 tracked] at version
              exact absurd version (by decide)
          · exact .untouched
      | some e =>
          obtain ⟨present, sameIp⟩ := KeyedList.search_sound searched
          dsimp only
          split_ifs with own
          · refine .refreshed ?_ present own (refreshIp_perm present)
            rw [sameIp]
            exact trackedIp_of_trackedIPv6 tracked
          · exact .untouched
          · exact .untouched

theorem checkIPv4Source_change
    (now : Nat)
    (s : SessionId)
    (packet : Pkt)
    (hub : Hub) :
    IpChange cfg now s packet hub (checkIPv4Source cfg now s packet hub).1
      (checkIPv4Source cfg now s packet hub).2.ipTable.items := by
  have taken := @IpChange.taken cfg now s packet hub
  unfold checkIPv4Source at taken ⊢
  dsimp only at taken ⊢
  cases tracked : trackedIPv4 packet with
  | none => exact .untouched
  | some ip =>
      rw [tracked] at taken
      dsimp only at taken ⊢
      cases searched : hub.ipTable.search (uintToIP ip) with
      | none =>
          dsimp only
          split_ifs with forced limited
          · exact .untouched
          · exact .untouched
          · obtain ⟨kept, inside, _, perm, young⟩ := insertIpTableEntry_spec cfg now
              (newIpEntry now s packet (uintToIP ip)) hub
            dsimp only
            rw [(sameTables_learnOwnAddress cfg s ip _).ip]
            refine .registered (trackedIp_of_trackedIPv4 tracked) inside ?_ ?_
              young perm
            · intro _ present
              exact KeyedList.search_complete searched present
            · intro _
              exact Bool.eq_false_iff.mpr limited
          · exact .untouched
      | some e =>
          obtain ⟨present, sameIp⟩ := KeyedList.search_sound searched
          specialize @taken (takeOverIp now s packet e hub).ipTable.items e ip rfl
            searched
          rw [searched] at taken
          dsimp only at taken ⊢
          split_ifs at taken ⊢ with own exclusive forced
          · refine .refreshed ?_ present own (refreshIp_perm present)
            rw [sameIp]
            exact trackedIp_of_trackedIPv4 tracked
          · exact .untouched
          · exact .untouched
          · exact taken own rfl (takeOverIp_perm present)

theorem checkIpTable_change
    (now : Nat)
    (s : SessionId)
    (packet : Pkt)
    (hub : Hub) :
    IpChange cfg now s packet hub (checkIpTable cfg now s packet hub).1
      (checkIpTable cfg now s packet hub).2.ipTable.items := by
  unfold checkIpTable
  split_ifs
  · exact .untouched
  · have first := checkIPv6Source_change cfg now s packet hub
    cases tracked : trackedIPv6 packet with
    | none =>
        have same : checkIPv6Source cfg now s packet hub = (true, hub) := by
          unfold checkIPv6Source
          rw [tracked]
        rw [same]
        exact checkIPv4Source_change cfg now s packet hub
    | some ip =>
        generalize checkIPv6Source cfg now s packet hub = result at first ⊢
        obtain ⟨_ | _, after⟩ := result
        · exact first
        · have same : checkIPv4Source cfg now s packet after = (true, after) := by
            unfold checkIPv4Source
            rw [trackedIPv4_of_trackedIPv6 tracked]
          dsimp only at first ⊢
          rw [same]
          exact first

end VirtualHub
end SoftEther
