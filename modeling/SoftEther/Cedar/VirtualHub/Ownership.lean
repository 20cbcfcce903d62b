import SoftEther.Cedar.VirtualHub.Tables

/-!
# Owners of table entries

In every state that a hub reaches, addresses are unique in both tables and every
entry belongs to a session that has a packet adapter.
-/

namespace SoftEther
namespace VirtualHub

open AccessList
open Library

variable (cfg : Settings)

/-- The tables have unique addresses and no entry of a session that is gone. -/
structure WellFormed (hub : Hub) : Prop where
  uniqueMac : UniqueKeys MacTableEntry.key hub.macHashTable.toArray
  macOwners : ∀ e ∈ hub.macHashTable.toArray, hub.isAttached e.session = true
  uniqueIp : UniqueKeys IpTableEntry.ip hub.ipTable.items
  ipOwners : ∀ e ∈ hub.ipTable.items, hub.isAttached e.session = true
  monitors : ∀ s ∈ hub.monitorList, (cfg.session s).policy.monitorPort = true

variable {cfg}

theorem WellFormed.of_sameTables
    {before after : Hub}
    (formed : WellFormed cfg before)
    (same : SameTables before after) :
    WellFormed cfg after where
  uniqueMac := by
    rw [same.mac]
    exact formed.uniqueMac
  macOwners e present := by
    rw [same.mac] at present
    rw [same.attached]
    exact formed.macOwners e present
  uniqueIp := by
    rw [same.ip]
    exact formed.uniqueIp
  ipOwners e present := by
    rw [same.ip] at present
    rw [same.attached]
    exact formed.ipOwners e present
  monitors s listed := by
    rw [same.monitorList] at listed
    exact formed.monitors s listed

theorem MacChange.unique
    {now : Nat}
    {s : SessionId}
    {packet : Pkt}
    {hub : Hub}
    {passes : Bool}
    {after : List MacTableEntry}
    (change : MacChange cfg now s packet hub passes after)
    (unique : UniqueKeys MacTableEntry.key hub.macHashTable.toArray) :
    UniqueKeys MacTableEntry.key after := by
  cases change with
  | refused fewer perm => exact (unique.sublist fewer).perm perm
  | registered fewer fresh _ _ _ _ _ _ perm =>
      refine ((unique.sublist fewer).cons ?_).perm perm
      exact fun other present => fresh other (fewer.subset present)
  | refreshed present _ _ perm =>
      apply UniqueKeys.perm (unique.rewrite present _) perm
      rfl
  | held => exact unique
  | taken present _ _ _ perm =>
      apply UniqueKeys.perm (unique.rewrite present _) perm
      rfl

theorem MacChange.owner
    {now : Nat}
    {s : SessionId}
    {packet : Pkt}
    {hub : Hub}
    {passes : Bool}
    {after : List MacTableEntry}
    (change : MacChange cfg now s packet hub passes after)
    {entry : MacTableEntry}
    (present : entry ∈ after) :
    entry.session = s ∨
      ∃ old ∈ hub.macHashTable.toArray, old.session = entry.session := by
  cases change with
  | refused fewer perm =>
      exact .inr ⟨entry, fewer.subset (perm.mem_iff.mp present), rfl⟩
  | registered fewer _ _ own _ _ _ _ perm =>
      obtain same | kept := List.mem_cons.mp (perm.mem_iff.mp present)
      · exact .inl (by rw [same, own])
      · exact .inr ⟨entry, fewer.subset kept, rfl⟩
  | refreshed old _ own perm =>
      obtain same | kept := List.mem_cons.mp (perm.mem_iff.mp present)
      · exact .inl (by rw [same]; exact own)
      · exact .inr ⟨entry, List.mem_of_mem_erase kept, rfl⟩
  | held => exact .inr ⟨entry, present, rfl⟩
  | taken old _ _ _ perm =>
      obtain same | kept := List.mem_cons.mp (perm.mem_iff.mp present)
      · exact .inl (by rw [same])
      · exact .inr ⟨entry, List.mem_of_mem_erase kept, rfl⟩

theorem WellFormed.learnMac
    {now : Nat}
    {s : SessionId}
    {packet : Pkt}
    {hub : Hub}
    (formed : WellFormed cfg hub)
    (attached : hub.isAttached s = true) :
    WellFormed cfg (learnMac cfg now s packet hub).2 := by
  have only := onlyMacTable_learnMac cfg now s packet hub
  have change := learnMac_change cfg now s packet hub
  exact
    { uniqueMac := change.unique formed.uniqueMac
      macOwners := by
        intro entry present
        rw [only.attached]
        obtain own | ⟨old, inside, same⟩ := change.owner present
        · rw [own]
          exact attached
        · rw [← same]
          exact formed.macOwners old inside
      uniqueIp := by
        rw [only.ip]
        exact formed.uniqueIp
      ipOwners := by
        intro entry present
        rw [only.ip] at present
        rw [only.attached]
        exact formed.ipOwners entry present
      monitors := by
        rw [only.monitorList]
        exact formed.monitors }

theorem WellFormed.of_onlyIpTable
    {before after : Hub}
    (formed : WellFormed cfg before)
    (only : OnlyIpTable before after)
    (unique : UniqueKeys IpTableEntry.ip after.ipTable.items)
    (owners : ∀ e ∈ after.ipTable.items, before.isAttached e.session = true) :
    WellFormed cfg after where
  uniqueMac := by
    rw [only.mac]
    exact formed.uniqueMac
  macOwners e present := by
    rw [only.mac] at present
    rw [only.attached]
    exact formed.macOwners e present
  uniqueIp := unique
  ipOwners e present := by
    rw [only.attached]
    exact owners e present
  monitors := by
    rw [only.monitorList]
    exact formed.monitors

theorem IpSet.unique
    {now : Nat}
    {hub : Hub}
    {e : IpTableEntry}
    {after : List IpTableEntry}
    (change : IpSet cfg now hub e after)
    (unique : UniqueKeys IpTableEntry.ip hub.ipTable.items) :
    UniqueKeys IpTableEntry.ip after := by
  cases change with
  | inserted fewer fresh _ _ perm =>
      refine ((unique.sublist fewer).cons ?_).perm perm
      exact fun other present => fresh other (fewer.subset present)
  | replaced present sameIp perm =>
      exact (unique.rewrite present sameIp.symm).perm perm

theorem IpSet.mem
    {now : Nat}
    {hub : Hub}
    {e entry : IpTableEntry}
    {after : List IpTableEntry}
    (change : IpSet cfg now hub e after)
    (present : entry ∈ after) :
    entry = e ∨ entry ∈ hub.ipTable.items := by
  cases change with
  | inserted fewer _ _ _ perm =>
      exact (List.mem_cons.mp (perm.mem_iff.mp present)).imp_right
        fun kept => fewer.subset kept
  | replaced _ _ perm =>
      exact (List.mem_cons.mp (perm.mem_iff.mp present)).imp_right
        List.mem_of_mem_erase

theorem WellFormed.recordDhcpReply
    {now : Nat}
    {p : Pkt}
    {hub : Hub}
    (formed : WellFormed cfg hub) :
    WellFormed cfg (recordDhcpReply cfg now p hub) := by
  have only := onlyIpTable_recordDhcpReply cfg now p hub
  have change := recordDhcpReply_change cfg now p hub
  generalize after : (VirtualHub.recordDhcpReply cfg now p hub).ipTable.items =
    items at change
  refine formed.of_onlyIpTable only ?_ ?_
  · rw [after]
    cases change with
    | untouched => exact formed.uniqueIp
    | recorded _ _ _ change => exact change.unique formed.uniqueIp
  · rw [after]
    cases change with
    | untouched => exact formed.ipOwners
    | recorded _ _ found change =>
        intro entry present
        obtain same | kept := change.mem present
        · rw [same]
          exact formed.macOwners _ (HashList.search_sound found).1
        · exact formed.ipOwners entry kept

theorem IpChange.unique
    {now : Nat}
    {s : SessionId}
    {packet : Pkt}
    {hub : Hub}
    {passes : Bool}
    {after : List IpTableEntry}
    (change : IpChange cfg now s packet hub passes after)
    (unique : UniqueKeys IpTableEntry.ip hub.ipTable.items) :
    UniqueKeys IpTableEntry.ip after := by
  cases change with
  | untouched => exact unique
  | registered _ fewer fresh _ _ perm =>
      refine ((unique.sublist fewer).cons ?_).perm perm
      exact fun other present => fresh other (fewer.subset present)
  | refreshed _ present _ perm =>
      apply UniqueKeys.perm (unique.rewrite present _) perm
      rfl
  | taken _ searched _ _ perm =>
      apply UniqueKeys.perm
        (unique.rewrite (KeyedList.search_sound searched).1 _) perm
      rfl

theorem IpChange.owner
    {now : Nat}
    {s : SessionId}
    {packet : Pkt}
    {hub : Hub}
    {passes : Bool}
    {after : List IpTableEntry}
    (change : IpChange cfg now s packet hub passes after)
    {entry : IpTableEntry}
    (present : entry ∈ after) :
    entry.session = s ∨ entry ∈ hub.ipTable.items := by
  cases change with
  | untouched => exact .inr present
  | registered _ fewer _ _ _ perm =>
      obtain same | kept := List.mem_cons.mp (perm.mem_iff.mp present)
      · exact .inl (by rw [same]; rfl)
      · exact .inr (fewer.subset kept)
  | refreshed _ _ own perm =>
      obtain same | kept := List.mem_cons.mp (perm.mem_iff.mp present)
      · exact .inl (by rw [same]; exact own)
      · exact .inr (List.mem_of_mem_erase kept)
  | taken _ _ _ _ perm =>
      obtain same | kept := List.mem_cons.mp (perm.mem_iff.mp present)
      · exact .inl (by rw [same])
      · exact .inr (List.mem_of_mem_erase kept)

theorem WellFormed.checkIpTable
    {now : Nat}
    {s : SessionId}
    {packet : Pkt}
    {hub : Hub}
    (formed : WellFormed cfg hub)
    (attached : hub.isAttached s = true) :
    WellFormed cfg (checkIpTable cfg now s packet hub).2 := by
  have change := checkIpTable_change cfg now s packet hub
  refine formed.of_onlyIpTable (onlyIpTable_checkIpTable cfg now s packet hub)
    (change.unique formed.uniqueIp) ?_
  intro entry present
  obtain own | kept := change.owner present
  · rw [own]
    exact attached
  · exact formed.ipOwners entry kept

theorem WellFormed.filtered
    {now : Nat}
    {packet : Pkt}
    {recording : Option Hub}
    {hub after : Hub}
    (formed : WellFormed cfg hub)
    (filters : Filtered cfg now packet recording hub after) :
    WellFormed cfg after := by
  have withIp (ip : UniqueKeys IpTableEntry.ip after.ipTable.items ∧
      ∀ e ∈ after.ipTable.items, hub.isAttached e.session = true) :
      WellFormed cfg after :=
    { uniqueMac := by
        rw [filters.mac]
        exact formed.uniqueMac
      macOwners := by
        intro e present
        rw [filters.mac] at present
        rw [filters.attached]
        exact formed.macOwners e present
      uniqueIp := ip.1
      ipOwners := by
        intro e present
        rw [filters.attached]
        exact ip.2 e present
      monitors := by
        rw [filters.monitorList]
        exact formed.monitors }
  apply withIp
  obtain same | ⟨noted, _, same, recorded⟩ := filters.ip
  · rw [same]
    exact ⟨formed.uniqueIp, formed.ipOwners⟩
  · rw [recorded]
    have formedAfter :
        WellFormed cfg (VirtualHub.recordDhcpReply cfg now packet noted) :=
      (formed.of_sameTables same).recordDhcpReply
    refine ⟨formedAfter.uniqueIp, ?_⟩
    intro e present
    rw [← same.attached,
      ← (onlyIpTable_recordDhcpReply cfg now packet noted).attached]
    exact formedAfter.ipOwners e present

theorem sameTables_storePacket_none
    (draws : Draws)
    (now : Nat)
    (packet : Pkt)
    (hub : Hub) :
    SameTables hub (storePacket cfg draws now none packet hub).2 := by
  have foreign : ¬isFromMonitorPort cfg none = true := Bool.false_ne_true
  unfold storePacket applyStoreFilter noteSender lossAndDelay admitPacket
  rw [if_neg foreign]
  dsimp only
  split
  · exact .refl hub
  · cases findDestination cfg none packet hub with
    | none => exact .refl hub
    | some route =>
        exact sameTables_forwardPacket cfg draws now none packet route hub

/-! ## Runs -/

theorem WellFormed.storePacket
    {draws : Draws}
    {now : Nat}
    {s : Option SessionId}
    {packet : Pkt}
    {hub : Hub}
    (formed : WellFormed cfg hub)
    (attached : ∀ source, s = some source → hub.isAttached source = true) :
    WellFormed cfg (storePacket cfg draws now s packet hub).2 := by
  cases s with
  | none => exact formed.of_sameTables (sameTables_storePacket_none draws now packet hub)
  | some source =>
      have stages := storePacket_stages cfg draws now source packet hub
      generalize VirtualHub.storePacket cfg draws now (some source) packet hub =
        result at stages ⊢
      obtain ⟨verdict, after⟩ := result
      dsimp only at stages ⊢
      have learned {passed : Pkt} {filtered : Hub}
          (arrives : Arrives cfg draws now source packet passed hub filtered) :
          WellFormed cfg (VirtualHub.learnMac cfg now source passed filtered).2 ∧
            (VirtualHub.learnMac cfg now source passed
              filtered).2.isAttached source = true := by
        have stays : filtered.isAttached source = true := by
          rw [arrives.filters.attached]
          exact attached source rfl
        refine ⟨(formed.filtered arrives.filters).learnMac stays, ?_⟩
        rw [(onlyMacTable_learnMac cfg now source passed filtered).attached]
        exact stays
      cases stages with
      | stopped _ _ filters _ => exact formed.filtered filters
      | refusedByMac arrives _ => exact (learned arrives).1
      | refusedByIp arrives _ _ _ =>
          exact (learned arrives).1.checkIpTable (learned arrives).2
      | storm arrives _ _ _ same _ =>
          exact ((learned arrives).1.checkIpTable
            (learned arrives).2).of_sameTables same
      | forwarded arrives _ _ _ _ same _ =>
          exact ((learned arrives).1.checkIpTable (learned arrives).2).of_sameTables
            (same.trans (sameTables_forwardPacket cfg draws now _ _ _ _))

theorem isAttached_updateSession
    (hub : Hub)
    (s other : SessionId)
    (change : SessionState → SessionState) :
    (hub.updateSession s change).isAttached other =
      if other = s then (change (hub.sessions s)).hubPa.isSome
      else hub.isAttached other := by
  unfold Hub.isAttached Hub.updateSession
  dsimp only
  split_ifs with same
  · rw [same, Function.update_self]
  · rw [Function.update_of_ne same]

theorem WellFormed.hubPaInit
    {s : SessionId}
    {hub : Hub}
    (formed : WellFormed cfg hub) :
    WellFormed cfg (hubPaInit cfg s hub) := by
  have stays (other : SessionId) (attached : hub.isAttached other = true) :
      (hub.updateSession s fun state =>
        { state with hubPa := some {} }).isAttached other = true := by
    rw [isAttached_updateSession]
    split_ifs
    · rfl
    · exact attached
  have updated : WellFormed cfg (hub.updateSession s fun state =>
      { state with hubPa := some {} }) :=
    { uniqueMac := formed.uniqueMac
      macOwners := fun e present => stays e.session (formed.macOwners e present)
      uniqueIp := formed.uniqueIp
      ipOwners := fun e present => stays e.session (formed.ipOwners e present)
      monitors := formed.monitors }
  unfold VirtualHub.hubPaInit
  dsimp only
  split_ifs with monitor
  · exact
      { updated with
        monitors := by
          intro other listed
          obtain same | before := List.mem_cons.mp listed
          · rw [same]
            exact monitor
          · exact formed.monitors other before }
  · exact updated

theorem WellFormed.hubPaFree
    {s : SessionId}
    {hub : Hub}
    (formed : WellFormed cfg hub) :
    WellFormed cfg (hubPaFree cfg s hub) := by
  have macKept := hub.macHashTable.deleteAll_perm fun e => e.session = s
  have ipKept := hub.ipTable.deleteAll_perm fun e => e.session = s
  have stays (other : SessionId) (different : other ≠ s)
      (attached : hub.isAttached other = true) (lists : List SessionId) :
      ({ hub with
          macHashTable := hub.macHashTable.deleteAll fun e => e.session = s
          ipTable := hub.ipTable.deleteAll fun e => e.session = s
          monitorList := lists }.updateSession s fun state =>
        { state with hubPa := none }).isAttached other = true := by
    rw [isAttached_updateSession, if_neg different]
    exact attached
  refine
    { uniqueMac := (formed.uniqueMac.sublist List.filter_sublist).perm macKept
      macOwners := ?_
      uniqueIp := (formed.uniqueIp.sublist List.filter_sublist).perm ipKept
      ipOwners := ?_
      monitors := ?_ }
  · intro e present
    obtain ⟨before, other⟩ := List.mem_filter.mp (macKept.mem_iff.mp present)
    exact stays e.session (by simpa using other) (formed.macOwners e before) _
  · intro e present
    obtain ⟨before, other⟩ := List.mem_filter.mp (ipKept.mem_iff.mp present)
    exact stays e.session (by simpa using other) (formed.ipOwners e before) _
  · intro other listed
    apply formed.monitors
    change other ∈ (if (cfg.session s).policy.monitorPort = true then
      hub.monitorList.erase s else hub.monitorList) at listed
    split_ifs at listed with monitor
    · exact List.mem_of_mem_erase listed
    · exact listed

theorem WellFormed.step
    {sys after : System}
    {event : Event}
    (formed : WellFormed cfg sys.hub)
    (stepped : step cfg sys event = some after) :
    WellFormed cfg after.hub := by
  unfold VirtualHub.step at stepped
  cases event with
  | tick interval =>
      injection stepped with same
      rw [← same]
      exact formed
  | addSession s acl =>
      dsimp only at stepped
      split_ifs at stepped with used
      injection stepped with same
      rw [← same]
      have detached : sys.hub.isAttached s = false :=
        Bool.eq_false_iff.mpr fun attached => used (.inl attached)
      have stays (other : SessionId) (attached : sys.hub.isAttached other = true) :
          (sys.hub.updateSession s fun _ => { acl := acl }).isAttached other =
            true := by
        rw [isAttached_updateSession, if_neg]
        · exact attached
        · intro equal
          rw [equal, detached] at attached
          exact absurd attached Bool.false_ne_true
      exact
        { uniqueMac := formed.uniqueMac
          macOwners := fun e present => stays _ (formed.macOwners e present)
          uniqueIp := formed.uniqueIp
          ipOwners := fun e present => stays _ (formed.ipOwners e present)
          monitors := formed.monitors }
  | hubPaInit s =>
      dsimp only at stepped
      split_ifs at stepped
      injection stepped with same
      rw [← same]
      exact formed.hubPaInit
  | storePacket draws s packet =>
      cases s with
      | none =>
          injection stepped with same
          rw [← same]
          exact formed.storePacket fun _ absurdity => nomatch absurdity
      | some source =>
          dsimp only at stepped
          split_ifs at stepped with attached
          injection stepped with same
          rw [← same]
          apply formed.storePacket
          intro other equal
          injection equal with equal
          rw [← equal]
          exact attached
  | hubPaGetNextPacket s =>
      injection stepped with same
      rw [← same]
      exact formed.of_sameTables (sameTables_updatePa sys.hub s _)
  | delSession s =>
      injection stepped with same
      rw [← same]
      exact
        { uniqueMac := formed.uniqueMac
          macOwners := formed.macOwners
          uniqueIp := formed.uniqueIp
          ipOwners := formed.ipOwners
          monitors := formed.monitors }
  | hubPaFree s =>
      dsimp only at stepped
      split_ifs at stepped
      injection stepped with same
      rw [← same]
      exact formed.hubPaFree

theorem macHashTable_newHub : newHub.macHashTable.toArray = [] :=
  HashList.toArray_empty 256 (by decide)

theorem wellFormed_newHub : WellFormed cfg newHub where
  uniqueMac := by
    rw [macHashTable_newHub]
    exact List.nodup_nil
  macOwners e present := by
    rw [macHashTable_newHub] at present
    exact absurd present List.not_mem_nil
  uniqueIp := List.nodup_nil
  ipOwners _ present := absurd present List.not_mem_nil
  monitors _ listed := absurd listed List.not_mem_nil

theorem wellFormed_of_reaches
    {allowed : System → Event → Prop}
    {now : Nat}
    {sys : System}
    (reached : Reaches (step cfg) allowed ⟨newHub, now⟩ sys) :
    WellFormed cfg sys.hub :=
  reached.invariant (fun sys => WellFormed cfg sys.hub) wellFormed_newHub
    fun _ _ _ formed _ stepped => formed.step stepped

end VirtualHub
end SoftEther
