import SoftEther.Cedar.VirtualHub.Limits

/-!
# MAC addresses in use

A session under the duplicate check may not take over a MAC address that another
session used a short time ago.  Two addresses of D-Link are let through when the
hub has the option for them; as the condition binds, the second of them is let
through without the option too.
-/

namespace SoftEther
namespace VirtualHub

open AccessList
open Library

variable {cfg : Settings}

/-! ## No marks of D-Link packets without the option -/

/-- No session has been marked with a spanning tree packet of D-Link. -/
def Unmarked (hub : Hub) : Prop :=
  ∀ s, (hub.sessions s).lastDLinkSTPPacketSendTick = 0

theorem Unmarked.updateSession
    {hub : Hub}
    {change : SessionState → SessionState}
    (unmarked : Unmarked hub)
    (s : SessionId)
    (keeps : ∀ state, state.lastDLinkSTPPacketSendTick = 0 →
      (change state).lastDLinkSTPPacketSendTick = 0) :
    Unmarked (hub.updateSession s change) := by
  intro t
  unfold Hub.updateSession
  dsimp only
  by_cases same : t = s
  · subst same
    rw [Function.update_self]
    exact keeps _ (unmarked t)
  · rw [Function.update_of_ne same]
    exact unmarked t

theorem Unmarked.updatePa
    {hub : Hub}
    (unmarked : Unmarked hub)
    (s : SessionId)
    (change : HubPa → HubPa) :
    Unmarked (hub.updatePa s change) :=
  unmarked.updateSession s fun _ zero => zero

theorem Unmarked.foldl
    {Item : Type}
    {change : Hub → Item → Hub}
    (single : ∀ hub item, Unmarked hub → Unmarked (change hub item))
    (items : List Item)
    {hub : Hub}
    (unmarked : Unmarked hub) :
    Unmarked (items.foldl change hub) := by
  induction items generalizing hub with
  | nil => exact unmarked
  | cons item rest inductionHypothesis =>
      exact inductionHypothesis (single hub item unmarked)

theorem Unmarked.noteSender
    {hub : Hub}
    (unmarked : Unmarked hub)
    (now : Nat)
    (s : Option SessionId)
    (packet : Pkt) :
    Unmarked (noteSender cfg now s packet hub) := by
  unfold VirtualHub.noteSender
  cases s with
  | none => exact unmarked
  | some source => exact unmarked.updateSession source fun _ zero => zero

theorem Unmarked.learnOwnAddress
    {hub : Hub}
    (unmarked : Unmarked hub)
    (s : SessionId)
    (ip : UInt32) :
    Unmarked (learnOwnAddress cfg s ip hub) := by
  unfold VirtualHub.learnOwnAddress
  split_ifs
  · apply unmarked.updateSession
    intro state zero
    split_ifs
    · exact zero
    · exact zero
  · exact unmarked

theorem Unmarked.recordDhcpReply
    {hub : Hub}
    (unmarked : Unmarked hub)
    (now : Nat)
    (p : Pkt) :
    Unmarked (recordDhcpReply cfg now p hub) := by
  unfold VirtualHub.recordDhcpReply
  split_ifs
  · exact unmarked
  · split
    · exact unmarked
    · split
      · exact unmarked
      · unfold registerDhcpAddress
        dsimp only
        split
        · exact unmarked.learnOwnAddress _ _
        · exact unmarked.learnOwnAddress _ _

theorem Unmarked.storePacketToHubPa
    {hub : Hub}
    (unmarked : Unmarked hub)
    (off : cfg.option.fixForDLinkBPDU = false)
    (now : Nat)
    (dest : SessionId)
    (src : Option SessionId)
    (data : List UInt8)
    (packet : Option Pkt)
    (isFlooding noCheckAcl : Bool) :
    Unmarked (storePacketToHubPa cfg now dest src data packet isFlooding
      noCheckAcl hub) := by
  have inserted {before : Hub} (unmarked : Unmarked before) :
      Unmarked (insertIntoQueue cfg src dest data packet isFlooding
        (recordDLinkPacket cfg now src dest packet before)) := by
    have unrecorded : recordDLinkPacket cfg now src dest packet before =
        before := by
      unfold recordDLinkPacket
      split
      · exact if_neg fun record => by simp [off] at record
      · rfl
    rw [unrecorded]
    unfold insertIntoQueue
    split
    · exact unmarked
    · exact unmarked.updatePa _ _
  unfold VirtualHub.storePacketToHubPa
  split
  · exact unmarked
  · split_ifs
    · exact unmarked
    · exact unmarked
    · split
      · exact inserted unmarked
      · dsimp only
        split_ifs
        · exact unmarked.updatePa _ _
        · exact inserted (unmarked.updatePa _ _)

theorem Unmarked.applyStoreFilter
    {hub : Hub}
    (unmarked : Unmarked hub)
    (off : cfg.option.fixForDLinkBPDU = false)
    (now : Nat)
    (s : Option SessionId)
    (packet : Pkt) :
    Unmarked (applyStoreFilter cfg now s packet hub).2 := by
  unfold VirtualHub.applyStoreFilter
  cases s with
  | none => exact unmarked
  | some source =>
      dsimp only
      split_ifs
      · unfold storePacketFilter
        have limited : Unmarked
            (storePacketFilterByTrafficLimiter cfg now source packet hub).2 := by
          unfold storePacketFilterByTrafficLimiter
          split_ifs
          · exact unmarked
          · exact unmarked
          · split
            · exact unmarked
            · exact unmarked.updatePa _ _
        generalize storePacketFilterByTrafficLimiter cfg now source packet hub =
          limit at limited ⊢
        obtain ⟨_ | _, noted⟩ := limit
        · exact limited
        · unfold storePacketFilterByPolicy
          dsimp only
          split_ifs
          · exact limited
          · dsimp only
            unfold applyAccessList
            dsimp only
            have recorded := @Unmarked.recordDhcpReply cfg _ limited now packet
            split
            · apply Unmarked.storePacketToHubPa _ off
              exact recorded.updateSession _ fun _ zero => zero
            · exact recorded.updateSession _ fun _ zero => zero
      · exact unmarked

theorem Unmarked.learnMac
    {hub : Hub}
    (unmarked : Unmarked hub)
    (now : Nat)
    (s : SessionId)
    (packet : Pkt) :
    Unmarked (learnMac cfg now s packet hub).2 := by
  have flushed : Unmarked (flushMacTable cfg now hub) := by
    unfold flushMacTable
    split_ifs
    · exact unmarked
    · exact unmarked
  unfold VirtualHub.learnMac
  split
  · unfold registerMac
    dsimp only
    split_ifs
    · exact flushed
    · exact flushed
    · exact flushed
  · split_ifs
    · exact unmarked
    · unfold claimMac
      split_ifs
      · exact unmarked
      · exact unmarked
      · exact unmarked

theorem Unmarked.checkIpTable
    {hub : Hub}
    (unmarked : Unmarked hub)
    (now : Nat)
    (s : SessionId)
    (packet : Pkt) :
    Unmarked (checkIpTable cfg now s packet hub).2 := by
  have ofIPv6 : Unmarked (checkIPv6Source cfg now s packet hub).2 := by
    unfold checkIPv6Source
    split
    · exact unmarked
    · split
      · split_ifs
        · exact unmarked
        · exact unmarked
        · exact unmarked
      · split_ifs
        · exact unmarked
        · exact unmarked
        · exact unmarked
  have ofIPv4 {before : Hub} (unmarked : Unmarked before) :
      Unmarked (checkIPv4Source cfg now s packet before).2 := by
    unfold checkIPv4Source
    dsimp only
    split
    · exact unmarked
    · split
      · split_ifs
        · exact unmarked
        · exact unmarked
        · apply Unmarked.learnOwnAddress
          exact unmarked
        · exact unmarked
      · split_ifs
        · exact unmarked
        · exact unmarked
        · exact unmarked
        · exact unmarked
  unfold VirtualHub.checkIpTable
  split_ifs
  · exact unmarked
  · generalize checkIPv6Source cfg now s packet hub = result at ofIPv6 ⊢
    obtain ⟨_ | _, after⟩ := result
    · exact ofIPv6
    · exact ofIPv4 ofIPv6

theorem Unmarked.packetLog
    {hub : Hub}
    (unmarked : Unmarked hub)
    (now : Nat)
    (s : Option SessionId)
    (p : Pkt) :
    Unmarked (packetLog cfg now s p hub).2 := by
  unfold VirtualHub.packetLog
  cases s with
  | none => exact unmarked
  | some source =>
      dsimp only
      split_ifs
      · unfold checkMaxLoggedPacketsPerMinute
        dsimp only
        split
        · exact unmarked
        · dsimp only
          apply unmarked.updateSession
          intro _ zero
          exact zero
      · exact unmarked

theorem Unmarked.forwardPacket
    {hub : Hub}
    (unmarked : Unmarked hub)
    (off : cfg.option.fixForDLinkBPDU = false)
    (draws : Draws)
    (now : Nat)
    (s : Option SessionId)
    (packet : Pkt)
    (route : Route) :
    Unmarked (forwardPacket cfg draws now s packet route hub) := by
  unfold VirtualHub.forwardPacket
  dsimp only
  have monitored : Unmarked (storeToMonitors cfg now s packet hub) := by
    apply Unmarked.foldl _ _ unmarked
    intro hub monitor unmarked
    exact unmarked.storePacketToHubPa off now monitor s _ _ _ _
  cases route with
  | unicast entry =>
      unfold storeUnicast
      dsimp only
      split_ifs
      · exact monitored
      · have logged := @Unmarked.packetLog cfg _ monitored now s
          { packet with
            packetData := dataWithoutDefaultRouter cfg entry.session packet }
        generalize VirtualHub.packetLog cfg now s _ _ = result at logged ⊢
        obtain ⟨_ | _, after⟩ := result
        · exact logged
        · exact logged.storePacketToHubPa off now entry.hubPa s _ _ _ _
  | flood =>
      unfold storeBroadcast
      have logged := @Unmarked.packetLog cfg _ monitored now s packet
      generalize VirtualHub.packetLog cfg now s _ _ = result at logged ⊢
      obtain ⟨_ | _, after⟩ := result
      · exact logged
      · apply Unmarked.foldl _ _ logged
        intro hub dest unmarked
        unfold floodTo
        split_ifs
        · exact unmarked
        · exact unmarked
        · exact unmarked.storePacketToHubPa off now dest s _ _ _ _
        · exact unmarked

theorem Unmarked.admitPacket
    {hub : Hub}
    (unmarked : Unmarked hub)
    (off : cfg.option.fixForDLinkBPDU = false)
    (draws : Draws)
    (now : Nat)
    (s : Option SessionId)
    (packet : Pkt) :
    Unmarked (admitPacket cfg draws now s packet hub).2 := by
  unfold VirtualHub.admitPacket
  cases s with
  | none =>
      dsimp only
      split
      · rename_i found
        injection found with _ same
        rw [← same]
        exact unmarked
      · rename_i found
        injection found with _ same
        rw [← same]
        exact unmarked.forwardPacket off draws now none packet _
  | some source =>
      have checked : Unmarked (checkTables cfg draws now source packet hub).2 := by
        unfold checkTables
        split_ifs
        · exact unmarked
        · have learned := @Unmarked.learnMac cfg _ unmarked now source packet
          generalize VirtualHub.learnMac cfg now source packet hub = learn
            at learned ⊢
          obtain ⟨_ | _, hub⟩ := learn
          · exact learned
          · dsimp only
            cases findDestination cfg (some source) packet hub with
            | none => exact learned
            | some route =>
                dsimp only
                have checked := @Unmarked.checkIpTable cfg _ learned now source
                  packet
                generalize VirtualHub.checkIpTable cfg now source packet hub =
                  check at checked ⊢
                obtain ⟨_ | _, hub⟩ := check
                · exact checked
                · cases route with
                  | unicast entry => exact checked
                  | flood =>
                      dsimp only
                      have calm : Unmarked (checkBroadcastStorm cfg
                          draws.stormDraw now source packet hub).2 := by
                        unfold checkBroadcastStorm
                        split_ifs
                        · exact checked
                        · split
                          · exact checked
                          · exact checked.updatePa _ _
                      generalize checkBroadcastStorm cfg draws.stormDraw now
                        source packet hub = calmed at calm ⊢
                      obtain ⟨_ | _, hub⟩ := calmed
                      · exact calm
                      · exact calm
      dsimp only
      generalize checkTables cfg draws now source packet hub = result
        at checked ⊢
      obtain ⟨_ | route, ready⟩ := result
      · exact checked
      · exact checked.forwardPacket off draws now (some source) packet route

theorem Unmarked.storePacket
    {hub : Hub}
    (unmarked : Unmarked hub)
    (off : cfg.option.fixForDLinkBPDU = false)
    (draws : Draws)
    (now : Nat)
    (s : Option SessionId)
    (packet : Pkt) :
    Unmarked (storePacket cfg draws now s packet hub).2 := by
  unfold VirtualHub.storePacket
  split_ifs
  · exact unmarked
  · have filtered := (@Unmarked.noteSender cfg _ unmarked now s
      packet).applyStoreFilter off now s packet
    generalize VirtualHub.applyStoreFilter cfg now s packet _ = result
      at filtered ⊢
    obtain ⟨_ | passed, hub⟩ := result
    · exact filtered
    · dsimp only
      unfold lossAndDelay
      by_cases lost : isLost draws passed
      · rw [if_pos lost]
        exact filtered
      · rw [if_neg lost]
        cases s with
        | none => exact filtered.admitPacket off draws now none passed
        | some source =>
            dsimp only
            split_ifs
            · exact filtered.admitPacket off draws now (some source) passed
            · unfold delayPacket
              dsimp only at filtered ⊢
              apply filtered.updateSession
              intro _ zero
              exact zero

theorem Unmarked.step
    {sys after : System}
    {event : Event}
    (unmarked : Unmarked sys.hub)
    (off : cfg.option.fixForDLinkBPDU = false)
    (stepped : step cfg sys event = some after) :
    Unmarked after.hub := by
  unfold VirtualHub.step at stepped
  cases event with
  | tick interval =>
      injection stepped with same
      rw [← same]
      exact unmarked
  | addSession s acl =>
      dsimp only at stepped
      split_ifs at stepped
      injection stepped with same
      rw [← same]
      have added : Unmarked (sys.hub.updateSession s fun _ => { acl := acl }) := by
        apply unmarked.updateSession
        intro _ _
        rfl
      exact added
  | hubPaInit s =>
      dsimp only at stepped
      split_ifs at stepped
      injection stepped with same
      rw [← same]
      have attached : Unmarked (sys.hub.updateSession s fun state =>
          { state with hubPa := some {} }) := by
        apply unmarked.updateSession
        intro _ zero
        exact zero
      unfold hubPaInit
      dsimp only
      split_ifs
      · exact attached
      · exact attached
  | storePacket draws s packet =>
      cases s with
      | none =>
          injection stepped with same
          rw [← same]
          exact unmarked.storePacket off draws sys.now none packet
      | some source =>
          dsimp only at stepped
          split_ifs at stepped
          injection stepped with same
          rw [← same]
          exact unmarked.storePacket off draws sys.now (some source) packet
  | hubPaGetNextPacket s =>
      injection stepped with same
      rw [← same]
      exact unmarked.updatePa s _
  | delSession s =>
      injection stepped with same
      rw [← same]
      exact unmarked
  | hubPaFree s =>
      dsimp only at stepped
      split_ifs at stepped
      injection stepped with same
      rw [← same]
      unfold hubPaFree
      dsimp only
      refine Unmarked.updateSession ?_ s ?_
      · exact unmarked
      · intro _ zero
        exact zero

theorem unmarked_of_reaches
    {allowed : System → Event → Prop}
    {now : Nat}
    {sys : System}
    (off : cfg.option.fixForDLinkBPDU = false)
    (reached : Reaches (step cfg) allowed ⟨newHub, now⟩ sys) :
    Unmarked sys.hub :=
  reached.invariant (fun sys => Unmarked sys.hub) (fun _ => rfl)
    fun _ _ _ unmarked _ stepped => unmarked.step off stepped

/-! ## The duplicate check -/

theorem claimMac_recent
    {now : Nat}
    {s : SessionId}
    {packet : Pkt}
    {entry : MacTableEntry}
    {hub : Hub}
    (off : cfg.option.fixForDLinkBPDU = false)
    (unmarked : Unmarked hub)
    (checks : checksMac cfg s = true)
    (foreign : packet.macAddressSrc ≠ cfg.hubMacAddr)
    (recent : now < entry.updatedTime + MAC_TABLE_EXCLUSIVE_TIME) :
    claimMac cfg now s packet entry hub =
      if packet.macAddressSrc = dlinkMac2 then
        (true, takeOverMac now s entry hub)
      else (false, hub) := by
  have fresh : isRepeatedDLinkPacket cfg now s packet hub = false := by
    unfold isRepeatedDLinkPacket
    simp [unmarked s]
  have exempt : isDLinkBPDU cfg packet.macAddressSrc =
      decide (packet.macAddressSrc = dlinkMac2) := by
    unfold isDLinkBPDU
    simp [off]
  unfold claimMac
  rw [if_pos ⟨checks, foreign, Nat.le_of_lt recent⟩, fresh, exempt]
  by_cases dlink : packet.macAddressSrc = dlinkMac2
  · rw [if_pos dlink, if_pos ⟨decide_eq_true dlink, rfl⟩]
  · rw [if_neg dlink, if_neg fun exempt => dlink (of_decide_eq_true exempt.1)]

theorem Unmarked.beforeMacTable
    {draws : Draws}
    {now : Nat}
    {source : SessionId}
    {packet passed : Pkt}
    {hub filtered : Hub}
    (unmarked : Unmarked hub)
    (off : cfg.option.fixForDLinkBPDU = false)
    (before : beforeMacTable cfg draws now source packet hub =
      some (passed, filtered)) :
    Unmarked filtered := by
  have through := (@Unmarked.noteSender cfg _ unmarked now (some source)
    packet).applyStoreFilter off now (some source) packet
  unfold VirtualHub.beforeMacTable at before
  split_ifs at before
  generalize VirtualHub.applyStoreFilter cfg now (some source) packet _ = result
    at through before
  obtain ⟨_ | forwarded, after⟩ := result
  · exact nomatch before
  · dsimp only at before through
    split_ifs at before
    injection before with same
    injection same with _ same
    rw [← same]
    exact through

theorem Arrives.foreign
    {draws : Draws}
    {now : Nat}
    {source : SessionId}
    {packet passed : Pkt}
    {hub filtered : Hub}
    (arrives : Arrives cfg draws now source packet passed hub filtered) :
    passed.macAddressSrc ≠ cfg.hubMacAddr := by
  have before := arrives.before
  unfold beforeMacTable at before
  split_ifs at before
  split at before
  · exact nomatch before
  · split_ifs at before with stopped
    injection before with same
    injection same with same
    rw [← same]
    exact fun own => stopped (.inr (.inr own))

theorem storePacket_stopped
    {draws : Draws}
    {now : Nat}
    {source : SessionId}
    {packet : Pkt}
    {hub : Hub}
    (before : beforeMacTable cfg draws now source packet hub = none) :
    (storePacket cfg draws now (some source) packet hub).2.macHashTable =
        hub.macHashTable ∧
      (storePacket cfg draws now (some source) packet hub).1 ≠ .forwarded := by
  have stages := storePacket_stages cfg draws now source packet hub
  generalize storePacket cfg draws now (some source) packet hub = result
    at stages ⊢
  obtain ⟨verdict, after⟩ := result
  dsimp only at stages ⊢
  have never {passed : Pkt} {filtered : Hub}
      (arrives : Arrives cfg draws now source packet passed hub filtered) :
      False := by
    have reaches := arrives.before
    rw [before] at reaches
    exact nomatch reaches
  cases stages with
  | stopped _ kept filters _ => exact ⟨filters.mac, kept⟩
  | refusedByMac arrives _ => exact (never arrives).elim
  | refusedByIp arrives _ _ _ => exact (never arrives).elim
  | storm arrives _ _ _ _ _ => exact (never arrives).elim
  | forwarded arrives _ _ _ _ _ _ => exact (never arrives).elim

theorem storePacket_learns
    {draws : Draws}
    {now : Nat}
    {source : SessionId}
    {packet passed : Pkt}
    {hub filtered : Hub}
    (before : beforeMacTable cfg draws now source packet hub =
      some (passed, filtered)) :
    Arrives cfg draws now source packet passed hub filtered ∧
      (storePacket cfg draws now (some source) packet hub).2.macHashTable =
        (learnMac cfg now source passed filtered).2.macHashTable ∧
      ((storePacket cfg draws now (some source) packet hub).1 = .forwarded →
        (learnMac cfg now source passed filtered).1 = true) := by
  have stages := storePacket_stages cfg draws now source packet hub
  generalize storePacket cfg draws now (some source) packet hub = result
    at stages ⊢
  obtain ⟨verdict, after⟩ := result
  dsimp only at stages ⊢
  have same {p : Pkt} {f : Hub}
      (arrives : Arrives cfg draws now source packet p hub f) :
      p = passed ∧ f = filtered := by
    have reaches := arrives.before
    rw [before] at reaches
    injection reaches with equal
    injection equal with samePacket sameHub
    exact ⟨samePacket.symm, sameHub.symm⟩
  cases stages with
  | stopped stopped _ _ _ =>
      rw [before] at stopped
      exact nomatch stopped
  | refusedByMac arrives _ =>
      obtain ⟨rfl, rfl⟩ := same arrives
      exact ⟨arrives, rfl, fun forwarded => nomatch forwarded⟩
  | refusedByIp arrives passes _ _ =>
      obtain ⟨rfl, rfl⟩ := same arrives
      exact ⟨arrives, (onlyIpTable_checkIpTable cfg now source _ _).mac,
        fun _ => passes⟩
  | storm arrives passes _ _ kept _ =>
      obtain ⟨rfl, rfl⟩ := same arrives
      exact ⟨arrives,
        kept.mac.trans (onlyIpTable_checkIpTable cfg now source _ _).mac,
        fun _ => passes⟩
  | @forwarded p _ ready route arrives passes _ _ _ kept _ =>
      have given := sameTables_forwardPacket cfg draws now (some source) p route
        ready
      obtain ⟨rfl, rfl⟩ := same arrives
      exact ⟨arrives, (given.mac.trans kept.mac).trans
        (onlyIpTable_checkIpTable cfg now source _ _).mac, fun _ => passes⟩

theorem owner_takeOverMac
    {now : Nat}
    {s : SessionId}
    {entry : MacTableEntry}
    {hub : Hub}
    (unique : UniqueKeys MacTableEntry.key hub.macHashTable.toArray)
    (present : entry ∈ hub.macHashTable.toArray) :
    ((takeOverMac now s entry hub).macHashTable.search entry.key).map
      MacTableEntry.session = some s := by
  let taken : MacTableEntry :=
    { entry with
      session := s
      hubPa := s
      createdTime := now
      updatedTime := now
      sameSession := rfl }
  have perm : (takeOverMac now s entry hub).macHashTable.toArray.Perm
      (taken :: hub.macHashTable.toArray.erase entry) :=
    HashList.write_perm _ present
  have inside : taken ∈ (takeOverMac now s entry hub).macHashTable.toArray :=
    perm.mem_iff.mpr List.mem_cons_self
  have uniqueAfter : UniqueKeys MacTableEntry.key
      (takeOverMac now s entry hub).macHashTable.toArray := by
    have rewritten : UniqueKeys MacTableEntry.key
        (taken :: hub.macHashTable.toArray.erase entry) :=
      unique.rewrite present rfl
    exact rewritten.perm perm
  cases searched :
    (takeOverMac now s entry hub).macHashTable.search entry.key with
  | none =>
      have sameKey : taken.key = entry.key := rfl
      exact absurd sameKey (HashList.search_complete searched inside)
  | some found =>
      obtain ⟨foundIn, sameKey⟩ := HashList.search_sound searched
      rw [uniqueAfter.eq_of_key foundIn inside sameKey]
      rfl

/-- In every run of a hub without the option for D-Link, a packet of a session
under the duplicate check, whose source address another session used a short
time ago, leaves the address with that session and is not given out, exactly
when it does not get to the MAC address table or the address is not the second
one of D-Link. -/
theorem macExclusive_iff
    {now : Nat}
    {sys : System}
    (off : cfg.option.fixForDLinkBPDU = false)
    (reached : Reaches (step cfg) (fun _ _ => True) ⟨newHub, now⟩ sys)
    {source : SessionId}
    {packet : Pkt}
    {entry : MacTableEntry}
    (checks : checksMac cfg source = true)
    (registered :
      sys.hub.macHashTable.search (macKey cfg packet.macAddressSrc packet) =
        some entry)
    (other : entry.session ≠ source)
    (recent : sys.now < entry.updatedTime + MAC_TABLE_EXCLUSIVE_TIME)
    (draws : Draws) :
    (((storePacket cfg draws sys.now (some source) packet
          sys.hub).2.macHashTable.search
            (macKey cfg packet.macAddressSrc packet)).map
          MacTableEntry.session = some entry.session ∧
        (storePacket cfg draws sys.now (some source) packet sys.hub).1 ≠
          .forwarded) ↔
      beforeMacTable cfg draws sys.now source packet sys.hub = none ∨
        packet.macAddressSrc ≠ dlinkMac2 := by
  cases before : beforeMacTable cfg draws sys.now source packet sys.hub with
  | none =>
      obtain ⟨kept, stopped⟩ := storePacket_stopped before
      refine iff_of_true ⟨?_, stopped⟩ (.inl rfl)
      rw [kept, registered]
      rfl
  | some arrival =>
      obtain ⟨passed, filtered⟩ := arrival
      obtain ⟨arrives, learns, passes⟩ := storePacket_learns before
      have formed := (wellFormed_of_reaches reached).filtered arrives.filters
      have claimed := @claimMac_recent cfg sys.now source passed entry filtered
        off ((unmarked_of_reaches off reached).beforeMacTable off before) checks
        arrives.foreign recent
      obtain ⟨checked, delay, jitter, loss, rfl⟩ := arrives.sameFrame
      have searched : filtered.macHashTable.search
          (macKey cfg packet.macAddressSrc packet) = some entry := by
        rw [arrives.filters.mac]
        exact registered
      have learned : learnMac cfg sys.now source
          { packet with
            accessChecked := checked
            delay := delay
            jitter := jitter
            loss := loss } filtered =
          if packet.macAddressSrc = dlinkMac2 then
            (true, takeOverMac sys.now source entry filtered)
          else (false, filtered) := by
        rw [← claimed]
        unfold learnMac
        have searchedHere : filtered.macHashTable.search
            (macKey cfg packet.macAddressSrc
              { packet with
                accessChecked := checked
                delay := delay
                jitter := jitter
                loss := loss }) = some entry :=
          searched
        dsimp only
        rw [searchedHere]
        dsimp only
        rw [if_neg other]
      rw [learned] at learns passes
      rw [learns]
      obtain ⟨present, sameKey⟩ := HashList.search_sound searched
      by_cases dlink : packet.macAddressSrc = dlinkMac2
      · rw [if_pos dlink]
        refine iff_of_false ?_ ?_
        · rintro ⟨stays, _⟩
          rw [← sameKey, owner_takeOverMac formed.uniqueMac present] at stays
          exact other (Option.some.inj stays).symm
        · rintro (stopped | different)
          · exact nomatch stopped
          · exact different dlink
      · rw [if_neg dlink] at passes ⊢
        refine iff_of_true ⟨?_, ?_⟩ (.inr dlink)
        · rw [searched]
          rfl
        · intro forwarded
          exact Bool.false_ne_true (passes forwarded)

/-- Settings with the duplicate check for every session and without the option
for D-Link. -/
def guardedSettings : Settings :=
  { privateSettings with
    session := fun _ => { policy := { checkMac := true } }
    option := { fixForDLinkBPDU := false } }

/-- A frame from the second address of D-Link. -/
def dlinkFrame : Pkt :=
  exampleFrame dlinkMac2 (exampleMac 99) false

/-- The hub after the second session has used the second address of D-Link. -/
def dlinkHub : System :=
  (run (step guardedSettings) (twoSessions ++ [.storePacket {} (some 2) dlinkFrame])
    ⟨newHub, 1000⟩).getD ⟨newHub, 1000⟩

set_option maxRecDepth 10000 in
/-- The first session takes the second address of D-Link over at once, and its
frame is given out. -/
theorem dlinkFrame_takesOver :
    run (step guardedSettings)
        (twoSessions ++ [.storePacket {} (some 2) dlinkFrame]) ⟨newHub, 1000⟩ =
      some dlinkHub ∧
    checksMac guardedSettings 1 = true ∧
    guardedSettings.option.fixForDLinkBPDU = false ∧
    (dlinkHub.hub.macHashTable.search (dlinkMac2, 0)).map
        (fun entry => (entry.session, entry.updatedTime)) = some (2, 1000) ∧
    dlinkHub.now = 1000 ∧
    (storePacket guardedSettings {} dlinkHub.now (some 1) dlinkFrame
        dlinkHub.hub).1 = .forwarded ∧
    ((storePacket guardedSettings {} dlinkHub.now (some 1) dlinkFrame
          dlinkHub.hub).2.macHashTable.search (dlinkMac2, 0)).map
        MacTableEntry.session = some 1 :=
  ⟨rfl, rfl, rfl, rfl, rfl, rfl, rfl⟩

/-- The hub after the second session has used an address of its own. -/
def guardedHub : System :=
  (run (step guardedSettings) (twoSessions ++ [frameOf 2 5])
    ⟨newHub, 1000⟩).getD ⟨newHub, 1000⟩

def guardedEntry : MacTableEntry where
  macAddress := exampleMac 5
  vlanId := 0
  session := 2
  hubPa := 2
  createdTime := 1000
  updatedTime := 1000

def guardedFrame : Pkt :=
  exampleFrame (exampleMac 5) (exampleMac 99) false

set_option maxRecDepth 10000 in
/-- The first session uses the address of the second. -/
theorem guardedHub_exclusive :
    (((storePacket guardedSettings {} guardedHub.now (some 1) guardedFrame
          guardedHub.hub).2.macHashTable.search
            (macKey guardedSettings guardedFrame.macAddressSrc
              guardedFrame)).map
          MacTableEntry.session = some guardedEntry.session ∧
        (storePacket guardedSettings {} guardedHub.now (some 1) guardedFrame
          guardedHub.hub).1 ≠ .forwarded) ↔
      beforeMacTable guardedSettings {} guardedHub.now 1 guardedFrame
          guardedHub.hub = none ∨
        guardedFrame.macAddressSrc ≠ dlinkMac2 :=
  macExclusive_iff rfl
    (Reaches.of_run (show run (step guardedSettings)
      (twoSessions ++ [frameOf 2 5]) ⟨newHub, 1000⟩ = some guardedHub from rfl))
    rfl (show guardedHub.hub.macHashTable.search _ = some guardedEntry from rfl)
    (by decide) (by decide) {}

end VirtualHub
end SoftEther
