import SoftEther.Cedar.Dhcp.Defs

/-!
# Leases of the DHCP server

In every state that messages and polls reach, the lease list holds at most one
lease per address, every leased address lies in the range of assignment, and an
acknowledgment goes only to the client that holds every lease of the
acknowledged address.
-/

namespace SoftEther
namespace Dhcp

open Library

/-- The lease list of a server whose range of assignment is that of `start`. -/
structure LeasesOk (start v : DhcpServer) : Prop where
  sameStart : v.dhcpIpStart = start.dhcpIpStart
  sameEnd : v.dhcpIpEnd = start.dhcpIpEnd
  unique : (v.dhcpLeaseList.items.map DhcpLease.ipAddress).Nodup
  ranged : ∀ d ∈ v.dhcpLeaseList.items, inRange start d.ipAddress = true
  nonzero : ∀ d ∈ v.dhcpLeaseList.items, d.ipAddress ≠ 0

/-- An address that a client may get: it lies in the range of assignment, and
nobody else holds a lease of it. -/
def Grantable (v : DhcpServer) (mac : MacAddress) (ip : Nat) : Prop :=
  inRange v ip = true ∧
    ∀ d ∈ v.dhcpLeaseList.items, d.ipAddress = ip → d.macAddress = mac

namespace LeasesOk

variable {start v : DhcpServer}

theorem inRange_eq (ok : LeasesOk start v) (ip : Nat) :
    inRange v ip = inRange start ip := by
  unfold inRange
  rw [ok.sameStart, ok.sameEnd]

theorem eq_of_ipAddress
    (ok : LeasesOk start v)
    {d e : DhcpLease}
    (dPresent : d ∈ v.dhcpLeaseList.items)
    (ePresent : e ∈ v.dhcpLeaseList.items)
    (same : d.ipAddress = e.ipAddress) :
    d = e :=
  List.inj_on_of_nodup_map ok.unique dPresent ePresent same

end LeasesOk

theorem LeasesOk.of_subperm
    {start v after : DhcpServer}
    (ok : LeasesOk start v)
    (sameStart : after.dhcpIpStart = v.dhcpIpStart)
    (sameEnd : after.dhcpIpEnd = v.dhcpIpEnd)
    (kept : after.dhcpLeaseList.items.Subperm v.dhcpLeaseList.items) :
    LeasesOk start after := by
  have subset := kept.subset
  refine ⟨sameStart.trans ok.sameStart, sameEnd.trans ok.sameEnd, ?_, ?_, ?_⟩
  · obtain ⟨middle, isPerm, isSublist⟩ := kept
    exact (isPerm.map DhcpLease.ipAddress).nodup_iff.mp
      (ok.unique.sublist (isSublist.map DhcpLease.ipAddress))
  · intro d present
    exact ok.ranged d (subset present)
  · intro d present
    exact ok.nonzero d (subset present)

/-! ## What the lookups find -/

variable {ip : Nat} {start v : DhcpServer} {mac : MacAddress} {hash : List UInt8 → List UInt8}
    {p : DhcpPacket}

private theorem ipAddress_of_search
    {v : DhcpServer}
    {d : DhcpLease}
    (found : searchDhcpLeaseByIp v ip = some d) :
    d ∈ v.dhcpLeaseList.items ∧ d.ipAddress = ip :=
  ⟨List.mem_of_find?_eq_some found, by simpa using List.find?_some found⟩

private theorem not_leased_of_search
    {v : DhcpServer}
    (missing : searchDhcpLeaseByIp v ip = none)
    {d : DhcpLease}
    (present : d ∈ v.dhcpLeaseList.items) :
    d.ipAddress ≠ ip := by
  have free := List.find?_eq_none.mp missing d present
  simpa using free

private theorem Grantable.of_free
    {v : DhcpServer}
    (ranged : inRange v ip = true)
    (missing : searchDhcpLeaseByIp v ip = none)
    (mac : MacAddress) :
    Grantable v mac ip :=
  ⟨ranged, fun _ present same => absurd same (not_leased_of_search missing present)⟩

private theorem acceptRequested_grantable
    (ok : LeasesOk start v)
    {requestIp : Nat}
    (accepted : acceptRequested v mac requestIp ≠ 0) :
    Grantable v mac (acceptRequested v mac requestIp) := by
  unfold acceptRequested at accepted ⊢
  cases searched : searchDhcpLeaseByIp v requestIp with
  | none =>
      rw [searched] at accepted
      dsimp only at accepted ⊢
      split_ifs at accepted ⊢ with nonzero ranged
      · exact .of_free ranged searched mac
      all_goals exact absurd rfl accepted
  | some d =>
      rw [searched] at accepted
      dsimp only at accepted ⊢
      split_ifs at accepted ⊢ with nonzero own ranged
      · obtain ⟨present, same⟩ := ipAddress_of_search searched
        refine ⟨ranged, fun e ePresent eSame => ?_⟩
        rw [ok.eq_of_ipAddress ePresent present (eSame.trans same.symm)]
        exact (MacAddress.eq_of_cmpBytes own).symm
      all_goals exact absurd rfl accepted

private theorem freeFrom_spec
    (ok : LeasesOk start v)
    {fuel i : Nat}
    (small : i < X32)
    (reached : Endian32 v.dhcpIpStart ≤ i ∨ i = 0)
    (found : freeFrom v fuel i ≠ 0) :
    inRange v (freeFrom v fuel i) = true ∧
      searchDhcpLeaseByIp v (freeFrom v fuel i) = none := by
  induction fuel generalizing i with
  | zero => exact absurd rfl found
  | succ fuel inductionHypothesis =>
      unfold freeFrom at found ⊢
      split_ifs at found ⊢ with before missing
      · have positive : i ≠ 0 := by
          rintro rfl
          exact found rfl
        refine ⟨?_, missing⟩
        unfold inRange
        rw [Endian32_Endian32 small, decide_eq_true_eq]
        exact ⟨reached.resolve_right positive, before⟩
      · -- The address 0 is never leased, so the loop cannot pass it.
        have positive : i ≠ 0 := by
          rintro rfl
          cases searched : searchDhcpLeaseByIp v (Endian32 0) with
          | none => exact missing searched
          | some d =>
              obtain ⟨present, same⟩ := ipAddress_of_search searched
              exact ok.nonzero d present same
        apply inductionHypothesis (addUINT_lt i 1) _ found
        have afterStart := reached.resolve_right positive
        unfold addUINT X32 at *
        omega
      · exact absurd rfl found

private theorem freeByRandomFrom_spec
    {v : DhcpServer}
    (ordered : Endian32 v.dhcpIpStart ≤ Endian32 v.dhcpIpEnd)
    (notAll : Endian32 v.dhcpIpEnd - Endian32 v.dhcpIpStart + 1 < X32)
    {numRetry i : Nat}
    (found : freeByRandomFrom hash v mac numRetry i ≠ 0) :
    inRange v (freeByRandomFrom hash v mac numRetry i) = true ∧
      searchDhcpLeaseByIp v (freeByRandomFrom hash v mac numRetry i) = none := by
  induction numRetry generalizing i with
  | zero => exact absurd rfl found
  | succ numRetry inductionHypothesis =>
      unfold freeByRandomFrom at found ⊢
      dsimp only at found ⊢
      generalize READ_UINT (hash (WRITE_UINT i ++ mac.val)) = randInt at found ⊢
      split_ifs at found ⊢ with missing
      · refine ⟨?_, missing⟩
        have endSmall := Endian32_lt v.dhcpIpEnd
        have size :
            addUINT (subUINT (Endian32 v.dhcpIpEnd) (Endian32 v.dhcpIpStart)) 1 =
              Endian32 v.dhcpIpEnd - Endian32 v.dhcpIpStart + 1 := by
          rw [subUINT_of_le ordered endSmall, addUINT_of_lt notAll]
        have chosen :
            randInt % (Endian32 v.dhcpIpEnd - Endian32 v.dhcpIpStart + 1) <
              Endian32 v.dhcpIpEnd - Endian32 v.dhcpIpStart + 1 :=
          Nat.mod_lt _ (Nat.succ_pos _)
        rw [size]
        unfold inRange
        rw [Endian32_Endian32 (addUINT_lt _ _), addUINT_of_lt (by omega),
          decide_eq_true_eq]
        omega
      · exact inductionHypothesis found

private theorem getFreeDhcpIpAddress_grantable
    (ok : LeasesOk start v)
    (mac : MacAddress)
    (found : getFreeDhcpIpAddress v ≠ 0) :
    Grantable v mac (getFreeDhcpIpAddress v) := by
  obtain ⟨ranged, missing⟩ :=
    freeFrom_spec ok (Endian32_lt v.dhcpIpStart) (.inl (Nat.le_refl _)) found
  exact .of_free ranged missing mac

private theorem getFreeDhcpIpAddressByRandom_grantable
    {v : DhcpServer}
    (found : getFreeDhcpIpAddressByRandom hash v mac ≠ 0) :
    Grantable v mac (getFreeDhcpIpAddressByRandom hash v mac) := by
  unfold getFreeDhcpIpAddressByRandom at found ⊢
  dsimp only at found ⊢
  split_ifs at found ⊢ with empty
  · exact absurd rfl found
  · have startSmall := Endian32_lt v.dhcpIpStart
    have endSmall := Endian32_lt v.dhcpIpEnd
    by_cases all : Endian32 v.dhcpIpEnd - Endian32 v.dhcpIpStart + 1 < X32
    · obtain ⟨ranged, missing⟩ :=
        freeByRandomFrom_spec (Nat.le_of_not_lt empty) all found
      exact .of_free ranged missing mac
    · -- The range is the whole address space, and the number of turns wraps to 0.
      have noTurns :
          mulUINT
            (addUINT (subUINT (Endian32 v.dhcpIpEnd) (Endian32 v.dhcpIpStart)) 1)
            2 = 0 := by
        have whole : Endian32 v.dhcpIpEnd - Endian32 v.dhcpIpStart = X32 - 1 := by
          omega
        rw [subUINT_of_le (by omega) endSmall, whole]
        rfl
      rw [noTurns] at found
      exact absurd rfl found

/-! ## Serving a client -/

theorem searchDhcpLeaseByMac_perm (v : DhcpServer) (mac : MacAddress) :
    (searchDhcpLeaseByMac v mac).2.dhcpLeaseList.items.Perm
      v.dhcpLeaseList.items :=
  MayaquaList.search_perm compareDhcpLeaseList
    (fun d => cmpBytes mac.val d.macAddress.val) v.dhcpLeaseList

/-- What serving a discover or request message leaves behind: the leases are
the same, and an address that is not 0 may be given to the client. -/
structure Served (start v : DhcpServer) (mac : MacAddress)
    (served : Nat × DhcpServer) : Prop where
  ok : LeasesOk start served.2
  sameLeases : ∀ d, d ∈ served.2.dhcpLeaseList.items ↔ d ∈ v.dhcpLeaseList.items
  grantable : served.1 ≠ 0 → Grantable served.2 mac served.1

private theorem serveDhcpDiscover_served
    (ok : LeasesOk start v)
    (hash : List UInt8 → List UInt8)
    (randomizeAssignIp : Bool)
    (mac : MacAddress)
    (requestIp : Nat) :
    Served start v mac
      (serveDhcpDiscover hash randomizeAssignIp v mac requestIp) := by
  unfold serveDhcpDiscover
  by_cases accepted : acceptRequested v mac requestIp ≠ 0
  · rw [if_pos accepted]
    exact ⟨ok, fun _ => Iff.rfl, acceptRequested_grantable ok⟩
  · rw [if_neg accepted]
    dsimp only
    have reordered := searchDhcpLeaseByMac_perm v mac
    have searchedOk : LeasesOk start (searchDhcpLeaseByMac v mac).2 :=
      ok.of_subperm rfl rfl reordered.subperm
    have sameLeases : ∀ d,
        d ∈ (searchDhcpLeaseByMac v mac).2.dhcpLeaseList.items ↔
          d ∈ v.dhcpLeaseList.items :=
      fun _ => reordered.mem_iff
    split_ifs with own random
    · refine ⟨searchedOk, sameLeases, fun _ => ?_⟩
      cases searched : (searchDhcpLeaseByMac v mac).1 with
      | none =>
          rw [searched] at own
          exact absurd rfl own
      | some d =>
          rw [searched] at own
          dsimp only at own ⊢
          split_ifs at own ⊢ with ranged
          · obtain ⟨present, equal⟩ := MayaquaList.search_sound searched
            refine ⟨ranged, fun e ePresent same => ?_⟩
            rw [searchedOk.eq_of_ipAddress ePresent ((sameLeases d).mpr present)
              same]
            exact (MacAddress.eq_of_cmpBytes equal).symm
          · exact absurd rfl own
    · exact ⟨searchedOk, sameLeases, getFreeDhcpIpAddressByRandom_grantable⟩
    · exact ⟨searchedOk, sameLeases, getFreeDhcpIpAddress_grantable searchedOk mac⟩

private theorem serveDhcpRequest_served
    (ok : LeasesOk start v)
    (hash : List UInt8 → List UInt8)
    (randomizeAssignIp : Bool)
    (mac : MacAddress)
    (requestIp : Nat) :
    Served start v mac
      (serveDhcpRequest hash randomizeAssignIp v mac requestIp) := by
  have served :=
    serveDhcpDiscover_served ok hash randomizeAssignIp mac requestIp
  unfold serveDhcpRequest
  dsimp only
  split_ifs with refused
  · exact ⟨served.ok, served.sameLeases, fun nonzero => absurd rfl nonzero⟩
  · exact served

private theorem grantLease_spec
    (ok : LeasesOk start v)
    (nonzero : ip ≠ 0)
    (grantable : Grantable v mac ip)
    (tick : Nat)
    (hostname : CString) :
    LeasesOk start (grantLease v tick mac ip hostname) ∧
      ∀ d ∈ (grantLease v tick mac ip hostname).dhcpLeaseList.items,
        d.ipAddress = ip → d.macAddress = mac := by
  -- The leases that are kept, none of them of this address.
  have keptSpec : ∃ kept : List DhcpLease,
      (grantLease v tick mac ip hostname).dhcpLeaseList.items =
        kept ++ [newDhcpLease (addUINT v.dhcpId 1) tick v.dhcpExpire mac ip
          v.dhcpMask hostname] ∧
      kept.Sublist v.dhcpLeaseList.items ∧ ∀ d ∈ kept, d.ipAddress ≠ ip := by
    unfold grantLease
    cases searched : searchDhcpLeaseByIp v ip with
    | none =>
        exact ⟨_, rfl, .refl _, fun d present =>
          not_leased_of_search searched present⟩
    | some old =>
        refine ⟨_, rfl, List.erase_sublist, fun d present same => ?_⟩
        obtain ⟨oldPresent, oldSame⟩ := ipAddress_of_search searched
        have distinct := List.Nodup.of_map _ ok.unique
        obtain ⟨different, dPresent⟩ := distinct.mem_erase_iff.mp present
        exact different
          (ok.eq_of_ipAddress dPresent oldPresent (same.trans oldSame.symm))
  obtain ⟨kept, items, sublist, others⟩ := keptSpec
  refine ⟨⟨ok.sameStart, ok.sameEnd, ?_, ?_, ?_⟩, ?_⟩
  · rw [items, List.map_append, List.nodup_append]
    refine ⟨ok.unique.sublist (sublist.map _), List.nodup_singleton _, ?_⟩
    intro leased keptLeased new isNew
    obtain ⟨d, present, rfl⟩ := List.mem_map.mp keptLeased
    rw [List.map_singleton, List.mem_singleton] at isNew
    rw [isNew]
    exact others d present
  · rw [items]
    intro d present
    rw [List.mem_append, List.mem_singleton] at present
    obtain earlier | rfl := present
    · exact ok.ranged d (sublist.subset earlier)
    · rw [← ok.inRange_eq]
      exact grantable.1
  · rw [items]
    intro d present
    rw [List.mem_append, List.mem_singleton] at present
    obtain earlier | rfl := present
    · exact ok.nonzero d (sublist.subset earlier)
    · exact nonzero
  · rw [items]
    intro d present same
    rw [List.mem_append, List.mem_singleton] at present
    obtain earlier | rfl := present
    · exact absurd same (others d earlier)
    · rfl

/-! ## Answering a message -/

/-- Whoever an acknowledgment answers holds every lease of the acknowledged
address, before and after the message. -/
def AcksHolder
    (v : DhcpServer)
    (p : DhcpPacket)
    (answer : DhcpServer × Option DhcpReply) :
    Prop :=
  ∀ reply, answer.2 = some reply → reply.opcode = DHCP_ACK →
    ∀ d, d ∈ v.dhcpLeaseList.items ∨ d ∈ answer.1.dhcpLeaseList.items →
      d.ipAddress = reply.newIp → d.macAddress = p.macAddressSrc

private theorem AcksHolder.of_other
    {v : DhcpServer}
    {after : DhcpServer}
    {reply : DhcpReply}
    (other : reply.opcode ≠ DHCP_ACK) :
    AcksHolder v p (after, some reply) := by
  intro sent same acknowledged
  injection same with same
  rw [← same] at acknowledged
  exact absurd acknowledged other

private theorem AcksHolder.of_silence
    {v : DhcpServer}
    {after : DhcpServer} :
    AcksHolder v p (after, none) :=
  fun _ same => absurd same (by simp)

private theorem negativeReply_opcode (v : DhcpServer) (p : DhcpPacket) :
    (negativeReply v p).opcode ≠ DHCP_ACK :=
  show DHCP_NACK ≠ DHCP_ACK by decide

private theorem findDhcpIp_served
    (ok : LeasesOk start v)
    (hash : List UInt8 → List UInt8)
    (randomizeAssignIp : Bool)
    (p : DhcpPacket) :
    Served start v p.macAddressSrc (findDhcpIp hash randomizeAssignIp v p) := by
  unfold findDhcpIp
  dsimp only
  split_ifs
  · exact serveDhcpDiscover_served ok hash randomizeAssignIp _ _
  · exact serveDhcpDiscover_served ok hash randomizeAssignIp _ _
  · exact serveDhcpRequest_served ok hash randomizeAssignIp _ _
  · exact serveDhcpRequest_served ok hash randomizeAssignIp _ _
  all_goals exact ⟨ok, fun _ => Iff.rfl, fun nonzero => absurd rfl nonzero⟩

private theorem findDhcpIp_inform
    {randomizeAssignIp : Bool}
    {v : DhcpServer}
    (inform : p.options.opcode = DHCP_INFORM) :
    (findDhcpIp hash randomizeAssignIp v p).1 = 0 := by
  have notDiscover : p.options.opcode ≠ DHCP_DISCOVER := by
    rw [inform]
    decide
  have notRequest : p.options.opcode ≠ DHCP_REQUEST := by
    rw [inform]
    decide
  unfold findDhcpIp
  rw [if_neg notDiscover, if_neg notRequest]

/-- Only requests and inform messages are acknowledged. -/
private theorem positiveReply_opcode
    {v : DhcpServer}
    (discover : p.options.opcode = DHCP_DISCOVER) :
    (positiveReply v p ip).opcode ≠ DHCP_ACK := by
  unfold positiveReply
  rw [if_pos discover]
  show DHCP_OFFER ≠ DHCP_ACK
  decide

private theorem answerDhcp_spec
    {found : Nat × DhcpServer}
    (served : Served start v p.macAddressSrc found)
    (kind : p.options.opcode = DHCP_DISCOVER ∨ p.options.opcode = DHCP_REQUEST ∨
      p.options.opcode = DHCP_INFORM)
    (noInformIp : p.options.opcode = DHCP_INFORM → found.1 = 0)
    (tick : Nat) :
    LeasesOk start (answerDhcp tick p found.1 found.2).1 ∧
      AcksHolder v p (answerDhcp tick p found.1 found.2) := by
  obtain ⟨foundOk, sameLeases, grantable⟩ := served
  unfold answerDhcp
  split_ifs with positive request
  · have notInform : p.options.opcode ≠ DHCP_INFORM := by
      rw [request]
      decide
    have nonzero := positive.resolve_right notInform
    obtain ⟨grantedOk, own⟩ :=
      grantLease_spec foundOk nonzero (grantable nonzero) tick p.options.hostname
    refine ⟨grantedOk, ?_⟩
    intro reply same _ d present leased
    injection same with same
    rw [← same] at leased
    obtain before | after := present
    · exact (grantable nonzero).2 d ((sameLeases d).mpr before) leased
    · exact own d after leased
  · refine ⟨foundOk, ?_⟩
    obtain discover | inform := kind.imp id (fun rest => rest.resolve_left request)
    · exact .of_other (positiveReply_opcode discover)
    · -- The acknowledgment of an inform message acknowledges no address.
      intro reply same _ d present leased
      injection same with same
      rw [← same] at leased
      have present := present.elim (sameLeases d).mpr id
      exact absurd (leased.trans (noInformIp inform)) (foundOk.nonzero d present)
  · exact ⟨foundOk, .of_other (negativeReply_opcode _ p)⟩

private theorem virtualDhcpServer_spec
    (ok : LeasesOk start v)
    (hash : List UInt8 → List UInt8)
    (randomizeAssignIp : Bool)
    (tick : Nat)
    (p : DhcpPacket) :
    LeasesOk start (virtualDhcpServer hash randomizeAssignIp tick v p).1 ∧
      AcksHolder v p (virtualDhcpServer hash randomizeAssignIp tick v p) := by
  unfold virtualDhcpServer
  split_ifs with ownClient forServer
  · exact ⟨ok, .of_silence⟩
  · exact answerDhcp_spec (findDhcpIp_served ok hash randomizeAssignIp p)
      forServer.2 findDhcpIp_inform tick
  · exact ⟨ok, .of_silence⟩

theorem removeExpired_subperm
    (now fuel : Nat)
    (leases : List DhcpLease) :
    (removeExpired now fuel leases).Subperm leases := by
  induction fuel generalizing leases with
  | zero => exact .refl leases
  | succ fuel inductionHypothesis =>
      unfold removeExpired
      cases leases.find? fun d => d.expireTime < now with
      | none => exact .refl leases
      | some d =>
          exact (inductionHypothesis _).trans (List.erase_subperm d leases)

private theorem pollingDhcpServer_ok
    (ok : LeasesOk start v)
    (now : Nat) :
    LeasesOk start (pollingDhcpServer now v) := by
  unfold pollingDhcpServer
  split_ifs
  · exact ok
  · exact ok.of_subperm rfl rfl (removeExpired_subperm now _ _)

/-- What happens to the server. -/
inductive Event
  | message (randomizeAssignIp : Bool) (tick : Nat) (p : DhcpPacket)
  | poll (now : Nat)

def step
    (hash : List UInt8 → List UInt8)
    (v : DhcpServer) :
    Event → Option DhcpServer
  | .message randomizeAssignIp tick p =>
      some (virtualDhcpServer hash randomizeAssignIp tick v p).1
  | .poll now => some (pollingDhcpServer now v)

private theorem leasesOk_start
    {start : DhcpServer}
    (fresh : start.dhcpLeaseList.items = []) :
    LeasesOk start start := by
  refine ⟨rfl, rfl, ?_, ?_, ?_⟩
  · rw [fresh]
    exact List.nodup_nil
  · rw [fresh]
    exact fun d present => absurd present List.not_mem_nil
  · rw [fresh]
    exact fun d present => absurd present List.not_mem_nil

/-- From an empty lease list on, any messages and polls keep at most one lease
per address and every leased address in the range, and an acknowledgment of an
address answers only the client that holds every lease of it. -/
theorem virtualDhcpServer_leases
    {hash : List UInt8 → List UInt8}
    {start v : DhcpServer}
    (fresh : start.dhcpLeaseList.items = [])
    (reached : Reaches (step hash) (fun _ _ => True) start v) :
    (v.dhcpLeaseList.items.map DhcpLease.ipAddress).Nodup ∧
      (∀ d ∈ v.dhcpLeaseList.items, inRange start d.ipAddress = true) ∧
      ∀ randomizeAssignIp tick p,
        AcksHolder v p (virtualDhcpServer hash randomizeAssignIp tick v p) := by
  have ok : LeasesOk start v := by
    refine reached.invariant (LeasesOk start) (leasesOk_start fresh) ?_
    intro before event after holds _ stepped
    cases event with
    | message randomizeAssignIp tick p =>
        injection stepped with stepped
        rw [← stepped]
        exact (virtualDhcpServer_spec holds hash randomizeAssignIp tick p).1
    | poll now =>
        injection stepped with stepped
        rw [← stepped]
        exact pollingDhcpServer_ok holds now
  exact ⟨ok.unique, ok.ranged, fun randomizeAssignIp tick p =>
    (virtualDhcpServer_spec ok hash randomizeAssignIp tick p).2⟩

/-- A server for the addresses 192.168.30.10 to 192.168.30.200. -/
def exampleServer : DhcpServer :=
  { hostIP := 18786496
    dhcpIpStart := 169781440
    dhcpIpEnd := 3357452480
    dhcpMask := 16777215
    dhcpExpire := 7200000
    dhcpGateway := 18786496
    dhcpDns := 18786496
    dhcpDns2 := 0
    dhcpDomain := ⟨[], CString.noNul_nil⟩ }

theorem length_exampleMac : [(0 : UInt8), 172, 1, 2, 3, 4].length = 6 :=
  rfl

def exampleRequest : DhcpPacket :=
  { macAddressSrc := ⟨[0, 172, 1, 2, 3, 4], length_exampleMac⟩
    srcIP := 0
    srcPort := 68
    opCode := 1
    transactionId := 1
    hardwareType := 1
    hardwareAddressSize := 6
    clientMacAddress := ⟨[0, 172, 1, 2, 3, 4], length_exampleMac⟩
    options :=
      { opcode := DHCP_REQUEST
        requestedIp := 169781440
        hostname := ⟨[112, 99], by decide⟩ } }

/-- The server after `exampleRequest`. -/
def exampleLeased : DhcpServer :=
  (virtualDhcpServer id false 1000 exampleServer exampleRequest).1

/-- The request is granted, and the server stays in order. -/
theorem exampleLeased_leases :
    exampleLeased.dhcpLeaseList.items.map DhcpLease.ipAddress = [169781440] ∧
      (exampleLeased.dhcpLeaseList.items.map DhcpLease.ipAddress).Nodup ∧
      (∀ d ∈ exampleLeased.dhcpLeaseList.items,
        inRange exampleServer d.ipAddress = true) ∧
      ∀ randomizeAssignIp tick p,
        AcksHolder exampleLeased p
          (virtualDhcpServer id randomizeAssignIp tick exampleLeased p) := by
  have reached :
      Reaches (step id) (fun _ _ => True) exampleServer exampleLeased :=
    .next .start trivial
      (show step id exampleServer (.message false 1000 exampleRequest) =
        some exampleLeased from rfl)
  exact ⟨by decide, virtualDhcpServer_leases rfl reached⟩

end Dhcp
end SoftEther
