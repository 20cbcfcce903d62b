import SoftEther.Cedar.Dhcp.Leases

/-!
# The lifetime of DHCP leases

`PollingDhcpServer` compares the time at which a lease expires with a tick of 64 bits, while the
code for a lease without end is the largest `UINT`.
-/

namespace SoftEther
namespace Dhcp

open Library

def DHCP_MIN_EXPIRE_TIMESPAN : Nat := 15000

def makeSure (a b c : Nat) : Nat :=
  if b ≤ c then max (min a c) b else max (min a b) c

/-- `DhcpExpire` as `SetVirtualHostOption` sets it. -/
def dhcpExpireOf (dhcpExpireTimeSpan : Nat) : Nat :=
  if dhcpExpireTimeSpan = 0 ∨ dhcpExpireTimeSpan = INFINITE then INFINITE
  else
    makeSure DHCP_MIN_EXPIRE_TIMESPAN (min (mulUINT dhcpExpireTimeSpan 1000) 2000000000) INFINITE

/-- A server and what it has replied, each with the tick of the reply. -/
structure Leasing where
  server : DhcpServer
  replies : List (Nat × DhcpReply) := []

inductive LeasingEvent
  | setOption (dhcpExpireTimeSpan : Nat)
  | server (event : Event)

/-- One event, with the reply to a message. -/
def Leasing.step
    (hash : List UInt8 → List UInt8)
    (s : Leasing) :
    LeasingEvent → Option Leasing
  | .setOption dhcpExpireTimeSpan =>
      some { s with server := { s.server with dhcpExpire := dhcpExpireOf dhcpExpireTimeSpan } }
  | .server (.message randomizeAssignIp tick p) =>
      let answer := virtualDhcpServer hash randomizeAssignIp tick s.server p
      some ⟨answer.1, s.replies ++ answer.2.toList.map fun reply => (tick, reply)⟩
  | .server (.poll now) => some { s with server := pollingDhcpServer now s.server }

/-- The reply acknowledged the lease when it was granted. -/
def Leasing.Acked (s : Leasing) (d : DhcpLease) (reply : DhcpReply) : Prop :=
  (d.leasedTime, reply) ∈ s.replies ∧ reply.opcode = DHCP_ACK ∧ reply.newIp = d.ipAddress

/-- The lease time of a reply has an end, and it has passed since the tick. -/
def Elapsed (reply : DhcpReply) (tick now : Nat) : Prop :=
  reply.leaseTime ≠ INFINITE ∧ tick + Endian32 reply.leaseTime * 1000 ≤ now

/-- While there are leases without end, ticks are polled that a `UINT` holds; and no time of a
lease passes the largest tick. -/
def Leasing.Timely (s : Leasing) : LeasingEvent → Prop
  | .setOption _ => True
  | .server (.message _ tick _) => tick + 2000000000 < X64
  | .server (.poll now) =>
      ∀ d ∈ s.server.dhcpLeaseList.items, ∀ reply, s.Acked d reply →
        reply.leaseTime = INFINITE → now ≤ INFINITE

theorem dhcpExpireOf_cases (dhcpExpireTimeSpan : Nat) :
    dhcpExpireOf dhcpExpireTimeSpan = INFINITE ∨
      dhcpExpireOf dhcpExpireTimeSpan ≤ 2000000000 := by
  unfold dhcpExpireOf makeSure DHCP_MIN_EXPIRE_TIMESPAN
  by_cases endless : dhcpExpireTimeSpan = 0 ∨ dhcpExpireTimeSpan = INFINITE
  · exact .inl (if_pos endless)
  · right
    rw [if_neg endless, if_pos ((Nat.min_le_right _ _).trans (by decide))]
    exact max_le ((Nat.min_le_left _ _).trans (by decide)) (Nat.min_le_right _ _)

variable {d : DhcpLease} {v : DhcpServer}

theorem mem_removeExpired
    {now fuel : Nat}
    {leases : List DhcpLease}
    (present : d ∈ leases)
    (unexpired : now ≤ d.expireTime) :
    d ∈ removeExpired now fuel leases := by
  induction fuel generalizing leases with
  | zero => exact present
  | succ fuel inductionHypothesis =>
      unfold removeExpired
      cases found : leases.find? fun d => d.expireTime < now with
      | none => exact present
      | some expired =>
          have early : expired.expireTime < now := by simpa using List.find?_some found
          have other : d ≠ expired := by
            intro same
            rw [same] at unexpired
            omega
          exact inductionHypothesis ((List.mem_erase_of_ne other).mpr present)

theorem expired_of_removed
    {now : Nat}
    (present : d ∈ v.dhcpLeaseList.items)
    (removed : d ∉ (pollingDhcpServer now v).dhcpLeaseList.items) :
    d.expireTime < now := by
  by_contra unexpired
  apply removed
  unfold pollingDhcpServer
  split
  · exact present
  · exact mem_removeExpired present (Nat.le_of_not_lt unexpired)

theorem mem_of_mem_polling
    {now : Nat}
    (present : d ∈ (pollingDhcpServer now v).dhcpLeaseList.items) :
    d ∈ v.dhcpLeaseList.items := by
  unfold pollingDhcpServer at present
  split at present
  · exact present
  · exact (removeExpired_subperm now _ _).subset present

/-! ## What the server has promised -/

/-- The leases come from the server, and so does the time of a new lease. -/
structure Keeps (v after : DhcpServer) : Prop where
  expire : after.dhcpExpire = v.dhcpExpire
  leases : ∀ d ∈ after.dhcpLeaseList.items, d ∈ v.dhcpLeaseList.items

theorem keeps_serveDhcpDiscover
    (hash : List UInt8 → List UInt8)
    (randomizeAssignIp : Bool)
    (v : DhcpServer)
    (mac : MacAddress)
    (requestIp : Nat) :
    Keeps v (serveDhcpDiscover hash randomizeAssignIp v mac requestIp).2 := by
  have searched : Keeps v (searchDhcpLeaseByMac v mac).2 :=
    ⟨rfl, fun d present => (searchDhcpLeaseByMac_perm v mac).mem_iff.mp present⟩
  unfold serveDhcpDiscover
  by_cases accepted : acceptRequested v mac requestIp ≠ 0
  · rw [if_pos accepted]
    exact ⟨rfl, fun d present => present⟩
  · rw [if_neg accepted]
    dsimp only
    rw [apply_ite Prod.snd, apply_ite Prod.snd, ite_self, ite_self]
    exact searched

theorem keeps_findDhcpIp
    (hash : List UInt8 → List UInt8)
    (randomizeAssignIp : Bool)
    (v : DhcpServer)
    (p : DhcpPacket) :
    Keeps v (findDhcpIp hash randomizeAssignIp v p).2 := by
  unfold findDhcpIp
  by_cases discover : p.options.opcode = DHCP_DISCOVER
  · rw [if_pos discover]
    exact keeps_serveDhcpDiscover hash randomizeAssignIp v _ _
  · rw [if_neg discover]
    by_cases request : p.options.opcode = DHCP_REQUEST
    · rw [if_pos request]
      unfold serveDhcpRequest
      dsimp only
      rw [apply_ite Prod.snd, ite_self]
      exact keeps_serveDhcpDiscover hash randomizeAssignIp v _ _
    · rw [if_neg request]
      exact ⟨rfl, fun d present => present⟩

/-- The lease was granted for the lease time of the reply. -/
def Promised (d : DhcpLease) (reply : DhcpReply) : Prop :=
  if reply.leaseTime = INFINITE then d.expireTime = INFINITE
  else d.leasedTime + Endian32 reply.leaseTime * 1000 ≤ d.expireTime

/-- Every lease was acknowledged with the time that it was granted for. -/
structure Leasing.Kept (s : Leasing) : Prop where
  expire : s.server.dhcpExpire = INFINITE ∨ s.server.dhcpExpire ≤ 2000000000
  acked : ∀ d ∈ s.server.dhcpLeaseList.items, ∃ reply, s.Acked d reply ∧ Promised d reply

theorem promised_newDhcpLease
    {p : DhcpPacket}
    (request : p.options.opcode = DHCP_REQUEST)
    (expire : v.dhcpExpire = INFINITE ∨ v.dhcpExpire ≤ 2000000000)
    {tick : Nat}
    (timely : tick + 2000000000 < X64)
    (id ip : Nat) :
    Promised (newDhcpLease id tick v.dhcpExpire p.macAddressSrc ip v.dhcpMask p.options.hostname)
      (positiveReply v p ip) := by
  have time : (positiveReply v p ip).leaseTime =
      if v.dhcpExpire = INFINITE then INFINITE else Endian32 (v.dhcpExpire / 1000) := by
    simp [positiveReply, request, DHCP_REQUEST, DHCP_INFORM]
  unfold Promised
  rw [time]
  by_cases endless : v.dhcpExpire = INFINITE
  · rw [if_pos endless, if_pos rfl]
    exact if_pos endless
  · have small := expire.resolve_left endless
    have same : Endian32 (Endian32 (v.dhcpExpire / 1000)) = v.dhcpExpire / 1000 :=
      Endian32_Endian32 (by unfold X32; omega)
    have ends : Endian32 (v.dhcpExpire / 1000) ≠ INFINITE := by
      intro infinite
      rw [infinite] at same
      have large : Endian32 INFINITE = INFINITE := by decide
      rw [large] at same
      unfold INFINITE at same
      omega
    rw [if_neg endless, if_neg ends, same]
    simp only [newDhcpLease, if_neg endless]
    rw [addUINT64_of_lt (by omega)]
    omega

theorem virtualDhcpServer_cases
    (hash : List UInt8 → List UInt8)
    (randomizeAssignIp : Bool)
    (tick : Nat)
    (v : DhcpServer)
    (p : DhcpPacket) :
    (virtualDhcpServer hash randomizeAssignIp tick v p).1.dhcpExpire = v.dhcpExpire ∧
      ∀ d ∈ (virtualDhcpServer hash randomizeAssignIp tick v p).1.dhcpLeaseList.items,
        d ∈ v.dhcpLeaseList.items ∨
          ∃ after id ip, p.options.opcode = DHCP_REQUEST ∧ after.dhcpExpire = v.dhcpExpire ∧
            (virtualDhcpServer hash randomizeAssignIp tick v p).2 = some (positiveReply after p ip) ∧
            d = newDhcpLease id tick after.dhcpExpire p.macAddressSrc ip after.dhcpMask
              p.options.hostname := by
  have kept := keeps_findDhcpIp hash randomizeAssignIp v p
  unfold virtualDhcpServer
  split
  · exact ⟨rfl, fun d present => .inl present⟩
  · split
    · dsimp only
      generalize findDhcpIp hash randomizeAssignIp v p = found at kept ⊢
      unfold answerDhcp
      by_cases positive : found.1 ≠ 0 ∨ p.options.opcode = DHCP_INFORM
      · rw [if_pos positive]
        by_cases request : p.options.opcode = DHCP_REQUEST
        · rw [if_pos request]
          refine ⟨kept.expire, fun d present => ?_⟩
          simp only [grantLease, MayaquaList.add, List.mem_append, List.mem_singleton] at present
          obtain old | new := present
          · refine .inl (kept.leases d ?_)
            split at old
            · exact List.mem_of_mem_erase old
            · exact old
          · exact .inr ⟨_, _, _, request, kept.expire, rfl, new⟩
        · rw [if_neg request]
          exact ⟨kept.expire, fun d present => .inl (kept.leases d present)⟩
      · rw [if_neg positive]
        exact ⟨kept.expire, fun d present => .inl (kept.leases d present)⟩
    · exact ⟨rfl, fun d present => .inl present⟩

theorem Leasing.Kept.step
    {hash : List UInt8 → List UInt8}
    {s after : Leasing}
    {event : LeasingEvent}
    (kept : s.Kept)
    (timely : s.Timely event)
    (stepped : s.step hash event = some after) :
    after.Kept := by
  cases event with
  | setOption dhcpExpireTimeSpan =>
      injection stepped with stepped
      subst stepped
      exact ⟨dhcpExpireOf_cases dhcpExpireTimeSpan, kept.acked⟩
  | server event =>
      cases event with
      | message randomizeAssignIp tick p =>
          injection stepped with stepped
          subst stepped
          obtain ⟨expire, leases⟩ := virtualDhcpServer_cases hash randomizeAssignIp tick s.server p
          refine ⟨?_, fun d present => ?_⟩
          · dsimp only
            rw [expire]
            exact kept.expire
          · obtain old | ⟨granted, id, ip, request, same, replied, rfl⟩ := leases d present
            · obtain ⟨reply, ⟨sent, acked⟩, promised⟩ := kept.acked d old
              exact ⟨reply, ⟨List.mem_append_left _ sent, acked⟩, promised⟩
            · have finite : granted.dhcpExpire = INFINITE ∨ granted.dhcpExpire ≤ 2000000000 := by
                rw [same]
                exact kept.expire
              refine ⟨positiveReply granted p ip, ⟨?_, ?_, rfl⟩,
                promised_newDhcpLease request finite timely id ip⟩
              · apply List.mem_append_right
                rw [replied]
                exact List.mem_singleton_self _
              · simp [positiveReply, request, DHCP_REQUEST, DHCP_DISCOVER]
      | poll now =>
          injection stepped with stepped
          subst stepped
          refine ⟨?_, fun d present => kept.acked d (mem_of_mem_polling present)⟩
          dsimp only
          unfold pollingDhcpServer
          rw [apply_ite DhcpServer.dhcpExpire, ite_self]
          exact kept.expire

/-- **The lifetime of leases.**  In every run in which ticks are polled that a `UINT` holds while
there are leases without end, a lease that polling removes was acknowledged with a lease time that
has passed since. -/
theorem pollingDhcpServer_elapsed
    {hash : List UInt8 → List UInt8}
    {start s : Leasing}
    {dhcpExpireTimeSpan now : Nat}
    {d : DhcpLease}
    (configured : start.server.dhcpExpire = dhcpExpireOf dhcpExpireTimeSpan)
    (fresh : start.server.dhcpLeaseList.items = [])
    (reached : Reaches (Leasing.step hash) Leasing.Timely start s)
    (timely : s.Timely (.server (.poll now)))
    (present : d ∈ s.server.dhcpLeaseList.items)
    (removed : d ∉ (pollingDhcpServer now s.server).dhcpLeaseList.items) :
    ∃ reply, s.Acked d reply ∧ Elapsed reply d.leasedTime now := by
  have initially : start.Kept := by
    refine ⟨configured ▸ dhcpExpireOf_cases dhcpExpireTimeSpan, fun d present => ?_⟩
    rw [fresh] at present
    exact absurd present List.not_mem_nil
  have kept : s.Kept := reached.invariant Leasing.Kept initially
    fun before event after holds allowed stepped => holds.step allowed stepped
  obtain ⟨reply, acked, promised⟩ := kept.acked d present
  have expired := expired_of_removed present removed
  refine ⟨reply, acked, ?_⟩
  unfold Promised at promised
  by_cases endless : reply.leaseTime = INFINITE
  · rw [if_pos endless] at promised
    have early := timely d present reply acked endless
    omega
  · rw [if_neg endless] at promised
    exact ⟨endless, by omega⟩

/-- A server that grants leases with the setting. -/
def configuredServer (dhcpExpireTimeSpan : Nat) : Leasing :=
  { server := { exampleServer with dhcpExpire := dhcpExpireOf dhcpExpireTimeSpan } }

/-- The server after it has granted a lease. -/
def configuredLeased (dhcpExpireTimeSpan : Nat) : Leasing :=
  ((configuredServer dhcpExpireTimeSpan).step id
    (.server (.message false 1000 exampleRequest))).getD ⟨exampleServer, []⟩

theorem configuredLeased_reached (dhcpExpireTimeSpan : Nat) :
    Reaches (Leasing.step id) Leasing.Timely (configuredServer dhcpExpireTimeSpan)
      (configuredLeased dhcpExpireTimeSpan) := by
  have timely : (configuredServer dhcpExpireTimeSpan).Timely
      (.server (.message false 1000 exampleRequest)) :=
    show 1000 + 2000000000 < X64 by decide
  exact .next .start timely rfl

/-- The lease of the server that has granted one. -/
def configuredLease (dhcpExpireTimeSpan : Nat) : DhcpLease :=
  newDhcpLease 1 1000 (dhcpExpireOf dhcpExpireTimeSpan) exampleRequest.macAddressSrc 169781440
    16777215 exampleRequest.options.hostname

/-- A lease of two hours is removed when they have passed. -/
theorem pollingDhcpServer_elapsed_twoHours :
    ∃ reply, (configuredLeased 7200).Acked (configuredLease 7200) reply ∧
      Elapsed reply (configuredLease 7200).leasedTime 7201001 := by
  have timely : (configuredLeased 7200).Timely (.server (.poll 7201001)) :=
    fun _ _ _ _ _ => by decide
  have configured : (configuredServer 7200).server.dhcpExpire = dhcpExpireOf 7200 := rfl
  exact pollingDhcpServer_elapsed configured rfl (configuredLeased_reached 7200) timely
    (by decide +kernel) (by decide +kernel)

/-- A lease without end is removed when the tick does not fit a `UINT`. -/
theorem not_pollingDhcpServer_elapsed :
    ¬∀ (hash : List UInt8 → List UInt8) (start s : Leasing) (dhcpExpireTimeSpan now : Nat)
        (d : DhcpLease),
      start.server.dhcpExpire = dhcpExpireOf dhcpExpireTimeSpan →
      start.server.dhcpLeaseList.items = [] →
      Reaches (Leasing.step hash) (fun _ _ => True) start s →
      d ∈ s.server.dhcpLeaseList.items →
      d ∉ (pollingDhcpServer now s.server).dhcpLeaseList.items →
      ∃ reply, s.Acked d reply ∧ Elapsed reply d.leasedTime now := by
  intro all
  obtain ⟨reply, ⟨sent, _⟩, ends, _⟩ := all id (configuredServer 0) (configuredLeased 0) 0
    4294967296 (configuredLease 0) rfl rfl
    ((configuredLeased_reached 0).mono fun _ _ _ => trivial) (by decide +kernel)
    (by decide +kernel)
  have sole : ∀ other ∈ (configuredLeased 0).replies, other.2.leaseTime = INFINITE := by
    decide +kernel
  exact ends (sole _ sent)

end Dhcp
end SoftEther
