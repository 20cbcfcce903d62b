import SoftEther.Cedar.UdpAccel.Defs

/-!
# Old and repeated datagrams of UDP acceleration

The tick that the endpoint was set with is always the greatest one that was accepted, so that only
a newer datagram moves the endpoint.
-/

namespace SoftEther
namespace UdpAcceleration

open Network (Ip)
open Rudp (BulkCrypto)

inductive Event
  | setTick (tick64 : UInt64)
  | send (data : List UInt8) (flag : UInt8) (maxSize : UInt32) (rand : Nat)
  /-- A datagram, whoever made it. -/
  | recv (buf : List UInt8) (srcIp : Ip) (srcPort : UInt32)

/-- An object and the ticks of the packets that it has accepted. -/
structure History where
  accel : UdpAccel
  accepted : List UInt64

section

variable (crypto : BulkCrypto) (uncompress : List UInt8 → List UInt8)

def step (h : History) : Event → History
  | .setTick tick64 => { h with accel := { h.accel with now := tick64 } }
  | .send data flag maxSize rand =>
      match udpAccelSend crypto h.accel data flag maxSize rand with
      | none => h
      | some (_, accel) => { h with accel := accel }
  | .recv buf srcIp srcPort =>
      { accel := (udpAccelProcessRecvPacket crypto uncompress h.accel buf srcIp srcPort).1
        accepted :=
          h.accepted ++ ((admitted crypto h.accel buf).map Packet.myTick).toList }

/-- An object that `NewUdpAccel` made and that has been initialized. -/
def created (a : UdpAccel) : History where
  accel :=
    { a with
      lastRecvYourTick := 0
      lastRecvMyTick := 0
      lastSetSrcIpAndPortTick := 0
      lastRecvTick := 0
      isReachedOnce := false
      firstStableReceiveTick := 0 }
  accepted := []

/-- What an event does not do. -/
structure AntiReplay (h : History) (event : Event) : Prop where
  yourTick : h.accel.lastRecvYourTick ≤ (step crypto uncompress h event).accel.lastRecvYourTick
  myTick : h.accel.lastRecvMyTick ≤ (step crypto uncompress h event).accel.lastRecvMyTick
  window :
    ∀ buf srcIp srcPort p, event = .recv buf srcIp srcPort →
      opened crypto h.accel buf = some p →
        p.myTick.toNat + UDP_ACCELERATION_WINDOW_SIZE_MSEC.toNat ≤
            h.accel.lastRecvYourTick.toNat →
          (udpAccelProcessRecvPacket crypto uncompress h.accel buf srcIp srcPort).2 = none
  endpoint :
    ((step crypto uncompress h event).accel.yourIp,
        (step crypto uncompress h event).accel.yourPort) ≠
      (h.accel.yourIp, h.accel.yourPort) →
        ∃ buf srcIp srcPort p, event = .recv buf srcIp srcPort ∧
          admitted crypto h.accel buf = some p ∧ ∀ tick ∈ h.accepted, tick < p.myTick

end

/-! ## The ticks -/

theorem le_maxTick_left (a b : UInt64) : a ≤ maxTick a b := by
  unfold maxTick
  split
  · exact UInt64.le_refl _
  · exact UInt64.le_of_lt (UInt64.not_le.mp ‹_›)

theorem le_maxTick_right (a b : UInt64) : b ≤ maxTick a b := by
  unfold maxTick
  split
  · assumption
  · exact UInt64.le_refl _

theorem lt_of_lt_maxTick
    {a b : UInt64}
    (greater : a < maxTick a b) :
    a < b := by
  unfold maxTick at greater
  split at greater
  · exact absurd greater (UInt64.lt_irrefl a)
  · exact greater

variable {crypto : BulkCrypto} {uncompress : List UInt8 → List UInt8}
variable {a : UdpAccel} {p : Packet} {srcIp : Ip} {srcPort : UInt32}

@[simp] theorem accept_lastRecvYourTick :
    (a.accept p srcIp srcPort).lastRecvYourTick = maxTick a.lastRecvYourTick p.myTick := by
  simp only [UdpAccel.accept]
  split <;> split <;> rfl

@[simp] theorem accept_lastRecvMyTick :
    (a.accept p srcIp srcPort).lastRecvMyTick = maxTick a.lastRecvMyTick p.yourTick := by
  simp only [UdpAccel.accept]
  split <;> split <;> rfl

theorem accept_endpoint :
    ((a.accept p srcIp srcPort).lastSetSrcIpAndPortTick =
        (a.accept p srcIp srcPort).lastRecvYourTick ∧
      a.lastSetSrcIpAndPortTick < maxTick a.lastRecvYourTick p.myTick) ∨
    ((a.accept p srcIp srcPort).lastSetSrcIpAndPortTick = a.lastSetSrcIpAndPortTick ∧
      ¬a.lastSetSrcIpAndPortTick < maxTick a.lastRecvYourTick p.myTick ∧
        (a.accept p srcIp srcPort).yourIp = a.yourIp ∧
          (a.accept p srcIp srcPort).yourPort = a.yourPort) := by
  simp only [UdpAccel.accept]
  split
  case isTrue newer =>
    left
    split <;> exact ⟨rfl, newer⟩
  case isFalse older =>
    right
    split <;> exact ⟨rfl, older, rfl, rfl⟩

/-! ## The other events -/

/-- The fields that only a datagram changes. -/
structure SameTicks (before after : UdpAccel) : Prop where
  yourTick : after.lastRecvYourTick = before.lastRecvYourTick
  myTick : after.lastRecvMyTick = before.lastRecvMyTick
  set : after.lastSetSrcIpAndPortTick = before.lastSetSrcIpAndPortTick
  yourIp : after.yourIp = before.yourIp
  yourPort : after.yourPort = before.yourPort

theorem SameTicks.refl (a : UdpAccel) : SameTicks a a :=
  ⟨rfl, rfl, rfl, rfl, rfl⟩

theorem sameTicks_withNextIv (a : UdpAccel) (tmp : List UInt8) :
    SameTicks a (a.withNextIv tmp) := by
  unfold UdpAccel.withNextIv
  split
  · exact .refl a
  · split <;> exact ⟨rfl, rfl, rfl, rfl, rfl⟩

theorem sameTicks_send
    {data : List UInt8}
    {flag : UInt8}
    {maxSize : UInt32}
    {rand : Nat}
    {result : List UInt8 × UdpAccel}
    (sent : udpAccelSend crypto a data flag maxSize rand = some result) :
    SameTicks a result.2 := by
  dsimp only [udpAccelSend] at sent
  split at sent
  · rw [← Option.some.inj sent]
    exact sameTicks_withNextIv a _
  · cases sent

theorem step_cases (h : History) (event : Event) :
    (∃ buf srcIp srcPort p, event = .recv buf srcIp srcPort ∧
        admitted crypto h.accel buf = some p ∧
          step crypto uncompress h event =
            { accel := h.accel.accept p srcIp srcPort, accepted := h.accepted ++ [p.myTick] }) ∨
      (SameTicks h.accel (step crypto uncompress h event).accel ∧
        (step crypto uncompress h event).accepted = h.accepted) := by
  cases event with
  | setTick tick64 => exact .inr ⟨⟨rfl, rfl, rfl, rfl, rfl⟩, rfl⟩
  | send data flag maxSize rand =>
      right
      simp only [step]
      split
      · exact ⟨.refl _, rfl⟩
      · exact ⟨sameTicks_send (by assumption), rfl⟩
  | recv buf srcIp srcPort =>
      cases read : admitted crypto h.accel buf with
      | none =>
          right
          simp only [step, udpAccelProcessRecvPacket, read]
          exact ⟨.refl _, List.append_nil _⟩
      | some p =>
          left
          refine ⟨buf, srcIp, srcPort, p, rfl, read, ?_⟩
          simp only [step, udpAccelProcessRecvPacket, read]
          rfl

/-! ## Whole histories -/

/-- The endpoint was set with the greatest tick that was accepted. -/
structure Tracks (h : History) : Prop where
  set : h.accel.lastSetSrcIpAndPortTick = h.accel.lastRecvYourTick
  greatest : ∀ tick ∈ h.accepted, tick ≤ h.accel.lastRecvYourTick

theorem tracks_created (a : UdpAccel) : Tracks (created a) where
  set := rfl
  greatest _ listed := absurd listed List.not_mem_nil

theorem tracks_step
    {h : History}
    (tracks : Tracks h)
    (event : Event) :
    Tracks (step crypto uncompress h event) := by
  obtain ⟨buf, srcIp, srcPort, p, _, _, stepped⟩ | ⟨same, accepted⟩ :=
    @step_cases crypto uncompress h event
  · rw [stepped]
    refine ⟨?_, fun tick listed => ?_⟩
    · obtain ⟨set, _⟩ | ⟨set, older, _⟩ := @accept_endpoint h.accel p srcIp srcPort
      · exact set
      · rw [tracks.set] at set older
        rw [set, accept_lastRecvYourTick]
        exact UInt64.le_antisymm (le_maxTick_left _ _) (UInt64.not_lt.mp older)
    · rw [accept_lastRecvYourTick]
      obtain before | new := List.mem_append.mp listed
      · exact UInt64.le_trans (tracks.greatest tick before) (le_maxTick_left _ _)
      · rw [List.mem_singleton.mp new]
        exact le_maxTick_right _ _
  · refine ⟨?_, fun tick listed => ?_⟩
    · rw [same.set, same.yourTick, tracks.set]
    · rw [accepted] at listed
      rw [same.yourTick]
      exact tracks.greatest tick listed

theorem tracks_foldl
    {h : History}
    (tracks : Tracks h)
    (events : List Event) :
    Tracks (events.foldl (step crypto uncompress) h) := by
  induction events generalizing h with
  | nil => exact tracks
  | cons event rest inductionHypothesis => exact inductionHypothesis (tracks_step tracks event)

theorem admitted_behind
    {buf : List UInt8}
    (read : opened crypto a buf = some p)
    (far : p.myTick.toNat + UDP_ACCELERATION_WINDOW_SIZE_MSEC.toNat ≤ a.lastRecvYourTick.toNat) :
    admitted crypto a buf = none := by
  have positive : 0 < UDP_ACCELERATION_WINDOW_SIZE_MSEC.toNat := by decide
  have older : p.myTick < a.lastRecvYourTick := UInt64.lt_iff_toNat_lt.mpr (by omega)
  have wide : UDP_ACCELERATION_WINDOW_SIZE_MSEC ≤ a.lastRecvYourTick - p.myTick := by
    rw [UInt64.le_iff_toNat_le, UInt64.toNat_sub_of_le _ _ (UInt64.le_of_lt older)]
    omega
  have behind : a.behind p.myTick = true := decide_eq_true ⟨older, wide⟩
  rw [admitted, read, Option.filter_some, behind]
  rfl

/-- Old and repeated datagrams do nothing, whatever has happened before. -/
theorem antiReplay
    (crypto : BulkCrypto)
    (uncompress : List UInt8 → List UInt8)
    (a : UdpAccel)
    (events : List Event)
    (event : Event) :
    AntiReplay crypto uncompress (events.foldl (step crypto uncompress) (created a)) event := by
  have tracks := @tracks_foldl crypto uncompress _ (tracks_created a) events
  generalize events.foldl (step crypto uncompress) (created a) = h at tracks
  have window (buf : List UInt8) (srcIp : Ip) (srcPort : UInt32) (p : Packet)
      (_ : event = .recv buf srcIp srcPort)
      (read : opened crypto h.accel buf = some p)
      (far : p.myTick.toNat + UDP_ACCELERATION_WINDOW_SIZE_MSEC.toNat ≤
        h.accel.lastRecvYourTick.toNat) :
      (udpAccelProcessRecvPacket crypto uncompress h.accel buf srcIp srcPort).2 = none := by
    rw [udpAccelProcessRecvPacket, admitted_behind read far]
  obtain ⟨buf, srcIp, srcPort, p, is, read, stepped⟩ | ⟨same, _⟩ :=
    @step_cases crypto uncompress h event
  · refine ⟨?_, ?_, window, fun moved => ⟨buf, srcIp, srcPort, p, is, read, ?_⟩⟩
    · rw [stepped, accept_lastRecvYourTick]
      exact le_maxTick_left _ _
    · rw [stepped, accept_lastRecvMyTick]
      exact le_maxTick_left _ _
    · rw [stepped] at moved
      intro tick listed
      obtain ⟨_, newer⟩ | ⟨_, _, ip, port⟩ := @accept_endpoint h.accel p srcIp srcPort
      · rw [tracks.set] at newer
        exact UInt64.lt_of_le_of_lt (tracks.greatest tick listed) (lt_of_lt_maxTick newer)
      · exact absurd (Prod.ext ip port) moved
  · refine ⟨?_, ?_, window, fun moved => ?_⟩
    · rw [same.yourTick]
      exact UInt64.le_refl _
    · rw [same.myTick]
      exact UInt64.le_refl _
    · exact absurd (Prod.ext same.yourIp same.yourPort) moved

end UdpAcceleration
end SoftEther
