import Mathlib.Data.Nat.Bitwise
import SoftEther.Cedar.L2tp.Server
import SoftEther.Library.SerialNumbers

/-!
# The control channel

A tunnel and its peer over a network that loses, repeats and reorders.  The peer numbers its
messages one after the other and keeps at most `L2TP_WINDOW_SIZE` of them unacknowledged; the
network may deliver a copy of every message, and a `ZLB`, at any time.  As long as nothing is
delivered that is more than half the number space old, the tunnel processes the messages
once each and in order.
-/

namespace SoftEther
namespace L2tp

open Library Network

theorem and_high_ne_zero (x : UInt16) : (x &&& 0x8000 ≠ 0) ↔ 32768 ≤ x.toNat := by
  have small : x.toNat < 65536 := x.toNat_lt
  have bits : (x &&& 0x8000).toNat = (x.toNat.testBit 15).toNat * 32768 := by
    rw [UInt16.toNat_and]
    exact Nat.and_two_pow x.toNat 15
  rw [ne_eq, ← UInt16.toNat_inj, bits, Nat.testBit_eq_decide_div_mod_eq]
  cases high : decide (x.toNat / 2 ^ 15 % 2 = 1) with
  | true =>
      have := of_decide_eq_true high
      simp
      omega
  | false =>
      have := of_decide_eq_false high
      simp
      omega

theorem seqLT_ofNat (a b : Nat) :
    seqLT (UInt16.ofNat a) (UInt16.ofNat b) = serialLT 32768 a b := by
  have distance : (UInt16.ofNat a - UInt16.ofNat b).toNat = serialDistance 32768 a b := by
    rw [UInt16.toNat_sub, UInt16.toNat_ofNat', UInt16.toNat_ofNat']
    unfold serialDistance
    omega
  unfold seqLT serialLT
  rw [← distance]
  exact decide_eq_decide.mpr (and_high_ne_zero _)

theorem ofNat_eq_iff (a b : Nat) : UInt16.ofNat a = UInt16.ofNat b ↔ a % 65536 = b % 65536 := by
  rw [← UInt16.toNat_inj, UInt16.toNat_ofNat', UInt16.toNat_ofNat']

/-- The number of a packet of the reception queue, which is ahead of `base`. -/
def Queue.numberFrom (base : Nat) (q : Queue) : Nat :=
  base + serialDistance 32768 q.ns.toNat base

theorem Queue.ns_eq (base : Nat) (q : Queue) : q.ns = UInt16.ofNat (q.numberFrom base) := by
  have small : q.ns.toNat < 65536 := q.ns.toNat_lt
  have same : q.ns = UInt16.ofNat q.ns.toNat := UInt16.ofNat_toNat.symm
  rw [same, ofNat_eq_iff]
  unfold numberFrom serialDistance
  omega

theorem Queue.numberFrom_eq
    {base a : Nat}
    {q : Queue}
    (ns : q.ns = UInt16.ofNat a)
    (ahead : base ≤ a)
    (near : a < base + 65536) :
    q.numberFrom base = a := by
  have residue : q.ns.toNat % 65536 = a % 65536 := by
    rw [ns, UInt16.toNat_ofNat']
    omega
  have distance : serialDistance 32768 q.ns.toNat base = a - base :=
    (serialDistance_congr residue rfl).trans (serialDistance_of_le ahead near)
  unfold numberFrom
  omega

/-! ## What is sent -/

def messagesOf (packets : List Packet) : List Packet :=
  packets.filter fun p => !p.isZLB

/-- A message without the number that it acknowledges, which changes when it is repeated. -/
def Packet.contents (p : Packet) : Packet :=
  { p with nr := 0 }

/-- The number of messages that a tunnel has processed. -/
def Tunnel.count (t : Tunnel) : Nat :=
  (messagesOf t.processed).length

/-- The numbers of the packets in the retransmission queue. -/
def Tunnel.queued (t : Tunnel) : List Nat :=
  t.sendQueue.map Queue.number

/-- The fields of a tunnel that the channel uses. -/
def Tunnel.channel (t : Tunnel) :
    UInt16 × MayaquaList Queue × List Packet × List Queue × UInt16 × Nat :=
  (t.lastNr, t.recvQueue, t.processed, t.sendQueue, t.nextNs, t.numSent)

/-- The numbers of the retransmission queue are those of its packets. -/
structure Tunnel.Numbered (t : Tunnel) : Prop where
  nextNs : t.nextNs = UInt16.ofNat t.numSent
  /-- The packets. -/
  queue : ∀ q ∈ t.sendQueue, q.ns = UInt16.ofNat q.number

/-- Some work sends packets, which acknowledge what was received before, and leaves what
the tunnel received alone. -/
structure Work.Sends (before after : Work) : Prop where
  /-- `LastNr` stays. -/
  lastNr : after.tunnel.lastNr = before.tunnel.lastNr
  recvQueue : after.tunnel.recvQueue = before.tunnel.recvQueue
  processed : after.tunnel.processed = before.tunnel.processed
  queued : ∀ number ∈ before.tunnel.queued, number ∈ after.tunnel.queued
  numbered : before.tunnel.Numbered → after.tunnel.Numbered
  sent : ∃ more, after.sendPacketList = before.sendPacketList ++ more ∧
    ∀ s ∈ more, s.packet.isControl = true →
      s.packet.nr = before.tunnel.lastNr + 1 ∧ s.processed = before.tunnel.processed

namespace Work

variable {env : Env}
variable {before middle after w : Work}

theorem Sends.refl : w.Sends w :=
  ⟨rfl, rfl, rfl, fun _ listed => listed, id, [], by simp, fun _ listed => (nomatch listed)⟩

theorem Sends.trans
    (first : before.Sends middle)
    (second : middle.Sends after) :
    before.Sends after := by
  obtain ⟨some, firstSent, firstNr⟩ := first.sent
  obtain ⟨more, secondSent, secondNr⟩ := second.sent
  refine ⟨second.lastNr.trans first.lastNr, second.recvQueue.trans first.recvQueue,
    second.processed.trans first.processed,
    fun number listed => second.queued number (first.queued number listed),
    fun numbered => second.numbered (first.numbered numbered), some ++ more, ?_, ?_⟩
  · rw [secondSent, firstSent, List.append_assoc]
  · intro s listed control
    cases List.mem_append.mp listed with
    | inl early => exact firstNr s early control
    | inr late =>
        rw [← first.lastNr, ← first.processed]
        exact secondNr s late control

theorem Sends.of_tunnel
    {t : Tunnel}
    (same : t.channel = w.tunnel.channel)
    (freed : List Session) :
    w.Sends { w with tunnel := t, freed := freed } := by
  obtain ⟨lastNr, recvQueue, processed, sendQueue, nextNs, numSent⟩ :
      t.lastNr = w.tunnel.lastNr ∧ t.recvQueue = w.tunnel.recvQueue ∧
        t.processed = w.tunnel.processed ∧ t.sendQueue = w.tunnel.sendQueue ∧
        t.nextNs = w.tunnel.nextNs ∧ t.numSent = w.tunnel.numSent := by
    simpa [Tunnel.channel] using same
  refine ⟨lastNr, recvQueue, processed, ?_, ?_, [], by simp, fun _ listed => (nomatch listed)⟩
  · unfold Tunnel.queued
    rw [sendQueue]
    exact fun _ listed => listed
  · intro numbered
    refine ⟨?_, ?_⟩
    · rw [nextNs, numSent]
      exact numbered.nextNs
    · rw [sendQueue]
      exact numbered.queue

theorem sends_sendL2TPControlPacketMain (q : Queue) :
    w.Sends (w.sendL2TPControlPacketMain q) := by
  refine ⟨rfl, rfl, rfl, fun _ listed => listed, id, _, rfl, ?_⟩
  intro s listed _
  rw [List.mem_singleton.mp listed]
  exact ⟨rfl, rfl⟩

theorem sends_sendL2TPControlPacket (sessionId : UInt32) (p : Packet) :
    w.Sends (w.sendL2TPControlPacket env sessionId p) := by
  refine ⟨rfl, rfl, rfl, ?_, ?_, _, rfl, ?_⟩
  · intro number listed
    unfold Tunnel.queued sendL2TPControlPacket
    rw [List.map_append]
    exact List.mem_append_left _ listed
  · intro numbered
    refine ⟨?_, ?_⟩
    · change w.tunnel.nextNs + 1 = UInt16.ofNat (w.tunnel.numSent + 1)
      rw [numbered.nextNs, UInt16.ofNat_add]
      rfl
    · intro q listed
      cases List.mem_append.mp listed with
      | inl old => exact numbered.queue q old
      | inr new =>
          rw [List.mem_singleton.mp new]
          exact numbered.nextNs
  · intro s listed _
    rw [List.mem_singleton.mp listed]
    exact ⟨rfl, rfl⟩

theorem sends_sendL2TPDataPacket (s : Session) (data : List UInt8) :
    w.Sends (w.sendL2TPDataPacket s data) := by
  have sends : ∀ (serverPort clientPort : Nat) (packet : Packet), packet.isControl = false →
      w.Sends (w.l2tpSendUDP serverPort clientPort packet) := by
    intro serverPort clientPort packet data
    refine ⟨rfl, rfl, rfl, fun _ listed => listed, id, _, rfl, ?_⟩
    intro s listed control
    rw [List.mem_singleton.mp listed] at control
    exact absurd (control.symm.trans data) (by decide)
  unfold sendL2TPDataPacket
  split
  · exact sends _ _ _ rfl
  · split
    · exact sends _ _ _ rfl
    · exact sends _ _ _ rfl

theorem sends_disconnectL2TPTunnel :
    w.Sends { w with tunnel := disconnectL2TPTunnel w.tunnel } := by
  unfold disconnectL2TPTunnel
  split
  · exact .of_tunnel (by rfl) _
  · exact .refl

theorem sends_processIcrq (p : Packet) : w.Sends (w.processIcrq env p) := by
  unfold processIcrq
  split
  · exact .refl
  · split
    · split
      · exact .refl
      · unfold addSession
        dsimp only
        refine .trans ?_ (sends_sendL2TPControlPacket _ _)
        exact .of_tunnel (by rfl) _
    · exact .refl

theorem sends_processTunnelMessage (p : Packet) :
    w.Sends (w.processTunnelMessage env p) := by
  have established : w.Sends (w.processScccn env p) := by
    unfold processScccn
    split
    · exact .of_tunnel (by rfl) _
    · exact .refl
  unfold processTunnelMessage
  dsimp only
  apply established.trans
  generalize w.processScccn env p = w
  split
  · split
    · exact sends_processIcrq p
    · split
      · unfold processStopccn
        split
        · exact sends_disconnectL2TPTunnel
        · exact .refl
      · exact .refl
  · exact .refl

theorem sends_l2tpProcessRecvControlPacket (p : Packet) :
    ({ w with tunnel := { w.tunnel with
      processed := w.tunnel.processed ++ [p] } } : Work).Sends
      (w.l2tpProcessRecvControlPacket env p) := by
  unfold l2tpProcessRecvControlPacket
  dsimp only
  split
  · exact sends_processTunnelMessage p
  · unfold processSessionMessage
    split
    · exact .refl
    · exact .of_tunnel (by rfl) _

theorem sends_recvDataPacket (pp : Packet) : w.Sends (w.recvDataPacket env pp) := by
  unfold recvDataPacket
  split
  · exact .refl
  · split
    · exact .of_tunnel (by rfl) _
    · exact .refl

/-! ## Interrupts -/

theorem sends_keepSession (s : Session) : w.Sends (w.keepSession env s) := by
  unfold keepSession
  split
  · exact .of_tunnel (by rfl) _
  · exact .of_tunnel (by rfl) _

theorem sends_interruptSession (s : Session) : w.Sends (w.interruptSession env s) := by
  have waiting : ∀ (data : List (List UInt8)) (w : Work),
      w.Sends (data.foldl (fun w data => w.sendL2TPDataPacket s data) w) := by
    intro data
    induction data with
    | nil =>
        intro w
        exact .refl
    | cons first rest inductionHypothesis =>
        intro w
        exact (sends_sendL2TPDataPacket s first).trans (inductionHypothesis _)
  unfold interruptSession
  dsimp only
  apply (waiting s.waiting w).trans
  split
  · exact (sends_sendL2TPControlPacket _ _).trans (sends_keepSession _)
  · exact sends_keepSession _

theorem sends_interruptSessions : w.Sends (w.interruptSessions env) := by
  have each : ∀ (sessions : List Session) (w : Work),
      w.Sends (sessions.foldl (Work.interruptSession env) w) := by
    intro sessions
    induction sessions with
    | nil =>
        intro w
        exact .refl
    | cons s rest inductionHypothesis =>
        intro w
        exact (sends_interruptSession s).trans (inductionHypothesis _)
  have emptied : w.Sends { w with tunnel := { w.tunnel with sessionList := [] } } :=
    .of_tunnel (by rfl) _
  exact emptied.trans (each w.tunnel.sessionList _)

theorem sends_interruptTunnel : w.Sends (w.interruptTunnel env) := by
  have timed : w.Sends { w with tunnel := w.tunnel.checkTimeout env } := by
    unfold Tunnel.checkTimeout
    split
    · have marked : w.Sends { w with tunnel := { w.tunnel with timedout := true } } :=
        .of_tunnel (by rfl) _
      exact marked.trans sends_disconnectL2TPTunnel
    · exact .refl
  unfold interruptTunnel
  dsimp only
  apply timed.trans
  generalize ({ w with tunnel := w.tunnel.checkTimeout env } : Work) = w
  have greeted : w.Sends (w.sendHello env) := by
    unfold sendHello
    split
    · refine .trans ?_ (sends_sendL2TPControlPacket _ _)
      exact .of_tunnel (by rfl) _
    · exact .refl
  apply greeted.trans
  generalize w.sendHello env = w
  apply sends_interruptSessions.trans
  generalize w.interruptSessions env = w
  unfold stopTunnel
  split
  · have told : w.Sends (w.sendL2TPControlPacket env 0 (stopccnPacket w.tunnel)) :=
      sends_sendL2TPControlPacket _ _
    apply told.trans
    exact .of_tunnel (by rfl) _
  · exact .refl

theorem sends_retransmitQueue
    {q : Queue}
    (ns : q.ns = UInt16.ofNat q.number) :
    w.Sends (w.retransmitQueue env q) ∧
      (w.retransmitQueue env q).tunnel.queued = w.tunnel.queued ++ [q.number] := by
  have collected : ∀ (w : Work) (q : Queue), q.ns = UInt16.ofNat q.number →
      w.Sends { w with
        tunnel := { w.tunnel with sendQueue := w.tunnel.sendQueue ++ [q] } } := by
    intro w q ns
    refine ⟨rfl, rfl, rfl, ?_, ?_, [], by simp, fun _ listed => (nomatch listed)⟩
    · intro number listed
      unfold Tunnel.queued
      rw [List.map_append]
      exact List.mem_append_left _ listed
    · intro numbered
      refine ⟨numbered.nextNs, ?_⟩
      intro other listed
      cases List.mem_append.mp listed with
      | inl old => exact numbered.queue other old
      | inr new =>
          rw [List.mem_singleton.mp new]
          exact ns
  unfold retransmitQueue
  split
  · refine ⟨(sends_sendL2TPControlPacketMain _).trans (collected _ _ ns), ?_⟩
    unfold Tunnel.queued
    exact List.map_append
  · refine ⟨collected w q ns, ?_⟩
    unfold Tunnel.queued
    exact List.map_append

theorem sends_retransmitQueues
    {queue : List Queue}
    (ns : ∀ q ∈ queue, q.ns = UInt16.ofNat q.number) :
    w.Sends (queue.foldl (Work.retransmitQueue env) w) ∧
      (queue.foldl (Work.retransmitQueue env) w).tunnel.queued =
        w.tunnel.queued ++ queue.map Queue.number := by
  induction queue generalizing w with
  | nil => exact ⟨.refl, by simp⟩
  | cons q rest inductionHypothesis =>
      obtain ⟨first, queued⟩ : w.Sends (w.retransmitQueue env q) ∧
          (w.retransmitQueue env q).tunnel.queued = w.tunnel.queued ++ [q.number] :=
        sends_retransmitQueue (ns q List.mem_cons_self)
      obtain ⟨others, all⟩ := inductionHypothesis (w := w.retransmitQueue env q)
        fun other listed => ns other (List.mem_cons_of_mem q listed)
      refine ⟨first.trans others, all.trans ?_⟩
      rw [queued, List.map_cons, ← List.append_cons]

theorem sends_retransmit
    (numbered : w.tunnel.Numbered) :
    w.Sends (w.retransmit env) := by
  have settled : ∀ w : Work,
      w.Sends { w with tunnel := { w.tunnel with stateChanged := false } } := by
    intro w
    exact .of_tunnel (by rfl) _
  unfold retransmit
  dsimp only
  refine .trans ?_ (settled _)
  split
  · have emptied := @sends_retransmitQueues env
      { w with tunnel := { w.tunnel with sendQueue := [] } } w.tunnel.sendQueue numbered.queue
    obtain ⟨sends, queued⟩ := emptied
    refine ⟨sends.lastNr, sends.recvQueue, sends.processed, ?_, ?_, sends.sent⟩
    · intro number listed
      rw [queued]
      exact listed
    · intro _
      exact sends.numbered ⟨numbered.nextNs, fun _ listed => (nomatch listed)⟩
  · split
    · exact sends_sendL2TPControlPacketMain _
    · exact .refl

end Work

/-! ## The reception queue -/

structure Tunnel.Receiving (messages : List Packet) (t : Tunnel) : Prop where
  lastNr : t.lastNr = UInt16.ofNat t.count
  inOrder : (messagesOf t.processed).map Packet.contents =
    (messages.take t.count).map Packet.contents
  sorted : t.recvQueue.sorted = true
  ordered : t.recvQueue.items.Pairwise fun earlier later =>
    earlier.numberFrom t.count < later.numberFrom t.count
  /-- They are ahead of the messages that were processed, but not by much. -/
  near : ∀ q ∈ t.recvQueue.items,
    t.count < q.numberFrom t.count ∧ q.numberFrom t.count ≤ t.count + (L2TP_WINDOW_SIZE + 1)
  /-- Those that are no `ZLB` are copies of messages. -/
  copies : ∀ q ∈ t.recvQueue.items, q.packet.isZLB = false →
    messages[q.numberFrom t.count - 1]?.map Packet.contents = some q.packet.contents

namespace Tunnel

variable {messages : List Packet}
variable {t other : Tunnel}

/-- Only three fields matter. -/
theorem Receiving.congr
    (receiving : t.Receiving messages)
    (lastNr : other.lastNr = t.lastNr)
    (recvQueue : other.recvQueue = t.recvQueue)
    (processed : other.processed = t.processed) :
    other.Receiving messages := by
  have count : other.count = t.count := by
    unfold Tunnel.count
    rw [processed]
  constructor
  · rw [lastNr, count]
    exact receiving.lastNr
  · rw [processed, count]
    exact receiving.inOrder
  · rw [recvQueue]
    exact receiving.sorted
  · rw [recvQueue, count]
    exact receiving.ordered
  · rw [recvQueue, count]
    exact receiving.near
  · rw [recvQueue, count]
    exact receiving.copies

/-- A further message of the peer changes nothing for the tunnel. -/
theorem Receiving.append
    (receiving : t.Receiving messages)
    (m : Packet) :
    t.Receiving (messages ++ [m]) := by
  have enough : t.count ≤ messages.length := by
    have lengths := congrArg List.length receiving.inOrder
    rw [List.length_map, List.length_map, List.length_take] at lengths
    unfold Tunnel.count at lengths ⊢
    omega
  refine ⟨receiving.lastNr, ?_, receiving.sorted, receiving.ordered, receiving.near, ?_⟩
  · rw [List.take_append_of_le_length enough]
    exact receiving.inOrder
  · intro q listed message
    have copy := receiving.copies q listed message
    rw [List.getElem?_append_left]
    · exact copy
    · by_contra outside
      rw [List.getElem?_eq_none (by omega)] at copy
      exact nomatch copy

theorem exists_split_at
    {base a : Nat}
    {items : List Queue}
    (ordered : items.Pairwise fun earlier later =>
      earlier.numberFrom base < later.numberFrom base)
    (absent : ∀ q ∈ items, q.numberFrom base ≠ a) :
    ∃ before after, items = before ++ after ∧
      (∀ q ∈ before, q.numberFrom base < a) ∧ ∀ q ∈ after, a < q.numberFrom base := by
  induction items with
  | nil => exact ⟨[], [], rfl, by simp, by simp⟩
  | cons first rest inductionHypothesis =>
      obtain ⟨behind, restOrdered⟩ := List.pairwise_cons.mp ordered
      have different := absent first List.mem_cons_self
      by_cases earlier : first.numberFrom base < a
      · obtain ⟨before, after, split, smaller, greater⟩ :=
          inductionHypothesis restOrdered fun q listed =>
            absent q (List.mem_cons_of_mem first listed)
        refine ⟨first :: before, after, by rw [split]; rfl, ?_, greater⟩
        intro q listed
        cases List.mem_cons.mp listed with
        | inl same =>
            rw [same]
            exact earlier
        | inr later => exact smaller q later
      · refine ⟨[], first :: rest, rfl, by simp, ?_⟩
        intro q listed
        cases List.mem_cons.mp listed with
        | inl same =>
            rw [same]
            omega
        | inr later =>
            have := behind q later
            omega

theorem cmp_of_near
    {base : Nat}
    {q1 q2 : Queue}
    (near1 : q1.numberFrom base ≤ base + 17)
    (near2 : q2.numberFrom base ≤ base + 17) :
    cmpL2TPQueueForRecv q1 q2 = compare (q1.numberFrom base) (q2.numberFrom base) := by
  have above : ∀ q : Queue, base ≤ q.numberFrom base := fun q => Nat.le_add_right _ _
  have above1 := above q1
  have above2 := above q2
  have ns1 := q1.ns_eq base
  have ns2 := q2.ns_eq base
  generalize q1.numberFrom base = a at *
  generalize q2.numberFrom base = b at *
  unfold cmpL2TPQueueForRecv
  rw [ns1, ns2, seqLT_ofNat]
  cases order : compare a b with
  | lt =>
      have less := Nat.compare_eq_lt.mp order
      rw [serialLT_of_lt less (by omega)]
      rfl
  | eq =>
      have same := Nat.compare_eq_eq.mp order
      rw [serialLT_of_le (by omega) (by omega), same]
      simp
  | gt =>
      have greater := Nat.compare_eq_gt.mp order
      have different : UInt16.ofNat a ≠ UInt16.ofNat b := by
        intro same
        rw [ofNat_eq_iff] at same
        omega
      rw [serialLT_of_le (by omega) (by omega), if_neg different]
      rfl

theorem Receiving.insert
    {q : Queue}
    {a : Nat}
    (receiving : t.Receiving messages)
    (ns : q.ns = UInt16.ofNat a)
    (ahead : t.count < a)
    (near : a ≤ t.count + (L2TP_WINDOW_SIZE + 1))
    (copy : q.packet.isZLB = false →
      messages[a - 1]?.map Packet.contents = some q.packet.contents)
    (absent : ∀ item ∈ t.recvQueue.items, item.numberFrom t.count ≠ a) :
    ({ t with recvQueue := t.recvQueue.insert cmpL2TPQueueForRecv q } : Tunnel).Receiving
      messages := by
  have window : L2TP_WINDOW_SIZE + 1 = 17 := rfl
  have number : q.numberFrom t.count = a := q.numberFrom_eq ns (by omega) (by omega)
  obtain ⟨before, after, split, smaller, greater⟩ :=
    exists_split_at receiving.ordered absent
  have items : (t.recvQueue.insert cmpL2TPQueueForRecv q).items = before ++ q :: after := by
    have whole : t.recvQueue = ⟨before ++ after, true⟩ := by
      rw [← split, ← receiving.sorted]
    rw [whole]
    apply MayaquaList.insert_items_of_split
    · intro item listed
      have inside := receiving.near item (split ▸ List.mem_append_left after listed)
      rw [@cmp_of_near t.count item q (by omega) (by omega), number]
      exact Nat.compare_eq_lt.mpr (smaller item listed)
    · intro item listed
      have inside := receiving.near item (split ▸ List.mem_append_right before listed)
      rw [@cmp_of_near t.count item q (by omega) (by omega), number]
      exact Nat.compare_eq_gt.mpr (greater item listed)
  have old : ∀ item ∈ before ++ q :: after, item = q ∨ item ∈ t.recvQueue.items := by
    intro item listed
    rw [split]
    simp only [List.mem_append, List.mem_cons] at listed ⊢
    tauto
  have count : ({ t with
      recvQueue := t.recvQueue.insert cmpL2TPQueueForRecv q } : Tunnel).count = t.count := rfl
  constructor
  · exact receiving.lastNr
  · exact receiving.inOrder
  · change (t.recvQueue.ensureSorted cmpL2TPQueueForRecv).sorted = true
    unfold MayaquaList.ensureSorted
    rw [if_pos receiving.sorted]
    exact receiving.sorted
  · have ordered := receiving.ordered
    rw [split, List.pairwise_append] at ordered
    rw [count, items, List.pairwise_append, List.pairwise_cons]
    refine ⟨ordered.1, ⟨?_, ordered.2.1⟩, ?_⟩
    · intro item listed
      rw [number]
      exact greater item listed
    · intro item listed other present
      cases List.mem_cons.mp present with
      | inl same =>
          rw [same, number]
          exact smaller item listed
      | inr behind => exact ordered.2.2 item listed other behind
  · rw [count, items]
    intro item listed
    cases old item listed with
    | inl same =>
        rw [same, number]
        exact ⟨ahead, near⟩
    | inr present => exact receiving.near item present
  · rw [count, items]
    intro item listed
    cases old item listed with
    | inl same =>
        rw [same, number]
        exact copy
    | inr present => exact receiving.copies item present

theorem Receiving.absent_of_search
    {q : Queue}
    {a : Nat}
    (receiving : t.Receiving messages)
    (ns : q.ns = UInt16.ofNat a)
    (ahead : t.count < a)
    (near : a ≤ t.count + (L2TP_WINDOW_SIZE + 1))
    (searched : (t.recvQueue.search cmpL2TPQueueForRecv (cmpL2TPQueueForRecv q)).1 = none) :
    ∀ item ∈ t.recvQueue.items, item.numberFrom t.count ≠ a := by
  have window : L2TP_WINDOW_SIZE + 1 = 17 := rfl
  have number : q.numberFrom t.count = a := q.numberFrom_eq ns (by omega) (by omega)
  have compared : ∀ item ∈ t.recvQueue.items,
      cmpL2TPQueueForRecv q item = compare a (item.numberFrom t.count) := by
    intro item listed
    have inside := receiving.near item listed
    rw [@cmp_of_near t.count q item (by omega) (by omega), number]
  intro item listed same
  have ordered : OrderedFor (cmpL2TPQueueForRecv q) t.recvQueue.items := by
    apply receiving.ordered.imp_of_mem
    intro earlier later first second less
    rw [compared earlier first, compared later second, Nat.compare_eq_lt,
      Nat.compare_eq_lt, Nat.compare_eq_gt, Nat.compare_eq_gt]
    omega
  have found := bsearch_complete (Nat.le_refl _) ordered listed
    (by rw [compared item listed, same]; exact Nat.compare_eq_eq.mpr rfl)
  unfold MayaquaList.search MayaquaList.ensureSorted at searched
  rw [if_pos receiving.sorted] at searched
  dsimp only [MayaquaList.num] at searched
  rw [searched] at found
  exact nomatch found

end Tunnel

/-! ## Receiving -/

/-- What holds of a tunnel and of everything that it has sent. -/
structure Work.Sound (messages : List Packet) (w : Work) : Prop where
  receiving : w.tunnel.Receiving messages
  numbered : w.tunnel.Numbered
  acknowledges : ∀ s ∈ w.sendPacketList, s.packet.isControl = true →
    s.packet.nr = UInt16.ofNat ((messagesOf s.processed).length + 1) ∧
      s.processed <+: w.tunnel.processed

namespace Work

variable {env : Env}
variable {messages : List Packet}
variable {before after w : Work}

theorem Sound.sends
    (sound : before.Sound messages)
    (sends : before.Sends after) :
    after.Sound messages := by
  refine ⟨sound.receiving.congr sends.lastNr sends.recvQueue sends.processed,
    sends.numbered sound.numbered, ?_⟩
  obtain ⟨more, list, nr⟩ := sends.sent
  rw [list, sends.processed]
  intro s listed control
  cases List.mem_append.mp listed with
  | inl old => exact sound.acknowledges s old control
  | inr new =>
      obtain ⟨acknowledged, processed⟩ := nr s new control
      rw [acknowledged, processed, sound.receiving.lastNr, UInt16.ofNat_add]
      exact ⟨rfl, List.prefix_refl _⟩

theorem Sound.takeHead
    {q : Queue}
    {rest : List Queue}
    (sound : w.Sound messages)
    (head : w.tunnel.recvQueue.items = q :: rest)
    (next : q.ns = w.tunnel.lastNr + 1) :
    ({ w with tunnel := { (if q.packet.isZLB = false then
        { w.tunnel with lastNr := q.ns, stateChanged := true } else w.tunnel) with
      recvQueue := w.tunnel.recvQueue.delete q
      processed := w.tunnel.processed ++ [q.packet] } } : Work).Sound messages := by
  obtain ⟨receiving, numbered, acknowledges⟩ := sound
  have ns : q.ns = UInt16.ofNat (w.tunnel.count + 1) := by
    rw [next, receiving.lastNr, UInt16.ofNat_add]
    rfl
  have number : q.numberFrom w.tunnel.count = w.tunnel.count + 1 :=
    q.numberFrom_eq ns (by omega) (by omega)
  have left : (w.tunnel.recvQueue.delete q).items = rest := by
    unfold MayaquaList.delete
    dsimp only
    rw [head, List.erase_cons_head]
  obtain ⟨behind, restOrdered⟩ := List.pairwise_cons.mp (head ▸ receiving.ordered)
  have inside : ∀ item ∈ rest, item ∈ w.tunnel.recvQueue.items := by
    intro item listed
    rw [head]
    exact List.mem_cons_of_mem q listed
  have prefixed : ∀ s ∈ w.sendPacketList, s.packet.isControl = true →
      s.packet.nr = UInt16.ofNat ((messagesOf s.processed).length + 1) ∧
        s.processed <+: w.tunnel.processed ++ [q.packet] := by
    intro s listed control
    obtain ⟨nr, earlier⟩ := acknowledges s listed control
    exact ⟨nr, earlier.trans (List.prefix_append _ _)⟩
  cases zlb : q.packet.isZLB with
  | true =>
      rw [if_neg (by decide)]
      have kept : messagesOf (w.tunnel.processed ++ [q.packet]) =
          messagesOf w.tunnel.processed := by
        unfold messagesOf
        rw [List.filter_append, List.filter_cons_of_neg (by simp [zlb]), List.filter_nil,
          List.append_nil]
      have count : ({ w.tunnel with
          recvQueue := w.tunnel.recvQueue.delete q
          processed := w.tunnel.processed ++ [q.packet] } : Tunnel).count =
          w.tunnel.count := congrArg List.length kept
      refine ⟨⟨?_, ?_, receiving.sorted, ?_, ?_, ?_⟩, ⟨numbered.nextNs, numbered.queue⟩,
        prefixed⟩
      · rw [count]
        exact receiving.lastNr
      · rw [count]
        dsimp only
        rw [kept]
        exact receiving.inOrder
      · rw [count]
        dsimp only
        rw [left]
        exact restOrdered
      · rw [count]
        dsimp only
        rw [left]
        exact fun item listed => receiving.near item (inside item listed)
      · rw [count]
        dsimp only
        rw [left]
        exact fun item listed => receiving.copies item (inside item listed)
  | false =>
      rw [if_pos rfl]
      have longer : messagesOf (w.tunnel.processed ++ [q.packet]) =
          messagesOf w.tunnel.processed ++ [q.packet] := by
        unfold messagesOf
        rw [List.filter_append, List.filter_cons_of_pos (by simp [zlb]), List.filter_nil]
      have count : ({ w.tunnel with
          lastNr := q.ns
          stateChanged := true
          recvQueue := w.tunnel.recvQueue.delete q
          processed := w.tunnel.processed ++ [q.packet] } : Tunnel).count =
          w.tunnel.count + 1 := by
        unfold Tunnel.count
        dsimp only
        rw [longer, List.length_append]
        rfl
      have copy := receiving.copies q (head ▸ List.mem_cons_self) zlb
      rw [number, Nat.add_sub_cancel, Option.map_eq_some_iff] at copy
      obtain ⟨m, message, same⟩ := copy
      have shifted : ∀ item ∈ rest,
          item.numberFrom (w.tunnel.count + 1) = item.numberFrom w.tunnel.count := by
        intro item listed
        have more := behind item listed
        have near := receiving.near item (inside item listed)
        have window : L2TP_WINDOW_SIZE + 1 = 17 := rfl
        exact item.numberFrom_eq (item.ns_eq _) (by omega) (by omega)
      refine ⟨⟨?_, ?_, receiving.sorted, ?_, ?_, ?_⟩, ⟨numbered.nextNs, numbered.queue⟩,
        prefixed⟩
      · rw [count]
        exact ns
      · rw [count]
        dsimp only
        rw [longer, List.map_append, receiving.inOrder, List.take_add_one, message,
          List.map_append, List.map_singleton, ← same]
        rfl
      · rw [count]
        dsimp only
        rw [left]
        apply restOrdered.imp_of_mem
        intro earlier later first second less
        rw [shifted earlier first, shifted later second]
        exact less
      · rw [count]
        dsimp only
        rw [left]
        intro item listed
        have more := behind item listed
        have near := receiving.near item (inside item listed)
        rw [shifted item listed]
        omega
      · rw [count]
        dsimp only
        rw [left]
        intro item listed
        rw [shifted item listed]
        exact receiving.copies item (inside item listed)

theorem Sound.readCompleted
    (sound : w.Sound messages)
    (fuel : Nat) :
    (w.readCompleted env fuel).Sound messages ∧
      ∀ number ∈ w.tunnel.queued, number ∈ (w.readCompleted env fuel).tunnel.queued := by
  induction fuel generalizing w with
  | zero => exact ⟨sound, fun _ listed => listed⟩
  | succ fuel inductionHypothesis =>
      unfold Work.readCompleted
      cases head : w.tunnel.recvQueue.items with
      | nil => exact ⟨sound, fun _ listed => listed⟩
      | cons q rest =>
          dsimp only
          split
          case isTrue => exact ⟨sound, fun _ listed => listed⟩
          case isFalse next =>
            rw [ne_eq, not_not] at next
            have taken := sound.takeHead head next
            generalize base : (if q.packet.isZLB = false then
              { w.tunnel with lastNr := q.ns, stateChanged := true } else w.tunnel) = t at taken
            have queue : t.recvQueue = w.tunnel.recvQueue ∧
                t.processed = w.tunnel.processed ∧ t.sendQueue = w.tunnel.sendQueue := by
              rw [← base]
              split
              · exact ⟨rfl, rfl, rfl⟩
              · exact ⟨rfl, rfl, rfl⟩
            obtain ⟨recvQueue, processed, sendQueue⟩ := queue
            rw [← recvQueue, ← processed] at taken
            have sends := @sends_l2tpProcessRecvControlPacket env
              { w with tunnel := { t with recvQueue := t.recvQueue.delete q } } q.packet
            obtain ⟨last, whole⟩ := inductionHypothesis (taken.sends sends)
            refine ⟨last, fun number listed => whole number (sends.queued number ?_)⟩
            unfold Tunnel.queued at listed ⊢
            dsimp only
            rw [sendQueue]
            exact listed

theorem Sound.enqueue
    {pp : Packet}
    {a : Nat}
    (sound : w.Sound messages)
    (ns : pp.ns = UInt16.ofNat a)
    (ahead : w.tunnel.count < a)
    (near : a ≤ w.tunnel.count + (L2TP_WINDOW_SIZE + 1))
    (copy : pp.isZLB = false → messages[a - 1]?.map Packet.contents = some pp.contents) :
    (w.enqueue env pp).Sound messages ∧
      ∀ number ∈ w.tunnel.queued, number ∈ (w.enqueue env pp).tunnel.queued := by
  have sameList : (w.tunnel.recvQueue.search cmpL2TPQueueForRecv
      (cmpL2TPQueueForRecv { packet := pp, ns := pp.ns })).2 = w.tunnel.recvQueue := by
    unfold MayaquaList.search MayaquaList.ensureSorted
    rw [if_pos sound.receiving.sorted]
  unfold Work.enqueue
  split
  case isTrue =>
    dsimp only
    split
    next found recvQueue searched =>
      rw [searched] at sameList
      change recvQueue = w.tunnel.recvQueue at sameList
      rw [sameList]
      exact ⟨sound, fun _ listed => listed⟩
    next recvQueue searched =>
      have absent := sound.receiving.absent_of_search (q := { packet := pp, ns := pp.ns }) ns
        ahead near (by rw [searched])
      rw [searched] at sameList
      change recvQueue = w.tunnel.recvQueue at sameList
      rw [sameList]
      have inserted : ({ w with tunnel := { w.tunnel with
          recvQueue := w.tunnel.recvQueue.insert cmpL2TPQueueForRecv
            { packet := pp, ns := pp.ns } } } : Work).Sound messages :=
        ⟨sound.receiving.insert ns ahead near copy absent,
          ⟨sound.numbered.nextNs, sound.numbered.queue⟩, sound.acknowledges⟩
      exact inserted.readCompleted _
  case isFalse => exact ⟨sound, fun _ listed => listed⟩

theorem Sound.recvControlPacket
    {pp : Packet}
    {a r : Nat}
    (sound : w.Sound messages)
    (ns : pp.ns = UInt16.ofNat a)
    (nr : pp.nr = UInt16.ofNat r)
    (recent : w.tunnel.count ≤ a + 32768)
    (near : a ≤ w.tunnel.count + (L2TP_WINDOW_SIZE + 1))
    (answered : ∀ q ∈ w.tunnel.sendQueue, q.number < r + 32768)
    (copy : pp.isZLB = false → messages[a - 1]?.map Packet.contents = some pp.contents) :
    (w.recvControlPacket env pp).Sound messages ∧
      ∀ number ∈ w.tunnel.queued, number ∉ (w.recvControlPacket env pp).tunnel.queued →
        number < r := by
  have window : L2TP_WINDOW_SIZE + 1 = 17 := rfl
  have acknowledged : ({ w with
      tunnel := w.tunnel.removeAcknowledged pp.nr } : Work).Sound messages :=
    ⟨sound.receiving.congr rfl rfl rfl,
      ⟨sound.numbered.nextNs, fun q listed =>
        sound.numbered.queue q (List.mem_of_mem_filter listed)⟩, sound.acknowledges⟩
  have stays : ∀ number ∈ w.tunnel.queued, number < r ∨
      number ∈ (w.tunnel.removeAcknowledged pp.nr).queued := by
    intro number listed
    obtain ⟨q, present, same⟩ := List.mem_map.mp listed
    by_cases before : number < r
    · exact .inl before
    · right
      refine List.mem_map.mpr ⟨q, List.mem_filter.mpr ⟨present, ?_⟩, same⟩
      have close := answered q present
      rw [sound.numbered.queue q present, nr, seqLT_ofNat,
        serialLT_of_le (by omega) (by omega)]
      rfl
  have count : (w.tunnel.removeAcknowledged pp.nr).count = w.tunnel.count := rfl
  unfold Work.recvControlPacket
  dsimp only
  generalize w.tunnel.removeAcknowledged pp.nr = t at acknowledged stays count
  have finish : ∀ after : Work, after.Sound messages →
      (∀ number ∈ t.queued, number ∈ after.tunnel.queued) →
      after.Sound messages ∧ ∀ number ∈ w.tunnel.queued,
        number ∉ after.tunnel.queued → number < r := by
    intro after last whole
    refine ⟨last, fun number listed gone => ?_⟩
    cases stays number listed with
    | inl before => exact before
    | inr kept => exact absurd (whole number kept) gone
  rw [← count] at recent near
  split
  case isTrue new =>
    have lastNr : t.lastNr = UInt16.ofNat t.count := acknowledged.receiving.lastNr
    have ahead : t.count < a := by
      by_contra old
      rw [lastNr, ns, seqLT_ofNat] at new
      by_cases last : a = t.count
      · exact new.2 (by rw [last])
      · rw [serialLT_of_lt (by omega) (by omega)] at new
        exact absurd new.1 (by decide)
    obtain ⟨last, whole⟩ := acknowledged.enqueue ns ahead near copy
    exact finish _ last whole
  case isFalse =>
    split
    · exact finish _ ⟨acknowledged.receiving.congr rfl rfl rfl,
        ⟨acknowledged.numbered.nextNs, acknowledged.numbered.queue⟩,
        acknowledged.acknowledges⟩ fun _ listed => listed
    · exact finish _ acknowledged fun _ listed => listed

theorem processed_recvControlPacket (pp : Packet) :
    w.tunnel.processed <+: (w.recvControlPacket env pp).tunnel.processed := by
  have read : ∀ (fuel : Nat) (w : Work),
      w.tunnel.processed <+: (w.readCompleted env fuel).tunnel.processed := by
    intro fuel
    induction fuel with
    | zero => exact fun w => List.prefix_refl _
    | succ fuel inductionHypothesis =>
        intro w
        unfold Work.readCompleted
        split
        · exact List.prefix_refl _
        next q _ _ =>
          split
          · exact List.prefix_refl _
          · refine List.IsPrefix.trans ?_ (inductionHypothesis _)
            generalize base : (if q.packet.isZLB = false then
              { w.tunnel with lastNr := q.ns, stateChanged := true } else w.tunnel) = t
            have same : t.processed = w.tunnel.processed := by
              rw [← base]
              split
              · rfl
              · rfl
            have sends := @sends_l2tpProcessRecvControlPacket env
              { w with tunnel := { t with recvQueue := t.recvQueue.delete q } } q.packet
            rw [sends.processed, ← same]
            exact List.prefix_append _ _
  unfold Work.recvControlPacket
  dsimp only
  split
  · unfold Work.enqueue
    split
    · dsimp only
      split
      · exact List.prefix_refl _
      next recvQueue _ =>
        exact read _ { w with tunnel := { w.tunnel.removeAcknowledged pp.nr with
          recvQueue := recvQueue.insert cmpL2TPQueueForRecv { packet := pp, ns := pp.ns } } }
    · exact List.prefix_refl _
  · split
    · exact List.prefix_refl _
    · exact List.prefix_refl _

end Work

/-! ## The tunnel and its peer -/

/-- A tunnel with all that it has sent, and its peer. -/
structure Link where
  /-- The tunnel. -/
  work : Work
  /-- The messages that the peer has numbered, from 1 on; 0 was `SCCRQ`. -/
  messages : List Packet := []
  /-- The number of messages that the peer knows to be acknowledged. -/
  acked : Nat := 0

/-- What happens to a tunnel and its peer. -/
inductive LinkEvent
  | number (m : Packet)
  /-- A copy of a message arrives that acknowledges what is before `r`. -/
  | message (env : Env) (place r : Nat)
  /-- A `ZLB` with the number `a` arrives that acknowledges what is before `r`. -/
  | zlb (env : Env) (zlb : Packet) (a r : Nat)
  | data (env : Env) (pp : Packet)
  /-- `L2TPProcessInterrupts`. -/
  | interrupts (env : Env)
  | disconnect
  | sessions (sessionList : List Session)
  /-- The peer receives a packet that the tunnel sent. -/
  | hear (place : Nat)

namespace Link

/-- The peer looks for the number that a control packet acknowledges among those of its
messages that are not acknowledged yet. -/
def hear (l : Link) (s : SentPacket) : Link :=
  let ahead := (s.packet.nr - 1 - UInt16.ofNat l.acked).toNat
  if s.packet.isControl ∧ l.acked + ahead ≤ l.messages.length then
    { l with acked := l.acked + ahead }
  else l

/-- One step of a tunnel and its peer. -/
def step (l : Link) : LinkEvent → Option Link
  | .number m =>
      if m.isControl ∧ m.isZLB = false ∧ m.ns = UInt16.ofNat (l.messages.length + 1) ∧
          l.messages.length < l.acked + L2TP_WINDOW_SIZE then
        some { l with messages := l.messages ++ [m] }
      else none
  | .message env place r =>
      match l.messages[place]? with
      | none => none
      | some m => some { l with work := l.work.recvPacket env { m with nr := UInt16.ofNat r } }
  | .zlb env zlb a r =>
      if zlb.isControl ∧ zlb.isZLB ∧ a ≤ l.messages.length + 1 then
        some { l with work :=
          l.work.recvPacket env { zlb with ns := UInt16.ofNat a, nr := UInt16.ofNat r } }
      else none
  | .data env pp =>
      if pp.isControl then none else some { l with work := l.work.recvPacket env pp }
  | .interrupts env =>
      if (l.work.interruptTunnel env).tunnel.isFinished env then none
      else some { l with work := (l.work.interruptTunnel env).retransmit env }
  | .disconnect =>
      some { l with work := { l.work with tunnel := disconnectL2TPTunnel l.work.tunnel } }
  | .sessions sessionList =>
      some { l with work :=
        { l.work with tunnel := { l.work.tunnel with sessionList := sessionList } } }
  | .hear place =>
      match l.work.sendPacketList[place]? with
      | none => none
      | some s => some (l.hear s)

/-- A packet that acknowledges what is before `r` is not older than half the number space,
compared with what waits to be acknowledged. -/
def answers (l : Link) (r : Nat) : Bool :=
  l.work.tunnel.sendQueue.all fun q => q.number < r + 32768

/-- Nothing is delivered that is older than half the number space. -/
def isRecent (l : Link) : LinkEvent → Bool
  | .message _ place r => l.work.tunnel.count ≤ place + 1 + 32768 && l.answers r
  | .zlb _ _ a r => l.work.tunnel.count ≤ a + 32768 && l.answers r
  | .hear place => (l.work.sendPacketList[place]?).all fun s =>
      l.acked ≤ (messagesOf s.processed).length + 32768
  | _ => true

/-- The number that an arriving control packet acknowledges everything before. -/
def acknowledged : LinkEvent → Option Nat
  | .message _ _ r => some r
  | .zlb _ _ _ r => some r
  | _ => none

/-- A new tunnel and its peer. -/
def start (l2tp : Server) (t : Tunnel) : Link where
  work := l2tp.answerSccrq t

/-- What holds of a tunnel and its peer. -/
structure Reliable (l : Link) : Prop where
  /-- The tunnel. -/
  sound : l.work.Sound l.messages
  messages : ∀ place m, l.messages[place]? = some m →
    m.isControl = true ∧ m.ns = UInt16.ofNat (place + 1)
  /-- What the peer knows to be acknowledged has been processed. -/
  acked : l.acked ≤ l.work.tunnel.count
  window : l.messages.length ≤ l.acked + L2TP_WINDOW_SIZE

variable {l after : Link}

theorem Reliable.count_le (reliable : l.Reliable) :
    l.work.tunnel.count ≤ l.messages.length := by
  have lengths := congrArg List.length reliable.sound.receiving.inOrder
  rw [List.length_map, List.length_map, List.length_take] at lengths
  unfold Tunnel.count at lengths ⊢
  omega

theorem Reliable.hear
    {s : SentPacket}
    (reliable : l.Reliable)
    (listed : s ∈ l.work.sendPacketList)
    (recent : l.acked ≤ (messagesOf s.processed).length + 32768) :
    (l.hear s).Reliable := by
  unfold Link.hear
  dsimp only
  split
  case isTrue heard =>
    obtain ⟨nr, earlier⟩ := reliable.sound.acknowledges s listed heard.1
    have processed : (messagesOf s.processed).length ≤ l.work.tunnel.count := by
      exact (earlier.filter _).length_le
    have fewer := reliable.count_le
    have window := reliable.window
    have size : L2TP_WINDOW_SIZE = 16 := rfl
    have distance : (s.packet.nr - 1 - UInt16.ofNat l.acked).toNat =
        serialDistance 32768 (messagesOf s.processed).length l.acked := by
      rw [nr, UInt16.toNat_sub, UInt16.toNat_sub, UInt16.toNat_ofNat', UInt16.toNat_ofNat']
      change _ = ((messagesOf s.processed).length +
        (2 * 32768 - l.acked % (2 * 32768))) % (2 * 32768)
      have one : (1 : UInt16).toNat = 1 := rfl
      omega
    rw [distance] at heard ⊢
    have ahead : l.acked ≤ (messagesOf s.processed).length := by
      by_contra behind
      rw [serialDistance_of_lt (by omega) (by omega)] at heard
      omega
    rw [serialDistance_of_le ahead (by omega)] at heard ⊢
    refine ⟨reliable.sound, reliable.messages, ?_, ?_⟩
    · dsimp only
      omega
    · dsimp only
      omega
  case isFalse => exact reliable

/-- Nothing that is processed is taken back. -/
theorem Reliable.ofWork
    {w : Work}
    (reliable : l.Reliable)
    (sound : w.Sound l.messages)
    (grows : l.work.tunnel.count ≤ w.tunnel.count) :
    ({ l with work := w } : Link).Reliable :=
  ⟨sound, reliable.messages, reliable.acked.trans grows, reliable.window⟩

theorem Reliable.sends
    {w : Work}
    (reliable : l.Reliable)
    (sends : l.work.Sends w) :
    ({ l with work := w } : Link).Reliable := by
  apply reliable.ofWork (reliable.sound.sends sends)
  unfold Tunnel.count
  rw [sends.processed]

theorem Reliable.recvControlPacket
    {env : Env}
    {pp : Packet}
    {a r : Nat}
    (reliable : l.Reliable)
    (control : pp.isControl = true)
    (ns : pp.ns = UInt16.ofNat a)
    (nr : pp.nr = UInt16.ofNat r)
    (recent : l.work.tunnel.count ≤ a + 32768)
    (near : a ≤ l.messages.length + 1)
    (answered : l.answers r = true)
    (copy : pp.isZLB = false → l.messages[a - 1]?.map Packet.contents = some pp.contents) :
    ({ l with work := l.work.recvPacket env pp } : Link).Reliable ∧
      ∀ number ∈ l.work.tunnel.queued,
        number ∉ (l.work.recvPacket env pp).tunnel.queued → number < r := by
  have touched : l.work.Sends
      { l.work with tunnel := { l.work.tunnel with lastRecvTick := env.now } } :=
    .of_tunnel (by rfl) _
  have before := reliable.sound.sends touched
  have window := reliable.window
  have acked := reliable.acked
  obtain ⟨sound, gone⟩ := @Work.Sound.recvControlPacket env _ _ pp a r before ns nr recent
    (by change a ≤ l.work.tunnel.count + _; omega)
    (by simpa [Link.answers] using answered) copy
  have grows := @Work.processed_recvControlPacket env
    { l.work with tunnel := { l.work.tunnel with lastRecvTick := env.now } } pp
  unfold Work.recvPacket
  dsimp only
  rw [if_pos control]
  refine ⟨reliable.ofWork sound ?_, gone⟩
  exact (grows.filter _).length_le

theorem Reliable.step
    {event : LinkEvent}
    (reliable : l.Reliable)
    (recent : l.isRecent event = true)
    (stepped : l.step event = some after) :
    after.Reliable ∧ ∀ number ∈ l.work.tunnel.queued,
      number ∉ after.work.tunnel.queued → ∃ r, acknowledged event = some r ∧ number < r := by
  have sent : ∀ w : Work, l.work.Sends w → some { l with work := w } = some after →
      after.Reliable ∧ ∀ number ∈ l.work.tunnel.queued,
        number ∉ after.work.tunnel.queued →
          ∃ r, acknowledged event = some r ∧ number < r := by
    intro w sends same
    injection same with same
    rw [← same]
    exact ⟨reliable.sends sends, fun number listed gone =>
      absurd (sends.queued number listed) gone⟩
  unfold Link.step at stepped
  cases event with
  | number m =>
      dsimp only at stepped
      split at stepped
      case isTrue admitted =>
        injection stepped with same
        rw [← same]
        obtain ⟨control, _, ns, window⟩ := admitted
        refine ⟨⟨⟨reliable.sound.receiving.append m, reliable.sound.numbered,
          reliable.sound.acknowledges⟩, ?_, reliable.acked, ?_⟩,
          fun number listed gone => absurd listed gone⟩
        · intro place other found
          by_cases old : place < l.messages.length
          · rw [List.getElem?_append_left old] at found
            exact reliable.messages place other found
          · rw [List.getElem?_append_right (by omega), List.getElem?_singleton] at found
            split at found
            · injection found with new
              have last : place = l.messages.length := by omega
              rw [← new, last]
              exact ⟨control, ns⟩
            · exact nomatch found
        · rw [List.length_append, List.length_singleton]
          exact window
      case isFalse => exact nomatch stepped
  | message env place r =>
      dsimp only at stepped
      cases found : l.messages[place]? with
      | none =>
          rw [found] at stepped
          exact nomatch stepped
      | some m =>
          rw [found] at stepped
          injection stepped with same
          rw [← same]
          obtain ⟨control, ns⟩ := reliable.messages place m found
          have inside : place < l.messages.length := by
            by_contra outside
            rw [List.getElem?_eq_none (by omega)] at found
            exact nomatch found
          unfold Link.isRecent at recent
          rw [Bool.and_eq_true, decide_eq_true_eq] at recent
          obtain ⟨kept, gone⟩ := @Reliable.recvControlPacket l env
            { m with nr := UInt16.ofNat r } (place + 1) r reliable control ns rfl recent.1
            (by omega) recent.2 (by
              intro _
              rw [Nat.add_sub_cancel, found]
              rfl)
          exact ⟨kept, fun number listed absent => ⟨r, rfl, gone number listed absent⟩⟩
  | zlb env zlb a r =>
      dsimp only at stepped
      split at stepped
      case isTrue admitted =>
        injection stepped with same
        rw [← same]
        obtain ⟨control, isZLB, near⟩ := admitted
        unfold Link.isRecent at recent
        rw [Bool.and_eq_true, decide_eq_true_eq] at recent
        obtain ⟨kept, gone⟩ := @Reliable.recvControlPacket l env
          { zlb with ns := UInt16.ofNat a, nr := UInt16.ofNat r } a r reliable control rfl rfl
          recent.1 near recent.2 (fun message => absurd (isZLB.symm.trans message) (by decide))
        exact ⟨kept, fun number listed absent => ⟨r, rfl, gone number listed absent⟩⟩
      case isFalse => exact nomatch stepped
  | data env pp =>
      dsimp only at stepped
      split at stepped
      case isTrue => exact nomatch stepped
      case isFalse data =>
        refine sent _ ?_ stepped
        unfold Work.recvPacket
        dsimp only
        rw [if_neg data]
        refine .trans ?_ (Work.sends_recvDataPacket pp)
        exact .of_tunnel (by rfl) _
  | interrupts env =>
      dsimp only at stepped
      split at stepped
      case isTrue => exact nomatch stepped
      case isFalse =>
        have interrupted : l.work.Sends (l.work.interruptTunnel env) :=
          Work.sends_interruptTunnel
        exact sent _ (interrupted.trans (Work.sends_retransmit
          (interrupted.numbered reliable.sound.numbered))) stepped
  | disconnect => exact sent _ Work.sends_disconnectL2TPTunnel stepped
  | sessions sessionList => exact sent _ (.of_tunnel (by rfl) _) stepped
  | hear place =>
      dsimp only at stepped
      cases found : l.work.sendPacketList[place]? with
      | none =>
          rw [found] at stepped
          exact nomatch stepped
      | some s =>
          rw [found] at stepped
          injection stepped with same
          rw [← same]
          unfold Link.isRecent at recent
          dsimp only at recent
          rw [found] at recent
          have heard := reliable.hear (List.mem_of_getElem? found)
            (of_decide_eq_true recent)
          refine ⟨heard, fun number listed gone => absurd ?_ gone⟩
          unfold Link.hear
          dsimp only
          split
          · exact listed
          · exact listed

theorem reliable_start
    {l2tp : Server}
    {p : Packet}
    {udp : UdpPacket}
    {t : Tunnel}
    (new : l2tp.newL2TPTunnel p udp = some t) :
    (start l2tp t).Reliable := by
  have empty : t.recvQueue = {} ∧ t.processed = [] ∧ t.lastNr = 0 ∧ t.sendQueue = [] ∧
      t.nextNs = 0 ∧ t.numSent = 0 := by
    unfold Server.newL2TPTunnel at new
    dsimp only at new
    split at new
    · exact nomatch new
    · split at new
      · exact nomatch new
      · injection new with same
        rw [← same]
        exact ⟨rfl, rfl, rfl, rfl, rfl, rfl⟩
  obtain ⟨recvQueue, processed, lastNr, sendQueue, nextNs, numSent⟩ := empty
  have count : t.count = 0 := by
    unfold Tunnel.count
    rw [processed]
    rfl
  have fresh : ({ tunnel := t } : Work).Sound [] := by
    refine ⟨⟨?_, ?_, ?_, ?_, ?_, ?_⟩, ⟨?_, ?_⟩, fun _ listed => nomatch listed⟩
    · rw [count]
      exact lastNr
    · rw [count, processed]
      rfl
    · rw [recvQueue]
    · rw [recvQueue]
      exact .nil
    · rw [recvQueue]
      exact fun _ listed => nomatch listed
    · rw [recvQueue]
      exact fun _ listed => nomatch listed
    · rw [nextNs, numSent]
      rfl
    · rw [sendQueue]
      exact fun _ listed => nomatch listed
  have sends : ({ tunnel := t } : Work).Sends (l2tp.answerSccrq t) :=
    Work.sends_sendL2TPControlPacket _ _
  refine ⟨fresh.sends sends, fun _ _ found => (nomatch found), Nat.zero_le _,
    Nat.zero_le _⟩

/-- The tunnel processes the messages of its peer once each and in order, acknowledges no
message that it has not processed, and keeps a packet for retransmission until the peer
acknowledges it, as long as nothing arrives that is older than half the number space. -/
theorem control_channel_reliable
    {l2tp : Server}
    {p : Packet}
    {udp : UdpPacket}
    {t : Tunnel}
    {l : Link}
    (new : l2tp.newL2TPTunnel p udp = some t)
    (reached : Reaches Link.step (fun before event => before.isRecent event = true)
      (start l2tp t) l) :
    (∃ n, (messagesOf l.work.tunnel.processed).map Packet.contents =
      (l.messages.take n).map Packet.contents) ∧
    (∀ s ∈ l.work.sendPacketList, s.packet.isControl = true →
      s.packet.nr = UInt16.ofNat ((messagesOf s.processed).length + 1) ∧
        s.processed <+: l.work.tunnel.processed) ∧
    ∀ event after, l.isRecent event = true → l.step event = some after →
      ∀ number ∈ l.work.tunnel.queued, number ∉ after.work.tunnel.queued →
        ∃ r, acknowledged event = some r ∧ number < r := by
  have reliable : l.Reliable := by
    apply reached.invariant Reliable
    · exact reliable_start new
    · intro before event after reliable recent stepped
      exact (reliable.step recent stepped).1
  refine ⟨⟨_, reliable.sound.receiving.inOrder⟩, reliable.sound.acknowledges, ?_⟩
  intro event after recent stepped
  exact (reliable.step recent stepped).2

/-! ## A tunnel that only hears `HELLO` -/

/-- The environment of a tunnel at the time 0. -/
def idleEnv : Env where
  now := 0
  halt := false
  ike := false

def idleRequest : Packet where
  isControl := true
  ver := 2
  avpList := [newAVP L2TP_AVP_TYPE_ASSIGNED_TUNNEL true 0 [0, 7]]
  messageType := L2TP_MESSAGE_TYPE_SCCRQ

def idleDatagram : UdpPacket where
  srcIP := uintToIP 1
  srcPort := 1701
  dstIP := uintToIP 2
  destPort := 1701
  data := []

/-- A tunnel that has only heard `HELLO` messages. -/
def idleTunnel (lastNr : UInt16) (processed : List Packet) (stateChanged : Bool) :
    Tunnel where
  isV3 := false
  isCiscoV3 := false
  isYamahaV3 := false
  clientIp := uintToIP 1
  clientPort := 1701
  serverIp := uintToIP 2
  serverPort := 1701
  tunnelId1 := 7
  tunnelId2 := 1
  nextNs := 1
  numSent := 1
  lastNr := lastNr
  stateChanged := stateChanged
  lastRecvTick := 0
  lastHelloSent := 0
  processed := processed

/-- The tunnel with the packets that it has sent. -/
def idleWork
    (lastNr : UInt16)
    (processed : List Packet)
    (stateChanged : Bool)
    (sent : List SentPacket) :
    Work where
  tunnel := idleTunnel lastNr processed stateChanged
  sendPacketList := sent

/-- A `ZLB` of the peer. -/
def idleZlb : Packet where
  isControl := true
  isZLB := true
  ver := 2

/-- The `HELLO` message with a number. -/
def helloMessage (ns : UInt16) : Packet where
  isControl := true
  ver := 2
  ns := ns
  messageType := L2TP_MESSAGE_TYPE_HELLO

/-- The tunnel of the request, before it answers. -/
def newIdleTunnel : Tunnel :=
  { idleTunnel 0 [] false with nextNs := 0, numSent := 0 }

theorem newL2TPTunnel_idle :
    (Server.newL2TPServerEx false []).newL2TPTunnel idleRequest idleDatagram =
      some newIdleTunnel := by
  decide +kernel

/-- Messages that overtake each other, a message that comes twice and a `ZLB`. -/
def overtaking : List LinkEvent :=
  [.number (helloMessage 1), .number (helloMessage 2), .message idleEnv 1 1,
    .zlb idleEnv idleZlb 3 1, .message idleEnv 0 1, .message idleEnv 1 1,
    .interrupts idleEnv, .hear 1]

/-- The messages that overtake each other are processed in order. -/
theorem control_channel_reliable_overtaking :
    ∃ l, Library.runChecked Link.step isRecent overtaking
        (start (Server.newL2TPServerEx false []) newIdleTunnel) = some l ∧
      (messagesOf l.work.tunnel.processed).map Packet.ns = [1, 2] ∧ l.acked = 2 ∧
      ∃ n, (messagesOf l.work.tunnel.processed).map Packet.contents =
        (l.messages.take n).map Packet.contents := by
  have ran : ((Library.runChecked Link.step isRecent overtaking
      (start (Server.newL2TPServerEx false []) newIdleTunnel)).map fun l =>
        ((messagesOf l.work.tunnel.processed).map Packet.ns, l.acked)) = some ([1, 2], 2) := by
    decide +kernel
  obtain ⟨l, last, facts⟩ := Option.map_eq_some_iff.mp ran
  obtain ⟨ns, acked⟩ := Prod.mk.inj facts
  exact ⟨l, last, ns, acked,
    (control_channel_reliable newL2TPTunnel_idle (Reaches.of_runChecked last)).1⟩

theorem recvPacket_idle
    (lastNr : UInt16)
    (processed : List Packet)
    (sent : List SentPacket)
    (r : UInt16) :
    (idleWork lastNr processed false sent).recvPacket idleEnv
        { helloMessage (lastNr + 1) with nr := r } =
      idleWork (lastNr + 1) (processed ++ [{ helloMessage (lastNr + 1) with nr := r }]) true
        sent := by
  have ahead : seqLT (lastNr + 1) lastNr = false := by
    have one : lastNr + 1 - lastNr = 1 := by
      rw [UInt16.add_comm, UInt16.add_sub_cancel]
    unfold seqLT
    rw [one]
    rfl
  have different : lastNr + 1 ≠ lastNr := by
    intro same
    have one : lastNr + 1 - lastNr = 0 := by
      rw [same, UInt16.sub_self]
    rw [UInt16.add_comm, UInt16.add_sub_cancel] at one
    exact absurd one (by decide)
  have new : ((!seqLT (lastNr + 1) lastNr) = true ∧ lastNr + 1 ≠ lastNr) :=
    ⟨by rw [ahead]; rfl, different⟩
  have received : (idleWork lastNr processed false sent).enqueue idleEnv
        { helloMessage (lastNr + 1) with nr := r } =
      idleWork (lastNr + 1) (processed ++ [{ helloMessage (lastNr + 1) with nr := r }]) true
        sent := by
    simp [Work.enqueue, idleWork, idleTunnel, MayaquaList.insert, MayaquaList.search,
      MayaquaList.ensureSorted, MayaquaList.num, MayaquaList.delete, Library.bsearch,
      MayaquaList.insertionPoint, helloMessage, Work.readCompleted, L2TP_WINDOW_SIZE,
      Work.l2tpProcessRecvControlPacket, Work.processTunnelMessage, Work.processScccn,
      L2TP_MESSAGE_TYPE_HELLO, L2TP_MESSAGE_TYPE_SCCCN]
  change (if !seqLT (lastNr + 1) lastNr ∧ lastNr + 1 ≠ lastNr then _ else _) = _
  rw [if_pos new]
  exact received

/-- The link after `n` messages that were acknowledged one by one. -/
def idleLink (n : Nat) (processed : List Packet) (sent : List SentPacket) : Link where
  work := idleWork (UInt16.ofNat n) processed false sent
  messages := (List.range n).map fun i => helloMessage (UInt16.ofNat (i + 1))
  acked := n

theorem ofNat_succ (n : Nat) : UInt16.ofNat (n + 1) = UInt16.ofNat n + 1 := by
  simp [UInt16.ofNat_add]

theorem step_number_idle (n : Nat) (processed : List Packet) (sent : List SentPacket) :
    (idleLink n processed sent).step (.number (helloMessage (UInt16.ofNat (n + 1)))) =
      some { idleLink n processed sent with
        messages := (idleLink (n + 1) processed sent).messages } := by
  simp [step, idleLink, helloMessage, L2TP_WINDOW_SIZE, List.range_succ]

theorem step_message_idle
    (n : Nat)
    (l : Link)
    (place : Nat)
    (processed : List Packet)
    (sent : List SentPacket)
    (working : l.work = idleWork (UInt16.ofNat n) processed false sent)
    (found : l.messages[place]? = some (helloMessage (UInt16.ofNat (n + 1)))) :
    l.step (.message idleEnv place 1) =
      some { l with
        work := idleWork (UInt16.ofNat (n + 1)) (processed ++
          [{ helloMessage (UInt16.ofNat (n + 1)) with nr := 1 }]) true sent } := by
  have received := recvPacket_idle (UInt16.ofNat n) processed sent 1
  rw [← ofNat_succ] at received
  simp only [step, found, working]
  exact congrArg (fun work => some { l with work := work }) received

/-- The `ZLB` that acknowledges what the tunnel has heard. -/
def idleAnswer (lastNr : UInt16) (processed : List Packet) : SentPacket where
  srcIP := uintToIP 2
  srcPort := 1701
  dstIP := uintToIP 1
  destPort := 1701
  packet := { newL2TPControlPacket 0 false [] with
    tunnelId := 7
    ns := 1
    nr := lastNr + 1 }
  processed := processed

/-- The tunnel acknowledges what it has heard. -/
theorem step_interrupts_idle
    (l : Link)
    (lastNr : UInt16)
    (processed : List Packet)
    (sent : List SentPacket)
    (working : l.work = idleWork lastNr processed true sent) :
    l.step (.interrupts idleEnv) = some { l with
      work := idleWork lastNr processed false (sent ++ [idleAnswer lastNr processed]) } := by
  simp [step, working, Work.interruptTunnel, Tunnel.checkTimeout, Work.sendHello, idleWork,
    idleTunnel, idleEnv, L2TP_TUNNEL_TIMEOUT, Work.interruptSessions, Work.stopTunnel,
    Tunnel.isFinished, Work.retransmit, Work.sendL2TPControlPacketMain, Work.l2tpSendUDP,
    idleAnswer]

theorem step_hear_idle
    (n : Nat)
    (l : Link)
    (s : SentPacket)
    (sent : List SentPacket)
    (list : l.work.sendPacketList = sent ++ [s])
    (control : s.packet.isControl = true)
    (acknowledges : s.packet.nr = UInt16.ofNat (n + 1) + 1)
    (acked : l.acked = n)
    (numbered : l.messages.length = n + 1) :
    l.step (.hear sent.length) = some { l with acked := n + 1 } := by
  have ahead : s.packet.nr - 1 - UInt16.ofNat l.acked = 1 := by
    rw [acknowledges, acked, ofNat_succ, UInt16.add_sub_cancel, UInt16.add_comm,
      UInt16.add_sub_cancel]
  have found : l.work.sendPacketList[sent.length]? = some s := by
    rw [list]
    simp
  simp only [step, found, hear, ahead, control]
  simp [acked, numbered]

theorem reaches_idle (n : Nat) :
    ∃ processed sent, (messagesOf processed).length = n ∧
      Reaches step (fun _ _ => True)
        (start (Server.newL2TPServerEx false []) newIdleTunnel)
        (idleLink n processed sent) := by
  induction n with
  | zero =>
      refine ⟨[{ idleZlb with ns := 1, nr := 1 }],
        (start (Server.newL2TPServerEx false []) newIdleTunnel).work.sendPacketList, rfl, ?_⟩
      have answered : (start (Server.newL2TPServerEx false []) newIdleTunnel).step
          (.zlb idleEnv idleZlb 1 1) = some (idleLink 0 [{ idleZlb with ns := 1, nr := 1 }]
            (start (Server.newL2TPServerEx false []) newIdleTunnel).work.sendPacketList) := by
        rfl
      exact .next .start trivial answered
  | succ n inductionHypothesis =>
      obtain ⟨processed, sent, all, reached⟩ := inductionHypothesis
      have number := Reaches.next reached trivial (step_number_idle n processed sent)
      have found : (idleLink (n + 1) processed sent).messages[n]? =
          some (helloMessage (UInt16.ofNat (n + 1))) := by
        simp [idleLink]
      have arrives := Reaches.next number trivial
        (step_message_idle n _ n processed sent rfl found)
      have acknowledges := Reaches.next arrives trivial
        (step_interrupts_idle _ _ _ _ rfl)
      have heard := Reaches.next acknowledges trivial
        (step_hear_idle n _ _ sent rfl rfl rfl rfl (by simp [idleLink]))
      refine ⟨_, _, ?_, heard⟩
      rw [messagesOf, List.filter_append, List.length_append]
      exact congrArg (· + 1) all

theorem reaches_processed_again
    (n : Nat)
    (positive : 0 < n)
    (around : UInt16.ofNat (n + 1) = 1) :
    ∃ l, Reaches step (fun _ _ => True)
        (start (Server.newL2TPServerEx false []) newIdleTunnel) l ∧
      l.messages.length < (messagesOf l.work.tunnel.processed).length := by
  obtain ⟨processed, sent, all, reached⟩ := reaches_idle n
  have first : (idleLink n processed sent).messages[0]? =
      some (helloMessage (UInt16.ofNat (n + 1))) := by
    simp [idleLink, positive, around]
  refine ⟨_, .next reached trivial (step_message_idle n _ 0 processed sent rfl first), ?_⟩
  have more : (messagesOf (processed ++
      [{ helloMessage (UInt16.ofNat (n + 1)) with nr := 1 }])).length = n + 1 := by
    rw [messagesOf, List.filter_append, List.length_append]
    exact congrArg (· + 1) all
  have numbered : (idleLink n processed sent).messages.length = n := by
    simp [idleLink]
  exact (numbered.trans_lt (Nat.lt_succ_self n)).trans_eq more.symm

/-- After 65536 messages a late copy of the first one is processed again, so that what the
tunnel has processed is not what the peer has numbered. -/
theorem stale_copy_processed_again :
    ∃ l, Reaches step (fun _ _ => True)
        (start (Server.newL2TPServerEx false []) newIdleTunnel) l ∧
      ¬ ∃ n, (messagesOf l.work.tunnel.processed).map Packet.contents =
        (l.messages.take n).map Packet.contents := by
  obtain ⟨l, reached, more⟩ := reaches_processed_again 65536 (by decide) (by decide)
  refine ⟨l, reached, ?_⟩
  rintro ⟨n, same⟩
  have lengths := congrArg List.length same
  rw [List.length_map, List.length_map] at lengths
  have fewer := List.length_take_le' n l.messages
  omega

end Link

end L2tp
end SoftEther
