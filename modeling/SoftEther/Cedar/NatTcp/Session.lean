import SoftEther.Library.Runs
import SoftEther.Cedar.NatTcp.Tcb

/-!
# Runs of a TCP entry

The state of a run is the entry together with its history: the bytes that went
through the socket, the payload ranges that were stored, and the segments that
were handed to the IP layer.  Client segments, polls and socket transfers come
in any order.
-/

namespace SoftEther
namespace NatTcp

open Library

/-- What can happen to an entry. -/
inductive Event
  | segment (now : Nat) (tcp : TcpHeader) (data : List UInt8)
  /-- `PollingNatTcp` runs. -/
  | poll (now : Nat)
  /-- `NatTransactTcp` runs. -/
  | transact (now : Nat) (connect : Option Bool) (socket : SocketResults)

/-- An entry and its history. -/
structure Session where
  entry : NatEntry
  /-- The bytes written to the socket. -/
  handed : List (Option UInt8) := []
  read : List UInt8 := []
  /-- The payload ranges stored so far, as positions of the client's stream. -/
  received : List ByteRange := []
  /-- The segments sent so far, each with the `SendSeq` of its moment. -/
  sent : List (Nat × SentTcp) := []
  /-- The socket, and not a FIN, was the first to set `TcpFinished`. -/
  closedBySocket : Bool := false

namespace Session

/-- Every byte appended to `RecvFifo` since the handshake: those that the
socket took and those still queued. -/
def appended (session : Session) : List (Option UInt8) :=
  session.handed ++ session.entry.recvFifo.contents

/-- A client segment arrives. -/
def receive (now : Nat) (tcp : TcpHeader) (data : List UInt8)
    (session : Session) : Session :=
  { session with
    entry := tcpRecvForInternet now tcp data session.entry
    received :=
      match acceptedOffset session.entry tcp data.length with
      | none => session.received
      | some offset =>
          ⟨session.appended.length + offset, data.length⟩ :: session.received }

def poll (v : VirtualHost) (now : Nat) (session : Session) : Session :=
  { session with
    entry := (pollingNatTcp v now session.entry).1
    sent :=
      (pollingNatTcp v now session.entry).2.map
        (fun tcp => (session.entry.sendSeq, tcp)) ++ session.sent }

/-- A socket transfer ends in `transacted`. -/
def transfer (transacted : Transacted) (session : Session) : Session :=
  { session with
    entry := transacted.entry
    handed := session.handed ++ transacted.toSocket
    read := session.read ++ transacted.fromSocket
    closedBySocket :=
      session.closedBySocket ||
        (!session.entry.tcpFinished && transacted.entry.tcpFinished) }

def start (v : VirtualHost) (now rand : Nat)
    (srcIp srcPort destIp destPort : UInt32) (syn : TcpHeader) : Session :=
  { entry := acceptSyn v syn
      (createNatTcp v now rand srcIp srcPort destIp destPort) }

end Session

/-- One step of a run; nothing when the entry is deleted. -/
def step (v : VirtualHost) (session : Session) : Event → Option Session
  | .segment now tcp data => some (session.receive now tcp data)
  | .poll now => some (session.poll v now)
  | .transact now connect socket =>
      (natTransactTcp v now connect socket session.entry).map
        fun transacted => session.transfer transacted

theorem start_tcb
    (v : VirtualHost)
    (now rand : Nat)
    (srcIp srcPort destIp destPort : UInt32)
    (syn : TcpHeader) :
    (Session.start v now rand srcIp srcPort destIp destPort syn).entry.tcb =
      { recv :=
          { recvSeqInit := syn.seqNumber.toNat
            recvSeq := 1
            windowSize := NAT_TCP_RECV_WINDOW_SIZE
            window := Fifo.newFifo
            parts := []
            recvFifo := Fifo.newFifo }
        send :=
          { sendSeqInit := rand % X32
            sendSeq := 0
            sendFifo := Fifo.newFifo }
        status := .connecting
        finished := false } := by
  unfold Session.start acceptSyn createNatTcp
  rw [tcb_mk]
  rfl

variable {v : VirtualHost}

theorem natTransactTcp_recv
    {now : Nat}
    {connect : Option Bool}
    {socket : SocketResults}
    {n : NatEntry}
    {transacted : Transacted}
    (ran : natTransactTcp v now connect socket n = some transacted) :
    transacted.toSocket ++ transacted.entry.recvFifo.contents =
        n.recvFifo.contents ∧
      transacted.entry.tcb.recv =
        { n.tcb.recv with recvFifo := transacted.entry.recvFifo } := by
  by_cases status : n.tcpStatus = .established
  · obtain ⟨contents, finished, _, same⟩ :=
      natTransactTcp_established ran status
    refine ⟨contents, ?_⟩
    rw [same]
  · obtain ⟨toSocket, _, after, _, same⟩ := natTransactTcp_other ran status
    have fifo : transacted.entry.recvFifo = n.recvFifo :=
      congrArg (fun tcb => tcb.recv.recvFifo) same
    rw [toSocket, fifo, same]
    exact ⟨rfl, rfl⟩

theorem step_recv
    {session after : Session}
    {event : Event}
    (stepped : step v session event = some after) :
    (∃ fifo,
      after.entry.tcb.recv = { session.entry.tcb.recv with recvFifo := fifo } ∧
      after.appended = session.appended ∧
      after.received = session.received) ∨
    ∃ now tcp data offset middle,
      event = .segment now tcp data ∧
      acceptedOffset session.entry tcp data.length = some offset ∧
      middle.tcb.recv = session.entry.tcb.recv ∧
      after.entry.tcb.recv = (storeData offset data middle).tcb.recv ∧
      after.handed = session.handed ∧
      after.received =
        ⟨session.appended.length + offset, data.length⟩ :: session.received := by
  cases event with
  | segment now tcp data =>
      simp only [step, Option.some.injEq] at stepped
      subst stepped
      have side := tcpRecvForInternet_recv now tcp data session.entry
      cases accepted : acceptedOffset session.entry tcp data.length with
      | none =>
          left
          rw [accepted] at side
          have fifo : (tcpRecvForInternet now tcp data session.entry).recvFifo =
              session.entry.recvFifo := congrArg RecvSide.recvFifo side
          refine ⟨session.entry.recvFifo, side, ?_, ?_⟩
          · simp only [Session.appended, Session.receive, fifo]
          · simp only [Session.receive, accepted]
      | some offset =>
          right
          rw [accepted] at side
          refine ⟨now, tcp, data, offset, acknowledged now tcp session.entry,
            rfl, accepted, ?_, side, rfl, ?_⟩
          · rw [acknowledged_tcb]
          · simp only [Session.receive, accepted]
  | poll now =>
      left
      simp only [step, Option.some.injEq] at stepped
      subst stepped
      have side := pollingNatTcp_recv v now session.entry
      have fifo : (pollingNatTcp v now session.entry).1.recvFifo =
          session.entry.recvFifo := congrArg RecvSide.recvFifo side
      refine ⟨session.entry.recvFifo, side, ?_, rfl⟩
      simp only [Session.appended, Session.poll, fifo]
  | transact now connect socket =>
      left
      simp only [step, Option.map_eq_some_iff] at stepped
      obtain ⟨transacted, ran, rfl⟩ := stepped
      obtain ⟨contents, side⟩ := natTransactTcp_recv ran
      refine ⟨transacted.entry.recvFifo, side, ?_, rfl⟩
      simp only [Session.appended, Session.transfer]
      rw [List.append_assoc, contents]

/-- The bounds that the sequence numbers of every entry keep. -/
structure RecvSide.Bounded (side : RecvSide) : Prop where
  init : side.recvSeqInit < X32
  /-- The position is a `UINT64`. -/
  seq : side.recvSeq < X64
  size : side.windowSize = NAT_TCP_RECV_WINDOW_SIZE

theorem scanFirst_recvSeq_lt
    {fuel : Nat}
    {state : RecvState}
    (before : state.recvSeq < X64) :
    (scanFirst fuel state).recvSeq < X64 := by
  induction fuel generalizing state with
  | zero => exact before
  | succ fuel inductionHypothesis =>
      simp only [scanFirst]
      unfold extractFirst
      cases state.parts.find? fun p => p.offset = 0 with
      | none => exact before
      | some p => exact inductionHypothesis (addUINT64_lt _ _)

theorem storeData_bounded
    {offset : Nat}
    {data : List UInt8}
    {n : NatEntry}
    (bounded : n.tcb.recv.Bounded) :
    (storeData offset data n).tcb.recv.Bounded := by
  unfold storeData
  rw [tcb_mk]
  exact ⟨bounded.init, scanFirst_recvSeq_lt bounded.seq, bounded.size⟩

theorem start_bounded
    (v : VirtualHost)
    (now rand : Nat)
    (srcIp srcPort destIp destPort : UInt32)
    (syn : TcpHeader) :
    (Session.start v now rand srcIp srcPort destIp destPort
      syn).entry.tcb.recv.Bounded := by
  rw [start_tcb]
  exact ⟨syn.seqNumber.toNat_lt,
    Nat.lt_of_lt_of_le Nat.one_lt_two (by decide), rfl⟩

theorem RecvSide.Bounded.step
    {session after : Session}
    {event : Event}
    (bounded : session.entry.tcb.recv.Bounded)
    (stepped : NatTcp.step v session event = some after) :
    after.entry.tcb.recv.Bounded := by
  obtain ⟨fifo, side, _, _⟩ | ⟨_, _, data, offset, middle, _, _, same, side, _⟩ :=
    step_recv stepped
  · rw [side]
    exact ⟨bounded.init, bounded.seq, bounded.size⟩
  · rw [side]
    apply storeData_bounded
    rw [same]
    exact bounded

theorem reached_bounded
    {allowed : Session → Event → Prop}
    {now rand : Nat}
    {srcIp srcPort destIp destPort : UInt32}
    {syn : TcpHeader}
    {session : Session}
    (reached : Reaches (step v) allowed
      (Session.start v now rand srcIp srcPort destIp destPort syn) session) :
    session.entry.tcb.recv.Bounded :=
  reached.invariant (fun session => session.entry.tcb.recv.Bounded)
    (start_bounded v now rand srcIp srcPort destIp destPort syn)
    (fun _ _ _ bounded _ stepped => bounded.step stepped)

def exampleSyn : TcpHeader :=
  { seqNumber := 1000, ackNumber := 0, flag := TCP_SYN
    windowSize := 65535, options := [] }

/-- The acknowledgment that ends the handshake after `exampleSyn` when the
entry starts at sequence number 0. -/
def exampleAck : TcpHeader :=
  { seqNumber := 1001, ackNumber := 1, flag := TCP_ACK
    windowSize := 65535, options := [] }

/-- A host with the default segment size and timeout. -/
def exampleHost : VirtualHost :=
  { tcpMss := 1460, natTcpTimeout := 1800000 }

/-- The session of `exampleSyn`. -/
def exampleStart : Session :=
  Session.start exampleHost 10 0 1 2 3 4 exampleSyn

/-- The session of `exampleSyn` once its socket is connected. -/
def exampleConnected : Session :=
  exampleStart.transfer
    { entry := { exampleStart.entry with tcpStatus := .connected } }

/-- The session after the handshake of `exampleSyn` and `exampleAck`. -/
def exampleSession : Session :=
  (exampleConnected.poll exampleHost 20).receive 30 exampleAck []

/-- The handshake is a run. -/
theorem exampleSession_reached
    {allowed : Session → Event → Prop}
    (connects : allowed exampleStart (.transact 10 (some true) ⟨[], []⟩))
    (polls : allowed exampleConnected (.poll 20))
    (acknowledges :
      allowed (exampleConnected.poll exampleHost 20)
        (.segment 30 exampleAck [])) :
    Reaches (step exampleHost) allowed exampleStart exampleSession :=
  .next (.next (.next .start connects rfl) polls rfl) acknowledges rfl

end NatTcp
end SoftEther
