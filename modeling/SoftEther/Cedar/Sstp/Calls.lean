import SoftEther.Cedar.Sstp.Https

/-!
# Calls

What the messages of a client come to: a call that waits for its connection request, is open,
and is closed.  The server follows it, with `Status`, `Aborting` and `Disconnecting`.  Control
messages are processed as the call has it; data packets go to the PPP module whatever the call
is in.
-/

namespace SoftEther
namespace Sstp

open Library

/-- How far a call has come. -/
inductive Phase where
  /-- No connection request for PPP has been accepted. -/
  | waiting
  /-- One has been accepted. -/
  | opened
  /-- The call is being disconnected or aborted. -/
  | closed
  deriving DecidableEq

/-- A call, and when the server has last heard of it. -/
structure Call where
  /-- How far it has come. -/
  phase : Phase := .waiting
  /-- The time. -/
  now : Nat
  lastRecvTick : Nat
  deriving DecidableEq

/-- What happens to a server: an interrupt begins, a block of the reception queue comes up, and
the interrupt goes on behind the packets. -/
inductive Event where
  | begin (tick : Nat)
  | block (nonce : List UInt8) (b : List UInt8)
  | finish (around : Surroundings)
  deriving DecidableEq

/-- The message requests a connection for PPP. -/
def opensCall (p : Packet) : Bool :=
  p.messageType = SSTP_MSG_CALL_CONNECT_REQUEST && requestsPpp p

def closesCall (p : Packet) : Bool :=
  p.messageType = SSTP_MSG_CALL_DISCONNECT || p.messageType = SSTP_MSG_CALL_DISCONNECT_ACK ||
    p.messageType = SSTP_MSG_CALL_ABORT

namespace Call

def close (call : Call) : Call :=
  { call with phase := .closed }

def control (p : Packet) (call : Call) : Call :=
  if closesCall p then call.close
  else if opensCall p ∧ call.phase = .waiting then { call with phase := .opened }
  else call

/-- A packet, or what is none. -/
def block (b : List UInt8) (call : Call) : Call :=
  match sstpParsePacket b b.length with
  | .error _ => call.close
  | .ok p =>
      let call := { call with lastRecvTick := call.now }
      if p.isControl then call.control p else call

def next (call : Call) : Event → Call
  | .begin tick => { call with now := tick }
  | .block _ b => call.block b
  | .finish around =>
      if timedOut call.lastRecvTick call.now ∨ around.tubesConnected = false then call.close
      else call

end Call

/-- The call behind some events. -/
def callAfter (tick : Nat) (events : List Event) : Call :=
  events.foldl Call.next { now := tick, lastRecvTick := tick }

def serve (s : Server) : Event → Server
  | .begin tick => beginInterrupt tick s
  | .block nonce b => processBlock nonce s b
  | .finish around => finishInterrupt around s

/-- The server behind some events. -/
def serverAfter (tick : Nat) (events : List Event) : Server :=
  events.foldl serve (newSstpServer tick)

namespace Server

def phase (s : Server) : Phase :=
  if s.aborting ∨ s.disconnecting then .closed
  else if s.status = .requestPenging then .waiting
  else .opened

def call (s : Server) : Call :=
  ⟨s.phase, s.now, s.lastRecvTick⟩

/-- What the PPP module has: its thread, and what has been passed to it. -/
def ppp (s : Server) : Bool × List (List UInt8) :=
  (s.pppThread, s.tubeRecv)

/-- The status is `CONNECTED_PENDING` or `ESTABLISHED`, and neither `Disconnecting` nor
`Aborting` is set. -/
def Communicating (s : Server) : Prop :=
  (s.status = .connectedPending ∨ s.status = .established) ∧ s.disconnecting = false ∧
    s.aborting = false

instance (s : Server) : Decidable s.Communicating :=
  inferInstanceAs (Decidable (_ ∧ _))

theorem communicating_iff (s : Server) : s.Communicating ↔ s.call.phase = .opened := by
  unfold Communicating call phase
  cases s.aborting with
  | true => simp
  | false =>
      cases s.disconnecting with
      | true => simp
      | false => cases s.status <;> simp

end Server

/-! ## What the parts of an interrupt do to the call -/

section

variable (s : Server)

@[simp] theorem call_sstpSendPacket (p : Packet) : (sstpSendPacket p s).call = s.call := rfl

@[simp] theorem ppp_sstpSendPacket (p : Packet) : (sstpSendPacket p s).ppp = s.ppp := rfl

@[simp] theorem call_sstpAbort : (sstpAbort s).call = s.call.close := by
  simp [Server.call, Server.phase, sstpAbort, Call.close]

@[simp] theorem ppp_sstpAbort : (sstpAbort s).ppp = s.ppp := rfl

@[simp] theorem call_sstpDisconnect : (sstpDisconnect s).call = s.call.close := by
  simp [Server.call, Server.phase, sstpDisconnect, Call.close]

@[simp] theorem ppp_sstpDisconnect : (sstpDisconnect s).ppp = s.ppp := rfl

@[simp] theorem call_beginInterrupt (tick : Nat) :
    (beginInterrupt tick s).call = { s.call with now := tick } := rfl

@[simp] theorem ppp_beginInterrupt (tick : Nat) : (beginInterrupt tick s).ppp = s.ppp := rfl

@[simp] theorem call_sendEchoRequest (rand32 : Nat) :
    (sendEchoRequest rand32 s).call = s.call := by
  unfold sendEchoRequest
  split
  · rfl
  · rfl

@[simp] theorem ppp_sendEchoRequest (rand32 : Nat) : (sendEchoRequest rand32 s).ppp = s.ppp := by
  unfold sendEchoRequest
  split
  · rfl
  · rfl

@[simp] theorem call_sendDisconnect : (sendDisconnect s).call = s.call := by
  unfold sendDisconnect
  split
  · rfl
  · rfl

@[simp] theorem ppp_sendDisconnect : (sendDisconnect s).ppp = s.ppp := by
  unfold sendDisconnect
  split
  · rfl
  · rfl

@[simp] theorem call_sendAbort : (sendAbort s).call = s.call := by
  unfold sendAbort
  split
  · rfl
  · rfl

@[simp] theorem ppp_sendAbort : (sendAbort s).ppp = s.ppp := by
  unfold sendAbort
  split
  · rfl
  · rfl

@[simp] theorem call_checkDisconnected : (checkDisconnected s).call = s.call := by
  unfold checkDisconnected
  split
  · rfl
  · rfl

@[simp] theorem ppp_checkDisconnected : (checkDisconnected s).ppp = s.ppp := by
  unfold checkDisconnected
  split
  · rfl
  · rfl

@[simp] theorem call_checkTimeout :
    (checkTimeout s).call =
      if timedOut s.call.lastRecvTick s.call.now then s.call.close else s.call := by
  unfold checkTimeout
  by_cases out : timedOut s.lastRecvTick s.now
  · rw [if_pos out]
    exact (call_sstpAbort s).trans (if_pos out).symm
  · rw [if_neg out]
    exact (if_neg out).symm

@[simp] theorem ppp_checkTimeout : (checkTimeout s).ppp = s.ppp := by
  unfold checkTimeout
  split
  · rfl
  · rfl

@[simp] theorem call_checkTubes (tubesConnected : Bool) :
    (checkTubes tubesConnected s).call = if tubesConnected then s.call else s.call.close := by
  cases tubesConnected with
  | true => rfl
  | false => exact call_sstpDisconnect s

@[simp] theorem ppp_checkTubes (tubesConnected : Bool) :
    (checkTubes tubesConnected s).ppp = s.ppp := by
  cases tubesConnected with
  | true => rfl
  | false => rfl

theorem sendAll_eq (tubeSend : List (List UInt8)) :
    (tubeSend.foldl (fun s d => sstpSendPacket (sstpNewDataPacket d) s) s).call = s.call ∧
      (tubeSend.foldl (fun s d => sstpSendPacket (sstpNewDataPacket d) s) s).ppp = s.ppp := by
  induction tubeSend generalizing s with
  | nil => exact ⟨rfl, rfl⟩
  | cons d rest inductionHypothesis =>
      exact inductionHypothesis (sstpSendPacket (sstpNewDataPacket d) s)

theorem call_finishInterrupt (around : Surroundings) :
    (finishInterrupt around s).call = s.call.next (.finish around) := by
  unfold finishInterrupt Call.next
  simp only [call_checkDisconnected, call_sendAbort, call_sendDisconnect, call_checkTubes,
    call_checkTimeout, call_sendEchoRequest, (sendAll_eq s around.tubeSend).1]
  cases around.tubesConnected with
  | true => simp
  | false =>
      by_cases out : timedOut s.call.lastRecvTick s.call.now
      · simp [out, Call.close]
      · simp [out]

theorem ppp_finishInterrupt (around : Surroundings) :
    (finishInterrupt around s).ppp = s.ppp := by
  unfold finishInterrupt
  simp [(sendAll_eq s around.tubeSend).2]

/-! ## What a packet does to the call -/

theorem call_processConnectRequest
    (nonce : List UInt8)
    (p : Packet) :
    (processConnectRequest nonce p s).call =
      if requestsPpp p ∧ s.call.phase = .waiting then { s.call with phase := .opened }
      else s.call := by
  unfold processConnectRequest
  by_cases quiet : s.aborting = false ∧ s.disconnecting = false
  · rw [if_pos quiet]
    cases status : s.status with
    | requestPenging =>
        have waiting : s.call.phase = .waiting := by
          simp [Server.call, Server.phase, quiet, status]
        cases requestsPpp p with
        | true => simp [Server.call, Server.phase, quiet, sstpSendPacket]
        | false => simp
    | connectedPending => simp [Server.call, Server.phase, quiet, status]
    | established => simp [Server.call, Server.phase, quiet, status]
  · have closed : s.call.phase = .closed := by
      simp only [Server.call, Server.phase]
      apply if_pos
      simpa [Classical.or_iff_not_imp_left] using quiet
    rw [if_neg quiet, closed]
    simp

theorem ppp_processConnectRequest (nonce : List UInt8) (p : Packet) :
    (processConnectRequest nonce p s).ppp = s.ppp := by
  unfold processConnectRequest
  split
  · split
    · split
      · rfl
      · rfl
    · rfl
  · rfl

theorem call_processConnected : (processConnected s).call = s.call := by
  unfold processConnected
  by_cases quiet : s.aborting = false ∧ s.disconnecting = false
  · rw [if_pos quiet]
    cases status : s.status with
    | requestPenging => simp
    | connectedPending => simp [Server.call, Server.phase, status]
    | established => simp
  · rw [if_neg quiet]

theorem ppp_processConnected : (processConnected s).ppp = s.ppp := by
  unfold processConnected
  split
  · split
    · rfl
    · rfl
  · rfl

theorem call_sstpProcessControlPacket (nonce : List UInt8) (p : Packet) :
    (sstpProcessControlPacket nonce p s).call = s.call.control p := by
  unfold sstpProcessControlPacket Call.control closesCall opensCall
  by_cases request : p.messageType = SSTP_MSG_CALL_CONNECT_REQUEST
  · rw [if_pos request, call_processConnectRequest]
    simp [request, SSTP_MSG_CALL_CONNECT_REQUEST, SSTP_MSG_CALL_DISCONNECT,
      SSTP_MSG_CALL_DISCONNECT_ACK, SSTP_MSG_CALL_ABORT]
  · rw [if_neg request]
    by_cases connected : p.messageType = SSTP_MSG_CALL_CONNECTED
    · rw [if_pos connected, call_processConnected]
      simp [connected, SSTP_MSG_CALL_CONNECTED, SSTP_MSG_CALL_CONNECT_REQUEST,
        SSTP_MSG_CALL_DISCONNECT, SSTP_MSG_CALL_DISCONNECT_ACK, SSTP_MSG_CALL_ABORT]
    · rw [if_neg connected]
      by_cases disconnect : p.messageType = SSTP_MSG_CALL_DISCONNECT ∨
          p.messageType = SSTP_MSG_CALL_DISCONNECT_ACK
      · rw [if_pos disconnect, call_sstpDisconnect]
        rcases disconnect with isDisconnect | isAck
        · simp [isDisconnect]
          rfl
        · simp [isAck]
          rfl
      · rw [if_neg disconnect]
        obtain ⟨notDisconnect, notAck⟩ := not_or.mp disconnect
        by_cases abort : p.messageType = SSTP_MSG_CALL_ABORT
        · rw [if_pos abort, call_sstpAbort]
          simp [abort]
          rfl
        · rw [if_neg abort]
          simp [request, notDisconnect, notAck, abort]

theorem ppp_sstpProcessControlPacket (nonce : List UInt8) (p : Packet) :
    (sstpProcessControlPacket nonce p s).ppp = s.ppp := by
  unfold sstpProcessControlPacket
  split
  · exact ppp_processConnectRequest s nonce p
  · split
    · exact ppp_processConnected s
    · split
      · rfl
      · split
        · rfl
        · rfl

theorem call_processBlock (nonce b : List UInt8) :
    (processBlock nonce s b).call = s.call.block b := by
  unfold processBlock Call.block
  cases sstpParsePacket b b.length with
  | error stop => exact call_sstpAbort s
  | ok p =>
      simp only [sstpProcessPacket]
      cases p.isControl with
      | true => exact call_sstpProcessControlPacket _ nonce p
      | false => rfl

end

def dataOf (b : List UInt8) : Option (List UInt8) :=
  match sstpParsePacket b b.length with
  | .error _ => none
  | .ok p => if p.isControl then none else some p.data

def Event.data : Event → Option (List UInt8)
  | .begin _ => none
  | .block _ b => dataOf b
  | .finish _ => none

theorem ppp_processBlock (nonce : List UInt8) (s : Server) (b : List UInt8) :
    (processBlock nonce s b).ppp =
      match dataOf b with
      | none => s.ppp
      | some data => (true, s.tubeRecv ++ [data]) := by
  unfold processBlock dataOf
  cases sstpParsePacket b b.length with
  | error stop => rfl
  | ok p =>
      simp only [sstpProcessPacket]
      cases p.isControl with
      | true => exact ppp_sstpProcessControlPacket _ nonce p
      | false => rfl

/-! ## Runs -/

theorem call_serve (s : Server) (e : Event) : (serve s e).call = s.call.next e := by
  cases e with
  | begin tick => rfl
  | block nonce b => exact call_processBlock s nonce b
  | finish around => exact call_finishInterrupt s around

theorem ppp_serve (s : Server) (e : Event) :
    (serve s e).ppp =
      match e.data with
      | none => s.ppp
      | some data => (true, s.tubeRecv ++ [data]) := by
  cases e with
  | begin tick => rfl
  | block nonce b => exact ppp_processBlock nonce s b
  | finish around => exact ppp_finishInterrupt s around

theorem call_serverAfter (tick : Nat) (events : List Event) :
    (serverAfter tick events).call = callAfter tick events := by
  have follows : ∀ s : Server, (events.foldl serve s).call = events.foldl Call.next s.call := by
    induction events with
    | nil => exact fun _ => rfl
    | cons e rest inductionHypothesis =>
        intro s
        rw [List.foldl_cons, List.foldl_cons, inductionHypothesis, call_serve]
  exact follows (newSstpServer tick)

/-- The packet that comes up. -/
def Event.packet : Event → Option (List UInt8)
  | .block _ b => some b
  | _ => none

/-- The event creates a PPP session or passes data to it. -/
def Passes (s : Server) (e : Event) : Prop :=
  (serve s e).ppp ≠ s.ppp

theorem passes_iff (s : Server) (e : Event) : Passes s e ↔ e.data ≠ none := by
  unfold Passes
  rw [ppp_serve]
  cases e.data with
  | none => simp
  | some data => simp [Server.ppp]

/-- Every event of the run that creates a PPP session or passes data to it finds the server
communicating. -/
def PassesWhileCommunicating (tick : Nat) (events : List Event) : Prop :=
  ∀ early e late, events = early ++ e :: late →
    Passes (serverAfter tick early) e → (serverAfter tick early).Communicating

def DataWhileOpen (tick : Nat) (events : List Event) : Prop :=
  ∀ early e late, events = early ++ e :: late →
    e.data ≠ none → (callAfter tick early).phase = .opened

/-- **The data packets.**  A PPP session is created, and data are passed to it, only while the
server communicates, exactly when the client sends data only in an open call. -/
theorem passesWhileCommunicating_iff (tick : Nat) (events : List Event) :
    PassesWhileCommunicating tick events ↔ DataWhileOpen tick events := by
  have same : ∀ early, (serverAfter tick early).Communicating ↔
      (callAfter tick early).phase = .opened := by
    intro early
    rw [Server.communicating_iff, call_serverAfter]
  constructor
  · intro passes early e late split data
    exact (same early).mp (passes early e late split ((passes_iff _ e).mpr data))
  · intro data early e late split passes
    exact (same early).mpr (data early e late split ((passes_iff _ e).mp passes))

/-- A data packet that comes before any connection request goes to the PPP module. -/
theorem earlyData_passes :
    ¬∀ (tick : Nat) (events : List Event), PassesWhileCommunicating tick events := by
  intro all
  have communicating := all 0 [.begin 0, .block [] [0x10, 0, 0, 5, 0xff]] [.begin 0] _ [] rfl
    ((passes_iff _ _).mpr (by decide))
  exact absurd communicating (by decide)

end Sstp
end SoftEther
