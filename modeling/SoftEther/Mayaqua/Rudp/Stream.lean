import SoftEther.Mayaqua.Buf
import SoftEther.Mayaqua.Fifo
import SoftEther.Mayaqua.KeyedList
import SoftEther.Mayaqua.Memory

/-!
# The segment stream of R-UDP

The reliable stream of `Network.c` between two sessions that share their keys: a session
numbers the data of its `SendFifo` in segments, repeats them until they are acknowledged, and
puts the segments of its peer in order into its `RecvFifo`.  A datagram is seen as its fields;
its signature, cipher and padding are left out, and so is the clock of the interrupts.
Sequence numbers are natural numbers, since no session numbers 2^64 segments.
-/

namespace SoftEther
namespace Rudp

def RUDP_MAX_SEGMENT_SIZE : Nat := 512

def RUDP_MAX_NUM_ACK : Nat := 64

def RUDP_MAX_FIFO_SIZE : Nat := 1600 * 1600

def RUDP_TIMEOUT : Nat := 12000

def RUDP_RESEND_TIMER : Nat := 200

def RUDP_RESEND_TIMER_MAX : Nat := 4792

def RUDP_KEEPALIVE_INTERVAL_MIN : Nat := 2500

def RUDP_KEEPALIVE_INTERVAL_MAX : Nat := 4792

/-- `RUDP_SEGMENT`. -/
structure Segment where
  seqNo : Nat
  /-- `Data`, as long as `Size`. -/
  data : List UInt8
  nextSendTick : Nat := 0
  numSent : Nat := 0
  deriving DecidableEq

/-- A list of segments with `RUDPCompareSegmentList`. -/
abbrev SegmentList := KeyedList Segment.seqNo (compare : Nat → Nat → Ordering)

/-- The fields of a segment datagram. -/
structure Datagram where
  myTick : Nat
  yourTick : Nat
  maxAck : Nat
  /-- The acknowledgements. -/
  acks : List Nat
  /-- `SEQ`. -/
  seqNo : Nat
  /-- The data. -/
  payload : List UInt8
  deriving DecidableEq

/-- The data of a number, for the record of a session. -/
structure NumberedData where
  data : List UInt8
  /-- They are from `SendFifo`, and no message to keep the connection alive. -/
  fromFifo : Bool
  deriving DecidableEq

/-- `RUDP_SESSION_STATUS_*`. -/
inductive SessionStatus
  | connectSent
  | established
  deriving DecidableEq

/-- The part of `RUDP_SESSION` that the stream uses. -/
structure Session where
  serverMode : Bool
  status : SessionStatus
  magicKeepAliveRequest : List UInt8
  magicKeepAliveResponse : List UInt8
  magicDisconnect : Nat := 0
  lastRecvCompleteSeqNo : Nat := 0
  recvSegmentList : SegmentList := .empty
  replyAckList : List Nat := []
  sendSegmentList : SegmentList := .empty
  nextSendSeqNo : Nat := 1
  recvFifo : Fifo UInt8 := .newFifo
  sendFifo : Fifo UInt8 := .newFifo
  yourTick : Nat := 0
  latestRecvMyTick : Nat := 0
  latestRecvMyTick2 : Nat := 0
  currentRtt : Nat := 0
  lastSentTick : Nat := 0
  nextKeepAliveInterval : Nat := RUDP_KEEPALIVE_INTERVAL_MIN
  disconnectFlag : Bool := false
  /-- `RUDPFreeSession` has been called. -/
  freed : Bool := false
  numbered : List NumberedData := []
  /-- A record for the proofs: all bytes that have been written to `RecvFifo`. -/
  appended : List UInt8 := []

namespace Session

def rudpSendSegment (se : Session) (data : List UInt8) (fromFifo : Bool) : Session :=
  { se with
    nextSendSeqNo := se.nextSendSeqNo + 1
    sendSegmentList := se.sendSegmentList.insert { seqNo := se.nextSendSeqNo, data := data }
    numbered := se.numbered ++ [⟨data, fromFifo⟩] }

def rudpSendSegmentNow (now : Nat) (se : Session) (seqNo : Nat) (data : List UInt8) :
    Datagram × Session :=
  ({ myTick := now, yourTick := se.yourTick, maxAck := se.lastRecvCompleteSeqNo,
     acks := se.replyAckList.take RUDP_MAX_NUM_ACK, seqNo := seqNo, payload := data },
    { se with
      replyAckList := se.replyAckList.drop RUDP_MAX_NUM_ACK
      lastSentTick := if 1 ≤ data.length then now else se.lastSentTick })

def rudpGetCurrentSendingMinSeqNo (se : Session) : Nat :=
  match se.sendSegmentList.items with
  | [] => 0
  | s :: _ => s.seqNo

def sendDisconnectSignals (now : Nat) : Nat → Session → List Datagram × Session
  | 0, se => ([], se)
  | count + 1, se =>
      let (d, se) := rudpSendSegmentNow now se se.magicDisconnect []
      let (sent, se) := sendDisconnectSignals now count se
      (d :: sent, se)

def rudpDisconnectSession (now : Nat) (se : Session) (disconnectedByYou : Bool) :
    List Datagram × Session :=
  if se.disconnectFlag then ([], se)
  else
    let se := { se with disconnectFlag := true }
    if disconnectedByYou then ([], se) else sendDisconnectSignals now 5 se

/-- `AddInt64Distinct` into the acknowledgements to reply. -/
def addReplyAck (se : Session) (seq : Nat) : Session :=
  { se with
    replyAckList := if seq ∈ se.replyAckList then se.replyAckList
      else se.replyAckList ++ [seq] }

def rudpProcessRecvPayload (se : Session) (seq : Nat) (payload : List UInt8) : Session :=
  if se.lastRecvCompleteSeqNo + RUDP_MAX_NUM_ACK < seq then se
  else if seq ≤ se.lastRecvCompleteSeqNo then se.addReplyAck seq
  else
    match se.recvSegmentList.search seq with
    | some _ => se.addReplyAck seq
    | none =>
        { se with
          recvSegmentList :=
            se.recvSegmentList.insert { seqNo := seq, data := payload } }.addReplyAck seq

def rudpProcessAck (se : Session) (seq : Nat) : Session :=
  if seq = 0 then se
  else
    match se.sendSegmentList.search seq with
    | none => se
    | some s => { se with sendSegmentList := se.sendSegmentList.delete s }

def rudpProcessAck2 (se : Session) (maxSeq : Nat) : Session :=
  { se with sendSegmentList := se.sendSegmentList.deleteAll fun s => s.seqNo ≤ maxSeq }

def recvTicks (now : Nat) (se : Session) (d : Datagram) : Session :=
  let myTick := if 2 ≤ d.myTick then d.myTick - 1 else d.myTick
  let latest := max se.latestRecvMyTick d.yourTick
  { se with
    yourTick := max se.yourTick myTick
    latestRecvMyTick := latest
    latestRecvMyTick2 := latest
    currentRtt := if se.latestRecvMyTick2 ≠ latest then (now - latest) % X32
      else se.currentRtt }

/-- From the sequence number of a datagram on. -/
def recvSegment (now : Nat) (se : Session) (d : Datagram) : Session :=
  if d.seqNo = 0 then se
  else if d.seqNo = se.magicDisconnect then (rudpDisconnectSession now se true).2
  else
    let se :=
      if 1 ≤ d.payload.length ∧ d.payload.length ≤ RUDP_MAX_SEGMENT_SIZE then
        se.rudpProcessRecvPayload d.seqNo d.payload
      else se
    if se.serverMode = false then { se with status := .established } else se

def rudpProcessRecvPacket (now : Nat) (se : Session) (d : Datagram) : Session :=
  if now < d.yourTick then se
  else if RUDP_MAX_NUM_ACK < d.acks.length then se
  else
    let se := if 1 ≤ d.maxAck then se.rudpProcessAck2 d.maxAck else se
    let se := d.acks.foldl rudpProcessAck se
    recvSegment now (recvTicks now se d) d

/-! ## The interrupt -/

/-- A segment that has arrived in succession. -/
def takeSegment (se : Session) (s : Segment) : Session :=
  if s.data = se.magicKeepAliveRequest then
    -- Send a KeepAlive Response if the transmisson queue is empty
    if se.sendSegmentList.num = 0 then
      se.rudpSendSegment se.magicKeepAliveResponse false
    else se
  else if s.data = se.magicKeepAliveResponse then se
  else
    { se with
      recvFifo := se.recvFifo.writeFifo s.data
      appended := se.appended ++ s.data }

/-- The loop over the received segments: those to delete and the session. -/
def readSegments : List Segment → Nat → Session → List Segment × Session
  | [], _, se => ([], se)
  | s :: rest, currentSeqNo, se =>
      if s.seqNo = currentSeqNo + 1 then
        let (o, se) := readSegments rest (currentSeqNo + 1)
          { se.takeSegment s with lastRecvCompleteSeqNo := s.seqNo }
        (s :: o, se)
      else ([], se)

/-- If there are received segments, read to the part that has arrived in succession. -/
def readReceived (se : Session) : Session :=
  if se.recvFifo.fifoSize ≤ RUDP_MAX_FIFO_SIZE then
    let (o, se) := readSegments se.recvSegmentList.items se.lastRecvCompleteSeqNo se
    { se with recvSegmentList := o.foldl KeyedList.delete se.recvSegmentList }
  else se

/-- The server takes the number of the disconnection from the stream. -/
def readMagicDisconnect (se : Session) : Session :=
  if se.serverMode = true ∧ se.magicDisconnect = 0 ∧ 8 ≤ se.recvFifo.fifoSize then
    let ui := fromBigEndian (se.recvFifo.peekFifo 8)
    { se with
      recvFifo := se.recvFifo.readFifo 8
      magicDisconnect := if X32 ≤ ui then ui else se.magicDisconnect }
  else se

/-- What comes from outside in an interrupt. -/
structure Input where
  now : Nat
  /-- The number of bytes that the TCP socket takes. -/
  written : Nat := 0
  writeFails : Bool := false
  /-- The bytes that the TCP socket gives. -/
  read : List UInt8 := []
  readFails : Bool := false
  /-- `Rand32`. -/
  rand : Nat := 0
  deriving DecidableEq

/-- If the data remains in FIFO, write it to the TCP socket as possible. -/
def writeSock (input : Input) (se : Session) : List Datagram × Session :=
  if se.serverMode = false ∨ se.magicDisconnect ≠ 0 then
    let se := { se with recvFifo := se.recvFifo.readFifo input.written }
    if input.writeFails then rudpDisconnectSession input.now se false else ([], se)
  else ([], se)

/-- Read the data from the TCP socket and store it to FIFO. -/
def readSock (input : Input) (se : Session) : List Datagram × Session :=
  let se := { se with sendFifo := se.sendFifo.writeFifo input.read }
  if input.readFails then rudpDisconnectSession input.now se false else ([], se)

/-- Attempt to send a divided segment; every round takes at least a byte, so that the size
of the FIFO bounds their number. -/
def sendDivided : Nat → Session → Session
  | 0, se => se
  | fuel + 1, se =>
      let seqNoMin := se.rudpGetCurrentSendingMinSeqNo
      if seqNoMin = 0 ∨ se.nextSendSeqNo ≤ seqNoMin + RUDP_MAX_NUM_ACK - 1 then
        let size := min se.sendFifo.fifoSize RUDP_MAX_SEGMENT_SIZE
        if size = 0 then se
        else
          let se := se.rudpSendSegment (se.sendFifo.peekFifo size) true
          sendDivided fuel { se with sendFifo := se.sendFifo.readFifo size }
      else se

/-- Send a Keep-Alive if no data was sent for a while and the transmission queue is empty. -/
def keepAlive (input : Input) (se : Session) : Session :=
  if se.lastSentTick = 0 ∨ se.lastSentTick + se.nextKeepAliveInterval ≤ input.now then
    let se :=
      if se.sendSegmentList.num = 0 then
        se.rudpSendSegment se.magicKeepAliveRequest false
      else se
    { se with
      nextKeepAliveInterval := RUDP_KEEPALIVE_INTERVAL_MIN +
        input.rand % (RUDP_KEEPALIVE_INTERVAL_MAX - RUDP_KEEPALIVE_INTERVAL_MIN) }
  else se

/-- The time until a segment is repeated. -/
def nextInterval (se : Session) (numSent : Nat) : Nat :=
  let first := if se.currentRtt ≠ 0 then mulUINT se.currentRtt 120 / 100 else RUDP_RESEND_TIMER
  min (mulUINT first (2 ^ min numSent 10)) RUDP_RESEND_TIMER_MAX

/-- A segment that has not been sent even once yet, or whose retransmission time has
arrived, is sent when it is in the window. -/
def transmit (now seqNoMin : Nat) (se : Session) (s : Segment) : List Datagram × Session :=
  if s.seqNo ≤ seqNoMin + RUDP_MAX_NUM_ACK - 1 ∧ (s.nextSendTick = 0 ∨ s.nextSendTick ≤ now) then
    let (d, se) := rudpSendSegmentNow now se s.seqNo s.data
    ([d],
      { se with
        sendSegmentList := se.sendSegmentList.write s
          { s with
            numSent := s.numSent + 1
            nextSendTick := now + se.nextInterval s.numSent }
          rfl })
  else ([], se)

/-- The loop over the segments that wait. -/
def transmitAll (now seqNoMin : Nat) : List Segment → Session → List Datagram × Session
  | [], se => ([], se)
  | s :: rest, se =>
      let (first, se) := transmit now seqNoMin se s
      let (sent, se) := transmitAll now seqNoMin rest se
      (first ++ sent, se)

/-- If there are ACKs which is not responded yet in the list, send all of them. -/
def replyAcks (now : Nat) : Nat → Session → List Datagram × Session
  | 0, se => ([], se)
  | fuel + 1, se =>
      if se.replyAckList = [] then ([], se)
      else
        let (d, se) := rudpSendSegmentNow now se se.nextSendSeqNo []
        let (sent, se) := replyAcks now fuel se
        (d :: sent, se)

/-- What is sent at the end of an interrupt. -/
def sendAll (input : Input) (se : Session) : List Datagram × Session :=
  if se.disconnectFlag then ([], se)
  else
    let se := se.keepAlive input
    let (segments, se) := transmitAll input.now se.rudpGetCurrentSendingMinSeqNo
      se.sendSegmentList.items se
    let (replies, se) := replyAcks input.now se.replyAckList.length se
    (segments ++ replies, se)

/-- Disconnect the session because the communication has failed for a while. -/
def checkTimeout (input : Input) (se : Session) : List Datagram × Session :=
  if se.latestRecvMyTick + RUDP_TIMEOUT ≤ input.now then
    rudpDisconnectSession input.now se false
  else ([], se)

/-- The part of `RUDPInterruptProc` for an established session: the datagrams sent and the
session, which is released when it is disconnected. -/
def interrupt (input : Input) (se : Session) : List Datagram × Session :=
  if se.status = .established then
    let (timeout, se) := checkTimeout input se
    let (write, se) := writeSock input se.readReceived.readMagicDisconnect
    let (read, se) := readSock input se
    let (all, se) := sendAll input (sendDivided (se.sendFifo.fifoSize + 1) se)
    (timeout ++ write ++ read ++ all, { se with freed := se.disconnectFlag })
  else ([], { se with freed := se.disconnectFlag })

end Session

/-- The sides of a connection. -/
inductive Side
  | client
  | server
  deriving DecidableEq

def Side.other : Side → Side
  | .client => .server
  | .server => .client

/-- Two sessions and all datagrams that they have sent: the network may deliver each of them
at any time, again and again, or never. -/
structure Connection where
  session : Side → Session
  sent : Side → List Datagram

/-- What happens. -/
inductive Event
  | interrupt (side : Side) (input : Session.Input)
  | deliver (side : Side) (now : Nat) (d : Datagram)

/-- A step of the connection; a session that is released takes no more steps. -/
def step (c : Connection) : Event → Option Connection
  | .interrupt side input =>
      if (c.session side).freed then none
      else
        let (sent, se) := (c.session side).interrupt input
        some
          { session := Function.update c.session side se
            sent := Function.update c.sent side (c.sent side ++ sent) }
  | .deliver side now d =>
      if (c.session side).freed = false ∧ d ∈ c.sent side.other then
        some
          { c with
            session := Function.update c.session side
              ((c.session side).rudpProcessRecvPacket now d) }
      else none

end Rudp
end SoftEther
