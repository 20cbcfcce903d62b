import SoftEther.Library.Ranges
import SoftEther.Mayaqua.Fifo

/-!
# TCP entries of the user-mode NAT

One `NAT_ENTRY` of protocol `NAT_TCP` and the functions of `Virtual.c` that
read and write it: `ParseTcpOption`, `CreateNatTcp`, `TcpRecvForInternet`,
`PollingNatTcp`, `NatTransactTcp` and `SendTcp`.  Sequence numbers, sizes and
times are natural numbers with explicit wrap-around.

The branch of `TcpRecvForInternet` under `SendMissionSize != 0 && false` never
runs and is left out.
-/

namespace SoftEther
namespace NatTcp

open Library

def NAT_TCP_RECV_WINDOW_SIZE : Nat := 64512

def NAT_SEND_BUF_SIZE : Nat := 65536

def NAT_RECV_BUF_SIZE : Nat := 65536

def NAT_TMPBUF_SIZE : Nat := 131072

def NAT_TCP_SYNACK_SEND_TIMEOUT : Nat := 250

def NAT_ACK_KEEPALIVE_SPAN : Nat := 5000

def NAT_INITIAL_RTT_VALUE : Nat := 500

def NAT_FIN_SEND_INTERVAL : Nat := 1000

def NAT_FIN_SEND_MAX_COUNT : Nat := 5

def VIRTUAL_TCP_SEND_TIMEOUT : Nat := 21000

def TCP_HEADER_SIZE : Nat := 20

def TCP_FIN : UInt8 := 1

def TCP_SYN : UInt8 := 2

def TCP_RST : UInt8 := 4

def TCP_PSH : UInt8 := 8

def TCP_ACK : UInt8 := 16

/-- The `NAT_TCP_*` states. -/
inductive NatTcpStatus
  | connecting
  | sendReset
  | connected
  | established
  | waitDisconnect
  deriving DecidableEq

abbrev IpPart := ByteRange

/-- The `TCP_HEADER` fields that the NAT reads, and the option bytes behind
the fixed header. -/
structure TcpHeader where
  seqNumber : UInt32
  ackNumber : UInt32
  flag : UInt8
  windowSize : UInt16
  options : List UInt8
  deriving DecidableEq

/-- `tcp->Flag & bit`. -/
def TcpHeader.has (tcp : TcpHeader) (bit : UInt8) : Bool :=
  tcp.flag &&& bit != 0

structure TcpOption where
  maxSegmentSize : Nat := 0
  windowScaling : Nat := 0
  deriving DecidableEq

/-- The `switch` of `ParseTcpOption` on the kind of one option. -/
def TcpOption.set (option : TcpOption) (kind : UInt8) (value : List UInt8) :
    TcpOption :=
  match kind, value with
  | 2, [high, low] =>
      { option with maxSegmentSize := high.toNat * 256 + low.toNat }
  | 3, [scale] => { option with windowScaling := scale.toNat }
  | _, _ => option

/-- The loop of `ParseTcpOption`; the fuel is the number of bytes left. -/
def parseTcpOptionLoop : Nat → TcpOption → List UInt8 → TcpOption
  | 0, option, _ => option
  | _ + 1, option, [] => option
  | fuel + 1, option, kind :: rest =>
      if kind = 0 then option
      else if kind = 1 then parseTcpOptionLoop fuel option rest
      else
        match rest with
        | [] => option
        | valueSize :: body =>
            if valueSize.toNat ≤ 1 ∨ valueSize.toNat > 128 then option
            else if body = [] then option
            else
              let size := valueSize.toNat - 2
              if body.length < size then option
              else
                parseTcpOptionLoop fuel (option.set kind (body.take size))
                  (body.drop size)

def parseTcpOption (data : List UInt8) : TcpOption :=
  parseTcpOptionLoop data.length {} data

/-- A segment that `SendTcp` hands to the IP layer. -/
structure SentTcp where
  srcIp : UInt32
  srcPort : UInt32
  destIp : UInt32
  destPort : UInt32
  seq : Nat
  ack : Nat
  flag : UInt8
  windowSize : Nat
  mss : Nat
  data : List UInt8
  deriving DecidableEq

/-- The TCP items of a `NAT_ENTRY`. -/
structure NatEntry where
  srcIp : UInt32
  srcPort : UInt32
  destIp : UInt32
  destPort : UInt32
  lastCommTime : Nat
  disconnectNow : Bool := false
  sendFifo : Fifo UInt8 := Fifo.newFifo
  recvFifo : Fifo (Option UInt8) := Fifo.newFifo
  tcpStatus : NatTcpStatus := .connecting
  tcpSendMaxSegmentSize : Nat
  lastSynAckSentTime : Nat := 0
  synAckSentCount : Nat := 0
  tcpSendWindowSize : Nat := 0
  tcpSendCWnd : Nat := 0
  tcpRecvWindowSize : Nat := 0
  tcpSendTimeoutSpan : Nat
  tcpLastSentTime : Nat := 0
  lastSentKeepAliveTime : Nat := 0
  /-- `none` is the `NULL` pointer before the first stored payload. -/
  tcpRecvWindow : Option (Fifo (Option UInt8)) := none
  /-- `none` is the `NULL` pointer before the first stored payload. -/
  tcpRecvList : Option (List IpPart) := none
  sendAckNext : Bool := false
  tcpLastRecvAckTime : Nat
  sendSeqInit : Nat
  sendSeq : Nat := 0
  recvSeqInit : Nat := 0
  recvSeq : Nat := 0
  finSentSeq : Nat := 0
  currentSendingMission : Bool := false
  sendMissionSize : Nat := 0
  retransmissionUsedFlag : Bool := false
  currentRTT : Nat
  calcRTTStartTime : Nat := 0
  calcRTTStartValue : Nat := 0
  tcpFinished : Bool := false
  tcpDisconnected : Bool := false
  tcpForceReset : Bool := false
  finSentTime : Nat := 0
  finSentCount : Nat := 0
  deriving DecidableEq

/-- The receive window as a FIFO; the first use of a `NULL` pointer makes an
empty one. -/
def NatEntry.window (n : NatEntry) : Fifo (Option UInt8) :=
  n.tcpRecvWindow.getD Fifo.newFifo

/-- The reception list; the first use of a `NULL` pointer makes an empty
one. -/
def NatEntry.parts (n : NatEntry) : List IpPart :=
  n.tcpRecvList.getD []

/-- The `VH` fields that the TCP functions read. -/
structure VirtualHost where
  tcpMss : Nat
  natTcpTimeout : Nat
  deriving DecidableEq

/-- The entry that `CreateNatTcp` allocates; `rand` is the value of `Rand32`.
The checks that may refuse a new entry come before and are not part of an
entry's life. -/
def createNatTcp (v : VirtualHost) (now rand : Nat)
    (srcIp srcPort destIp destPort : UInt32) : NatEntry :=
  { srcIp, srcPort, destIp, destPort
    lastCommTime := now
    tcpLastRecvAckTime := now
    tcpSendMaxSegmentSize := v.tcpMss
    sendSeqInit := rand % X32
    currentRTT := NAT_INITIAL_RTT_VALUE
    tcpSendTimeoutSpan := NAT_INITIAL_RTT_VALUE * 2 }

/-- `Endian16(tcp->WindowSize)`, shifted by the window scaling option, which
counts up to 14. -/
def scaledWindow (tcp : TcpHeader) (option : TcpOption) : Nat :=
  if option.windowScaling ≠ 0 then
    tcp.windowSize.toNat * 2 ^ min option.windowScaling 14 % X32
  else
    tcp.windowSize.toNat

/-- The branch of `TcpRecvForInternet` that makes a new entry for a SYN. -/
def acceptSyn (v : VirtualHost) (tcp : TcpHeader) (n : NatEntry) : NatEntry :=
  let option := parseTcpOption tcp.options
  let maxSegmentSize :=
    if option.maxSegmentSize = 0 then v.tcpMss else option.maxSegmentSize
  { n with
    recvSeqInit := tcp.seqNumber.toNat
    recvSeq := 1
    tcpSendMaxSegmentSize := maxSegmentSize
    tcpRecvWindowSize := NAT_TCP_RECV_WINDOW_SIZE
    tcpSendWindowSize := scaledWindow tcp option }

/-! ## Transmission -/

/-- `SendTcp` from the destination of an entry to its client.  A packet whose
TCP part would exceed 65536 bytes is dropped. -/
def sendTcp (n : NatEntry) (seq ack : Nat) (flag : UInt8)
    (windowSize mss : Nat) (data : List UInt8) : Option SentTcp :=
  let headerSize := if mss ≠ 0 then TCP_HEADER_SIZE + 8 else TCP_HEADER_SIZE
  if headerSize + data.length > 65536 then none
  else
    some
      { srcIp := n.destIp, srcPort := n.destPort
        destIp := n.srcIp, destPort := n.srcPort
        seq := seq % X32, ack := ack % X32
        flag, windowSize := windowSize % 65536, mss := mss % 65536, data }

/-- The window size that `PollingNatTcp` advertises. -/
def noticeWindowSize (n : NatEntry) : Nat :=
  min n.tcpRecvWindowSize
    (if n.recvFifo.fifoSize < NAT_RECV_BUF_SIZE then
      NAT_RECV_BUF_SIZE - n.recvFifo.fifoSize
    else 0)

/-- The number of bytes of one burst: the window, the congestion window and
the FIFO bound it. -/
def burstSize (n : NatEntry) : Nat :=
  min (min n.tcpSendWindowSize
    (mulUINT n.tcpSendCWnd n.tcpSendMaxSegmentSize)) n.sendFifo.fifoSize

/-- The loop of `PollingNatTcp` that cuts a burst into segments: offset and
data of each, from `pointer` on.  The fuel is the number of bytes left. -/
def burstSegments (n : NatEntry) :
    (fuel pointer remaining : Nat) → List (Nat × List UInt8)
  | 0, _, _ => []
  | fuel + 1, pointer, remaining =>
      if remaining = 0 then []
      else
        let size := min n.tcpSendMaxSegmentSize remaining
        (pointer, (n.sendFifo.contents.drop pointer).take size) ::
          burstSegments n fuel (pointer + size) (remaining - size)

/-- `SendTcp` for one segment of a burst. -/
def sendBurstSegment (n : NatEntry) (segment : Nat × List UInt8) :
    Option SentTcp :=
  sendTcp n
    (addUINT64 (addUINT64 n.sendSeqInit n.sendSeq) segment.1)
    (addUINT64 n.recvSeqInit n.recvSeq)
    (TCP_ACK ||| TCP_PSH) (noticeWindowSize n) 0 segment.2

/-- The keep-alive stage of `PollingNatTcp`. -/
def pollKeepAlive (now : Nat) (n : NatEntry) : NatEntry × List SentTcp :=
  if n.lastSentKeepAliveTime = 0 ∨
      addUINT64 n.lastSentKeepAliveTime NAT_ACK_KEEPALIVE_SPAN < now ∨
      n.lastSentKeepAliveTime > now then
    let sent :=
      if n.lastSentKeepAliveTime ≠ 0 then
        (sendTcp n (addUINT64 n.sendSeqInit n.sendSeq)
          (subUINT (addUINT64 n.recvSeqInit n.recvSeq % X32) 1)
          TCP_ACK (noticeWindowSize n) 0 []).toList
      else []
    ({ n with lastSentKeepAliveTime := now }, sent)
  else (n, [])

/-- The bookkeeping of `PollingNatTcp` after a burst of `size` bytes. -/
def recordBurst (now size : Nat) (n : NatEntry) : NatEntry :=
  let measured :=
    if n.calcRTTStartTime = 0 then
      { n with
        calcRTTStartTime := now
        calcRTTStartValue := subUINT64 (addUINT64 n.sendSeq size) 1 }
    else n
  let mission :=
    { measured with
      tcpLastSentTime := now
      sendMissionSize := size
      currentSendingMission := true }
  if mission.retransmissionUsedFlag = false then
    { mission with retransmissionUsedFlag := true }
  else if mission.tcpSendCWnd > 2 then
    { mission with tcpSendCWnd := mission.tcpSendCWnd - 1 }
  else mission

/-- The transmission stage of `PollingNatTcp`. -/
def pollTransmit (now : Nat) (n : NatEntry) : NatEntry × List SentTcp :=
  if n.tcpLastSentTime = 0 ∨ n.tcpLastSentTime > now ∨
      addUINT64 n.tcpLastSentTime n.tcpSendTimeoutSpan < now ∨
      n.sendAckNext then
    let size := burstSize n
    if size ≥ 1 then
      ({ recordBurst now size n with sendAckNext := false },
        (burstSegments n size 0 size).filterMap (sendBurstSegment n))
    else if n.sendAckNext then
      ({ n with sendAckNext := false },
        (sendTcp n (addUINT64 n.sendSeqInit n.sendSeq)
          (addUINT64 n.recvSeqInit n.recvSeq)
          TCP_ACK (noticeWindowSize n) 0 []).toList)
    else ({ n with sendAckNext := false }, [])
  else (n, [])

/-- The last stage of `PollingNatTcp`: disconnect once all data has gone. -/
def pollFinish (n : NatEntry) : NatEntry :=
  if n.tcpFinished ∧ n.sendFifo.fifoSize = 0 ∧ n.recvFifo.fifoSize = 0 then
    { n with tcpStatus := .sendReset }
  else n

/-- `PollingNatTcp` in state `NAT_TCP_ESTABLISHED`. -/
def pollEstablished (now : Nat) (n : NatEntry) : NatEntry × List SentTcp :=
  let kept := pollKeepAlive now n
  let transmitted := pollTransmit now kept.1
  (pollFinish transmitted.1, kept.2 ++ transmitted.2)

/-- `PollingNatTcp` in state `NAT_TCP_CONNECTED`: SYN + ACK. -/
def pollConnected (v : VirtualHost) (now : Nat) (n : NatEntry) :
    NatEntry × List SentTcp :=
  if n.lastSynAckSentTime > now ∨ n.lastSynAckSentTime = 0 ∨
      addUINT64 n.lastSynAckSentTime
        (NAT_TCP_SYNACK_SEND_TIMEOUT * addUINT n.synAckSentCount 1) ≤ now then
    ({ n with
        lastSynAckSentTime := now
        synAckSentCount := addUINT n.synAckSentCount 1 },
      (sendTcp n (addUINT64 n.sendSeqInit n.sendSeq)
        (addUINT64 n.recvSeqInit n.recvSeq)
        (TCP_SYN ||| TCP_ACK) n.tcpRecvWindowSize v.tcpMss []).toList)
  else (n, [])

/-- `PollingNatTcp` in state `NAT_TCP_SEND_RESET`: RST, or FIN up to
`NAT_FIN_SEND_MAX_COUNT` times. -/
def pollSendReset (now : Nat) (n : NatEntry) : NatEntry × List SentTcp :=
  let next := addUINT64 n.sendSeq n.sendSeqInit
  if n.tcpFinished = false ∨ n.tcpForceReset then
    ({ n with tcpStatus := .waitDisconnect, disconnectNow := true },
      (sendTcp n next next TCP_RST 0 0 []).toList)
  else if n.finSentTime = 0 ∨ n.finSentTime > now ∨
      addUINT64 n.finSentTime
        (mulUINT NAT_FIN_SEND_INTERVAL (addUINT n.finSentCount 1)) < now then
    let finSentCount := addUINT n.finSentCount 1
    ({ n with
        finSentTime := now
        finSentSeq := next % X32
        finSentCount
        tcpFinished := n.tcpFinished && finSentCount < NAT_FIN_SEND_MAX_COUNT },
      (sendTcp n next (addUINT64 n.recvSeq n.recvSeqInit)
        (TCP_ACK ||| TCP_FIN) 0 0 []).toList)
  else (n, [])

def pollingNatTcp (v : VirtualHost) (now : Nat) (n : NatEntry) :
    NatEntry × List SentTcp :=
  match n.tcpStatus with
  | .connecting => (n, [])
  | .connected => pollConnected v now n
  | .sendReset => pollSendReset now n
  | .established => pollEstablished now n
  | .waitDisconnect => (n, [])

/-! ## Reception -/

/-- A 32-bit sequence number lifted to the 64-bit position it names, relative
to the current position: the computation of `ack64` and of `seq64`. -/
def liftSeq (init position number : Nat) : Nat :=
  let current := addUINT64 init position % X32
  if current > number ∧ current - number ≥ 0x80000000 then
    subUINT64 (addUINT64 (addUINT64 position number) X32) current
  else
    subUINT64 (addUINT64 position number) current

def ack64 (n : NatEntry) (ack : Nat) : Nat :=
  liftSeq n.sendSeqInit n.sendSeq ack

def seq64 (n : NatEntry) (seq : Nat) : Nat :=
  liftSeq n.recvSeqInit n.recvSeq seq

def measureRTT (now ackPosition : Nat) (n : NatEntry) : NatEntry :=
  if n.calcRTTStartTime ≠ 0 ∧ n.calcRTTStartValue < ackPosition then
    let timeSpan :=
      if now > n.calcRTTStartTime then (now - n.calcRTTStartTime) % X32
      else 100
    let currentRTT := (n.currentRTT * 9 + timeSpan) / 10 % X32
    { n with
      calcRTTStartTime := 0
      currentRTT
      tcpSendTimeoutSpan := mulUINT currentRTT 2 }
  else n

/-- The accounting of one burst when `slideOffset` bytes of it are
acknowledged. -/
def reduceMission (slideOffset : Nat) (n : NatEntry) : NatEntry :=
  let sendMissionSize := subUINT n.sendMissionSize slideOffset
  if sendMissionSize = 0 then
    { n with
      sendMissionSize
      tcpSendCWnd :=
        if n.tcpSendCWnd < 65536 then n.tcpSendCWnd + 1 else n.tcpSendCWnd
      currentSendingMission := false
      tcpLastSentTime := 0
      retransmissionUsedFlag := false }
  else { n with sendMissionSize }

/-- The number of bytes that an acknowledgment slides the send window by;
nothing when it is ignored. -/
def ackSlide (n : NatEntry) (ack : Nat) : Option Nat :=
  if ack64 n ack > n.sendSeq then
    let slideOffset := subUINT64 (ack64 n ack) n.sendSeq % X32
    if slideOffset = 0 ∨ slideOffset > n.tcpSendWindowSize ∨
        slideOffset > n.sendFifo.fifoSize then none
    else some slideOffset
  else none

/-- The acknowledgment part of `TcpRecvForInternet`. -/
def receiveAck (now ack : Nat) (n : NatEntry) : NatEntry :=
  match ackSlide n ack with
  | none => n
  | some slideOffset =>
      let slid := reduceMission slideOffset (measureRTT now (ack64 n ack) n)
      { slid with
        sendSeq := addUINT64 slid.sendSeq slideOffset
        sendFifo := slid.sendFifo.readFifo slideOffset }

/-- The receive window check of `TcpRecvForInternet`: the offset in
`TcpRecvWindow` at which a payload of `size` bytes is stored. -/
def recvWindowOffset (n : NatEntry) (seq size : Nat) : Option Nat :=
  if seq64 n seq ≥ n.recvSeq ∧
      addUINT64 (seq64 n seq) size ≤ addUINT64 n.recvSeq n.tcpRecvWindowSize then
    if size ≥ 1 then some (subUINT64 (seq64 n seq) n.recvSeq % X32) else none
  else none

/-- One turn of the loop that removes overlaps: the arriving part `me`
against the listed part `p`.  `size` is the payload size of the segment. -/
def overlapStep (size : Nat) (me p : IpPart) : IpPart × IpPart :=
  if p.size ≠ 0 then
    if me.offset ≤ p.offset ∧
        addUINT me.offset me.size ≥ addUINT p.offset p.size then
      (me, { p with size := 0 })
    else if me.offset ≥ p.offset ∧
        addUINT me.offset me.size ≤ addUINT p.offset p.size then
      ({ me with size := 0 }, p)
    else if me.offset > p.offset ∧ me.offset < addUINT p.offset p.size ∧
        addUINT me.offset me.size > addUINT p.offset p.size then
      (me, { p with
        size := subUINT p.size (subUINT (addUINT p.offset p.size) me.offset) })
    else if me.offset < p.offset ∧ addUINT me.offset size > p.offset ∧
        addUINT me.offset size < addUINT p.offset p.size then
      ({ me with
        size := subUINT me.size (subUINT (addUINT me.offset me.size) p.offset) },
        p)
    else (me, p)
  else (me, p)

/-- The loop over `TcpRecvList` that removes overlaps. -/
def removeOverlaps (size : Nat) : IpPart → List IpPart → IpPart × List IpPart
  | me, [] => (me, [])
  | me, p :: rest =>
      let turn := overlapStep size me p
      let scanned := removeOverlaps size turn.1 rest
      (scanned.1, turn.2 :: scanned.2)

/-- `TcpRecvList` after a part has been added and, from `KILL_NULL_FIRST` on,
every blank item has been removed. -/
def addPart (offset size : Nat) (parts : List IpPart) : List IpPart :=
  let scanned := removeOverlaps size ⟨offset, size⟩ parts
  let added := if scanned.1.size = 0 then scanned.2 else scanned.2 ++ [scanned.1]
  added.filter fun p => p.size ≠ 0

/-- What `SCAN_FIRST` reads and writes. -/
structure RecvState where
  window : Fifo (Option UInt8)
  parts : List IpPart
  recvFifo : Fifo (Option UInt8)
  recvSeq : Nat
  sendAckNext : Bool
  deriving DecidableEq

/-- One extraction of `SCAN_FIRST`: the first part that starts at offset 0
moves from the window to the receive FIFO. -/
def extractFirst (state : RecvState) : Option RecvState :=
  match state.parts.find? (fun p => p.offset = 0) with
  | none => none
  | some p =>
      some
        { window := state.window.readFifo p.size
          parts := (state.parts.erase p).map fun other =>
            { other with offset := subUINT other.offset p.size }
          recvFifo := state.recvFifo.writeFifo (state.window.peekFifo p.size)
          recvSeq := addUINT64 state.recvSeq p.size
          sendAckNext := true }

/-- `SCAN_FIRST`; every extraction removes a part, so the number of parts
bounds the loop. -/
def scanFirst : Nat → RecvState → RecvState
  | 0, state => state
  | fuel + 1, state =>
      match extractFirst state with
      | none => state
      | some extracted => scanFirst fuel extracted

/-- The payload stored at `offset` of the receive window. -/
def storeInWindow (offset : Nat) (data : List UInt8)
    (window : Fifo (Option UInt8)) : Fifo (Option UInt8) :=
  let stop := addUINT offset data.length
  let expanded :=
    if window.fifoSize < stop then
      window.writeFifoNull (subUINT stop window.fifoSize)
    else window
  expanded.copyInto offset (data.map some)

/-- The part of `TcpRecvForInternet` that stores a payload and extracts what
has become contiguous. -/
def storeData (offset : Nat) (data : List UInt8) (n : NatEntry) : NatEntry :=
  let parts := addPart offset data.length n.parts
  let scanned := scanFirst parts.length
    { window := storeInWindow offset data n.window
      parts
      recvFifo := n.recvFifo
      recvSeq := n.recvSeq
      sendAckNext := n.sendAckNext }
  { n with
    tcpRecvWindow := some scanned.window
    tcpRecvList := some scanned.parts
    recvFifo := scanned.recvFifo
    recvSeq := scanned.recvSeq
    sendAckNext := scanned.sendAckNext }

/-- The data part of `TcpRecvForInternet`. -/
def receiveData (seq : Nat) (data : List UInt8) (n : NatEntry) : NatEntry :=
  match recvWindowOffset n seq data.length with
  | none => n
  | some offset => storeData offset data n

/-- `TcpRecvForInternet` in state `NAT_TCP_ESTABLISHED`. -/
def receiveEstablished (now : Nat) (tcp : TcpHeader) (data : List UInt8)
    (n : NatEntry) : NatEntry :=
  let finished := if tcp.has TCP_FIN then { n with tcpFinished := true } else n
  if tcp.has TCP_RST then { finished with tcpStatus := .sendReset }
  else if tcp.has TCP_ACK then
    let windowed :=
      { finished with
        lastCommTime := now
        tcpSendWindowSize := scaledWindow tcp (parseTcpOption tcp.options) }
    receiveData tcp.seqNumber.toNat data
      (receiveAck now tcp.ackNumber.toNat windowed)
  else finished

/-- `TcpRecvForInternet` in state `NAT_TCP_CONNECTED`: the handshake. -/
def receiveConnected (now : Nat) (tcp : TcpHeader) (n : NatEntry) : NatEntry :=
  if tcp.has TCP_ACK ∧ tcp.has TCP_SYN = false then
    if tcp.seqNumber.toNat = addUINT64 n.recvSeqInit n.recvSeq % X32 ∧
        tcp.ackNumber.toNat =
          addUINT64 (addUINT64 n.sendSeqInit n.sendSeq) 1 % X32 then
      { n with
        sendSeq := addUINT64 n.sendSeq 1
        tcpStatus := .established
        tcpSendCWnd := 1
        lastCommTime := now }
    else { n with tcpStatus := .sendReset }
  else if tcp.has TCP_RST then { n with tcpStatus := .sendReset }
  else n

/-- `TcpRecvForInternet` in state `NAT_TCP_SEND_RESET`. -/
def receiveSendReset (tcp : TcpHeader) (n : NatEntry) : NatEntry :=
  if tcp.has TCP_ACK ∧ tcp.has TCP_SYN = false ∧ n.finSentCount ≥ 1 ∧
      tcp.ackNumber.toNat = addUINT n.finSentSeq 1 then
    { n with tcpForceReset := true }
  else n

/-- `TcpRecvForInternet` for a segment of an existing entry. -/
def tcpRecvForInternet (now : Nat) (tcp : TcpHeader) (data : List UInt8)
    (entry : NatEntry) : NatEntry :=
  let n := { entry with tcpLastRecvAckTime := now }
  match n.tcpStatus with
  | .sendReset => receiveSendReset tcp n
  | .connected => receiveConnected now tcp n
  | .established => receiveEstablished now tcp data n
  | .connecting => n
  | .waitDisconnect => n

/-! ## The socket side -/

/-- The result of `Send`: the number of bytes taken, 0 for a closed
connection, `none` for `SOCK_LATER`. -/
abbrev SendResult := Option Nat

/-- The result of `Recv`: the bytes read, none of them for a closed
connection, `none` for `SOCK_LATER`. -/
abbrev RecvResult := Option (List UInt8)

/-- The loop of `NatTransactTcp` that writes the receive FIFO to the socket,
with the bytes the socket takes.  The socket blocks when the results end. -/
def sendToSocket : List SendResult → NatEntry → NatEntry × List (Option UInt8)
  | [], n => (n, [])
  | result :: results, n =>
      if n.recvFifo.fifoSize > 0 then
        match result with
        | none => (n, [])
        | some 0 => ({ n with tcpFinished := true }, [])
        | some (sentSize + 1) =>
            let taken := n.recvFifo.peekFifo (sentSize + 1)
            let rest := sendToSocket results
              { n with
                recvFifo := n.recvFifo.readFifo (sentSize + 1)
                sendAckNext := true }
            (rest.1, taken ++ rest.2)
      else (n, [])

def wantToRecvSize (n : NatEntry) : Nat :=
  if n.sendFifo.fifoSize < NAT_SEND_BUF_SIZE then
    min (NAT_SEND_BUF_SIZE - n.sendFifo.fifoSize) NAT_TMPBUF_SIZE
  else 0

/-- The loop of `NatTransactTcp` that fills the send FIFO from the socket,
with the bytes read.  The socket blocks when the results end. -/
def recvFromSocket : List RecvResult → NatEntry → NatEntry × List UInt8
  | [], n => (n, [])
  | result :: results, n =>
      if wantToRecvSize n = 0 then (n, [])
      else
        match result with
        | none => (n, [])
        | some [] =>
            ({ n with tcpFinished := true, tcpDisconnected := true }, [])
        | some (byte :: bytes) =>
            let read := (byte :: bytes).take (wantToRecvSize n)
            let rest := recvFromSocket results
              { n with sendFifo := n.sendFifo.writeFifo read }
            (rest.1, read ++ rest.2)

/-- What the socket did during one call of `NatTransactTcp`. -/
structure SocketResults where
  sends : List SendResult
  recvs : List RecvResult
  deriving DecidableEq

/-- The two ways in which `NatTransactTcp` times an entry out. -/
def timedOut (v : VirtualHost) (now : Nat) (n : NatEntry) : Bool :=
  (n.tcpStatus = .established &&
    addUINT64 n.tcpLastRecvAckTime VIRTUAL_TCP_SEND_TIMEOUT < now &&
    n.sendFifo.fifoSize ≠ 0 && n.tcpSendWindowSize ≠ 0) ||
  (addUINT64 n.lastCommTime v.natTcpTimeout < now || n.lastCommTime > now)

/-- The socket transfers of `NatTransactTcp` in state `NAT_TCP_ESTABLISHED`:
the entry, the bytes written to the socket and the bytes read from it. -/
def transactEstablished (now : Nat) (socket : SocketResults) (n : NatEntry) :
    NatEntry × List (Option UInt8) × List UInt8 :=
  let sent := sendToSocket socket.sends n
  let received := recvFromSocket socket.recvs sent.1
  let refreshed :=
    if n.sendFifo.fifoSize = 0 ∧ received.1.sendFifo.fifoSize ≠ 0 then
      { received.1 with tcpLastRecvAckTime := now }
    else received.1
  (refreshed, sent.2, received.2)

/-- What `NatTransactTcp` leaves: the entry and the bytes exchanged with the
socket. -/
structure Transacted where
  entry : NatEntry
  toSocket : List (Option UInt8) := []
  fromSocket : List UInt8 := []

/-- The end of `NatTransactTcp`. -/
def Transacted.checkTimeout (v : VirtualHost) (now : Nat)
    (transacted : Transacted) : Transacted :=
  if timedOut v now transacted.entry then
    { transacted with
      entry := { transacted.entry with tcpStatus := .sendReset } }
  else transacted

/-- The `switch` of `NatTransactTcp` on the state of the entry.  `connect` is
the outcome that the connection thread has reported, if it has ended. -/
def transactStatus (now : Nat) (connect : Option Bool) (socket : SocketResults)
    (n : NatEntry) : Transacted :=
  match n.tcpStatus with
  | .connecting =>
      match connect with
      | none => { entry := n }
      | some true => { entry := { n with tcpStatus := .connected } }
      | some false => { entry := { n with tcpStatus := .sendReset } }
  | .established =>
      let result := transactEstablished now socket n
      { entry := result.1, toSocket := result.2.1, fromSocket := result.2.2 }
  | .connected => { entry := n }
  | .sendReset => { entry := n }
  | .waitDisconnect => { entry := n }

/-- `NatTransactTcp`; nothing when the entry is deleted. -/
def natTransactTcp (v : VirtualHost) (now : Nat) (connect : Option Bool)
    (socket : SocketResults) (n : NatEntry) : Option Transacted :=
  if n.disconnectNow then none
  else some ((transactStatus now connect socket n).checkTimeout v now)

end NatTcp
end SoftEther
