import SoftEther.Cedar.NatTcp.Defs

/-!
# The transmission control block of an entry

The items of a `NAT_ENTRY` that decide what its two byte streams carry, and
what each function of the entry does to them.  All other items only schedule
transmissions.
-/

namespace SoftEther
namespace NatTcp

open Library

/-- The items that reception reads and writes. -/
structure RecvSide where
  recvSeqInit : Nat
  recvSeq : Nat
  windowSize : Nat
  window : Fifo (Option UInt8)
  parts : List IpPart
  recvFifo : Fifo (Option UInt8)

/-- The items of the send stream. -/
structure SendSide where
  sendSeqInit : Nat
  sendSeq : Nat
  sendFifo : Fifo UInt8

/-- The items of an entry that decide what its two streams carry. -/
structure Tcb where
  recv : RecvSide
  send : SendSide
  status : NatTcpStatus
  finished : Bool

/-- The transmission control block of an entry. -/
def NatEntry.tcb (n : NatEntry) : Tcb :=
  { recv :=
      { recvSeqInit := n.recvSeqInit
        recvSeq := n.recvSeq
        windowSize := n.tcpRecvWindowSize
        window := n.tcpRecvWindow.getD Fifo.newFifo
        parts := n.tcpRecvList.getD []
        recvFifo := n.recvFifo }
    send :=
      { sendSeqInit := n.sendSeqInit
        sendSeq := n.sendSeq
        sendFifo := n.sendFifo }
    status := n.tcpStatus
    finished := n.tcpFinished }

/-- The transmission control block of an explicit record.  Rewriting with this
equation compares no other item of the two records. -/
theorem tcb_mk
    (srcIp srcPort destIp destPort : UInt32)
    (lastCommTime : Nat)
    (disconnectNow : Bool)
    (sendFifo : Fifo UInt8)
    (recvFifo : Fifo (Option UInt8))
    (tcpStatus : NatTcpStatus)
    (tcpSendMaxSegmentSize lastSynAckSentTime synAckSentCount
      tcpSendWindowSize tcpSendCWnd tcpRecvWindowSize tcpSendTimeoutSpan
      tcpLastSentTime lastSentKeepAliveTime : Nat)
    (tcpRecvWindow : Option (Fifo (Option UInt8)))
    (tcpRecvList : Option (List IpPart))
    (sendAckNext : Bool)
    (tcpLastRecvAckTime sendSeqInit sendSeq recvSeqInit recvSeq
      finSentSeq : Nat)
    (currentSendingMission : Bool)
    (sendMissionSize : Nat)
    (retransmissionUsedFlag : Bool)
    (currentRTT calcRTTStartTime calcRTTStartValue : Nat)
    (tcpFinished tcpDisconnected tcpForceReset : Bool)
    (finSentTime finSentCount : Nat) :
    NatEntry.tcb
      { srcIp, srcPort, destIp, destPort, lastCommTime, disconnectNow, sendFifo,
        recvFifo, tcpStatus, tcpSendMaxSegmentSize, lastSynAckSentTime,
        synAckSentCount, tcpSendWindowSize, tcpSendCWnd, tcpRecvWindowSize,
        tcpSendTimeoutSpan, tcpLastSentTime, lastSentKeepAliveTime,
        tcpRecvWindow, tcpRecvList, sendAckNext, tcpLastRecvAckTime,
        sendSeqInit, sendSeq, recvSeqInit, recvSeq, finSentSeq,
        currentSendingMission, sendMissionSize, retransmissionUsedFlag,
        currentRTT, calcRTTStartTime, calcRTTStartValue, tcpFinished,
        tcpDisconnected, tcpForceReset, finSentTime, finSentCount } =
      { recv :=
          { recvSeqInit, recvSeq
            windowSize := tcpRecvWindowSize
            window := tcpRecvWindow.getD Fifo.newFifo
            parts := tcpRecvList.getD []
            recvFifo }
        send := { sendSeqInit, sendSeq, sendFifo }
        status := tcpStatus
        finished := tcpFinished } := rfl

@[simp] theorem tcb_recvSeqInit (n : NatEntry) :
    n.tcb.recv.recvSeqInit = n.recvSeqInit := rfl

@[simp] theorem tcb_recvSeq (n : NatEntry) :
    n.tcb.recv.recvSeq = n.recvSeq := rfl

@[simp] theorem tcb_windowSize (n : NatEntry) :
    n.tcb.recv.windowSize = n.tcpRecvWindowSize := rfl

@[simp] theorem tcb_window (n : NatEntry) :
    n.tcb.recv.window = n.window := rfl

@[simp] theorem tcb_parts (n : NatEntry) :
    n.tcb.recv.parts = n.parts := rfl

@[simp] theorem tcb_recvFifo (n : NatEntry) :
    n.tcb.recv.recvFifo = n.recvFifo := rfl

@[simp] theorem tcb_sendSeqInit (n : NatEntry) :
    n.tcb.send.sendSeqInit = n.sendSeqInit := rfl

@[simp] theorem tcb_sendSeq (n : NatEntry) :
    n.tcb.send.sendSeq = n.sendSeq := rfl

@[simp] theorem tcb_sendFifo (n : NatEntry) :
    n.tcb.send.sendFifo = n.sendFifo := rfl

@[simp] theorem tcb_status (n : NatEntry) :
    n.tcb.status = n.tcpStatus := rfl

@[simp] theorem tcb_finished (n : NatEntry) :
    n.tcb.finished = n.tcpFinished := rfl

/-! ## Reception -/

@[simp] theorem measureRTT_tcb
    (now position : Nat)
    (n : NatEntry) :
    (measureRTT now position n).tcb = n.tcb := by
  unfold measureRTT
  split
  · rw [tcb_mk]
    rfl
  · rfl

@[simp] theorem reduceMission_tcb
    (slideOffset : Nat)
    (n : NatEntry) :
    (reduceMission slideOffset n).tcb = n.tcb := by
  simp only [reduceMission]
  split
  · rw [tcb_mk]
    rfl
  · rw [tcb_mk]
    rfl

/-- The send stream after `slideOffset` of its bytes are acknowledged. -/
def SendSide.slide (side : SendSide) (slideOffset : Nat) : SendSide :=
  { side with
    sendSeq := addUINT64 side.sendSeq slideOffset
    sendFifo := side.sendFifo.readFifo slideOffset }

private theorem slid_tcb
    (slideOffset : Nat)
    (n : NatEntry) :
    NatEntry.tcb
      { n with
        sendSeq := addUINT64 n.sendSeq slideOffset
        sendFifo := n.sendFifo.readFifo slideOffset } =
      { n.tcb with send := n.tcb.send.slide slideOffset } := by
  rw [tcb_mk]
  rfl

theorem receiveAck_tcb
    (now ack : Nat)
    (n : NatEntry) :
    (receiveAck now ack n).tcb =
      match ackSlide n ack with
      | none => n.tcb
      | some slideOffset =>
          { n.tcb with send := n.tcb.send.slide slideOffset } := by
  unfold receiveAck
  cases ackSlide n ack with
  | none => rfl
  | some slideOffset =>
      have reduced :
          (reduceMission slideOffset
            (measureRTT now (ack64 n ack) n)).tcb = n.tcb := by
        rw [reduceMission_tcb, measureRTT_tcb]
      simp only
      rw [slid_tcb, reduced]

theorem storeData_tcb
    (offset : Nat)
    (data : List UInt8)
    (n : NatEntry) :
    (storeData offset data n).tcb =
      { n.tcb with recv := (storeData offset data n).tcb.recv } := by
  unfold storeData
  simp only [tcb_mk]
  rfl

theorem receiveData_tcb
    (seq : Nat)
    (data : List UInt8)
    (n : NatEntry) :
    (receiveData seq data n).tcb =
      match recvWindowOffset n seq data.length with
      | none => n.tcb
      | some offset =>
          { n.tcb with recv := (storeData offset data n).tcb.recv } := by
  unfold receiveData
  cases recvWindowOffset n seq data.length with
  | none => rfl
  | some offset => exact storeData_tcb offset data n

theorem recvWindowOffset_congr
    {left right : NatEntry}
    (same : left.tcb.recv = right.tcb.recv)
    (seq size : Nat) :
    recvWindowOffset left seq size = recvWindowOffset right seq size := by
  have sameInit : left.recvSeqInit = right.recvSeqInit :=
    congrArg RecvSide.recvSeqInit same
  have sameSeq : left.recvSeq = right.recvSeq :=
    congrArg RecvSide.recvSeq same
  have sameSize : left.tcpRecvWindowSize = right.tcpRecvWindowSize :=
    congrArg RecvSide.windowSize same
  unfold recvWindowOffset seq64
  rw [sameInit, sameSeq, sameSize]

/-- `TcpFinished` after a segment of an established entry. -/
def finishedBy (tcp : TcpHeader) (n : NatEntry) : Bool :=
  n.tcpFinished || tcp.has TCP_FIN

/-- The entry that the acknowledgment and the data of a segment meet: its FIN
and its window have been recorded. -/
def windowed (now : Nat) (tcp : TcpHeader) (n : NatEntry) : NatEntry :=
  { n with
    tcpLastRecvAckTime := now
    tcpFinished := finishedBy tcp n
    lastCommTime := now
    tcpSendWindowSize := scaledWindow tcp (parseTcpOption tcp.options) }

@[simp] theorem windowed_tcb
    (now : Nat)
    (tcp : TcpHeader)
    (n : NatEntry) :
    (windowed now tcp n).tcb = { n.tcb with finished := finishedBy tcp n } := by
  unfold windowed
  rw [tcb_mk]
  rfl

/-- The number of bytes by which a segment slides the send window. -/
def slideBy (now : Nat) (tcp : TcpHeader) (n : NatEntry) : Option Nat :=
  ackSlide (windowed now tcp n) tcp.ackNumber.toNat

/-- The entry that the data of a segment meets. -/
def acknowledged (now : Nat) (tcp : TcpHeader) (n : NatEntry) : NatEntry :=
  receiveAck now tcp.ackNumber.toNat (windowed now tcp n)

theorem acknowledged_tcb
    (now : Nat)
    (tcp : TcpHeader)
    (n : NatEntry) :
    (acknowledged now tcp n).tcb =
      { n.tcb with
        finished := finishedBy tcp n
        send :=
          match slideBy now tcp n with
          | none => n.tcb.send
          | some slideOffset => n.tcb.send.slide slideOffset } := by
  unfold acknowledged slideBy
  rw [receiveAck_tcb, windowed_tcb]
  cases ackSlide (windowed now tcp n) tcp.ackNumber.toNat with
  | none => rfl
  | some slideOffset => rfl

private theorem finish_tcb
    (now : Nat)
    (finished : Bool)
    (status : NatTcpStatus)
    (n : NatEntry) :
    NatEntry.tcb
      { n with
        tcpLastRecvAckTime := now
        tcpFinished := finished
        tcpStatus := status } =
      { n.tcb with finished, status } := rfl

/-- `TcpLastRecvAckTime` is recorded before the `switch`. -/
def NatEntry.touch (now : Nat) (n : NatEntry) : NatEntry :=
  { n with tcpLastRecvAckTime := now }

@[simp] theorem NatEntry.touch_tcb
    (now : Nat)
    (n : NatEntry) :
    (n.touch now).tcb = n.tcb := rfl

private theorem receiveEstablished_tcb
    (now : Nat)
    (tcp : TcpHeader)
    (data : List UInt8)
    (n : NatEntry) :
    (receiveEstablished now tcp data (n.touch now)).tcb =
      if tcp.has TCP_RST then
        { n.tcb with finished := finishedBy tcp n, status := .sendReset }
      else if tcp.has TCP_ACK then
        (receiveData tcp.seqNumber.toNat data (acknowledged now tcp n)).tcb
      else { n.tcb with finished := finishedBy tcp n } := by
  simp only [receiveEstablished, NatEntry.touch]
  cases fin : tcp.has TCP_FIN with
  | true =>
      have finished : finishedBy tcp n = true := by
        simp [finishedBy, fin]
      rw [if_pos rfl, finished]
      split
      · exact finish_tcb now true .sendReset n
      · split
        · simp only [acknowledged, windowed, finished]
        · exact finish_tcb now true n.tcpStatus n
  | false =>
      have finished : finishedBy tcp n = n.tcpFinished := by
        simp [finishedBy, fin]
      rw [if_neg Bool.false_ne_true, finished]
      split
      · exact finish_tcb now n.tcpFinished .sendReset n
      · split
        · simp only [acknowledged, windowed, finished]
        · exact finish_tcb now n.tcpFinished n.tcpStatus n

variable {n : NatEntry} {now : Nat}

theorem tcpRecvForInternet_established
    (now : Nat)
    (tcp : TcpHeader)
    (data : List UInt8)
    (status : n.tcpStatus = .established) :
    (tcpRecvForInternet now tcp data n).tcb =
      if tcp.has TCP_RST then
        { n.tcb with finished := finishedBy tcp n, status := .sendReset }
      else if tcp.has TCP_ACK then
        (receiveData tcp.seqNumber.toNat data (acknowledged now tcp n)).tcb
      else { n.tcb with finished := finishedBy tcp n } := by
  have branch :
      tcpRecvForInternet now tcp data n =
        receiveEstablished now tcp data (n.touch now) := by
    simp only [tcpRecvForInternet, NatEntry.touch, status]
  rw [branch, receiveEstablished_tcb]

private theorem handshake_tcb
    (now : Nat)
    (n : NatEntry) :
    NatEntry.tcb
      { n with
        tcpLastRecvAckTime := now
        sendSeq := addUINT64 n.sendSeq 1
        tcpStatus := .established
        tcpSendCWnd := 1
        lastCommTime := now } =
      { n.tcb with
        status := .established
        send := { n.tcb.send with sendSeq := addUINT64 n.sendSeq 1 } } := by
  rw [tcb_mk]
  rfl

/-- What a segment does to an entry that waits for the end of the
handshake. -/
theorem tcpRecvForInternet_connected
    (now : Nat)
    (tcp : TcpHeader)
    (data : List UInt8)
    (status : n.tcpStatus = .connected) :
    (tcpRecvForInternet now tcp data n).tcb = n.tcb ∨
    (tcpRecvForInternet now tcp data n).tcb =
      { n.tcb with status := .sendReset } ∨
    (tcpRecvForInternet now tcp data n).tcb =
      { n.tcb with
        status := .established
        send := { n.tcb.send with sendSeq := addUINT64 n.sendSeq 1 } } := by
  have branch :
      tcpRecvForInternet now tcp data n =
        receiveConnected now tcp (n.touch now) := by
    simp only [tcpRecvForInternet, NatEntry.touch, status]
  rw [branch]
  generalize received : receiveConnected now tcp (n.touch now) = after
  unfold receiveConnected at received
  split at received
  · split at received
    · rw [← received]
      exact .inr (.inr (handshake_tcb now n))
    · rw [← received]
      exact .inr (.inl rfl)
  · split at received
    · rw [← received]
      exact .inr (.inl rfl)
    · rw [← received]
      exact .inl rfl

theorem tcpRecvForInternet_other
    (now : Nat)
    (tcp : TcpHeader)
    (data : List UInt8)
    (notConnected : n.tcpStatus ≠ .connected)
    (notEstablished : n.tcpStatus ≠ .established) :
    (tcpRecvForInternet now tcp data n).tcb = n.tcb := by
  cases status : n.tcpStatus with
  | connecting =>
      simp only [tcpRecvForInternet, status]
      rw [← status]
      rfl
  | sendReset =>
      have branch :
          tcpRecvForInternet now tcp data n =
            receiveSendReset tcp (n.touch now) := by
        simp only [tcpRecvForInternet, NatEntry.touch, status]
      rw [branch]
      unfold receiveSendReset
      split <;> rfl
  | connected => exact absurd status notConnected
  | established => exact absurd status notEstablished
  | waitDisconnect =>
      simp only [tcpRecvForInternet, status]
      rw [← status]
      rfl

/-- The offset of the receive window at which a segment of `size` bytes is
stored, if it is. -/
def acceptedOffset (n : NatEntry) (tcp : TcpHeader) (size : Nat) : Option Nat :=
  if n.tcpStatus = .established ∧ tcp.has TCP_RST = false ∧ tcp.has TCP_ACK then
    recvWindowOffset n tcp.seqNumber.toNat size
  else none

/-- The receiving side after a segment whose payload is stored at an offset or
ignored. -/
def recvAfter (now : Nat) (tcp : TcpHeader) (data : List UInt8)
    (n : NatEntry) : Option Nat → RecvSide
  | none => n.tcb.recv
  | some offset => (storeData offset data (acknowledged now tcp n)).tcb.recv

/-- A segment leaves the receiving side alone or stores its payload there. -/
theorem tcpRecvForInternet_recv
    (now : Nat)
    (tcp : TcpHeader)
    (data : List UInt8)
    (n : NatEntry) :
    (tcpRecvForInternet now tcp data n).tcb.recv =
      recvAfter now tcp data n (acceptedOffset n tcp data.length) := by
  unfold recvAfter
  by_cases status : n.tcpStatus = .established
  · rw [tcpRecvForInternet_established now tcp data status]
    unfold acceptedOffset
    cases reset : tcp.has TCP_RST with
    | true => simp
    | false =>
        cases acknowledges : tcp.has TCP_ACK with
        | false => simp
        | true =>
            have same : (acknowledged now tcp n).tcb.recv = n.tcb.recv := by
              rw [acknowledged_tcb]
            simp only [status, and_self, if_true, if_false,
              Bool.false_eq_true, receiveData_tcb]
            rw [recvWindowOffset_congr same]
            cases recvWindowOffset n tcp.seqNumber.toNat data.length with
            | none => exact same
            | some offset => rfl
  · have ignored : acceptedOffset n tcp data.length = none := by
      simp [acceptedOffset, status]
    rw [ignored]
    by_cases connected : n.tcpStatus = .connected
    · obtain unchanged | reset | shaken :=
        tcpRecvForInternet_connected now tcp data connected
      · rw [unchanged]
      · rw [reset]
      · rw [shaken]
    · rw [tcpRecvForInternet_other now tcp data connected status]

theorem tcpRecvForInternet_finished
    (now : Nat)
    (tcp : TcpHeader)
    (data : List UInt8)
    (n : NatEntry)
    (finished : (tcpRecvForInternet now tcp data n).tcpFinished) :
    n.tcpFinished ∨ n.tcpStatus = .established ∧ tcp.has TCP_FIN := by
  by_cases status : n.tcpStatus = .established
  · have raised : finishedBy tcp n = true := by
      rw [← tcb_finished, tcpRecvForInternet_established now tcp data status]
        at finished
      split at finished
      · exact finished
      · split at finished
        · rw [receiveData_tcb] at finished
          have same := acknowledged_tcb now tcp n
          cases stored : recvWindowOffset (acknowledged now tcp n)
              tcp.seqNumber.toNat data.length with
          | none =>
              rw [stored, same] at finished
              exact finished
          | some offset =>
              rw [stored, same] at finished
              exact finished
        · exact finished
    unfold finishedBy at raised
    exact (Bool.or_eq_true_iff.mp raised).imp id fun fin => ⟨status, fin⟩
  · left
    by_cases connected : n.tcpStatus = .connected
    · obtain same | same | same :=
        tcpRecvForInternet_connected now tcp data connected
      all_goals
        rw [← tcb_finished, same] at finished
        exact finished
    · rw [← tcb_finished,
        tcpRecvForInternet_other now tcp data connected status] at finished
      exact finished

theorem tcpRecvForInternet_stays
    {tcp : TcpHeader}
    {data : List UInt8}
    (status : n.tcpStatus = .established)
    (noReset : tcp.has TCP_RST = false) :
    (tcpRecvForInternet now tcp data n).tcpStatus = .established := by
  rw [← tcb_status, tcpRecvForInternet_established now tcp data status, noReset,
    if_neg Bool.false_ne_true]
  split
  · rw [receiveData_tcb]
    cases recvWindowOffset (acknowledged now tcp n) tcp.seqNumber.toNat
        data.length with
    | none =>
        simp only [acknowledged_tcb]
        exact status
    | some offset =>
        simp only [acknowledged_tcb]
        exact status
  · exact status

theorem tcpRecvForInternet_send
    (now : Nat)
    (tcp : TcpHeader)
    (data : List UInt8)
    (n : NatEntry) :
    ((tcpRecvForInternet now tcp data n).tcb.send = n.tcb.send ∧
      ((tcpRecvForInternet now tcp data n).tcpStatus = n.tcpStatus ∨
        (tcpRecvForInternet now tcp data n).tcpStatus = .sendReset)) ∨
    (n.tcpStatus = .connected ∧
      (tcpRecvForInternet now tcp data n).tcpStatus = .established ∧
      (tcpRecvForInternet now tcp data n).tcb.send =
        { n.tcb.send with sendSeq := addUINT64 n.sendSeq 1 }) ∨
    (n.tcpStatus = .established ∧ tcp.has TCP_ACK ∧
      (tcpRecvForInternet now tcp data n).tcpStatus = .established ∧
      ∃ slideOffset, slideBy now tcp n = some slideOffset ∧
        (tcpRecvForInternet now tcp data n).tcb.send =
          n.tcb.send.slide slideOffset) := by
  by_cases status : n.tcpStatus = .established
  · rw [← tcb_status (tcpRecvForInternet now tcp data n),
      tcpRecvForInternet_established now tcp data status]
    split
    · exact .inl ⟨rfl, .inr rfl⟩
    · split
      · rename_i acknowledges
        have send :
            (receiveData tcp.seqNumber.toNat data
              (acknowledged now tcp n)).tcb.send =
                (acknowledged now tcp n).tcb.send := by
          rw [receiveData_tcb]
          split <;> rfl
        have stays :
            (receiveData tcp.seqNumber.toNat data
              (acknowledged now tcp n)).tcb.status = n.tcpStatus := by
          rw [receiveData_tcb]
          split <;> rw [acknowledged_tcb] <;> rfl
        rw [send, stays, acknowledged_tcb]
        cases slid : slideBy now tcp n with
        | none => exact .inl ⟨rfl, .inl rfl⟩
        | some slideOffset =>
            exact .inr (.inr ⟨status, acknowledges, status, slideOffset, rfl, rfl⟩)
      · exact .inl ⟨rfl, .inl rfl⟩
  · rw [← tcb_status (tcpRecvForInternet now tcp data n)]
    by_cases connected : n.tcpStatus = .connected
    · obtain same | same | same :=
        tcpRecvForInternet_connected now tcp data connected
      · rw [same]
        exact .inl ⟨rfl, .inl rfl⟩
      · rw [same]
        exact .inl ⟨rfl, .inr rfl⟩
      · rw [same]
        exact .inr (.inl ⟨connected, rfl, rfl⟩)
    · rw [tcpRecvForInternet_other now tcp data connected status]
      exact .inl ⟨rfl, .inl rfl⟩

/-! ## Polls -/

@[simp] theorem pollKeepAlive_tcb
    (now : Nat)
    (n : NatEntry) :
    (pollKeepAlive now n).1.tcb = n.tcb := by
  simp only [pollKeepAlive]
  split <;> rfl

private theorem mission_tcb
    (now size cwnd startTime startValue : Nat)
    (used sendAckNext : Bool)
    (n : NatEntry) :
    NatEntry.tcb
      { n with
        calcRTTStartTime := startTime
        calcRTTStartValue := startValue
        tcpLastSentTime := now
        sendMissionSize := size
        currentSendingMission := true
        retransmissionUsedFlag := used
        tcpSendCWnd := cwnd
        sendAckNext } = n.tcb := rfl

@[simp] theorem recordBurst_tcb
    (now size : Nat)
    (n : NatEntry) :
    (recordBurst now size n).tcb = n.tcb := by
  simp only [recordBurst]
  split
  · split
    · exact mission_tcb now size n.tcpSendCWnd _ _ true n.sendAckNext n
    · split
      · exact mission_tcb now size _ _ _ n.retransmissionUsedFlag n.sendAckNext n
      · exact mission_tcb now size n.tcpSendCWnd _ _ n.retransmissionUsedFlag
          n.sendAckNext n
  · split
    · exact mission_tcb now size n.tcpSendCWnd _ _ true n.sendAckNext n
    · split
      · exact mission_tcb now size _ _ _ n.retransmissionUsedFlag n.sendAckNext n
      · exact mission_tcb now size n.tcpSendCWnd _ _ n.retransmissionUsedFlag
          n.sendAckNext n

private theorem sendAckNext_tcb (n : NatEntry) :
    NatEntry.tcb { n with sendAckNext := false } = n.tcb := rfl

@[simp] theorem pollTransmit_tcb
    (now : Nat)
    (n : NatEntry) :
    (pollTransmit now n).1.tcb = n.tcb := by
  simp only [pollTransmit]
  split
  · split
    · rw [sendAckNext_tcb, recordBurst_tcb]
    · split <;> rfl
  · rfl

theorem pollFinish_tcb (n : NatEntry) :
    (pollFinish n).tcb =
      if n.tcpFinished ∧ n.sendFifo.fifoSize = 0 ∧ n.recvFifo.fifoSize = 0 then
        { n.tcb with status := .sendReset }
      else n.tcb := by
  unfold pollFinish
  split <;> rfl

theorem pollingNatTcp_established
    (v : VirtualHost)
    (now : Nat)
    (status : n.tcpStatus = .established) :
    (pollingNatTcp v now n).1.tcb =
      if n.tcpFinished ∧ n.sendFifo.fifoSize = 0 ∧ n.recvFifo.fifoSize = 0 then
        { n.tcb with status := .sendReset }
      else n.tcb := by
  have branch : (pollingNatTcp v now n).1 =
      pollFinish (pollTransmit now (pollKeepAlive now n).1).1 := by
    simp only [pollingNatTcp, status, pollEstablished]
  have same : (pollTransmit now (pollKeepAlive now n).1).1.tcb = n.tcb := by
    rw [pollTransmit_tcb, pollKeepAlive_tcb]
  have finished := congrArg Tcb.finished same
  have sendFifo := congrArg (fun tcb => tcb.send.sendFifo) same
  have recvFifo := congrArg (fun tcb => tcb.recv.recvFifo) same
  simp only [tcb_finished, tcb_sendFifo, tcb_recvFifo] at finished sendFifo recvFifo
  rw [branch, pollFinish_tcb, same, finished, sendFifo, recvFifo]

private theorem synAck_tcb
    (now count : Nat)
    (n : NatEntry) :
    NatEntry.tcb
      { n with
        lastSynAckSentTime := now
        synAckSentCount := count } = n.tcb := rfl

private theorem finSent_tcb
    (now seq count : Nat)
    (finished : Bool)
    (n : NatEntry) :
    NatEntry.tcb
      { n with
        finSentTime := now
        finSentSeq := seq
        finSentCount := count
        tcpFinished := finished } = { n.tcb with finished } := rfl

theorem pollingNatTcp_other
    (v : VirtualHost)
    (now : Nat)
    (notEstablished : n.tcpStatus ≠ .established) :
    (pollingNatTcp v now n).1.tcb = n.tcb ∨
    n.tcpStatus = .sendReset ∧
      ((pollingNatTcp v now n).1.tcb =
          { n.tcb with status := .waitDisconnect } ∨
        ∃ finished : Bool,
          (finished → n.tcpFinished) ∧
          (pollingNatTcp v now n).1.tcb = { n.tcb with finished }) := by
  cases status : n.tcpStatus with
  | connecting =>
      left
      simp only [pollingNatTcp, status]
  | connected =>
      left
      have branch : pollingNatTcp v now n = pollConnected v now n := by
        simp only [pollingNatTcp, status]
      rw [branch]
      unfold pollConnected
      split
      · exact synAck_tcb now _ n
      · rfl
  | sendReset =>
      right
      have branch : pollingNatTcp v now n = pollSendReset now n := by
        simp only [pollingNatTcp, status]
      rw [branch]
      refine ⟨rfl, ?_⟩
      simp only [pollSendReset]
      split
      · exact .inl rfl
      · split
        · exact .inr ⟨_, fun raised => (Bool.and_eq_true_iff.mp raised).1,
            finSent_tcb now _ _ _ n⟩
        · exact .inr ⟨n.tcpFinished, id, rfl⟩
  | established => exact absurd status notEstablished
  | waitDisconnect =>
      left
      simp only [pollingNatTcp, status]

@[simp] theorem pollingNatTcp_recv
    (v : VirtualHost)
    (now : Nat)
    (n : NatEntry) :
    (pollingNatTcp v now n).1.tcb.recv = n.tcb.recv := by
  by_cases status : n.tcpStatus = .established
  · rw [pollingNatTcp_established v now status]
    split <;> rfl
  · obtain same | ⟨_, same | ⟨_, _, same⟩⟩ := pollingNatTcp_other v now status
    all_goals rw [same]

@[simp] theorem pollingNatTcp_send
    (v : VirtualHost)
    (now : Nat)
    (n : NatEntry) :
    (pollingNatTcp v now n).1.tcb.send = n.tcb.send := by
  by_cases status : n.tcpStatus = .established
  · rw [pollingNatTcp_established v now status]
    split <;> rfl
  · obtain same | ⟨_, same | ⟨_, _, same⟩⟩ := pollingNatTcp_other v now status
    all_goals rw [same]

/-! ## Socket transfers -/

theorem sendToSocket_tcb
    (results : List SendResult)
    (n : NatEntry) :
    (sendToSocket results n).2 ++ (sendToSocket results n).1.recvFifo.contents =
        n.recvFifo.contents ∧
      ∃ finished : Bool,
        (n.tcpFinished → finished) ∧
        (sendToSocket results n).1.tcb =
          { n.tcb with
            recv := { n.tcb.recv with
              recvFifo := (sendToSocket results n).1.recvFifo }
            finished } := by
  induction results generalizing n with
  | nil => exact ⟨rfl, n.tcpFinished, id, rfl⟩
  | cons result results inductionHypothesis =>
      simp only [sendToSocket]
      split
      · match result with
        | none => exact ⟨rfl, n.tcpFinished, id, rfl⟩
        | some 0 => exact ⟨rfl, true, fun _ => rfl, rfl⟩
        | some (sentSize + 1) =>
            obtain ⟨contents, finished, raised, same⟩ := inductionHypothesis
              { n with
                recvFifo := n.recvFifo.readFifo (sentSize + 1)
                sendAckNext := true }
            refine ⟨?_, finished, raised, same⟩
            rw [List.append_assoc, contents]
            exact Fifo.peekFifo_append_readFifo n.recvFifo (sentSize + 1)
      · exact ⟨rfl, n.tcpFinished, id, rfl⟩

private theorem unread_tcb
    (finished : Bool)
    (n : NatEntry) :
    { n.tcb with
      send := { n.tcb.send with sendFifo := n.sendFifo.writeFifo [] }
      finished } = { n.tcb with finished } := by
  simp only [Fifo.writeFifo, List.append_nil]
  rfl

theorem recvFromSocket_tcb
    (results : List RecvResult)
    (n : NatEntry) :
    ∃ finished : Bool,
      (n.tcpFinished → finished) ∧
      (recvFromSocket results n).1.tcb =
        { n.tcb with
          send := { n.tcb.send with
            sendFifo := n.sendFifo.writeFifo (recvFromSocket results n).2 }
          finished } := by
  induction results generalizing n with
  | nil => exact ⟨n.tcpFinished, id, (unread_tcb n.tcpFinished n).symm⟩
  | cons result results inductionHypothesis =>
      simp only [recvFromSocket]
      split
      · exact ⟨n.tcpFinished, id, (unread_tcb n.tcpFinished n).symm⟩
      · match result with
        | none => exact ⟨n.tcpFinished, id, (unread_tcb n.tcpFinished n).symm⟩
        | some [] => exact ⟨true, fun _ => rfl, (unread_tcb true n).symm⟩
        | some (byte :: bytes) =>
            dsimp only
            generalize (byte :: bytes).take (wantToRecvSize n) = read
            obtain ⟨finished, raised, same⟩ := inductionHypothesis
              { n with sendFifo := n.sendFifo.writeFifo read }
            refine ⟨finished, raised, ?_⟩
            rw [same]
            simp only [Fifo.writeFifo, List.append_assoc, NatEntry.tcb]

theorem transactEstablished_tcb
    (now : Nat)
    (socket : SocketResults)
    (n : NatEntry) :
    (transactEstablished now socket n).2.1 ++
        (transactEstablished now socket n).1.recvFifo.contents =
        n.recvFifo.contents ∧
      ∃ finished : Bool,
        (n.tcpFinished → finished) ∧
        (transactEstablished now socket n).1.tcb =
          { n.tcb with
            recv := { n.tcb.recv with
              recvFifo := (transactEstablished now socket n).1.recvFifo }
            send := { n.tcb.send with
              sendFifo :=
                n.sendFifo.writeFifo (transactEstablished now socket n).2.2 }
            finished } := by
  obtain ⟨contents, finishedBySend, sendRaised, afterSend⟩ :=
    sendToSocket_tcb socket.sends n
  obtain ⟨finished, recvRaised, afterRecv⟩ :=
    recvFromSocket_tcb socket.recvs (sendToSocket socket.sends n).1
  have same :
      (transactEstablished now socket n).1.tcb =
        (recvFromSocket socket.recvs (sendToSocket socket.sends n).1).1.tcb := by
    simp only [transactEstablished]
    split <;> rfl
  have sentFinished :
      (sendToSocket socket.sends n).1.tcpFinished = finishedBySend :=
    congrArg Tcb.finished afterSend
  have sentFifo : (sendToSocket socket.sends n).1.sendFifo = n.sendFifo :=
    congrArg (fun tcb => tcb.send.sendFifo) afterSend
  have recvFifo :
      (transactEstablished now socket n).1.recvFifo =
        (sendToSocket socket.sends n).1.recvFifo := by
    have fifo := congrArg (fun tcb => tcb.recv.recvFifo) (same.trans afterRecv)
    exact fifo
  refine ⟨?_, finished, ?_, ?_⟩
  · rw [recvFifo]
    exact contents
  · intro before
    apply recvRaised
    rw [sentFinished]
    exact sendRaised before
  · rw [same, afterRecv, recvFifo, sentFifo, afterSend]
    rfl

theorem checkTimeout_tcb
    (v : VirtualHost)
    (now : Nat)
    (transacted : Transacted) :
    (transacted.checkTimeout v now).toSocket = transacted.toSocket ∧
      (transacted.checkTimeout v now).fromSocket = transacted.fromSocket ∧
      (transacted.checkTimeout v now).entry.tcb =
        if timedOut v now transacted.entry then
          { transacted.entry.tcb with status := .sendReset }
        else transacted.entry.tcb := by
  unfold Transacted.checkTimeout
  split <;> exact ⟨rfl, rfl, rfl⟩

/-- The entry that a call of `NatTransactTcp` checks for timeouts has timed
out. -/
def timesOut (v : VirtualHost) (now : Nat) (connect : Option Bool)
    (socket : SocketResults) (n : NatEntry) : Bool :=
  timedOut v now (transactStatus now connect socket n).entry

theorem natTransactTcp_established
    {v : VirtualHost}
    {connect : Option Bool}
    {socket : SocketResults}
    {transacted : Transacted}
    (ran : natTransactTcp v now connect socket n = some transacted)
    (status : n.tcpStatus = .established) :
    transacted.toSocket ++ transacted.entry.recvFifo.contents =
        n.recvFifo.contents ∧
      ∃ finished : Bool,
        (n.tcpFinished → finished) ∧
        transacted.entry.tcb =
          { recv := { n.tcb.recv with recvFifo := transacted.entry.recvFifo }
            send := { n.tcb.send with
              sendFifo := n.sendFifo.writeFifo transacted.fromSocket }
            status :=
              if timesOut v now connect socket n then .sendReset
              else .established
            finished } := by
  unfold natTransactTcp at ran
  split at ran
  · cases ran
  · rw [Option.some.injEq] at ran
    subst ran
    have branch :
        transactStatus now connect socket n =
          { entry := (transactEstablished now socket n).1
            toSocket := (transactEstablished now socket n).2.1
            fromSocket := (transactEstablished now socket n).2.2 } := by
      simp only [transactStatus, status]
    obtain ⟨contents, finished, raised, same⟩ :=
      transactEstablished_tcb now socket n
    obtain ⟨toSocket, fromSocket, checked⟩ :=
      checkTimeout_tcb v now (transactStatus now connect socket n)
    have recvFifo :
        ((transactStatus now connect socket n).checkTimeout v now).entry.recvFifo =
          (transactEstablished now socket n).1.recvFifo := by
      have fifo := congrArg (fun tcb => tcb.recv.recvFifo) checked
      simp only [tcb_recvFifo] at fifo
      rw [fifo, branch]
      split <;> rfl
    refine ⟨?_, finished, raised, ?_⟩
    · rw [toSocket, recvFifo, branch]
      exact contents
    · rw [checked, recvFifo, fromSocket, timesOut, branch]
      simp only [same]
      split <;> simp only [tcb_status, status]

private theorem transactStatus_other
    (now : Nat)
    (connect : Option Bool)
    (socket : SocketResults)
    (notEstablished : n.tcpStatus ≠ .established) :
    ∃ status : NatTcpStatus,
      (status = n.tcpStatus ∨ status = .sendReset ∨
        n.tcpStatus = .connecting ∧ status = .connected) ∧
      transactStatus now connect socket n =
        { entry := { n with tcpStatus := status } } := by
  cases status : n.tcpStatus with
  | connecting =>
      match connect with
      | none =>
          have same :
              transactStatus now none socket n = { entry := n } := by
            simp only [transactStatus, status]
          exact ⟨n.tcpStatus, .inl status, same⟩
      | some true =>
          refine ⟨.connected, .inr (.inr ⟨rfl, rfl⟩), ?_⟩
          simp only [transactStatus, status]
      | some false =>
          refine ⟨.sendReset, .inr (.inl rfl), ?_⟩
          simp only [transactStatus, status]
  | connected =>
      have same : transactStatus now connect socket n = { entry := n } := by
        simp only [transactStatus, status]
      exact ⟨n.tcpStatus, .inl status, same⟩
  | sendReset =>
      have same : transactStatus now connect socket n = { entry := n } := by
        simp only [transactStatus, status]
      exact ⟨n.tcpStatus, .inl status, same⟩
  | established => exact absurd status notEstablished
  | waitDisconnect =>
      have same : transactStatus now connect socket n = { entry := n } := by
        simp only [transactStatus, status]
      exact ⟨n.tcpStatus, .inl status, same⟩

theorem natTransactTcp_other
    {v : VirtualHost}
    {connect : Option Bool}
    {socket : SocketResults}
    {transacted : Transacted}
    (ran : natTransactTcp v now connect socket n = some transacted)
    (notEstablished : n.tcpStatus ≠ .established) :
    transacted.toSocket = [] ∧ transacted.fromSocket = [] ∧
      ∃ status : NatTcpStatus,
        (status = n.tcpStatus ∨ status = .sendReset ∨
          n.tcpStatus = .connecting ∧ status = .connected) ∧
        transacted.entry.tcb = { n.tcb with status } := by
  unfold natTransactTcp at ran
  split at ran
  · cases ran
  · rw [Option.some.injEq] at ran
    subst ran
    obtain ⟨toSocket, fromSocket, checked⟩ :=
      checkTimeout_tcb v now (transactStatus now connect socket n)
    obtain ⟨status, moved, branch⟩ :=
      transactStatus_other now connect socket notEstablished
    rw [branch] at toSocket fromSocket checked ⊢
    refine ⟨toSocket, fromSocket, ?_⟩
    rw [checked]
    split
    · exact ⟨.sendReset, .inr (.inl rfl), rfl⟩
    · exact ⟨status, moved, rfl⟩

end NatTcp
end SoftEther
