import SoftEther.Cedar.NatTcp.Session

/-!
# The stream sent to the client

`SendFifo` holds what the socket has delivered and the client has not
acknowledged; polls transmit slices of its front.  An acknowledgment is checked
against the window and against the size of the FIFO, not against what has been
transmitted.  As long as no acknowledgment runs ahead of the transmissions,
only bytes that have been transmitted leave the FIFO.
-/

namespace SoftEther
namespace NatTcp

open Library

/-! ## What a poll sends -/

/-- A segment carries the bytes of the send FIFO at `pointer`, under the
sequence number of that place. -/
def SentAt (n : NatEntry) (tcp : SentTcp) (pointer : Nat) : Prop :=
  pointer < X32 ∧
    tcp.seq = (n.sendSeqInit + n.sendSeq + pointer) % X32 ∧
    ∀ (index : Nat) (byte : UInt8), tcp.data[index]? = some byte →
      n.sendFifo.contents[pointer + index]? = some byte

variable {n : NatEntry} {tcp : SentTcp} {now : Nat} {v : VirtualHost} {session after : Session}

theorem sendTcp_eq_some
    {seq ack windowSize mss : Nat}
    {flag : UInt8}
    {data : List UInt8}
    (sent : sendTcp n seq ack flag windowSize mss data = some tcp) :
    tcp.seq = seq % X32 ∧ tcp.data = data := by
  unfold sendTcp at sent
  dsimp only at sent
  generalize (if mss ≠ 0 then TCP_HEADER_SIZE + 8 else TCP_HEADER_SIZE) =
    headerSize at sent
  split at sent
  · cases sent
  · rw [Option.some.injEq] at sent
    subst sent
    exact ⟨rfl, rfl⟩

theorem sentAt_of_empty
    {seq ack windowSize mss : Nat}
    {flag : UInt8}
    (front : seq % X32 = (n.sendSeqInit + n.sendSeq) % X32)
    (sent : tcp ∈ (sendTcp n seq ack flag windowSize mss []).toList) :
    SentAt n tcp 0 := by
  rw [Option.mem_toList] at sent
  obtain ⟨same, empty⟩ := sendTcp_eq_some sent
  refine ⟨by decide, by rw [same, front]; rfl, ?_⟩
  intro index byte present
  rw [empty] at present
  cases present

/-- The number of `SendSeq` on the wire. -/
theorem addUINT64_mod_X32 (left right : Nat) :
    addUINT64 left right % X32 = (left + right) % X32 := by
  unfold addUINT64 X32 X64
  omega

theorem mem_burstSegments
    {fuel pointer remaining : Nat}
    {segment : Nat × List UInt8}
    (present : segment ∈ burstSegments n fuel pointer remaining) :
    segment.1 < pointer + remaining ∧
      ∃ size, segment.2 = (n.sendFifo.contents.drop segment.1).take size := by
  induction fuel generalizing pointer remaining with
  | zero => cases present
  | succ fuel inductionHypothesis =>
      simp only [burstSegments] at present
      split at present
      · cases present
      · rename_i nonempty
        obtain rfl | later := List.mem_cons.mp present
        · exact ⟨by dsimp only; omega, _, rfl⟩
        · obtain ⟨inside, slice⟩ := inductionHypothesis later
          refine ⟨?_, slice⟩
          omega

theorem sentAt_of_burst
    {segment : Nat × List UInt8}
    (small : n.sendFifo.fifoSize < X32)
    (present : segment ∈ burstSegments n (burstSize n) 0 (burstSize n))
    (sent : sendBurstSegment n segment = some tcp) :
    SentAt n tcp segment.1 := by
  obtain ⟨inside, size, slice⟩ := mem_burstSegments present
  have bounded : burstSize n ≤ n.sendFifo.fifoSize := Nat.min_le_right _ _
  obtain ⟨seq, data⟩ := sendTcp_eq_some sent
  refine ⟨by omega, ?_, ?_⟩
  · rw [seq, addUINT64_mod_X32, Nat.add_mod, addUINT64_mod_X32, ← Nat.add_mod]
  · intro index byte read
    rw [data, slice, List.getElem?_take] at read
    split at read
    · rwa [List.getElem?_drop] at read
    · cases read

theorem pollTransmit_sentAt
    (small : n.sendFifo.fifoSize < X32)
    (sent : tcp ∈ (pollTransmit now n).2) :
    ∃ pointer, SentAt n tcp pointer := by
  simp only [pollTransmit] at sent
  split at sent
  · split at sent
    · obtain ⟨segment, present, made⟩ := List.mem_filterMap.mp sent
      exact ⟨segment.1, sentAt_of_burst small present made⟩
    · split at sent
      · dsimp only at sent
        exact ⟨0, sentAt_of_empty (addUINT64_mod_X32 _ _) sent⟩
      · cases sent
  · cases sent

theorem pollKeepAlive_sentAt
    (sent : tcp ∈ (pollKeepAlive now n).2) :
    SentAt n tcp 0 := by
  simp only [pollKeepAlive] at sent
  split at sent
  · split at sent
    · dsimp only at sent
      exact sentAt_of_empty (addUINT64_mod_X32 _ _) sent
    · cases sent
  · cases sent

/-- The place of a segment depends on the send stream alone. -/
theorem SentAt.congr
    {left right : NatEntry}
    {pointer : Nat}
    (sent : SentAt left tcp pointer)
    (same : left.tcb.send = right.tcb.send) :
    SentAt right tcp pointer := by
  have sameInit : left.sendSeqInit = right.sendSeqInit :=
    congrArg SendSide.sendSeqInit same
  have sameSeq : left.sendSeq = right.sendSeq :=
    congrArg SendSide.sendSeq same
  have sameFifo : left.sendFifo = right.sendFifo :=
    congrArg SendSide.sendFifo same
  unfold SentAt at sent ⊢
  rwa [sameInit, sameSeq, sameFifo] at sent

theorem pollingNatTcp_sentAt
    (small : n.sendFifo.fifoSize < X32)
    (sent : tcp ∈ (pollingNatTcp v now n).2) :
    ∃ pointer, SentAt n tcp pointer := by
  unfold pollingNatTcp at sent
  cases status : n.tcpStatus with
  | connecting =>
      rw [status] at sent
      cases sent
  | connected =>
      rw [status] at sent
      simp only [pollConnected] at sent
      split at sent
      · dsimp only at sent
        exact ⟨0, sentAt_of_empty (addUINT64_mod_X32 _ _) sent⟩
      · cases sent
  | sendReset =>
      rw [status] at sent
      simp only [pollSendReset] at sent
      have front : addUINT64 n.sendSeq n.sendSeqInit % X32 =
          (n.sendSeqInit + n.sendSeq) % X32 := by
        rw [addUINT64_mod_X32, Nat.add_comm]
      split at sent
      · dsimp only at sent
        exact ⟨0, sentAt_of_empty front sent⟩
      · split at sent
        · dsimp only at sent
          exact ⟨0, sentAt_of_empty front sent⟩
        · cases sent
  | established =>
      rw [status] at sent
      simp only [pollEstablished, List.mem_append] at sent
      obtain kept | transmitted := sent
      · exact ⟨0, pollKeepAlive_sentAt kept⟩
      · have same : (pollKeepAlive now n).1.tcb.send = n.tcb.send := by
          rw [pollKeepAlive_tcb]
        have sameFifo : (pollKeepAlive now n).1.sendFifo = n.sendFifo :=
          congrArg SendSide.sendFifo same
        obtain ⟨pointer, place⟩ :=
          pollTransmit_sentAt (by rw [sameFifo]; exact small) transmitted
        exact ⟨pointer, place.congr same⟩
  | waitDisconnect =>
      rw [status] at sent
      cases sent

theorem recvFromSocket_size
    (results : List RecvResult)
    (bounded : n.sendFifo.fifoSize ≤ NAT_SEND_BUF_SIZE) :
    n.sendFifo.fifoSize + (recvFromSocket results n).2.length ≤
      NAT_SEND_BUF_SIZE := by
  induction results generalizing n with
  | nil => exact bounded
  | cons result results inductionHypothesis =>
      simp only [recvFromSocket]
      split
      · exact bounded
      · cases result with
        | none => exact bounded
        | some received =>
            cases received with
            | nil => exact bounded
            | cons byte bytes =>
                dsimp only
                have readSize :
                    ((byte :: bytes).take (wantToRecvSize n)).length ≤
                      wantToRecvSize n :=
                  List.length_take_le _ _
                have wanted :
                    n.sendFifo.fifoSize + wantToRecvSize n ≤ NAT_SEND_BUF_SIZE := by
                  unfold wantToRecvSize
                  split <;> omega
                generalize (byte :: bytes).take (wantToRecvSize n) = read at *
                have grown :
                    (n.sendFifo.writeFifo read).fifoSize =
                      n.sendFifo.fifoSize + read.length :=
                  List.length_append
                have rest := @inductionHypothesis
                  { n with sendFifo := n.sendFifo.writeFifo read }
                  (by dsimp only; omega)
                dsimp only at rest
                rw [grown] at rest
                rw [List.length_append]
                omega

/-- Nor does a transfer. -/
theorem natTransactTcp_size
    {connect : Option Bool}
    {socket : SocketResults}
    {transacted : Transacted}
    (ran : natTransactTcp v now connect socket n = some transacted)
    (status : n.tcpStatus = .established)
    (bounded : n.sendFifo.fifoSize ≤ NAT_SEND_BUF_SIZE) :
    n.sendFifo.fifoSize + transacted.fromSocket.length ≤ NAT_SEND_BUF_SIZE := by
  unfold natTransactTcp at ran
  split at ran
  · cases ran
  · rw [Option.some.injEq] at ran
    subst ran
    obtain ⟨_, fromSocket, _⟩ :=
      checkTimeout_tcb v now (transactStatus now connect socket n)
    obtain ⟨_, _, _, sameSend⟩ := sendToSocket_tcb socket.sends n
    have fifo : (sendToSocket socket.sends n).1.sendFifo = n.sendFifo :=
      congrArg (fun tcb => tcb.send.sendFifo) sameSend
    have read : (transactStatus now connect socket n).fromSocket =
        (recvFromSocket socket.recvs (sendToSocket socket.sends n).1).2 := by
      simp only [transactStatus, status, transactEstablished]
    rw [fromSocket, read, ← fifo]
    apply recvFromSocket_size
    rw [fifo]
    exact bounded

/-! ## Runs -/

/-- The position of the stream that a segment names: the first one from the
`SendSeq` of its moment on that has its sequence number. -/
def sentPosition (init base : Nat) (tcp : SentTcp) : Nat :=
  base + subUINT tcp.seq ((init + base) % X32)

/-- The ranges of positions that have been transmitted. -/
def sentRanges (session : Session) : List ByteRange :=
  session.sent.map fun sent =>
    ⟨sentPosition session.entry.sendSeqInit sent.1 sent.2, sent.2.data.length⟩

/-- The first position from `SendSeq` on that has not been transmitted. -/
def sndNxt (session : Session) : Nat :=
  frontier (sentRanges session) session.entry.sendSeq

/-- How far an acknowledgment number lies ahead of `SendSeq`, modulo 2^32. -/
def ackAhead (n : NatEntry) (tcp : TcpHeader) : Nat :=
  subUINT tcp.ackNumber.toNat ((n.sendSeqInit + n.sendSeq) % X32)

/-- An acknowledgment that the window of its segment and the send FIFO admit
does not run ahead of the transmissions. -/
def AcksTransmitted (session : Session) : Event → Prop
  | .segment _ tcp _ =>
      session.entry.tcpStatus = .established →
      tcp.has TCP_ACK →
      ackAhead session.entry tcp ≤
        scaledWindow tcp (parseTcpOption tcp.options) →
      ackAhead session.entry tcp ≤ session.entry.sendFifo.fifoSize →
        session.entry.sendSeq + ackAhead session.entry tcp ≤ sndNxt session
  | .poll _ => True
  | .transact _ _ _ => True

/-- A byte has been transmitted at a position of the stream, under the sequence
number of that position. -/
def Transmitted (session : Session) (position : Nat) (byte : UInt8) : Prop :=
  ∃ sent ∈ session.sent, ∃ start,
    sent.2.seq = (session.entry.sendSeqInit + start) % X32 ∧
    sent.1 ≤ start ∧ start < sent.1 + X32 ∧ start ≤ position ∧
    sent.2.data[position - start]? = some byte

/-- The stream before the handshake: nothing has been read or sent. -/
structure Opening (session : Session) : Prop where
  status : session.entry.tcpStatus ≠ .established
  sendSeq : session.entry.sendSeq = 0
  sendFifo : session.entry.sendFifo = Fifo.newFifo
  read : session.read = []

/-- The stream after the handshake: the FIFO holds what has been read and not
acknowledged. -/
structure Streaming (session : Session) : Prop where
  connecting : session.entry.tcpStatus ≠ .connecting
  connected : session.entry.tcpStatus ≠ .connected
  positive : 1 ≤ session.entry.sendSeq
  small : session.entry.sendSeq < X64
  within : session.entry.sendSeq - 1 ≤ session.read.length
  sendFifo :
    session.entry.sendFifo.contents =
      session.read.drop (session.entry.sendSeq - 1)

/-- What holds of the sending side of a session. -/
structure Sending (session : Session) : Prop where
  phase : Opening session ∨ Streaming session
  size : session.entry.sendFifo.fifoSize ≤ NAT_SEND_BUF_SIZE
  slices : ∀ sent ∈ session.sent,
    sent.2.seq < X32 ∧
      ∀ (index : Nat) (byte : UInt8), sent.2.data[index]? = some byte →
        1 ≤ sentPosition session.entry.sendSeqInit sent.1 sent.2 ∧
          session.read[sentPosition session.entry.sendSeqInit sent.1 sent.2 +
            index - 1]? = some byte
  transmitted : ∀ position, 1 ≤ position → position < session.entry.sendSeq →
    position ∈ covered (sentRanges session)

theorem SentAt.position
    {pointer : Nat}
    (sent : SentAt n tcp pointer) :
    sentPosition n.sendSeqInit n.sendSeq tcp = n.sendSeq + pointer := by
  obtain ⟨small, seq, _⟩ := sent
  unfold sentPosition subUINT
  rw [seq]
  unfold X32 at *
  omega

theorem slideBy_eq_some
    {tcp : TcpHeader}
    {slideOffset : Nat}
    (small : n.sendSeq < X64)
    (slid : slideBy now tcp n = some slideOffset) :
    slideOffset = ackAhead n tcp ∧
      slideOffset ≤ scaledWindow tcp (parseTcpOption tcp.options) ∧
      slideOffset ≤ n.sendFifo.fifoSize ∧
      n.sendSeq + slideOffset < X64 := by
  have sameInit : (windowed now tcp n).sendSeqInit = n.sendSeqInit :=
    congrArg (fun tcb => tcb.send.sendSeqInit) (windowed_tcb now tcp n)
  have sameSeq : (windowed now tcp n).sendSeq = n.sendSeq :=
    congrArg (fun tcb => tcb.send.sendSeq) (windowed_tcb now tcp n)
  have sameFifo : (windowed now tcp n).sendFifo = n.sendFifo :=
    congrArg (fun tcb => tcb.send.sendFifo) (windowed_tcb now tcp n)
  have window : (windowed now tcp n).tcpSendWindowSize =
      scaledWindow tcp (parseTcpOption tcp.options) := rfl
  have ackSmall : tcp.ackNumber.toNat < X32 := tcp.ackNumber.toNat_lt
  unfold slideBy ackSlide ack64 at slid
  rw [sameInit, sameSeq, sameFifo, window] at slid
  split at slid
  · rename_i advances
    dsimp only at slid
    split at slid
    · cases slid
    · rename_i admitted
      rw [Option.some.injEq] at slid
      have distance : slideOffset = ackAhead n tcp ∧
          n.sendSeq + slideOffset < X64 := by
        rw [← slid]
        unfold ackAhead
        rw [← addUINT64_mod_X32]
        unfold liftSeq at advances ⊢
        have current : addUINT64 n.sendSeqInit n.sendSeq % X32 < X32 :=
          Nat.mod_lt _ (by decide)
        generalize addUINT64 n.sendSeqInit n.sendSeq % X32 = number at *
        unfold subUINT64 addUINT64 subUINT at *
        unfold X32 X64 at *
        dsimp only at *
        split at advances
        · rename_i wraps
          rw [if_pos wraps]
          omega
        · rename_i straight
          rw [if_neg straight]
          omega
      exact ⟨distance.1, by omega, by omega, distance.2⟩
  · cases slid

theorem Sending.keep
    (sending : Sending session)
    (send : after.entry.tcb.send = session.entry.tcb.send)
    (read : after.read = session.read)
    (sent : after.sent = session.sent)
    (opens : session.entry.tcpStatus ≠ .established →
      after.entry.tcpStatus ≠ .established)
    (streams : session.entry.tcpStatus ≠ .connecting →
      session.entry.tcpStatus ≠ .connected →
        after.entry.tcpStatus ≠ .connecting ∧
          after.entry.tcpStatus ≠ .connected) :
    Sending after := by
  have sameInit : after.entry.sendSeqInit = session.entry.sendSeqInit :=
    congrArg SendSide.sendSeqInit send
  have sameSeq : after.entry.sendSeq = session.entry.sendSeq :=
    congrArg SendSide.sendSeq send
  have sameFifo : after.entry.sendFifo = session.entry.sendFifo :=
    congrArg SendSide.sendFifo send
  refine ⟨?_, ?_, ?_, ?_⟩
  · obtain opening | streaming := sending.phase
    · left
      refine ⟨opens opening.status, ?_, ?_, ?_⟩
      · rw [sameSeq, opening.sendSeq]
      · rw [sameFifo, opening.sendFifo]
      · rw [read, opening.read]
    · right
      obtain ⟨notConnecting, notConnected⟩ :=
        streams streaming.connecting streaming.connected
      refine ⟨notConnecting, notConnected, ?_, ?_, ?_, ?_⟩
      · rw [sameSeq]
        exact streaming.positive
      · rw [sameSeq]
        exact streaming.small
      · rw [sameSeq, read]
        exact streaming.within
      · rw [sameSeq, sameFifo, read]
        exact streaming.sendFifo
  · rw [sameFifo]
    exact sending.size
  · rw [sent, sameInit, read]
    exact sending.slices
  · unfold sentRanges
    rw [sent, sameInit, sameSeq]
    exact sending.transmitted

theorem Sending.handshake
    (sending : Sending session)
    (status : session.entry.tcpStatus = .connected)
    (established : after.entry.tcpStatus = .established)
    (send : after.entry.tcb.send =
      { session.entry.tcb.send with sendSeq := addUINT64 session.entry.sendSeq 1 })
    (read : after.read = session.read)
    (sent : after.sent = session.sent) :
    Sending after := by
  have opening := sending.phase.resolve_right fun streaming =>
    streaming.connected status
  have sameInit : after.entry.sendSeqInit = session.entry.sendSeqInit :=
    congrArg SendSide.sendSeqInit send
  have sameFifo : after.entry.sendFifo = session.entry.sendFifo :=
    congrArg SendSide.sendFifo send
  have first : after.entry.sendSeq = 1 := by
    have advanced : after.entry.sendSeq = addUINT64 session.entry.sendSeq 1 :=
      congrArg SendSide.sendSeq send
    rw [advanced, opening.sendSeq]
    rfl
  refine ⟨.inr ⟨?_, ?_, ?_, ?_, ?_, ?_⟩, ?_, ?_, ?_⟩
  · rw [established]
    exact nofun
  · rw [established]
    exact nofun
  · rw [first]
  · rw [first]
    decide
  · rw [first]
    exact Nat.zero_le _
  · rw [first, sameFifo, opening.sendFifo, read, opening.read]
    rfl
  · rw [sameFifo]
    exact sending.size
  · rw [sent, sameInit, read]
    exact sending.slices
  · intro position positive before
    rw [first] at before
    omega

theorem Sending.slide
    {slideOffset : Nat}
    (sending : Sending session)
    (status : session.entry.tcpStatus = .established)
    (established : after.entry.tcpStatus = .established)
    (send : after.entry.tcb.send = session.entry.tcb.send.slide slideOffset)
    (fits : slideOffset ≤ session.entry.sendFifo.fifoSize)
    (small : session.entry.sendSeq + slideOffset < X64)
    (acks : session.entry.sendSeq + slideOffset ≤ sndNxt session)
    (read : after.read = session.read)
    (sent : after.sent = session.sent) :
    Sending after := by
  have streaming := sending.phase.resolve_left fun opening =>
    opening.status status
  have sameInit : after.entry.sendSeqInit = session.entry.sendSeqInit :=
    congrArg SendSide.sendSeqInit send
  have advanced : after.entry.sendSeq = session.entry.sendSeq + slideOffset := by
    have added :
        after.entry.sendSeq = addUINT64 session.entry.sendSeq slideOffset :=
      congrArg SendSide.sendSeq send
    rw [added, addUINT64_of_lt small]
  have slid : after.entry.sendFifo =
      session.entry.sendFifo.readFifo slideOffset :=
    congrArg SendSide.sendFifo send
  have positive := streaming.positive
  have within := streaming.within
  have held : session.entry.sendFifo.fifoSize =
      session.read.length - (session.entry.sendSeq - 1) := by
    rw [Fifo.fifoSize_eq, streaming.sendFifo, List.length_drop]
  refine ⟨.inr ⟨?_, ?_, ?_, ?_, ?_, ?_⟩, ?_, ?_, ?_⟩
  · rw [established]
    exact nofun
  · rw [established]
    exact nofun
  · omega
  · rw [advanced]
    exact small
  · rw [advanced, read]
    omega
  · rw [advanced, slid, read, Fifo.contents_readFifo, streaming.sendFifo,
      List.drop_drop]
    congr 1
    omega
  · have size := sending.size
    rw [slid, Fifo.fifoSize_eq, Fifo.contents_readFifo, List.length_drop,
      ← Fifo.fifoSize_eq]
    omega
  · rw [sent, sameInit, read]
    exact sending.slices
  · intro position atLeastOne before
    unfold sentRanges
    rw [sent, sameInit]
    by_cases old : position < session.entry.sendSeq
    · exact sending.transmitted position atLeastOne old
    · rw [advanced] at before
      exact mem_covered_of_lt_frontier (Nat.le_of_not_lt old)
        (Nat.lt_of_lt_of_le before acks)

theorem Sending.poll
    {session : Session}
    (sending : Sending session) :
    Sending (session.poll v now) := by
  have send := pollingNatTcp_send v now session.entry
  have sameInit : (session.poll v now).entry.sendSeqInit =
      session.entry.sendSeqInit := congrArg SendSide.sendSeqInit send
  have sameSeq : (session.poll v now).entry.sendSeq = session.entry.sendSeq :=
    congrArg SendSide.sendSeq send
  have kept : Sending { session.poll v now with sent := session.sent } := by
    refine sending.keep send rfl rfl ?_ ?_
    · intro notEstablished
      change (pollingNatTcp v now session.entry).1.tcb.status ≠ .established
      obtain same | ⟨status, same | ⟨_, _, same⟩⟩ :=
        pollingNatTcp_other v now notEstablished
      all_goals rw [same]
      · exact notEstablished
      · exact nofun
      · exact notEstablished
    · intro notConnecting notConnected
      change (pollingNatTcp v now session.entry).1.tcb.status ≠ .connecting ∧
        (pollingNatTcp v now session.entry).1.tcb.status ≠ .connected
      by_cases established : session.entry.tcpStatus = .established
      · rw [pollingNatTcp_established v now established]
        split
        · exact ⟨nofun, nofun⟩
        · exact ⟨notConnecting, notConnected⟩
      · obtain same | ⟨status, same | ⟨_, _, same⟩⟩ :=
          pollingNatTcp_other v now established
        all_goals rw [same]
        · exact ⟨notConnecting, notConnected⟩
        · exact ⟨nofun, nofun⟩
        · exact ⟨notConnecting, notConnected⟩
  refine ⟨?_, kept.size, ?_, ?_⟩
  · obtain opening | streaming := kept.phase
    · exact .inl ⟨opening.status, opening.sendSeq, opening.sendFifo, opening.read⟩
    · exact .inr ⟨streaming.connecting, streaming.connected, streaming.positive,
        streaming.small, streaming.within, streaming.sendFifo⟩
  · intro sent present
    obtain new | old := List.mem_append.mp present
    · obtain ⟨tcp, polled, rfl⟩ := List.mem_map.mp new
      have small : session.entry.sendFifo.fifoSize < X32 :=
        Nat.lt_of_le_of_lt sending.size (by decide)
      obtain ⟨pointer, place⟩ := pollingNatTcp_sentAt small polled
      refine ⟨by rw [place.2.1]; exact Nat.mod_lt _ (by decide), ?_⟩
      intro index byte read
      have held := place.2.2 index byte read
      rw [sameInit, place.position]
      obtain opening | streaming := sending.phase
      · rw [opening.sendFifo] at held
        cases held
      · have positive := streaming.positive
        rw [streaming.sendFifo, List.getElem?_drop] at held
        refine ⟨by omega, ?_⟩
        rw [← held]
        show session.read[_]? = _
        congr 1
        omega
    · exact kept.slices sent old
  · intro position positive before
    have transmitted := kept.transmitted position positive before
    unfold sentRanges at transmitted ⊢
    simp only [Session.poll, List.map_append, mem_covered_append] at transmitted ⊢
    exact .inr transmitted

theorem Sending.transfer
    {connect : Option Bool}
    {socket : SocketResults}
    {session : Session}
    {transacted : Transacted}
    (sending : Sending session)
    (ran : natTransactTcp v now connect socket session.entry = some transacted) :
    Sending (session.transfer transacted) := by
  by_cases status : session.entry.tcpStatus = .established
  · have streaming := sending.phase.resolve_left fun opening =>
      opening.status status
    obtain ⟨_, _, _, same⟩ := natTransactTcp_established ran status
    have size := natTransactTcp_size ran status sending.size
    have sameInit : (session.transfer transacted).entry.sendSeqInit =
        session.entry.sendSeqInit :=
      congrArg (fun tcb => tcb.send.sendSeqInit) same
    have sameSeq : (session.transfer transacted).entry.sendSeq =
        session.entry.sendSeq :=
      congrArg (fun tcb => tcb.send.sendSeq) same
    have grown : (session.transfer transacted).entry.sendFifo =
        session.entry.sendFifo.writeFifo transacted.fromSocket :=
      congrArg (fun tcb => tcb.send.sendFifo) same
    have moved := congrArg Tcb.status same
    change (session.transfer transacted).entry.tcpStatus = _ at moved
    have within := streaming.within
    refine ⟨.inr ⟨?_, ?_, ?_, ?_, ?_, ?_⟩, ?_, ?_, ?_⟩
    · rw [moved]
      split <;> (dsimp only; decide)
    · rw [moved]
      split <;> (dsimp only; decide)
    · rw [sameSeq]
      exact streaming.positive
    · rw [sameSeq]
      exact streaming.small
    · rw [sameSeq, Session.transfer, List.length_append]
      omega
    · rw [sameSeq, grown, Fifo.contents_writeFifo, streaming.sendFifo,
        Session.transfer, List.drop_append_of_le_length within]
    · rw [grown, Fifo.fifoSize_eq, Fifo.contents_writeFifo, List.length_append]
      exact size
    · intro sent present
      obtain ⟨seqSmall, slice⟩ := sending.slices sent present
      refine ⟨seqSmall, ?_⟩
      intro index byte read
      obtain ⟨positive, held⟩ := slice index byte read
      rw [sameInit]
      refine ⟨positive, ?_⟩
      obtain ⟨inside, _⟩ := List.getElem?_eq_some_iff.mp held
      simp only [Session.transfer]
      rw [List.getElem?_append_left inside]
      exact held
    · intro position positive before
      rw [sameSeq] at before
      unfold sentRanges
      rw [sameInit]
      exact sending.transmitted position positive before
  · obtain ⟨_, fromSocket, after, moved, same⟩ := natTransactTcp_other ran status
    have reached : (session.transfer transacted).entry.tcpStatus = after :=
      congrArg Tcb.status same
    have send : (session.transfer transacted).entry.tcb.send =
        session.entry.tcb.send := by
      rw [Session.transfer, same]
    refine sending.keep send ?_ rfl ?_ ?_
    · rw [Session.transfer, fromSocket, List.append_nil]
    · intro _
      rw [reached]
      obtain rfl | rfl | ⟨_, rfl⟩ := moved
      · exact status
      · decide
      · decide
    · intro notConnecting notConnected
      rw [reached]
      obtain rfl | rfl | ⟨connecting, _⟩ := moved
      · exact ⟨notConnecting, notConnected⟩
      · exact ⟨by decide, by decide⟩
      · exact absurd connecting notConnecting

theorem Sending.step
    {event : Event}
    (sending : Sending session)
    (acks : AcksTransmitted session event)
    (stepped : NatTcp.step v session event = some after) :
    Sending after := by
  cases event with
  | segment now tcp data =>
      simp only [NatTcp.step, Option.some.injEq] at stepped
      subst stepped
      obtain ⟨send, moved⟩ | ⟨status, established, send⟩ |
        ⟨status, acknowledges, established, slideOffset, slid, send⟩ :=
          tcpRecvForInternet_send now tcp data session.entry
      · refine sending.keep send rfl rfl ?_ ?_
        · intro notEstablished
          show (tcpRecvForInternet now tcp data session.entry).tcpStatus ≠ _
          obtain same | same := moved
          all_goals rw [same]
          · exact notEstablished
          · decide
        · intro notConnecting notConnected
          show (tcpRecvForInternet now tcp data session.entry).tcpStatus ≠ _ ∧
            (tcpRecvForInternet now tcp data session.entry).tcpStatus ≠ _
          obtain same | same := moved
          all_goals rw [same]
          · exact ⟨notConnecting, notConnected⟩
          · decide
      · exact sending.handshake status established send rfl rfl
      · have streaming := sending.phase.resolve_left fun opening =>
          opening.status status
        obtain ⟨distance, inWindow, fits, small⟩ :=
          slideBy_eq_some streaming.small slid
        refine sending.slide status established send fits small ?_ rfl rfl
        rw [distance] at inWindow fits ⊢
        exact acks status acknowledges inWindow fits
  | poll now =>
      simp only [NatTcp.step, Option.some.injEq] at stepped
      subst stepped
      exact sending.poll
  | transact now connect socket =>
      simp only [NatTcp.step, Option.map_eq_some_iff] at stepped
      obtain ⟨transacted, ran, rfl⟩ := stepped
      exact sending.transfer ran

theorem sending_start
    (v : VirtualHost)
    (now rand : Nat)
    (srcIp srcPort destIp destPort : UInt32)
    (syn : TcpHeader) :
    Sending (Session.start v now rand srcIp srcPort destIp destPort syn) := by
  have block := start_tcb v now rand srcIp srcPort destIp destPort syn
  have sendSeq :
      (Session.start v now rand srcIp srcPort destIp destPort syn).entry.sendSeq =
        0 := congrArg (fun tcb => tcb.send.sendSeq) block
  have sendFifo :
      (Session.start v now rand srcIp srcPort destIp destPort syn).entry.sendFifo =
        Fifo.newFifo := congrArg (fun tcb => tcb.send.sendFifo) block
  have status :
      (Session.start v now rand srcIp srcPort destIp destPort
        syn).entry.tcpStatus = .connecting := congrArg Tcb.status block
  refine ⟨.inl ⟨?_, sendSeq, sendFifo, rfl⟩, ?_, ?_, ?_⟩
  · rw [status]
    exact nofun
  · rw [sendFifo]
    exact Nat.zero_le _
  · intro sent present
    cases present
  · intro position _ before
    rw [sendSeq] at before
    exact absurd before (Nat.not_lt_zero position)

theorem Sending.transmitted_of_covered
    {session : Session}
    (sending : Sending session)
    {position : Nat}
    (present : position ∈ covered (sentRanges session)) :
    1 ≤ position ∧
      ∃ byte, session.read[position - 1]? = some byte ∧
        Transmitted session position byte := by
  obtain ⟨range, inSent, inside⟩ := present
  obtain ⟨sent, sentPresent, rfl⟩ := List.mem_map.mp inSent
  rw [ByteRange.covers_mk] at inside
  obtain ⟨seqSmall, slice⟩ := sending.slices sent sentPresent
  have small :
      position - sentPosition session.entry.sendSeqInit sent.1 sent.2 <
        sent.2.data.length := by omega
  obtain ⟨positive, held⟩ :=
    slice _ _ (List.getElem?_eq_getElem small)
  refine ⟨by omega, _, ?_, sent, sentPresent,
    sentPosition session.entry.sendSeqInit sent.1 sent.2, ?_, ?_, ?_, inside.1,
    List.getElem?_eq_getElem small⟩
  · rw [← held]
    congr 1
    omega
  · unfold sentPosition subUINT
    unfold X32 at *
    omega
  · exact Nat.le_add_right _ _
  · unfold sentPosition
    have gap : subUINT sent.2.seq
        ((session.entry.sendSeqInit + sent.1) % X32) < X32 := subUINT_lt _ _
    omega

/-- In every run in which no acknowledgment that the window and the FIFO admit
runs ahead of the transmissions: `SendFifo` holds the socket's stream from
`SendSeq` on, and every byte that `SendSeq` has passed is the stream's own and
has been transmitted under its own sequence number. -/
theorem tcpRecvForInternet_drops_transmitted
    {v : VirtualHost}
    {now rand : Nat}
    {srcIp srcPort destIp destPort : UInt32}
    {syn : TcpHeader}
    {session : Session}
    (reached : Reaches (step v) AcksTransmitted
      (Session.start v now rand srcIp srcPort destIp destPort syn) session) :
    session.entry.sendFifo.contents =
        session.read.drop (session.entry.sendSeq - 1) ∧
      session.entry.sendSeq - 1 ≤ session.read.length ∧
      ∀ position, 1 ≤ position → position < session.entry.sendSeq →
        ∃ byte, session.read[position - 1]? = some byte ∧
          Transmitted session position byte := by
  have sending := reached.invariant Sending
    (sending_start v now rand srcIp srcPort destIp destPort syn)
    (fun _ _ _ sending acks stepped => sending.step acks stepped)
  refine ⟨?_, ?_, ?_⟩
  · obtain opening | streaming := sending.phase
    · rw [opening.sendFifo, opening.read, List.drop_nil]
      rfl
    · exact streaming.sendFifo
  · obtain opening | streaming := sending.phase
    · rw [opening.sendSeq]
      exact Nat.zero_le _
    · exact streaming.within
  · intro position positive before
    exact (sending.transmitted_of_covered
      (sending.transmitted position positive before)).2

/-- The session of `exampleSession` after the socket has delivered two bytes. -/
def loadedSession : Session :=
  exampleSession.transfer
    ((transactStatus 40 none ⟨[], [some [10, 20]]⟩
      exampleSession.entry).checkTimeout exampleHost 40)

/-- An acknowledgment of two bytes. -/
def ackOfTwo : TcpHeader :=
  { exampleAck with ackNumber := 3 }

/-- Bytes that have never been transmitted may leave the send FIFO: an
acknowledgment of two bytes that no poll has sent yet drops them. -/
theorem ackOfTwo_drops :
    ¬∀ (v : VirtualHost) (now rand : Nat)
        (srcIp srcPort destIp destPort : UInt32) (syn : TcpHeader)
        (session : Session),
      Reaches (step v) (fun _ _ => True)
        (Session.start v now rand srcIp srcPort destIp destPort syn) session →
      session.entry.sendFifo.contents =
          session.read.drop (session.entry.sendSeq - 1) ∧
        session.entry.sendSeq - 1 ≤ session.read.length ∧
        ∀ position, 1 ≤ position → position < session.entry.sendSeq →
          ∃ byte, session.read[position - 1]? = some byte ∧
            Transmitted session position byte := by
  intro drops
  have handshake :
      Reaches (step exampleHost) (fun _ _ => True) exampleStart exampleSession :=
    exampleSession_reached trivial trivial trivial
  have loaded :
      step exampleHost exampleSession (.transact 40 none ⟨[], [some [10, 20]]⟩) =
        some loadedSession := rfl
  have acknowledged :
      step exampleHost loadedSession (.segment 50 ackOfTwo []) =
        some (loadedSession.receive 50 ackOfTwo []) := rfl
  obtain ⟨byte, _, sent, present, start, _, _, _, _, carried⟩ :=
    (drops exampleHost 10 0 1 2 3 4 exampleSyn _
      (.next (.next handshake trivial loaded) trivial acknowledged)).2.2 1
      (by decide) (by decide)
  have blank : ∀ sent ∈ (loadedSession.receive 50 ackOfTwo []).sent,
      sent.2.data = [] := by
    decide
  rw [blank sent present] at carried
  cases carried

/-- After a poll has sent both bytes, the same acknowledgment drops bytes that
have been transmitted. -/
theorem ackOfTwo_transmitted :
    ∃ byte,
      ((loadedSession.poll exampleHost 45).receive 50 ackOfTwo []).read[0]? =
        some byte ∧
      Transmitted ((loadedSession.poll exampleHost 45).receive 50 ackOfTwo [])
        1 byte := by
  have handshake :
      Reaches (step exampleHost) AcksTransmitted exampleStart exampleSession :=
    exampleSession_reached trivial trivial
      fun established => absurd established (by decide)
  have loaded :
      step exampleHost exampleSession (.transact 40 none ⟨[], [some [10, 20]]⟩) =
        some loadedSession := rfl
  have polled :
      step exampleHost loadedSession (.poll 45) =
        some (loadedSession.poll exampleHost 45) := rfl
  have acks :
      AcksTransmitted (loadedSession.poll exampleHost 45)
        (.segment 50 ackOfTwo []) := by
    intro _ _ _ _
    apply le_frontier_of_covered
    intro position after before
    have range : position = 1 ∨ position = 2 := by
      have first : (loadedSession.poll exampleHost 45).entry.sendSeq = 1 := by
        decide
      have two : ackAhead (loadedSession.poll exampleHost 45).entry ackOfTwo = 2 := by
        decide
      omega
    obtain rfl | rfl := range
    · decide
    · decide
  have acknowledged :
      step exampleHost (loadedSession.poll exampleHost 45)
          (.segment 50 ackOfTwo []) =
        some ((loadedSession.poll exampleHost 45).receive 50 ackOfTwo []) := rfl
  have first :
      Reaches (step exampleHost) AcksTransmitted exampleStart loadedSession :=
    .next handshake (by exact trivial) loaded
  have second :
      Reaches (step exampleHost) AcksTransmitted exampleStart
        (loadedSession.poll exampleHost 45) :=
    .next first (by exact trivial) polled
  exact (tcpRecvForInternet_drops_transmitted (.next second acks
    acknowledged)).2.2 1 (by decide) (by decide)

end NatTcp
end SoftEther
