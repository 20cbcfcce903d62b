import SoftEther.Cedar.NatTcp.Reassembly

/-!
# The end of the client's stream

A FIN sets `TcpFinished` when its segment arrives, whatever is missing before
it, and a poll then leaves the established state as soon as both FIFOs are
empty.  No byte of the client's stream is lost as long as each FIN arrives in
order: when everything before it has been received, or together with the last
missing bytes.
-/

namespace SoftEther
namespace NatTcp

open Library

/-- What the client of a stream sends: slices of the stream at positions that
32-bit sequence numbers tell apart, without RST, the FIN at the end of the
stream.  No transfer times out. -/
def ClientEvent (v : VirtualHost) (stream : List UInt8) (session : Session) :
    Event → Prop
  | .segment _ tcp data =>
      tcp.has TCP_RST = false ∧ data.length < X32 ∧
        ∃ start, NamesPosition session.entry tcp start ∧
          IsSlice stream start data ∧
          session.appended.length < start + 0x80000000 ∧
          start < session.appended.length + 0x80000000 ∧
          (tcp.has TCP_FIN → start + data.length = stream.length)
  | .poll _ => True
  | .transact now connect socket =>
      timesOut v now connect socket session.entry = false

/-- A FIN of an established entry arrives when the whole stream has been
received, or acknowledges and brings all that is missing, inside the window. -/
def FinInOrder (stream : List UInt8) (session : Session) : Event → Prop
  | .segment _ tcp data =>
      session.entry.tcpStatus = .established → tcp.has TCP_FIN →
        session.appended.length = stream.length ∨
          tcp.has TCP_ACK ∧ NamesPosition session.entry tcp session.appended.length ∧
            session.appended.length + data.length = stream.length ∧
            data.length ≤ NAT_TCP_RECV_WINDOW_SIZE
  | .poll _ => True
  | .transact _ _ _ => True

/-- A stream whose positions stay away from the end of the 64-bit range. -/
def Representable (stream : List UInt8) : Prop :=
  stream.length + 0x200000000 ≤ X64

instance (stream : List UInt8) : Decidable (Representable stream) :=
  inferInstanceAs (Decidable (_ ≤ _))

variable {stream : List UInt8} {session : Session} {tcp : TcpHeader} {v : VirtualHost}
    {event : Event}

theorem Assembled.appended_length_le
    (assembled : Assembled stream session) :
    session.appended.length ≤ stream.length := by
  have same := congrArg List.length assembled.appended_eq
  rw [List.length_map, List.length_take] at same
  omega

theorem Assembled.appended_of_received
    (assembled : Assembled stream session)
    (all : ∀ position < stream.length, position ∈ covered session.received) :
    session.appended = stream.map some := by
  have within := assembled.appended_length_le
  have whole : session.appended.length = stream.length := by
    by_contra short
    exact assembled.next_not_received (all session.appended.length (by omega))
  have appended := assembled.appended_eq
  rw [whole, List.take_length] at appended
  exact appended

theorem sequenceFits_of_near
    {n : NatEntry}
    {base start size : Nat}
    (seq : n.recvSeq = (1 + base) % X64)
    (bounded : n.tcb.recv.Bounded)
    (far : base + 0x200000000 ≤ X64)
    (sizeSmall : size < X32)
    (names : NamesPosition n tcp start)
    (notOld : base < start + 0x80000000)
    (notNew : start < base + 0x80000000) :
    SequenceFits n tcp.seqNumber.toNat size ∧
      (base ≤ start → ahead n tcp.seqNumber.toNat = start - base) ∧
      (start < base → 0x80000000 ≤ ahead n tcp.seqNumber.toNat) := by
  have next := recvNext_of_recvSeq seq
  have windowSize : n.tcpRecvWindowSize = 64512 := bounded.size
  have position : n.recvSeq = 1 + base := by
    rw [seq]
    unfold X64 at far ⊢
    omega
  unfold NamesPosition at names
  have distance : ahead n tcp.seqNumber.toNat =
      ((n.recvSeqInit + 1 + start) % X32 + X32 -
        (n.recvSeqInit + 1 + base) % X32) % X32 := by
    unfold ahead subUINT
    rw [next, names]
  refine ⟨.inr ?_, ?_, ?_⟩
  · by_cases old : IsOld n tcp.seqNumber.toNat
    · rw [if_pos old]
      left
      unfold IsOld at old
      rw [next, names] at old ⊢
      rw [position]
      generalize n.recvSeqInit = first at *
      unfold X32 at *
      omega
    · rw [if_neg old]
      unfold NewFits
      rw [windowSize, position]
      have small : ahead n tcp.seqNumber.toNat < X32 := subUINT_lt _ _
      generalize ahead n tcp.seqNumber.toNat = gap at *
      unfold X32 X64 at *
      omega
  · intro later
    rw [distance]
    unfold X32
    omega
  · intro earlier
    rw [distance]
    unfold X32
    omega

theorem ClientEvent.acceptsSlices
    (representable : Representable stream)
    (assembled : Assembled stream session)
    (bounded : session.entry.tcb.recv.Bounded)
    (client : ClientEvent v stream session event) :
    AcceptsSlices stream session event := by
  cases event with
  | segment now tcp data =>
      obtain ⟨_, sizeSmall, start, names, slice, notOld, notNew, _⟩ := client
      have within := assembled.appended_length_le
      unfold Representable at representable
      obtain ⟨fits, ahead, behind⟩ := sequenceFits_of_near assembled.seq
        bounded (by omega) sizeSmall names notOld notNew
      intro offset accepted
      unfold acceptedOffset at accepted
      split at accepted
      · rw [(recvWindowOffset_eq_iff bounded tcp.seqNumber.toNat_lt
          sizeSmall).mpr fits] at accepted
        have windowSize : session.entry.tcpRecvWindowSize =
          NAT_TCP_RECV_WINDOW_SIZE := bounded.size
        unfold inWindowOffset at accepted
        rw [windowSize] at accepted
        split at accepted
        · rename_i inWindow
          rw [Option.some.injEq] at accepted
          subst accepted
          refine ⟨inWindow.2, ?_⟩
          by_cases later : session.appended.length ≤ start
          · rw [ahead later, Nat.add_sub_cancel' later]
            exact slice
          · have far := behind (by omega)
            unfold NAT_TCP_RECV_WINDOW_SIZE at inWindow
            omega
        · cases accepted
      · cases accepted
  | poll now => trivial
  | transact now connect socket => trivial

theorem Session.mem_receive_received
    {now : Nat}
    {data : List UInt8}
    {position : Nat}
    (present : position ∈ covered session.received) :
    position ∈ covered (session.receive now tcp data).received := by
  simp only [Session.receive]
  cases acceptedOffset session.entry tcp data.length with
  | none => exact present
  | some offset => exact (mem_covered_cons _ _ _).mpr (.inr present)

theorem received_of_finInOrder
    {now : Nat}
    {data : List UInt8}
    (representable : Representable stream)
    (assembled : Assembled stream session)
    (bounded : session.entry.tcb.recv.Bounded)
    (client : ClientEvent v stream session (.segment now tcp data))
    (inOrder : FinInOrder stream session (.segment now tcp data))
    (status : session.entry.tcpStatus = .established)
    (fin : tcp.has TCP_FIN)
    {position : Nat}
    (inside : position < stream.length) :
    position ∈ covered (session.receive now tcp data).received := by
  obtain ⟨noReset, sizeSmall, _⟩ := client
  have within := assembled.appended_length_le
  by_cases before : position < session.appended.length
  · exact Session.mem_receive_received
      ((assembled.received_iff position).mpr (.inl before))
  · obtain whole | ⟨acknowledges, names, ends, fitsWindow⟩ := inOrder status fin
    · omega
    · unfold Representable at representable
      obtain ⟨fits, ahead, _⟩ := sequenceFits_of_near assembled.seq bounded
        (by omega) sizeSmall names (by omega) (by omega)
      have windowSize : session.entry.tcpRecvWindowSize =
        NAT_TCP_RECV_WINDOW_SIZE := bounded.size
      have accepted : acceptedOffset session.entry tcp data.length = some 0 := by
        unfold acceptedOffset
        rw [if_pos ⟨status, noReset, acknowledges⟩,
          (recvWindowOffset_eq_iff bounded tcp.seqNumber.toNat_lt sizeSmall).mpr fits]
        unfold inWindowOffset
        rw [ahead (Nat.le_refl _), Nat.sub_self, windowSize, if_pos (by omega)]
      simp only [Session.receive, accepted]
      rw [mem_covered_cons, ByteRange.covers_mk]
      exact .inl (by omega)

/-- What holds of a session of a client that ends its stream in order. -/
structure Closing (stream : List UInt8) (session : Session) : Prop where
  /-- Reassembly is correct. -/
  assembled : Assembled stream session
  bounded : session.entry.tcb.recv.Bounded
  /-- Once a FIN has set `TcpFinished`, the whole stream has been received. -/
  received : session.entry.tcpFinished → session.closedBySocket = false →
    ∀ position < stream.length, position ∈ covered session.received

theorem Closing.step
    {session after : Session}
    (representable : Representable stream)
    (closing : Closing stream session)
    (client : ClientEvent v stream session event)
    (inOrder : FinInOrder stream session event)
    (stepped : NatTcp.step v session event = some after) :
    Closing stream after := by
  have accepts :=
    client.acceptsSlices representable closing.assembled closing.bounded
  refine ⟨closing.assembled.step accepts stepped, closing.bounded.step stepped, ?_⟩
  intro finished notClosed position inside
  cases event with
  | segment now tcp data =>
      simp only [NatTcp.step, Option.some.injEq] at stepped
      subst stepped
      obtain before | ⟨status, fin⟩ :=
        tcpRecvForInternet_finished now tcp data session.entry finished
      · exact Session.mem_receive_received
          (closing.received before notClosed position inside)
      · exact received_of_finInOrder representable closing.assembled
          closing.bounded client inOrder status fin inside
  | poll now =>
      simp only [NatTcp.step, Option.some.injEq] at stepped
      subst stepped
      have before : session.entry.tcpFinished := by
        change (pollingNatTcp v now session.entry).1.tcb.finished at finished
        by_cases status : session.entry.tcpStatus = .established
        · rw [pollingNatTcp_established v now status] at finished
          split at finished <;> exact finished
        · obtain same | ⟨_, same | ⟨_, falls, same⟩⟩ :=
            pollingNatTcp_other v now status
          · rw [same] at finished
            exact finished
          · rw [same] at finished
            exact finished
          · rw [same] at finished
            exact falls finished
      exact closing.received before notClosed position inside
  | transact now connect socket =>
      simp only [NatTcp.step, Option.map_eq_some_iff] at stepped
      obtain ⟨transacted, ran, rfl⟩ := stepped
      simp only [Session.transfer, Bool.or_eq_false_iff] at notClosed
      obtain ⟨openBefore, notBySocket⟩ := notClosed
      have before : session.entry.tcpFinished := by
        change transacted.entry.tcpFinished at finished
        rw [finished] at notBySocket
        simpa using notBySocket
      exact closing.received before openBefore position inside

theorem closing_start
    (stream : List UInt8)
    (v : VirtualHost)
    (now rand : Nat)
    (srcIp srcPort destIp destPort : UInt32)
    (syn : TcpHeader) :
    Closing stream
      (Session.start v now rand srcIp srcPort destIp destPort syn) := by
  refine ⟨assembled_start stream v now rand srcIp srcPort destIp destPort syn,
    start_bounded v now rand srcIp srcPort destIp destPort syn, ?_⟩
  intro finished
  rw [← tcb_finished, start_tcb] at finished
  cases finished

theorem leaves_established
    {session after : Session}
    (client : ClientEvent v stream session event)
    (stepped : step v session event = some after)
    (established : session.entry.tcpStatus = .established)
    (left : after.entry.tcpStatus ≠ .established) :
    session.entry.tcpFinished ∧ session.entry.recvFifo.fifoSize = 0 := by
  cases event with
  | segment now tcp data =>
      simp only [step, Option.some.injEq] at stepped
      subst stepped
      exact absurd (tcpRecvForInternet_stays established client.1) left
  | poll now =>
      simp only [step, Option.some.injEq] at stepped
      subst stepped
      change (pollingNatTcp v now session.entry).1.tcb.status ≠ .established at left
      rw [pollingNatTcp_established v now established] at left
      split at left
      · rename_i empty
        exact ⟨empty.1, empty.2.2⟩
      · exact absurd established left
  | transact now connect socket =>
      simp only [step, Option.map_eq_some_iff] at stepped
      obtain ⟨transacted, ran, rfl⟩ := stepped
      obtain ⟨_, _, _, same⟩ := natTransactTcp_established ran established
      have inTime : timesOut v now connect socket session.entry = false := client
      change transacted.entry.tcb.status ≠ .established at left
      rw [same, inTime] at left
      exact absurd rfl left

/-- In every run in which the client sends a stream and then a FIN, in segments
in any order and without RST or timeout, but with every FIN in order: when the
entry leaves the established state, and it was not the socket that closed, all
bytes of the stream have been appended and handed to the socket. -/
theorem pollingNatTcp_hands_stream
    {v : VirtualHost}
    {now rand : Nat}
    {srcIp srcPort destIp destPort : UInt32}
    {syn : TcpHeader}
    {stream : List UInt8}
    {session after : Session}
    {event : Event}
    (representable : Representable stream)
    (reached : Reaches (step v)
      (fun session event =>
        ClientEvent v stream session event ∧ FinInOrder stream session event)
      (Session.start v now rand srcIp srcPort destIp destPort syn) session)
    (client : ClientEvent v stream session event)
    (stepped : step v session event = some after)
    (established : session.entry.tcpStatus = .established)
    (left : after.entry.tcpStatus ≠ .established)
    (notBySocket : session.closedBySocket = false) :
    session.appended = stream.map some ∧ session.handed = stream.map some := by
  have closing := reached.invariant (Closing stream)
    (closing_start stream v now rand srcIp srcPort destIp destPort syn)
    (fun before event after closing admitted stepped =>
      closing.step representable admitted.1 admitted.2 stepped)
  obtain ⟨finished, drained⟩ := leaves_established client stepped established left
  have appended := closing.assembled.appended_of_received
    (closing.received finished notBySocket)
  refine ⟨appended, ?_⟩
  have empty : session.entry.recvFifo.contents = [] :=
    List.length_eq_zero_iff.mp drained
  rw [← appended, Session.appended, empty, List.append_nil]

/-- The last byte of a stream of two bytes, with FIN. -/
def overtakingFin : TcpHeader :=
  { exampleAck with seqNumber := 1002, flag := TCP_ACK ||| TCP_FIN }

/-- Both bytes of a stream of two bytes, with FIN. -/
def orderlyFin : TcpHeader :=
  { exampleAck with flag := TCP_ACK ||| TCP_FIN }

theorem exampleStart_inTime :
    timesOut exampleHost 10 (some true) ⟨[], []⟩ exampleStart.entry = false := by
  decide

/-- An entry may leave the established state before the stream has been
received: a FIN that overtakes the first of two bytes closes the connection at
the next poll, and nothing has been handed to the socket. -/
theorem overtakingFin_loses :
    ¬∀ (v : VirtualHost) (now rand : Nat)
        (srcIp srcPort destIp destPort : UInt32) (syn : TcpHeader)
        (stream : List UInt8) (session after : Session) (event : Event),
      Representable stream →
      Reaches (step v) (ClientEvent v stream)
        (Session.start v now rand srcIp srcPort destIp destPort syn) session →
      ClientEvent v stream session event →
      step v session event = some after →
      session.entry.tcpStatus = .established →
      after.entry.tcpStatus ≠ .established →
      session.closedBySocket = false →
      session.appended = stream.map some ∧ session.handed = stream.map some := by
  intro handsStream
  have handshake :
      Reaches (step exampleHost) (ClientEvent exampleHost [10, 20]) exampleStart
        exampleSession :=
    exampleSession_reached exampleStart_inTime trivial
      ⟨by decide, by decide, 0, by decide, by decide, by decide, by decide,
        by decide⟩
  have client :
      ClientEvent exampleHost [10, 20] exampleSession
        (.segment 40 overtakingFin [20]) :=
    ⟨by decide, by decide, 1, by decide, by decide, by decide, by decide,
      by decide⟩
  have lost := (handsStream exampleHost 10 0 1 2 3 4 exampleSyn [10, 20]
    (exampleSession.receive 40 overtakingFin [20]) _ (.poll 50) (by decide)
    (.next handshake client rfl) trivial rfl (by decide) (by decide) rfl).2
  revert lost
  decide

/-- The session after an orderly FIN, once the socket has taken both bytes. -/
def orderlySession : Session :=
  let received := exampleSession.receive 40 orderlyFin [10, 20]
  received.transfer
    ((transactStatus 50 none ⟨[some 2], []⟩ received.entry).checkTimeout
      exampleHost 50)

/-- With an orderly FIN, the socket has taken both bytes before the poll. -/
theorem orderlyFin_hands :
    orderlySession.handed = [some 10, some 20] := by
  have handshake :
      Reaches (step exampleHost)
        (fun session event =>
          ClientEvent exampleHost [10, 20] session event ∧
            FinInOrder [10, 20] session event)
        exampleStart exampleSession :=
    exampleSession_reached ⟨exampleStart_inTime, trivial⟩ ⟨trivial, trivial⟩
      ⟨⟨by decide, by decide, 0, by decide, by decide, by decide, by decide,
        by decide⟩, fun established => absurd established (by decide)⟩
  have fin :
      ClientEvent exampleHost [10, 20] exampleSession
          (.segment 40 orderlyFin [10, 20]) ∧
        FinInOrder [10, 20] exampleSession (.segment 40 orderlyFin [10, 20]) :=
    ⟨⟨by decide, by decide, 0, by decide, by decide, by decide, by decide,
      by decide⟩, fun _ _ => .inr (by decide)⟩
  have inTime :
      timesOut exampleHost 50 none ⟨[some 2], []⟩
        (exampleSession.receive 40 orderlyFin [10, 20]).entry = false := by
    decide
  have transfer :
      ClientEvent exampleHost [10, 20]
          (exampleSession.receive 40 orderlyFin [10, 20])
          (.transact 50 none ⟨[some 2], []⟩) ∧
        FinInOrder [10, 20] (exampleSession.receive 40 orderlyFin [10, 20])
          (.transact 50 none ⟨[some 2], []⟩) :=
    ⟨inTime, trivial⟩
  have transferred :
      step exampleHost (exampleSession.receive 40 orderlyFin [10, 20])
        (.transact 50 none ⟨[some 2], []⟩) = some orderlySession := rfl
  have poll : ClientEvent exampleHost [10, 20] orderlySession (.poll 60) := trivial
  have polled :
      step exampleHost orderlySession (.poll 60) =
        some (orderlySession.poll exampleHost 60) := rfl
  exact (pollingNatTcp_hands_stream (by decide)
    (.next (.next handshake fin rfl) transfer transferred) poll polled (by decide)
    (by decide) (by decide)).2

end NatTcp
end SoftEther
