import SoftEther.Cedar.NatTcp.Session

/-!
# The receive window check

`TcpRecvForInternet` lifts the 32-bit sequence number of a segment to 64 bits
and compares it with the receive window after further 64-bit additions.  The
result is right except for segments that are older than position 0 of the
stream and reach past it, and for positions next to the end of the 64-bit
range.
-/

namespace SoftEther
namespace NatTcp

open Library

/-- The 32-bit sequence number of the next expected byte. -/
def recvNext (n : NatEntry) : Nat :=
  addUINT64 n.recvSeqInit n.recvSeq % X32

/-- How far a sequence number lies ahead of the next expected one, modulo
2^32. -/
def ahead (n : NatEntry) (seq : Nat) : Nat :=
  subUINT seq (recvNext n)

/-- The window check that the protocol asks for: the offset of a nonempty
payload whose sequence range lies inside the window, modulo 2^32. -/
def inWindowOffset (n : NatEntry) (seq size : Nat) : Option Nat :=
  if 1 ≤ size ∧ ahead n seq + size ≤ n.tcpRecvWindowSize then
    some (ahead n seq)
  else none

/-- A segment counts as old when its number precedes the next expected one by
less than half of the sequence space. -/
def IsOld (n : NatEntry) (seq : Nat) : Prop :=
  seq < recvNext n ∧ recvNext n - seq < 0x80000000

instance (n : NatEntry) (seq : Nat) : Decidable (IsOld n seq) :=
  inferInstanceAs (Decidable (_ ∧ _))

/-- An old segment begins no earlier than position 0, or misses the position 0
by its size, or exceeds the window. -/
def OldFits (n : NatEntry) (seq size : Nat) : Prop :=
  recvNext n - seq ≤ n.recvSeq ∨
    n.recvSeq + size < recvNext n - seq ∨
    recvNext n - seq + n.tcpRecvWindowSize < size

instance (n : NatEntry) (seq size : Nat) : Decidable (OldFits n seq size) :=
  inferInstanceAs (Decidable (_ ∨ _))

/-- The end of a segment passes the end of the 64-bit range exactly when the
end of the window does; one that begins past the range ends past the
window. -/
def NewFits (n : NatEntry) (seq size : Nat) : Prop :=
  (n.recvSeq + ahead n seq < X64 →
    (n.recvSeq + n.tcpRecvWindowSize < X64 ↔
      n.recvSeq + ahead n seq + size < X64)) ∧
  (X64 ≤ n.recvSeq + ahead n seq →
    n.tcpRecvWindowSize < ahead n seq + size)

instance (n : NatEntry) (seq size : Nat) : Decidable (NewFits n seq size) :=
  inferInstanceAs (Decidable (_ ∧ _))

/-- The condition under which the window check decides rightly. -/
def SequenceFits (n : NatEntry) (seq size : Nat) : Prop :=
  size = 0 ∨ if IsOld n seq then OldFits n seq size else NewFits n seq size

instance (n : NatEntry) (seq size : Nat) : Decidable (SequenceFits n seq size) :=
  inferInstanceAs (Decidable (_ ∨ _))

theorem recvWindowOffset_empty
    (n : NatEntry)
    (seq : Nat) :
    recvWindowOffset n seq 0 = none := by
  simp [recvWindowOffset]

variable {n : NatEntry} {seq size : Nat}

theorem seq64_of_not_old
    {seq : Nat}
    (seqSmall : seq < X32)
    (new : ¬IsOld n seq) :
    seq64 n seq = (n.recvSeq + ahead n seq) % X64 := by
  have currentSmall : recvNext n < X32 := Nat.mod_lt _ (by decide)
  unfold seq64 liftSeq ahead IsOld at *
  change (if recvNext n > seq ∧ recvNext n - seq ≥ 0x80000000 then
    subUINT64 (addUINT64 (addUINT64 n.recvSeq seq) X32) (recvNext n)
    else subUINT64 (addUINT64 n.recvSeq seq) (recvNext n)) = _
  generalize recvNext n = current at *
  simp only [subUINT64, addUINT64, subUINT, X32, X64] at *
  split <;> omega

theorem seq64_of_old
    {seq : Nat}
    (bounded : n.recvSeq < X64)
    (old : IsOld n seq) :
    seq64 n seq = (n.recvSeq + X64 - (recvNext n - seq)) % X64 := by
  have currentSmall : recvNext n < X32 := Nat.mod_lt _ (by decide)
  unfold seq64 liftSeq IsOld at *
  change (if recvNext n > seq ∧ recvNext n - seq ≥ 0x80000000 then
    subUINT64 (addUINT64 (addUINT64 n.recvSeq seq) X32) (recvNext n)
    else subUINT64 (addUINT64 n.recvSeq seq) (recvNext n)) = _
  generalize recvNext n = current at *
  rw [if_neg (by omega)]
  simp only [subUINT64, addUINT64, X32, X64] at *
  omega

theorem recvWindowOffset_of_old
    (bounded : n.tcb.recv.Bounded)
    (sizeSmall : size < X32)
    (nonempty : 1 ≤ size)
    (old : IsOld n seq) :
    recvWindowOffset n seq size = none ↔ OldFits n seq size := by
  have seqBound : n.recvSeq < X64 := bounded.seq
  have windowSize : n.tcpRecvWindowSize = 64512 := bounded.size
  have currentSmall : recvNext n < X32 := Nat.mod_lt _ (by decide)
  unfold recvWindowOffset OldFits
  rw [seq64_of_old seqBound old]
  obtain ⟨precedes, near⟩ := old
  simp only [addUINT64, X32, X64, windowSize] at *
  rw [if_pos nonempty]
  generalize n.recvSeq = position at *
  generalize recvNext n = current at *
  constructor
  · intro ignored
    by_contra stored
    rw [if_pos (by omega)] at ignored
    cases ignored
  · intro fits
    rw [if_neg (by omega)]

theorem recvWindowOffset_of_not_old
    (bounded : n.tcb.recv.Bounded)
    (seqSmall : seq < X32)
    (sizeSmall : size < X32)
    (nonempty : 1 ≤ size)
    (new : ¬IsOld n seq) :
    recvWindowOffset n seq size = inWindowOffset n seq size ↔
      NewFits n seq size := by
  have seqBound : n.recvSeq < X64 := bounded.seq
  have windowSize : n.tcpRecvWindowSize = 64512 := bounded.size
  have aheadSmall : ahead n seq < X32 := subUINT_lt _ _
  unfold recvWindowOffset inWindowOffset NewFits
  rw [seq64_of_not_old seqSmall new]
  simp only [addUINT64, subUINT64, X32, X64, windowSize, nonempty, true_and,
    ge_iff_le, if_true] at *
  generalize n.recvSeq = position at *
  generalize ahead n seq = distance at *
  constructor
  · intro same
    by_contra misfits
    split at same <;> split at same
    · omega
    · cases same
    · cases same
    · omega
  · intro fits
    split <;> split
    · rw [Option.some.injEq]
      omega
    · omega
    · omega
    · rfl

theorem inWindowOffset_of_old
    {seq : Nat}
    (size : Nat)
    (bounded : n.tcb.recv.Bounded)
    (old : IsOld n seq) :
    inWindowOffset n seq size = none := by
  have windowSize : n.tcpRecvWindowSize = 64512 := bounded.size
  have currentSmall : recvNext n < X32 := Nat.mod_lt _ (by decide)
  obtain ⟨precedes, near⟩ := old
  unfold inWindowOffset ahead subUINT
  rw [windowSize, if_neg]
  simp only [X32] at *
  omega

theorem recvWindowOffset_eq_iff
    (bounded : n.tcb.recv.Bounded)
    (seqSmall : seq < X32)
    (sizeSmall : size < X32) :
    recvWindowOffset n seq size = inWindowOffset n seq size ↔
      SequenceFits n seq size := by
  unfold SequenceFits
  obtain rfl | nonempty := Nat.eq_zero_or_pos size
  · simp [recvWindowOffset_empty, inWindowOffset]
  · rw [or_iff_right (by omega)]
    by_cases old : IsOld n seq
    · rw [if_pos old, inWindowOffset_of_old size bounded old]
      exact recvWindowOffset_of_old bounded sizeSmall nonempty old
    · rw [if_neg old]
      exact recvWindowOffset_of_not_old bounded seqSmall sizeSmall nonempty old

/-- A segment is handled as its window position asks for: the payload of a
segment with ACK and without RST is stored at the offset of the window check
of the protocol, and every other payload is ignored. -/
def StoresInWindow (now : Nat) (tcp : TcpHeader) (data : List UInt8)
    (n : NatEntry) : Prop :=
  (tcpRecvForInternet now tcp data n).tcb.recv =
      recvAfter now tcp data n (acceptedOffset n tcp data.length) ∧
  acceptedOffset n tcp data.length =
    if tcp.has TCP_RST = false ∧ tcp.has TCP_ACK then
      inWindowOffset n tcp.seqNumber.toNat data.length
    else none

/-- In every state that a run reaches, an established entry handles a segment
as its window position asks for exactly when the sequence fits; a segment that
carries RST or no ACK is always ignored. -/
theorem tcpRecvForInternet_storesInWindow_iff
    {v : VirtualHost}
    {now rand : Nat}
    {srcIp srcPort destIp destPort : UInt32}
    {syn : TcpHeader}
    {session : Session}
    (reached : Reaches (step v) (fun _ _ => True)
      (Session.start v now rand srcIp srcPort destIp destPort syn) session)
    (established : session.entry.tcpStatus = .established)
    (time : Nat)
    (tcp : TcpHeader)
    (data : List UInt8)
    (sizeSmall : data.length < X32) :
    StoresInWindow time tcp data session.entry ↔
      (tcp.has TCP_RST = false ∧ tcp.has TCP_ACK →
        SequenceFits session.entry tcp.seqNumber.toNat data.length) := by
  have bounded := reached_bounded reached
  have checked :=
    recvWindowOffset_eq_iff bounded tcp.seqNumber.toNat_lt sizeSmall
  unfold StoresInWindow
  rw [and_iff_right (tcpRecvForInternet_recv time tcp data session.entry)]
  unfold acceptedOffset
  by_cases carries : tcp.has TCP_RST = false ∧ tcp.has TCP_ACK
  · rw [if_pos ⟨established, carries⟩, if_pos carries, checked]
    exact ⟨fun fits _ => fits, fun fits => fits carries⟩
  · rw [if_neg fun all => carries all.2, if_neg carries]
    exact ⟨fun _ carried => absurd carried carries, fun _ => rfl⟩

/-- Ten bytes that begin two positions before the stream. -/
def staleSegment : TcpHeader :=
  { exampleAck with seqNumber := 999 }

/-- The window check does not respect the window in every reachable state:
right after the handshake, ten bytes from before the initial sequence number
are stored at offset 4294967294. -/
theorem staleSegment_stored :
    ¬∀ (v : VirtualHost) (now rand : Nat)
        (srcIp srcPort destIp destPort : UInt32) (syn : TcpHeader)
        (session : Session),
      Reaches (step v) (fun _ _ => True)
        (Session.start v now rand srcIp srcPort destIp destPort syn) session →
      session.entry.tcpStatus = .established →
      ∀ (time : Nat) (tcp : TcpHeader) (data : List UInt8),
        data.length < X32 → StoresInWindow time tcp data session.entry := by
  intro respected
  have reached :
      Reaches (step exampleHost) (fun _ _ => True) exampleStart exampleSession :=
    exampleSession_reached trivial trivial trivial
  have stored := (respected exampleHost 10 0 1 2 3 4 exampleSyn exampleSession
    reached rfl 40 staleSegment (List.replicate 10 0) (by decide)).2
  revert stored
  decide

/-- Three bytes at the front of the window are stored there. -/
theorem exampleAck_storesInWindow :
    StoresInWindow 40 exampleAck [1, 2, 3] exampleSession.entry := by
  have reached :
      Reaches (step exampleHost) (fun _ _ => True) exampleStart exampleSession :=
    exampleSession_reached trivial trivial trivial
  exact (tcpRecvForInternet_storesInWindow_iff reached rfl 40 exampleAck
    [1, 2, 3] (by decide)).mpr (by decide)

end NatTcp
end SoftEther
