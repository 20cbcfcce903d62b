import SoftEther.Mayaqua.Rudp.Bulk
import SoftEther.Mayaqua.Rudp.Stream

/-!
# Segment datagrams of R-UDP

The bytes of a segment datagram: `RUDPSendSegmentNow`, which packs the acknowledgements, a
segment and a random padding into one buffer, and `RUDPProcessRecvPacket`, which takes them
out one after the other and works on the session meanwhile.  The hash and the cipher are
parameters.

The pointer and the size of the receiver are one block: the size is checked before every
value that is taken from the front.
-/

namespace SoftEther
namespace Rudp

def RUDP_MAX_PACKET_SIZE : Nat :=
  RUDP_MAX_SEGMENT_SIZE + 8 * RUDP_MAX_NUM_ACK + SHA1_SIZE * 2 + 8 * 4 + 4 + 255

/-- `RUDP_PROTOCOL_*`. -/
inductive StackProtocol
  | udp
  | icmp
  | dns
  deriving DecidableEq

/-- The part of `RUDP_STACK` that segment datagrams use. -/
structure Stack where
  now : UInt64
  protocol : StackProtocol
  svcNameHash : ByteArrayOf SHA1_SIZE

/-- `RUDP_SESSION`: the stream and the keys. -/
structure SegmentSession where
  stream : Session
  keySend : ByteArrayOf SHA1_SIZE
  keyRecv : ByteArrayOf SHA1_SIZE
  /-- `NextIv`. -/
  segmentNextIv : ByteArrayOf SHA1_SIZE

def xorData (left right : List UInt8) : List UInt8 :=
  List.zipWith (· ^^^ ·) left right

/-- The signature of a datagram whose part behind the signature is `body`. -/
def segmentSign (crypto : BulkCrypto) (r : Stack) (key body : List UInt8) : List UInt8 :=
  let sign := crypto.hashSha1 (key ++ body)
  if r.protocol = .dns ∨ r.protocol = .icmp then xorData sign r.svcNameHash.val else sign

/-- The key of the stream cipher. -/
def segmentCryptKey (crypto : BulkCrypto) (iv key : List UInt8) : List UInt8 :=
  crypto.hashSha1 (iv ++ key)

/-- A number as `WRITE_UINT64` writes it. -/
def writeUINT64 (value : Nat) : List UInt8 :=
  writeBufInt64 (UInt64.ofNat value)

/-- `padlen` for a random byte. -/
def padlenOf (rand8 : UInt8) : UInt8 :=
  max rand8 1

/-- What is encrypted: the fields of the datagram and the padding. -/
def segmentClearText (d : Datagram) (padlen : UInt8) : List UInt8 :=
  writeUINT64 d.myTick ++ (writeUINT64 d.yourTick ++ (writeUINT64 d.maxAck ++
    (writeBufInt (UInt32.ofNat d.acks.length) ++ (d.acks.flatMap writeUINT64 ++
      (writeUINT64 d.seqNo ++ (d.payload ++ List.replicate padlen.toNat padlen))))))

def segmentDatagram (crypto : BulkCrypto) (r : Stack) (se : SegmentSession) (d : Datagram)
    (padlen : UInt8) : List UInt8 :=
  let iv := se.segmentNextIv.val
  let body := iv ++ crypto.encrypt (segmentCryptKey crypto iv se.keySend.val)
    (segmentClearText d padlen)
  segmentSign crypto r se.keySend.val body ++ body

/-- `RUDPSendSegmentNow` with its two random numbers: the buffer as far as it is filled, and
the session. -/
def sendSegmentNow
    (crypto : BulkCrypto)
    (r : Stack)
    (se : SegmentSession)
    (seqNo : UInt64)
    (data : List UInt8)
    (rand8 : UInt8)
    (rand32 : UInt32) :
    Option (List UInt8 × SegmentSession) :=
  if RUDP_MAX_SEGMENT_SIZE < data.length then none
  else
    let (d, stream) := se.stream.rudpSendSegmentNow r.now.toNat seqNo.toNat data
    let dst := segmentDatagram crypto r se d (padlenOf rand8)
    let nextIvPos := rand32.toNat % (dst.length - SHA1_SIZE)
    some (dst,
      { se with
        stream := stream
        segmentNextIv := nextIv se.segmentNextIv dst (nextIvPos + SHA1_SIZE) })

/-- `READ_UINT64` from the front of a block that is long enough. -/
def takeUINT64 (p : List UInt8) : Option (UInt64 × List UInt8) :=
  (readUINT64 p).map fun value => (value, p.drop 8)

/-- `READ_UINT` from the front of a block that is long enough. -/
def takeUINT (p : List UInt8) : Option (UInt32 × List UInt8) :=
  (readUINT p).map fun value => (value, p.drop 4)

/-- The loop over the acknowledgements; nothing when it reads behind the block. -/
def recvAcks : Nat → Session → List UInt8 → Option (Session × List UInt8)
  | 0, se, p => some (se, p)
  | numAck + 1, se, p =>
      match takeUINT64 p with
      | none => none
      | some (seq, p) => recvAcks numAck (se.rudpProcessAck seq.toNat) p

/-- From the sequence number on. -/
def recvSeqNoAndPayload (now : UInt64) (se : Session) (myTick yourTick : UInt64)
    (p : List UInt8) : Option (Bool × Session) :=
  match takeUINT64 p with
  | none => none
  | some (seqNo, payload) =>
      let d : Datagram :=
        { myTick := myTick.toNat, yourTick := yourTick.toNat, maxAck := 0, acks := []
          seqNo := seqNo.toNat, payload := payload }
      some (true, (se.recvTicks now.toNat d).recvSegment now.toNat d)

/-- From the ticks on: the returned value and the session, or nothing when the code reads
behind the block. -/
def recvFields (now : UInt64) (se : Session) (p : List UInt8) : Option (Bool × Session) :=
  match takeUINT64 p with
  | none => some (false, se)
  | some (myTick, p) =>
      match takeUINT64 p with
      | none => some (false, se)
      | some (yourTick, p) =>
          if now < yourTick then some (false, se)
          else
            match takeUINT64 p with
            | none => some (false, se)
            | some (maxAck, p) =>
                match takeUINT p with
                | none => some (false, se)
                | some (numAck, p) =>
                    if RUDP_MAX_NUM_ACK < numAck.toNat then some (false, se)
                    else if p.length < 8 * numAck.toNat + 8 then some (false, se)
                    else
                      let se := if 1 ≤ maxAck then se.rudpProcessAck2 maxAck.toNat else se
                      match recvAcks numAck.toNat se p with
                      | none => none
                      | some (se, p) => recvSeqNoAndPayload now se myTick yourTick p

/-- From the padding on. -/
def recvPlain (now : UInt64) (se : Session) (plain : List UInt8) : Option (Bool × Session) :=
  match plain.getLast? with
  | none => some (false, se)
  | some padlen =>
      if padlen = 0 then some (false, se)
      else if plain.length < padlen.toNat then some (false, se)
      else recvFields now se (plain.take (plain.length - padlen.toNat))

/-- `RUDPProcessRecvPacket`. -/
def processRecvPacket
    (crypto : BulkCrypto)
    (r : Stack)
    (se : SegmentSession)
    (recvData : List UInt8) :
    Option (Bool × Session) :=
  if recvData.length < SHA1_SIZE then some (false, se.stream)
  else if recvData.take SHA1_SIZE ≠
      segmentSign crypto r se.keyRecv.val (recvData.drop SHA1_SIZE) then
    some (false, se.stream)
  else
    let p := recvData.drop SHA1_SIZE
    if p.length < SHA1_SIZE then some (false, se.stream)
    else if (p.drop SHA1_SIZE).length < 1 then some (false, se.stream)
    else
      recvPlain r.now se.stream
        (crypto.encrypt (segmentCryptKey crypto (p.take SHA1_SIZE) se.keyRecv.val)
          (p.drop SHA1_SIZE))

/-- The numbers at the front of a block. -/
def takeAcks : Nat → List UInt8 → Option (List Nat × List UInt8)
  | 0, p => some ([], p)
  | count + 1, p =>
      match takeUINT64 p with
      | none => none
      | some (seq, p) => (takeAcks count p).map fun (acks, p) => (seq.toNat :: acks, p)

/-- The fields behind the number of acknowledgements. -/
def fieldsBehind (myTick yourTick maxAck : UInt64) (numAck : UInt32) (p : List UInt8) :
    Option Datagram :=
  if RUDP_MAX_NUM_ACK < numAck.toNat then none
  else
    match takeAcks numAck.toNat p with
    | none => none
    | some (acks, p) =>
        (takeUINT64 p).map fun (seqNo, payload) =>
          { myTick := myTick.toNat, yourTick := yourTick.toNat, maxAck := maxAck.toNat
            acks := acks, seqNo := seqNo.toNat, payload := payload }

/-- The fields that a block holds. -/
def fieldsOf (p : List UInt8) : Option Datagram :=
  match takeUINT64 p with
  | none => none
  | some (myTick, p) =>
      match takeUINT64 p with
      | none => none
      | some (yourTick, p) =>
          match takeUINT64 p with
          | none => none
          | some (maxAck, p) =>
              match takeUINT p with
              | none => none
              | some (numAck, p) => fieldsBehind myTick yourTick maxAck numAck p

/-- The block in front of the padding. -/
def unpadded (plain : List UInt8) : Option (List UInt8) :=
  match plain.getLast? with
  | none => none
  | some padlen =>
      if padlen = 0 ∨ plain.length < padlen.toNat then none
      else some (plain.take (plain.length - padlen.toNat))

/-- What is encrypted in a datagram that is signed with a key. -/
def decrypted
    (crypto : BulkCrypto)
    (r : Stack)
    (key recvData : List UInt8) :
    Option (List UInt8) :=
  let body := recvData.drop SHA1_SIZE
  if recvData.take SHA1_SIZE = segmentSign crypto r key body ∧ SHA1_SIZE < body.length then
    some (crypto.encrypt (segmentCryptKey crypto (body.take SHA1_SIZE) key)
      (body.drop SHA1_SIZE))
  else none

/-- The fields of a datagram that is signed with a key. -/
def segmentFields
    (crypto : BulkCrypto)
    (r : Stack)
    (key recvData : List UInt8) :
    Option Datagram :=
  ((decrypted crypto r key recvData).bind unpadded).bind fieldsOf

/-! ## The receiver takes the fields -/

theorem takeUINT64_of_short
    {p : List UInt8}
    (short : p.length < 8) :
    takeUINT64 p = none := by
  simp [takeUINT64, readUINT64, short]

theorem takeUINT64_of_long
    {p : List UInt8}
    (long : 8 ≤ p.length) :
    ∃ value, takeUINT64 p = some (value, p.drop 8) := by
  simp [takeUINT64, readUINT64, long]

theorem eq_drop_of_takeUINT64
    {p rest : List UInt8}
    {value : UInt64}
    (taken : takeUINT64 p = some (value, rest)) :
    8 ≤ p.length ∧ rest = p.drop 8 := by
  by_cases long : 8 ≤ p.length
  · obtain ⟨other, same⟩ := takeUINT64_of_long long
    rw [same] at taken
    exact ⟨long, (Prod.mk.inj (Option.some.inj taken)).2.symm⟩
  · rw [takeUINT64_of_short (Nat.lt_of_not_le long)] at taken
    exact nomatch taken

/-- A block with so many numbers in front: the loop takes them and works on the session. -/
theorem recvAcks_eq
    {count : Nat}
    {p : List UInt8}
    (long : 8 * count ≤ p.length) :
    ∃ acks, acks.length = count ∧ takeAcks count p = some (acks, p.drop (8 * count)) ∧
      ∀ se : Session, recvAcks count se p =
        some (acks.foldl Session.rudpProcessAck se, p.drop (8 * count)) := by
  induction count generalizing p with
  | zero => exact ⟨[], rfl, rfl, fun _ => rfl⟩
  | succ count inductionHypothesis =>
      obtain ⟨seq, first⟩ := takeUINT64_of_long (show 8 ≤ p.length by omega)
      have rest : 8 * count ≤ (p.drop 8).length := by
        rw [List.length_drop]
        omega
      obtain ⟨acks, length, taken, received⟩ := inductionHypothesis rest
      have behind : (p.drop 8).drop (8 * count) = p.drop (8 * (count + 1)) := by
        rw [List.drop_drop]
        congr 1
        omega
      refine ⟨seq.toNat :: acks, congrArg (· + 1) length, ?_, ?_⟩
      · rw [takeAcks, first]
        dsimp only
        rw [taken, behind]
        rfl
      · intro se
        rw [recvAcks, first]
        dsimp only
        rw [received, behind]
        rfl

theorem length_of_takeAcks
    {count : Nat}
    {p rest : List UInt8}
    {acks : List Nat}
    (taken : takeAcks count p = some (acks, rest)) :
    8 * count + rest.length = p.length := by
  induction count generalizing p acks with
  | zero =>
      injection taken with same
      rw [(Prod.mk.inj same).2, Nat.mul_zero, Nat.zero_add]
  | succ count inductionHypothesis =>
      cases first : takeUINT64 p with
      | none =>
          rw [takeAcks, first] at taken
          exact nomatch taken
      | some result =>
          obtain ⟨seq, behind⟩ := result
          obtain ⟨long, same⟩ := eq_drop_of_takeUINT64 first
          rw [takeAcks, first] at taken
          obtain ⟨⟨others, last⟩, inner, equal⟩ := Option.map_eq_some_iff.mp taken
          have left : takeAcks count behind = some (others, rest) := by
            rw [inner, (Prod.mk.inj equal).2]
          have total := inductionHypothesis left
          rw [same, List.length_drop] at total
          omega

/-- What the receiver makes of the fields of a block. -/
def receive (now : UInt64) (se : Session) : Option Datagram → Bool × Session
  | none => (false, se)
  | some d =>
      if now.toNat < d.yourTick then (false, se)
      else (true, se.rudpProcessRecvPacket now.toNat d)

theorem receive_fieldsBehind
    {now myTick yourTick maxAck : UInt64}
    {numAck : UInt32}
    {se : Session}
    {p : List UInt8}
    (past : ¬now < yourTick) :
    (if RUDP_MAX_NUM_ACK < numAck.toNat then some (false, se)
    else if p.length < 8 * numAck.toNat + 8 then some (false, se)
    else
      match recvAcks numAck.toNat
          (if 1 ≤ maxAck then se.rudpProcessAck2 maxAck.toNat else se) p with
      | none => none
      | some (se, p) => recvSeqNoAndPayload now se myTick yourTick p) =
      some (receive now se (fieldsBehind myTick yourTick maxAck numAck p)) := by
  unfold fieldsBehind
  by_cases few : RUDP_MAX_NUM_ACK < numAck.toNat
  · rw [if_pos few, if_pos few]
    rfl
  rw [if_neg few, if_neg few]
  by_cases short : p.length < 8 * numAck.toNat + 8
  · rw [if_pos short]
    cases taken : takeAcks numAck.toNat p with
    | none => rfl
    | some result =>
        obtain ⟨acks, rest⟩ := result
        have total := length_of_takeAcks taken
        dsimp only
        rw [takeUINT64_of_short (by omega)]
        rfl
  · rw [if_neg short]
    obtain ⟨acks, length, taken, received⟩ :=
      recvAcks_eq (show 8 * numAck.toNat ≤ p.length by omega)
    have rest : 8 ≤ (p.drop (8 * numAck.toNat)).length := by
      rw [List.length_drop]
      omega
    obtain ⟨seqNo, last⟩ := takeUINT64_of_long rest
    have fewAcks : ¬RUDP_MAX_NUM_ACK < acks.length := by
      rw [length]
      exact few
    have acknowledged : (1 ≤ maxAck) ↔ (1 ≤ maxAck.toNat) := UInt64.le_iff_toNat_le
    rw [received, taken]
    dsimp only [recvSeqNoAndPayload]
    rw [last, Option.map_some, receive, if_neg (UInt64.lt_iff_toNat_lt.not.mp past),
      Session.rudpProcessRecvPacket, if_neg (UInt64.lt_iff_toNat_lt.not.mp past),
      if_neg fewAcks]
    simp only [acknowledged]
    rfl

theorem receive_past
    {now myTick yourTick maxAck : UInt64}
    {numAck : UInt32}
    {se : Session}
    {p : List UInt8}
    (past : now < yourTick) :
    receive now se (fieldsBehind myTick yourTick maxAck numAck p) = (false, se) := by
  cases fields : fieldsBehind myTick yourTick maxAck numAck p with
  | none => rfl
  | some d =>
      have tick : d.yourTick = yourTick.toNat := by
        unfold fieldsBehind at fields
        split at fields
        · exact nomatch fields
        · split at fields
          · exact nomatch fields
          · obtain ⟨_, _, same⟩ := Option.map_eq_some_iff.mp fields
            rw [← same]
      rw [receive, tick, if_pos (UInt64.lt_iff_toNat_lt.mp past)]

/-- The code from the ticks on. -/
theorem recvFields_eq (now : UInt64) (se : Session) (p : List UInt8) :
    recvFields now se p = some (receive now se (fieldsOf p)) := by
  unfold recvFields fieldsOf
  cases takeUINT64 p with
  | none => rfl
  | some result =>
    obtain ⟨myTick, p⟩ := result
    dsimp only
    cases takeUINT64 p with
    | none => rfl
    | some result =>
      obtain ⟨yourTick, p⟩ := result
      dsimp only
      by_cases past : now < yourTick
      · rw [if_pos past]
        cases takeUINT64 p with
        | none => rfl
        | some result =>
          obtain ⟨maxAck, p⟩ := result
          dsimp only
          cases takeUINT p with
          | none => rfl
          | some result => exact congrArg some (receive_past past).symm
      · rw [if_neg past]
        cases takeUINT64 p with
        | none => rfl
        | some result =>
          obtain ⟨maxAck, p⟩ := result
          dsimp only
          cases takeUINT p with
          | none => rfl
          | some result => exact receive_fieldsBehind past

/-- The code from the padding on. -/
theorem recvPlain_eq (now : UInt64) (se : Session) (plain : List UInt8) :
    recvPlain now se plain = some (receive now se ((unpadded plain).bind fieldsOf)) := by
  unfold recvPlain unpadded
  cases plain.getLast? with
  | none => rfl
  | some padlen =>
      dsimp only
      by_cases zero : padlen = 0
      · rw [if_pos zero, if_pos (.inl zero)]
        rfl
      rw [if_neg zero]
      by_cases short : plain.length < padlen.toNat
      · rw [if_pos short, if_pos (.inr short)]
        rfl
      · rw [if_neg short, if_neg (not_or.mpr ⟨zero, short⟩)]
        exact recvFields_eq now se _

theorem processRecvPacket_eq
    (crypto : BulkCrypto)
    (r : Stack)
    (se : SegmentSession)
    (recvData : List UInt8) :
    processRecvPacket crypto r se recvData =
      some (receive r.now se.stream (segmentFields crypto r se.keyRecv.val recvData)) := by
  unfold processRecvPacket segmentFields decrypted
  dsimp only
  by_cases signed : recvData.take SHA1_SIZE =
      segmentSign crypto r se.keyRecv.val (recvData.drop SHA1_SIZE)
  · by_cases long : SHA1_SIZE < (recvData.drop SHA1_SIZE).length
    · have whole : ¬recvData.length < SHA1_SIZE := by
        rw [List.length_drop] at long
        omega
      have some_ : ¬((recvData.drop SHA1_SIZE).drop SHA1_SIZE).length < 1 := by
        rw [List.length_drop]
        omega
      rw [if_neg whole, if_neg (not_not.mpr signed), if_neg (Nat.not_lt.mpr long.le),
        if_neg some_, if_pos ⟨signed, long⟩]
      exact recvPlain_eq r.now se.stream _
    · have short : ((recvData.drop SHA1_SIZE).drop SHA1_SIZE).length < 1 := by
        rw [List.length_drop]
        omega
      rw [if_neg (not_and_of_not_right _ long), if_neg (not_not.mpr signed), if_pos short,
        ite_self, ite_self]
      rfl
  · rw [if_neg (not_and_of_not_left _ signed), if_pos signed, ite_self]
    rfl

/-! ## What is sent is received -/

/-- The numbers of a datagram are `UINT64` values, and there are not too many of them. -/
structure Datagram.Fits (d : Datagram) : Prop where
  myTick : d.myTick < X64
  yourTick : d.yourTick < X64
  maxAck : d.maxAck < X64
  /-- The acknowledgements. -/
  acks : ∀ seq ∈ d.acks, seq < X64
  /-- The number of acknowledgements. -/
  few : d.acks.length ≤ RUDP_MAX_NUM_ACK
  /-- `SEQ`. -/
  seqNo : d.seqNo < X64
  /-- The data. -/
  payload : d.payload.length ≤ RUDP_MAX_SEGMENT_SIZE

theorem length_writeUINT64 (value : Nat) : (writeUINT64 value).length = 8 :=
  length_bigEndian 8 _

theorem takeUINT64_write
    {value : Nat}
    (small : value < X64)
    (rest : List UInt8) :
    ∃ taken, takeUINT64 (writeUINT64 value ++ rest) = some (taken, rest) ∧
      taken.toNat = value := by
  refine ⟨UInt64.ofNat value, ?_, ?_⟩
  · rw [takeUINT64, writeUINT64, readUINT64_write, Option.map_some]
    have length : (writeBufInt64 (UInt64.ofNat value)).length = 8 := length_writeUINT64 value
    rw [← length, List.drop_left]
  · exact UInt64.toNat_ofNat_of_lt' small

theorem takeAcks_write
    {acks : List Nat}
    (small : ∀ seq ∈ acks, seq < X64)
    (rest : List UInt8) :
    takeAcks acks.length (acks.flatMap writeUINT64 ++ rest) = some (acks, rest) := by
  induction acks with
  | nil => rfl
  | cons seq others inductionHypothesis =>
      obtain ⟨first, others_⟩ := List.forall_mem_cons.mp small
      obtain ⟨taken, read, same⟩ := takeUINT64_write first (others.flatMap writeUINT64 ++ rest)
      rw [List.flatMap_cons, List.append_assoc, List.length_cons, takeAcks, read]
      dsimp only
      rw [inductionHypothesis others_, same]
      rfl

theorem fieldsOf_write {d : Datagram} (fits : d.Fits) :
    fieldsOf (writeUINT64 d.myTick ++ (writeUINT64 d.yourTick ++ (writeUINT64 d.maxAck ++
      (writeBufInt (UInt32.ofNat d.acks.length) ++ (d.acks.flatMap writeUINT64 ++
        (writeUINT64 d.seqNo ++ d.payload)))))) = some d := by
  obtain ⟨myTick, first, sameMyTick⟩ := takeUINT64_write fits.myTick
    (writeUINT64 d.yourTick ++ (writeUINT64 d.maxAck ++
      (writeBufInt (UInt32.ofNat d.acks.length) ++ (d.acks.flatMap writeUINT64 ++
        (writeUINT64 d.seqNo ++ d.payload)))))
  obtain ⟨yourTick, second, sameYourTick⟩ := takeUINT64_write fits.yourTick
    (writeUINT64 d.maxAck ++ (writeBufInt (UInt32.ofNat d.acks.length) ++
      (d.acks.flatMap writeUINT64 ++ (writeUINT64 d.seqNo ++ d.payload))))
  obtain ⟨maxAck, third, sameMaxAck⟩ := takeUINT64_write fits.maxAck
    (writeBufInt (UInt32.ofNat d.acks.length) ++ (d.acks.flatMap writeUINT64 ++
      (writeUINT64 d.seqNo ++ d.payload)))
  obtain ⟨seqNo, last, sameSeqNo⟩ := takeUINT64_write fits.seqNo d.payload
  have few := fits.few
  have count : (UInt32.ofNat d.acks.length).toNat = d.acks.length := by
    apply UInt32.toNat_ofNat_of_lt'
    exact Nat.lt_of_le_of_lt few (by decide)
  have number : takeUINT (writeBufInt (UInt32.ofNat d.acks.length) ++
      (d.acks.flatMap writeUINT64 ++ (writeUINT64 d.seqNo ++ d.payload))) =
        some (UInt32.ofNat d.acks.length,
          d.acks.flatMap writeUINT64 ++ (writeUINT64 d.seqNo ++ d.payload)) := by
    rw [takeUINT, readUINT_write, Option.map_some]
    have length : (writeBufInt (UInt32.ofNat d.acks.length)).length = 4 := length_bigEndian 4 _
    rw [← length, List.drop_left]
  simp only [fieldsOf, first, second, third, number, fieldsBehind, count,
    if_neg (Nat.not_lt.mpr few), takeAcks_write fits.acks, last, Option.map_some, sameMyTick,
    sameYourTick, sameMaxAck, sameSeqNo]

theorem unpadded_append
    (block : List UInt8)
    {padlen : UInt8}
    (padded : padlen ≠ 0) :
    unpadded (block ++ List.replicate padlen.toNat padlen) = some block := by
  have positive : padlen.toNat ≠ 0 := fun zero => padded (UInt8.toNat_inj.mp zero)
  have last : (block ++ List.replicate padlen.toNat padlen).getLast? = some padlen := by
    rw [List.getLast?_append, List.getLast?_replicate, if_neg positive]
    rfl
  have long : ¬(block ++ List.replicate padlen.toNat padlen).length < padlen.toNat := by
    rw [List.length_append, List.length_replicate]
    omega
  rw [unpadded, last]
  dsimp only
  rw [if_neg (not_or.mpr ⟨padded, long⟩), List.length_append, List.length_replicate,
    Nat.add_sub_cancel, List.take_left]

section

variable {crypto : BulkCrypto}
variable {r : Stack}

theorem length_segmentSign (lawful : crypto.Lawful) (key body : List UInt8) :
    (segmentSign crypto r key body).length = SHA1_SIZE := by
  unfold segmentSign
  dsimp only
  split
  · rw [xorData, List.length_zipWith, lawful.hashSha1_length, r.svcNameHash.property,
      Nat.min_self]
  · exact lawful.hashSha1_length _

theorem length_segmentClearText (d : Datagram) (padlen : UInt8) :
    (segmentClearText d padlen).length =
      36 + 8 * d.acks.length + d.payload.length + padlen.toNat := by
  have acks : (d.acks.flatMap writeUINT64).length = 8 * d.acks.length := by
    rw [List.length_flatMap]
    simp [length_writeUINT64, Nat.mul_comm]
  have number : (writeBufInt (UInt32.ofNat d.acks.length)).length = 4 := length_bigEndian 4 _
  simp only [segmentClearText, List.length_append, length_writeUINT64, acks, number,
    List.length_replicate]
  omega

theorem length_segmentDatagram
    (lawful : crypto.Lawful)
    (se : SegmentSession)
    (d : Datagram)
    (padlen : UInt8) :
    (segmentDatagram crypto r se d padlen).length =
      2 * SHA1_SIZE + (36 + 8 * d.acks.length + d.payload.length + padlen.toNat) := by
  rw [segmentDatagram, List.length_append, length_segmentSign lawful, List.length_append,
    se.segmentNextIv.property, lawful.encrypt_length, length_segmentClearText]
  omega

theorem segmentFields_segmentDatagram
    {peerStack : Stack}
    (lawful : crypto.Lawful)
    (protocol : peerStack.protocol = r.protocol)
    (svcNameHash : peerStack.svcNameHash = r.svcNameHash)
    (se : SegmentSession)
    {d : Datagram}
    (fits : d.Fits)
    {padlen : UInt8}
    (padded : padlen ≠ 0) :
    segmentFields crypto peerStack se.keySend.val (segmentDatagram crypto r se d padlen) =
      some d := by
  have sign : ∀ key body, segmentSign crypto peerStack key body =
      segmentSign crypto r key body := by
    intro key body
    rw [segmentSign, segmentSign, protocol, svcNameHash]
  have iv := se.segmentNextIv.property
  have clear : decrypted crypto peerStack se.keySend.val
      (segmentDatagram crypto r se d padlen) = some (segmentClearText d padlen) := by
    have length := length_segmentClearText d padlen
    unfold decrypted segmentDatagram
    dsimp only
    rw [List.take_left' (length_segmentSign lawful _ _),
      List.drop_left' (length_segmentSign lawful _ _), List.take_left' iv,
      List.drop_left' iv, if_pos, lawful.encrypt_encrypt]
    refine ⟨(sign _ _).symm, ?_⟩
    rw [List.length_append, iv, lawful.encrypt_length, length]
    omega
  rw [segmentFields, clear, Option.bind_some]
  have shape : segmentClearText d padlen = (writeUINT64 d.myTick ++ (writeUINT64 d.yourTick ++
      (writeUINT64 d.maxAck ++ (writeBufInt (UInt32.ofNat d.acks.length) ++
        (d.acks.flatMap writeUINT64 ++ (writeUINT64 d.seqNo ++ d.payload)))))) ++
          List.replicate padlen.toNat padlen := by
    simp only [segmentClearText, List.append_assoc]
  rw [shape, unpadded_append _ padded, Option.bind_some]
  exact fieldsOf_write fits

end

theorem fits_rudpSendSegmentNow
    {se : Session}
    {now seqNo : UInt64}
    {data : List UInt8}
    (yourTick : se.yourTick < X64)
    (lastRecvCompleteSeqNo : se.lastRecvCompleteSeqNo < X64)
    (replyAckList : ∀ seq ∈ se.replyAckList, seq < X64)
    (short : data.length ≤ RUDP_MAX_SEGMENT_SIZE) :
    (se.rudpSendSegmentNow now.toNat seqNo.toNat data).1.Fits where
  myTick := now.toNat_lt
  yourTick := yourTick
  maxAck := lastRecvCompleteSeqNo
  acks := fun seq listed => replyAckList seq (List.mem_of_mem_take listed)
  few := List.length_take_le _ _
  seqNo := seqNo.toNat_lt
  payload := short

theorem padlenOf_ne_zero (rand8 : UInt8) : padlenOf rand8 ≠ 0 := by
  have every : ∀ rand8 : UInt8, padlenOf rand8 ≠ 0 := forall_byte (by decide +kernel)
  exact every rand8

/-- A segment datagram fits its buffer and is accepted by the peer with the mirrored keys,
which finds the fields that were sent and works on its session with them; a datagram that is
rejected leaves the session as it was. -/
theorem segment_received
    {crypto : BulkCrypto}
    {r peerStack : Stack}
    {se peer : SegmentSession}
    (lawful : crypto.Lawful)
    (mirrored : peer.keyRecv = se.keySend)
    (protocol : peerStack.protocol = r.protocol)
    (svcNameHash : peerStack.svcNameHash = r.svcNameHash)
    (yourTick : se.stream.yourTick < X64)
    (lastRecvCompleteSeqNo : se.stream.lastRecvCompleteSeqNo < X64)
    (replyAckList : ∀ seq ∈ se.stream.replyAckList, seq < X64)
    (seqNo : UInt64)
    {data : List UInt8}
    (short : data.length ≤ RUDP_MAX_SEGMENT_SIZE)
    (rand8 : UInt8)
    (rand32 : UInt32)
    (notBehind : se.stream.yourTick ≤ peerStack.now.toNat) :
    (∃ dst after, sendSegmentNow crypto r se seqNo data rand8 rand32 = some (dst, after) ∧
      dst.length ≤ RUDP_MAX_PACKET_SIZE ∧
      segmentFields crypto peerStack peer.keyRecv.val dst = some
        { myTick := r.now.toNat, yourTick := se.stream.yourTick
          maxAck := se.stream.lastRecvCompleteSeqNo
          acks := se.stream.replyAckList.take RUDP_MAX_NUM_ACK
          seqNo := seqNo.toNat, payload := data } ∧
      processRecvPacket crypto peerStack peer dst = some (true,
        peer.stream.rudpProcessRecvPacket peerStack.now.toNat
          (se.stream.rudpSendSegmentNow r.now.toNat seqNo.toNat data).1)) ∧
    ∀ recvData, ∃ accepted after,
      processRecvPacket crypto peerStack peer recvData = some (accepted, after) ∧
        (accepted = false → after = peer.stream) := by
  constructor
  · have fits : (se.stream.rudpSendSegmentNow r.now.toNat seqNo.toNat data).1.Fits :=
      fits_rudpSendSegmentNow yourTick lastRecvCompleteSeqNo replyAckList short
    have fields := segmentFields_segmentDatagram lawful protocol svcNameHash se fits
      (padlenOf_ne_zero rand8)
    rw [← mirrored] at fields
    refine ⟨segmentDatagram crypto r se
        (se.stream.rudpSendSegmentNow r.now.toNat seqNo.toNat data).1 (padlenOf rand8),
      _, if_neg (Nat.not_lt.mpr short), ?_, fields, ?_⟩
    · rw [length_segmentDatagram lawful]
      have few := fits.few
      have payload := fits.payload
      have padlen := (padlenOf rand8).toNat_lt
      unfold RUDP_MAX_PACKET_SIZE
      omega
    · rw [processRecvPacket_eq, fields]
      exact congrArg some (if_neg (Nat.not_lt.mpr notBehind))
  · intro recvData
    refine ⟨_, _, processRecvPacket_eq crypto peerStack peer recvData, ?_⟩
    intro rejected
    cases fields : segmentFields crypto peerStack peer.keyRecv.val recvData with
    | none => rfl
    | some d =>
        rw [fields] at rejected
        dsimp only [receive] at rejected ⊢
        split at rejected
        case isTrue past => rw [if_pos past]
        case isFalse => exact nomatch rejected

/-- The key of the stream cipher for a key of ones and an initial vector of twos. -/
def onesCryptKey : List UInt8 :=
  [74, 201, 182, 104, 94, 43, 10, 57, 96, 102, 197, 159, 96, 182, 241, 17, 195, 142, 244, 238]

def onesKeyStream : List UInt8 :=
  [5, 70, 156, 42, 177, 16, 121, 16, 217, 66, 253, 221, 128, 39, 79, 64, 247, 237, 224, 58, 122,
    230, 20, 114, 189, 183, 25, 0, 223, 143, 19, 213, 252, 159, 34, 198, 109, 56, 11, 77, 228,
    165, 182, 174, 60, 0, 206, 119, 42]

/-- The cipher text of a segment with one acknowledgement. -/
def onesCipherText : List UInt8 :=
  [5, 70, 156, 42, 177, 16, 122, 248, 217, 66, 253, 221, 128, 39, 76, 196, 247, 237, 224, 58,
    122, 230, 20, 119, 189, 183, 25, 1, 223, 143, 19, 213, 252, 159, 34, 193, 109, 56, 11, 77,
    228, 165, 182, 173, 125, 66, 141, 117, 40]

def onesSign : List UInt8 :=
  [67, 108, 17, 17, 246, 119, 105, 178, 189, 92, 132, 2, 213, 192, 203, 143, 133, 219, 52, 153]

def cryptoOfSegment : BulkCrypto :=
  { cryptoOfBlock with
    hashSha1 := fun src =>
      if src = List.replicate 20 2 ++ List.replicate 20 1 then onesCryptKey
      else if src = List.replicate 20 1 ++ List.replicate 20 2 ++ onesCipherText then onesSign
      else List.replicate SHA1_SIZE 0
    encrypt := fun _ src => src.mapIdx fun place byte => byte ^^^ onesKeyStream.getD place 0 }

theorem cryptoOfSegment_lawful : cryptoOfSegment.Lawful := by
  have block : cryptoOfBlock.Lawful := cryptoOf_lawful (by decide) (by decide)
  refine ⟨?_, block.hMacSha1_length, ?_, ?_, block.aeadEncrypt_length, block.aeadDecrypt_length,
    block.aeadDecrypt_aeadEncrypt⟩
  · intro src
    dsimp only [cryptoOfSegment]
    split
    · decide
    · split
      · decide
      · exact List.length_replicate
  · intro key src
    exact List.length_mapIdx
  · intro key src
    apply List.ext_getElem?
    intro place
    simp only [cryptoOfSegment, List.getElem?_mapIdx, Option.map_map]
    cases src[place]? with
    | none => rfl
    | some byte =>
        simp only [Option.map_some, Function.comp_apply, UInt8.xor_assoc, UInt8.xor_self,
          UInt8.xor_zero]

def stackAt (now : UInt64) : Stack where
  now := now
  protocol := .udp
  svcNameHash := ⟨List.replicate SHA1_SIZE 0, List.length_replicate⟩

/-- A session with keys of ones that has one segment to acknowledge. -/
def onesSession : SegmentSession where
  stream :=
    { serverMode := false
      status := .established
      magicKeepAliveRequest := []
      magicKeepAliveResponse := []
      lastRecvCompleteSeqNo := 5
      replyAckList := [7]
      yourTick := 900 }
  keySend := ⟨List.replicate SHA1_SIZE 1, List.length_replicate⟩
  keyRecv := ⟨List.replicate SHA1_SIZE 1, List.length_replicate⟩
  segmentNextIv := ⟨List.replicate SHA1_SIZE 2, List.length_replicate⟩

/-- The datagram of a segment of three bytes with the number 3. -/
theorem segment_received_ones :
    ∃ dst after, sendSegmentNow cryptoOfSegment (stackAt 1000) onesSession 3 [65, 66, 67] 2 0 =
        some (dst, after) ∧
      dst = onesSign ++ List.replicate 20 2 ++ onesCipherText ∧
      segmentFields cryptoOfSegment (stackAt 950) onesSession.keyRecv.val dst = some
        { myTick := 1000, yourTick := 900, maxAck := 5, acks := [7], seqNo := 3
          payload := [65, 66, 67] } := by
  obtain ⟨⟨dst, after, sent, _, fields, _⟩, _⟩ :=
    @segment_received cryptoOfSegment (stackAt 1000) (stackAt 950) onesSession onesSession
      cryptoOfSegment_lawful rfl rfl rfl (by decide) (by decide) (by decide) 3 [65, 66, 67]
      (by decide) 2 0 (by decide)
  have bytes : (sendSegmentNow cryptoOfSegment (stackAt 1000) onesSession 3 [65, 66, 67] 2
      0).map Prod.fst = some (onesSign ++ List.replicate 20 2 ++ onesCipherText) := by
    decide +kernel
  rw [sent, Option.map_some] at bytes
  exact ⟨dst, after, sent, Option.some.inj bytes, fields⟩

end Rudp
end SoftEther
