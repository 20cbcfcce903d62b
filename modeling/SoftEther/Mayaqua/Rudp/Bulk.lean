import SoftEther.Mayaqua.Buf
import SoftEther.Mayaqua.Memory

/-!
# Bulk datagrams of R-UDP

The datagrams for bulk data of `Network.c`: `RUDPBulkSend` builds one, and
`RUDPProcessBulkRecvPacket` of the peer takes it apart from both ends.  A datagram of
version 2 has an initial vector and an authenticated cipher text, one of version 1 a
signature, an initial vector and a cipher text.  The clear text is a sequence number, the
data and a padding whose last byte is its length.  The ciphers and hashes are OpenSSL's.
-/

namespace SoftEther
namespace Rudp

def SHA1_SIZE : Nat := 20

def RUDP_BULK_KEY_SIZE_V2 : Nat := 32

def RUDP_BULK_IV_SIZE_V2 : Nat := 12

def RUDP_BULK_MAC_SIZE_V2 : Nat := 16

def RUDP_BULK_SEQ_NO_RANGE : UInt64 := 16384

/-- The ciphers and hashes that the datagrams use. -/
structure BulkCrypto where
  hashSha1 : List UInt8 → List UInt8
  /-- `HMacSha1` with a key. -/
  hMacSha1 : List UInt8 → List UInt8 → List UInt8
  /-- `Encrypt` with the `NewCrypt` of a key. -/
  encrypt : List UInt8 → List UInt8 → List UInt8
  /-- `Aead_ChaCha20Poly1305_Ietf_Encrypt` with a key and a nonce. -/
  aeadEncrypt : List UInt8 → List UInt8 → List UInt8 → List UInt8
  /-- `Aead_ChaCha20Poly1305_Ietf_Decrypt` with a key and a nonce. -/
  aeadDecrypt : List UInt8 → List UInt8 → List UInt8 → Option (List UInt8)

/-- What the code relies on of the ciphers and hashes. -/
structure BulkCrypto.Lawful (crypto : BulkCrypto) : Prop where
  hashSha1_length : ∀ src, (crypto.hashSha1 src).length = SHA1_SIZE
  hMacSha1_length : ∀ key src, (crypto.hMacSha1 key src).length = SHA1_SIZE
  /-- The stream cipher keeps the size. -/
  encrypt_length : ∀ key src, (crypto.encrypt key src).length = src.length
  /-- The stream cipher undoes itself. -/
  encrypt_encrypt : ∀ key src, crypto.encrypt key (crypto.encrypt key src) = src
  /-- The cipher text is longer by the tag. -/
  aeadEncrypt_length : ∀ key nonce src,
    (crypto.aeadEncrypt key nonce src).length = src.length + RUDP_BULK_MAC_SIZE_V2
  /-- The clear text is shorter by the tag. -/
  aeadDecrypt_length : ∀ key nonce src plain, crypto.aeadDecrypt key nonce src = some plain →
    plain.length + RUDP_BULK_MAC_SIZE_V2 = src.length
  aeadDecrypt_aeadEncrypt : ∀ key nonce src,
    crypto.aeadDecrypt key nonce (crypto.aeadEncrypt key nonce src) = some src

/-- `SHARED_BUFFER` of a key. -/
structure SharedBuffer where
  data : List UInt8
  /-- `Size`, which becomes that of the version after the keys have been exchanged. -/
  size : Nat
  deriving DecidableEq

/-- The part of `RUDP_SESSION` that bulk datagrams use. -/
structure BulkSession where
  bulkSendKey : SharedBuffer
  bulkRecvKey : SharedBuffer
  useHMac : Bool
  bulkNextSeqNo : UInt64
  bulkNextIv : ByteArrayOf SHA1_SIZE
  bulkNextIvV2 : ByteArrayOf RUDP_BULK_IV_SIZE_V2
  bulkRecvSeqNoMax : UInt64
  lastRecvTick : Nat

/-- The sequence number, the data and the padding. -/
def bulkClearText (seqNo : UInt64) (data : List UInt8) (paddingSize : UInt8) : List UInt8 :=
  writeBufInt64 seqNo ++ data ++ List.replicate paddingSize.toNat paddingSize

/-- The key of the stream cipher. -/
def bulkCryptKey (crypto : BulkCrypto) (key iv : List UInt8) : List UInt8 :=
  crypto.hashSha1 (key.take SHA1_SIZE ++ iv)

/-- What a datagram of version 1 holds behind its signature. -/
def bulkBody (crypto : BulkCrypto) (key iv clearText : List UInt8) : List UInt8 :=
  iv ++ crypto.encrypt (bulkCryptKey crypto key iv) clearText

/-- The signature of a datagram of version 1. -/
def bulkSign (crypto : BulkCrypto) (useHMac : Bool) (key body : List UInt8) : List UInt8 :=
  if useHMac then crypto.hMacSha1 (key.take SHA1_SIZE) body
  else crypto.hashSha1 (key.take SHA1_SIZE ++ body)

/-- The datagram that `RUDPBulkSend` builds, of the version that the size of the key
gives. -/
def bulkDatagram
    (crypto : BulkCrypto)
    (se : BulkSession)
    (data : List UInt8)
    (paddingSize : UInt8) :
    List UInt8 :=
  let clearText := bulkClearText se.bulkNextSeqNo data paddingSize
  let key := se.bulkSendKey.data
  if se.bulkSendKey.size = RUDP_BULK_KEY_SIZE_V2 then
    se.bulkNextIvV2.val ++
      crypto.aeadEncrypt (key.take RUDP_BULK_KEY_SIZE_V2) se.bulkNextIvV2.val clearText
  else
    let body := bulkBody crypto key se.bulkNextIv.val clearText
    bulkSign crypto se.useHMac key body ++ body

/-- The bytes of the next initial vector: `size` of them in front of `stop`. -/
def nextIv {size : Nat} (old : ByteArrayOf size) (datagram : List UInt8) (stop : Nat) :
    ByteArrayOf size :=
  if inside : ((datagram.drop (stop - size)).take size).length = size then
    ⟨(datagram.drop (stop - size)).take size, inside⟩
  else old

/-- `RUDPBulkSend` of a block with a padding between 1 and 31: the datagram and the session.
There is nothing when the size of the datagram wraps and the memory is too small. -/
def rudpBulkSend
    (crypto : BulkCrypto)
    (se : BulkSession)
    (data : List UInt8)
    (paddingSize : UInt8) :
    Option (List UInt8 × BulkSession) :=
  let datagram := bulkDatagram crypto se data paddingSize
  if datagram.length < X32 then
    let se := { se with bulkNextSeqNo := se.bulkNextSeqNo + 1 }
    some (datagram,
      if se.bulkSendKey.size = RUDP_BULK_KEY_SIZE_V2 then
        { se with
          bulkNextIvV2 :=
            nextIv se.bulkNextIvV2 datagram (datagram.length - RUDP_BULK_MAC_SIZE_V2) }
      else { se with bulkNextIv := nextIv se.bulkNextIv datagram datagram.length })
  else none

/-! ## Receiving -/

/-- The pointer `p` into the memory of a datagram and the `size` that is left. -/
structure Strip where
  memory : List UInt8
  p : Nat
  size : Nat
  wrapped : Bool := false
  deriving DecidableEq

namespace Strip

/-- `p += count` and `size -= count`. -/
def front : Strip → Nat → Strip
  | ⟨memory, p, size, wrapped⟩, count =>
      ⟨memory, p + count, subUINT size count, wrapped || size < count⟩

/-- `size -= count`. -/
def back : Strip → Nat → Strip
  | ⟨memory, p, size, wrapped⟩, count =>
      ⟨memory, p, subUINT size count, wrapped || size < count⟩

/-- The bytes that are left. -/
def rest (s : Strip) : List UInt8 :=
  (s.memory.drop s.p).take s.size

/-- The bytes at `p` are replaced by their decryption. -/
def overwrite (s : Strip) (data : List UInt8) : Strip :=
  { s with memory := copyAt s.memory s.p data }

end Strip

/-- What becomes of a datagram. -/
inductive BulkOutcome
  /-- A byte behind the end of the memory is read. -/
  | outside
  /-- `RUDPProcessBulkRecvPacket` returns false. -/
  | rejected
  /-- It returns true; the payload goes to the tube of the socket when there is one. -/
  | accepted (payload : Option (List UInt8))
  deriving DecidableEq

/-- A call of `RUDPProcessBulkRecvPacket`. -/
structure BulkRun where
  /-- What becomes of the datagram. -/
  outcome : BulkOutcome
  session : BulkSession
  wrapped : Bool

/-- The sequence number is valid and not too small. -/
def seqNoAllowed (seqNo bulkRecvSeqNoMax : UInt64) : Prop :=
  ¬(seqNo = 0 ∨ 0xF000000000000000 ≤ seqNo) ∧
    ¬seqNo + RUDP_BULK_SEQ_NO_RANGE < bulkRecvSeqNoMax

instance (seqNo bulkRecvSeqNoMax : UInt64) : Decidable (seqNoAllowed seqNo bulkRecvSeqNoMax) :=
  inferInstanceAs (Decidable (_ ∧ _))

/-- From the sequence number on. -/
def recvSeqNo (hasTube : Bool) (now : Nat) (se : BulkSession) (s : Strip) : BulkRun :=
  match readUINT64 (s.memory.drop s.p) with
  | none => ⟨.outside, se, s.wrapped⟩
  | some seqNo =>
      let s := s.front 8
      if seqNoAllowed seqNo se.bulkRecvSeqNoMax then
        let se :=
          { se with
            lastRecvTick := now
            bulkRecvSeqNoMax := if seqNo > se.bulkRecvSeqNoMax then seqNo
              else se.bulkRecvSeqNoMax }
        if hasTube then
          match clone (s.memory.drop s.p) s.size with
          | none => ⟨.outside, se, s.wrapped⟩
          | some payload => ⟨.accepted (some payload), se, s.wrapped⟩
        else ⟨.accepted none, se, s.wrapped⟩
      else ⟨.rejected, se, s.wrapped⟩

def recvPadding (hasTube : Bool) (now : Nat) (se : BulkSession) (s : Strip) : BulkRun :=
  match (s.memory.drop s.p)[subUINT s.size 1]? with
  | none => ⟨.outside, se, s.wrapped⟩
  | some padlen =>
      if padlen = 0 then ⟨.rejected, se, s.wrapped⟩
      else if s.size < padlen.toNat then ⟨.rejected, se, s.wrapped⟩
      else recvSeqNo hasTube now se (s.back padlen.toNat)

/-- A datagram of version 2. -/
def recvV2
    (crypto : BulkCrypto)
    (hasTube : Bool)
    (now : Nat)
    (se : BulkSession)
    (s : Strip) :
    BulkRun :=
  if s.size < RUDP_BULK_IV_SIZE_V2 then ⟨.rejected, se, s.wrapped⟩
  else
    let iv := (s.memory.drop s.p).take RUDP_BULK_IV_SIZE_V2
    let s := s.front RUDP_BULK_IV_SIZE_V2
    if s.size < RUDP_BULK_MAC_SIZE_V2 + 1 then ⟨.rejected, se, s.wrapped⟩
    else
      match crypto.aeadDecrypt (se.bulkRecvKey.data.take RUDP_BULK_KEY_SIZE_V2) iv s.rest with
      | none => ⟨.rejected, se, s.wrapped⟩
      | some plain =>
          recvPadding hasTube now se ((s.overwrite plain).back RUDP_BULK_MAC_SIZE_V2)

/-- The check of a signature: nothing when it is wrong, and `UseHMac` after it. -/
def checkSign
    (crypto : BulkCrypto)
    (useHMac : Bool)
    (key sign body : List UInt8) :
    Option Bool :=
  if useHMac = false ∧ sign = crypto.hashSha1 (key.take SHA1_SIZE ++ body) then some false
  else if sign = crypto.hMacSha1 (key.take SHA1_SIZE) body then some true
  else none

/-- A datagram of version 1. -/
def recvV1
    (crypto : BulkCrypto)
    (hasTube : Bool)
    (now : Nat)
    (se : BulkSession)
    (s : Strip) :
    BulkRun :=
  match checkSign crypto se.useHMac se.bulkRecvKey.data (s.memory.take SHA1_SIZE)
      (s.memory.drop SHA1_SIZE) with
  | none => ⟨.rejected, se, s.wrapped⟩
  | some useHMac =>
      let se := { se with useHMac := useHMac }
      let s := s.front SHA1_SIZE
      if s.size < SHA1_SIZE then ⟨.rejected, se, s.wrapped⟩
      else
        let iv := (s.memory.drop s.p).take SHA1_SIZE
        let s := s.front SHA1_SIZE
        if s.size < 1 then ⟨.rejected, se, s.wrapped⟩
        else
          recvPadding hasTube now se
            (s.overwrite
              (crypto.encrypt (bulkCryptKey crypto se.bulkRecvKey.data iv) s.rest))

/-- `RUDPProcessBulkRecvPacket`; `hasTube` tells whether the session has a socket with a tube
once `RUDPInitSock` has been called. -/
def rudpProcessBulkRecvPacket
    (crypto : BulkCrypto)
    (hasTube : Bool)
    (now : Nat)
    (se : BulkSession)
    (recvData : List UInt8) :
    BulkRun :=
  let s : Strip := { memory := recvData, p := 0, size := recvData.length }
  if s.size < SHA1_SIZE then ⟨.rejected, se, s.wrapped⟩
  else if se.bulkRecvKey.size = RUDP_BULK_KEY_SIZE_V2 then recvV2 crypto hasTube now se s
  else recvV1 crypto hasTube now se s

/-! ## Where the pointer stands -/

/-- The pointer stands at a block that reaches as far as the size. -/
structure Strip.At (s : Strip) (block : List UInt8) : Prop where
  rest : s.rest = block
  size : s.size = block.length
  /-- The size is a `UINT`. -/
  small : block.length < X32
  noWrap : s.wrapped = false

namespace Strip.At

variable {s : Strip}
variable {block : List UInt8}

theorem start
    {recvData : List UInt8}
    (small : recvData.length < X32) :
    Strip.At { memory := recvData, p := 0, size := recvData.length } recvData :=
  ⟨List.take_length, rfl, small, rfl⟩

theorem take
    (here : s.At block)
    {count : Nat}
    (inside : count ≤ block.length) :
    (s.memory.drop s.p).take count = block.take count := by
  rw [← here.rest, Strip.rest, List.take_take, here.size, Nat.min_eq_left inside]

/-- A pointer with a size that does not wrap stands at the bytes behind it. -/
theorem of_fewer
    {memory : List UInt8}
    {p size count : Nat}
    (fewer : size - count ≤ (memory.drop p).length)
    (inside : count ≤ size)
    (small : size < X32) :
    Strip.At ⟨memory, p, subUINT size count, false || decide (size < count)⟩
      ((memory.drop p).take (size - count)) := by
  have left : subUINT size count = size - count := subUINT_of_le inside small
  have long : ((memory.drop p).take (size - count)).length = size - count := by
    rw [List.length_take, Nat.min_eq_left fewer]
  rw [left]
  refine ⟨rfl, long.symm, ?_, ?_⟩
  · rw [long]
    exact Nat.lt_of_le_of_lt (Nat.sub_le _ _) small
  · rw [Bool.false_or, decide_eq_false_iff_not]
    exact Nat.not_lt.mpr inside

theorem front
    (here : s.At block)
    {count : Nat}
    (inside : count ≤ block.length) :
    (s.front count).At (block.drop count) := by
  obtain ⟨memory, p, size, wrapped⟩ := s
  obtain ⟨rest, sized, small, noWrap⟩ := here
  dsimp only [Strip.rest] at rest sized noWrap
  subst sized noWrap
  have reaches : block.length ≤ (memory.drop p).length := by
    rw [← rest, List.length_take]
    omega
  have same : block.drop count = (memory.drop (p + count)).take (block.length - count) := by
    conv_lhs => rw [← rest, List.drop_take, List.drop_drop]
  rw [same]
  refine of_fewer ?_ inside small
  rw [← List.drop_drop, List.length_drop]
  omega

theorem back
    (here : s.At block)
    {count : Nat}
    (inside : count ≤ block.length) :
    (s.back count).At (block.take (block.length - count)) := by
  obtain ⟨memory, p, size, wrapped⟩ := s
  have first := here.take (Nat.sub_le block.length count)
  obtain ⟨rest, sized, small, noWrap⟩ := here
  dsimp only [Strip.rest] at rest sized noWrap first
  subst sized noWrap
  have reaches : block.length ≤ (memory.drop p).length := by
    rw [← rest, List.length_take]
    omega
  rw [← first]
  exact of_fewer (by omega) inside small

theorem inside (here : s.At block) : block.length ≤ (s.memory.drop s.p).length := by
  have length := congrArg List.length here.rest
  rw [Strip.rest, List.length_take, here.size] at length
  omega

theorem overwrite
    (here : s.At block)
    {data : List UInt8}
    (shorter : data.length ≤ block.length) :
    (s.overwrite data).At (data ++ block.drop data.length) := by
  have long : s.size = (data ++ block.drop data.length).length := by
    rw [here.size, List.length_append, List.length_drop]
    omega
  refine ⟨?_, long, long ▸ here.size ▸ here.small, here.noWrap⟩
  have reaches := here.inside
  rw [List.length_drop] at reaches
  by_cases empty : block.length = 0
  · have noBlock : block = [] := List.length_eq_zero_iff.mp empty
    have noData : data = [] := List.length_eq_zero_iff.mp (by omega)
    subst noBlock noData
    rw [Strip.rest, Strip.overwrite, here.size]
    rfl
  · have front : (s.memory.take s.p).length = s.p := by
      rw [List.length_take]
      omega
    rw [Strip.rest, Strip.overwrite, copyAt]
    dsimp only
    rw [List.append_assoc, List.drop_left' front, here.size, List.take_append,
      List.take_of_length_le shorter, ← List.drop_drop, ← List.drop_take]
    rw [here.take (Nat.le_refl _), List.take_length]

theorem clone_eq (here : s.At block) : clone (s.memory.drop s.p) s.size = some block := by
  rw [clone, if_pos (here.size ▸ here.inside), ← here.rest]
  rfl

end Strip.At

/-! ## What is delivered -/

/-- The length of the padding: the last byte. -/
def padlen (plain : List UInt8) : Nat :=
  (plain.getLastD 0).toNat

/-- The sequence number in front of the data. -/
def plainSeqNo (plain : List UInt8) : UInt64 :=
  UInt64.ofNat (fromBigEndian (plain.take 8))

/-- The bytes between the sequence number and the padding. -/
def plainData (plain : List UInt8) : List UInt8 :=
  (plain.take (plain.length - padlen plain)).drop 8

/-- A clear text is either refused for its padding or has room for a sequence number. -/
def HasRoom (plain : List UInt8) : Prop :=
  padlen plain = 0 ∨ plain.length < padlen plain ∨ padlen plain + 8 ≤ plain.length

/-- The datagram of a clear text is rejected, or exactly its data go to the tube, and no
size wraps. -/
structure Sound (hasTube : Bool) (plain : List UInt8) (run : BulkRun) : Prop where
  outcome : run.outcome = .rejected ∨
    run.outcome = .accepted (if hasTube then some (plainData plain) else none)
  noWrap : run.wrapped = false

section

variable {hasTube : Bool}
variable {now : Nat}
variable {se : BulkSession}
variable {s : Strip}
variable {plain : List UInt8}

/-- The sequence number and the data of what is left after the padding. -/
theorem recvSeqNo_of_room
    (here : s.At plain)
    (room : 8 ≤ plain.length) :
    (recvSeqNo hasTube now se s).wrapped = false ∧
      (recvSeqNo hasTube now se s).outcome =
        if seqNoAllowed (plainSeqNo plain) se.bulkRecvSeqNoMax then
          .accepted (if hasTube then some (plain.drop 8) else none)
        else .rejected := by
  have behind := here.front room
  have read : readUINT64 (s.memory.drop s.p) = some (plainSeqNo plain) := by
    rw [readUINT64, if_pos (Nat.le_trans room here.inside), here.take room]
    rfl
  unfold recvSeqNo
  rw [read]
  dsimp only
  by_cases allowed : seqNoAllowed (plainSeqNo plain) se.bulkRecvSeqNoMax
  · rw [if_pos allowed, if_pos allowed]
    cases hasTube with
    | true =>
        rw [if_pos rfl, if_pos rfl, behind.clone_eq]
        exact ⟨behind.noWrap, rfl⟩
    | false => exact ⟨behind.noWrap, rfl⟩
  · rw [if_neg allowed, if_neg allowed]
    exact ⟨behind.noWrap, rfl⟩

theorem recvSeqNo_of_noRoom
    (here : s.At plain)
    (noRoom : plain.length < 8) :
    (recvSeqNo hasTube now se s).wrapped = true ∨
      (recvSeqNo hasTube now se s).outcome = .outside := by
  have wraps : (s.front 8).wrapped = true := by
    obtain ⟨memory, p, size, wrapped⟩ := s
    have sized : size = plain.length := here.size
    simp only [Strip.front, Bool.or_eq_true, decide_eq_true_eq]
    exact Or.inr (sized ▸ noRoom)
  unfold recvSeqNo
  split
  · exact Or.inr rfl
  · dsimp only
    split
    · split
      · split
        · exact Or.inr rfl
        · exact Or.inl wraps
      · exact Or.inl wraps
    · exact Or.inl wraps

theorem recvPadding_eq
    (here : s.At plain)
    (notEmpty : 1 ≤ plain.length) :
    recvPadding hasTube now se s =
      if padlen plain = 0 then ⟨.rejected, se, false⟩
      else if plain.length < padlen plain then ⟨.rejected, se, false⟩
      else recvSeqNo hasTube now se (s.back (padlen plain)) := by
  have last : (s.memory.drop s.p)[subUINT s.size 1]? = some (plain.getLastD 0) := by
    have reaches := here.inside
    have index : subUINT s.size 1 = plain.length - 1 := by
      rw [here.size, subUINT_of_le notEmpty here.small]
    have block := here.take (Nat.le_refl plain.length)
    rw [List.take_length] at block
    have inBlock : plain.length - 1 < plain.length := by omega
    rw [index, ← List.getElem?_take_of_lt inBlock, block, List.getLastD_eq_getLast?,
      List.getLast?_eq_getElem?, List.getElem?_eq_getElem inBlock, Option.getD_some]
  have isZero : plain.getLastD 0 = 0 ↔ padlen plain = 0 := UInt8.toNat_inj.symm
  unfold recvPadding
  rw [last]
  dsimp only
  rw [here.noWrap, here.size]
  by_cases zero : padlen plain = 0
  · rw [if_pos zero, if_pos (isZero.mpr zero)]
  · rw [if_neg zero, if_neg (isZero.not.mpr zero)]
    rfl

theorem recvPadding_of_room
    (here : s.At plain)
    (padded : padlen plain ≠ 0)
    (room : padlen plain + 8 ≤ plain.length) :
    (recvPadding hasTube now se s).wrapped = false ∧
      (recvPadding hasTube now se s).outcome =
        if seqNoAllowed (plainSeqNo plain) se.bulkRecvSeqNoMax then
          .accepted (if hasTube then some (plainData plain) else none)
        else .rejected := by
  have left : (plain.take (plain.length - padlen plain)).length = plain.length - padlen plain := by
    rw [List.length_take]
    omega
  have number : plainSeqNo (plain.take (plain.length - padlen plain)) = plainSeqNo plain := by
    rw [plainSeqNo, plainSeqNo, List.take_take, Nat.min_eq_left (by omega)]
  have delivered := @recvSeqNo_of_room hasTube now se _ _
    (here.back (Nat.le_trans (Nat.le_add_right _ 8) room)) (by omega)
  rw [recvPadding_eq here (by omega), if_neg padded, if_neg (by omega)]
  rw [number] at delivered
  exact delivered

theorem recvPadding_sound_iff
    (here : s.At plain)
    (notEmpty : 1 ≤ plain.length) :
    Sound hasTube plain (recvPadding hasTube now se s) ↔ HasRoom plain := by
  by_cases padded : padlen plain = 0
  · rw [recvPadding_eq here notEmpty, if_pos padded]
    exact ⟨fun _ => Or.inl padded, fun _ => ⟨Or.inl rfl, rfl⟩⟩
  · by_cases short : plain.length < padlen plain
    · rw [recvPadding_eq here notEmpty, if_neg padded, if_pos short]
      exact ⟨fun _ => Or.inr (Or.inl short), fun _ => ⟨Or.inl rfl, rfl⟩⟩
    · by_cases room : padlen plain + 8 ≤ plain.length
      · obtain ⟨noWrap, outcome⟩ := @recvPadding_of_room hasTube now se _ _ here padded room
        refine ⟨fun _ => Or.inr (Or.inr room), fun _ => ⟨?_, noWrap⟩⟩
        rw [outcome]
        split
        · exact Or.inr rfl
        · exact Or.inl rfl
      · have noRoom : (plain.take (plain.length - padlen plain)).length < 8 := by
          rw [List.length_take]
          omega
        rw [recvPadding_eq here notEmpty, if_neg padded, if_neg short]
        constructor
        · rintro ⟨outcome, noWrap⟩
          obtain wraps | outside := @recvSeqNo_of_noRoom hasTube now se _ _
            (here.back (Nat.not_lt.mp short)) noRoom
          · exact absurd (noWrap.symm.trans wraps) (by decide)
          · rw [outside] at outcome
            obtain rejected | accepted := outcome
            · exact nomatch rejected
            · exact nomatch accepted
        · rintro (zero | less | enough)
          · exact absurd zero padded
          · exact absurd less short
          · exact absurd enough room

end

/-- The clear text of a datagram that is authentic under the key of the session. -/
def bulkDecrypted
    (crypto : BulkCrypto)
    (se : BulkSession)
    (recvData : List UInt8) :
    Option (List UInt8) :=
  let key := se.bulkRecvKey.data
  if se.bulkRecvKey.size = RUDP_BULK_KEY_SIZE_V2 then
    if recvData.length < RUDP_BULK_IV_SIZE_V2 + RUDP_BULK_MAC_SIZE_V2 then none
    else
      crypto.aeadDecrypt (key.take RUDP_BULK_KEY_SIZE_V2) (recvData.take RUDP_BULK_IV_SIZE_V2)
        (recvData.drop RUDP_BULK_IV_SIZE_V2)
  else if recvData.length < SHA1_SIZE + SHA1_SIZE then none
  else
    match checkSign crypto se.useHMac key (recvData.take SHA1_SIZE)
        (recvData.drop SHA1_SIZE) with
    | none => none
    | some _ =>
        some (crypto.encrypt (bulkCryptKey crypto key ((recvData.drop SHA1_SIZE).take SHA1_SIZE))
          (recvData.drop (SHA1_SIZE + SHA1_SIZE)))

section

variable {crypto : BulkCrypto}
variable {hasTube : Bool}
variable {now : Nat}
variable {se : BulkSession}
variable {recvData plain : List UInt8}

/-- A run comes to the length of the padding with the pointer at the clear text, or rejects
an empty clear text. -/
def ComesToPadding
    (hasTube : Bool)
    (now : Nat)
    (se : BulkSession)
    (plain : List UInt8)
    (run : BulkRun) : Prop :=
  (plain = [] ∧ run.outcome = .rejected ∧ run.wrapped = false) ∨
    ∃ s later, 1 ≤ plain.length ∧ s.At plain ∧
      later.bulkRecvSeqNoMax = se.bulkRecvSeqNoMax ∧ run = recvPadding hasTube now later s

theorem recvV2_decrypted
    (lawful : crypto.Lawful)
    (small : recvData.length < X32)
    (hasIv : RUDP_BULK_IV_SIZE_V2 ≤ recvData.length)
    (decrypted : crypto.aeadDecrypt (se.bulkRecvKey.data.take RUDP_BULK_KEY_SIZE_V2)
      (recvData.take RUDP_BULK_IV_SIZE_V2) (recvData.drop RUDP_BULK_IV_SIZE_V2) = some plain) :
    ComesToPadding hasTube now se plain
      (recvV2 crypto hasTube now se
        { memory := recvData, p := 0, size := recvData.length }) := by
  have sizes := lawful.aeadDecrypt_length _ _ _ _ decrypted
  have behind := (Strip.At.start small).front hasIv
  unfold recvV2
  dsimp only
  rw [if_neg (Nat.not_lt.mpr hasIv), List.drop_zero, behind.size, behind.rest, ← sizes]
  by_cases empty : plain = []
  · rw [empty, List.length_nil, if_pos (by decide)]
    exact Or.inl ⟨rfl, rfl, behind.noWrap⟩
  · have notEmpty : 1 ≤ plain.length := List.length_pos_iff.mpr empty
    rw [if_neg (by omega), decrypted]
    have overwritten := behind.overwrite (Nat.le.intro sizes)
    have whole : (plain ++ (recvData.drop RUDP_BULK_IV_SIZE_V2).drop plain.length).length =
        plain.length + RUDP_BULK_MAC_SIZE_V2 := by
      rw [List.length_append, List.length_drop, ← sizes]
      omega
    have stripped := overwritten.back (by omega : RUDP_BULK_MAC_SIZE_V2 ≤ _)
    rw [whole, Nat.add_sub_cancel, List.take_left] at stripped
    exact Or.inr ⟨_, se, notEmpty, stripped, rfl, rfl⟩

theorem recvV1_decrypted
    (lawful : crypto.Lawful)
    (small : recvData.length < X32)
    (hasSigns : SHA1_SIZE + SHA1_SIZE ≤ recvData.length)
    {useHMac : Bool}
    (signed : checkSign crypto se.useHMac se.bulkRecvKey.data (recvData.take SHA1_SIZE)
      (recvData.drop SHA1_SIZE) = some useHMac)
    (decrypted : crypto.encrypt
      (bulkCryptKey crypto se.bulkRecvKey.data ((recvData.drop SHA1_SIZE).take SHA1_SIZE))
      (recvData.drop (SHA1_SIZE + SHA1_SIZE)) = plain) :
    ComesToPadding hasTube now se plain
      (recvV1 crypto hasTube now se
        { memory := recvData, p := 0, size := recvData.length }) := by
  have hasSign : SHA1_SIZE ≤ recvData.length := by omega
  have hasIv : SHA1_SIZE ≤ (recvData.drop SHA1_SIZE).length := by
    rw [List.length_drop]
    omega
  have behindSign := (Strip.At.start small).front hasSign
  have behind := behindSign.front hasIv
  rw [List.drop_drop] at behind
  have sizes := lawful.encrypt_length
    (bulkCryptKey crypto se.bulkRecvKey.data ((recvData.drop SHA1_SIZE).take SHA1_SIZE))
    (recvData.drop (SHA1_SIZE + SHA1_SIZE))
  rw [decrypted] at sizes
  unfold recvV1
  dsimp only
  rw [signed]
  dsimp only
  rw [if_neg (behindSign.size ▸ Nat.not_lt.mpr hasIv), behind.size, behind.rest,
    behindSign.take hasIv, decrypted, ← sizes]
  by_cases empty : plain = []
  · rw [empty, List.length_nil, if_pos (by decide)]
    exact Or.inl ⟨rfl, rfl, behind.noWrap⟩
  · have notEmpty : 1 ≤ plain.length := List.length_pos_iff.mpr empty
    have overwritten := behind.overwrite (Nat.le_of_eq sizes)
    rw [List.drop_eq_nil_of_le (Nat.le_of_eq sizes.symm), List.append_nil] at overwritten
    rw [if_neg (by omega)]
    exact Or.inr ⟨_, { se with useHMac := useHMac }, notEmpty, overwritten, rfl, rfl⟩

theorem rudpProcessBulkRecvPacket_decrypted
    (lawful : crypto.Lawful)
    (small : recvData.length < X32)
    (decrypted : bulkDecrypted crypto se recvData = some plain) :
    ComesToPadding hasTube now se plain
      (rudpProcessBulkRecvPacket crypto hasTube now se recvData) := by
  unfold bulkDecrypted at decrypted
  unfold rudpProcessBulkRecvPacket
  dsimp only at decrypted ⊢
  by_cases version : se.bulkRecvKey.size = RUDP_BULK_KEY_SIZE_V2
  · rw [if_pos version] at decrypted
    rw [if_pos version]
    by_cases short : recvData.length < RUDP_BULK_IV_SIZE_V2 + RUDP_BULK_MAC_SIZE_V2
    · rw [if_pos short] at decrypted
      exact nomatch decrypted
    · rw [if_neg short] at decrypted
      have long : ¬recvData.length < SHA1_SIZE := by
        unfold SHA1_SIZE
        unfold RUDP_BULK_IV_SIZE_V2 RUDP_BULK_MAC_SIZE_V2 at short
        omega
      rw [if_neg long]
      exact recvV2_decrypted lawful small (by omega) decrypted
  · rw [if_neg version] at decrypted
    rw [if_neg version]
    by_cases short : recvData.length < SHA1_SIZE + SHA1_SIZE
    · rw [if_pos short] at decrypted
      exact nomatch decrypted
    · rw [if_neg short] at decrypted
      rw [if_neg (by omega)]
      cases signed : checkSign crypto se.useHMac se.bulkRecvKey.data (recvData.take SHA1_SIZE)
          (recvData.drop SHA1_SIZE) with
      | none =>
          rw [signed] at decrypted
          exact nomatch decrypted
      | some useHMac =>
          rw [signed] at decrypted
          injection decrypted with decrypted
          exact recvV1_decrypted lawful small (Nat.not_lt.mp short) signed decrypted

theorem sound_iff
    (lawful : crypto.Lawful)
    (small : recvData.length < X32)
    (decrypted : bulkDecrypted crypto se recvData = some plain) :
    Sound hasTube plain (rudpProcessBulkRecvPacket crypto hasTube now se recvData) ↔
      HasRoom plain := by
  have run := @rudpProcessBulkRecvPacket_decrypted crypto hasTube now se recvData plain lawful
    small decrypted
  obtain ⟨empty, rejected, noWrap⟩ | ⟨s, later, notEmpty, here, _, same⟩ := run
  · exact ⟨fun _ => Or.inl (by rw [empty]; rfl), fun _ => ⟨Or.inl rejected, noWrap⟩⟩
  · rw [same]
    exact recvPadding_sound_iff here notEmpty

end

/-! ## A block to the peer -/

section

variable (seqNo : UInt64)
variable (data : List UInt8)
variable {paddingSize : UInt8}

theorem length_bulkClearText (paddingSize : UInt8) :
    (bulkClearText seqNo data paddingSize).length = 8 + data.length + paddingSize.toNat := by
  rw [bulkClearText, List.length_append, List.length_append, List.length_replicate,
    writeBufInt64, length_bigEndian]

theorem padlen_bulkClearText (padded : paddingSize ≠ 0) :
    padlen (bulkClearText seqNo data paddingSize) = paddingSize.toNat := by
  have positive : paddingSize.toNat ≠ 0 := fun zero => padded (UInt8.toNat_inj.mp zero)
  rw [padlen, bulkClearText, List.getLastD_eq_getLast?, List.getLast?_append,
    List.getLast?_replicate, if_neg positive, Option.some_or, Option.getD_some]

theorem plainData_bulkClearText (padded : paddingSize ≠ 0) :
    plainData (bulkClearText seqNo data paddingSize) = data := by
  have front : (writeBufInt64 seqNo ++ data).length = 8 + data.length := by
    rw [List.length_append, writeBufInt64, length_bigEndian]
  rw [plainData, padlen_bulkClearText seqNo data padded, length_bulkClearText,
    Nat.add_sub_cancel, bulkClearText, List.take_left' front, drop_write64]

theorem plainSeqNo_bulkClearText (paddingSize : UInt8) :
    plainSeqNo (bulkClearText seqNo data paddingSize) = seqNo := by
  have number : (writeBufInt64 seqNo).length = 8 := length_bigEndian 8 seqNo.toNat
  rw [plainSeqNo, bulkClearText, List.append_assoc, List.take_left' number, writeBufInt64,
    fromBigEndian_bigEndian seqNo.toNat_lt, UInt64.ofNat_toNat]

end

/-- The receiver takes the signature of a sender whose datagram is of version 1: it insists
on a keyed hash only when the sender makes one. -/
def TakesSign
    (crypto : BulkCrypto)
    (sender receiver : BulkSession)
    (data : List UInt8)
    (paddingSize : UInt8) : Prop :=
  let key := sender.bulkSendKey.data
  let body := bulkBody crypto key sender.bulkNextIv.val
    (bulkClearText sender.bulkNextSeqNo data paddingSize)
  sender.useHMac = true ∨ receiver.useHMac = false ∨
    crypto.hashSha1 (key.take SHA1_SIZE ++ body) = crypto.hMacSha1 (key.take SHA1_SIZE) body

/-- The block that is sent goes to the tube of the peer, and no size wraps. -/
def Delivers
    (crypto : BulkCrypto)
    (sender receiver : BulkSession)
    (now : Nat)
    (data : List UInt8)
    (paddingSize : UInt8) : Prop :=
  ∃ datagram after, rudpBulkSend crypto sender data paddingSize = some (datagram, after) ∧
    (rudpProcessBulkRecvPacket crypto true now receiver datagram).outcome =
      .accepted (some data) ∧
    (rudpProcessBulkRecvPacket crypto true now receiver datagram).wrapped = false

section

variable {crypto : BulkCrypto}
variable {sender receiver : BulkSession}
variable {now : Nat}
variable {data : List UInt8}
variable {paddingSize : UInt8}

theorem recvV1_of_noSign
    {recvData : List UInt8}
    (version : receiver.bulkRecvKey.size ≠ RUDP_BULK_KEY_SIZE_V2)
    (noSign : checkSign crypto receiver.useHMac receiver.bulkRecvKey.data
      (recvData.take SHA1_SIZE) (recvData.drop SHA1_SIZE) = none) :
    (rudpProcessBulkRecvPacket crypto true now receiver recvData).outcome = .rejected := by
  unfold rudpProcessBulkRecvPacket
  dsimp only
  rw [if_neg version]
  split
  · rfl
  · rw [recvV1, noSign]

theorem checkSign_isSome_iff :
    (checkSign crypto receiver.useHMac sender.bulkSendKey.data
        (bulkSign crypto sender.useHMac sender.bulkSendKey.data
          (bulkBody crypto sender.bulkSendKey.data sender.bulkNextIv.val
            (bulkClearText sender.bulkNextSeqNo data paddingSize)))
        (bulkBody crypto sender.bulkSendKey.data sender.bulkNextIv.val
          (bulkClearText sender.bulkNextSeqNo data paddingSize))).isSome = true ↔
      TakesSign crypto sender receiver data paddingSize := by
  unfold TakesSign checkSign bulkSign
  dsimp only
  generalize bulkBody crypto sender.bulkSendKey.data sender.bulkNextIv.val
    (bulkClearText sender.bulkNextSeqNo data paddingSize) = body
  cases sender.useHMac with
  | true =>
      simp only [if_true, true_or, iff_true]
      split <;> rfl
  | false =>
      cases receiver.useHMac with
      | false => simp
      | true =>
          simp only [Bool.false_eq_true, if_false, Bool.true_eq_false, false_and, false_or]
          split
          · rename_i same
            exact ⟨fun _ => same, fun _ => rfl⟩
          · rename_i different
            exact ⟨(fun absurdity => nomatch absurdity), fun same => absurd same different⟩

theorem length_bulkSign
    (lawful : crypto.Lawful)
    (useHMac : Bool)
    (key body : List UInt8) :
    (bulkSign crypto useHMac key body).length = SHA1_SIZE := by
  unfold bulkSign
  split
  · exact lawful.hMacSha1_length _ _
  · exact lawful.hashSha1_length _

theorem bulkDecrypted_bulkDatagram
    (lawful : crypto.Lawful)
    (sameKey : receiver.bulkRecvKey = sender.bulkSendKey)
    (taken : sender.bulkSendKey.size = RUDP_BULK_KEY_SIZE_V2 ∨
      TakesSign crypto sender receiver data paddingSize) :
    bulkDecrypted crypto receiver (bulkDatagram crypto sender data paddingSize) =
      some (bulkClearText sender.bulkNextSeqNo data paddingSize) := by
  have long := length_bulkClearText sender.bulkNextSeqNo data paddingSize
  unfold bulkDecrypted bulkDatagram
  dsimp only
  rw [sameKey]
  generalize clear : bulkClearText sender.bulkNextSeqNo data paddingSize = clearText at long ⊢
  by_cases version : sender.bulkSendKey.size = RUDP_BULK_KEY_SIZE_V2
  · have whole := lawful.aeadEncrypt_length
      (sender.bulkSendKey.data.take RUDP_BULK_KEY_SIZE_V2) sender.bulkNextIvV2.val clearText
    rw [if_pos version, if_pos version, if_neg, List.take_left' sender.bulkNextIvV2.property,
      List.drop_left' sender.bulkNextIvV2.property]
    · exact lawful.aeadDecrypt_aeadEncrypt _ _ _
    · rw [List.length_append, sender.bulkNextIvV2.property, whole]
      omega
  · obtain version' | takes := taken
    · exact absurd version' version
    · have sign := length_bulkSign lawful sender.useHMac sender.bulkSendKey.data
        (bulkBody crypto sender.bulkSendKey.data sender.bulkNextIv.val clearText)
      have signed := checkSign_isSome_iff.mpr takes
      rw [clear] at signed
      obtain ⟨useHMac, signed⟩ := Option.isSome_iff_exists.mp signed
      rw [if_neg version, if_neg version, if_neg, List.take_left' sign, List.drop_left' sign,
        signed]
      · have iv := sender.bulkNextIv.property
        dsimp only
        rw [← List.drop_drop, List.drop_left' sign, bulkBody, List.take_left' iv,
          List.drop_left' iv, lawful.encrypt_encrypt]
      · rw [List.length_append, sign, bulkBody, List.length_append, sender.bulkNextIv.property]
        omega

theorem delivers_iff
    (lawful : crypto.Lawful)
    (sameKey : receiver.bulkRecvKey = sender.bulkSendKey)
    (padded : paddingSize ≠ 0) :
    Delivers crypto sender receiver now data paddingSize ↔
      (bulkDatagram crypto sender data paddingSize).length < X32 ∧
        seqNoAllowed sender.bulkNextSeqNo receiver.bulkRecvSeqNoMax ∧
        (sender.bulkSendKey.size = RUDP_BULK_KEY_SIZE_V2 ∨
          TakesSign crypto sender receiver data paddingSize) := by
  have long := length_bulkClearText sender.bulkNextSeqNo data paddingSize
  have positive : paddingSize.toNat ≠ 0 := fun zero => padded (UInt8.toNat_inj.mp zero)
  have last := padlen_bulkClearText sender.bulkNextSeqNo data padded
  have spec : (bulkDatagram crypto sender data paddingSize).length < X32 →
      (sender.bulkSendKey.size = RUDP_BULK_KEY_SIZE_V2 ∨
        TakesSign crypto sender receiver data paddingSize) →
      (rudpProcessBulkRecvPacket crypto true now receiver
          (bulkDatagram crypto sender data paddingSize)).wrapped = false ∧
        (rudpProcessBulkRecvPacket crypto true now receiver
          (bulkDatagram crypto sender data paddingSize)).outcome =
            if seqNoAllowed sender.bulkNextSeqNo receiver.bulkRecvSeqNoMax then
              .accepted (some data)
            else .rejected := by
    intro small taken
    obtain ⟨empty, _⟩ | ⟨s, later, _, here, sameMax, same⟩ :=
      @rudpProcessBulkRecvPacket_decrypted crypto true now receiver _ _ lawful small
        (bulkDecrypted_bulkDatagram lawful sameKey taken)
    · rw [empty, List.length_nil] at long
      omega
    · have delivered := @recvPadding_of_room true now later s _ here (last ▸ positive) (by omega)
      rw [plainSeqNo_bulkClearText, plainData_bulkClearText _ _ padded, sameMax] at delivered
      rw [same]
      exact delivered
  constructor
  · rintro ⟨datagram, after, sent, outcome, _⟩
    unfold rudpBulkSend at sent
    dsimp only at sent
    by_cases small : (bulkDatagram crypto sender data paddingSize).length < X32
    · rw [if_pos small] at sent
      injection sent with sent
      injection sent with sent _
      subst sent
      by_cases taken : sender.bulkSendKey.size = RUDP_BULK_KEY_SIZE_V2 ∨
          TakesSign crypto sender receiver data paddingSize
      · refine ⟨small, ?_, taken⟩
        rw [(spec small taken).2] at outcome
        by_contra forbidden
        rw [if_neg forbidden] at outcome
        exact nomatch outcome
      · obtain ⟨version, noSign⟩ := not_or.mp taken
        have unsigned : checkSign crypto receiver.useHMac receiver.bulkRecvKey.data
            ((bulkDatagram crypto sender data paddingSize).take SHA1_SIZE)
            ((bulkDatagram crypto sender data paddingSize).drop SHA1_SIZE) = none := by
          have sign := length_bulkSign lawful sender.useHMac sender.bulkSendKey.data
            (bulkBody crypto sender.bulkSendKey.data sender.bulkNextIv.val
              (bulkClearText sender.bulkNextSeqNo data paddingSize))
          unfold bulkDatagram
          dsimp only
          rw [if_neg version, List.take_left' sign, List.drop_left' sign, sameKey]
          exact Option.not_isSome_iff_eq_none.mp (checkSign_isSome_iff.not.mpr noSign)
        rw [recvV1_of_noSign (sameKey ▸ version) unsigned] at outcome
        exact nomatch outcome
    · rw [if_neg small] at sent
      exact nomatch sent
  · rintro ⟨small, allowed, taken⟩
    have delivered := spec small taken
    rw [if_pos allowed] at delivered
    refine ⟨_, _, if_pos small, delivered.2, delivered.1⟩

end

/-- **Bulk datagrams.**  An authentic datagram is rejected or delivers exactly its data,
without a size that wraps, exactly when its clear text has room for the sequence number.
A block that is sent is delivered by a peer with the same key exactly when its datagram fits
the memory, its sequence number is allowed and its signature is taken. -/
theorem bulk_delivers_iff
    (crypto : BulkCrypto)
    (lawful : crypto.Lawful) :
    (∀ hasTube now se recvData plain, recvData.length < X32 →
      bulkDecrypted crypto se recvData = some plain →
        (Sound hasTube plain (rudpProcessBulkRecvPacket crypto hasTube now se recvData) ↔
          HasRoom plain)) ∧
      ∀ sender receiver now data paddingSize,
        receiver.bulkRecvKey = sender.bulkSendKey → paddingSize ≠ 0 →
          (Delivers crypto sender receiver now data paddingSize ↔
            (bulkDatagram crypto sender data paddingSize).length < X32 ∧
              seqNoAllowed sender.bulkNextSeqNo receiver.bulkRecvSeqNoMax ∧
              (sender.bulkSendKey.size = RUDP_BULK_KEY_SIZE_V2 ∨
                TakesSign crypto sender receiver data paddingSize)) :=
  ⟨fun _ _ _ _ _ small decrypted => sound_iff lawful small decrypted,
    fun _ _ _ _ _ sameKey padded => delivers_iff lawful sameKey padded⟩

/-- A cipher given by one clear text and its cipher text; other clear texts get a tag of
zeros. -/
def cryptoOf (key nonce plain cipher : List UInt8) : BulkCrypto where
  hashSha1 := fun _ => List.replicate SHA1_SIZE 0
  hMacSha1 := fun _ _ => List.replicate SHA1_SIZE 0
  encrypt := fun _ src => src
  aeadEncrypt := fun k n src =>
    if k = key ∧ n = nonce ∧ src = plain then cipher
    else src ++ List.replicate RUDP_BULK_MAC_SIZE_V2 0
  aeadDecrypt := fun k n src =>
    if k = key ∧ n = nonce ∧ src = cipher then some plain
    else if RUDP_BULK_MAC_SIZE_V2 ≤ src.length ∧
        src.drop (src.length - RUDP_BULK_MAC_SIZE_V2) =
          List.replicate RUDP_BULK_MAC_SIZE_V2 0 then
      some (src.take (src.length - RUDP_BULK_MAC_SIZE_V2))
    else none

theorem cryptoOf_lawful
    {key nonce plain cipher : List UInt8}
    (sizes : plain.length + RUDP_BULK_MAC_SIZE_V2 = cipher.length)
    (tagged : cipher.drop plain.length ≠ List.replicate RUDP_BULK_MAC_SIZE_V2 0) :
    (cryptoOf key nonce plain cipher).Lawful where
  hashSha1_length := fun _ => List.length_replicate
  hMacSha1_length := fun _ _ => List.length_replicate
  encrypt_length := fun _ _ => rfl
  encrypt_encrypt := fun _ _ => rfl
  aeadEncrypt_length := fun k n src => by
    dsimp only [cryptoOf]
    split
    · rename_i same
      rw [same.2.2, sizes]
    · rw [List.length_append, List.length_replicate]
  aeadDecrypt_length := fun k n src found decrypted => by
    dsimp only [cryptoOf] at decrypted
    split at decrypted
    · rename_i same
      injection decrypted with decrypted
      rw [← decrypted, same.2.2, sizes]
    · split at decrypted
      · rename_i tag
        injection decrypted with decrypted
        rw [← decrypted, List.length_take]
        omega
      · exact nomatch decrypted
  aeadDecrypt_aeadEncrypt := fun k n src => by
    dsimp only [cryptoOf]
    by_cases same : k = key ∧ n = nonce ∧ src = plain
    · rw [if_pos same, if_pos ⟨same.1, same.2.1, rfl⟩, same.2.2]
    · rw [if_neg same]
      have other : ¬(k = key ∧ n = nonce ∧
          src ++ List.replicate RUDP_BULK_MAC_SIZE_V2 0 = cipher) := by
        rintro ⟨_, _, rfl⟩
        have plainLength : plain.length = src.length := by
          rw [List.length_append, List.length_replicate] at sizes
          omega
        exact tagged (plainLength ▸ List.drop_left)
      have whole : (src ++ List.replicate RUDP_BULK_MAC_SIZE_V2 (0 : UInt8)).length -
          RUDP_BULK_MAC_SIZE_V2 = src.length := by
        rw [List.length_append, List.length_replicate, Nat.add_sub_cancel]
      rw [if_neg other, whole, List.drop_left, List.take_left, if_pos]
      refine ⟨?_, rfl⟩
      rw [List.length_append, List.length_replicate]
      exact Nat.le_add_left _ _

/-- A session of version 2 with keys of ones and an initial vector of twos. -/
def sessionOfOnes : BulkSession where
  bulkSendKey := ⟨List.replicate 128 1, RUDP_BULK_KEY_SIZE_V2⟩
  bulkRecvKey := ⟨List.replicate 128 1, RUDP_BULK_KEY_SIZE_V2⟩
  useHMac := false
  bulkNextSeqNo := 1
  bulkNextIv := ⟨List.replicate SHA1_SIZE 2, rfl⟩
  bulkNextIvV2 := ⟨List.replicate RUDP_BULK_IV_SIZE_V2 2, rfl⟩
  bulkRecvSeqNoMax := 0
  lastRecvTick := 0

/-- The block 5, 6, 7 with a padding of two bytes and its cipher text. -/
def cryptoOfBlock : BulkCrypto :=
  cryptoOf (List.replicate 32 1) (List.replicate 12 2)
    [0, 0, 0, 0, 0, 0, 0, 1, 5, 6, 7, 2, 2]
    [230, 28, 242, 46, 141, 163, 232, 219, 116, 43, 238, 251, 209,
      162, 208, 57, 246, 20, 164, 199, 246, 227, 3, 88, 197, 122, 217, 70, 98]

/-- The block is delivered, and its datagram is sound. -/
theorem bulk_delivers_iff_block :
    Delivers cryptoOfBlock sessionOfOnes sessionOfOnes 0 [5, 6, 7] 2 ∧
      Sound true [0, 0, 0, 0, 0, 0, 0, 1, 5, 6, 7, 2, 2]
        (rudpProcessBulkRecvPacket cryptoOfBlock true 0 sessionOfOnes
          (bulkDatagram cryptoOfBlock sessionOfOnes [5, 6, 7] 2)) := by
  have lawful : cryptoOfBlock.Lawful := cryptoOf_lawful (by decide) (by decide)
  have spec := bulk_delivers_iff cryptoOfBlock lawful
  refine ⟨?_, ?_⟩
  · exact (spec.2 sessionOfOnes sessionOfOnes 0 [5, 6, 7] 2 rfl (by decide)).mpr
      ⟨by decide +kernel, by decide, Or.inl rfl⟩
  · exact (spec.1 true 0 sessionOfOnes _ _ (by decide +kernel) (by decide +kernel)).mpr
      (Or.inr (Or.inr (by decide)))

/-- A padding of one byte alone and its cipher text. -/
def cryptoOfPadding : BulkCrypto :=
  cryptoOf (List.replicate 32 1) (List.replicate 12 2) [1]
    [231, 235, 145, 210, 167, 199, 23, 170, 83, 148, 144, 255, 58, 206, 177, 69, 248]

/-- The datagram whose clear text is a padding of one byte: the size wraps, and the payload
reaches behind the end of the memory. -/
theorem short_clearText_wraps :
    ∃ recvData, cryptoOfPadding.Lawful ∧
      bulkDecrypted cryptoOfPadding sessionOfOnes recvData = some [1] ∧
      (rudpProcessBulkRecvPacket cryptoOfPadding true 0 sessionOfOnes recvData).outcome =
        .outside ∧
      ¬Sound true [1] (rudpProcessBulkRecvPacket cryptoOfPadding true 0 sessionOfOnes recvData) := by
  let recvData : List UInt8 := List.replicate 12 2 ++
    [231, 235, 145, 210, 167, 199, 23, 170, 83, 148, 144, 255, 58, 206, 177, 69, 248]
  have wrapped : (rudpProcessBulkRecvPacket cryptoOfPadding true 0 sessionOfOnes
      recvData).wrapped = true := by
    decide +kernel
  refine ⟨recvData, cryptoOf_lawful (by decide) (by decide), by decide +kernel,
    by decide +kernel, fun sound => ?_⟩
  exact absurd (sound.noWrap.symm.trans wrapped) (by decide)

end Rudp
end SoftEther
