import SoftEther.Cedar.Ike.Esp
import SoftEther.Mayaqua.Pointer

/-!
# ESP in transport mode

`IPsecSendPacketByIPsecSaInner` pads a payload to whole blocks and encrypts it, and
`ProcIPsecEspPacketRecv` hands what it has decrypted to the handler of the protocol.  The
receiver works out the size of the payload without the padding, but never uses it.
-/

namespace SoftEther
namespace Ike

open Library Network Pointer

def IKE_MAX_BLOCK_SIZE : Nat := 16

def IPSEC_PORT_IPSEC_ESP_RAW : UInt32 := 0x10032

def IPSEC_PORT_L2TP : Nat := 1701

def IP_PROTO_UDP : UInt8 := 17

def IPSEC_IP_PROTO_ETHERIP : UInt8 := 97

def IPSEC_IP_PROTO_L2TPV3 : UInt8 := 115

/-! ## Sending -/

/-- An `IPSECSA` that packets are sent with. -/
structure SendingSa where
  /-- What the other functions use of it. -/
  sa : IPsecSa
  currentSeqNo : UInt32 := 0
  espIv : ByteArrayOf IKE_MAX_BLOCK_SIZE
  blockSize : sa.transformSetting.crypto.blockSize ∈ Set.Icc 1 IKE_MAX_BLOCK_SIZE

abbrev SendingSa.block (s : SendingSa) : Nat := s.sa.transformSetting.crypto.blockSize

/-- A UDP packet of `IkeSendUdpPacket`, and what becomes of the SA and of the client. -/
structure Sent where
  sa : SendingSa
  /-- `StartQuickModeAsSoon` of the client has been set. -/
  startQuickModeAsSoon : Bool
  serverPort : UInt32
  clientPort : UInt32
  packet : List UInt8

def encryptedPayloadSize (blockSize dataSize : Nat) : Nat :=
  let size := addUINT dataSize 2
  if size % blockSize ≠ 0 then mulUINT (addUINT (size / blockSize) 1) blockSize else size

/-- The padding that the loop writes: 1, 2, 3 and so on. -/
def padding (size : Nat) : List UInt8 :=
  (List.range size).map fun i => UInt8.ofNat (i + 1)

/-- Another quick mode is to be started after a packet. -/
def SendingSa.startQm (s : SendingSa) : Bool :=
  0xf0000000 ≤ s.currentSeqNo ∨
    (s.sa.transformSetting.lifeKilobytes ≠ 0 ∧
      s.sa.transformSetting.lifeKilobytes * 1000 * 2 / 3 ≤ s.sa.totalSize)

theorem length_overwrite
    {size : Nat}
    (array : ByteArrayOf size)
    (bytes : List UInt8) :
    ((bytes ++ array.val.drop bytes.length).take size).length = size := by
  have whole := array.property
  simp only [List.length_take, List.length_append, List.length_drop, whole]
  omega

/-- `Copy` to the start of an array. -/
def overwrite {size : Nat} (array : ByteArrayOf size) (bytes : List UInt8) : ByteArrayOf size :=
  ⟨(bytes ++ array.val.drop bytes.length).take size, length_overwrite array bytes⟩

/-- The SA after a packet of this size that has been encrypted. -/
def SendingSa.feedback (s : SendingSa) (nextIv : List UInt8) (espSize : Nat) : SendingSa where
  sa := { s.sa with totalSize := s.sa.totalSize + espSize }
  currentSeqNo := s.currentSeqNo + 1
  espIv := overwrite s.espIv nextIv
  blockSize := s.blockSize

/-- `StartQM_FlagSet` is set when another quick mode is to be started. -/
def SendingSa.flagged (s : SendingSa) : SendingSa where
  sa := { s.sa with startQMFlagSet := s.sa.startQMFlagSet || s.startQm }
  currentSeqNo := s.currentSeqNo
  espIv := s.espIv
  blockSize := s.blockSize

section

variable (algorithms : Algorithms)
variable (encrypt : List UInt8 → List UInt8 → List UInt8 → List UInt8)

/-- `IkeEncrypt`: what it makes, and `NextIv`. -/
def ikeEncrypt (blockSize : Nat) (key iv data : List UInt8) :
    Option (List UInt8 × List UInt8) :=
  if data.length % blockSize ≠ 0 then none
  else
    let encrypted := encrypt key iv data
    some (encrypted,
      if blockSize ≤ data.length then encrypted.drop (data.length - blockSize)
      else List.replicate blockSize 0)

/-- `IPsecSendPacketByIPsecSaInner` for the client `c`.  Every byte that is sent is written
into the memory that `Malloc` gives; a write behind its end and reading the key at `NULL` are
errors. -/
def ipsecSendPacketByIPsecSaInner
    (c : IkeClient)
    (s : SendingSa)
    (data : List UInt8)
    (protocolId : UInt8) :
    Except ParseFailure (Option Sent) :=
  if data = [] then .ok none
  else do
    let encryptedSize := encryptedPayloadSize s.block data.length
    let sizeOfPadding := subUINT (subUINT encryptedSize data.length) 2
    let espSize := addUINT (addUINT (8 + s.block) encryptedSize) IKE_ESP_HASH_SIZE
    let esp := List.replicate (addUINT espSize IKE_MAX_HASH_SIZE) 0
    let esp ← copyInto esp 0 (writeBufInt s.sa.spi)
    let esp ← copyInto esp 4 (writeBufInt (s.currentSeqNo + 1))
    let iv := s.espIv.val.take s.block
    let esp ← copyInto esp 8 iv
    let esp ← copyInto esp (8 + s.block) data
    let esp ← copyInto esp (8 + s.block + data.length) (padding sizeOfPadding)
    let esp ← copyInto esp (8 + s.block + data.length + sizeOfPadding)
      [UInt8.ofNat sizeOfPadding, protocolId]
    match s.sa.cryptoKey with
    | none => .error .outside
    | some key =>
        match ikeEncrypt encrypt s.block key iv ((esp.drop (8 + s.block)).take encryptedSize) with
        | none => .ok none
        | some (encrypted, nextIv) => do
            let esp ← copyInto esp (8 + s.block) encrypted
            let esp ← copyInto esp (8 + s.block + encryptedSize)
              (algorithms.hmac (s.sa.hashKey.take s.sa.transformSetting.hashSize)
                (esp.take (8 + s.block + encryptedSize)))
            let raw : Bool := s.sa.transformSetting.capsuleMode ∈
              [CapsuleMode.transport, CapsuleMode.tunnel]
            let after := s.feedback nextIv espSize
            .ok (some
              { sa := after.flagged
                startQuickModeAsSoon := after.startQm && !s.sa.startQMFlagSet
                serverPort := if raw then IPSEC_PORT_IPSEC_ESP_RAW else c.endpoint.serverPort
                clientPort := if raw then IPSEC_PORT_IPSEC_ESP_RAW else c.endpoint.clientPort
                packet := esp.take espSize })

end

/-- The functions that payloads go to in transport mode. -/
inductive Handler where
  /-- `ProcIPsecUdpPacketRecv`. -/
  | udp
  /-- `ProcIPsecEtherIPPacketRecv`. -/
  | etherIP
  /-- `ProcL2TPv3PacketRecv`. -/
  | l2tpV3
  deriving DecidableEq

structure Services where
  l2tpIPsec : Bool
  etherIPIPsec : Bool

def Services.handler (services : Services) (nextHeader : UInt8) : Option Handler :=
  if nextHeader = IP_PROTO_UDP then
    if services.l2tpIPsec ∨ services.etherIPIPsec then some .udp else none
  else if nextHeader = IPSEC_IP_PROTO_ETHERIP then
    if services.etherIPIPsec then some .etherIP else none
  else if nextHeader = IPSEC_IP_PROTO_L2TPV3 then
    if services.etherIPIPsec then some .l2tpV3 else none
  else none

/-- `GetIpHeaderSize`; the size of the headers of an IPv6 packet is that of
`ParsePacketIPv6Header`. -/
def getIpHeaderSize (ipv6HeaderSize : List UInt8 → Option Nat) (src : List UInt8) : Nat :=
  match src with
  | [] => 0
  | first :: _ =>
      if first.toNat / 16 = 4 then
        let size := first.toNat % 16 * 4
        if src.length < 20 ∨ size < 20 ∨ src.length < size then 0 else size
      else if first.toNat / 16 = 6 then
        match ipv6HeaderSize src with
        | none => 0
        | some size => if src.length < size then 0 else size
      else 0

/-- The ESP packet in what has arrived: the IP header of a raw packet is skipped. -/
def espOf (ipv6HeaderSize : List UInt8 → Option Nat) (arrival : Arrival) (src : List UInt8) :
    List UInt8 :=
  if arrival.endpoint.serverPort = IPSEC_PORT_IPSEC_ESP_RAW ∧
      isIP6 arrival.endpoint.serverIP = false then src.drop (getIpHeaderSize ipv6HeaderSize src)
  else src

/-- What `ProcIPsecEspPacketRecv` hands to a handler in transport mode: all that has been
decrypted, since `orig_size` is not used. -/
def espHandedOver
    (algorithms : Algorithms)
    (services : Services)
    (ike : IkeServer)
    (esp : List UInt8) :
    Option (Handler × List UInt8) :=
  match espPayload algorithms ike esp with
  | none => none
  | some (sa, decData) =>
      if isIPsecSaTunnelMode sa then none
      else (services.handler (decData.getLastD 0)).map fun handler => (handler, decData)

/-- `ProcIPsecUdpPacketRecv`: the source port and the payload of a UDP packet to the port of
L2TP. -/
def procIPsecUdpPacketRecv (data : List UInt8) : Option (Nat × List UInt8) :=
  if data.length ≤ 8 then none
  else
    let packetLength := fromBigEndian ((data.drop 4).take 2)
    if packetLength ≤ 8 ∨ data.length < packetLength then none
    else if fromBigEndian ((data.drop 2).take 2) = IPSEC_PORT_L2TP then
      some (fromBigEndian (data.take 2), (data.drop 8).take (packetLength - 8))
    else none

/-- The payload is copied into the memory that has been taken for the packet. -/
def Fits (blockSize dataSize : Nat) : Prop :=
  8 + blockSize + dataSize ≤
    addUINT
      (addUINT (addUINT (8 + blockSize) (encryptedPayloadSize blockSize dataSize))
        IKE_ESP_HASH_SIZE)
      IKE_MAX_HASH_SIZE

instance (blockSize dataSize : Nat) : Decidable (Fits blockSize dataSize) :=
  inferInstanceAs (Decidable (_ ≤ _))

/-- The sizes of an ESP packet: the padding is shorter than a block, and it makes the payload
and the two bytes behind it whole blocks. -/
structure Sizes (blockSize dataSize paddingSize : Nat) : Prop where
  padding_lt : paddingSize < blockSize
  /-- `encrypted_payload_size`. -/
  encrypted : encryptedPayloadSize blockSize dataSize = dataSize + paddingSize + 2
  blocks : (dataSize + paddingSize + 2) % blockSize = 0
  /-- No size is larger than a `UINT`. -/
  small : 84 + blockSize + (dataSize + paddingSize + 2) < X32

theorem exists_padding
    {blockSize dataSize : Nat}
    (positive : 1 ≤ blockSize)
    (small : dataSize + 2 + blockSize < X32) :
    ∃ paddingSize < blockSize,
      encryptedPayloadSize blockSize dataSize = dataSize + paddingSize + 2 ∧
        (dataSize + paddingSize + 2) % blockSize = 0 := by
  have sum : addUINT dataSize 2 = dataSize + 2 := addUINT_of_lt (by omega)
  unfold encryptedPayloadSize
  rw [sum]
  by_cases whole : (dataSize + 2) % blockSize = 0
  · exact ⟨0, positive, by simp [whole], whole⟩
  · have parts : blockSize * ((dataSize + 2) / blockSize) + (dataSize + 2) % blockSize =
        dataSize + 2 := Nat.div_add_mod (dataSize + 2) blockSize
    have less : (dataSize + 2) % blockSize < blockSize := Nat.mod_lt _ positive
    have product : ((dataSize + 2) / blockSize + 1) * blockSize =
        blockSize * ((dataSize + 2) / blockSize) + blockSize := by ring
    have quotient : (dataSize + 2) / blockSize ≤ dataSize + 2 := Nat.div_le_self _ _
    have next : addUINT ((dataSize + 2) / blockSize) 1 = (dataSize + 2) / blockSize + 1 :=
      addUINT_of_lt (by omega)
    have rounded : mulUINT ((dataSize + 2) / blockSize + 1) blockSize =
        ((dataSize + 2) / blockSize + 1) * blockSize := by
      rw [mulUINT, product]
      exact Nat.mod_eq_of_lt (by omega)
    refine ⟨blockSize - (dataSize + 2) % blockSize, by omega, ?_, ?_⟩
    · simp only [whole, ne_eq, not_false_eq_true, if_true, next, rounded, product]
      omega
    · have total : dataSize + (blockSize - (dataSize + 2) % blockSize) + 2 =
          ((dataSize + 2) / blockSize + 1) * blockSize := by
        rw [product]
        omega
      rw [total]
      exact Nat.mul_mod_left _ _

theorem Fits.sizes
    {blockSize dataSize : Nat}
    (range : blockSize ∈ Set.Icc 1 IKE_MAX_BLOCK_SIZE)
    (fits : Fits blockSize dataSize) :
    ∃ paddingSize, Sizes blockSize dataSize paddingSize := by
  obtain ⟨positive, bounded⟩ := range
  have within : 8 + blockSize + dataSize < X32 := fits.trans_lt (addUINT_lt _ _)
  have room : dataSize + 2 + blockSize < X32 := by omega
  obtain ⟨paddingSize, less, encrypted, blocks⟩ := exists_padding positive room
  refine ⟨paddingSize, less, encrypted, blocks, ?_⟩
  rw [Fits, encrypted] at fits
  unfold IKE_MAX_BLOCK_SIZE at bounded
  unfold addUINT IKE_ESP_HASH_SIZE IKE_MAX_HASH_SIZE X32 at fits
  unfold X32 at within ⊢
  omega

/-! ## What is sent -/

/-- What stands behind the payload: the padding, its size and the next header. -/
def espTrailer (paddingSize : Nat) (protocolId : UInt8) : List UInt8 :=
  padding paddingSize ++ [UInt8.ofNat paddingSize, protocolId]

@[simp] theorem length_padding (size : Nat) : (padding size).length = size := by
  simp [padding]

@[simp] theorem length_espTrailer (paddingSize : Nat) (protocolId : UInt8) :
    (espTrailer paddingSize protocolId).length = paddingSize + 2 := by
  simp [espTrailer]

/-- What stands in front of the encrypted payload: the SPI, the sequence number and the IV. -/
def SendingSa.header (s : SendingSa) : List UInt8 :=
  writeBufInt s.sa.spi ++ writeBufInt (s.currentSeqNo + 1) ++ s.espIv.val.take s.block

theorem length_writeBufInt (value : UInt32) : (writeBufInt value).length = 4 :=
  length_bigEndian 4 _

theorem SendingSa.length_iv (s : SendingSa) :
    (s.espIv.val.take s.block).length = s.block := by
  rw [List.length_take, s.espIv.property]
  exact Nat.min_eq_left s.blockSize.2

@[simp] theorem SendingSa.length_header (s : SendingSa) : s.header.length = 8 + s.block := by
  rw [SendingSa.header, List.length_append, List.length_append, length_writeBufInt,
    length_writeBufInt, s.length_iv]

theorem copyInto_unwritten
    {written piece : List UInt8}
    {offset count : Nat}
    (here : written.length = offset)
    (fits : piece.length ≤ count) :
    copyInto (written ++ List.replicate count 0) offset piece =
      .ok (written ++ piece ++ List.replicate (count - piece.length) 0) := by
  rw [copyInto_next here (by simpa using fits), List.drop_replicate]

/-- What is asked of the cipher and of the hash: decryption is inverse to encryption, and a
hash is long enough for an ESP packet and no longer than the largest one. -/
structure Ciphers
    (algorithms : Algorithms)
    (encrypt : List UInt8 → List UInt8 → List UInt8 → List UInt8)
    (blockSize : Nat) : Prop where
  decrypt_encrypt : ∀ key iv data, iv.length = blockSize → data.length % blockSize = 0 →
    algorithms.decrypt key iv (encrypt key iv data) = data
  length_encrypt : ∀ key iv data, iv.length = blockSize → data.length % blockSize = 0 →
    (encrypt key iv data).length = data.length
  /-- The size of a hash. -/
  length_hmac : ∀ key data,
    (algorithms.hmac key data).length ∈ Set.Icc IKE_ESP_HASH_SIZE IKE_MAX_HASH_SIZE

section

variable {algorithms : Algorithms}
variable {encrypt : List UInt8 → List UInt8 → List UInt8 → List UInt8}

def espHash (algorithms : Algorithms) (s : SendingSa) (data : List UInt8) : List UInt8 :=
  algorithms.hmac (s.sa.hashKey.take s.sa.transformSetting.hashSize) data

theorem ipsecSendPacketByIPsecSaInner_packet
    {s : SendingSa}
    (ciphers : Ciphers algorithms encrypt s.block)
    {data key : List UInt8}
    {paddingSize : Nat}
    (sizes : Sizes s.block data.length paddingSize)
    (nonempty : data ≠ [])
    (keyed : s.sa.cryptoKey = some key)
    (c : IkeClient)
    (protocolId : UInt8) :
    ∃ sent, ipsecSendPacketByIPsecSaInner algorithms encrypt c s data protocolId =
        .ok (some sent) ∧
      let visible := s.header ++ encrypt key (s.espIv.val.take s.block)
        (data ++ espTrailer paddingSize protocolId)
      sent.packet = visible ++ (espHash algorithms s visible).take IKE_ESP_HASH_SIZE := by
  obtain ⟨_, encrypted, blocks, small⟩ := sizes
  have header : addUINT (8 + s.block) (data.length + paddingSize + 2) =
      8 + s.block + (data.length + paddingSize + 2) := addUINT_of_lt (by omega)
  have espSize : addUINT (8 + s.block + (data.length + paddingSize + 2)) IKE_ESP_HASH_SIZE =
      8 + s.block + (data.length + paddingSize + 2) + IKE_ESP_HASH_SIZE :=
    addUINT_of_lt (by unfold IKE_ESP_HASH_SIZE; omega)
  have memory : addUINT
      (8 + s.block + (data.length + paddingSize + 2) + IKE_ESP_HASH_SIZE) IKE_MAX_HASH_SIZE =
        8 + s.block + (data.length + paddingSize + 2) + IKE_ESP_HASH_SIZE + IKE_MAX_HASH_SIZE :=
    addUINT_of_lt (by unfold IKE_ESP_HASH_SIZE IKE_MAX_HASH_SIZE; omega)
  have padded : subUINT (subUINT (data.length + paddingSize + 2) data.length) 2 =
      paddingSize := by
    have inner : subUINT (data.length + paddingSize + 2) data.length = paddingSize + 2 := by
      rw [subUINT_of_le (by omega) (by omega)]
      omega
    rw [inner]
    exact subUINT_add (by omega)
  have spiSize : (writeBufInt s.sa.spi).length = 4 := length_writeBufInt _
  have sequenceSize : (writeBufInt (s.currentSeqNo + 1)).length = 4 := length_writeBufInt _
  have ivSize := s.length_iv
  unfold ipsecSendPacketByIPsecSaInner
  rw [if_neg nonempty]
  dsimp only
  rw [encrypted, header, espSize, memory, padded, ← List.nil_append (List.replicate _ 0),
    copyInto_unwritten List.length_nil (by omega), ok_bind,
    copyInto_unwritten (by simp [spiSize]) (by omega), ok_bind,
    copyInto_unwritten (by simp [spiSize, sequenceSize]) (by omega), ok_bind]
  rw [show [] ++ writeBufInt s.sa.spi ++ writeBufInt (s.currentSeqNo + 1) ++
      List.take s.block s.espIv.val = s.header by simp [SendingSa.header]]
  rw [copyInto_unwritten s.length_header (by omega), ok_bind,
    copyInto_unwritten (by simp) (by simp; omega), ok_bind,
    copyInto_unwritten (by simp; omega) (by simp; omega), ok_bind, keyed]
  dsimp only
  generalize restIs : List.replicate _ (0 : UInt8) = rest
  have restSize : rest.length = IKE_ESP_HASH_SIZE + IKE_MAX_HASH_SIZE := by
    rw [← restIs, List.length_replicate, spiSize, sequenceSize, ivSize, length_padding]
    simp only [List.length_cons, List.length_nil]
    omega
  have plain : s.header ++ data ++ padding paddingSize ++
      [UInt8.ofNat paddingSize, protocolId] ++ rest =
        s.header ++ ((data ++ espTrailer paddingSize protocolId) ++ rest) := by
    simp [espTrailer]
  have plainSize : (data ++ espTrailer paddingSize protocolId).length =
      data.length + paddingSize + 2 := by
    simp [Nat.add_assoc]
  rw [plain, ← s.length_header, List.drop_left, ← plainSize, List.take_left]
  have sameSize := ciphers.length_encrypt key _ _ s.length_iv (by rw [plainSize]; exact blocks)
  rw [← plainSize] at blocks
  rw [ikeEncrypt, if_neg (not_not_intro blocks)]
  dsimp only
  generalize encrypt key _ _ = out at sameSize ⊢
  have replaced : copyInto (s.header ++ (data ++ espTrailer paddingSize protocolId ++ rest))
      s.header.length out = .ok (s.header ++ out ++ rest) := by
    rw [copyInto_of_le (by simp; omega), copyAt_middle sameSize.symm, List.append_assoc]
  obtain ⟨enough, bounded⟩ :=
    ciphers.length_hmac (s.sa.hashKey.take s.sa.transformSetting.hashSize) (s.header ++ out)
  have visible : (s.header ++ out).length = s.header.length +
      (data ++ espTrailer paddingSize protocolId).length := by
    rw [List.length_append, sameSize]
  rw [replaced, ok_bind, ← visible, List.take_left,
    copyInto_next rfl (by rw [restSize]; exact bounded.trans (Nat.le_add_left _ _)), ok_bind]
  refine ⟨_, rfl, ?_⟩
  dsimp only [espHash]
  rw [List.append_assoc, List.take_length_add_append, List.take_append_of_le_length enough]

end

section

variable {algorithms : Algorithms}
variable {encrypt : List UInt8 → List UInt8 → List UInt8 → List UInt8}

theorem of_ipsecSendPacketByIPsecSaInner
    {c : IkeClient}
    {s : SendingSa}
    {data : List UInt8}
    {protocolId : UInt8}
    {sent : Sent}
    (sends : ipsecSendPacketByIPsecSaInner algorithms encrypt c s data protocolId =
      .ok (some sent)) :
    data ≠ [] ∧ Fits s.block data.length ∧ ∃ key, s.sa.cryptoKey = some key := by
  unfold ipsecSendPacketByIPsecSaInner at sends
  by_cases empty : data = []
  · rw [if_pos empty] at sends
    exact nomatch sends
  · rw [if_neg empty] at sends
    obtain ⟨first, wroteSpi, sends⟩ := exists_of_bind_eq_ok sends
    obtain ⟨second, wroteSequence, sends⟩ := exists_of_bind_eq_ok sends
    obtain ⟨third, wroteIv, sends⟩ := exists_of_bind_eq_ok sends
    obtain ⟨fourth, wroteData, sends⟩ := exists_of_bind_eq_ok sends
    obtain ⟨fifth, _, sends⟩ := exists_of_bind_eq_ok sends
    obtain ⟨sixth, _, sends⟩ := exists_of_bind_eq_ok sends
    refine ⟨empty, ?_, ?_⟩
    · have firstSize := (inside_of_copyInto_eq_ok wroteSpi).2
      have secondSize := (inside_of_copyInto_eq_ok wroteSequence).2
      have thirdSize := (inside_of_copyInto_eq_ok wroteIv).2
      have inside := (inside_of_copyInto_eq_ok wroteData).1
      rw [thirdSize, secondSize, firstSize, List.length_replicate] at inside
      exact inside
    · cases keyed : s.sa.cryptoKey with
      | none =>
          rw [keyed] at sends
          exact nomatch sends
      | some key => exact ⟨key, rfl⟩

end

/-! ## What is received -/

/-- The receiver finds an SA with the algorithms and the keys of the sender. -/
structure Matched (ike : IkeServer) (s : SendingSa) (receiver : IPsecSa) : Prop where
  found : searchClientToServerIPsecSaBySpi ike s.sa.spi = some receiver
  /-- Both use one cipher. -/
  crypto : receiver.transformSetting.crypto = s.sa.transformSetting.crypto
  hashSize : receiver.transformSetting.hashSize = s.sa.transformSetting.hashSize
  /-- Both have the same `HashKey`. -/
  hashKey : receiver.hashKey = s.sa.hashKey
  /-- Both have the same `CryptoKey`. -/
  cryptoKey : receiver.cryptoKey = s.sa.cryptoKey

theorem readUint_writeBufInt (value : UInt32) (rest : List UInt8) :
    readUint (writeBufInt value ++ rest) = value := by
  have number : fromBigEndian (writeBufInt value) = value.toNat :=
    fromBigEndian_bigEndian (value.toNat_lt)
  rw [readUint, ← length_writeBufInt value, List.take_left, number]
  exact UInt32.ofNat_toNat

section

variable {algorithms : Algorithms}
variable {ike : IkeServer}
variable {s : SendingSa}
variable {receiver : IPsecSa}

theorem espSa_header
    (matched : Matched ike s receiver)
    {rest : List UInt8}
    (enough : IKE_ESP_HASH_SIZE + s.block ≤ rest.length) :
    espSa ike (s.header ++ rest) = some receiver := by
  have size : (s.header ++ rest).length =
      8 + s.sa.transformSetting.crypto.blockSize + rest.length := by
    rw [List.length_append, s.length_header]
  have spi : readUint (s.header ++ rest) = s.sa.spi := by
    rw [SendingSa.header, List.append_assoc, List.append_assoc]
    exact readUint_writeBufInt _ _
  unfold espSa
  rw [spi, matched.found, if_neg (by omega)]
  dsimp only
  rw [matched.crypto, if_neg (by unfold SendingSa.block at enough; omega)]

theorem hashMatches_visible
    (matched : Matched ike s receiver)
    {visible : List UInt8}
    (long : IKE_ESP_HASH_SIZE ≤ (espHash algorithms s visible).length) :
    hashMatches algorithms receiver
      (visible ++ (espHash algorithms s visible).take IKE_ESP_HASH_SIZE) = true := by
  have hashed : ((espHash algorithms s visible).take IKE_ESP_HASH_SIZE).length =
      IKE_ESP_HASH_SIZE := List.length_take_of_le long
  have size : (visible ++ (espHash algorithms s visible).take IKE_ESP_HASH_SIZE).length -
      IKE_ESP_HASH_SIZE = visible.length := by
    rw [List.length_append, hashed, Nat.add_sub_cancel]
  unfold hashMatches
  dsimp only
  rw [size, List.take_left, List.drop_left, matched.hashKey, matched.hashSize]
  exact decide_eq_true rfl

theorem encryptedPayload_header
    (matched : Matched ike s receiver)
    {out hash : List UInt8}
    (hashed : hash.length = IKE_ESP_HASH_SIZE) :
    encryptedPayload receiver (s.header ++ out ++ hash) = out := by
  have size : (s.header ++ out ++ hash).length = 8 + s.block + out.length + IKE_ESP_HASH_SIZE := by
    rw [List.length_append, List.length_append, s.length_header, hashed]
  unfold encryptedPayload
  rw [matched.crypto, size, ← s.length_header, List.append_assoc, List.drop_left,
    show s.header.length + out.length + IKE_ESP_HASH_SIZE - IKE_ESP_HASH_SIZE - s.block - 8 =
      out.length by rw [s.length_header]; omega,
    List.take_left]

theorem iv_header (rest : List UInt8) :
    ((s.header ++ rest).drop 8).take s.block = s.espIv.val.take s.block := by
  have numbers : (writeBufInt s.sa.spi ++ writeBufInt (s.currentSeqNo + 1)).length = 8 := by
    rw [List.length_append, length_writeBufInt, length_writeBufInt]
  rw [SendingSa.header, List.append_assoc, ← numbers, List.drop_left]
  exact List.take_left' s.length_iv

theorem padding_in_range
    {blockSize paddingSize : Nat}
    {data : List UInt8}
    (sizes : Sizes blockSize data.length paddingSize)
    (bounded : blockSize ≤ IKE_MAX_BLOCK_SIZE)
    (protocolId : UInt8) :
    ¬(data ++ espTrailer paddingSize protocolId).length - 2 <
      ((data ++ espTrailer paddingSize protocolId).getD
        ((data ++ espTrailer paddingSize protocolId).length - 2) 0).toNat := by
  have size : (data ++ espTrailer paddingSize protocolId).length - 2 =
      (data ++ padding paddingSize).length := by
    simp
    omega
  have shorter := sizes.padding_lt
  unfold IKE_MAX_BLOCK_SIZE at bounded
  have read : ((data ++ espTrailer paddingSize protocolId).getD
      (data ++ padding paddingSize).length 0) = UInt8.ofNat paddingSize := by
    rw [espTrailer, ← List.append_assoc, List.getD_eq_getElem?_getD,
      List.getElem?_append_right (Nat.le_refl _), Nat.sub_self]
    simp
  have value : (UInt8.ofNat paddingSize).toNat = paddingSize := by
    rw [UInt8.toNat_ofNat']
    exact Nat.mod_eq_of_lt (by omega)
  rw [size, read, value]
  simp

theorem espPayload_sent
    {encrypt : List UInt8 → List UInt8 → List UInt8 → List UInt8}
    (ciphers : Ciphers algorithms encrypt s.block)
    (matched : Matched ike s receiver)
    {data : List UInt8}
    {c : IkeClient}
    {protocolId : UInt8}
    {sent : Sent}
    (sends : ipsecSendPacketByIPsecSaInner algorithms encrypt c s data protocolId =
      .ok (some sent)) :
    ∃ paddingSize, Sizes s.block data.length paddingSize ∧
      espPayload algorithms ike sent.packet =
        some (receiver, data ++ espTrailer paddingSize protocolId) := by
  obtain ⟨nonempty, fits, key, keyed⟩ := of_ipsecSendPacketByIPsecSaInner sends
  obtain ⟨paddingSize, sizes⟩ := fits.sizes s.blockSize
  refine ⟨paddingSize, sizes, ?_⟩
  obtain ⟨other, otherSends, packet⟩ :=
    ipsecSendPacketByIPsecSaInner_packet ciphers sizes nonempty keyed c protocolId
  rw [sends] at otherSends
  injection otherSends with otherSends
  injection otherSends with same
  rw [same, packet]
  have plainSize : (data ++ espTrailer paddingSize protocolId).length =
      data.length + paddingSize + 2 := by
    simp [Nat.add_assoc]
  have blocks := sizes.blocks
  rw [← plainSize] at blocks
  have outSize := ciphers.length_encrypt key _ _ s.length_iv blocks
  have decrypted := ciphers.decrypt_encrypt key _ _ s.length_iv blocks
  generalize encrypt key _ _ = out at outSize decrypted
  have long := (ciphers.length_hmac (s.sa.hashKey.take s.sa.transformSetting.hashSize)
    (s.header ++ out)).1
  have hashed : ((espHash algorithms s (s.header ++ out)).take IKE_ESP_HASH_SIZE).length =
      IKE_ESP_HASH_SIZE := List.length_take_of_le long
  have oneBlock : s.block ≤ out.length :=
    Nat.le_of_dvd (by omega) (Nat.dvd_of_mod_eq_zero (outSize ▸ blocks))
  unfold espPayload
  rw [List.append_assoc, espSa_header matched (by simp [hashed]; omega), ← List.append_assoc]
  dsimp only
  rw [hashMatches_visible matched long, encryptedPayload_header matched hashed, matched.cryptoKey,
    keyed, matched.crypto, if_neg]
  · dsimp only
    rw [List.append_assoc, iv_header, decrypted,
      if_neg (padding_in_range sizes s.blockSize.2 protocolId)]
  · rintro (wrong | empty | partial_)
    · exact nomatch wrong
    · rw [empty] at outSize
      simp [espTrailer] at outSize
    · exact partial_ (outSize ▸ blocks)

end

/-! ## The round trip -/

/-- The packet that is sent for a payload arrives, and the payload comes to a handler as it
has been sent. -/
def HandsExactly
    (algorithms : Algorithms)
    (encrypt : List UInt8 → List UInt8 → List UInt8 → List UInt8)
    (ipv6HeaderSize : List UInt8 → Option Nat)
    (services : Services)
    (ike : IkeServer)
    (arrival : Arrival)
    (c : IkeClient)
    (s : SendingSa)
    (data : List UInt8)
    (protocolId : UInt8) : Prop :=
  ∃ sent src handler,
    ipsecSendPacketByIPsecSaInner algorithms encrypt c s data protocolId = .ok (some sent) ∧
      espOf ipv6HeaderSize arrival src = sent.packet ∧
      espHandedOver algorithms services ike (espOf ipv6HeaderSize arrival src) =
        some (handler, data)

section

variable {algorithms : Algorithms}
variable {encrypt : List UInt8 → List UInt8 → List UInt8 → List UInt8}
variable {ike : IkeServer}
variable {s : SendingSa}
variable {receiver : IPsecSa}

theorem procIPsecEspPacketRecv_of_espPayload
    {esp payload : List UInt8}
    {sa : IPsecSa}
    (processed : espPayload algorithms ike esp = some (sa, payload))
    (arrival : Arrival) :
    procIPsecEspPacketRecv algorithms ike arrival esp =
      procDecrypted algorithms ike arrival esp sa payload := by
  unfold espPayload at processed
  unfold procIPsecEspPacketRecv
  cases found : espSa ike esp with
  | none =>
      rw [found] at processed
      exact nomatch processed
  | some other =>
      rw [found] at processed
      dsimp only at processed ⊢
      by_cases bad : hashMatches algorithms other esp = false ∨ encryptedPayload other esp = [] ∨
          (encryptedPayload other esp).length % other.transformSetting.crypto.blockSize ≠ 0
      · rw [if_pos bad] at processed
        exact nomatch processed
      · rw [if_neg bad] at processed
        obtain ⟨right, blocks⟩ := not_or.mp bad
        rw [if_neg right, if_neg blocks]
        cases keyed : other.cryptoKey with
        | none =>
            rw [keyed] at processed
            exact nomatch processed
        | some key =>
            rw [keyed] at processed
            dsimp only at processed ⊢
            split at processed
            case isTrue => exact nomatch processed
            case isFalse =>
              injection processed with same
              injection same with sameSa samePayload
              rw [← sameSa, ← samePayload]

/-- No payload comes to a handler as it has been sent. -/
theorem not_handsExactly
    (ciphers : Ciphers algorithms encrypt s.block)
    (matched : Matched ike s receiver)
    (ipv6HeaderSize : List UInt8 → Option Nat)
    (services : Services)
    (arrival : Arrival)
    (c : IkeClient)
    (data : List UInt8)
    (protocolId : UInt8) :
    ¬HandsExactly algorithms encrypt ipv6HeaderSize services ike arrival c s data
      protocolId := by
  rintro ⟨sent, src, handler, sends, arrives, handed⟩
  obtain ⟨paddingSize, _, processed⟩ := espPayload_sent ciphers matched sends
  rw [arrives, espHandedOver, processed] at handed
  dsimp only at handed
  split at handed
  case isTrue => exact nomatch handed
  case isFalse =>
    obtain ⟨_, _, pair⟩ := Option.map_eq_some_iff.mp handed
    have same : data ++ espTrailer paddingSize protocolId = data := congrArg Prod.snd pair
    have sizes := congrArg List.length same
    rw [List.length_append, length_espTrailer] at sizes
    omega

end

theorem procIPsecUdpPacketRecv_append
    {data : List UInt8}
    (header : 8 ≤ data.length)
    (whole : fromBigEndian ((data.drop 4).take 2) ≤ data.length)
    (trailer : List UInt8) :
    procIPsecUdpPacketRecv (data ++ trailer) = procIPsecUdpPacketRecv data := by
  have lengthField : ((data ++ trailer).drop 4).take 2 = (data.drop 4).take 2 := by
    rw [List.drop_append_of_le_length (by omega), List.take_append_of_le_length (by simp; omega)]
  have portField : ((data ++ trailer).drop 2).take 2 = (data.drop 2).take 2 := by
    rw [List.drop_append_of_le_length (by omega), List.take_append_of_le_length (by simp; omega)]
  unfold procIPsecUdpPacketRecv
  dsimp only
  rw [lengthField, portField]
  generalize lengthIs : fromBigEndian ((data.drop 4).take 2) = packetLength at whole ⊢
  by_cases short : packetLength ≤ 8
  · by_cases empty : data.length ≤ 8
    · simp [short, empty]
    · simp [short]
  · have payload : ((data ++ trailer).drop 8).take (packetLength - 8) =
        (data.drop 8).take (packetLength - 8) := by
      rw [List.drop_append_of_le_length header,
        List.take_append_of_le_length (by simp; omega)]
    have source : (data ++ trailer).take 2 = data.take 2 :=
      List.take_append_of_le_length (by omega)
    have longer : packetLength ≤ (data ++ trailer).length := by
      rw [List.length_append]
      omega
    simp only [payload, source, if_neg (show ¬(data ++ trailer).length ≤ 8 by omega),
      if_neg (show ¬data.length ≤ 8 by omega),
      if_neg (show ¬(packetLength ≤ 8 ∨ (data ++ trailer).length < packetLength) by omega),
      if_neg (show ¬(packetLength ≤ 8 ∨ data.length < packetLength) by omega)]

/-- The packet of `IPsecSendUdpPacket`. -/
def udpPacket (srcPort dstPort : Nat) (checksum : ByteArrayOf 2) (data : List UInt8) :
    List UInt8 :=
  bigEndian 2 srcPort ++ bigEndian 2 dstPort ++ bigEndian 2 (8 + data.length) ++ checksum.val ++
    data

theorem procIPsecUdpPacketRecv_udpPacket
    {srcPort : Nat}
    {data : List UInt8}
    (port : srcPort < 65536)
    (some_ : data ≠ [])
    (small : 8 + data.length < 65536)
    (checksum : ByteArrayOf 2)
    (trailer : List UInt8) :
    procIPsecUdpPacketRecv (udpPacket srcPort IPSEC_PORT_L2TP checksum data ++ trailer) =
      some (srcPort, data) := by
  have positive := List.length_pos_iff.mpr some_
  have sizes : (udpPacket srcPort IPSEC_PORT_L2TP checksum data).length = 8 + data.length := by
    simp [udpPacket, length_bigEndian, checksum.property]
    omega
  have header : ∀ rest, (udpPacket srcPort IPSEC_PORT_L2TP checksum data).drop 4 ++ rest =
      bigEndian 2 (8 + data.length) ++ (checksum.val ++ data ++ rest) := by
    intro rest
    simp [udpPacket, bigEndian]
  have lengthField : fromBigEndian
      (((udpPacket srcPort IPSEC_PORT_L2TP checksum data).drop 4).take 2) = 8 + data.length := by
    rw [← List.append_nil (List.drop 4 _), header, List.take_left' (length_bigEndian 2 _)]
    exact fromBigEndian_bigEndian small
  rw [procIPsecUdpPacketRecv_append (by omega) (by omega)]
  unfold procIPsecUdpPacketRecv
  dsimp only
  rw [lengthField, if_neg (by omega), if_neg (by omega)]
  have dst : ((udpPacket srcPort IPSEC_PORT_L2TP checksum data).drop 2).take 2 =
      bigEndian 2 IPSEC_PORT_L2TP := by
    simp [udpPacket, bigEndian]
  have src : (udpPacket srcPort IPSEC_PORT_L2TP checksum data).take 2 = bigEndian 2 srcPort := by
    simp [udpPacket, bigEndian]
  have payload : (udpPacket srcPort IPSEC_PORT_L2TP checksum data).drop 8 = data := by
    apply List.drop_left'
    simp [length_bigEndian, checksum.property]
  rw [dst, src, payload, if_pos (by decide), fromBigEndian_bigEndian port, Nat.add_sub_cancel_left,
    List.take_length]

/-- **L2TP through ESP.**  The trailer stays behind the UDP packet that is handed over, and the
length in its header keeps it from the L2TP server. -/
theorem procIPsecUdpPacketRecv_sent
    {algorithms : Algorithms}
    {encrypt : List UInt8 → List UInt8 → List UInt8 → List UInt8}
    {ike : IkeServer}
    {s : SendingSa}
    {receiver : IPsecSa}
    (ciphers : Ciphers algorithms encrypt s.block)
    (matched : Matched ike s receiver)
    (transport : isIPsecSaTunnelMode receiver = false)
    {srcPort : Nat}
    {data : List UInt8}
    (port : srcPort < 65536)
    (some_ : data ≠ [])
    (small : 8 + data.length < 65536)
    {checksum : ByteArrayOf 2}
    {c : IkeClient}
    {sent : Sent}
    (sends : ipsecSendPacketByIPsecSaInner algorithms encrypt c s
      (udpPacket srcPort IPSEC_PORT_L2TP checksum data) IP_PROTO_UDP = .ok (some sent))
    {services : Services}
    (served : services.l2tpIPsec = true)
    (arrival : Arrival) :
    ∃ decData, espHandedOver algorithms services ike sent.packet = some (.udp, decData) ∧
      procIPsecEspPacketRecv algorithms ike arrival sent.packet =
        procDecrypted algorithms ike arrival sent.packet receiver decData ∧
      procIPsecUdpPacketRecv decData = some (srcPort, data) := by
  obtain ⟨_, _, processed⟩ := espPayload_sent ciphers matched sends
  refine ⟨_, ?_, procIPsecEspPacketRecv_of_espPayload processed arrival,
    procIPsecUdpPacketRecv_udpPacket port some_ small checksum _⟩
  unfold espHandedOver
  rw [processed]
  dsimp only
  rw [transport, if_neg (by decide)]
  simp [espTrailer, List.getLastD_eq_getLast?, Services.handler, served, IP_PROTO_UDP]

/-! ## An EtherIP frame -/

/-- A cipher that turns what it is given around, and a hash of sixteen bytes. -/
def turningAlgorithms : Algorithms where
  calcKeymat _ _ _ _ _ := []
  hmac key data := (key ++ data ++ List.replicate 16 0).take 16
  decrypt _ _ data := data.reverse
  service _ _ _ := none

/-- The encryption of `turningAlgorithms`. -/
def turn (_key _iv data : List UInt8) : List UInt8 :=
  data.reverse

theorem ciphers_turn (blockSize : Nat) : Ciphers turningAlgorithms turn blockSize where
  decrypt_encrypt _ _ data _ _ := data.reverse_reverse
  length_encrypt _ _ _ _ _ := List.length_reverse
  length_hmac key data := by
    have size : (turningAlgorithms.hmac key data).length = 16 := by
      simp [turningAlgorithms]
      omega
    rw [size]
    decide

theorem desKeySize : (8 : Nat) ≠ 0 ∧ 8 ∈ [8] := by
  decide

def desTransport : TransformSetting where
  crypto := { blockSize := 8, keySizes := [8] }
  cryptoKeySize := 8
  hashSize := 16
  dh := false
  lifeKilobytes := 0
  spiServerToClient := 1
  capsuleMode := .natTransport1
  keySizeChecked := desKeySize

def transportSa (address : Nat) (serverToClient : Bool) : IPsecSa where
  address := address
  ikeClient := 0
  ikeSa := none
  messageId := 1
  spi := 0x1234
  lastCommTick := 0
  transformSetting := desTransport
  serverToClient := serverToClient
  established := true
  initiatorRand := []
  cryptoKey := some [1, 2, 3, 4, 5, 6, 7, 8]
  initiated := false
  skeyidD := []

def zeroArray (size : Nat) : ByteArrayOf size :=
  ⟨List.replicate size 0, List.length_replicate⟩

theorem desBlockSize :
    (transportSa 1 true).transformSetting.crypto.blockSize ∈ Set.Icc 1 IKE_MAX_BLOCK_SIZE := by
  decide

def transportSender : SendingSa where
  sa := transportSa 1 true
  espIv := zeroArray IKE_MAX_BLOCK_SIZE
  blockSize := desBlockSize

def transportServer : IkeServer where
  ipsecSaList := [transportSa 2 false]

def natEndpoint : Endpoint where
  clientIP := { addr := zeroArray 4 }
  clientPort := IPSEC_PORT_IPSEC_ESP_UDP
  serverIP := { addr := zeroArray 4 }
  serverPort := IPSEC_PORT_IPSEC_ESP_UDP

/-- A packet to UDP port 4500. -/
def natArrival : Arrival where
  now := 1
  endpoint := natEndpoint
  found := 0

def natClient : IkeClient where
  address := 0
  endpoint := natEndpoint
  firstCommTick := 0
  lastCommTick := 0

/-- An EtherIP packet with the smallest Ethernet frame. -/
def etherIPFrame : List UInt8 :=
  [0x30, 0, 255, 255, 255, 255, 255, 255, 2, 0, 0, 0, 0, 1, 8, 6]

theorem matched_transport :
    Matched transportServer transportSender (transportSa 2 false) where
  found := rfl
  crypto := rfl
  hashSize := rfl
  hashKey := rfl
  cryptoKey := rfl

theorem not_handsExactly_transport :
    Ciphers turningAlgorithms turn transportSender.block ∧
      Matched transportServer transportSender (transportSa 2 false) ∧
      ¬HandsExactly turningAlgorithms turn (fun _ => none) ⟨true, true⟩ transportServer
        natArrival natClient transportSender etherIPFrame IPSEC_IP_PROTO_ETHERIP :=
  ⟨ciphers_turn _, matched_transport,
    not_handsExactly (ciphers_turn _) matched_transport (fun _ => none) ⟨true, true⟩ natArrival
      natClient etherIPFrame IPSEC_IP_PROTO_ETHERIP⟩

/-- The EtherIP packet goes to the virtual hub with eight more bytes. -/
theorem etherIPFrame_padded :
    ¬HandsExactly turningAlgorithms turn (fun _ => none) ⟨true, true⟩ transportServer natArrival
      natClient transportSender etherIPFrame IPSEC_IP_PROTO_ETHERIP := by
  rintro ⟨sent, src, handler, sends, arrives, handed⟩
  have received : (ipsecSendPacketByIPsecSaInner turningAlgorithms turn natClient transportSender
      etherIPFrame IPSEC_IP_PROTO_ETHERIP).toOption.join.bind
        (fun sent => espHandedOver turningAlgorithms ⟨true, true⟩ transportServer sent.packet) =
      some (.etherIP, etherIPFrame ++ [1, 2, 3, 4, 5, 6, 6, 97]) := by
    decide +kernel
  rw [sends] at received
  rw [arrives] at handed
  have both := handed.symm.trans received
  injection both with same
  have frames : etherIPFrame = etherIPFrame ++ [1, 2, 3, 4, 5, 6, 6, 97] :=
    congrArg Prod.snd same
  exact absurd frames (by decide)

/-- An L2TP packet of one byte. -/
theorem procIPsecUdpPacketRecv_sent_byte :
    ∃ packet decData, espHandedOver turningAlgorithms ⟨true, false⟩ transportServer packet =
        some (.udp, decData) ∧
      procIPsecUdpPacketRecv decData = some (IPSEC_PORT_L2TP, [7]) := by
  have sizes : Sizes transportSender.block
      (udpPacket IPSEC_PORT_L2TP IPSEC_PORT_L2TP (zeroArray 2) [7]).length 5 :=
    ⟨by decide, by decide, by decide, by decide⟩
  obtain ⟨sent, sends, _⟩ := ipsecSendPacketByIPsecSaInner_packet (ciphers_turn _) sizes
    (by decide) rfl natClient IP_PROTO_UDP
  obtain ⟨decData, handed, _, received⟩ := procIPsecUdpPacketRecv_sent (ciphers_turn _)
    matched_transport (by decide) (by decide) (by decide) (by decide) sends
    (show Services.l2tpIPsec ⟨true, false⟩ = true from rfl) natArrival
  exact ⟨sent.packet, decData, handed, received⟩

end Ike
end SoftEther
