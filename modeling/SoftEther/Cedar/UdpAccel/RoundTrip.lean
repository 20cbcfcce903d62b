import SoftEther.Cedar.UdpAccel.Defs

/-!
# A datagram of UDP acceleration at the other side

The receiver takes from both ends what the sender has put there, whatever the version and the size
of the padding.
-/

namespace SoftEther
namespace UdpAcceleration

open Network (Ip)
open Rudp (BulkCrypto)

/-- What the receiver has in common with the sender. -/
structure Peers (sender receiver : UdpAccel) : Prop where
  plainTextMode : receiver.plainTextMode = sender.plainTextMode
  version : receiver.version = sender.version
  key : receiver.yourKey = sender.myKey
  keyV2 : receiver.yourKeyV2 = sender.myKeyV2
  cookie : receiver.myCookie = sender.yourCookie

variable {crypto : BulkCrypto} {sender receiver : UdpAccel}
variable {data : List UInt8} {flag : UInt8} {maxSize : UInt32} {rand : Nat}

/-! ## The clear text -/

theorem readUSHORT_bigEndian
    {value : Nat}
    (short : value < 65536)
    (rest : List UInt8) :
    readUSHORT (bigEndian 2 value ++ rest) = some value := by
  have length : (bigEndian 2 value).length = 2 := length_bigEndian 2 value
  have enough : 2 ≤ (bigEndian 2 value ++ rest).length := by
    rw [List.length_append]
    omega
  rw [readUSHORT, if_pos enough, List.take_left' length, fromBigEndian_bigEndian short]

theorem parse_clearText
    (peers : Peers sender receiver)
    (short : data.length < 65536)
    {rest : List UInt8}
    (checked : verified receiver rest = true) :
    parse receiver (sender.clearText data flag ++ rest) =
      some
        { myTick := sender.myTick
          yourTick := sender.lastRecvYourTick
          flag := flag
          data := data } := by
  have behind : (bigEndian 2 data.length ++ (flag :: data ++ rest)).drop 2 =
      flag :: data ++ rest :=
    List.drop_left' (length_bigEndian 2 data.length)
  simp only [parse, UdpAccel.clearText, List.append_assoc, readUINT_write, drop_write,
    readUINT64_write, drop_write64, readUSHORT_bigEndian short, behind, Option.bind_eq_bind,
    Option.bind_some, peers.cookie]
  simp [checked]

/-! ## The versions -/

theorem length_clearText (sender : UdpAccel) (data : List UInt8) (flag : UInt8) :
    (sender.clearText data flag).length = 23 + data.length := by
  simp [UdpAccel.clearText, writeBufInt, writeBufInt64, length_bigEndian]
  omega

theorem decrypt_aeadEncrypt
    (lawful : crypto.Lawful)
    (encrypted : receiver.plainTextMode = false)
    (two : receiver.version = 2)
    (iv : ByteArrayOf UDP_ACCELERATION_PACKET_IV_SIZE_V2)
    (text : List UInt8) :
    decrypt crypto receiver
        (iv.val ++
          crypto.aeadEncrypt (receiver.yourKeyV2.val.take AEAD_CHACHA20_POLY1305_KEY_SIZE) iv.val
            text) =
      some text := by
  have cipher := lawful.aeadEncrypt_length
    (receiver.yourKeyV2.val.take AEAD_CHACHA20_POLY1305_KEY_SIZE) iv.val text
  have back := lawful.aeadDecrypt_aeadEncrypt
    (receiver.yourKeyV2.val.take AEAD_CHACHA20_POLY1305_KEY_SIZE) iv.val text
  generalize crypto.aeadEncrypt _ iv.val text = tagged at cipher back ⊢
  have tag : ¬tagged.length < UDP_ACCELERATION_PACKET_MAC_SIZE_V2 := by
    rw [cipher]
    exact Nat.not_lt.mpr (Nat.le_add_left _ _)
  have nonempty : iv.val ++ tagged ≠ [] := List.ne_nil_of_length_pos (by
    rw [List.length_append, iv.property]
    exact Nat.add_pos_left (by decide) _)
  have long : ¬(iv.val ++ tagged).length < UDP_ACCELERATION_PACKET_IV_SIZE_V2 := by
    rw [List.length_append, iv.property]
    omega
  unfold decrypt
  rw [if_neg nonempty, encrypted, if_neg Bool.false_ne_true, if_pos two, if_neg long]
  simp only [List.take_left' iv.property, List.drop_left' iv.property, if_neg tag, back]

theorem decrypt_encrypt
    (lawful : crypto.Lawful)
    (encrypted : receiver.plainTextMode = false)
    (notTwo : receiver.version ≠ 2)
    (iv : ByteArrayOf UDP_ACCELERATION_PACKET_IV_SIZE_V1)
    (text : List UInt8) :
    decrypt crypto receiver
        (iv.val ++ crypto.encrypt (udpAccelCalcKey crypto receiver.yourKey.val iv.val) text) =
      some text := by
  have nonempty (text : List UInt8) : iv.val ++ text ≠ [] := List.ne_nil_of_length_pos (by
    rw [List.length_append, iv.property]
    exact Nat.add_pos_left (by decide) _)
  have long (text : List UInt8) :
      ¬(iv.val ++ text).length < UDP_ACCELERATION_PACKET_IV_SIZE_V1 := by
    rw [List.length_append, iv.property]
    omega
  unfold decrypt
  rw [if_neg (nonempty _), encrypted, if_neg Bool.false_ne_true, if_neg notTwo, if_neg (long _),
    List.take_left' iv.property, List.drop_left' iv.property, lawful.encrypt_encrypt]

theorem verified_zeros (receiver : UdpAccel) (pad : Nat) :
    verified receiver
      (List.replicate pad 0 ++ List.replicate UDP_ACCELERATION_PACKET_IV_SIZE_V1 0) = true := by
  unfold verified
  split
  · simp
  · rfl

theorem decrypt_datagram
    (lawful : crypto.Lawful)
    (peers : Peers sender receiver)
    (data : List UInt8)
    (flag : UInt8)
    (maxSize : UInt32)
    (rand : Nat) :
    ∃ rest, decrypt crypto receiver (sender.datagram crypto data flag maxSize rand) =
        some (sender.clearText data flag ++ rest) ∧
      verified receiver rest = true := by
  have nonempty : sender.clearText data flag ≠ [] := List.ne_nil_of_length_pos (by
    rw [length_clearText]
    omega)
  unfold UdpAccel.datagram
  split
  case isTrue plain =>
    refine ⟨[], ?_, ?_⟩
    · simp [decrypt, nonempty, peers.plainTextMode, plain]
    · simp [verified, peers.plainTextMode, plain]
  case isFalse notPlain =>
    have encrypted : receiver.plainTextMode = false :=
      peers.plainTextMode.trans (Bool.not_eq_true _ ▸ notPlain)
    split
    case isTrue two =>
      have version := peers.version.trans two
      rw [← peers.keyV2]
      refine ⟨_, decrypt_aeadEncrypt lawful encrypted version _ _, ?_⟩
      simp [verified, version]
    case isFalse notTwo =>
      rw [← peers.key]
      exact ⟨_, decrypt_encrypt lawful encrypted (peers.version ▸ notTwo) _ _,
        verified_zeros receiver _⟩

/-! ## The round trip -/

theorem short_of_sent
    (lawful : crypto.Lawful)
    (inBuffer :
      (sender.datagram crypto data flag maxSize rand).length ≤ UDP_ACCELERATION_TMP_BUF_SIZE) :
    data.length < 65536 := by
  have clear := length_clearText sender data flag
  unfold UdpAccel.datagram UDP_ACCELERATION_TMP_BUF_SIZE at inBuffer
  split at inBuffer
  · change (sender.clearText data flag).length ≤ 2048 at inBuffer
    omega
  · split at inBuffer
    · simp only [List.length_append, lawful.aeadEncrypt_length] at inBuffer
      omega
    · simp only [List.length_append, lawful.encrypt_length] at inBuffer
      omega

theorem opened_datagram
    (lawful : crypto.Lawful)
    (peers : Peers sender receiver)
    (inBuffer :
      (sender.datagram crypto data flag maxSize rand).length ≤ UDP_ACCELERATION_TMP_BUF_SIZE) :
    opened crypto receiver (sender.datagram crypto data flag maxSize rand) =
      some
        { myTick := sender.myTick
          yourTick := sender.lastRecvYourTick
          flag := flag
          data := data } := by
  obtain ⟨rest, decrypted, checked⟩ := decrypt_datagram lawful peers data flag maxSize rand
  rw [opened, decrypted]
  exact parse_clearText peers (short_of_sent lawful inBuffer) checked

theorem process_datagram
    (lawful : crypto.Lawful)
    (uncompress : List UInt8 → List UInt8)
    (peers : Peers sender receiver)
    {tmp : List UInt8}
    {after : UdpAccel}
    (sent : udpAccelSend crypto sender data flag maxSize rand = some (tmp, after))
    (fresh : receiver.behind sender.myTick = false)
    (srcIp : Ip)
    (srcPort : UInt32) :
    udpAccelProcessRecvPacket crypto uncompress receiver tmp srcIp srcPort =
      (receiver.accept ⟨sender.myTick, sender.lastRecvYourTick, flag, data⟩ srcIp srcPort,
        newBlock uncompress receiver ⟨sender.myTick, sender.lastRecvYourTick, flag, data⟩) := by
  dsimp only [udpAccelSend] at sent
  split at sent
  case isFalse => cases sent
  case isTrue inBuffer =>
    obtain ⟨rfl, _⟩ := Prod.mk.inj (Option.some.inj sent)
    have read := opened_datagram lawful peers inBuffer
    rw [udpAccelProcessRecvPacket, admitted, read, Option.filter_some, fresh]
    rfl

/-- A fresh datagram is accepted, and a block is made of the same data with the same flag.  Only in
the mode for raw flags does it tell the flag; otherwise a flag makes `NewBlock` expand the data. -/
theorem process_udpAccelSend
    {crypto : BulkCrypto}
    (lawful : crypto.Lawful)
    (uncompress : List UInt8 → List UInt8)
    {sender receiver after : UdpAccel}
    (peers : Peers sender receiver)
    {data tmp : List UInt8}
    {flag : UInt8}
    {maxSize : UInt32}
    {rand : Nat}
    (sent : udpAccelSend crypto sender data flag maxSize rand = some (tmp, after))
    (fresh : receiver.behind sender.myTick = false)
    (srcIp : Ip)
    (srcPort : UInt32) :
    udpAccelProcessRecvPacket crypto uncompress receiver tmp srcIp srcPort =
      (receiver.accept
          { myTick := sender.myTick
            yourTick := sender.lastRecvYourTick
            flag := flag
            data := data }
          srcIp srcPort,
        if data = [] then none
        else if receiver.readRawFlagMode then
          some { buf := data, compressed := false, rawFlagRetUdpAccel := flag }
        else if flag = 0 then
          some { buf := data, compressed := false, rawFlagRetUdpAccel := 0 }
        else some { buf := uncompress data, compressed := false, rawFlagRetUdpAccel := 0 }) := by
  rw [process_datagram lawful uncompress peers sent fresh]
  unfold newBlock
  congr 1
  split
  · rfl
  · split
    · rfl
    · split <;> rfl

theorem length_zeros (size : Nat) : (List.replicate size (0 : UInt8)).length = size :=
  List.length_replicate

/-- Both sides of a connection without encryption, with a cookie. -/
def plainText : UdpAccel where
  now := 5
  myKey := ⟨List.replicate _ 0, length_zeros UDP_ACCELERATION_COMMON_KEY_SIZE_V1⟩
  yourKey := ⟨List.replicate _ 0, length_zeros UDP_ACCELERATION_COMMON_KEY_SIZE_V1⟩
  yourPort := 0
  yourIp := Network.uintToIP 0
  lastRecvYourTick := 0
  lastRecvMyTick := 0
  plainTextMode := true
  lastSetSrcIpAndPortTick := 0
  lastRecvTick := 0
  nextIv := ⟨List.replicate _ 0, length_zeros UDP_ACCELERATION_PACKET_IV_SIZE_V1⟩
  myCookie := 7
  yourCookie := 7
  isReachedOnce := false
  firstStableReceiveTick := 0
  version := 1
  myKeyV2 := ⟨List.replicate _ 0, length_zeros UDP_ACCELERATION_COMMON_KEY_SIZE_V2⟩
  yourKeyV2 := ⟨List.replicate _ 0, length_zeros UDP_ACCELERATION_COMMON_KEY_SIZE_V2⟩
  nextIvV2 := ⟨List.replicate _ 0, length_zeros UDP_ACCELERATION_PACKET_IV_SIZE_V2⟩
  readRawFlagMode := false

/-- Without encryption the ciphers are not used. -/
def unused : BulkCrypto :=
  Rudp.cryptoOf [] [] [] (List.replicate 16 1)

theorem unused_lawful : unused.Lawful :=
  Rudp.cryptoOf_lawful rfl (by decide)

theorem peers_plainText : Peers plainText plainText where
  plainTextMode := rfl
  version := rfl
  key := rfl
  keyV2 := rfl
  cookie := rfl

theorem process_udpAccelSend_plainText :
    (udpAccelProcessRecvPacket unused id plainText (plainText.datagram unused [1, 2] 0 0 0)
      plainText.yourIp 40000).2 =
        some { buf := [1, 2], compressed := false, rawFlagRetUdpAccel := 0 } :=
  congrArg Prod.snd
    (process_udpAccelSend unused_lawful id peers_plainText (if_pos (by decide)) (by decide)
      plainText.yourIp 40000)

/-- The block of a datagram with compressed data does not tell that they were compressed. -/
theorem not_process_same_flag :
    ¬ ∀ (crypto : BulkCrypto) (uncompress : List UInt8 → List UInt8)
        (sender receiver after : UdpAccel) (data tmp : List UInt8) (flag : UInt8)
        (maxSize : UInt32) (rand : Nat) (srcIp : Ip) (srcPort : UInt32),
      crypto.Lawful → Peers sender receiver → Peers receiver sender → data ≠ [] →
        udpAccelSend crypto sender data flag maxSize rand = some (tmp, after) →
          receiver.behind sender.myTick = false →
            ∃ block,
              (udpAccelProcessRecvPacket crypto uncompress receiver tmp srcIp srcPort).2 =
                  some block ∧
                block.buf = data ∧ block.compressed = decide (flag ≠ 0) := by
  intro same
  have sent : udpAccelSend unused plainText [1] 1 0 0 =
      some (plainText.datagram unused [1] 1 0 0, plainText) :=
    rfl
  have fresh : plainText.behind plainText.myTick = false := by decide
  obtain ⟨block, made, _, compressed⟩ := same _ id _ _ _ _ _ _ _ _ plainText.yourIp 40000
    unused_lawful peers_plainText peers_plainText (List.cons_ne_nil _ _) sent fresh
  rw [process_datagram unused_lawful id peers_plainText sent fresh] at made
  have expanded : { buf := [1], compressed := false, rawFlagRetUdpAccel := 0 } = block :=
    Option.some.inj made
  rw [← expanded] at compressed
  exact absurd compressed (by decide)

end UdpAcceleration
end SoftEther
