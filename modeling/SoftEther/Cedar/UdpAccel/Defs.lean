import SoftEther.Mayaqua.Network
import SoftEther.Mayaqua.Rudp.Bulk

/-!
# UDP acceleration

`UdpAccelSend` builds a datagram behind an initial vector of its version, and
`UdpAccelProcessRecvPacket` of the other side takes it apart.  The ticks of the datagrams decide
what is too old and who may move the endpoint.
-/

namespace SoftEther
namespace UdpAcceleration

open Network (Ip)
open Rudp (BulkCrypto)

def UDP_ACCELERATION_COMMON_KEY_SIZE_V1 : Nat := 20

def UDP_ACCELERATION_PACKET_IV_SIZE_V1 : Nat := 20

def UDP_ACCELERATION_COMMON_KEY_SIZE_V2 : Nat := 128

def UDP_ACCELERATION_PACKET_IV_SIZE_V2 : Nat := 12

def UDP_ACCELERATION_PACKET_MAC_SIZE_V2 : Nat := 16

/-- The part of a key of version 2 that the cipher uses. -/
def AEAD_CHACHA20_POLY1305_KEY_SIZE : Nat := 32

def UDP_ACCELERATION_TMP_BUF_SIZE : Nat := 2048

def UDP_ACCELERATION_WINDOW_SIZE_MSEC : UInt64 := 30000

def UDP_ACCELERATION_MAX_PADDING_SIZE : Nat := 32

/-- The fields of `UDP_ACCEL` that datagrams are built and taken apart with. -/
structure UdpAccel where
  now : UInt64
  myKey : ByteArrayOf UDP_ACCELERATION_COMMON_KEY_SIZE_V1
  yourKey : ByteArrayOf UDP_ACCELERATION_COMMON_KEY_SIZE_V1
  yourPort : UInt32
  yourIp : Ip
  lastRecvYourTick : UInt64
  lastRecvMyTick : UInt64
  plainTextMode : Bool
  lastSetSrcIpAndPortTick : UInt64
  lastRecvTick : UInt64
  nextIv : ByteArrayOf UDP_ACCELERATION_PACKET_IV_SIZE_V1
  myCookie : UInt32
  yourCookie : UInt32
  isReachedOnce : Bool
  firstStableReceiveTick : UInt64
  version : UInt32
  myKeyV2 : ByteArrayOf UDP_ACCELERATION_COMMON_KEY_SIZE_V2
  yourKeyV2 : ByteArrayOf UDP_ACCELERATION_COMMON_KEY_SIZE_V2
  nextIvV2 : ByteArrayOf UDP_ACCELERATION_PACKET_IV_SIZE_V2
  readRawFlagMode : Bool

def udpAccelCalcKey (crypto : BulkCrypto) (commonKey iv : List UInt8) : List UInt8 :=
  crypto.hashSha1 (commonKey ++ iv)

/-! ## Sending -/

/-- The tick of the sender, which is never zero. -/
def UdpAccel.myTick (a : UdpAccel) : UInt64 :=
  if a.now = 0 then 1 else a.now

/-- What a datagram holds in front of its padding. -/
def UdpAccel.clearText (a : UdpAccel) (data : List UInt8) (flag : UInt8) : List UInt8 :=
  writeBufInt a.yourCookie ++
    (writeBufInt64 a.myTick ++
      (writeBufInt64 a.lastRecvYourTick ++ (bigEndian 2 data.length ++ flag :: data)))

/-- The size of the padding, with the number that `rand` returns. -/
def padSize (rand currentSize : Nat) (maxSize : UInt32) : Nat :=
  let maxSize := if maxSize = 0 then 0xFFFFFFFF else maxSize.toNat
  if currentSize < maxSize then
    rand % min (maxSize - currentSize) UDP_ACCELERATION_MAX_PADDING_SIZE
  else 0

/-- The datagram in `tmp`. -/
def UdpAccel.datagram
    (crypto : BulkCrypto)
    (a : UdpAccel)
    (data : List UInt8)
    (flag : UInt8)
    (maxSize : UInt32)
    (rand : Nat) :
    List UInt8 :=
  let clear := a.clearText data flag
  if a.plainTextMode then clear
  else if a.version = 2 then
    let pad := padSize rand
      (UDP_ACCELERATION_PACKET_IV_SIZE_V2 + clear.length + UDP_ACCELERATION_PACKET_MAC_SIZE_V2)
      maxSize
    a.nextIvV2.val ++
      crypto.aeadEncrypt (a.myKeyV2.val.take AEAD_CHACHA20_POLY1305_KEY_SIZE) a.nextIvV2.val
        (clear ++ List.replicate pad 0)
  else
    let pad := padSize rand
      (UDP_ACCELERATION_PACKET_IV_SIZE_V1 + clear.length + UDP_ACCELERATION_PACKET_IV_SIZE_V1)
      maxSize
    a.nextIv.val ++
      crypto.encrypt (udpAccelCalcKey crypto a.myKey.val a.nextIv.val)
        (clear ++ (List.replicate pad 0 ++ List.replicate UDP_ACCELERATION_PACKET_IV_SIZE_V1 0))

/-- The initial vector of the next datagram is taken from this one. -/
def UdpAccel.withNextIv (a : UdpAccel) (tmp : List UInt8) : UdpAccel :=
  if a.plainTextMode then a
  else if a.version = 2 then
    { a with
      nextIvV2 := Rudp.nextIv a.nextIvV2 tmp (tmp.length - UDP_ACCELERATION_PACKET_MAC_SIZE_V2) }
  else { a with nextIv := Rudp.nextIv a.nextIv tmp tmp.length }

/-- `UdpAccelSend`: the datagram for the endpoint.  There is nothing when the buffer `tmp` is too
small. -/
def udpAccelSend
    (crypto : BulkCrypto)
    (a : UdpAccel)
    (data : List UInt8)
    (flag : UInt8)
    (maxSize : UInt32)
    (rand : Nat) :
    Option (List UInt8 × UdpAccel) :=
  let tmp := a.datagram crypto data flag maxSize rand
  if tmp.length ≤ UDP_ACCELERATION_TMP_BUF_SIZE then some (tmp, a.withNextIv tmp) else none

/-! ## Receiving -/

/-- What is read from a datagram. -/
structure Packet where
  myTick : UInt64
  yourTick : UInt64
  flag : UInt8
  data : List UInt8

/-- The bytes behind the initial vector, decrypted, without the tag. -/
def decrypt (crypto : BulkCrypto) (a : UdpAccel) (buf : List UInt8) : Option (List UInt8) :=
  if buf = [] then none
  else if a.plainTextMode then some buf
  else if a.version = 2 then
    if buf.length < UDP_ACCELERATION_PACKET_IV_SIZE_V2 then none
    else
      let iv := buf.take UDP_ACCELERATION_PACKET_IV_SIZE_V2
      let buf := buf.drop UDP_ACCELERATION_PACKET_IV_SIZE_V2
      if buf.length < UDP_ACCELERATION_PACKET_MAC_SIZE_V2 then none
      else crypto.aeadDecrypt (a.yourKeyV2.val.take AEAD_CHACHA20_POLY1305_KEY_SIZE) iv buf
  else if buf.length < UDP_ACCELERATION_PACKET_IV_SIZE_V1 then none
  else
    some
      (crypto.encrypt
        (udpAccelCalcKey crypto a.yourKey.val (buf.take UDP_ACCELERATION_PACKET_IV_SIZE_V1))
        (buf.drop UDP_ACCELERATION_PACKET_IV_SIZE_V1))

def readUSHORT (data : List UInt8) : Option Nat :=
  if 2 ≤ data.length then some (fromBigEndian (data.take 2)) else none

/-- The check of what is behind the data. -/
def verified (a : UdpAccel) (buf : List UInt8) : Bool :=
  if a.plainTextMode = false ∧ a.version = 1 then
    UDP_ACCELERATION_PACKET_IV_SIZE_V1 ≤ buf.length ∧
      buf.drop (buf.length - UDP_ACCELERATION_PACKET_IV_SIZE_V1) =
        List.replicate UDP_ACCELERATION_PACKET_IV_SIZE_V1 0
  else true

def parse (a : UdpAccel) (buf : List UInt8) : Option Packet := do
  let cookie ← readUINT buf
  if cookie ≠ a.myCookie then none
  else
    let buf := buf.drop 4
    let myTick ← readUINT64 buf
    let buf := buf.drop 8
    let yourTick ← readUINT64 buf
    let buf := buf.drop 8
    let innerSize ← readUSHORT buf
    let buf := buf.drop 2
    let flag ← buf.head?
    let buf := buf.drop 1
    if buf.length < innerSize then none
    else if verified a (buf.drop innerSize) then
      some
        { myTick := myTick
          yourTick := yourTick
          flag := flag
          data := buf.take innerSize }
    else none

/-- The datagram in front of the check of its tick. -/
def opened (crypto : BulkCrypto) (a : UdpAccel) (buf : List UInt8) : Option Packet :=
  (decrypt crypto a buf).bind (parse a)

/-- The tick of the sender is too far behind. -/
def UdpAccel.behind (a : UdpAccel) (tick : UInt64) : Bool :=
  tick < a.lastRecvYourTick ∧ UDP_ACCELERATION_WINDOW_SIZE_MSEC ≤ a.lastRecvYourTick - tick

/-- `MAX`. -/
def maxTick (a b : UInt64) : UInt64 :=
  if b ≤ a then a else b

/-- What an accepted packet leaves in the object. -/
def UdpAccel.accept (a : UdpAccel) (p : Packet) (srcIp : Ip) (srcPort : UInt32) : UdpAccel :=
  let a :=
    { a with
      lastRecvMyTick := maxTick a.lastRecvMyTick p.yourTick
      lastRecvYourTick := maxTick a.lastRecvYourTick p.myTick }
  let a :=
    if a.lastSetSrcIpAndPortTick < a.lastRecvYourTick then
      { a with
        lastSetSrcIpAndPortTick := a.lastRecvYourTick
        yourIp := srcIp
        yourPort := srcPort }
    else a
  if a.lastRecvMyTick ≠ 0 ∧ a.now ≤ a.lastRecvMyTick + UDP_ACCELERATION_WINDOW_SIZE_MSEC then
    { a with
      lastRecvTick := a.now
      isReachedOnce := true
      firstStableReceiveTick :=
        if a.firstStableReceiveTick = 0 then a.now else a.firstStableReceiveTick }
  else a

/-- The fields of the `BLOCK` that is returned. -/
structure Block where
  buf : List UInt8
  compressed : Bool
  rawFlagRetUdpAccel : UInt8
  deriving DecidableEq

/-- `NewBlock` of the data, which is expanded when the flag says that it is compressed. -/
def newBlock (uncompress : List UInt8 → List UInt8) (a : UdpAccel) (p : Packet) : Option Block :=
  if p.data = [] then none
  else if a.readRawFlagMode then
    some { buf := p.data, compressed := false, rawFlagRetUdpAccel := p.flag }
  else
    some
      { buf := if p.flag = 0 then p.data else uncompress p.data
        compressed := false
        rawFlagRetUdpAccel := 0 }

/-- The packet, when it is not rejected. -/
def admitted (crypto : BulkCrypto) (a : UdpAccel) (buf : List UInt8) : Option Packet :=
  (opened crypto a buf).filter fun p => !a.behind p.myTick

/-- `UdpAccelProcessRecvPacket`. -/
def udpAccelProcessRecvPacket
    (crypto : BulkCrypto)
    (uncompress : List UInt8 → List UInt8)
    (a : UdpAccel)
    (buf : List UInt8)
    (srcIp : Ip)
    (srcPort : UInt32) :
    UdpAccel × Option Block :=
  match admitted crypto a buf with
  | none => (a, none)
  | some p => (a.accept p srcIp srcPort, newBlock uncompress a p)

end UdpAcceleration
end SoftEther
