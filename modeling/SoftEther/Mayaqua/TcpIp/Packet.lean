import SoftEther.Mayaqua.Fields
import SoftEther.Mayaqua.Network

/-!
# Packets

What `ParsePacket` says about an Ethernet frame with an ARP or an IPv4 packet, and the
checksums of `TcpIp.c`.  A frame is the list of its bytes; the headers that a `PKT` points to
are found at their offsets.
-/

namespace SoftEther
namespace TcpIp

open Network

def MAC_PROTO_IPV4 : Nat := 2048

def MAC_PROTO_ARPV4 : Nat := 2054

def ARP_HARDWARE_TYPE_ETHERNET : Nat := 1

def ARP_OPERATION_REQUEST : Nat := 1

def ARP_OPERATION_RESPONSE : Nat := 2

/-- `sizeof(MAC_HEADER)`. -/
def sizeofMacHeader : Nat := 14

/-- `sizeof(IPV4_HEADER)`. -/
def sizeofIPv4Header : Nat := 20

/-- `sizeof(ARPV4_HEADER)`. -/
def sizeofArpHeader : Nat := 28

/-- `sizeof(ICMP_HEADER)`. -/
def sizeofIcmpHeader : Nat := 4

def IP_PROTO_ICMPV4 : UInt8 := 1

def IP_PROTO_TCP : UInt8 := 6

def IP_PROTO_UDP : UInt8 := 17

/-- A MAC address of six bytes of one value. -/
def macOf (byte : UInt8) : MacAddress :=
  ⟨List.replicate 6 byte, List.length_replicate⟩

/-- `ARPV4_HEADER` of an ARP packet that is sent. -/
def arpV4Header
    (operation : Nat)
    (srcAddress : MacAddress)
    (srcIP : UInt32)
    (targetAddress : MacAddress)
    (targetIP : UInt32) :
    List UInt8 :=
  bigEndian 2 ARP_HARDWARE_TYPE_ETHERNET ++ bigEndian 2 MAC_PROTO_IPV4 ++ [6, 4] ++
    bigEndian 2 operation ++ srcAddress.val ++ (bytesOfUINT srcIP).val ++ targetAddress.val ++
      (bytesOfUINT targetIP).val

/-! ## Checksums -/

/-- The sum of the words of a block, least significant byte first: the loop of
`IpChecksum`. -/
def sumWords : List UInt8 → Nat
  | low :: high :: rest => low.toNat + 256 * high.toNat + sumWords rest
  | [low] => low.toNat
  | [] => 0

/-- The part of `IpChecksum` behind the loop. -/
def foldSum (sum : Nat) : Nat :=
  let sum := sum / 65536 + sum % 65536
  let sum := sum + sum / 65536
  65535 - sum % 65536

def ipChecksum (buf : List UInt8) : Nat :=
  foldSum (sumWords buf)

/-- A `USHORT` as it lies in memory. -/
def littleUshort (value : Nat) : List UInt8 :=
  [UInt8.ofNat value, UInt8.ofNat (value / 256)]

/-- `CalcChecksumForIPv4` of a whole payload: the checksum with the pseudo header. -/
def calcChecksumForIPv4
    (srcIp dstIp : UInt32)
    (protocol : UInt8)
    (data : List UInt8) :
    Nat :=
  ipChecksum ((bytesOfUINT srcIp).val ++ (bytesOfUINT dstIp).val ++ [0, protocol] ++
    bigEndian 2 data.length ++ data)

/-- `IPV4_GET_HEADER_LEN` times four, of an IPv4 header. -/
def headerSize (ip : List UInt8) : Nat :=
  (ip.getD 0 0 &&& 0x0f).toNat * 4

/-- `SrcIP` of an IPv4 header. -/
def srcIP (ip : List UInt8) : UInt32 :=
  uintAt ip 12

/-- `DstIP` of an IPv4 header. -/
def dstIP (ip : List UInt8) : UInt32 :=
  uintAt ip 16

/-- `TimeToLive` of an IPv4 header. -/
def timeToLive (ip : List UInt8) : UInt8 :=
  ip.getD 8 0

/-- `ip->Checksum = 0`. -/
def clearChecksum (ip : List UInt8) : List UInt8 :=
  copyAt ip 10 (littleUshort 0)

def ipCheckChecksum (ip : List UInt8) : Bool :=
  (bytesAt ip 10 2).val = littleUshort (ipChecksum ((clearChecksum ip).take (headerSize ip)))

/-- `ip->Checksum = 0`, and then the checksum of the header. -/
def fillChecksum (ip : List UInt8) : List UInt8 :=
  copyAt (clearChecksum ip) 10
    (littleUshort (ipChecksum ((clearChecksum ip).take (headerSize ip))))

theorem length_littleUshort (value : Nat) : (littleUshort value).length = 2 :=
  rfl

theorem headerSize_copyAt
    {ip data : List UInt8}
    {offset : Nat}
    (inside : offset + data.length ≤ ip.length)
    (behind : 1 ≤ offset) :
    headerSize (copyAt ip offset data) = headerSize ip := by
  unfold headerSize
  rw [List.getD_eq_getElem?_getD, List.getD_eq_getElem?_getD,
    getElem?_copyAt_outside inside (.inl behind)]

theorem headerSize_le (ip : List UInt8) : headerSize ip ≤ 60 := by
  have small : (ip.getD 0 0 &&& 0x0f).toNat ≤ 15 := by
    rw [UInt8.toNat_and]
    exact Nat.and_le_right
  unfold headerSize
  omega

theorem bytesAt_copyAt
    {memory data : List UInt8}
    {offset : Nat}
    (inside : offset + data.length ≤ memory.length) :
    (bytesAt (copyAt memory offset data) offset data.length).val = data := by
  apply List.ext_getElem
  · exact (bytesAt _ _ _).property
  · intro place _ written
    have read : (copyAt memory offset data).getD (offset + place) 0 = data[place] := by
      rw [List.getD_eq_getElem?_getD, getElem?_copyAt_inside inside written,
        List.getElem?_eq_getElem written, Option.getD_some]
    simpa [bytesAt] using read

/-- A field elsewhere stays. -/
theorem bytesAt_copyAt_outside
    {memory data : List UInt8}
    {offset place size : Nat}
    (inside : offset + data.length ≤ memory.length)
    (outside : place + size ≤ offset ∨ offset + data.length ≤ place) :
    bytesAt (copyAt memory offset data) place size = bytesAt memory place size := by
  apply Subtype.ext
  apply List.map_congr_left
  intro position listed
  have small := List.mem_range.mp listed
  rw [List.getD_eq_getElem?_getD, List.getD_eq_getElem?_getD,
    getElem?_copyAt_outside inside (by omega)]

variable {ip : List UInt8}

theorem checksum_inside
    (whole : sizeofIPv4Header ≤ ip.length)
    (checksum : Nat) :
    10 + (littleUshort checksum).length ≤ ip.length := by
  rw [length_littleUshort]
  unfold sizeofIPv4Header at whole
  omega

theorem clearChecksum_copyAt
    (whole : sizeofIPv4Header ≤ ip.length)
    (checksum : Nat) :
    clearChecksum (copyAt ip 10 (littleUshort checksum)) = clearChecksum ip :=
  copyAt_copyAt (checksum_inside whole checksum) rfl

theorem fillChecksum_eq
    (whole : sizeofIPv4Header ≤ ip.length) :
    fillChecksum ip =
      copyAt ip 10 (littleUshort (ipChecksum ((clearChecksum ip).take (headerSize ip)))) :=
  copyAt_copyAt (checksum_inside whole 0) rfl

theorem ipCheckChecksum_fillChecksum
    (whole : sizeofIPv4Header ≤ ip.length) :
    ipCheckChecksum (fillChecksum ip) = true := by
  have again : clearChecksum (fillChecksum ip) = clearChecksum ip := by
    rw [fillChecksum_eq whole, clearChecksum_copyAt whole]
  have sameSize : headerSize (fillChecksum ip) = headerSize ip := by
    rw [fillChecksum_eq whole, headerSize_copyAt (checksum_inside whole _) (by omega)]
  have field : (bytesAt (fillChecksum ip) 10 2).val =
      littleUshort (ipChecksum ((clearChecksum ip).take (headerSize ip))) := by
    rw [fillChecksum_eq whole]
    exact bytesAt_copyAt (checksum_inside whole _)
  unfold ipCheckChecksum
  rw [again, sameSize, field]
  exact decide_eq_true rfl

/-- The values of `TypeL3` that a parsed packet is asked for. -/
inductive L3Type where
  | unknown
  | arpv4
  | ipv4
  deriving DecidableEq

/-- The values of `TypeL4`. -/
inductive L4Type where
  | unknown
  | udp
  | tcp
  | icmpv4
  | fragment
  deriving DecidableEq

structure Pkt where
  /-- `PacketData`, of `PacketSize` bytes. -/
  packetData : List UInt8
  typeL3 : L3Type := .unknown
  typeL4 : L4Type := .unknown
  deriving DecidableEq

namespace Pkt

variable (p : Pkt)

def macAddressDest : MacAddress :=
  bytesAt p.packetData 0 6

def macAddressSrc : MacAddress :=
  bytesAt p.packetData 6 6

/-- `MacHeader->Protocol` in the order of the host. -/
def protocol : Nat :=
  ushortAt p.packetData 12

/-- `BroadcastPacket`: the address of all ones is a multicast address too. -/
def broadcastPacket : Bool :=
  p.packetData.getD 0 0 &&& 1 = 1

/-- What `L3.PointerL3` points to. -/
def l3 : List UInt8 :=
  p.packetData.drop sizeofMacHeader

/-- The packet with other bytes behind the MAC header. -/
def setL3 (l3 : List UInt8) : Pkt :=
  { p with packetData := p.packetData.take sizeofMacHeader ++ l3 }

variable {p}

theorem l3_setL3
    (whole : sizeofMacHeader ≤ p.packetData.length)
    (l3 : List UInt8) :
    (p.setL3 l3).l3 = l3 :=
  List.drop_left' (by rw [List.length_take, Nat.min_eq_left whole])

theorem length_setL3
    (whole : sizeofMacHeader ≤ p.packetData.length)
    (l3 : List UInt8) :
    (p.setL3 l3).packetData.length = sizeofMacHeader + l3.length := by
  unfold setL3
  dsimp only
  rw [List.length_append, List.length_take, Nat.min_eq_left whole]

theorem setL3_setL3
    (whole : sizeofMacHeader ≤ p.packetData.length)
    (first second : List UInt8) :
    (p.setL3 first).setL3 second = p.setL3 second := by
  unfold setL3
  dsimp only
  rw [List.take_left' (by rw [List.length_take, Nat.min_eq_left whole])]

theorem getElem?_setL3
    (whole : sizeofMacHeader ≤ p.packetData.length)
    (l3 : List UInt8)
    (place : Nat) :
    (p.setL3 l3).packetData[place]? =
      if place < sizeofMacHeader then p.packetData[place]? else l3[place - sizeofMacHeader]? := by
  have size : (p.packetData.take sizeofMacHeader).length = sizeofMacHeader := by
    rw [List.length_take, Nat.min_eq_left whole]
  unfold setL3
  dsimp only
  by_cases inHeader : place < sizeofMacHeader
  · rw [if_pos inHeader, List.getElem?_append_left (by omega), List.getElem?_take_of_lt inHeader]
  · rw [if_neg inHeader, List.getElem?_append_right (by omega), size]

end Pkt

/-! ## Parsing -/

/-- `ParseTCP`: the type of the packet, or nothing when it is too short. -/
def parseTCP (buf : List UInt8) : Option L4Type :=
  if buf.length < 20 then none
  else if (buf.getD 12 0 >>> 4).toNat * 4 < 20 ∨
      buf.length < (buf.getD 12 0 >>> 4).toNat * 4 then
    some .unknown
  else some .tcp

/-- `ParseUDP`, without the protocols above UDP. -/
def parseUDP (buf : List UInt8) : Option L4Type :=
  if buf.length < 8 then none else some .udp

def parseICMPv4 (buf : List UInt8) : Option L4Type :=
  if buf.length < sizeofIcmpHeader then none else some .icmpv4

/-- `IPV4_GET_OFFSET`. -/
def getOffset (ip : List UInt8) : Nat :=
  (ip.getD 6 0 &&& 0x1f).toNat * 256 + (ip.getD 7 0).toNat

def parsePacketIPv4 (buf : List UInt8) : Option (L3Type × L4Type) :=
  if buf.length < sizeofIPv4Header then none
  else if headerSize buf < sizeofIPv4Header ∨ buf.length < headerSize buf then
    some (.unknown, .unknown)
  else if getOffset buf ≠ 0 then some (.ipv4, .fragment)
  else
    let protocol := buf.getD 9 0
    let payload := buf.drop (headerSize buf)
    if protocol = IP_PROTO_ICMPV4 then (parseICMPv4 payload).map fun type => (.ipv4, type)
    else if protocol = IP_PROTO_UDP then (parseUDP payload).map fun type => (.ipv4, type)
    else if protocol = IP_PROTO_TCP then (parseTCP payload).map fun type => (.ipv4, type)
    else some (.ipv4, .unknown)

def parsePacketARPv4 (buf : List UInt8) : Option (L3Type × L4Type) :=
  if buf.length < sizeofArpHeader then none else some (.arpv4, .unknown)

/-- `ParsePacketL2Ex`.  A packet of another protocol has an unknown type here, whatever its own
parser says about it. -/
def parsePacketL2 (buf : List UInt8) : Option (L3Type × L4Type) :=
  if buf.length < sizeofMacHeader then none
  else if ushortAt buf 12 = MAC_PROTO_ARPV4 then parsePacketARPv4 (buf.drop sizeofMacHeader)
  else if ushortAt buf 12 = MAC_PROTO_IPV4 then parsePacketIPv4 (buf.drop sizeofMacHeader)
  else some (.unknown, .unknown)

/-- The size of the packet without the garbage behind its IPv4 payload. -/
def trimmedSize (buf : List UInt8) : Nat :=
  if 24 ≤ buf.length ∧ ushortAt buf 12 = MAC_PROTO_IPV4 ∧ 1 ≤ ushortAt buf 16 then
    min buf.length (ushortAt buf 16 + 14)
  else buf.length

def parsePacket (buf : List UInt8) : Option Pkt :=
  let data := buf.take (trimmedSize buf)
  (parsePacketL2 data).map fun types => ⟨data, types.1, types.2⟩

theorem packetData_of_parsePacket
    {buf : List UInt8}
    {p : Pkt}
    (parsed : parsePacket buf = some p) :
    p.packetData = buf.take (trimmedSize buf) := by
  obtain ⟨types, _, rfl⟩ := Option.map_eq_some_iff.mp parsed
  rfl

theorem headerSize_of_parsePacket
    {buf : List UInt8}
    {p : Pkt}
    (parsed : parsePacket buf = some p)
    (ipv4 : p.typeL3 = .ipv4) :
    sizeofIPv4Header ≤ headerSize p.l3 ∧ headerSize p.l3 ≤ p.l3.length := by
  unfold parsePacket at parsed
  obtain ⟨types, layers, rfl⟩ := Option.map_eq_some_iff.mp parsed
  dsimp only [Pkt.l3] at ipv4 ⊢
  unfold parsePacketL2 at layers
  split at layers
  case isTrue => exact nomatch layers
  case isFalse =>
    split at layers
    case isTrue =>
      unfold parsePacketARPv4 at layers
      split at layers
      case isTrue => exact nomatch layers
      case isFalse =>
        injection layers with same
        rw [← same] at ipv4
        exact nomatch ipv4
    case isFalse =>
      split at layers
      case isTrue =>
        generalize (buf.take (trimmedSize buf)).drop sizeofMacHeader = ip at layers ⊢
        unfold parsePacketIPv4 at layers
        split at layers
        case isTrue => exact nomatch layers
        case isFalse =>
          split at layers
          case isTrue =>
            injection layers with same
            rw [← same] at ipv4
            exact nomatch ipv4
          case isFalse fits => omega
      case isFalse =>
        injection layers with same
        rw [← same] at ipv4
        exact nomatch ipv4

end TcpIp
end SoftEther
