import SoftEther.Mayaqua.TcpIp.DhcpModifyReads
import SoftEther.Mayaqua.TcpIp.HeaderBytes

/-!
# Rewriting of frames with a DHCP packet

`DhcpModifyIPv4`, which puts the result of `DhcpModify` in the place of the UDP payload, and the
sizes and checksums of the frame that it returns.
-/

namespace SoftEther
namespace TcpIp

/-- `sizeof(UDP_HEADER)`. -/
def sizeofUdpHeader : Nat := 8

def isDhcpPorts (srcPort dstPort : Nat) : Bool :=
  (srcPort = 67 ∧ dstPort = 68) ∨ (srcPort = 68 ∧ dstPort = 67)

namespace Pkt

variable (p : Pkt)

/-- What `L4.PointerL4` of an IPv4 packet points to. -/
def l4 : List UInt8 :=
  p.l3.drop (headerSize p.l3)

/-- `Payload` of a UDP packet, of `PayloadSize` bytes. -/
def udpPayload : List UInt8 :=
  p.l4.drop sizeofUdpHeader

/-- The packet has the types `L3_IPV4` and `L4_UDP`. -/
def isIPv4Udp : Bool :=
  p.typeL3 = .ipv4 ∧ p.typeL4 = .udp

/-- The packet has the type `L7_DHCPV4` too: `ParseUDP` and `ParseDHCPv4`. -/
def isDhcpV4 : Bool :=
  p.isIPv4Udp ∧ isDhcpPorts (ushortAt p.l4 0) (ushortAt p.l4 2) ∧
    sizeofDhcpV4Header ≤ p.udpPayload.length

end Pkt

/-- `udp->Checksum = 0`. -/
def clearUdpChecksum (udp : List UInt8) : List UInt8 :=
  copyAt udp 6 (littleUshort 0)

/-- The checksum of a UDP packet in an IPv4 packet, with the field of the checksum cleared. -/
def udpChecksum (ip udp : List UInt8) : Nat :=
  calcChecksumForIPv4 (srcIP ip) (dstIP ip) IP_PROTO_UDP (clearUdpChecksum udp)

/-- The end of `DhcpModifyIPv4`: the UDP checksum of the new frame, over what the parser leaves
of it. -/
def recalculateUdpChecksum (ret : List UInt8) : List UInt8 :=
  match parsePacket ret with
  | none => ret
  | some p =>
      if p.isIPv4Udp then
        p.packetData.take (p.packetData.length - p.l4.length) ++
          copyAt (clearUdpChecksum p.l4) 6 (littleUshort (udpChecksum p.l3 p.l4)) ++
            ret.drop p.packetData.length
      else ret

/-- `DhcpModifyIPv4` of a frame, with the memory behind it. -/
def dhcpModifyIPv4
    (removeDefaultGatewayOnReply : Bool)
    (data : List UInt8)
    (behind : Memory) :
    Option (List UInt8) :=
  if data = [] then none
  else
    match parsePacket data with
    | none => none
    | some p =>
        if p.isDhcpV4 then
          let headers := p.packetData.length - p.udpPayload.length
          (dhcpModify removeDefaultGatewayOnReply (memoryOf (data.drop headers) behind)
            p.udpPayload.length).map fun newBuf =>
              recalculateUdpChecksum (p.packetData.take headers ++ newBuf)
        else none

/-! ## Frames with a UDP packet -/

/-- The IPv4 packet of a frame. -/
def ipOf (frame : List UInt8) : List UInt8 :=
  frame.drop sizeofMacHeader

/-- The UDP packet of a frame with an IPv4 packet. -/
def udpOf (frame : List UInt8) : List UInt8 :=
  (ipOf frame).drop (headerSize (ipOf frame))

def udpHeadersSize (frame : List UInt8) : Nat :=
  sizeofMacHeader + headerSize (ipOf frame) + sizeofUdpHeader

/-- A frame that is parsed as an IPv4 packet with a UDP packet. -/
structure IsUdpFrame (frame : List UInt8) : Prop where
  protocol : ushortAt frame 12 = MAC_PROTO_IPV4
  header : sizeofIPv4Header ≤ headerSize (ipOf frame)
  whole : udpHeadersSize frame ≤ frame.length
  /-- It is no later fragment. -/
  unfragmented : getOffset (ipOf frame) = 0
  isUdp : (ipOf frame).getD 9 0 = IP_PROTO_UDP

theorem parseICMPv4_ne_udp (buf : List UInt8) : parseICMPv4 buf ≠ some .udp := by
  unfold parseICMPv4
  split
  case isTrue => simp
  case isFalse => simp

theorem parseTCP_ne_udp (buf : List UInt8) : parseTCP buf ≠ some .udp := by
  unfold parseTCP
  split
  case isTrue => simp
  case isFalse =>
    split
    case isTrue => simp
    case isFalse => simp

theorem map_ipv4_udp_iff (type : Option L4Type) :
    type.map (fun type => (L3Type.ipv4, type)) = some (.ipv4, .udp) ↔ type = some .udp := by
  cases type with
  | none => simp
  | some type => simp

theorem parsePacketIPv4_udp_iff (buf : List UInt8) :
    parsePacketIPv4 buf = some (.ipv4, .udp) ↔
      sizeofIPv4Header ≤ headerSize buf ∧ headerSize buf + sizeofUdpHeader ≤ buf.length ∧
        getOffset buf = 0 ∧ buf.getD 9 0 = IP_PROTO_UDP := by
  have rest : (buf.drop (headerSize buf)).length = buf.length - headerSize buf := List.length_drop
  unfold parsePacketIPv4 sizeofIPv4Header sizeofUdpHeader
  split
  case isTrue short => exact iff_of_false (by simp) (by omega)
  case isFalse long =>
    split
    case isTrue wrong => exact iff_of_false (by simp) (by omega)
    case isFalse right =>
      split
      case isTrue fragment => exact iff_of_false (by simp) (by omega)
      case isFalse first =>
        dsimp only
        split
        case isTrue icmp =>
          rw [map_ipv4_udp_iff, icmp]
          exact iff_of_false (parseICMPv4_ne_udp _) (by simp [IP_PROTO_ICMPV4, IP_PROTO_UDP])
        case isFalse =>
          split
          case isTrue udp =>
            rw [map_ipv4_udp_iff, parseUDP, rest]
            split
            case isTrue short => exact iff_of_false (by simp) (by omega)
            case isFalse => exact iff_of_true rfl ⟨by omega, by omega, by omega, udp⟩
          case isFalse noUdp =>
            refine iff_of_false ?_ fun all => noUdp all.2.2.2
            split
            case isTrue =>
              rw [map_ipv4_udp_iff]
              exact parseTCP_ne_udp _
            case isFalse => simp

theorem parsePacketL2_udp_iff (frame : List UInt8) :
    parsePacketL2 frame = some (.ipv4, .udp) ↔ IsUdpFrame frame := by
  have rest : (ipOf frame).length = frame.length - sizeofMacHeader := List.length_drop
  unfold parsePacketL2
  split
  case isTrue short =>
    refine iff_of_false (by simp) fun udp => ?_
    have whole := udp.whole
    unfold udpHeadersSize at whole
    omega
  case isFalse long =>
    split
    case isTrue arp =>
      refine iff_of_false ?_ fun udp => absurd (arp.symm.trans udp.protocol) (by decide)
      unfold parsePacketARPv4
      split
      case isTrue => simp
      case isFalse => simp
    case isFalse =>
      split
      case isTrue ipv4 =>
        rw [← ipOf, parsePacketIPv4_udp_iff]
        constructor
        · rintro ⟨header, whole, first, isUdp⟩
          refine ⟨ipv4, header, ?_, first, isUdp⟩
          unfold udpHeadersSize
          omega
        · intro udp
          have whole := udp.whole
          unfold udpHeadersSize at whole
          exact ⟨udp.header, by omega, udp.unfragmented, udp.isUdp⟩
      case isFalse other => exact iff_of_false (by simp) fun udp => other udp.protocol

theorem length_ipOf (frame : List UInt8) : (ipOf frame).length = frame.length - sizeofMacHeader :=
  List.length_drop

theorem length_udpOf (frame : List UInt8) :
    (udpOf frame).length = frame.length - sizeofMacHeader - headerSize (ipOf frame) := by
  rw [udpOf, List.length_drop, length_ipOf]

section SameHeaders

variable {first second : List UInt8} {size : Nat}

theorem ipOf_sameStart
    (same : first.take size = second.take size) :
    (ipOf first).take (size - sizeofMacHeader) = (ipOf second).take (size - sizeofMacHeader) :=
  drop_sameStart same sizeofMacHeader

theorem headerSize_ipOf_sameStart
    (same : first.take size = second.take size)
    (inside : 24 ≤ size) :
    headerSize (ipOf first) = headerSize (ipOf second) := by
  apply headerSize_sameStart (ipOf_sameStart same)
  unfold sizeofMacHeader
  omega

theorem IsUdpFrame.sameStart
    (udp : IsUdpFrame first)
    (same : first.take size = second.take size)
    (headers : udpHeadersSize first ≤ size)
    (whole : udpHeadersSize first ≤ second.length) :
    IsUdpFrame second := by
  have header := udp.header
  have sameIp := ipOf_sameStart same
  unfold udpHeadersSize sizeofMacHeader sizeofUdpHeader at headers whole
  unfold sizeofIPv4Header at header
  have large : 42 ≤ size := by omega
  have sameSize := headerSize_ipOf_sameStart same (by omega)
  unfold sizeofMacHeader at sameIp
  refine ⟨?_, ?_, ?_, ?_, ?_⟩
  · rw [← ushortAt_sameStart same (by omega)]
    exact udp.protocol
  · rw [← sameSize]
    exact udp.header
  · unfold udpHeadersSize sizeofMacHeader sizeofUdpHeader
    omega
  · rw [← getOffset_sameStart sameIp (by omega)]
    exact udp.unfragmented
  · rw [← getD_sameStart sameIp (by omega)]
    exact udp.isUdp

end SameHeaders

/-- The frame without the garbage behind its IPv4 packet. -/
def trimmed (buf : List UInt8) : List UInt8 :=
  buf.take (trimmedSize buf)

theorem trimmedSize_le (buf : List UInt8) : trimmedSize buf ≤ buf.length := by
  unfold trimmedSize
  split
  case isTrue => exact Nat.min_le_left _ _
  case isFalse => exact le_rfl

theorem length_trimmed (buf : List UInt8) : (trimmed buf).length = trimmedSize buf := by
  rw [trimmed, List.length_take, Nat.min_eq_left (trimmedSize_le buf)]

variable {buf : List UInt8}

theorem trimmed_sameStart
    {size : Nat}
    (inside : size ≤ trimmedSize buf) :
    (trimmed buf).take size = buf.take size := by
  rw [trimmed, List.take_take, Nat.min_eq_left inside]

theorem le_trimmedSize_sameStart
    {first second : List UInt8}
    {size : Nat}
    (same : first.take size = second.take size)
    (large : 24 ≤ size)
    (inside : size ≤ trimmedSize first)
    (whole : size ≤ second.length) :
    size ≤ trimmedSize second := by
  have atMost : size ≤ first.length := inside.trans (trimmedSize_le first)
  unfold trimmedSize at inside ⊢
  rw [← ushortAt_sameStart same (by omega), ← ushortAt_sameStart same (by omega)]
  split
  case isTrue trims =>
    rw [if_pos ⟨by omega, trims.2⟩] at inside
    omega
  case isFalse => exact whole

theorem parsePacket_udp
    (udp : IsUdpFrame (trimmed buf)) :
    parsePacket buf = some ⟨trimmed buf, .ipv4, .udp⟩ := by
  have layers := (parsePacketL2_udp_iff (trimmed buf)).mpr udp
  unfold parsePacket
  rw [← trimmed]
  dsimp only
  rw [layers]
  rfl

theorem isUdpFrame_of_parsePacket
    {p : Pkt}
    (parsed : parsePacket buf = some p)
    (udp : p.isIPv4Udp = true) :
    p.packetData = trimmed buf ∧ IsUdpFrame (trimmed buf) := by
  obtain ⟨ipv4, isUdp⟩ : p.typeL3 = .ipv4 ∧ p.typeL4 = .udp := by simpa [Pkt.isIPv4Udp] using udp
  obtain ⟨types, layers, rfl⟩ := Option.map_eq_some_iff.mp parsed
  refine ⟨rfl, (parsePacketL2_udp_iff _).mp (layers.trans ?_)⟩
  exact congrArg some (Prod.ext ipv4 isUdp)

def udpChecksumPlace (frame : List UInt8) : Nat :=
  sizeofMacHeader + headerSize (ipOf frame) + 6

theorem udpOf_eq (frame : List UInt8) :
    udpOf frame = frame.drop (sizeofMacHeader + headerSize (ipOf frame)) := by
  rw [udpOf, ipOf, List.drop_drop]

theorem copyAt_udpOf
    {frame : List UInt8}
    (udp : IsUdpFrame frame)
    (checksum : Nat) :
    frame.take (frame.length - (udpOf frame).length) ++
        copyAt (clearUdpChecksum (udpOf frame)) 6 (littleUshort checksum) =
      copyAt frame (udpChecksumPlace frame) (littleUshort checksum) := by
  have whole := udp.whole
  unfold udpHeadersSize sizeofUdpHeader at whole
  have length := length_udpOf frame
  have headers : frame.length - (udpOf frame).length =
      sizeofMacHeader + headerSize (ipOf frame) := by
    omega
  have field : 6 + (littleUshort 0).length ≤ (udpOf frame).length := by
    rw [length_littleUshort]
    omega
  have start : sizeofMacHeader + headerSize (ipOf frame) ≤ frame.length := by omega
  have front : (copyAt frame (udpChecksumPlace frame) (littleUshort checksum)).take
      (sizeofMacHeader + headerSize (ipOf frame)) =
        frame.take (sizeofMacHeader + headerSize (ipOf frame)) :=
    take_copyAt (Nat.le_add_right _ _) (by unfold udpChecksumPlace; omega)
  have twice : copyAt (clearUdpChecksum (udpOf frame)) 6 (littleUshort checksum) =
      copyAt (udpOf frame) 6 (littleUshort checksum) :=
    copyAt_copyAt field rfl
  rw [headers, twice, udpOf_eq, ← drop_copyAt_add start, ← udpChecksumPlace, ← front, List.take_append_drop]

theorem recalculateUdpChecksum_eq
    {raw : List UInt8}
    (udp : IsUdpFrame (trimmed raw)) :
    ∃ checksum,
      recalculateUdpChecksum raw =
        copyAt raw (udpChecksumPlace (trimmed raw)) (littleUshort checksum) ∧
      (trimmedSize raw = raw.length → checksum = udpChecksum (ipOf raw) (udpOf raw)) := by
  refine ⟨udpChecksum (ipOf (trimmed raw)) (udpOf (trimmed raw)), ?_, fun all => ?_⟩
  · have isUdp : (Pkt.mk (trimmed raw) .ipv4 .udp).isIPv4Udp = true := rfl
    have field : ∀ checksum, udpChecksumPlace (trimmed raw) + (littleUshort checksum).length ≤
        (trimmed raw).length := by
      intro checksum
      have whole := udp.whole
      unfold udpHeadersSize sizeofUdpHeader at whole
      rw [length_littleUshort]
      unfold udpChecksumPlace
      omega
    have written := copyAt_udpOf udp (udpChecksum (ipOf (trimmed raw)) (udpOf (trimmed raw)))
    unfold recalculateUdpChecksum
    rw [parsePacket_udp udp]
    dsimp only
    rw [if_pos isUdp]
    have join : trimmed raw ++ raw.drop (trimmed raw).length = raw := by
      rw [length_trimmed, trimmed, List.take_append_drop]
    calc (trimmed raw).take ((trimmed raw).length - (udpOf (trimmed raw)).length) ++
          copyAt (clearUdpChecksum (udpOf (trimmed raw))) 6
            (littleUshort (udpChecksum (ipOf (trimmed raw)) (udpOf (trimmed raw)))) ++
          raw.drop (trimmed raw).length
      _ = copyAt (trimmed raw) (udpChecksumPlace (trimmed raw))
            (littleUshort (udpChecksum (ipOf (trimmed raw)) (udpOf (trimmed raw)))) ++
          raw.drop (trimmed raw).length := by rw [written]
      _ = copyAt (trimmed raw ++ raw.drop (trimmed raw).length) (udpChecksumPlace (trimmed raw))
            (littleUshort (udpChecksum (ipOf (trimmed raw)) (udpOf (trimmed raw)))) :=
          (copyAt_append (field _) _).symm
      _ = _ := by rw [join]
  · have same : trimmed raw = raw := by rw [trimmed, all, List.take_length]
    rw [same]

/-! ## Frames that agree with themselves -/

/-- The sizes and the checksums in the headers of a frame with a UDP packet are those of its
bytes. -/
structure SelfConsistent (frame : List UInt8) : Prop where
  /-- `TotalLength` counts the bytes from the IPv4 header to the end. -/
  totalLength : ushortAt (ipOf frame) 2 = (ipOf frame).length
  /-- `PacketLength` counts the bytes from the UDP header to the end. -/
  packetLength : ushortAt (udpOf frame) 4 = (udpOf frame).length
  ipChecksum : ipCheckChecksum (ipOf frame) = true
  udpChecksum : (bytesAt (udpOf frame) 6 2).val = littleUshort 0 ∨
    (bytesAt (udpOf frame) 6 2).val = littleUshort (udpChecksum (ipOf frame) (udpOf frame))

structure HeadersCount (frame : List UInt8) (messageSize : Nat) : Prop where
  /-- `TotalLength` counts the headers and a message of the size. -/
  totalLength : ushortAt (ipOf frame) 2 =
    headerSize (ipOf frame) + sizeofUdpHeader + messageSize
  /-- `PacketLength` counts the UDP header and a message of the size. -/
  packetLength : ushortAt (udpOf frame) 4 = sizeofUdpHeader + messageSize
  ipChecksum : ipCheckChecksum (ipOf frame) = true

theorem headersCount_sameStart
    {first second : List UInt8}
    (udp : IsUdpFrame first)
    (same : first.take (udpChecksumPlace first) = second.take (udpChecksumPlace first))
    (messageSize : Nat) :
    HeadersCount first messageSize ↔ HeadersCount second messageSize := by
  have header := udp.header
  have whole := udp.whole
  have sameIp := ipOf_sameStart same
  unfold udpHeadersSize sizeofMacHeader sizeofUdpHeader at whole
  unfold udpChecksumPlace sizeofMacHeader at same sameIp
  unfold sizeofIPv4Header at header
  have sameSize := headerSize_ipOf_sameStart same (by omega)
  have sameUdp := drop_sameStart same (14 + headerSize (ipOf first))
  have total : ushortAt (ipOf first) 2 = ushortAt (ipOf second) 2 :=
    ushortAt_sameStart sameIp (by omega)
  have packet : ushortAt (udpOf first) 4 = ushortAt (udpOf second) 4 := by
    rw [udpOf_eq, udpOf_eq, ← sameSize]
    exact ushortAt_sameStart sameUdp (by omega)
  have checksum : ipCheckChecksum (ipOf first) = ipCheckChecksum (ipOf second) := by
    apply ipCheckChecksum_sameStart sameIp
    · rw [length_ipOf, sizeofMacHeader]
      omega
    · omega
    · omega
  constructor
  · rintro ⟨totalLength, packetLength, ipChecksum⟩
    refine ⟨?_, packet.symm.trans packetLength, checksum.symm.trans ipChecksum⟩
    rw [← total, ← sameSize, totalLength]
  · rintro ⟨totalLength, packetLength, ipChecksum⟩
    refine ⟨?_, packet.trans packetLength, checksum.trans ipChecksum⟩
    rw [total, sameSize, totalLength]

section Checksum

variable {raw : List UInt8}

theorem udpChecksum_inside
    (udp : IsUdpFrame raw)
    (checksum : Nat) :
    udpChecksumPlace raw + (littleUshort checksum).length ≤ raw.length := by
  have whole := udp.whole
  unfold udpHeadersSize sizeofUdpHeader at whole
  rw [length_littleUshort]
  unfold udpChecksumPlace
  omega

theorem copyAt_udpChecksum_sameStart
    (udp : IsUdpFrame raw)
    (checksum : Nat) :
    raw.take (udpChecksumPlace raw) =
      (copyAt raw (udpChecksumPlace raw) (littleUshort checksum)).take (udpChecksumPlace raw) :=
  (take_copyAt le_rfl (Nat.le_of_add_right_le (udpChecksum_inside udp checksum))).symm

theorem large_udpChecksumPlace
    (udp : IsUdpFrame raw) :
    40 ≤ udpChecksumPlace raw := by
  have header := udp.header
  unfold sizeofIPv4Header at header
  unfold udpChecksumPlace sizeofMacHeader
  omega

theorem headerSize_copyAt_udpChecksum
    (udp : IsUdpFrame raw)
    (checksum : Nat) :
    headerSize (ipOf (copyAt raw (udpChecksumPlace raw) (littleUshort checksum))) =
      headerSize (ipOf raw) := by
  have large := large_udpChecksumPlace udp
  exact (headerSize_ipOf_sameStart (copyAt_udpChecksum_sameStart udp checksum) (by omega)).symm

theorem udpOf_copyAt_udpChecksum
    (udp : IsUdpFrame raw)
    (checksum : Nat) :
    udpOf (copyAt raw (udpChecksumPlace raw) (littleUshort checksum)) =
      copyAt (udpOf raw) 6 (littleUshort checksum) := by
  have inside := udpChecksum_inside udp checksum
  rw [udpOf_eq, headerSize_copyAt_udpChecksum udp, udpOf_eq]
  exact drop_copyAt_add (by unfold udpChecksumPlace at inside; omega) 6

theorem udpChecksum_copyAt
    (udp : IsUdpFrame raw)
    (checksum : Nat) :
    udpChecksum (ipOf (copyAt raw (udpChecksumPlace raw) (littleUshort checksum)))
        (udpOf (copyAt raw (udpChecksumPlace raw) (littleUshort checksum))) =
      udpChecksum (ipOf raw) (udpOf raw) := by
  have large := large_udpChecksumPlace udp
  have sameIp := ipOf_sameStart (copyAt_udpChecksum_sameStart udp checksum)
  have length := length_udpOf raw
  have whole := udp.whole
  unfold udpHeadersSize sizeofUdpHeader at whole
  have cleared : clearUdpChecksum (copyAt (udpOf raw) 6 (littleUshort checksum)) =
      clearUdpChecksum (udpOf raw) :=
    copyAt_copyAt (by rw [length_littleUshort]; omega) rfl
  unfold sizeofMacHeader at sameIp
  rw [udpChecksum, udpChecksum, udpOf_copyAt_udpChecksum udp, cleared,
    srcIP_sameStart sameIp (by omega), dstIP_sameStart sameIp (by omega)]

theorem selfConsistent_copyAt_iff
    (udp : IsUdpFrame raw)
    (checksum : Nat) :
    SelfConsistent (copyAt raw (udpChecksumPlace raw) (littleUshort checksum)) ↔
      HeadersCount raw (raw.length - udpHeadersSize raw) ∧
        (littleUshort checksum = littleUshort 0 ∨
          littleUshort checksum = littleUshort (udpChecksum (ipOf raw) (udpOf raw))) := by
  have whole := udp.whole
  have length := length_copyAt (udpChecksum_inside udp checksum)
  have sameSize := headerSize_copyAt_udpChecksum udp checksum
  have belongs := udpChecksum_copyAt udp checksum
  have field : (bytesAt (udpOf (copyAt raw (udpChecksumPlace raw) (littleUshort checksum))) 6
      2).val = littleUshort checksum := by
    have udpLength := length_udpOf raw
    unfold udpHeadersSize sizeofUdpHeader at whole
    rw [udpOf_copyAt_udpChecksum udp]
    exact bytesAt_copyAt (by rw [length_littleUshort]; omega)
  rw [headersCount_sameStart udp (copyAt_udpChecksum_sameStart udp checksum)]
  generalize copyAt raw (udpChecksumPlace raw) (littleUshort checksum) = frame at *
  have ipLength : (ipOf frame).length =
      headerSize (ipOf frame) + sizeofUdpHeader + (raw.length - udpHeadersSize raw) := by
    rw [length_ipOf, length, sameSize]
    unfold udpHeadersSize at whole ⊢
    omega
  have udpLength : (udpOf frame).length =
      sizeofUdpHeader + (raw.length - udpHeadersSize raw) := by
    rw [length_udpOf, length, sameSize]
    unfold udpHeadersSize at whole ⊢
    omega
  constructor
  · rintro ⟨total, packet, ip, udpIs⟩
    rw [field, belongs] at udpIs
    exact ⟨⟨total.trans ipLength, packet.trans udpLength, ip⟩, udpIs⟩
  · rintro ⟨⟨total, packet, ip⟩, udpIs⟩
    refine ⟨total.trans ipLength.symm, packet.trans udpLength.symm, ip, ?_⟩
    rw [field, belongs]
    exact udpIs

end Checksum

/-- The size that an option takes: every 255 bytes of its data have an identifier and a size. -/
def optionSize (d : DhcpOption) : Nat :=
  d.data.length + 2 * (1 + (d.data.length - 1) / 255)

theorem length_buildMore
    {n : Nat}
    {data : List UInt8}
    (enough : data.length ≤ n) :
    (buildMore n data).length = data.length + 2 * ((data.length + 254) / 255) := by
  induction n generalizing data with
  | zero =>
      rw [List.length_eq_zero_iff.mp (Nat.le_zero.mp enough)]
      rfl
  | succ n inductionHypothesis =>
      unfold buildMore
      split
      case isTrue empty =>
        rw [empty]
        rfl
      case isFalse more =>
        have positive := List.length_pos_iff.mpr more
        have rest : (data.drop 255).length ≤ n := by
          rw [List.length_drop]
          omega
        rw [List.length_cons, List.length_cons, List.length_append, inductionHypothesis rest,
          List.length_take, List.length_drop]
        omega

theorem length_buildDhcpOption (d : DhcpOption) : (buildDhcpOption d).length = optionSize d := by
  have rest : (d.data.drop 255).length ≤ d.data.length := by
    rw [List.length_drop]
    omega
  rw [buildDhcpOption, List.length_cons, List.length_cons, List.length_append,
    length_buildMore rest, List.length_take, List.length_drop, optionSize]
  omega

theorem length_buildDhcpOptionsBuf (o : List DhcpOption) :
    (buildDhcpOptionsBuf o).length = (o.map optionSize).sum + 1 := by
  have sizes : (List.length ∘ buildDhcpOption) = optionSize :=
    funext length_buildDhcpOption
  rw [buildDhcpOptionsBuf, List.length_append, List.length_flatMap, ← sizes]
  rfl

theorem length_padDhcp (ret : List UInt8) : (padDhcp ret).length = max DHCP_MIN_SIZE ret.length := by
  rw [padDhcp, List.length_append, List.length_replicate]
  omega

/-- The size of a message that is rewritten: the bytes up to the magic cookie, the options that
stay, and the end mark, or 300 bytes when these are fewer. -/
def rewrittenSize (removeDefaultGatewayOnReply : Bool) (memory : Memory) (size : Nat) : Nat :=
  match findCookie memory sizeofDhcpV4Header size with
  | none => 0
  | some (ptr, left) =>
      max DHCP_MIN_SIZE (ptr + ((keptOptions removeDefaultGatewayOnReply
        (parseDhcpOptions (region memory ptr left))).map optionSize).sum + 1)

theorem length_dhcpModify
    {removeDefaultGatewayOnReply : Bool}
    {memory : Memory}
    {size : Nat}
    {newBuf : List UInt8}
    (modified : dhcpModify removeDefaultGatewayOnReply memory size = some newBuf) :
    newBuf.length = rewrittenSize removeDefaultGatewayOnReply memory size := by
  unfold dhcpModify at modified
  unfold rewrittenSize
  by_cases short : size < sizeofDhcpV4Header
  case pos =>
    rw [if_pos short] at modified
    exact nomatch modified
  case neg =>
    rw [if_neg short] at modified
    cases found : findCookie memory sizeofDhcpV4Header size with
    | none =>
        rw [found] at modified
        exact nomatch modified
    | some cookie =>
        rw [found] at modified
        dsimp only at modified ⊢
        split at modified
        case isTrue =>
          injection modified with same
          rw [← same, length_padDhcp, List.length_append, length_region,
            length_buildDhcpOptionsBuf, Nat.add_assoc]
        case isFalse => exact nomatch modified

/-! ## The new frame -/

/-- The memory from the DHCP message of a frame on. -/
def messageMemory (data : List UInt8) (behind : Memory) : Memory :=
  memoryOf (data.drop (udpHeadersSize data)) behind

/-- The size of the DHCP message of a frame. -/
def messageSize (data : List UInt8) : Nat :=
  trimmedSize data - udpHeadersSize data

section Rewritten

variable {removeDefaultGatewayOnReply : Bool} {data ret : List UInt8} {behind : Memory}

theorem dhcpModifyIPv4_eq_some
    (rewritten : dhcpModifyIPv4 removeDefaultGatewayOnReply data behind = some ret) :
    IsUdpFrame (trimmed data) ∧ udpHeadersSize (trimmed data) = udpHeadersSize data ∧
      ∃ newBuf,
        newBuf.length = rewrittenSize removeDefaultGatewayOnReply (messageMemory data behind)
          (messageSize data) ∧
        ret = recalculateUdpChecksum (data.take (udpHeadersSize data) ++ newBuf) := by
  unfold dhcpModifyIPv4 at rewritten
  split at rewritten
  case isTrue => exact nomatch rewritten
  case isFalse =>
    split at rewritten
    case h_1 => exact nomatch rewritten
    case h_2 p parsed =>
      split at rewritten
      case isFalse => exact nomatch rewritten
      case isTrue isDhcp =>
        obtain ⟨isUdp, _, _⟩ : p.isIPv4Udp = true ∧ isDhcpPorts (ushortAt p.l4 0) (ushortAt p.l4 2) ∧
            sizeofDhcpV4Header ≤ p.udpPayload.length := by
          simpa [Pkt.isDhcpV4] using isDhcp
        obtain ⟨packet, udp⟩ := isUdpFrame_of_parsePacket parsed isUdp
        have header := udp.header
        have whole := udp.whole
        rw [length_trimmed, udpHeadersSize, sizeofUdpHeader] at whole
        have sameSize : headerSize (ipOf (trimmed data)) = headerSize (ipOf data) := by
          apply headerSize_ipOf_sameStart (trimmed_sameStart le_rfl)
          unfold sizeofMacHeader at whole
          unfold sizeofIPv4Header at header
          omega
        have payload : p.udpPayload.length = messageSize data := by
          have l4 : p.l4 = udpOf (trimmed data) := by
            unfold Pkt.l4 Pkt.l3
            rw [packet]
            rfl
          rw [Pkt.udpPayload, l4, List.length_drop, length_udpOf, length_trimmed, sameSize,
            messageSize, udpHeadersSize]
          omega
        have headers : p.packetData.length - p.udpPayload.length = udpHeadersSize data := by
          rw [payload, packet, length_trimmed, messageSize, udpHeadersSize, ← sameSize]
          unfold sizeofUdpHeader
          omega
        obtain ⟨newBuf, modified, is⟩ := Option.map_eq_some_iff.mp rewritten
        rw [headers, payload] at modified
        refine ⟨udp, ?_, newBuf, length_dhcpModify modified, ?_⟩
        · rw [udpHeadersSize, udpHeadersSize, sameSize]
        · rw [← is, headers, packet, trimmed_sameStart]
          rw [udpHeadersSize, ← sameSize, sizeofUdpHeader]
          exact whole

theorem trimmedSize_of_headersCount
    {raw : List UInt8}
    (udp : IsUdpFrame raw)
    (counts : HeadersCount raw (raw.length - udpHeadersSize raw)) :
    trimmedSize raw = raw.length := by
  have whole := udp.whole
  have total : ushortAt raw 16 + sizeofMacHeader = raw.length := by
    have field : ushortAt raw 16 = ushortAt (ipOf raw) 2 := (ushortAt_drop raw 14 2).symm
    rw [field, counts.totalLength]
    unfold udpHeadersSize at whole ⊢
    omega
  unfold sizeofMacHeader at total
  unfold trimmedSize
  split
  case isTrue =>
    rw [total]
    exact Nat.min_self _
  case isFalse => rfl

/-- The frame that is returned agrees with itself exactly when the headers of the old frame
already count the new message and the checksum of the old IPv4 header is right. -/
theorem dhcpModifyIPv4_selfConsistent_iff
    (rewritten : dhcpModifyIPv4 removeDefaultGatewayOnReply data behind = some ret) :
    SelfConsistent ret ↔
      HeadersCount data
        (rewrittenSize removeDefaultGatewayOnReply (messageMemory data behind)
          (messageSize data)) := by
  obtain ⟨udp, sameSize, newBuf, size, rfl⟩ := dhcpModifyIPv4_eq_some rewritten
  rw [← size]
  have inside : udpHeadersSize data ≤ trimmedSize data := by
    have whole := udp.whole
    rwa [sameSize, length_trimmed] at whole
  have insideData := inside.trans (trimmedSize_le data)
  have taken : (data.take (udpHeadersSize data)).length = udpHeadersSize data := by
    rw [List.length_take, Nat.min_eq_left insideData]
  have sameStart : data.take (udpHeadersSize data) =
      (data.take (udpHeadersSize data) ++ newBuf).take (udpHeadersSize data) :=
    (List.take_left' taken).symm
  have length : (data.take (udpHeadersSize data) ++ newBuf).length =
      udpHeadersSize data + newBuf.length := by
    rw [List.length_append, taken]
  generalize data.take (udpHeadersSize data) ++ newBuf = raw at *
  have fits : udpHeadersSize data ≤ raw.length := by omega
  -- the headers are in the old frame, in the new one, and in what the parser leaves of the new one
  have udpOld : IsUdpFrame data :=
    udp.sameStart (trimmed_sameStart inside) sameSize.le (sameSize.trans_le insideData)
  have large : 42 ≤ udpHeadersSize data := by
    have header := udpOld.header
    unfold sizeofIPv4Header at header
    unfold udpHeadersSize sizeofMacHeader sizeofUdpHeader
    omega
  have udpNew : IsUdpFrame raw := udpOld.sameStart sameStart le_rfl fits
  have trims : udpHeadersSize data ≤ trimmedSize raw :=
    le_trimmedSize_sameStart sameStart (by omega) inside fits
  have udpTrimmed : IsUdpFrame (trimmed raw) := by
    refine udpOld.sameStart (sameStart.trans (trimmed_sameStart trims).symm) le_rfl ?_
    rwa [length_trimmed]
  have headers : headerSize (ipOf raw) = headerSize (ipOf data) :=
    (headerSize_ipOf_sameStart sameStart (by omega)).symm
  have place : udpChecksumPlace (trimmed raw) = udpChecksumPlace raw := by
    rw [udpChecksumPlace, udpChecksumPlace,
      headerSize_ipOf_sameStart (trimmed_sameStart trims) (by omega)]
  have newSize : raw.length - udpHeadersSize raw = newBuf.length := by
    rw [udpHeadersSize, headers, ← udpHeadersSize]
    omega
  have counted : HeadersCount data newBuf.length ↔ HeadersCount raw newBuf.length := by
    apply headersCount_sameStart udpOld
    apply take_sameStart sameStart
    unfold udpChecksumPlace udpHeadersSize sizeofUdpHeader
    omega
  obtain ⟨checksum, is, right⟩ := recalculateUdpChecksum_eq udpTrimmed
  rw [is, place, selfConsistent_copyAt_iff udpNew, newSize, counted]
  constructor
  · rintro ⟨counts, _⟩
    exact counts
  · intro counts
    have all := trimmedSize_of_headersCount udpNew (newSize ▸ counts)
    exact ⟨counts, .inr (congrArg littleUshort (right all))⟩

/-- An offer of a DHCP server: the BOOTP header, the magic cookie and options, in a frame whose
headers count it. -/
def exampleOffer (options : List UInt8) : List UInt8 :=
  let message := [2, 1, 6, 0] ++ List.replicate 232 0 ++ DHCP_MAGIC_COOKIE ++ options
  let ip := [0x45, 0] ++ bigEndian 2 (28 + message.length) ++
    [0, 0, 0, 0, 64, 17, 0, 0, 192, 168, 0, 1, 192, 168, 0, 10]
  let udp := bigEndian 2 67 ++ bigEndian 2 68 ++ bigEndian 2 (8 + message.length) ++ [0, 0]
  List.replicate 6 0xff ++ [2, 0, 0, 0, 0, 1] ++ bigEndian 2 MAC_PROTO_IPV4 ++ fillChecksum ip ++
    udp ++ message

/-- An offer with a default gateway, of 300 bytes. -/
def exampleGateway : List UInt8 :=
  exampleOffer ([0x35, 1, 2, 3, 4, 192, 168, 0, 1, 255] ++ List.replicate 50 0)

/-- An offer of 322 bytes, with a default gateway and a domain name of 70 bytes. -/
def exampleDomainName : List UInt8 :=
  exampleOffer ([0x35, 1, 2, 3, 4, 192, 168, 0, 1, 15, 70] ++ List.replicate 70 97 ++ [255])

/-- A message that is filled up to its old size leaves the headers right. -/
theorem dhcpModifyIPv4_selfConsistent_example :
    ∃ ret, dhcpModifyIPv4 true exampleGateway (fun _ => 0) = some ret ∧ SelfConsistent ret := by
  have isSome : (dhcpModifyIPv4 true exampleGateway fun _ => 0).isSome = true := by decide +kernel
  obtain ⟨ret, rewritten⟩ := Option.isSome_iff_exists.mp isSome
  refine ⟨ret, rewritten, (dhcpModifyIPv4_selfConsistent_iff rewritten).mpr ⟨?_, ?_, ?_⟩⟩
  · decide +kernel
  · decide +kernel
  · decide +kernel

/-- A longer message becomes shorter, and the headers still count the old one. -/
theorem dhcpModifyIPv4_notSelfConsistent :
    ¬∀ (removeDefaultGatewayOnReply : Bool) (data ret : List UInt8) (behind : Memory),
      dhcpModifyIPv4 removeDefaultGatewayOnReply data behind = some ret → SelfConsistent ret := by
  intro consistent
  have isSome : (dhcpModifyIPv4 true exampleDomainName fun _ => 0).isSome = true := by
    decide +kernel
  have wrong : ∀ ret ∈ dhcpModifyIPv4 true exampleDomainName fun _ => 0,
      ushortAt (ipOf ret) 2 ≠ (ipOf ret).length := by
    decide +kernel
  obtain ⟨ret, rewritten⟩ := Option.isSome_iff_exists.mp isSome
  exact wrong ret rewritten (consistent _ _ _ _ rewritten).totalLength

end Rewritten

end TcpIp
end SoftEther
