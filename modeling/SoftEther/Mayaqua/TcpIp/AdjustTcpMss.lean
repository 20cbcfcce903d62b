import SoftEther.Mayaqua.TcpIp.HeaderBytes
import SoftEther.Mayaqua.TcpIp.IPv6Parsed

/-!
# Adjustment of the maximum segment size

`AdjustTcpMssL2` and `AdjustTcpMssL3`, which lower the MSS option of a TCP SYN segment in place,
and what they leave of a frame.
-/

namespace SoftEther
namespace TcpIp

open Network

def MAC_PROTO_IPV6 : Nat := 34525

def MAC_PROTO_TAGVLAN : Nat := 33024

/-- `sizeof(TCP_HEADER)`. -/
def sizeofTcpHeader : Nat := 20

def TCP_SYN : UInt8 := 2

def TCP_RST : UInt8 := 4

def TCP_PSH : UInt8 := 8

def TCP_URG : UInt8 := 32

/-- `ip_ver`: the version of an IP header. -/
def ipVersion (ip : List UInt8) : Nat :=
  (ip.getD 0 0).toNat >>> 4 &&& 0x0f

/-- `IPV4_GET_FLAGS`. -/
def getFlags (ip : List UInt8) : UInt8 :=
  ip.getD 6 0 >>> 5 &&& 0x07

/-- `TCP_GET_HEADER_SIZE` times four. -/
def tcpHeaderSize (tcp : List UInt8) : Nat :=
  (tcp.getD 12 0 >>> 4 &&& 0x0f).toNat * 4

/-- `Flag` of a TCP header. -/
def tcpFlag (tcp : List UInt8) : UInt8 :=
  tcp.getD 13 0

/-- `CalcChecksumForIPv6` of a whole payload: the checksum with the pseudo header. -/
def calcChecksumForIPv6
    (srcIp destIp : Ipv6Addr)
    (protocol : UInt8)
    (data : List UInt8) :
    Nat :=
  ipChecksum (srcIp.val ++ destIp.val ++ bigEndian 4 data.length ++ [0, 0, 0, protocol] ++ data)

/-- The checksum of a TCP segment behind an IP header. -/
def tcpChecksum (ip tcp : List UInt8) : Nat :=
  if ipVersion ip = 4 then calcChecksumForIPv4 (srcIP ip) (dstIP ip) IP_PROTO_TCP tcp
  else calcChecksumForIPv6 (bytesAt ip 8 16) (bytesAt ip 24 16) IP_PROTO_TCP tcp

/-- `tcp` as an offset from `src`, and `tcp_size`. -/
structure TcpPlace where
  offset : Nat
  size : Nat
  deriving DecidableEq

/-- The branch of `AdjustTcpMssL3` for IPv4. -/
def findTcpInIPv4 (src : List UInt8) : Option TcpPlace :=
  if src.length < sizeofIPv4Header then none
  else if src.getD 9 0 ≠ IP_PROTO_TCP then none
  else if getOffset src ≠ 0 then none
  else if getFlags src &&& 0x01 ≠ 0 then none
  else if headerSize src < sizeofIPv4Header then none
  else if src.length < headerSize src then none
  else if ushortAt src 2 < headerSize src then none
  else if src.length < ushortAt src 2 then none
  else if ushortAt src 2 - headerSize src < sizeofTcpHeader then none
  else some ⟨headerSize src, ushortAt src 2 - headerSize src⟩

/-- The branch of `AdjustTcpMssL3` for IPv6. -/
def findTcpInIPv6 (src : List UInt8) : Option TcpPlace :=
  match parsePacketIPv6Header src with
  | none => none
  | some v6 =>
      if v6.protocol ≠ IP_PROTO_TCP then none
      else if noFragment v6 then
        v6.payload.map fun payload => ⟨src.length - payload.length, payload.length⟩
      else none

/-- The part of `AdjustTcpMssL3` that looks for the TCP header. -/
def findTcp (src : List UInt8) : Option TcpPlace :=
  if ipVersion src = 4 then findTcpInIPv4 src
  else if ipVersion src = 6 then findTcpInIPv6 src
  else none

/-- The segment is a SYN segment for `AdjustTcpMssL3`. -/
def isPlainSyn (tcp : List UInt8) : Bool :=
  tcpFlag tcp &&& TCP_SYN ≠ 0 ∧ tcpFlag tcp &&& TCP_RST = 0 ∧ tcpFlag tcp &&& TCP_PSH = 0 ∧
    tcpFlag tcp &&& TCP_URG = 0

/-- The MSS that an IP packet is adjusted to. -/
def mssFor (src : List UInt8) (mss : Nat) : Nat :=
  max (if ipVersion src = 6 ∧ 20 ≤ mss then mss - 20 else mss) 64

/-- The segment with another MSS in its first option, and with a new checksum. -/
def writeMss (src tcp : List UInt8) (mss : Nat) : List UInt8 :=
  let tcp := copyAt tcp 22 (bigEndian 2 mss)
  let tcp := copyAt tcp 16 (littleUshort 0)
  copyAt tcp 16 (littleUshort (tcpChecksum src tcp))

/-- The part of `AdjustTcpMssL3` behind the IP header: the segment when it is rewritten. -/
def adjustTcp (src tcp : List UInt8) (mss : Nat) : Option (List UInt8) :=
  if tcp.length < sizeofTcpHeader then none
  else if tcpHeaderSize tcp < sizeofTcpHeader then none
  else if tcp.length < tcpHeaderSize tcp then none
  else if isPlainSyn tcp then
    -- the MSS option is looked for at the start of the options alone
    if 4 ≤ tcpHeaderSize tcp - sizeofTcpHeader ∧ tcp.getD 20 0 = 0x02 ∧ tcp.getD 21 0 = 0x04 then
      if ushortAt tcp 22 ≤ mssFor src mss then none else some (writeMss src tcp (mssFor src mss))
    else none
  else none

/-- `AdjustTcpMssL3`: what is at `src` afterwards, and the result. -/
def adjustTcpMssL3 (src : List UInt8) (mss : Nat) : List UInt8 × Bool :=
  if src = [] ∨ mss = 0 then (src, false)
  else
    match findTcp src with
    | none => (src, false)
    | some place =>
        match adjustTcp src ((src.drop place.offset).take place.size) mss with
        | none => (src, false)
        | some tcp => (src.take place.offset ++ tcp ++ src.drop (place.offset + place.size), true)

/-- `AdjustTcpMssL3` of what lies behind an offset. -/
def adjustBehind (offset : Nat) (src : List UInt8) (mss : Nat) : List UInt8 × Bool :=
  let behind := adjustTcpMssL3 (src.drop offset) mss
  (src.take offset ++ behind.1, behind.2)

/-- The protocol of an Ethernet frame is IPv4 or IPv6. -/
def isIpProtocol (proto : Nat) : Bool :=
  proto = MAC_PROTO_IPV4 ∨ proto = MAC_PROTO_IPV6

/-- The TPID of VLAN tags: `tag_vlan_tpid`, or the usual one. -/
def vlanTpid (tagVlanTpid : Nat) : Nat :=
  if tagVlanTpid = 0 then MAC_PROTO_TAGVLAN else tagVlanTpid

def adjustTcpMssL2 (src : List UInt8) (mss tagVlanTpid : Nat) : List UInt8 × Bool :=
  if src = [] ∨ mss = 0 then (src, false)
  else if src.length < sizeofMacHeader then (src, false)
  else if isIpProtocol (ushortAt src 12) then adjustBehind sizeofMacHeader src mss
  else if ushortAt src 12 = vlanTpid tagVlanTpid then
    if src.length - sizeofMacHeader < 4 then (src, false)
    else if isIpProtocol (ushortAt src 16) ∧ 5 ≤ mss then
      adjustBehind (sizeofMacHeader + 4) src (mss - 4)
    else (src, false)
  else (src, false)

/-! ## TCP segments in frames -/

structure IsIPv4Headers (tcpSize : Nat) (ip : List UInt8) : Prop where
  version : ipVersion ip = 4
  header : headerSize ip = ip.length
  large : sizeofIPv4Header ≤ ip.length
  protocol : ip.getD 9 0 = IP_PROTO_TCP
  /-- It is no later fragment. -/
  offset : getOffset ip = 0
  /-- No more fragments follow. -/
  flags : getFlags ip &&& 0x01 = 0
  /-- `TotalLength` counts the header and the segment. -/
  totalLength : ushortAt ip 2 = ip.length + tcpSize

structure TcpFrame where
  /-- What lies before the IP header. -/
  link : List UInt8
  ip : List UInt8
  tcp : List UInt8
  /-- What follows the packet. -/
  rest : List UInt8

namespace TcpFrame

variable (f : TcpFrame)

def packet : List UInt8 :=
  f.ip ++ (f.tcp ++ f.rest)

def bytes : List UInt8 :=
  f.link ++ f.packet

/-- The frame with another segment. -/
def setTcp (tcp : List UInt8) : TcpFrame :=
  { f with tcp := tcp }

/-- The headers before the segment are those of a TCP segment in an IP packet that is not
fragmented.  The size of an IPv6 packet is not asked for: its segment reaches to the end. -/
def IsTcp : Prop :=
  IsIPv4Headers f.tcp.length f.ip ∨ (IsIPv6Headers IP_PROTO_TCP f.ip ∧ f.rest = [])

end TcpFrame

/-- A TCP segment with a whole header and the flag `TCP_SYN`. -/
structure IsSyn (tcp : List UInt8) : Prop where
  header : sizeofTcpHeader ≤ tcpHeaderSize tcp
  whole : tcpHeaderSize tcp ≤ tcp.length
  syn : tcpFlag tcp &&& TCP_SYN ≠ 0

def tcpOptions (tcp : List UInt8) : List UInt8 :=
  (tcp.take (tcpHeaderSize tcp)).drop sizeofTcpHeader

inductive TcpOption where
  /-- The option of a single byte. -/
  | nop
  /-- The maximum segment size. -/
  | mss (value : UInt16)
  /-- Another option with a size. -/
  | other (kind : UInt8) (data : List UInt8) (isOther : kind ∉ [0, 1, 2])
      (fits : data.length + 2 < 256)

def TcpOption.bytes : TcpOption → List UInt8
  | nop => [1]
  | mss value => 2 :: 4 :: bigEndian 2 value.toNat
  | other kind data _ _ => kind :: UInt8.ofNat (data.length + 2) :: data

/-- Behind whole options stands an MSS option, whose value has a place in the segment. -/
def MssOptionAt (tcp : List UInt8) (place : Nat) : Prop :=
  ∃ (before : List TcpOption) (value : UInt16) (behind : List UInt8),
    tcpOptions tcp = before.flatMap TcpOption.bytes ++ ((TcpOption.mss value).bytes ++ behind) ∧
      place = 22 + (before.flatMap TcpOption.bytes).length

/-- The options of a segment are whole, up to its end or to an end mark. -/
def OptionsWhole (tcp : List UInt8) : Prop :=
  ∃ (options : List TcpOption) (ending : List UInt8),
    tcpOptions tcp = options.flatMap TcpOption.bytes ++ ending ∧
      (ending = [] ∨ ending.head? = some 0)

def declaredTcpSize (ip : List UInt8) : Nat :=
  if ipVersion ip = 4 then ushortAt ip 2 - ip.length
  else ushortAt ip 4 + sizeofIPv6Header - ip.length

/-- The segment is whole, and its checksum is right. -/
def ChecksumOk (ip tcp : List UInt8) : Prop :=
  declaredTcpSize ip ≤ tcp.length ∧
    (bytesAt tcp 16 2).val =
      littleUshort (tcpChecksum ip ((copyAt tcp 16 (littleUshort 0)).take (declaredTcpSize ip)))

/-- A segment with a lower MSS at a place: nothing else differs but the checksum. -/
structure LoweredTo (clamp place : Nat) (tcp after : List UInt8) : Prop where
  /-- The size stays. -/
  length : after.length = tcp.length
  /-- The bytes of the headers and the data stay. -/
  others : ∀ i, i ≠ place → i ≠ place + 1 → i ≠ 16 → i ≠ 17 → after[i]? = tcp[i]?
  /-- The new MSS is the one that the segment is adjusted to. -/
  value : ushortAt after place = clamp
  /-- The old MSS was greater. -/
  lower : clamp < ushortAt tcp place

section Segment

variable {ip tcp : List UInt8} {clamp : Nat}

theorem writeMss_eq
    (large : 24 ≤ tcp.length)
    (ip : List UInt8)
    (clamp : Nat) :
    writeMss ip tcp clamp =
      copyAt (copyAt tcp 22 (bigEndian 2 clamp)) 16
        (littleUshort (tcpChecksum ip
          (copyAt (copyAt tcp 22 (bigEndian 2 clamp)) 16 (littleUshort 0)))) := by
  have length : (copyAt tcp 22 (bigEndian 2 clamp)).length = tcp.length :=
    length_copyAt (by rw [length_bigEndian]; omega)
  exact copyAt_copyAt (by rw [length, length_littleUshort]; omega) rfl

theorem loweredTo_writeMss
    (large : 24 ≤ tcp.length)
    (lower : clamp < ushortAt tcp 22) :
    LoweredTo clamp 22 tcp (writeMss ip tcp clamp) := by
  have written : 22 + (bigEndian 2 clamp).length ≤ tcp.length := by
    rw [length_bigEndian]
    omega
  have length := length_copyAt written
  have field : ∀ checksum, 16 + (littleUshort checksum).length ≤
      (copyAt tcp 22 (bigEndian 2 clamp)).length := by
    intro checksum
    rw [length, length_littleUshort]
    omega
  have value : ushortAt (copyAt tcp 22 (bigEndian 2 clamp)) 22 = clamp := by
    have small := ushortAt_lt tcp 22
    have bytes := bytesAt_copyAt written
    rw [length_bigEndian] at bytes
    rw [ushortAt, bytes]
    exact fromBigEndian_bigEndian (by omega)
  rw [writeMss_eq large]
  refine ⟨(length_copyAt (field _)).trans length, ?_, ?_, lower⟩
  · intro i notHigh notLow notFirst notSecond
    rw [getElem?_copyAt_outside (field _) (by rw [length_littleUshort]; omega),
      getElem?_copyAt_outside written (by rw [length_bigEndian]; omega)]
  · rw [ushortAt, bytesAt_copyAt_outside (field _) (by rw [length_littleUshort]; omega)]
    exact value

theorem checksumOk_writeMss
    (large : 24 ≤ tcp.length)
    (counted : declaredTcpSize ip = tcp.length)
    (clamp : Nat) :
    ChecksumOk ip (writeMss ip tcp clamp) := by
  have length : (copyAt tcp 22 (bigEndian 2 clamp)).length = tcp.length :=
    length_copyAt (by rw [length_bigEndian]; omega)
  have field : ∀ checksum, 16 + (littleUshort checksum).length ≤
      (copyAt tcp 22 (bigEndian 2 clamp)).length := by
    intro checksum
    rw [length, length_littleUshort]
    omega
  have cleared : ∀ checksum,
      copyAt (copyAt (copyAt tcp 22 (bigEndian 2 clamp)) 16 (littleUshort checksum)) 16
        (littleUshort 0) = copyAt (copyAt tcp 22 (bigEndian 2 clamp)) 16 (littleUshort 0) :=
    fun checksum => copyAt_copyAt (field checksum) rfl
  have written : ∀ checksum,
      (bytesAt (copyAt (copyAt tcp 22 (bigEndian 2 clamp)) 16 (littleUshort checksum)) 16
        2).val = littleUshort checksum :=
    fun checksum => bytesAt_copyAt (field checksum)
  rw [writeMss_eq large]
  refine ⟨?_, ?_⟩
  · rw [length_copyAt (field _), length, counted]
  · rw [written, cleared, List.take_of_length_le]
    rw [length_copyAt (field _), length, counted]

end Segment

section FirstOption

variable {tcp : List UInt8}

theorem length_tcpOptions
    (syn : IsSyn tcp) :
    (tcpOptions tcp).length = tcpHeaderSize tcp - sizeofTcpHeader := by
  rw [tcpOptions, List.length_drop, List.length_take, Nat.min_eq_left syn.whole]

theorem getD_tcpOptions
    (place : Nat)
    (inside : sizeofTcpHeader + place < tcpHeaderSize tcp) :
    (tcpOptions tcp).getD place 0 = tcp.getD (sizeofTcpHeader + place) 0 := by
  rw [tcpOptions, List.getD_eq_getElem?_getD, List.getElem?_drop,
    List.getElem?_take_of_lt inside, List.getD_eq_getElem?_getD]

theorem exists_mssOption
    {options : List UInt8}
    (long : 4 ≤ options.length)
    (kind : options.getD 0 0 = 0x02)
    (length : options.getD 1 0 = 0x04) :
    ∃ (value : UInt16) (behind : List UInt8),
      options = (TcpOption.mss value).bytes ++ behind := by
  have value : bigEndian 2 (UInt16.ofNat (ushortAt options 2)).toNat =
      (options.drop 2).take 2 := by
    have small : (UInt16.ofNat (ushortAt options 2)).toNat = ushortAt options 2 :=
      (UInt16.toNat_ofNat').trans (Nat.mod_eq_of_lt (ushortAt_lt options 2))
    rw [small, bigEndian_ushortAt, bytesAt_eq_take (by omega)]
  have first : (bytesAt options 0 2).val = options.take 2 := bytesAt_eq_take (by omega)
  have two : (bytesAt options 0 2).val = [options.getD 0 0, options.getD 1 0] := rfl
  refine ⟨UInt16.ofNat (ushortAt options 2), options.drop 4, ?_⟩
  rw [kind, length, first] at two
  calc options
    _ = options.take 2 ++ ((options.drop 2).take 2 ++ options.drop 4) := by
        rw [← List.append_assoc, ← List.take_add, List.take_append_drop]
    _ = (TcpOption.mss (UInt16.ofNat (ushortAt options 2))).bytes ++ options.drop 4 := by
        rw [TcpOption.bytes, two, value]
        rfl

theorem mssOptionAt_first_iff
    (syn : IsSyn tcp) :
    MssOptionAt tcp 22 ↔
      4 ≤ tcpHeaderSize tcp - sizeofTcpHeader ∧ tcp.getD 20 0 = 0x02 ∧ tcp.getD 21 0 = 0x04 := by
  have size := length_tcpOptions syn
  constructor
  · rintro ⟨before, value, behind, options, place⟩
    have none : before.flatMap TcpOption.bytes = [] := List.length_eq_zero_iff.mp (by omega)
    rw [none, List.nil_append] at options
    have long : 4 ≤ (tcpOptions tcp).length := by
      rw [options, List.length_append, TcpOption.bytes, List.length_cons, List.length_cons,
        length_bigEndian]
      omega
    have kind := getD_tcpOptions 0 (by omega : sizeofTcpHeader + 0 < tcpHeaderSize tcp)
    have length := getD_tcpOptions 1 (by omega : sizeofTcpHeader + 1 < tcpHeaderSize tcp)
    rw [options] at kind length
    exact ⟨by omega, kind.symm, length.symm⟩
  · rintro ⟨long, kind, length⟩
    have first := getD_tcpOptions 0 (by omega : sizeofTcpHeader + 0 < tcpHeaderSize tcp)
    have second := getD_tcpOptions 1 (by omega : sizeofTcpHeader + 1 < tcpHeaderSize tcp)
    obtain ⟨value, behind, options⟩ :=
      exists_mssOption (by omega) (first.trans kind) (second.trans length)
    exact ⟨[], value, behind, options, rfl⟩

theorem adjustTcp_eq_some_iff
    (src tcp after : List UInt8)
    (mss : Nat) :
    adjustTcp src tcp mss = some after ↔
      IsSyn tcp ∧ isPlainSyn tcp = true ∧ MssOptionAt tcp 22 ∧ mssFor src mss < ushortAt tcp 22 ∧
        after = writeMss src tcp (mssFor src mss) := by
  unfold adjustTcp
  split
  case isTrue short =>
    refine iff_of_false (by simp) fun all => ?_
    have header := all.1.header
    have whole := all.1.whole
    omega
  case isFalse =>
    split
    case isTrue small => exact iff_of_false (by simp) fun all => absurd all.1.header (by omega)
    case isFalse header =>
      split
      case isTrue short => exact iff_of_false (by simp) fun all => absurd all.1.whole (by omega)
      case isFalse whole =>
        split
        case isFalse other => exact iff_of_false (by simp) fun all => other all.2.1
        case isTrue plain =>
          have syn : IsSyn tcp :=
            ⟨Nat.le_of_not_lt header, Nat.le_of_not_lt whole, (of_decide_eq_true plain).1⟩
          rw [mssOptionAt_first_iff syn]
          split
          case isFalse noOption => exact iff_of_false (by simp) fun all => noOption all.2.2.1
          case isTrue option =>
            split
            case isTrue low =>
              exact iff_of_false (by simp) fun all => absurd all.2.2.2.1 (Nat.not_lt.mpr low)
            case isFalse high =>
              rw [Option.some_inj]
              refine ⟨fun same => ⟨syn, plain, option, Nat.lt_of_not_le high, same.symm⟩, ?_⟩
              exact fun all => all.2.2.2.2.symm

end FirstOption

section Headers

variable {first second : List UInt8} {size : Nat}

theorem ipVersion_sameStart
    (same : first.take size = second.take size)
    (inside : 1 ≤ size) :
    ipVersion first = ipVersion second := by
  rw [ipVersion, ipVersion, getD_sameStart same inside]

theorem mssFor_sameStart
    (same : first.take size = second.take size)
    (inside : 1 ≤ size)
    (mss : Nat) :
    mssFor first mss = mssFor second mss := by
  rw [mssFor, mssFor, ipVersion_sameStart same inside]

theorem tcpChecksum_sameStart
    (same : first.take size = second.take size)
    (large : 20 ≤ size)
    (larger : ipVersion first = 4 ∨ 40 ≤ size)
    (tcp : List UInt8) :
    tcpChecksum first tcp = tcpChecksum second tcp := by
  have version := ipVersion_sameStart same (by omega)
  unfold tcpChecksum
  rw [← version]
  split
  case isTrue => rw [srcIP_sameStart same large, dstIP_sameStart same large]
  case isFalse other =>
    have addresses : 40 ≤ size := larger.resolve_left other
    rw [bytesAt_sameStart same (by omega), bytesAt_sameStart same (by omega)]

theorem ipVersion_of_isIPv6Headers
    {protocol : UInt8}
    {ip : List UInt8}
    (headers : IsIPv6Headers protocol ip) :
    ipVersion ip = 6 ∧ 40 ≤ ip.length := by
  obtain ⟨header, chain, version, _, _, rfl⟩ := headers
  refine ⟨version, ?_⟩
  rw [List.length_append, length_bytes_header, sizeofIPv6Header]
  omega

end Headers

namespace TcpFrame

variable {f : TcpFrame}

theorem ip_sameStart (f : TcpFrame) :
    f.ip.take f.ip.length = f.packet.take f.ip.length := by
  rw [packet, List.take_length, List.take_left]

theorem IsTcp.large
    (isTcp : f.IsTcp) :
    20 ≤ f.ip.length ∧ (ipVersion f.ip = 4 ∨ 40 ≤ f.ip.length) := by
  rcases isTcp with ipv4 | ⟨ipv6, _⟩
  · exact ⟨ipv4.large, .inl ipv4.version⟩
  · obtain ⟨_, large⟩ := ipVersion_of_isIPv6Headers ipv6
    exact ⟨by omega, .inr large⟩

theorem IsTcp.mssFor_packet
    (isTcp : f.IsTcp)
    (mss : Nat) :
    mssFor f.packet mss = mssFor f.ip mss := by
  obtain ⟨large, _⟩ := isTcp.large
  exact (mssFor_sameStart f.ip_sameStart (by omega) mss).symm

theorem IsTcp.writeMss_packet
    (isTcp : f.IsTcp)
    (tcp : List UInt8)
    (mss : Nat) :
    writeMss f.packet tcp mss = writeMss f.ip tcp mss := by
  obtain ⟨large, larger⟩ := isTcp.large
  unfold writeMss
  dsimp only
  rw [tcpChecksum_sameStart f.ip_sameStart large larger]

end TcpFrame

/-! ## Where the segment lies -/

theorem findTcpInIPv4_eq_some_iff (src : List UInt8) (place : TcpPlace) :
    findTcpInIPv4 src = some place ↔
      src.getD 9 0 = IP_PROTO_TCP ∧ getOffset src = 0 ∧ getFlags src &&& 0x01 = 0 ∧
        sizeofIPv4Header ≤ headerSize src ∧
          headerSize src + sizeofTcpHeader ≤ ushortAt src 2 ∧ ushortAt src 2 ≤ src.length ∧
            place = ⟨headerSize src, ushortAt src 2 - headerSize src⟩ := by
  unfold findTcpInIPv4 sizeofTcpHeader
  simp only [Option.ite_none_left_eq_some, Option.some_inj]
  constructor
  · rintro ⟨_, tcp, offset, flags, header, _, _, total, long, rfl⟩
    exact ⟨not_not.mp tcp, not_not.mp offset, not_not.mp flags, by omega, by omega, by omega, rfl⟩
  · rintro ⟨tcp, offset, flags, header, long, total, rfl⟩
    exact ⟨by omega, not_not.mpr tcp, not_not.mpr offset, not_not.mpr flags, by omega, by omega,
      by omega, by omega, by omega, rfl⟩

variable {src : List UInt8} {place : TcpPlace} {f : TcpFrame}

theorem isIPv4Headers_of_findTcp
    (version : ipVersion src = 4)
    (found : findTcpInIPv4 src = some place) :
    ∃ f : TcpFrame, f.link = [] ∧ f.packet = src ∧ f.IsTcp ∧
      place = ⟨f.ip.length, f.tcp.length⟩ := by
  obtain ⟨tcp, offset, flags, header, long, total, rfl⟩ :=
    (findTcpInIPv4_eq_some_iff src place).mp found
  unfold sizeofIPv4Header at header
  unfold sizeofTcpHeader at long
  have ipLength : (src.take (headerSize src)).length = headerSize src := by
    rw [List.length_take, Nat.min_eq_left (by omega)]
  have tcpLength : ((src.drop (headerSize src)).take (ushortAt src 2 - headerSize src)).length =
      ushortAt src 2 - headerSize src := by
    rw [List.length_take, List.length_drop]
    omega
  have same : src.take (headerSize src) = (src.take (headerSize src)).take (headerSize src) := by
    rw [List.take_take, Nat.min_self]
  refine ⟨⟨[], src.take (headerSize src),
    (src.drop (headerSize src)).take (ushortAt src 2 - headerSize src),
    (src.drop (headerSize src)).drop (ushortAt src 2 - headerSize src)⟩, rfl, ?_, .inl ?_, ?_⟩
  · rw [TcpFrame.packet, List.take_append_drop, List.take_append_drop]
  · refine ⟨?_, ?_, ?_, ?_, ?_, ?_, ?_⟩
    · exact (ipVersion_sameStart same (by omega)).symm.trans version
    · exact (headerSize_sameStart same (by omega)).symm.trans ipLength.symm
    · rw [ipLength]
      exact header
    · exact (getD_sameStart same (by omega)).symm.trans tcp
    · exact (getOffset_sameStart same (by omega)).symm.trans offset
    · rw [getFlags, ← getD_sameStart same (by omega)]
      exact flags
    · rw [← ushortAt_sameStart same (by omega), ipLength, tcpLength]
      omega
  · rw [ipLength, tcpLength]

theorem findTcpInIPv4_packet
    (headers : IsIPv4Headers f.tcp.length f.ip)
    (long : sizeofTcpHeader ≤ f.tcp.length) :
    findTcpInIPv4 f.packet = some ⟨f.ip.length, f.tcp.length⟩ := by
  have same := f.ip_sameStart
  have large := headers.large
  unfold sizeofIPv4Header at large
  have size : headerSize f.packet = f.ip.length :=
    (headerSize_sameStart same (by omega)).symm.trans headers.header
  have total : ushortAt f.packet 2 = f.ip.length + f.tcp.length :=
    (ushortAt_sameStart same (by omega)).symm.trans headers.totalLength
  rw [findTcpInIPv4_eq_some_iff, size, total]
  refine ⟨?_, ?_, ?_, headers.large, by omega, ?_, ?_⟩
  · exact (getD_sameStart same (by omega)).symm.trans headers.protocol
  · exact (getOffset_sameStart same (by omega)).symm.trans headers.offset
  · rw [getFlags, ← getD_sameStart same (by omega)]
    exact headers.flags
  · rw [TcpFrame.packet, List.length_append, List.length_append]
    omega
  · rw [Nat.add_sub_cancel_left]

theorem isIPv6Headers_of_findTcp
    (found : findTcpInIPv6 src = some place)
    (more : 0 < place.size) :
    ∃ f : TcpFrame, f.link = [] ∧ f.packet = src ∧ f.IsTcp ∧
      place = ⟨f.ip.length, f.tcp.length⟩ := by
  unfold findTcpInIPv6 at found
  split at found
  case h_1 => exact nomatch found
  case h_2 v6 parsed =>
    split at found
    case isTrue => exact nomatch found
    case isFalse tcp =>
      split at found
      case isFalse => exact nomatch found
      case isTrue whole =>
        obtain ⟨payload, isPayload, rfl⟩ := Option.map_eq_some_iff.mp found
        have notEmpty : payload ≠ [] := List.ne_nil_of_length_pos more
        obtain ⟨ip, rfl, headers⟩ := isIPv6Headers_of_parse parsed isPayload notEmpty whole
        rw [not_not.mp tcp] at headers
        refine ⟨⟨[], ip, payload, []⟩, rfl, ?_, .inr ⟨headers, rfl⟩, ?_⟩
        · rw [TcpFrame.packet, List.append_nil]
        · rw [List.length_append, Nat.add_sub_cancel]

theorem findTcpInIPv6_packet
    (headers : IsIPv6Headers IP_PROTO_TCP f.ip)
    (nothing : f.rest = [])
    (more : f.tcp ≠ []) :
    findTcpInIPv6 f.packet = some ⟨f.ip.length, f.tcp.length⟩ := by
  obtain ⟨v6, parsed, isPayload, protocol, whole⟩ :=
    parsePacketIPv6Header_headers (by decide) (by decide) headers more
  have packet : f.packet = f.ip ++ f.tcp := by rw [TcpFrame.packet, nothing, List.append_nil]
  unfold findTcpInIPv6
  rw [packet, parsed]
  dsimp only
  rw [if_neg (not_not.mpr protocol), if_pos whole, isPayload, Option.map_some,
    List.length_append, Nat.add_sub_cancel]

theorem findTcp_packet
    (isTcp : f.IsTcp)
    (long : sizeofTcpHeader ≤ f.tcp.length) :
    findTcp f.packet = some ⟨f.ip.length, f.tcp.length⟩ := by
  obtain ⟨large, _⟩ := isTcp.large
  have version := ipVersion_sameStart f.ip_sameStart (by omega)
  unfold findTcp
  rw [← version]
  rcases isTcp with ipv4 | ⟨ipv6, nothing⟩
  · rw [if_pos ipv4.version]
    exact findTcpInIPv4_packet ipv4 long
  · obtain ⟨six, _⟩ := ipVersion_of_isIPv6Headers ipv6
    rw [six, if_neg (by decide), if_pos rfl]
    exact findTcpInIPv6_packet ipv6 nothing (List.ne_nil_of_length_pos (Nat.lt_of_lt_of_le
      (by decide) long))

theorem exists_of_findTcp
    (found : findTcp src = some place)
    (more : 0 < place.size) :
    ∃ f : TcpFrame, f.link = [] ∧ f.packet = src ∧ f.IsTcp ∧
      place = ⟨f.ip.length, f.tcp.length⟩ := by
  unfold findTcp at found
  split at found
  case isTrue version => exact isIPv4Headers_of_findTcp version found
  case isFalse =>
    split at found
    case isTrue => exact isIPv6Headers_of_findTcp found more
    case isFalse => exact nomatch found

theorem adjustTcpMssL3_packet
    (isTcp : f.IsTcp)
    (syn : IsSyn f.tcp)
    (plain : isPlainSyn f.tcp = true)
    (first : MssOptionAt f.tcp 22)
    {mss : Nat}
    (positive : mss ≠ 0)
    (high : mssFor f.ip mss < ushortAt f.tcp 22) :
    adjustTcpMssL3 f.packet mss =
      ((f.setTcp (writeMss f.ip f.tcp (mssFor f.ip mss))).packet, true) := by
  have long : sizeofTcpHeader ≤ f.tcp.length := syn.header.trans syn.whole
  obtain ⟨large, _⟩ := isTcp.large
  have notEmpty : ¬(f.packet = [] ∨ mss = 0) := by
    rintro (empty | zero)
    · have none := congrArg List.length empty
      rw [TcpFrame.packet, List.length_append, List.length_nil] at none
      omega
    · exact positive zero
  have ip : f.packet.take f.ip.length = f.ip := by
    rw [TcpFrame.packet, List.take_left]
  have behind : f.packet.drop f.ip.length = f.tcp ++ f.rest := by
    rw [TcpFrame.packet, List.drop_left]
  have rest : f.packet.drop (f.ip.length + f.tcp.length) = f.rest := by
    rw [← List.drop_drop, behind, List.drop_left]
  have rewritten := (adjustTcp_eq_some_iff f.packet f.tcp
    (writeMss f.packet f.tcp (mssFor f.packet mss)) mss).mpr
      ⟨syn, plain, first, by rw [isTcp.mssFor_packet]; exact high, rfl⟩
  unfold adjustTcpMssL3
  rw [if_neg notEmpty, findTcp_packet isTcp long]
  dsimp only
  rw [behind, List.take_left, rewritten]
  dsimp only
  rw [ip, rest, isTcp.mssFor_packet, isTcp.writeMss_packet, List.append_assoc]
  rfl

theorem adjustTcpMssL3_cases (src : List UInt8) (mss : Nat) :
    (adjustTcpMssL3 src mss).1 = src ∨
      ∃ f : TcpFrame, f.link = [] ∧ f.packet = src ∧ f.IsTcp ∧ IsSyn f.tcp ∧
        isPlainSyn f.tcp = true ∧ MssOptionAt f.tcp 22 ∧ mss ≠ 0 ∧
          mssFor f.ip mss < ushortAt f.tcp 22 := by
  unfold adjustTcpMssL3
  split
  case isTrue => exact .inl rfl
  case isFalse some =>
    split
    case h_1 => exact .inl rfl
    case h_2 place found =>
      split
      case h_1 => exact .inl rfl
      case h_2 tcp rewritten =>
        obtain ⟨syn, plain, first, high, _⟩ := (adjustTcp_eq_some_iff _ _ _ _).mp rewritten
        have long : sizeofTcpHeader ≤ ((src.drop place.offset).take place.size).length :=
          syn.header.trans syn.whole
        have more : 0 < place.size := by
          rw [List.length_take, sizeofTcpHeader] at long
          omega
        obtain ⟨f, link, rfl, isTcp, rfl⟩ := exists_of_findTcp found more
        have segment : (f.packet.drop f.ip.length).take f.tcp.length = f.tcp := by
          rw [TcpFrame.packet, List.drop_left, List.take_left]
        dsimp only at syn plain first high
        rw [segment] at syn plain first high
        rw [isTcp.mssFor_packet] at high
        exact .inr ⟨f, link, rfl, isTcp, syn, plain, first, fun zero => some (.inr zero), high⟩

end TcpIp
end SoftEther
