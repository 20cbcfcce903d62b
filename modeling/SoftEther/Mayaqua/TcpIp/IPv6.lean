import SoftEther.Mayaqua.Fields
import SoftEther.Mayaqua.Network

/-!
# IPv6 headers

The builder and the parser of an IPv6 header with its extension headers.  A header to which an
`IPV6_HEADER_PACKET_INFO` points is the value that lies there, and an option header the block
of its bytes, whose length is the size that is kept beside the pointer.
-/

namespace SoftEther
namespace TcpIp

open Network

def IPV6_HEADER_HOP : UInt8 := 0

def IPV6_HEADER_ENDPOINT : UInt8 := 60

def IPV6_HEADER_ROUTING : UInt8 := 43

def IPV6_HEADER_FRAGMENT : UInt8 := 44

def IPV6_HEADER_NONE : UInt8 := 59

/-- `sizeof(IPV6_HEADER)`. -/
def sizeofIPv6Header : Nat := 40

/-- `sizeof(IPV6_FRAGMENT_HEADER)`. -/
def sizeofIPv6FragmentHeader : Nat := 8

structure IPv6Header where
  versionAndTrafficClass1 : UInt8
  trafficClass2AndFlowLabel1 : UInt8
  flowLabel2 : UInt8
  flowLabel3 : UInt8
  /-- `PayloadLength` in the order of the host. -/
  payloadLength : UInt16 := 0
  nextHeader : UInt8 := 0
  hopLimit : UInt8
  srcAddress : Ipv6Addr
  destAddress : Ipv6Addr
  deriving DecidableEq

structure IPv6FragmentHeader where
  nextHeader : UInt8 := 0
  reserved : UInt8 := 0
  flagmentOffset1 : UInt8
  flagmentOffset2AndFlags : UInt8
  /-- `Identification`, as it lies in memory. -/
  identification : ByteArrayOf 4
  deriving DecidableEq

/-- `IPV6_GET_VERSION`. -/
def IPv6Header.getVersion (h : IPv6Header) : Nat :=
  h.versionAndTrafficClass1.toNat >>> 4 &&& 0x0f

/-- `IPV6_GET_FRAGMENT_OFFSET`. -/
def IPv6FragmentHeader.getFragmentOffset (h : IPv6FragmentHeader) : Nat :=
  (h.flagmentOffset1.toNat <<< 5 &&& 0x1fe0) |||
    (h.flagmentOffset2AndFlags.toNat >>> 3 &&& 0x1f)

def IPv6Header.bytes (h : IPv6Header) : List UInt8 :=
  [h.versionAndTrafficClass1, h.trafficClass2AndFlowLabel1, h.flowLabel2, h.flowLabel3] ++
    bigEndian 2 h.payloadLength.toNat ++ [h.nextHeader, h.hopLimit] ++ h.srcAddress.val ++
      h.destAddress.val

/-- The IPv6 header at the start of a block. -/
def IPv6Header.ofBytes (buf : List UInt8) : IPv6Header where
  versionAndTrafficClass1 := buf.getD 0 0
  trafficClass2AndFlowLabel1 := buf.getD 1 0
  flowLabel2 := buf.getD 2 0
  flowLabel3 := buf.getD 3 0
  payloadLength := UInt16.ofNat (ushortAt buf 4)
  nextHeader := buf.getD 6 0
  hopLimit := buf.getD 7 0
  srcAddress := bytesAt buf 8 16
  destAddress := bytesAt buf 24 16

def IPv6FragmentHeader.bytes (h : IPv6FragmentHeader) : List UInt8 :=
  [h.nextHeader, h.reserved, h.flagmentOffset1, h.flagmentOffset2AndFlags] ++ h.identification.val

/-- The fragment header at the start of a block. -/
def IPv6FragmentHeader.ofBytes (buf : List UInt8) : IPv6FragmentHeader where
  nextHeader := buf.getD 0 0
  reserved := buf.getD 1 0
  flagmentOffset1 := buf.getD 2 0
  flagmentOffset2AndFlags := buf.getD 3 0
  identification := bytesAt buf 4 4

structure IPv6HeaderPacketInfo where
  ipv6Header : Option IPv6Header := none
  /-- `HopHeader`, of `HopHeaderSize` bytes. -/
  hopHeader : Option (List UInt8) := none
  /-- `EndPointHeader`, of `EndPointHeaderSize` bytes. -/
  endPointHeader : Option (List UInt8) := none
  /-- `RoutingHeader`, of `RoutingHeaderSize` bytes. -/
  routingHeader : Option (List UInt8) := none
  fragmentHeader : Option IPv6FragmentHeader := none
  /-- `Payload`, of `PayloadSize` bytes. -/
  payload : Option (List UInt8) := none
  protocol : UInt8 := 0
  isFragment : Bool := false
  totalHeaderSize : Nat := 0
  deriving DecidableEq

namespace IPv6HeaderPacketInfo

variable (info : IPv6HeaderPacketInfo)

/-- A header number of a header of variable length. -/
def isOptionNumber (nextHeader : UInt8) : Bool :=
  nextHeader = IPV6_HEADER_HOP ∨ nextHeader = IPV6_HEADER_ENDPOINT ∨
    nextHeader = IPV6_HEADER_ROUTING

/-- The inner switch of `ParseIPv6ExtHeader`: the option header is recorded. -/
def setOption (nextHeader : UInt8) (header : List UInt8) : IPv6HeaderPacketInfo :=
  if nextHeader = IPV6_HEADER_HOP then { info with hopHeader := some header }
  else if nextHeader = IPV6_HEADER_ENDPOINT then { info with endPointHeader := some header }
  else { info with routingHeader := some header }

def setFragment (header : IPv6FragmentHeader) : IPv6HeaderPacketInfo :=
  { info with
    fragmentHeader := some header
    isFragment := if header.getFragmentOffset ≠ 0 then true else info.isFragment }

/-- What follows the extension headers is recorded. -/
def setPayload (nextHeader : UInt8) (buf : List UInt8) : IPv6HeaderPacketInfo :=
  { info with
    payload := if nextHeader ≠ IPV6_HEADER_NONE then some buf else none
    protocol := nextHeader }

/-- The loop of `ParseIPv6ExtHeader`, with the number of its rounds. -/
def parseExtHeaders
    (fuel : Nat)
    (info : IPv6HeaderPacketInfo)
    (nextHeader nextHeader2 : UInt8)
    (buf : List UInt8) :
    Option IPv6HeaderPacketInfo :=
  match fuel with
  | 0 => none
  | fuel + 1 =>
      let nextHeader2 := if 8 < buf.length then buf.getD 0 0 else nextHeader2
      if isOptionNumber nextHeader then
        let optionHeaderSize := ((buf.getD 1 0).toNat + 1) * 8
        if buf.length < 8 then none
        else if buf.length < optionHeaderSize then none
        else
          parseExtHeaders fuel (info.setOption nextHeader (buf.take optionHeaderSize))
            nextHeader2 nextHeader2 (buf.drop optionHeaderSize)
      else if nextHeader = IPV6_HEADER_FRAGMENT then
        if buf.length < sizeofIPv6FragmentHeader then none
        else
          parseExtHeaders fuel (info.setFragment (.ofBytes buf)) nextHeader2 nextHeader2
            (buf.drop sizeofIPv6FragmentHeader)
      else some (info.setPayload nextHeader buf)

/-- `ParseIPv6ExtHeader`.  Every round but the last one takes eight bytes or more. -/
def parseIPv6ExtHeader (nextHeader : UInt8) (buf : List UInt8) : Option IPv6HeaderPacketInfo :=
  parseExtHeaders (buf.length + 1) { info with isFragment := false } nextHeader
    IPV6_HEADER_NONE buf

/-- The end of `ParsePacketIPv6Header`: the size of the headers of a packet. -/
def recordHeaderSize (size : Nat) : IPv6HeaderPacketInfo :=
  { info with totalHeaderSize := info.payload.elim 0 fun payload => size - payload.length }

end IPv6HeaderPacketInfo

open IPv6HeaderPacketInfo

def parsePacketIPv6Header (buf : List UInt8) : Option IPv6HeaderPacketInfo :=
  if buf.length < sizeofIPv6Header then none
  else
    let header := IPv6Header.ofBytes buf
    if header.getVersion ≠ 6 then none
    else
      (parseIPv6ExtHeader { ipv6Header := some header } header.nextHeader
        (buf.drop sizeofIPv6Header)).map (recordHeaderSize · buf.length)

/-- The size of an option header in whole units of eight bytes. -/
def totalOptionSize (size : Nat) : Nat :=
  if size % 8 ≠ 0 then (size / 8 + 1) * 8 else size

/-- The header that `BuildAndAddIPv6PacketOptionHeader` writes. -/
def buildOptionHeader (opt : List UInt8) (nextHeader : UInt8) : List UInt8 :=
  let totalSize := totalOptionSize opt.length
  let h := copyAt (List.replicate totalSize 0) 0 opt
  let h := copyAt h 1 [UInt8.ofNat (totalSize / 8 - 1)]
  copyAt h 0 [nextHeader]

/-- The numbers that `BuildIPv6PacketHeader` puts into its queue. -/
def headerNumbers (info : IPv6HeaderPacketInfo) : List UInt8 :=
  (info.hopHeader.map fun _ => IPV6_HEADER_HOP).toList ++
    (info.endPointHeader.map fun _ => IPV6_HEADER_ENDPOINT).toList ++
      (info.routingHeader.map fun _ => IPV6_HEADER_ROUTING).toList ++
        (info.fragmentHeader.map fun _ => IPV6_HEADER_FRAGMENT).toList ++ [info.protocol]

/-- `IPv6GetNextHeaderFromQueue`: the number, and the rest of the queue. -/
def getNextHeaderFromQueue : List UInt8 → UInt8 × List UInt8
  | [] => (0, [])
  | number :: rest => (number, rest)

/-- An option header, when there is one: what is written, and the rest of the queue. -/
def addOptionHeader (header : Option (List UInt8)) (q : List UInt8) : List UInt8 × List UInt8 :=
  match header with
  | none => ([], q)
  | some opt => (buildOptionHeader opt (getNextHeaderFromQueue q).1, (getNextHeaderFromQueue q).2)

def addFragmentHeader (header : Option IPv6FragmentHeader) (q : List UInt8) : List UInt8 :=
  match header with
  | none => []
  | some fragment =>
      { fragment with nextHeader := (getNextHeaderFromQueue q).1 : IPv6FragmentHeader }.bytes

/-- What `BuildIPv6PacketHeader` writes behind the IPv6 header. -/
def buildAfterHeader (info : IPv6HeaderPacketInfo) (q : List UInt8) : List UInt8 :=
  let hop := addOptionHeader info.hopHeader q
  let endPoint := addOptionHeader info.endPointHeader hop.2
  let routing := addOptionHeader info.routingHeader endPoint.2
  let fragment := addFragmentHeader info.fragmentHeader routing.2
  hop.1 ++ endPoint.1 ++ routing.1 ++ fragment ++
    if info.protocol ≠ IPV6_HEADER_NONE then info.payload.getD [] else []

/-- `BuildIPv6PacketHeader` of a description with an IPv6 header. -/
def buildIPv6PacketHeader (header : IPv6Header) (info : IPv6HeaderPacketInfo) : List UInt8 :=
  let q := headerNumbers info
  let rest := buildAfterHeader info (getNextHeaderFromQueue q).2
  { header with
    nextHeader := (getNextHeaderFromQueue q).1
    payloadLength := UInt16.ofNat rest.length : IPv6Header }.bytes ++ rest

end TcpIp
end SoftEther
