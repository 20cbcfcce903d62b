import SoftEther.Mayaqua.TcpIp.IPv6Chains

/-!
# Round trip of IPv6 headers

What `BuildIPv6PacketHeader` writes is read back by `ParsePacketIPv6Header`.
-/

namespace SoftEther
namespace TcpIp

open Network IPv6HeaderPacketInfo

theorem length_bytes_header (h : IPv6Header) : h.bytes.length = sizeofIPv6Header := by
  simp [IPv6Header.bytes, length_bigEndian, h.srcAddress.property, h.destAddress.property,
    sizeofIPv6Header]

theorem ofBytes_header (h : IPv6Header) (rest : List UInt8) :
    IPv6Header.ofBytes (h.bytes ++ rest) = h := by
  have beforeLength : h.bytes ++ rest =
      [h.versionAndTrafficClass1, h.trafficClass2AndFlowLabel1, h.flowLabel2, h.flowLabel3] ++
        (bigEndian 2 h.payloadLength.toNat ++
          ([h.nextHeader, h.hopLimit] ++ (h.srcAddress.val ++ (h.destAddress.val ++ rest)))) := by
    simp only [IPv6Header.bytes, List.append_assoc]
  have beforeSource : h.bytes ++ rest =
      ([h.versionAndTrafficClass1, h.trafficClass2AndFlowLabel1, h.flowLabel2, h.flowLabel3] ++
        bigEndian 2 h.payloadLength.toNat ++ [h.nextHeader, h.hopLimit]) ++
          (h.srcAddress.val ++ (h.destAddress.val ++ rest)) := by
    simp only [IPv6Header.bytes, List.append_assoc]
  have beforeDestination : h.bytes ++ rest =
      ([h.versionAndTrafficClass1, h.trafficClass2AndFlowLabel1, h.flowLabel2, h.flowLabel3] ++
        bigEndian 2 h.payloadLength.toNat ++ [h.nextHeader, h.hopLimit] ++ h.srcAddress.val) ++
          (h.destAddress.val ++ rest) := by
    simp only [IPv6Header.bytes, List.append_assoc]
  have payloadLength : ushortAt (h.bytes ++ rest) 4 = h.payloadLength.toNat := by
    have field : bytesAt (h.bytes ++ rest) 4 2 =
        ⟨bigEndian 2 h.payloadLength.toNat, length_bigEndian 2 _⟩ :=
      bytesAt_eq _ beforeLength rfl
    rw [ushortAt, field]
    exact fromBigEndian_bigEndian h.payloadLength.toNat_lt
  have srcAddress : bytesAt (h.bytes ++ rest) 8 16 = h.srcAddress :=
    bytesAt_eq _ beforeSource rfl
  have destAddress : bytesAt (h.bytes ++ rest) 24 16 = h.destAddress :=
    bytesAt_eq _ beforeDestination (by simp [length_bigEndian, h.srcAddress.property])
  unfold IPv6Header.ofBytes
  rw [payloadLength, srcAddress, destAddress, UInt16.ofNat_toNat]
  rfl

theorem totalOptionSize_spec (size : Nat) :
    size ≤ totalOptionSize size ∧ totalOptionSize size % 8 = 0 ∧
      totalOptionSize size < size + 8 := by
  unfold totalOptionSize
  split
  case isTrue => omega
  case isFalse => omega

/-- An option header that can be written: it has its two first bytes, and its number of units
fits into one byte. -/
structure Buildable (opt : List UInt8) : Prop where
  head : 2 ≤ opt.length
  fits : opt.length ≤ 2048

/-- The bytes behind the first two, filled up with zeros. -/
def padded (opt : List UInt8) : List UInt8 :=
  opt.drop 2 ++ List.replicate (totalOptionSize opt.length - opt.length) 0

theorem length_padded
    {opt : List UInt8}
    (buildable : Buildable opt) :
    (padded opt).length + 2 = totalOptionSize opt.length := by
  have larger := (totalOptionSize_spec opt.length).1
  have head := buildable.head
  rw [padded, List.length_append, List.length_drop, List.length_replicate]
  omega

/-- What a parser finds behind the first two bytes. -/
def optionBody (opt : List UInt8) (buildable : Buildable opt) : OptionBody where
  bytes := padded opt
  whole := by
    rw [length_padded buildable]
    exact (totalOptionSize_spec opt.length).2.1
  fits := by
    have spec := totalOptionSize_spec opt.length
    have fits := buildable.fits
    rw [length_padded buildable]
    omega

theorem buildOptionHeader_eq
    {opt : List UInt8}
    (buildable : Buildable opt)
    {kind : UInt8}
    (isOption : isOptionNumber kind = true)
    (nextHeader : UInt8) :
    buildOptionHeader opt nextHeader =
      (ExtHeader.option kind isOption (optionBody opt buildable)).bytes nextHeader := by
  have larger := (totalOptionSize_spec opt.length).1
  have size := length_padded buildable
  unfold ExtHeader.bytes optionBody
  dsimp only
  rw [size]
  unfold buildOptionHeader padded
  dsimp only
  have filled : copyAt (List.replicate (totalOptionSize opt.length) 0) 0 opt =
      opt ++ List.replicate (totalOptionSize opt.length - opt.length) 0 := by
    simp [copyAt]
  rw [filled]
  have head := buildable.head
  cases opt with
  | nil => exact absurd head (by simp)
  | cons first others =>
      cases others with
      | nil => exact absurd head (by simp)
      | cons second rest => rfl

structure IPv6Description where
  header : IPv6Header
  version : header.getVersion = 6
  hop : Option { opt : List UInt8 // Buildable opt }
  endPoint : Option { opt : List UInt8 // Buildable opt }
  routing : Option { opt : List UInt8 // Buildable opt }
  fragment : Option IPv6FragmentHeader
  protocol : UInt8
  noExt : isExtNumber protocol = false
  hasPayload : protocol ≠ IPV6_HEADER_NONE
  payload : List UInt8

namespace IPv6Description

variable (d : IPv6Description)

/-- The description as it is handed to the builder. -/
def info : IPv6HeaderPacketInfo where
  ipv6Header := some d.header
  hopHeader := d.hop.map Subtype.val
  endPointHeader := d.endPoint.map Subtype.val
  routingHeader := d.routing.map Subtype.val
  fragmentHeader := d.fragment
  protocol := d.protocol
  payload := some d.payload

end IPv6Description

def optionChain
    {kind : UInt8}
    (isOption : isOptionNumber kind = true)
    (header : Option { opt : List UInt8 // Buildable opt }) :
    List ExtHeader :=
  header.toList.map fun opt => .option kind isOption (optionBody opt.val opt.property)

theorem isOptionNumber_hop : isOptionNumber IPV6_HEADER_HOP = true := by
  decide

theorem isOptionNumber_endPoint : isOptionNumber IPV6_HEADER_ENDPOINT = true := by
  decide

theorem isOptionNumber_routing : isOptionNumber IPV6_HEADER_ROUTING = true := by
  decide

/-- The extension headers in the order of the builder. -/
def IPv6Description.chain (d : IPv6Description) : List ExtHeader :=
  optionChain isOptionNumber_hop d.hop ++
    (optionChain isOptionNumber_endPoint d.endPoint ++
      (optionChain isOptionNumber_routing d.routing ++ d.fragment.toList.map .fragment))

/-- The queue of the builder when the first header of the chain has been announced. -/
def pending (chain : List ExtHeader) (protocol : UInt8) : List UInt8 :=
  (chain.map ExtHeader.number ++ [protocol]).tail

theorem getNextHeaderFromQueue_eq (chain : List ExtHeader) (protocol : UInt8) :
    getNextHeaderFromQueue (chain.map ExtHeader.number ++ [protocol]) =
      (firstHeader chain protocol, pending chain protocol) := by
  cases chain with
  | nil => rfl
  | cons h rest => rfl

theorem addOptionHeader_eq
    {kind : UInt8}
    (isOption : isOptionNumber kind = true)
    (header : Option { opt : List UInt8 // Buildable opt })
    (rest : List ExtHeader)
    (protocol : UInt8) :
    ∃ written,
      addOptionHeader (header.map Subtype.val)
          (pending (optionChain isOption header ++ rest) protocol) =
        (written, pending rest protocol) ∧
      encodeChain (optionChain isOption header ++ rest) protocol =
        written ++ encodeChain rest protocol := by
  cases header with
  | none => exact ⟨[], rfl, rfl⟩
  | some opt =>
      have queue : pending (optionChain isOption (some opt) ++ rest) protocol =
          rest.map ExtHeader.number ++ [protocol] :=
        rfl
      refine ⟨_, ?_, rfl⟩
      rw [queue, Option.map_some, addOptionHeader, getNextHeaderFromQueue_eq,
        buildOptionHeader_eq opt.property isOption]
      rfl

theorem addFragmentHeader_eq (fragment : Option IPv6FragmentHeader) (protocol : UInt8) :
    addFragmentHeader fragment (pending (fragment.toList.map .fragment) protocol) =
      encodeChain (fragment.toList.map .fragment) protocol := by
  cases fragment with
  | none => rfl
  | some header => exact (List.append_nil _).symm

theorem headerNumbers_info (d : IPv6Description) :
    headerNumbers d.info = d.chain.map ExtHeader.number ++ [d.protocol] := by
  have numbers : ∀ {kind : UInt8} (isOption : isOptionNumber kind = true)
      (header : Option { opt : List UInt8 // Buildable opt }),
      ((header.map Subtype.val).map fun _ => kind).toList =
        (optionChain isOption header).map ExtHeader.number := by
    intro kind isOption header
    cases header with
    | none => rfl
    | some opt => rfl
  have fragments : (d.fragment.map fun _ => IPV6_HEADER_FRAGMENT).toList =
      (d.fragment.toList.map ExtHeader.fragment).map ExtHeader.number := by
    cases d.fragment with
    | none => rfl
    | some header => rfl
  unfold headerNumbers IPv6Description.info IPv6Description.chain
  dsimp only
  rw [numbers isOptionNumber_hop, numbers isOptionNumber_endPoint, numbers isOptionNumber_routing,
    fragments]
  simp only [List.map_append, List.append_assoc]

theorem buildAfterHeader_info (d : IPv6Description) :
    buildAfterHeader d.info (pending d.chain d.protocol) =
      encodeChain d.chain d.protocol ++ d.payload := by
  obtain ⟨hop, addsHop, hopBytes⟩ := addOptionHeader_eq isOptionNumber_hop d.hop
    (optionChain isOptionNumber_endPoint d.endPoint ++
      (optionChain isOptionNumber_routing d.routing ++ d.fragment.toList.map .fragment)) d.protocol
  obtain ⟨endPoint, addsEndPoint, endPointBytes⟩ := addOptionHeader_eq isOptionNumber_endPoint
    d.endPoint (optionChain isOptionNumber_routing d.routing ++ d.fragment.toList.map .fragment)
    d.protocol
  obtain ⟨routing, addsRouting, routingBytes⟩ := addOptionHeader_eq isOptionNumber_routing
    d.routing (d.fragment.toList.map .fragment) d.protocol
  unfold buildAfterHeader IPv6Description.info IPv6Description.chain
  dsimp only
  rw [addsHop, hopBytes, endPointBytes, routingBytes]
  dsimp only
  rw [addsEndPoint]
  dsimp only
  rw [addsRouting]
  dsimp only
  rw [addFragmentHeader_eq, if_pos d.hasPayload]
  simp only [List.append_assoc, Option.getD_some]

/-! ## What the parser reads back -/

/-- An option header but for its first two bytes, filled up with zeros to whole units. -/
def SameOption (old new : List UInt8) : Prop :=
  new.length = totalOptionSize old.length ∧
    new.drop 2 = old.drop 2 ++ List.replicate (totalOptionSize old.length - old.length) 0

/-- A fragment header but for the number of the next header. -/
def SameFragment (old new : IPv6FragmentHeader) : Prop :=
  new = { old with nextHeader := new.nextHeader }

/-- An IPv6 header but for the number of the next header and the length of the payload. -/
def SameHeader (old new : IPv6Header) : Prop :=
  new = { old with nextHeader := new.nextHeader, payloadLength := new.payloadLength }

/-- What is read is the description, with this payload. -/
structure ReadsBack
    (d : IPv6Description)
    (payload : List UInt8)
    (result : IPv6HeaderPacketInfo) :
    Prop where
  header : Option.Rel SameHeader (some d.header) result.ipv6Header
  hop : Option.Rel SameOption (d.hop.map Subtype.val) result.hopHeader
  endPoint : Option.Rel SameOption (d.endPoint.map Subtype.val) result.endPointHeader
  routing : Option.Rel SameOption (d.routing.map Subtype.val) result.routingHeader
  fragment : Option.Rel SameFragment d.fragment result.fragmentHeader
  isFragment : result.isFragment = d.fragment.any fun header => header.getFragmentOffset ≠ 0
  protocol : result.protocol = d.protocol
  payload : result.payload = some payload

/-- An option header is recorded, when there is one. -/
def addOption
    (kind : UInt8)
    (info : IPv6HeaderPacketInfo)
    (header : Option (List UInt8)) :
    IPv6HeaderPacketInfo :=
  header.elim info (info.setOption kind)

theorem recordAll_option
    {kind : UInt8}
    (isOption : isOptionNumber kind = true)
    (header : Option { opt : List UInt8 // Buildable opt })
    (rest : List ExtHeader)
    (protocol : UInt8)
    (info : IPv6HeaderPacketInfo) :
    ∃ read : Option (List UInt8),
      Option.Rel SameOption (header.map Subtype.val) read ∧
      recordAll (optionChain isOption header ++ rest) protocol info =
        recordAll rest protocol (addOption kind info read) := by
  cases header with
  | none => exact ⟨none, .none, rfl⟩
  | some opt =>
      refine ⟨some ((ExtHeader.option kind isOption (optionBody opt.val opt.property)).bytes
        (firstHeader rest protocol)), .some ⟨?_, rfl⟩, rfl⟩
      rw [ExtHeader.length_bytes]
      exact length_padded opt.property

theorem addOption_eq
    (header : IPv6Header)
    (hop endPoint routing : Option (List UInt8)) :
    addOption IPV6_HEADER_ROUTING
        (addOption IPV6_HEADER_ENDPOINT
          (addOption IPV6_HEADER_HOP { ipv6Header := some header } hop) endPoint) routing =
      { ipv6Header := some header
        hopHeader := hop
        endPointHeader := endPoint
        routingHeader := routing } := by
  cases hop with
  | none =>
      cases endPoint with
      | none => cases routing with
        | none => rfl
        | some third => rfl
      | some second => cases routing with
        | none => rfl
        | some third => rfl
  | some first =>
      cases endPoint with
      | none => cases routing with
        | none => rfl
        | some third => rfl
      | some second => cases routing with
        | none => rfl
        | some third => rfl

theorem readsBack_recordAll
    {d : IPv6Description}
    {header : IPv6Header}
    (same : SameHeader d.header header)
    (payload : List UInt8)
    (size : Nat) :
    ReadsBack d payload
      (((recordAll d.chain d.protocol { ipv6Header := some header }).setPayload d.protocol
        payload).recordHeaderSize size) := by
  obtain ⟨hop, sameHop, recordsHop⟩ := recordAll_option isOptionNumber_hop d.hop
    (optionChain isOptionNumber_endPoint d.endPoint ++
      (optionChain isOptionNumber_routing d.routing ++ d.fragment.toList.map .fragment))
    d.protocol { ipv6Header := some header }
  obtain ⟨endPoint, sameEndPoint, recordsEndPoint⟩ := recordAll_option isOptionNumber_endPoint
    d.endPoint (optionChain isOptionNumber_routing d.routing ++ d.fragment.toList.map .fragment)
    d.protocol (addOption IPV6_HEADER_HOP { ipv6Header := some header } hop)
  obtain ⟨routing, sameRouting, recordsRouting⟩ := recordAll_option isOptionNumber_routing
    d.routing (d.fragment.toList.map .fragment) d.protocol
    (addOption IPV6_HEADER_ENDPOINT
      (addOption IPV6_HEADER_HOP { ipv6Header := some header } hop) endPoint)
  rw [IPv6Description.chain, recordsHop, recordsEndPoint, recordsRouting, addOption_eq]
  cases fragments : d.fragment with
  | none =>
      constructor
      case header => exact .some same
      case hop => exact sameHop
      case endPoint => exact sameEndPoint
      case routing => exact sameRouting
      case fragment =>
        rw [fragments]
        exact .none
      case isFragment =>
        rw [fragments]
        rfl
      case protocol => rfl
      case payload => exact if_pos d.hasPayload
  | some fragment =>
      constructor
      case header => exact .some same
      case hop => exact sameHop
      case endPoint => exact sameEndPoint
      case routing => exact sameRouting
      case fragment =>
        rw [fragments]
        exact .some rfl
      case isFragment =>
        rw [fragments]
        change (if fragment.getFragmentOffset ≠ 0 then true else false) =
          decide (fragment.getFragmentOffset ≠ 0)
        split
        case isTrue offset => simp [offset]
        case isFalse offset => simp [offset]
      case protocol => rfl
      case payload => exact if_pos d.hasPayload

/-- The parser reads back what the builder wrote. -/
theorem parsePacketIPv6Header_build
    (d : IPv6Description)
    (more : List UInt8)
    (nonempty : d.payload ++ more ≠ []) :
    ∃ result,
      parsePacketIPv6Header (buildIPv6PacketHeader d.header d.info ++ more) = some result ∧
      ReadsBack d (d.payload ++ more) result := by
  have numbers := headerNumbers_info d
  obtain ⟨header, sameHeader, version, first, written⟩ : ∃ header,
      SameHeader d.header header ∧ header.getVersion = 6 ∧
        header.nextHeader = firstHeader d.chain d.protocol ∧
        buildIPv6PacketHeader d.header d.info ++ more =
          header.bytes ++ (encodeChain d.chain d.protocol ++ (d.payload ++ more)) := by
    refine ⟨{ d.header with
      nextHeader := firstHeader d.chain d.protocol
      payloadLength := UInt16.ofNat (encodeChain d.chain d.protocol ++ d.payload).length },
      rfl, d.version, rfl, ?_⟩
    unfold buildIPv6PacketHeader
    dsimp only
    rw [numbers, getNextHeaderFromQueue_eq]
    dsimp only
    rw [buildAfterHeader_info]
    simp only [List.append_assoc]
  have long : ¬EndsShort d.chain (d.payload ++ more) := fun short => nonempty short.1
  have size := length_bytes_header header
  have enough : d.chain.length <
      (encodeChain d.chain d.protocol ++ (d.payload ++ more)).length + 1 := by
    have bytes := length_le_encodeChain d.chain d.protocol
    rw [List.length_append]
    omega
  have parsed : parsePacketIPv6Header (buildIPv6PacketHeader d.header d.info ++ more) =
      some (((recordAll d.chain d.protocol { ipv6Header := some header }).setPayload d.protocol
        (d.payload ++ more)).recordHeaderSize
          (header.bytes ++ (encodeChain d.chain d.protocol ++ (d.payload ++ more))).length) := by
    unfold parsePacketIPv6Header
    rw [written, ofBytes_header]
    dsimp only
    rw [if_neg (by simp [size]), if_neg (not_not_intro version), List.drop_left' size, first,
      parseIPv6ExtHeader, parseExtHeaders_chain d.noExt long enough]
    rfl
  exact ⟨_, parsed, readsBack_recordAll sameHeader _ _⟩

theorem length_exampleSource : (List.replicate 16 (1 : UInt8)).length = 16 :=
  List.length_replicate

theorem buildable_exampleHop : Buildable [0, 0, 5, 2, 0, 0, 1, 0, 9] :=
  ⟨by decide, by decide⟩

/-- A packet with a hop-by-hop header that has to be filled up, and a fragment header. -/
def exampleDescription : IPv6Description where
  header :=
    { versionAndTrafficClass1 := 0x6a
      trafficClass2AndFlowLabel1 := 0xb1
      flowLabel2 := 0x23
      flowLabel3 := 0x45
      hopLimit := 64
      srcAddress := ⟨List.replicate 16 1, length_exampleSource⟩
      destAddress := ⟨List.replicate 16 2, List.length_replicate⟩ }
  version := by decide
  hop := some ⟨[0, 0, 5, 2, 0, 0, 1, 0, 9], buildable_exampleHop⟩
  endPoint := none
  routing := none
  fragment := some
    { flagmentOffset1 := 1, flagmentOffset2AndFlags := 9, identification := bytesOfUINT 77 }
  protocol := 17
  noExt := by decide
  hasPayload := by decide
  payload := [1, 2, 3]

/-- The packet is read back. -/
theorem parsePacketIPv6Header_build_example :
    ∃ result,
      parsePacketIPv6Header
          (buildIPv6PacketHeader exampleDescription.header exampleDescription.info ++ []) =
        some result ∧
      ReadsBack exampleDescription ([1, 2, 3] ++ []) result :=
  parsePacketIPv6Header_build exampleDescription [] (by decide)

end TcpIp
end SoftEther
