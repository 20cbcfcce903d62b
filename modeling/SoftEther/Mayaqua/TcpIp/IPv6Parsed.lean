import SoftEther.Mayaqua.TcpIp.HeaderBytes
import SoftEther.Mayaqua.TcpIp.IPv6RoundTrip

/-!
# Chains that have been parsed

A packet for which `ParseIPv6ExtHeader` reports a payload that is not empty consists of a chain of
extension headers and that payload, and what it records is what the chain says.
-/

namespace SoftEther
namespace TcpIp

open Network IPv6HeaderPacketInfo

variable {buf : List UInt8}

theorem exists_optionBody
    (long : 8 ≤ buf.length)
    (whole : ((buf.getD 1 0).toNat + 1) * 8 ≤ buf.length)
    {kind : UInt8}
    (isOption : isOptionNumber kind = true) :
    ∃ body : OptionBody,
      (ExtHeader.option kind isOption body).bytes (buf.getD 0 0) =
        buf.take (((buf.getD 1 0).toNat + 1) * 8) := by
  obtain ⟨first, second, tail, rfl⟩ : ∃ first second tail, buf = first :: second :: tail := by
    cases buf with
    | nil => exact absurd long (by simp)
    | cons first rest =>
        cases rest with
        | nil => exact absurd long (by simp)
        | cons second tail => exact ⟨first, second, tail, rfl⟩
  have small := second.toNat_lt
  have units : ((first :: second :: tail).getD 1 0).toNat = second.toNat := rfl
  rw [units] at whole ⊢
  rw [List.length_cons, List.length_cons] at whole
  have size : (tail.take ((second.toNat + 1) * 8 - 2)).length = (second.toNat + 1) * 8 - 2 := by
    rw [List.length_take, Nat.min_eq_left (by omega)]
  refine ⟨⟨tail.take ((second.toNat + 1) * 8 - 2), by omega, by omega⟩, ?_⟩
  have number : UInt8.ofNat (((tail.take ((second.toNat + 1) * 8 - 2)).length + 2) / 8 - 1) =
      second := by
    rw [size, Nat.sub_add_cancel (by omega), Nat.mul_div_cancel _ (by omega), Nat.add_sub_cancel,
      UInt8.ofNat_toNat]
  have all : (second.toNat + 1) * 8 = (second.toNat + 1) * 8 - 2 + 2 := by omega
  have taken : (first :: second :: tail).take ((second.toNat + 1) * 8) =
      first :: second :: tail.take ((second.toNat + 1) * 8 - 2) := by
    rw [all, List.take_succ_cons, List.take_succ_cons, Nat.add_sub_cancel]
  rw [taken]
  exact congrArg (fun second => first :: second :: tail.take _) number

theorem bytes_ofBytes_fragment
    (long : sizeofIPv6FragmentHeader ≤ buf.length) :
    (IPv6FragmentHeader.ofBytes buf).bytes = buf.take sizeofIPv6FragmentHeader := by
  unfold sizeofIPv6FragmentHeader at long ⊢
  have first : (bytesAt buf 0 4).val = (buf.drop 0).take 4 := bytesAt_eq_take (by omega)
  have second : (bytesAt buf 4 4).val = (buf.drop 4).take 4 := bytesAt_eq_take (by omega)
  calc (IPv6FragmentHeader.ofBytes buf).bytes
    _ = (bytesAt buf 0 4).val ++ (bytesAt buf 4 4).val := rfl
    _ = buf.take 4 ++ (buf.drop 4).take 4 := by rw [first, second, List.drop_zero]
    _ = buf.take 8 := (List.take_add (i := 4)).symm

theorem bigEndian_ushortAt (data : List UInt8) (offset : Nat) :
    bigEndian 2 (ushortAt data offset) = (bytesAt data offset 2).val := by
  have field : (bytesAt data offset 2).val = [data.getD offset 0, data.getD (offset + 1) 0] := rfl
  have high := (data.getD offset 0).toNat_lt
  have low := (data.getD (offset + 1) 0).toNat_lt
  have number : ushortAt data offset =
      (data.getD offset 0).toNat * 256 + (data.getD (offset + 1) 0).toNat := by
    rw [ushortAt, field]
    simp [fromBigEndian]
  rw [number, field]
  generalize data.getD offset 0 = first at *
  generalize data.getD (offset + 1) 0 = second at *
  have firstByte : UInt8.ofNat ((first.toNat * 256 + second.toNat) / 256 ^ 1) = first := by
    have quotient : (first.toNat * 256 + second.toNat) / 256 ^ 1 = first.toNat := by omega
    rw [quotient, UInt8.ofNat_toNat]
  have secondByte : UInt8.ofNat ((first.toNat * 256 + second.toNat) / 256 ^ 0) = second := by
    apply UInt8.toNat_inj.mp
    rw [UInt8.toNat_ofNat']
    omega
  rw [bigEndian, bigEndian, bigEndian, firstByte, secondByte]

theorem bytes_ofBytes_header
    (long : sizeofIPv6Header ≤ buf.length) :
    (IPv6Header.ofBytes buf).bytes = buf.take sizeofIPv6Header := by
  unfold sizeofIPv6Header at long ⊢
  have small : ushortAt buf 4 < 65536 := by
    have bound := fromBigEndian_lt (bytesAt buf 4 2).val
    rw [(bytesAt buf 4 2).property] at bound
    exact bound
  have length : bigEndian 2 (IPv6Header.ofBytes buf).payloadLength.toNat =
      (bytesAt buf 4 2).val := by
    rw [← bigEndian_ushortAt]
    congr 1
    exact (UInt16.toNat_ofNat').trans (Nat.mod_eq_of_lt small)
  have first : (bytesAt buf 0 4).val = buf.take 4 := bytesAt_eq_take (by omega)
  have second : (bytesAt buf 4 2).val = (buf.drop 4).take 2 := bytesAt_eq_take (by omega)
  have third : (bytesAt buf 6 2).val = (buf.drop 6).take 2 := bytesAt_eq_take (by omega)
  have source : (bytesAt buf 8 16).val = (buf.drop 8).take 16 := bytesAt_eq_take (by omega)
  have destination : (bytesAt buf 24 16).val = (buf.drop 24).take 16 :=
    bytesAt_eq_take (by omega)
  calc (IPv6Header.ofBytes buf).bytes
    _ = (bytesAt buf 0 4).val ++ bigEndian 2 (IPv6Header.ofBytes buf).payloadLength.toNat ++
          (bytesAt buf 6 2).val ++ (bytesAt buf 8 16).val ++ (bytesAt buf 24 16).val := rfl
    _ = buf.take 4 ++ (buf.drop 4).take 2 ++ (buf.drop 6).take 2 ++ (buf.drop 8).take 16 ++
          (buf.drop 24).take 16 := by rw [length, first, second, third, source, destination]
    _ = buf.take 40 := by
          rw [← List.take_add, ← List.take_add, ← List.take_add, ← List.take_add]

/-! ## The chain that has been read -/

/-- A chain and a payload lie in a block, and the result says what the chain says. -/
structure ReadChain
    (info : IPv6HeaderPacketInfo)
    (nextHeader : UInt8)
    (buf : List UInt8)
    (result : IPv6HeaderPacketInfo)
    (payload : List UInt8)
    (chain : List ExtHeader) :
    Prop where
  first : nextHeader = firstHeader chain result.protocol
  noExt : isExtNumber result.protocol = false
  bytes : buf = encodeChain chain result.protocol ++ payload
  recorded : result = (recordAll chain result.protocol info).setPayload result.protocol payload

theorem ReadChain.cons
    {info result : IPv6HeaderPacketInfo}
    {nextHeader2 : UInt8}
    {rest payload : List UInt8}
    {chain : List ExtHeader}
    {h : ExtHeader}
    (read : ReadChain (h.record nextHeader2 info) nextHeader2 rest result payload chain) :
    ReadChain info h.number (h.bytes nextHeader2 ++ rest) result payload (h :: chain) where
  first := rfl
  noExt := read.noExt
  bytes := by rw [encodeChain, ← read.first, List.append_assoc, ← read.bytes]
  recorded := by
    have recorded := read.recorded
    rw [read.first] at recorded
    exact recorded

theorem nextHeader_of_payload
    {buf rest : List UInt8}
    {size : Nat}
    (eight : 8 ≤ size)
    (behind : rest = buf.drop size)
    (more : rest ≠ [])
    (nextHeader2 : UInt8) :
    (if 8 < buf.length then buf.getD 0 0 else nextHeader2) = buf.getD 0 0 := by
  have length := List.length_pos_of_ne_nil more
  rw [behind, List.length_drop] at length
  exact if_pos (by omega)

theorem exists_chain
    {fuel : Nat}
    {info result : IPv6HeaderPacketInfo}
    {nextHeader nextHeader2 : UInt8}
    {buf payload : List UInt8}
    (parsed : parseExtHeaders fuel info nextHeader nextHeader2 buf = some result)
    (isPayload : result.payload = some payload)
    (more : payload ≠ []) :
    ∃ chain, ReadChain info nextHeader buf result payload chain := by
  induction fuel generalizing info nextHeader nextHeader2 buf with
  | zero => exact nomatch parsed
  | succ fuel inductionHypothesis =>
      -- what lies behind a header is not empty, since the payload is in it
      have notEmpty : ∀ {info : IPv6HeaderPacketInfo} {nextHeader : UInt8} {rest : List UInt8}
          {chain : List ExtHeader}, ReadChain info nextHeader rest result payload chain →
            rest ≠ [] := by
        intro info nextHeader rest chain read empty
        rw [read.bytes] at empty
        exact more (List.append_eq_nil_iff.mp empty).2
      rw [parseExtHeaders_succ] at parsed
      dsimp only at parsed
      split at parsed
      case isTrue isOption =>
        split at parsed
        case isTrue => exact nomatch parsed
        case isFalse long =>
          split at parsed
          case isTrue => exact nomatch parsed
          case isFalse whole =>
            obtain ⟨chain, read⟩ := inductionHypothesis parsed
            obtain ⟨body, bytes⟩ := exists_optionBody (by omega) (Nat.le_of_not_lt whole) isOption
            have number := nextHeader_of_payload (by omega) rfl (notEmpty read) nextHeader2
            rw [number, ← bytes] at read
            refine ⟨.option nextHeader isOption body :: chain, ?_⟩
            have joined := ReadChain.cons (h := .option nextHeader isOption body) read
            rw [bytes, List.take_append_drop] at joined
            exact joined
      case isFalse noOption =>
        split at parsed
        case isTrue isFragment =>
          split at parsed
          case isTrue => exact nomatch parsed
          case isFalse long =>
            obtain ⟨chain, read⟩ := inductionHypothesis parsed
            have number := nextHeader_of_payload (by decide) rfl (notEmpty read) nextHeader2
            rw [number] at read
            refine ⟨.fragment (.ofBytes buf) :: chain, ?_⟩
            have joined := ReadChain.cons (h := .fragment (.ofBytes buf)) read
            have bytes : (ExtHeader.fragment (.ofBytes buf)).bytes (buf.getD 0 0) =
                buf.take sizeofIPv6FragmentHeader :=
              bytes_ofBytes_fragment (Nat.le_of_not_lt long)
            rw [bytes, List.take_append_drop] at joined
            rw [isFragment]
            exact joined
        case isFalse noFragment =>
          injection parsed with same
          subst same
          obtain rfl : buf = payload := by
            unfold setPayload at isPayload
            dsimp only at isPayload
            split at isPayload
            case isTrue => exact Option.some.inj isPayload
            case isFalse => exact nomatch isPayload
          exact ⟨[], rfl, by simp [isExtNumber, setPayload, noOption, noFragment], rfl, rfl⟩

/-! ## Fragments -/

def fragmentsOf (chain : List ExtHeader) : List IPv6FragmentHeader :=
  chain.filterMap fun
    | .option _ _ _ => none
    | .fragment header => some header

/-- `IPV6_GET_FLAGS` and `IPV6_FRAGMENT_HEADER_FLAG_MORE_FRAGMENTS`. -/
def IPv6FragmentHeader.moreFragments (h : IPv6FragmentHeader) : Bool :=
  h.flagmentOffset2AndFlags &&& 0x0f &&& 0x01 ≠ 0

/-- A packet with the chain is whole: no fragment header has an offset, and the last one says that
no more fragments follow. -/
def Unfragmented (chain : List ExtHeader) : Prop :=
  (∀ h ∈ fragmentsOf chain, h.getFragmentOffset = 0) ∧
    ∀ h ∈ (fragmentsOf chain).getLast?, h.moreFragments = false

/-- What `AdjustTcpMssL3` asks of the fragments of a packet. -/
def noFragment (info : IPv6HeaderPacketInfo) : Bool :=
  !info.isFragment && !info.fragmentHeader.any IPv6FragmentHeader.moreFragments

theorem isFragment_setOption
    (info : IPv6HeaderPacketInfo)
    (kind : UInt8)
    (header : List UInt8) :
    (info.setOption kind header).isFragment = info.isFragment ∧
      (info.setOption kind header).fragmentHeader = info.fragmentHeader := by
  unfold setOption
  split
  case isTrue => exact ⟨rfl, rfl⟩
  case isFalse =>
    split
    case isTrue => exact ⟨rfl, rfl⟩
    case isFalse => exact ⟨rfl, rfl⟩

theorem isFragment_recordAll
    (chain : List ExtHeader)
    (protocol : UInt8)
    (info : IPv6HeaderPacketInfo) :
    (recordAll chain protocol info).isFragment = true ↔
      info.isFragment = true ∨ ∃ h ∈ fragmentsOf chain, h.getFragmentOffset ≠ 0 := by
  induction chain generalizing info with
  | nil => simp [recordAll, fragmentsOf]
  | cons h rest inductionHypothesis =>
      rw [recordAll, inductionHypothesis]
      cases h with
      | option kind isOption body =>
          rw [ExtHeader.record, (isFragment_setOption _ _ _).1]
          rfl
      | fragment header =>
          have fragments : fragmentsOf (.fragment header :: rest) = header :: fragmentsOf rest := rfl
          have recorded : ((ExtHeader.fragment header).record (firstHeader rest protocol)
              info).isFragment =
                if header.getFragmentOffset ≠ 0 then true else info.isFragment :=
            rfl
          rw [recorded, fragments]
          by_cases later : header.getFragmentOffset = 0
          · simp [later]
          · simp [later]

theorem moreFragments_recordAll
    (chain : List ExtHeader)
    (protocol : UInt8)
    (info : IPv6HeaderPacketInfo) :
    (recordAll chain protocol info).fragmentHeader.map IPv6FragmentHeader.moreFragments =
      ((fragmentsOf chain).getLast?.or info.fragmentHeader).map
        IPv6FragmentHeader.moreFragments := by
  induction chain generalizing info with
  | nil => rfl
  | cons h rest inductionHypothesis =>
      rw [recordAll, inductionHypothesis]
      cases h with
      | option kind isOption body =>
          rw [ExtHeader.record, (isFragment_setOption _ _ _).2]
          rfl
      | fragment header =>
          have fragments : fragmentsOf (.fragment header :: rest) = header :: fragmentsOf rest := rfl
          rw [ExtHeader.record, setFragment, fragments, List.getLast?_cons]
          cases (fragmentsOf rest).getLast? with
          | none => rfl
          | some last => rfl

theorem noFragment_recordAll
    (chain : List ExtHeader)
    (protocol : UInt8)
    {info : IPv6HeaderPacketInfo}
    (first : info.isFragment = false)
    (none : info.fragmentHeader = none) :
    noFragment (recordAll chain protocol info) = true ↔ Unfragmented chain := by
  have later := isFragment_recordAll chain protocol info
  have last := moreFragments_recordAll chain protocol info
  rw [first] at later
  rw [none, Option.or_none] at last
  unfold noFragment Unfragmented
  rw [Bool.and_eq_true, Bool.not_eq_true', Bool.not_eq_true']
  apply and_congr
  · rw [← Bool.not_eq_true, later]
    simp
  · cases recorded : (recordAll chain protocol info).fragmentHeader with
    | none =>
        rw [recorded] at last
        cases lastIs : (fragmentsOf chain).getLast? with
        | none => simp
        | some h =>
            rw [lastIs] at last
            exact nomatch last
    | some header =>
        rw [recorded] at last
        cases lastIs : (fragmentsOf chain).getLast? with
        | none =>
            rw [lastIs] at last
            exact nomatch last
        | some h =>
            rw [lastIs] at last
            injection last with same
            simp [same]

/-- An IPv6 header and its extension headers before a payload of a protocol, which is not
fragmented. -/
def IsIPv6Headers (protocol : UInt8) (ip : List UInt8) : Prop :=
  ∃ (header : IPv6Header) (chain : List ExtHeader),
    header.getVersion = 6 ∧ header.nextHeader = firstHeader chain protocol ∧
      Unfragmented chain ∧ ip = header.bytes ++ encodeChain chain protocol

section Headers

variable {protocol : UInt8} {ip payload : List UInt8}

theorem parsePacketIPv6Header_headers
    (noExt : isExtNumber protocol = false)
    (hasNext : protocol ≠ IPV6_HEADER_NONE)
    (headers : IsIPv6Headers protocol ip)
    (more : payload ≠ []) :
    ∃ v6, parsePacketIPv6Header (ip ++ payload) = some v6 ∧ v6.payload = some payload ∧
      v6.protocol = protocol ∧ noFragment v6 = true := by
  obtain ⟨header, chain, version, next, unfragmented, rfl⟩ := headers
  have headerLength := length_bytes_header header
  have long : ¬(header.bytes ++ encodeChain chain protocol ++ payload).length <
      sizeofIPv6Header := by
    rw [List.append_assoc, List.length_append]
    omega
  have first : IPv6Header.ofBytes (header.bytes ++ encodeChain chain protocol ++ payload) =
      header := by
    rw [List.append_assoc, ofBytes_header]
  have rest : (header.bytes ++ encodeChain chain protocol ++ payload).drop sizeofIPv6Header =
      encodeChain chain protocol ++ payload := by
    rw [List.append_assoc, List.drop_left' headerLength]
  have rounds : chain.length < (encodeChain chain protocol ++ payload).length + 1 := by
    have bytes := length_le_encodeChain chain protocol
    rw [List.length_append]
    omega
  have read : parseIPv6ExtHeader { ipv6Header := some header } header.nextHeader
      (encodeChain chain protocol ++ payload) =
        some ((recordAll chain protocol { ipv6Header := some header }).setPayload protocol
          payload) := by
    rw [next]
    exact parseExtHeaders_chain noExt (fun short => more short.1) rounds _ _
  have noFragments : noFragment (recordAll chain protocol { ipv6Header := some header }) = true :=
    (noFragment_recordAll chain protocol rfl rfl).mpr unfragmented
  unfold parsePacketIPv6Header
  rw [if_neg long, first, rest]
  dsimp only
  rw [if_neg (not_not.mpr version), read, Option.map_some]
  exact ⟨_, rfl, if_pos hasNext, rfl, noFragments⟩

theorem isIPv6Headers_of_parse
    {buf : List UInt8}
    {v6 : IPv6HeaderPacketInfo}
    (parsed : parsePacketIPv6Header buf = some v6)
    (isPayload : v6.payload = some payload)
    (more : payload ≠ [])
    (whole : noFragment v6 = true) :
    ∃ ip, buf = ip ++ payload ∧ IsIPv6Headers v6.protocol ip := by
  unfold parsePacketIPv6Header at parsed
  split at parsed
  case isTrue => exact nomatch parsed
  case isFalse long =>
    dsimp only at parsed
    split at parsed
    case isTrue => exact nomatch parsed
    case isFalse version =>
      obtain ⟨info, read, rfl⟩ := Option.map_eq_some_iff.mp parsed
      obtain ⟨chain, first, noExt, bytes, recorded⟩ := exists_chain read isPayload more
      have header := bytes_ofBytes_header (Nat.le_of_not_lt long)
      refine ⟨buf.take sizeofIPv6Header ++ encodeChain chain info.protocol, ?_,
        .ofBytes buf, chain, not_not.mp version, first, ?_, ?_⟩
      · rw [List.append_assoc, ← bytes, List.take_append_drop]
      · rw [recorded] at whole
        exact (noFragment_recordAll chain info.protocol rfl rfl).mp whole
      · rw [header]
        rfl

end Headers

end TcpIp
end SoftEther
