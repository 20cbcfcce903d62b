import SoftEther.Mayaqua.TcpIp.IPv6

/-!
# Chains of extension headers

What `ParseIPv6ExtHeader` makes of a chain of extension headers and the payload behind it.
-/

namespace SoftEther
namespace TcpIp

open IPv6HeaderPacketInfo

/-- What follows the first two bytes of an option header: it fills whole units of eight bytes,
and its size fits into the second byte. -/
structure OptionBody where
  bytes : List UInt8
  whole : (bytes.length + 2) % 8 = 0
  fits : bytes.length + 2 ≤ 2048

/-- An extension header without the number of the next one. -/
inductive ExtHeader where
  /-- A header of variable length. -/
  | option (kind : UInt8) (isOption : isOptionNumber kind = true) (body : OptionBody)
  | fragment (header : IPv6FragmentHeader)

/-- The number of an extension header that the parser knows. -/
def isExtNumber (number : UInt8) : Bool :=
  isOptionNumber number ∨ number = IPV6_HEADER_FRAGMENT

namespace ExtHeader

def number : ExtHeader → UInt8
  | option kind _ _ => kind
  | fragment _ => IPV6_HEADER_FRAGMENT

def size : ExtHeader → Nat
  | option _ _ body => body.bytes.length + 2
  | fragment _ => sizeofIPv6FragmentHeader

/-- The bytes of the header before a header with the number. -/
def bytes (next : UInt8) : ExtHeader → List UInt8
  | option _ _ body => next :: UInt8.ofNat ((body.bytes.length + 2) / 8 - 1) :: body.bytes
  | fragment header => { header with nextHeader := next : IPv6FragmentHeader }.bytes

def record (next : UInt8) (info : IPv6HeaderPacketInfo) : ExtHeader → IPv6HeaderPacketInfo
  | option kind isOption body => info.setOption kind ((option kind isOption body).bytes next)
  | fragment header => info.setFragment { header with nextHeader := next }

variable (h : ExtHeader)

theorem length_bytes (next : UInt8) : (h.bytes next).length = h.size := by
  cases h with
  | option kind isOption body => rfl
  | fragment header =>
      rw [bytes, IPv6FragmentHeader.bytes, List.length_append, header.identification.property]
      rfl

theorem isExtNumber_number : isExtNumber h.number = true := by
  cases h with
  | option kind isOption body => simp [isExtNumber, number, isOption]
  | fragment header => simp [isExtNumber, number]

theorem eight_dvd_size : 8 ∣ h.size ∧ 8 ≤ h.size := by
  cases h with
  | option kind isOption body =>
      have whole := body.whole
      dsimp only [size]
      omega
  | fragment header => exact ⟨⟨1, rfl⟩, le_rfl⟩

end ExtHeader

/-- The number of the first header of a chain, which is the protocol when there is none. -/
def firstHeader : List ExtHeader → UInt8 → UInt8
  | [], protocol => protocol
  | h :: _, _ => h.number

def encodeChain : List ExtHeader → UInt8 → List UInt8
  | [], _ => []
  | h :: rest, protocol => h.bytes (firstHeader rest protocol) ++ encodeChain rest protocol

def recordAll : List ExtHeader → UInt8 → IPv6HeaderPacketInfo → IPv6HeaderPacketInfo
  | [], _, info => info
  | h :: rest, protocol, info =>
      recordAll rest protocol (h.record (firstHeader rest protocol) info)

/-! ## One round -/

section

variable {info : IPv6HeaderPacketInfo}
variable {next nextHeader2 : UInt8}

theorem parseExtHeaders_succ
    (fuel : Nat)
    (info : IPv6HeaderPacketInfo)
    (nextHeader nextHeader2 : UInt8)
    (buf : List UInt8) :
    parseExtHeaders (fuel + 1) info nextHeader nextHeader2 buf =
      let nextHeader2 := if 8 < buf.length then buf.getD 0 0 else nextHeader2
      if isOptionNumber nextHeader then
        let optionHeaderSize := ((buf.getD 1 0).toNat + 1) * 8
        if buf.length < 8 then none
        else if buf.length < optionHeaderSize then none
        else
          parseExtHeaders fuel (info.setOption nextHeader (buf.take optionHeaderSize))
            nextHeader2 nextHeader2 (buf.drop optionHeaderSize)
      else if nextHeader = IPV6_HEADER_FRAGMENT then
        if buf.length < sizeofIPv6FragmentHeader then none
        else
          parseExtHeaders fuel (info.setFragment (.ofBytes buf)) nextHeader2 nextHeader2
            (buf.drop sizeofIPv6FragmentHeader)
      else some (info.setPayload nextHeader buf) :=
  rfl

theorem ofBytes_fragment (h : IPv6FragmentHeader) (rest : List UInt8) :
    IPv6FragmentHeader.ofBytes (h.bytes ++ rest) = h := by
  have identification : bytesAt (h.bytes ++ rest) 4 4 = h.identification := by
    apply Subtype.ext
    have field := bytesAt_middle [h.nextHeader, h.reserved, h.flagmentOffset1,
      h.flagmentOffset2AndFlags] h.identification.val rest
    rw [h.identification.property, ← List.append_assoc] at field
    exact field
  unfold IPv6FragmentHeader.ofBytes
  rw [identification]
  rfl

theorem parseExtHeaders_header
    (fuel : Nat)
    (info : IPv6HeaderPacketInfo)
    (h : ExtHeader)
    (next nextHeader2 : UInt8)
    (rest : List UInt8) :
    parseExtHeaders (fuel + 1) info h.number nextHeader2 (h.bytes next ++ rest) =
      parseExtHeaders fuel (h.record next info)
        (if 8 < h.size + rest.length then next else nextHeader2)
        (if 8 < h.size + rest.length then next else nextHeader2) rest := by
  have length : (h.bytes next ++ rest).length = h.size + rest.length := by
    rw [List.length_append, h.length_bytes]
  have first : (h.bytes next ++ rest).getD 0 0 = next := by
    cases h with
    | option kind isOption body => rfl
    | fragment header => rfl
  have tail : (h.bytes next ++ rest).drop h.size = rest := List.drop_left' (h.length_bytes next)
  have head : (h.bytes next ++ rest).take h.size = h.bytes next := List.take_left' (h.length_bytes next)
  obtain ⟨_, large⟩ := h.eight_dvd_size
  rw [parseExtHeaders_succ, length, first]
  dsimp only
  cases h with
  | option kind isOption body =>
      have sized : (((ExtHeader.option kind isOption body).bytes next ++ rest).getD 1 0).toNat =
          (body.bytes.length + 2) / 8 - 1 := by
        have fits := body.fits
        exact (UInt8.toNat_ofNat').trans (Nat.mod_eq_of_lt (by omega))
      have units : ((body.bytes.length + 2) / 8 - 1 + 1) * 8 =
          (ExtHeader.option kind isOption body).size := by
        have whole := body.whole
        dsimp only [ExtHeader.size]
        omega
      rw [sized, units, head, tail, ExtHeader.number, if_pos isOption, if_neg (by omega),
        if_neg (by omega)]
      rfl
  | fragment header =>
      have noOption : ¬isOptionNumber IPV6_HEADER_FRAGMENT = true := by decide
      have size : (ExtHeader.fragment header).size = sizeofIPv6FragmentHeader := rfl
      rw [size] at tail large ⊢
      rw [ExtHeader.number, if_neg noOption, if_pos rfl, tail, if_neg (by
        unfold sizeofIPv6FragmentHeader
        omega)]
      rw [ExtHeader.bytes, ofBytes_fragment]
      rfl

theorem parseExtHeaders_payload
    {nextHeader : UInt8}
    (noExt : isExtNumber nextHeader = false)
    (fuel : Nat)
    (info : IPv6HeaderPacketInfo)
    (nextHeader2 : UInt8)
    (buf : List UInt8) :
    parseExtHeaders (fuel + 1) info nextHeader nextHeader2 buf =
      some (info.setPayload nextHeader buf) := by
  obtain ⟨noOption, noFragment⟩ :
      isOptionNumber nextHeader = false ∧ nextHeader ≠ IPV6_HEADER_FRAGMENT := by
    simpa [isExtNumber] using noExt
  rw [parseExtHeaders_succ]
  dsimp only
  rw [noOption, if_neg Bool.false_ne_true, if_neg noFragment]

theorem parseExtHeaders_nil
    {nextHeader : UInt8}
    (isExt : isExtNumber nextHeader = true)
    (fuel : Nat)
    (info : IPv6HeaderPacketInfo)
    (nextHeader2 : UInt8) :
    parseExtHeaders fuel info nextHeader nextHeader2 [] = none := by
  cases fuel with
  | zero => rfl
  | succ fuel =>
      rw [parseExtHeaders_succ]
      dsimp only
      by_cases isOption : isOptionNumber nextHeader = true
      · rw [if_pos isOption]
        rfl
      · rw [if_neg isOption, if_pos (by simpa [isExtNumber, isOption] using isExt)]
        rfl

end

/-! ## Whole chains -/

section

variable {chain : List ExtHeader}
variable {protocol : UInt8}
variable {payload : List UInt8}

theorem length_le_encodeChain (chain : List ExtHeader) (protocol : UInt8) :
    chain.length ≤ (encodeChain chain protocol).length := by
  induction chain with
  | nil => exact Nat.zero_le _
  | cons h rest inductionHypothesis =>
      have large := h.eight_dvd_size.2
      rw [encodeChain, List.length_append, h.length_bytes, List.length_cons]
      omega

/-- The last header of the chain has eight bytes and ends the packet. -/
def EndsShort (chain : List ExtHeader) (payload : List UInt8) : Prop :=
  payload = [] ∧ ∃ last, chain.getLast? = some last ∧ last.size = 8

theorem EndsShort.of_cons
    {h : ExtHeader}
    {rest : List ExtHeader}
    (short : EndsShort rest payload) :
    EndsShort (h :: rest) payload := by
  obtain ⟨empty, last, isLast, size⟩ := short
  refine ⟨empty, last, ?_, size⟩
  rw [List.getLast?_cons, isLast]
  rfl

theorem parseExtHeaders_chain
    (noExt : isExtNumber protocol = false)
    (long : ¬EndsShort chain payload)
    {fuel : Nat}
    (enough : chain.length < fuel)
    (info : IPv6HeaderPacketInfo)
    (nextHeader2 : UInt8) :
    parseExtHeaders fuel info (firstHeader chain protocol) nextHeader2
        (encodeChain chain protocol ++ payload) =
      some ((recordAll chain protocol info).setPayload protocol payload) := by
  obtain ⟨fuel, rfl⟩ : ∃ n, fuel = n + 1 := ⟨fuel - 1, by omega⟩
  induction chain generalizing fuel info nextHeader2 with
  | nil => exact parseExtHeaders_payload noExt fuel info nextHeader2 payload
  | cons h rest inductionHypothesis =>
      rw [List.length_cons] at enough
      obtain ⟨fuel, rfl⟩ : ∃ n, fuel = n + 1 := ⟨fuel - 1, by omega⟩
      -- something follows the header, or it is longer than eight bytes
      have more : 8 < h.size + (encodeChain rest protocol ++ payload).length := by
        obtain ⟨units, large⟩ := h.eight_dvd_size
        cases rest with
        | nil =>
            by_cases empty : payload = []
            · have notEight : h.size ≠ 8 := fun eight => long ⟨empty, h, rfl, eight⟩
              omega
            · have bytes := List.length_pos_of_ne_nil empty
              rw [List.length_append]
              omega
        | cons second others =>
            have bytes := length_le_encodeChain (second :: others) protocol
            rw [List.length_cons] at bytes
            rw [List.length_append]
            omega
      rw [firstHeader, encodeChain, List.append_assoc, parseExtHeaders_header, if_pos more]
      exact inductionHypothesis (fun short => long short.of_cons) _ _ fuel (by omega)

theorem parseExtHeaders_cons
    (h second : ExtHeader)
    (others : List ExtHeader)
    (fuel : Nat)
    (info : IPv6HeaderPacketInfo)
    (nextHeader2 : UInt8) :
    parseExtHeaders (fuel + 1) info (firstHeader (h :: second :: others) protocol) nextHeader2
        (encodeChain (h :: second :: others) protocol) =
      parseExtHeaders fuel (h.record second.number info)
        (firstHeader (second :: others) protocol) second.number
        (encodeChain (second :: others) protocol) := by
  have more : 8 < h.size + (encodeChain (second :: others) protocol).length := by
    have bytes := length_le_encodeChain (second :: others) protocol
    have large := h.eight_dvd_size.2
    rw [List.length_cons] at bytes
    omega
  have read := parseExtHeaders_header fuel info h second.number nextHeader2
    (encodeChain (second :: others) protocol)
  rw [if_pos more] at read
  exact read

theorem parseExtHeaders_short
    (short : EndsShort chain [])
    (fuel : Nat)
    (info : IPv6HeaderPacketInfo)
    {nextHeader2 : UInt8}
    (isExt : isExtNumber nextHeader2 = true) :
    parseExtHeaders fuel info (firstHeader chain protocol) nextHeader2
      (encodeChain chain protocol) = none := by
  induction chain generalizing fuel info nextHeader2 with
  | nil =>
      obtain ⟨_, last, isLast, _⟩ := short
      exact nomatch isLast
  | cons h rest inductionHypothesis =>
      cases fuel with
      | zero => rfl
      | succ fuel =>
          cases rest with
          | nil =>
              obtain ⟨_, last, isLast, eight⟩ := short
              obtain rfl : h = last := Option.some.inj isLast
              have read := parseExtHeaders_header fuel info h protocol nextHeader2 []
              rw [if_neg (by simp [eight]), parseExtHeaders_nil isExt] at read
              exact read
          | cons second others =>
              rw [parseExtHeaders_cons]
              exact inductionHypothesis short fuel _ second.isExtNumber_number

/-! ## What is reported -/

/-- The parser reports the protocol behind the last header, and the bytes there as payload;
behind `IPV6_HEADER_NONE` there is no payload. -/
def Reports
    (info : IPv6HeaderPacketInfo)
    (chain : List ExtHeader)
    (protocol : UInt8)
    (payload : List UInt8) :
    Prop :=
  ∃ result,
    parseIPv6ExtHeader info (firstHeader chain protocol)
        (encodeChain chain protocol ++ payload) = some result ∧
      result.protocol = protocol ∧
      result.payload = if protocol ≠ IPV6_HEADER_NONE then some payload else none

theorem parseIPv6ExtHeader_single
    {h : ExtHeader}
    (eight : h.size = 8)
    (protocol : UInt8)
    (info : IPv6HeaderPacketInfo) :
    ∃ result, parseIPv6ExtHeader info h.number (h.bytes protocol) = some result ∧
      result.protocol = IPV6_HEADER_NONE ∧ result.payload = none := by
  have read := parseExtHeaders_header 8 { info with isFragment := false } h protocol
    IPV6_HEADER_NONE []
  rw [if_neg (by simp [eight]), parseExtHeaders_payload (by decide) 7, List.append_nil] at read
  have size : (h.bytes protocol).length = 8 := (h.length_bytes protocol).trans eight
  unfold parseIPv6ExtHeader
  rw [size, read]
  exact ⟨_, rfl, rfl, rfl⟩

/-- The parser reports what is behind the last header exactly when this is longer than eight
bytes, or something follows it, or it is the only one and has no next header. -/
theorem reports_iff
    (noExt : isExtNumber protocol = false)
    (info : IPv6HeaderPacketInfo) :
    Reports info chain protocol payload ↔
      (EndsShort chain payload → chain.length = 1 ∧ protocol = IPV6_HEADER_NONE) := by
  by_cases short : EndsShort chain payload
  case neg =>
    have enough : chain.length < (encodeChain chain protocol ++ payload).length + 1 := by
      have bytes := length_le_encodeChain chain protocol
      rw [List.length_append]
      omega
    refine iff_of_true ?_ fun ends => absurd ends short
    exact ⟨_, parseExtHeaders_chain noExt short enough _ _, rfl, rfl⟩
  case pos =>
    obtain ⟨rfl, last, isLast, eight⟩ := short
    cases chain with
    | nil => exact nomatch isLast
    | cons h rest =>
        cases rest with
        | nil =>
            obtain rfl : h = last := Option.some.inj isLast
            obtain ⟨result, parsed, none, noPayload⟩ :=
              parseIPv6ExtHeader_single eight protocol info
            have parses : parseIPv6ExtHeader info (firstHeader [h] protocol)
                (encodeChain [h] protocol ++ []) = some result := by
              rw [List.append_nil, encodeChain, encodeChain, List.append_nil]
              exact parsed
            constructor
            · rintro ⟨reported, same, isProtocol, _⟩ _
              obtain rfl : result = reported := Option.some.inj (parses.symm.trans same)
              exact ⟨rfl, isProtocol.symm.trans none⟩
            · intro only
              obtain ⟨_, rfl⟩ := only ⟨rfl, h, rfl, eight⟩
              exact ⟨result, parses, none, noPayload⟩
        | cons second others =>
            have short : EndsShort (second :: others) [] := ⟨rfl, last, isLast, eight⟩
            have refused : parseIPv6ExtHeader info (firstHeader (h :: second :: others) protocol)
                (encodeChain (h :: second :: others) protocol ++ []) = none := by
              rw [List.append_nil]
              unfold parseIPv6ExtHeader
              rw [parseExtHeaders_cons]
              exact parseExtHeaders_short short _ _ second.isExtNumber_number
            refine iff_of_false (fun reports => ?_) fun only => ?_
            · obtain ⟨result, same, _⟩ := reports
              rw [refused] at same
              exact nomatch same
            · obtain ⟨single, _⟩ := only ⟨rfl, last, isLast, eight⟩
              rw [List.length_cons, List.length_cons] at single
              omega

/-- A hop-by-hop header before a fragment header, both of eight bytes. -/
def exampleChain : List ExtHeader :=
  [.option IPV6_HEADER_HOP (by decide) ⟨List.replicate 6 0, by decide, by decide⟩,
    .fragment ⟨0, 0, 0, 0, ⟨[0, 0, 0, 1], rfl⟩⟩]

/-- A chain with a UDP payload is reported. -/
theorem reports_exampleChain : Reports {} exampleChain 17 [0, 7] := by
  refine (reports_iff (by decide) {}).mpr ?_
  rintro ⟨empty, _⟩
  exact nomatch empty

/-- The chain without a payload is refused. -/
theorem not_reports_exampleChain :
    ¬∀ (info : IPv6HeaderPacketInfo) (chain : List ExtHeader) (protocol : UInt8)
      (payload : List UInt8), isExtNumber protocol = false →
        Reports info chain protocol payload := by
  intro reports
  obtain ⟨result, parsed, _⟩ := reports {} exampleChain 17 [] (by decide)
  have refused : parseIPv6ExtHeader {} (firstHeader exampleChain 17)
      (encodeChain exampleChain 17 ++ []) = none := by
    decide +kernel
  rw [refused] at parsed
  exact nomatch parsed

end

end TcpIp
end SoftEther
