import SoftEther.Cedar.L2tp.Packet
import SoftEther.Mayaqua.Pointer

/-!
# Parsing L2TP packets in memory

`ParseL2TPPacket` with its pointer and its size.  It follows the parser of the bytes that are
left step by step: it never reads behind the datagram, it ends, and it accepts the same packets.
-/

namespace SoftEther
namespace L2tp

open Library Pointer

/-! ## The parser -/

def lengthInMemory (hasLength : Bool) (c : Cursor) : Except ParseFailure Cursor :=
  if hasLength then
    if c.size < 2 then .error .rejected
    else do
      let length ← Pointer.readUSHORT c.data
      let c := c.skip 2
      if c.size < subUINT length 4 then .error .rejected
      else .ok { c with size := subUINT length 4 }
  else .ok c

/-- The reserved field of a data packet of YAMAHA. -/
def reservedInMemory (isYamaha isControl : Bool) (c : Cursor) : Except ParseFailure Cursor :=
  if isYamaha && !isControl then
    if c.size < 2 then .error .rejected else .ok (c.skip 2)
  else .ok c

def idsInMemory (isV3 : Bool) (ret : Packet) (c : Cursor) :
    Except ParseFailure (Packet × Cursor) :=
  if c.size < 4 then .error .rejected
  else if isV3 then do
    let tunnelId ← Pointer.readUINT c.data
    let tunnelId := UInt32.ofNat tunnelId
    .ok ({ ret with
      tunnelId := tunnelId, sessionId := if ret.isControl then 0 else tunnelId }, c.skip 4)
  else do
    let tunnelId ← Pointer.readUSHORT c.data
    let c := c.skip 2
    let sessionId ← Pointer.readUSHORT c.data
    .ok ({ ret with
      tunnelId := (UInt16.ofNat tunnelId).toUInt32
      sessionId := (UInt16.ofNat sessionId).toUInt32 }, c.skip 2)

/-- The sequence numbers of the header. -/
def sequenceInMemory (hasSequence : Bool) (ret : Packet) (c : Cursor) :
    Except ParseFailure (Packet × Cursor) :=
  if hasSequence then
    if c.size < 4 then .error .rejected
    else do
      let ns ← Pointer.readUSHORT c.data
      let c := c.skip 2
      let nr ← Pointer.readUSHORT c.data
      .ok ({ ret with ns := UInt16.ofNat ns, nr := UInt16.ofNat nr }, c.skip 2)
  else .ok (ret, c)

def offsetInMemory (hasOffset : Bool) (c : Cursor) : Except ParseFailure Cursor :=
  if hasOffset then
    if c.size < 2 then .error .rejected
    else do
      let offsetSize ← Pointer.readUSHORT c.data
      let c := c.skip 2
      if c.size < offsetSize then .error .rejected else .ok (c.skip offsetSize)
  else .ok c

/-- The loop over the values.  A loop that does not end in the given number of rounds counts as
one that leaves the memory. -/
def avpListInMemory : Nat → Cursor → Except ParseFailure (List Avp)
  | 0, c => if c.size = 0 then .ok [] else .error .outside
  | fuel + 1, c =>
      if c.size = 0 then .ok []
      else if c.size < 6 then .error .rejected
      else do
        let flags ← readUCHAR c.data
        if flags &&& L2TP_AVP_BIT_HIDDEN ≠ 0 then .error .rejected
        else do
          let lengthAndFlags ← Pointer.readUSHORT c.data
          let length := (UInt16.ofNat lengthAndFlags &&& L2TP_AVP_LENGTH).toNat
          if length < 6 then .error .rejected
          else do
            let c := c.skip 2
            let vendorID ← Pointer.readUSHORT c.data
            let c := c.skip 2
            let type ← Pointer.readUSHORT c.data
            let c := c.skip 2
            let dataSize := length - 6
            if c.size < dataSize then .error .rejected
            else do
              let data ← cloneData c.data dataSize
              let others ← avpListInMemory fuel (c.skip dataSize)
              .ok ({
                mandatory := flags &&& L2TP_AVP_BIT_MANDATORY ≠ 0
                vendorID := UInt16.ofNat vendorID
                type := UInt16.ofNat type
                data := data } :: others)

def messageTypeInMemory (ret : Packet) : Except ParseFailure UInt16 :=
  if ret.isZLB then .ok 0
  else
    match getAVPValue ret L2TP_AVP_TYPE_MESSAGE_TYPE with
    | none => .error .rejected
    | some a =>
        if a.data.length ≠ 2 then .error .rejected
        else do
          let messageType ← Pointer.readUSHORT a.data
          .ok (UInt16.ofNat messageType)

/-- The session of a control packet of L2TPv3. -/
def sessionInMemory (ret : Packet) : Except ParseFailure Packet :=
  if ret.ver = 3 then
    match getAVPValue ret L2TP_AVP_TYPE_V3_SESSION_ID_REMOTE with
    | none => .ok ret
    | some a =>
        if a.data.length = 4 then do
          let sessionId ← Pointer.readUINT a.data
          .ok { ret with sessionId := UInt32.ofNat sessionId }
        else .ok ret
  else .ok ret

/-- The part of `ParseL2TPPacket` behind the session id of L2TPv3. -/
def headerInMemory (isV3 isYamaha : Bool) (c : Cursor) : Except ParseFailure Packet :=
  if c.size < 6 then .error .rejected
  else do
    let flags ← readUCHAR c.data
    let isControl := flags &&& L2TP_HEADER_BIT_TYPE ≠ 0
    let hasLength := flags &&& L2TP_HEADER_BIT_LENGTH ≠ 0
    let hasSequence := flags &&& L2TP_HEADER_BIT_SEQUENCE ≠ 0
    let hasOffset := !isV3 && flags &&& L2TP_HEADER_BIT_OFFSET ≠ 0
    let c := c.skip 1
    let version ← readUCHAR c.data
    let ver := version &&& L2TP_HEADER_BIT_VER
    let c := c.skip 1
    if ver ≠ (if isV3 then 3 else 2) then .error .rejected
    else if isControl ∧ ¬(hasLength ∧ hasSequence) then .error .rejected
    else do
      let c ← lengthInMemory hasLength c
      let c ← reservedInMemory isYamaha isControl c
      let (ret, c) ← idsInMemory isV3
        { isControl := isControl, isYamahaV3 := isYamaha, ver := ver } c
      let (ret, c) ← sequenceInMemory hasSequence ret c
      let c ← offsetInMemory hasOffset c
      let data ← cloneData c.data c.size
      let ret := { ret with data := data }
      if isControl then do
        let avpList ← avpListInMemory c.size c
        let ret := { ret with isZLB := data.length = 0, avpList := avpList }
        let messageType ← messageTypeInMemory ret
        sessionInMemory { ret with messageType := messageType }
      else if data.length = 0 then .error .rejected
      else .ok ret

/-- The packet has the version of L2TPv3. -/
def isVer3InMemory (c : Cursor) : Except ParseFailure Bool :=
  if 2 ≤ c.size then do
    let version ← readUCHAR (c.skip 1).data
    .ok (version &&& L2TP_HEADER_BIT_VER = 3)
  else .ok false

/-- `ParseL2TPPacket` with its pointer and its size. -/
def parseInMemory (p : UdpPacket) : Except ParseFailure Packet := do
  let c : Cursor := { data := p.data, size := p.data.length }
  let isVer3 ← isVer3InMemory c
  if p.srcPort = IPSEC_PORT_L2TPV3_VIRTUAL then
    if c.size < 4 then .error .rejected
    else do
      let sessionId ← Pointer.readUINT c.data
      let sessionId := UInt32.ofNat sessionId
      let c := c.skip 4
      if sessionId ≠ 0 then do
        let data ← cloneData c.data c.size
        .ok { ver := 3, sessionId := sessionId, data := data }
      else headerInMemory true false c
  else headerInMemory isVer3 isVer3 c

/-! ## It follows the parser of the bytes that are left -/

variable {c : Cursor} {buf : List UInt8}

theorem takeUSHORT_of_le (enough : 2 ≤ buf.length) :
    takeUSHORT buf = some (readUSHORT buf, buf.drop 2) :=
  if_neg (Nat.not_lt.mpr enough)

theorem takeUSHORT_of_lt (short : buf.length < 2) : takeUSHORT buf = none :=
  if_pos short

theorem takeUINT_of_le (enough : 4 ≤ buf.length) :
    takeUINT buf = some (UInt32.ofNat (fromBigEndian (buf.take 4)), buf.drop 4) :=
  if_neg (Nat.not_lt.mpr enough)

theorem takeUINT_of_lt (short : buf.length < 4) : takeUINT buf = none :=
  if_pos short

theorem takeUSHORT_twice_of_lt
    {Value : Type}
    {next : UInt16 × List UInt8 → UInt16 × List UInt8 → Option Value}
    (short : buf.length < 4) :
    ((takeUSHORT buf).bind fun taken => (takeUSHORT taken.2).bind (next taken)) = none := by
  by_cases enough : 2 ≤ buf.length
  · rw [takeUSHORT_of_le enough, Option.bind_some, takeUSHORT_of_lt, Option.bind_none]
    rw [List.length_drop]
    omega
  · rw [takeUSHORT_of_lt (Nat.not_le.mp enough), Option.bind_none]

theorem toNat_readUSHORT (enough : 2 ≤ buf.length) :
    (readUSHORT buf).toNat = fromBigEndian (buf.take 2) := by
  have bound := fromBigEndian_lt (buf.take 2)
  rw [List.length_take, Nat.min_eq_left enough] at bound
  exact UInt16.toNat_ofNat_of_lt' bound

theorem follows_length
    (shows : c.Shows buf)
    (less : buf.length + 2 < X32)
    (hasLength : Bool) :
    Follows Cursor.Shows (lengthInMemory hasLength c) (parseLength hasLength buf) := by
  have size := shows.size_eq
  unfold lengthInMemory parseLength
  apply Follows.ite Iff.rfl
  · intro _
    by_cases short : buf.length < 2
    · rw [if_pos (size ▸ short), takeUSHORT_of_lt short]
      exact .rejected
    · have enough : 2 ≤ buf.length := Nat.not_lt.mp short
      have behind := shows.skip enough
      have left := behind.size_eq
      rw [if_neg (size ▸ short), takeUSHORT_of_le enough, shows.readUSHORT enough, ok_bind]
      change Follows _ _ (if _ then _ else _)
      rw [toNat_readUSHORT enough]
      have small : fromBigEndian (buf.take 2) < 65536 := by
        rw [← toNat_readUSHORT enough]
        exact UInt16.toNat_lt _
      generalize fromBigEndian (buf.take 2) = length at small ⊢
      have limit : 65536 < X32 := by decide
      by_cases wraps : length < 4
      · have more : buf.length < subUINT length 4 + 2 := by
          unfold subUINT X32 at *
          omega
        have cut : (buf.drop 2).length = buf.length - 2 := List.length_drop
        rw [if_pos (by omega), if_pos (Or.inl wraps)]
        exact .rejected
      · have ordinary : subUINT length 4 = length - 4 := subUINT_of_le (by omega) (by omega)
        rw [ordinary]
        by_cases tooLong : (buf.drop 2).length < length - 4
        · rw [if_pos (left ▸ tooLong), if_pos (Or.inr tooLong)]
          exact .rejected
        · rw [if_neg (left ▸ tooLong), if_neg (not_or.mpr ⟨wraps, tooLong⟩)]
          exact .accepted (behind.shorten (Nat.not_lt.mp tooLong))
  · intro _
    exact .accepted shows

theorem follows_reserved (shows : c.Shows buf) (isYamaha isControl : Bool) :
    Follows Cursor.Shows (reservedInMemory isYamaha isControl c)
      (parseReserved isYamaha isControl buf) := by
  have size := shows.size_eq
  unfold reservedInMemory parseReserved
  apply Follows.ite Iff.rfl
  · intro _
    by_cases short : buf.length < 2
    · rw [if_pos (size ▸ short), takeUSHORT_of_lt short]
      exact .rejected
    · have enough : 2 ≤ buf.length := Nat.not_lt.mp short
      rw [if_neg (size ▸ short), takeUSHORT_of_le enough]
      exact .accepted (shows.skip enough)
  · intro _
    exact .accepted shows

theorem follows_ids (shows : c.Shows buf) (isV3 : Bool) (ret : Packet) :
    Follows Cursor.TakesAs (idsInMemory isV3 ret c) (parseIds isV3 ret buf) := by
  have size := shows.size_eq
  unfold idsInMemory parseIds
  by_cases short : buf.length < 4
  · rw [if_pos (size ▸ short), takeUINT_of_lt short]
    cases isV3 with
    | true => exact .rejected
    | false =>
        rw [if_neg Bool.false_ne_true]
        change Follows _ _ ((takeUSHORT buf).bind fun taken =>
          (takeUSHORT taken.2).bind _)
        rw [takeUSHORT_twice_of_lt short]
        exact .rejected
  · have enough : 4 ≤ buf.length := Nat.not_lt.mp short
    rw [if_neg (size ▸ short)]
    cases isV3 with
    | true =>
        rw [takeUINT_of_le enough, shows.readUINT enough]
        exact .accepted ⟨rfl, shows.skip enough⟩
    | false =>
        have second : 2 ≤ (buf.drop 2).length := by
          rw [List.length_drop]
          omega
        have behind := shows.skip (show 2 ≤ buf.length by omega)
        rw [takeUSHORT_of_le (by omega), shows.readUSHORT (by omega)]
        rw [if_neg Bool.false_ne_true, if_neg Bool.false_ne_true]
        simp only [ok_bind, Option.bind_eq_bind, Option.bind_some]
        rw [takeUSHORT_of_le second, behind.readUSHORT second]
        exact .accepted ⟨rfl, behind.skip second⟩

theorem follows_sequence (shows : c.Shows buf) (hasSequence : Bool) (ret : Packet) :
    Follows Cursor.TakesAs (sequenceInMemory hasSequence ret c)
      (parseSequence hasSequence ret buf) := by
  have size := shows.size_eq
  unfold sequenceInMemory parseSequence
  apply Follows.ite Iff.rfl
  · intro _
    by_cases short : buf.length < 4
    · rw [if_pos (size ▸ short)]
      change Follows _ _ ((takeUSHORT buf).bind fun taken => (takeUSHORT taken.2).bind _)
      rw [takeUSHORT_twice_of_lt short]
      exact .rejected
    · have second : 2 ≤ (buf.drop 2).length := by
        rw [List.length_drop]
        omega
      have behind := shows.skip (show 2 ≤ buf.length by omega)
      rw [if_neg (size ▸ short), takeUSHORT_of_le (by omega), shows.readUSHORT (by omega)]
      simp only [ok_bind, Option.bind_eq_bind, Option.bind_some]
      rw [takeUSHORT_of_le second, behind.readUSHORT second]
      exact .accepted ⟨rfl, behind.skip second⟩
  · intro _
    exact .accepted ⟨rfl, shows⟩

theorem follows_offset (shows : c.Shows buf) (hasOffset : Bool) :
    Follows Cursor.Shows (offsetInMemory hasOffset c) (parseOffset hasOffset buf) := by
  have size := shows.size_eq
  unfold offsetInMemory parseOffset
  apply Follows.ite Iff.rfl
  · intro _
    by_cases short : buf.length < 2
    · rw [if_pos (size ▸ short), takeUSHORT_of_lt short]
      exact .rejected
    · have enough : 2 ≤ buf.length := Nat.not_lt.mp short
      have behind := shows.skip enough
      have left := behind.size_eq
      have offset : (readUSHORT buf).toNat = fromBigEndian (buf.take 2) :=
        toNat_readUSHORT enough
      rw [if_neg (size ▸ short), takeUSHORT_of_le enough, shows.readUSHORT enough, ok_bind]
      change Follows _ _ (if _ then _ else _)
      rw [offset]
      apply Follows.ite (by rw [left])
      · intro _
        exact .rejected
      · intro inside
        exact .accepted (behind.skip (Nat.not_lt.mp (left ▸ inside)))
  · intro _
    exact .accepted shows

/-- The rounds do not run out: every round takes at least six bytes. -/
theorem follows_avpList
    {fuel : Nat}
    (shows : c.Shows buf)
    (enough : buf.length ≤ fuel) :
    Follows Eq (avpListInMemory fuel c) (parseAvpList fuel buf) := by
  induction fuel generalizing c buf with
  | zero =>
      have empty : buf = [] := List.eq_nil_of_length_eq_zero (by omega)
      have size : c.size = 0 := by rw [shows.size_eq, empty, List.length_nil]
      rw [avpListInMemory, parseAvpList, if_pos size, if_pos empty]
      exact .accepted rfl
  | succ fuel inductionHypothesis =>
      have size := shows.size_eq
      rw [avpListInMemory, parseAvpList]
      apply Follows.ite (by rw [size, List.length_eq_zero_iff])
      · intro _
        exact .accepted rfl
      intro _
      apply Follows.ite (by rw [size])
      · intro _
        exact .rejected
      intro header
      have six : 6 ≤ buf.length := by omega
      have two := shows.skip (show 2 ≤ buf.length by omega)
      have four : ((c.skip 2).skip 2).Shows (buf.drop 4) := by
        have behind := two.skip (show 2 ≤ _ by rw [List.length_drop]; omega)
        rwa [List.drop_drop] at behind
      have data : (((c.skip 2).skip 2).skip 2).Shows (buf.drop 6) := by
        have behind := four.skip (show 2 ≤ _ by rw [List.length_drop]; omega)
        rwa [List.drop_drop] at behind
      have left := data.size_eq
      have number : UInt16.ofNat (fromBigEndian (buf.take 2)) = readUSHORT buf := rfl
      rw [shows.readUCHAR (by omega), shows.readUSHORT (by omega), ok_bind, ok_bind, number]
      dsimp only
      generalize buf.getD 0 0 = flags
      generalize (readUSHORT buf &&& L2TP_AVP_LENGTH).toNat = length
      by_cases hidden : flags &&& L2TP_AVP_BIT_HIDDEN ≠ 0
      · rw [if_pos hidden, if_pos (Or.inl hidden)]
        exact .rejected
      by_cases tooShort : length < 6
      · rw [if_neg hidden, if_pos tooShort, if_pos (Or.inr (Or.inl tooShort))]
        exact .rejected
      rw [if_neg hidden, if_neg tooShort, two.readUSHORT (by rw [List.length_drop]; omega),
        four.readUSHORT (by rw [List.length_drop]; omega), ok_bind, ok_bind, left]
      have cut : (buf.drop 6).length = buf.length - 6 := List.length_drop
      rw [cut]
      by_cases tooLong : buf.length < length
      · rw [if_pos (by omega), if_pos (Or.inr (Or.inr tooLong))]
        exact .rejected
      rw [if_neg (by omega), if_neg (not_or.mpr ⟨hidden, not_or.mpr ⟨tooShort, tooLong⟩⟩)]
      have inside : length - 6 ≤ (buf.drop 6).length := by omega
      have behind := data.skip inside
      have place : 6 + (length - 6) = length := by omega
      rw [List.drop_drop, place] at behind
      rw [cloneData, data.readItems inside, ok_bind]
      apply (inductionHypothesis behind (by rw [List.length_drop]; omega)).bind
      intro others also same
      rw [same]
      exact .accepted rfl

theorem follows_messageType (ret : Packet) :
    Follows Eq (messageTypeInMemory ret)
      (if ret.isZLB then some 0
        else (getAVPValue ret L2TP_AVP_TYPE_MESSAGE_TYPE).bind fun a =>
          if a.data.length ≠ 2 then none else some (readUSHORT a.data)) := by
  unfold messageTypeInMemory
  apply Follows.ite Iff.rfl
  · intro _
    exact .accepted rfl
  intro _
  cases getAVPValue ret L2TP_AVP_TYPE_MESSAGE_TYPE with
  | none => exact .rejected
  | some a =>
      rw [Option.bind_some]
      apply Follows.ite Iff.rfl
      · intro _
        exact .rejected
      · intro two
        have length : a.data.length = 2 := not_not.mp two
        rw [Pointer.readUSHORT, readItems_of_le (by omega)]
        exact .accepted rfl

theorem sessionInMemory_eq (ret : Packet) :
    sessionInMemory ret = .ok (if ret.ver = 3 then
      { ret with
        sessionId := (readId true (getAVPValue ret L2TP_AVP_TYPE_V3_SESSION_ID_REMOTE)).getD
          ret.sessionId }
      else ret) := by
  unfold sessionInMemory
  by_cases isV3 : ret.ver = 3
  · rw [if_pos isV3, if_pos isV3]
    cases getAVPValue ret L2TP_AVP_TYPE_V3_SESSION_ID_REMOTE with
    | none => rfl
    | some a =>
        by_cases four : a.data.length = 4
        · have number : Pointer.readUINT a.data = .ok (fromBigEndian a.data) := by
            rw [Pointer.readUINT, ← four, readItems_self]
            rfl
          simp [readId, four, number]
        · simp [readId, four]
  · rw [if_neg isV3, if_neg isV3]

theorem follows_message (ret : Packet) :
    Follows Eq
      (messageTypeInMemory ret >>= fun messageType =>
        sessionInMemory { ret with messageType := messageType })
      (parseMessage ret) := by
  rw [parseMessage_eq]
  apply (follows_messageType ret).bind
  intro messageType also same
  rw [same, sessionInMemory_eq]
  exact .accepted rfl

theorem follows_header
    (shows : c.Shows buf)
    (isV3 isYamaha : Bool) :
    Follows Eq (headerInMemory isV3 isYamaha c) (parseHeader isV3 isYamaha buf) := by
  have size := shows.size_eq
  unfold headerInMemory parseHeader
  apply Follows.ite (by rw [size])
  · intro _
    exact .rejected
  intro header
  have six : 6 ≤ buf.length := by omega
  have one := shows.skip (show 1 ≤ buf.length by omega)
  have two : ((c.skip 1).skip 1).Shows (buf.drop 2) := by
    have behind := one.skip (show 1 ≤ _ by rw [List.length_drop]; omega)
    rwa [List.drop_drop] at behind
  have version : (buf.drop 1).getD 0 0 = buf.getD 1 0 := by
    simp [List.getD]
  rw [shows.readUCHAR (by omega), ok_bind]
  dsimp only
  rw [one.readUCHAR (by rw [List.length_drop]; omega), ok_bind, version]
  apply Follows.ite Iff.rfl
  · intro _
    exact .rejected
  intro _
  apply Follows.ite Iff.rfl
  · intro _
    exact .rejected
  intro _
  have small := shows.small
  have within := shows.within
  apply (follows_length two (by rw [List.length_drop]; omega) _).bind
  intro c buf shows
  apply (follows_reserved shows _ _).bind
  intro c buf shows
  apply (follows_ids shows _ _).bind
  rintro ⟨ret, c⟩ ⟨also, buf⟩ ⟨same, shows⟩
  cases same
  apply (follows_sequence shows _ _).bind
  rintro ⟨ret, c⟩ ⟨also, buf⟩ ⟨same, shows⟩
  cases same
  apply (follows_offset shows _).bind
  intro c buf shows
  rw [shows.cloneData, ok_bind]
  have empty : decide (buf.length = 0) = decide (buf = []) :=
    decide_eq_decide.mpr List.length_eq_zero_iff
  apply Follows.ite Iff.rfl
  · intro _
    rw [shows.size_eq, empty]
    apply (follows_avpList shows (Nat.le_refl _)).bind
    intro avpList others same
    rw [same]
    exact follows_message _
  intro _
  apply Follows.ite List.length_eq_zero_iff
  · intro _
    exact .rejected
  · intro _
    exact .accepted rfl

theorem isVer3InMemory_eq (shows : c.Shows buf) :
    isVer3InMemory c = .ok (2 ≤ buf.length && buf.getD 1 0 &&& L2TP_HEADER_BIT_VER = 3) := by
  unfold isVer3InMemory
  rw [shows.size_eq]
  by_cases long : 2 ≤ buf.length
  · have second := (shows.skip (show 1 ≤ buf.length by omega)).readUCHAR
      (by rw [List.length_drop]; omega)
    have same : (buf.drop 1).getD 0 0 = buf.getD 1 0 := by
      simp [List.getD]
    rw [if_pos long, second, ok_bind, same, decide_eq_true long, Bool.true_and]
  · rw [if_neg long, decide_eq_false long, Bool.false_and]

theorem parseInMemory_eq
    {p : UdpPacket}
    (small : p.data.length < X32) :
    parseInMemory p = (parseL2TPPacket p).elim (.error .rejected) .ok := by
  apply Follows.eq
  have shows := Cursor.Shows.start small
  unfold parseInMemory parseL2TPPacket
  dsimp only
  rw [isVer3InMemory_eq shows, ok_bind]
  apply Follows.ite Iff.rfl
  · intro _
    by_cases short : p.data.length < 4
    · rw [if_pos short, takeUINT_of_lt short]
      exact .rejected
    have enough : 4 ≤ p.data.length := Nat.not_lt.mp short
    have behind := shows.skip enough
    rw [if_neg short, takeUINT_of_le enough, shows.readUINT enough, ok_bind]
    change Follows Eq _ (if _ then _ else _)
    apply Follows.ite Iff.rfl
    · intro _
      rw [behind.cloneData]
      exact .accepted rfl
    · intro _
      exact follows_header behind true false
  · intro _
    exact follows_header shows _ _

end L2tp
end SoftEther
