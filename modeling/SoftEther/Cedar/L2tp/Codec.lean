import SoftEther.Cedar.L2tp.Defs
import SoftEther.Cedar.L2tp.Memory
import SoftEther.Mayaqua.Memory

/-!
# L2TP packets as bytes

`BuildL2TPPacketData`, `SendL2TPControlPacketMain` and `SendL2TPDataPacket` down to the bytes of
the datagram, and what `ParseL2TPPacket` makes of them.  L2TPv3 has no session id in the header
of a control packet: it stands in a value that the builder adds.
-/

namespace SoftEther
namespace L2tp

open Network

/-- A value of a control packet; the flag for a mandatory one is set in the first byte of the
length. -/
def avpBytes (a : Avp) : List UInt8 :=
  let us := bigEndian 2 (a.data.length + 6)
  let flags := if a.mandatory then L2TP_AVP_BIT_MANDATORY else 0
  [us.getD 0 0 ||| flags, us.getD 1 0] ++ ushortBytes a.vendorID ++ ushortBytes a.type ++ a.data

def headerFlags (isYamahaV3 : Bool) (pp : Packet) : UInt8 :=
  if pp.isControl then
    L2TP_HEADER_BIT_TYPE ||| L2TP_HEADER_BIT_LENGTH ||| L2TP_HEADER_BIT_SEQUENCE
  else if pp.ver = 3 ∧ isYamahaV3 then 0
  else L2TP_HEADER_BIT_OFFSET

def headerIds (pp : Packet) : List UInt8 :=
  if pp.ver = 3 then uintBytes pp.tunnelId
  else ushortBytes pp.tunnelId.toUInt16 ++ ushortBytes pp.sessionId.toUInt16

/-- The zero in place of a session id, in front of a control packet of L2TPv3 that is not one of
YAMAHA. -/
def zeroSessionId (isYamahaV3 : Bool) (pp : Packet) : List UInt8 :=
  if pp.ver = 3 ∧ isYamahaV3 = false then [0, 0, 0, 0] else []

/-- What `BuildL2TPPacketData` writes of a packet that has all its values. -/
def packetBytes (isYamahaV3 : Bool) (pp : Packet) : List UInt8 :=
  let session := zeroSessionId isYamahaV3 pp
  let start := session ++ [headerFlags isYamahaV3 pp, if pp.ver = 3 then 3 else 2]
  if pp.isControl then
    let ret := start ++ [0, 0] ++ headerIds pp ++ ushortBytes pp.ns ++ ushortBytes pp.nr ++
      pp.avpList.flatMap avpBytes
    copyAt ret (2 + session.length) (bigEndian 2 (ret.length - session.length))
  else if pp.ver = 3 ∧ isYamahaV3 then start ++ [0, 0] ++ headerIds pp ++ pp.data
  else start ++ headerIds pp ++ [0, 0] ++ pp.data

/-- The bytes of `BuildL2TPPacketData`. -/
def builtBytes (t : Tunnel) (pp : Packet) : List UInt8 :=
  packetBytes t.isYamahaV3 (buildL2TPPacketData pp)

/-- The bytes of `SendL2TPControlPacketMain`: the number of the packet that was received last is
written anew. -/
def controlPacketBytes (t : Tunnel) (buf : List UInt8) : List UInt8 :=
  copyAt buf (if t.serverPort = IPSEC_PORT_L2TPV3_VIRTUAL then 14 else 10)
    (ushortBytes (t.lastNr + 1))

/-- The bytes of `SendL2TPDataPacket`. -/
def dataPacketBytes (t : Tunnel) (s : Session) (data : List UInt8) : List UInt8 :=
  if s.isV3 = false then
    [0x40, 0x02] ++ bigEndian 2 (8 + data.length) ++ ushortBytes t.tunnelId1.toUInt16 ++
      ushortBytes s.sessionId1.toUInt16 ++ data
  else if t.isYamahaV3 = false then uintBytes s.sessionId1 ++ data
  else uintBytes 0x00030000 ++ uintBytes s.sessionId1 ++ data

/-- The port that the packets of `SendL2TPDataPacket` come from. -/
def dataPacketPort (t : Tunnel) (s : Session) : Nat :=
  if s.isV3 ∧ t.isYamahaV3 = false then IPSEC_PORT_L2TPV3_VIRTUAL else t.serverPort

/-- The datagram of `SendL2TPDataPacket`. -/
def dataDatagram (t : Tunnel) (s : Session) (data : List UInt8) : UdpPacket where
  srcIP := t.serverIp
  srcPort := dataPacketPort t s
  dstIP := t.clientIp
  destPort :=
    if s.isV3 ∧ t.isYamahaV3 = false then IPSEC_PORT_L2TPV3_VIRTUAL else t.clientPort
  data := dataPacketBytes t s data

@[simp] theorem length_ushortBytes (value : UInt16) : (ushortBytes value).length = 2 :=
  length_bigEndian 2 value.toNat

@[simp] theorem length_uintBytes (value : UInt32) : (uintBytes value).length = 4 :=
  length_bigEndian 4 value.toNat

theorem readUSHORT_bigEndian (value : Nat) (rest : List UInt8) :
    readUSHORT (bigEndian 2 value ++ rest) = UInt16.ofNat value := by
  have bytes := foldl_bigEndian 2 value 0
  rw [Nat.zero_mul, Nat.zero_add] at bytes
  have number : fromBigEndian (bigEndian 2 value) = value % 65536 := bytes
  rw [readUSHORT, List.take_left' (length_bigEndian 2 value), number]
  exact UInt16.toNat_inj.mp (by simp)

@[simp] theorem readUSHORT_ushortBytes (value : UInt16) (rest : List UInt8) :
    readUSHORT (ushortBytes value ++ rest) = value := by
  rw [ushortBytes, readUSHORT_bigEndian, UInt16.ofNat_toNat]

theorem takeUSHORT_bigEndian (value : Nat) (rest : List UInt8) :
    takeUSHORT (bigEndian 2 value ++ rest) = some (UInt16.ofNat value, rest) := by
  have long : ¬(bigEndian 2 value ++ rest).length < 2 := by
    rw [List.length_append, length_bigEndian]
    omega
  rw [takeUSHORT, if_neg long, readUSHORT_bigEndian,
    List.drop_left' (length_bigEndian 2 value)]

@[simp] theorem takeUSHORT_ushortBytes (value : UInt16) (rest : List UInt8) :
    takeUSHORT (ushortBytes value ++ rest) = some (value, rest) := by
  rw [ushortBytes, takeUSHORT_bigEndian, UInt16.ofNat_toNat]

theorem fromBigEndian_uintBytes (value : UInt32) :
    fromBigEndian (uintBytes value) = value.toNat :=
  fromBigEndian_bigEndian value.toNat_lt

@[simp] theorem takeUINT_uintBytes (value : UInt32) (rest : List UInt8) :
    takeUINT (uintBytes value ++ rest) = some (value, rest) := by
  have long : ¬(uintBytes value ++ rest).length < 4 := by
    rw [List.length_append, length_uintBytes]
    omega
  rw [takeUINT, if_neg long, List.take_left' (length_uintBytes value),
    List.drop_left' (length_uintBytes value), fromBigEndian_uintBytes, UInt32.ofNat_toNat]

theorem readId_uintBytes (mandatory : Bool) (vendorId type : UInt16) (value : UInt32) :
    readId true (some (newAVP type mandatory vendorId (uintBytes value))) = some value := by
  simp [readId, newAVP, fromBigEndian_uintBytes]

/-! ## The values of a control packet -/

/-- A value whose length fits its field. -/
def Avp.Fits (a : Avp) : Prop :=
  a.data.length ≤ 1017

theorem length_avpBytes (a : Avp) : (avpBytes a).length = a.data.length + 6 := by
  simp [avpBytes]
  omega

theorem length_flatMap_avpBytes (avpList : List Avp) :
    avpList.length ≤ (avpList.flatMap avpBytes).length := by
  induction avpList with
  | nil => simp
  | cons a avpList inductionHypothesis =>
      rw [List.flatMap_cons, List.length_append, length_avpBytes, List.length_cons]
      omega

theorem lengthByte_flags :
    ∀ high < 4, ∀ mandatory : Bool,
      let byte := UInt8.ofNat high ||| (if mandatory then L2TP_AVP_BIT_MANDATORY else 0)
      byte &&& L2TP_AVP_BIT_HIDDEN = 0 ∧
        decide (byte &&& L2TP_AVP_BIT_MANDATORY ≠ 0) = mandatory ∧ byte.toNat % 4 = high := by
  decide +kernel

theorem length_under_flags
    {high low : UInt8}
    {size : Nat}
    (isHigh : high.toNat % 4 = size / 256)
    (isLow : low = UInt8.ofNat size)
    (fits : size < 1024)
    (rest : List UInt8) :
    (readUSHORT (high :: low :: rest) &&& L2TP_AVP_LENGTH).toNat = size := by
  have number : fromBigEndian [high, low] = high.toNat * 256 + low.toNat := by
    simp [fromBigEndian]
  have lowValue : low.toNat = size % 256 := by
    rw [isLow]
    exact UInt8.toNat_ofNat'
  have mask : (L2TP_AVP_LENGTH).toNat = 2 ^ 10 - 1 := by decide
  rw [readUSHORT, show (high :: low :: rest).take 2 = [high, low] from rfl, number,
    UInt16.toNat_and, mask, Nat.and_two_pow_sub_one_eq_mod, UInt16.toNat_ofNat']
  have highValue := high.toNat_lt
  omega

theorem parseAvpList_cons
    {a : Avp}
    (fits : a.Fits)
    (fuel : Nat)
    (rest : List UInt8) :
    parseAvpList (fuel + 1) (avpBytes a ++ rest) =
      (parseAvpList fuel rest).map fun others => a :: others := by
  have small : a.data.length + 6 < 1024 := Nat.lt_of_le_of_lt (Nat.add_le_add_right fits 6)
    (by decide)
  have total : (avpBytes a ++ rest).length = a.data.length + 6 + rest.length := by
    rw [List.length_append, length_avpBytes]
  have notEmpty : avpBytes a ++ rest ≠ [] := by
    intro empty
    rw [empty, List.length_nil] at total
    omega
  obtain ⟨notHidden, mandatory, isHigh⟩ :=
    lengthByte_flags ((a.data.length + 6) / 256) (by omega) a.mandatory
  generalize highIs : UInt8.ofNat ((a.data.length + 6) / 256) |||
    (if a.mandatory then L2TP_AVP_BIT_MANDATORY else 0) = high at notHidden mandatory isHigh
  have front : avpBytes a ++ rest = high :: UInt8.ofNat (a.data.length + 6) ::
      (ushortBytes a.vendorID ++ (ushortBytes a.type ++ (a.data ++ rest))) := by
    rw [← highIs]
    simp [avpBytes, bigEndian]
  have length : (readUSHORT (avpBytes a ++ rest) &&& L2TP_AVP_LENGTH).toNat =
      a.data.length + 6 := by
    rw [front]
    exact length_under_flags isHigh rfl small _
  have behind : (avpBytes a ++ rest).drop (a.data.length + 6) = rest :=
    List.drop_left' (length_avpBytes a)
  have vendor : (avpBytes a ++ rest).drop 2 =
      ushortBytes a.vendorID ++ (ushortBytes a.type ++ (a.data ++ rest)) := by
    rw [front]
    rfl
  have type : (avpBytes a ++ rest).drop 4 = ushortBytes a.type ++ (a.data ++ rest) := by
    rw [show 4 = 2 + 2 from rfl, ← List.drop_drop, vendor,
      List.drop_left' (length_ushortBytes _)]
  have data : (avpBytes a ++ rest).drop 6 = a.data ++ rest := by
    rw [show 6 = 4 + 2 from rfl, ← List.drop_drop, type, List.drop_left' (length_ushortBytes _)]
  have flags : (avpBytes a ++ rest).getD 0 0 = high := by
    rw [front]
    rfl
  have accepted : ¬(high &&& L2TP_AVP_BIT_HIDDEN ≠ 0 ∨ a.data.length + 6 < 6 ∨
      (avpBytes a ++ rest).length < a.data.length + 6) := by
    rw [total]
    rintro (hidden | short | short)
    · exact hidden notHidden
    · omega
    · omega
  rw [parseAvpList, if_neg notEmpty, if_neg (by omega), flags, length]
  dsimp only
  rw [if_neg accepted, behind, vendor, type, data, readUSHORT_ushortBytes,
    readUSHORT_ushortBytes, Nat.add_sub_cancel, List.take_left, mandatory]
  cases parseAvpList fuel rest with
  | none => rfl
  | some others => rfl

/-- The values that were written are read. -/
theorem parseAvpList_flatMap
    {avpList : List Avp}
    (fits : ∀ a ∈ avpList, a.Fits)
    {fuel : Nat}
    (enough : avpList.length ≤ fuel) :
    parseAvpList fuel (avpList.flatMap avpBytes) = some avpList := by
  induction avpList generalizing fuel with
  | nil =>
      cases fuel with
      | zero => rfl
      | succ fuel => rfl
  | cons a avpList inductionHypothesis =>
      cases fuel with
      | zero => exact absurd enough (by simp)
      | succ fuel =>
          have rest := inductionHypothesis
            (fun other listed => fits other (List.mem_cons_of_mem a listed))
            (Nat.le_of_succ_le_succ enough)
          rw [List.flatMap_cons, parseAvpList_cons (fits a List.mem_cons_self), rest]
          rfl

/-! ## Control packets -/

/-- The header of a control packet behind its length. -/
def controlBody (pp : Packet) : List UInt8 :=
  headerIds pp ++ ushortBytes pp.ns ++ ushortBytes pp.nr ++ pp.avpList.flatMap avpBytes

variable {pp : Packet} {t : Tunnel} {p : UdpPacket} {data : List UInt8}

theorem packetBytes_control
    (control : pp.isControl = true)
    (isYamahaV3 : Bool) :
    packetBytes isYamahaV3 pp =
      zeroSessionId isYamahaV3 pp ++ [0xC8, if pp.ver = 3 then 3 else 2] ++
        bigEndian 2 ((controlBody pp).length + 4) ++ controlBody pp := by
  have flags : headerFlags isYamahaV3 pp = 0xC8 := by
    rw [headerFlags, if_pos control]
    rfl
  unfold packetBytes
  dsimp only
  rw [if_pos control, flags]
  generalize zeroSessionId isYamahaV3 pp = session
  generalize (if pp.ver = 3 then (3 : UInt8) else 2) = ver
  have shape : session ++ [0xC8, ver] ++ [0, 0] ++ headerIds pp ++ ushortBytes pp.ns ++
      ushortBytes pp.nr ++ pp.avpList.flatMap avpBytes =
      (session ++ [0xC8, ver]) ++ ([0, 0] ++ controlBody pp) := by
    simp [controlBody]
  have length : ((session ++ [0xC8, ver]) ++ ([0, 0] ++ controlBody pp)).length -
      session.length = (controlBody pp).length + 4 := by
    simp
  have place : 2 + session.length = (session ++ [0xC8, ver]).length := by
    simp [Nat.add_comm]
  rw [shape, length, copyAt, length_bigEndian, place, List.take_left, ← List.drop_drop,
    List.drop_left]
  simp

theorem parseIds_headerIds
    {pp ret : Packet}
    (control : ret.isControl = true)
    (small : pp.ver ≠ 3 → pp.tunnelId.toNat < 65536 ∧ pp.sessionId.toNat < 65536)
    (rest : List UInt8) :
    parseIds (pp.ver = 3) ret (headerIds pp ++ rest) =
      some ({ ret with
        tunnelId := pp.tunnelId
        sessionId := if pp.ver = 3 then 0 else pp.sessionId }, rest) := by
  have narrow : ∀ id : UInt32, id.toNat < 65536 → id.toUInt16.toUInt32 = id := by
    intro id fits
    apply UInt32.toNat_inj.mp
    simp
    omega
  unfold parseIds headerIds
  by_cases isV3 : pp.ver = 3
  · simp [isV3, control]
  · obtain ⟨tunnel, session⟩ := small isV3
    simp [isV3, narrow _ tunnel, narrow _ session]

/-- What the parser makes of a control packet. -/
def receivedControl (isYamaha : Bool) (pp : Packet) : Packet where
  isControl := true
  isYamahaV3 := isYamaha
  ver := pp.ver
  tunnelId := pp.tunnelId
  sessionId :=
    if pp.ver = 3 then
      (readId true (getAVPValue pp L2TP_AVP_TYPE_V3_SESSION_ID_REMOTE)).getD 0
    else pp.sessionId
  ns := pp.ns
  nr := pp.nr
  data := pp.avpList.flatMap avpBytes
  avpList := pp.avpList
  messageType := pp.messageType

def MessageTypeFirst (pp : Packet) : Prop :=
  ∃ mandatory rest, pp.avpList =
    newAVP L2TP_AVP_TYPE_MESSAGE_TYPE mandatory 0 (ushortBytes pp.messageType) :: rest

theorem getAVPValue_of_avpList
    {first second : Packet}
    (same : first.avpList = second.avpList)
    (type : UInt16) :
    getAVPValue first type = getAVPValue second type := by
  unfold getAVPValue getAVPValueEx findAVP
  rw [same]

theorem getAVPValue_of_findAVP
    {p : Packet}
    {type : UInt16}
    {a : Avp}
    (found : findAVP p type 0 = some a) :
    getAVPValue p type = some a := by
  rw [getAVPValue, getAVPValueEx, found]

theorem findAVP_of_getAVPValue
    {p : Packet}
    {type : UInt16}
    (none_found : getAVPValue p type = none) :
    findAVP p type 0 = none := by
  cases found : findAVP p type 0 with
  | none => rfl
  | some a => exact nomatch (getAVPValue_of_findAVP found).symm.trans none_found

theorem parseMessage_of_first
    {pp ret : Packet}
    (first : MessageTypeFirst pp)
    (same : ret.avpList = pp.avpList)
    (notZLB : ret.isZLB = false) :
    parseMessage ret = some { ret with
      messageType := pp.messageType
      sessionId :=
        if ret.ver = 3 then
          (readId true (getAVPValue pp L2TP_AVP_TYPE_V3_SESSION_ID_REMOTE)).getD ret.sessionId
        else ret.sessionId } := by
  obtain ⟨mandatory, others, avpList⟩ := first
  have found : getAVPValue ret L2TP_AVP_TYPE_MESSAGE_TYPE =
      some (newAVP L2TP_AVP_TYPE_MESSAGE_TYPE mandatory 0 (ushortBytes pp.messageType)) := by
    rw [getAVPValue, getAVPValueEx, findAVP, same, avpList]
    rfl
  have message : readUSHORT (ushortBytes pp.messageType) = pp.messageType := by
    have read := readUSHORT_ushortBytes pp.messageType []
    rwa [List.append_nil] at read
  rw [parseMessage_eq, notZLB, found, getAVPValue_of_avpList same, if_neg Bool.false_ne_true,
    Option.bind_some]
  simp only [newAVP, length_ushortBytes, message, ne_eq, not_true_eq_false, if_false,
    Option.bind_some]
  by_cases isV3 : ret.ver = 3
  · rw [if_pos isV3, if_pos isV3]
  · rw [if_neg isV3, if_neg isV3]

theorem parseHeader_control
    (version : pp.ver = 2 ∨ pp.ver = 3)
    (fits : ∀ a ∈ pp.avpList, a.Fits)
    (first : MessageTypeFirst pp)
    (short : (controlBody pp).length + 4 < 65536)
    (small : pp.ver ≠ 3 → pp.tunnelId.toNat < 65536 ∧ pp.sessionId.toNat < 65536)
    (isYamaha : Bool) :
    parseHeader (pp.ver = 3) isYamaha
        ([0xC8, if pp.ver = 3 then 3 else 2] ++ bigEndian 2 ((controlBody pp).length + 4) ++
          controlBody pp) =
      some (receivedControl isYamaha pp) := by
  have notEmpty : pp.avpList.flatMap avpBytes ≠ [] := by
    obtain ⟨mandatory, others, avpList⟩ := first
    intro empty
    have none_left := congrArg List.length empty
    rw [avpList, List.flatMap_cons, List.length_append, length_avpBytes, List.length_nil]
      at none_left
    omega
  have values : parseAvpList (pp.avpList.flatMap avpBytes).length
      (pp.avpList.flatMap avpBytes) = some pp.avpList :=
    parseAvpList_flatMap fits (length_flatMap_avpBytes _)
  have length : (UInt16.ofNat ((controlBody pp).length + 4)).toNat = (controlBody pp).length + 4 :=
    UInt16.toNat_ofNat_of_lt' short
  have ver : (if pp.ver = 3 then (3 : UInt8) else 2) = pp.ver := by
    obtain two | three := version
    · rw [two]
      rfl
    · rw [three]
      rfl
  have verBits : pp.ver &&& L2TP_HEADER_BIT_VER = pp.ver := by
    obtain two | three := version
    · rw [two]
      rfl
    · rw [three]
      rfl
  have front : [0xC8, if pp.ver = 3 then 3 else 2] ++ bigEndian 2 ((controlBody pp).length + 4) ++
      controlBody pp =
      0xC8 :: pp.ver :: (bigEndian 2 ((controlBody pp).length + 4) ++ controlBody pp) := by
    rw [ver]
    rfl
  have long : ¬(0xC8 :: pp.ver :: (bigEndian 2 ((controlBody pp).length + 4) ++
      controlBody pp)).length < 6 := by
    simp [length_bigEndian, controlBody]
    omega
  have whole : parseLength true (bigEndian 2 ((controlBody pp).length + 4) ++ controlBody pp) =
      some (controlBody pp) := by
    rw [parseLength, if_pos rfl, takeUSHORT_bigEndian]
    change (if (UInt16.ofNat _).toNat < 4 ∨ (controlBody pp).length < (UInt16.ofNat _).toNat - 4
      then none else some ((controlBody pp).take ((UInt16.ofNat _).toNat - 4))) = _
    rw [length, Nat.add_sub_cancel, if_neg (by omega), List.take_length]
  have reserved : ∀ buf, parseReserved isYamaha true buf = some buf := by
    simp [parseReserved]
  have sequence : ∀ ret, parseSequence true ret (ushortBytes pp.ns ++ (ushortBytes pp.nr ++
      pp.avpList.flatMap avpBytes)) =
      some ({ ret with ns := pp.ns, nr := pp.nr }, pp.avpList.flatMap avpBytes) := by
    simp [parseSequence]
  have body : controlBody pp = headerIds pp ++ (ushortBytes pp.ns ++ (ushortBytes pp.nr ++
      pp.avpList.flatMap avpBytes)) := by
    simp [controlBody]
  have noOffset : (!decide (pp.ver = 3) && decide ((200 : UInt8) &&& L2TP_HEADER_BIT_OFFSET ≠ 0)) =
      false := by
    rw [show decide ((200 : UInt8) &&& L2TP_HEADER_BIT_OFFSET ≠ 0) = false by decide,
      Bool.and_false]
  rw [front, parseHeader, if_neg long]
  simp only [List.getD_cons_zero, List.getD_cons_succ, verBits, List.drop_succ_cons, List.drop_zero]
  rw [if_neg (by simp [ver]), if_neg (by decide), noOffset]
  simp only [show decide ((200 : UInt8) &&& L2TP_HEADER_BIT_TYPE ≠ 0) = true by decide,
    show decide ((200 : UInt8) &&& L2TP_HEADER_BIT_LENGTH ≠ 0) = true by decide,
    show decide ((200 : UInt8) &&& L2TP_HEADER_BIT_SEQUENCE ≠ 0) = true by decide,
    whole, reserved, Option.bind_some, Option.bind_eq_bind]
  rw [body, parseIds_headerIds rfl small, Option.bind_some, sequence, Option.bind_some,
    parseOffset, if_neg (by decide), Option.bind_some, if_pos (by decide), values,
    Option.bind_some]
  rw [parseMessage_of_first first]
  · unfold receivedControl
    rw [decide_eq_false notEmpty]
    by_cases isV3 : pp.ver = 3
    · simp [isV3]
    · simp [isV3]
  · rfl
  · exact decide_eq_false notEmpty

/-! ## Round trips -/

/-- The tunnel is of a kind that there is, and its packets come from the port of that kind: those
of L2TPv3 come from the virtual port unless the tunnel is one of YAMAHA. -/
structure Tunnel.ComesFrom (t : Tunnel) (srcPort : Nat) : Prop where
  yamaha : t.isYamahaV3 = true → t.isV3 = true
  port : srcPort = IPSEC_PORT_L2TPV3_VIRTUAL ↔ t.isV3 = true ∧ t.isYamahaV3 = false

/-- A control packet of the tunnel whose parts fit their fields. -/
structure ControlPacket (t : Tunnel) (pp : Packet) : Prop where
  control : pp.isControl = true
  version : pp.ver = if t.isV3 then 3 else 2
  fits : ∀ a ∈ pp.avpList, a.Fits
  first : MessageTypeFirst pp
  /-- The ids of L2TPv2 fit their fields. -/
  small : t.isV3 = false → pp.tunnelId.toNat < 65536 ∧ pp.sessionId.toNat < 65536
  remote : t.isV3 = true → ∀ a, getAVPValue pp L2TP_AVP_TYPE_V3_SESSION_ID_REMOTE = some a →
    readId true (some a) = some pp.sessionId

theorem isV3_of_version
    {ver : UInt8}
    (version : ver = if t.isV3 then 3 else 2) :
    ver = 3 ↔ t.isV3 = true := by
  rw [version]
  cases t.isV3 with
  | true => simp
  | false => simp

theorem zeroSessionId_eq
    {srcPort : Nat}
    (comes : t.ComesFrom srcPort)
    (version : pp.ver = if t.isV3 then 3 else 2) :
    zeroSessionId t.isYamahaV3 pp =
      if srcPort = IPSEC_PORT_L2TPV3_VIRTUAL then uintBytes 0 else [] := by
  have same : pp.ver = 3 ∧ t.isYamahaV3 = false ↔ srcPort = IPSEC_PORT_L2TPV3_VIRTUAL := by
    rw [isV3_of_version version, comes.port]
  by_cases virtual : srcPort = IPSEC_PORT_L2TPV3_VIRTUAL
  · rw [zeroSessionId, if_pos virtual, if_pos (same.mpr virtual)]
    rfl
  · rw [zeroSessionId, if_neg virtual, if_neg fun also => virtual (same.mp also)]

theorem Tunnel.ComesFrom.isYamahaV3_eq
    {srcPort : Nat}
    (comes : t.ComesFrom srcPort)
    (notVirtual : srcPort ≠ IPSEC_PORT_L2TPV3_VIRTUAL) :
    t.isYamahaV3 = t.isV3 := by
  have port := comes.port
  have yamaha := comes.yamaha
  cases isV3 : t.isV3 with
  | true =>
      cases isYamaha : t.isYamahaV3 with
      | true => rfl
      | false => exact absurd (port.mpr ⟨isV3, isYamaha⟩) notVirtual
  | false =>
      cases isYamaha : t.isYamahaV3 with
      | true => exact (yamaha isYamaha).symm.trans isV3
      | false => rfl

theorem buildL2TPPacketData_adds (pp : Packet) :
    ∃ more, buildL2TPPacketData pp = { pp with avpList := pp.avpList ++ more } ∧
      more.length ≤ 2 ∧ ∀ a ∈ more, a.data.length = 4 := by
  unfold buildL2TPPacketData
  by_cases adds : pp.ver = 3 ∧ pp.sessionId ≠ 0 ∧
      readId true (getAVPValue pp L2TP_AVP_TYPE_V3_SESSION_ID_REMOTE) = none
  · rw [if_pos adds]
    have four : (uintBytes pp.sessionId).length = 4 := length_uintBytes _
    by_cases cisco : (getAVPValueEx pp L2TPV3_CISCO_AVP_SESSION_ID_LOCAL
        L2TP_AVP_VENDOR_ID_CISCO).isSome = true
    · refine ⟨_, rfl, ?_⟩
      simp [cisco, newAVP, four]
    · refine ⟨_, rfl, ?_⟩
      simp [cisco, newAVP, four]
  · rw [if_neg adds]
    refine ⟨[], ?_, by simp, fun a listed => nomatch listed⟩
    rw [List.append_nil]

theorem buildL2TPPacketData_eq (pp : Packet) :
    ∃ more, buildL2TPPacketData pp = { pp with avpList := pp.avpList ++ more } ∧
      ∀ a ∈ more, a.Fits := by
  obtain ⟨more, built, -, four⟩ := buildL2TPPacketData_adds pp
  refine ⟨more, built, fun a listed => ?_⟩
  rw [Avp.Fits, four a listed]
  decide

theorem session_buildL2TPPacketData
    (isV3 : pp.ver = 3)
    (remote : ∀ a, getAVPValue pp L2TP_AVP_TYPE_V3_SESSION_ID_REMOTE = some a →
      readId true (some a) = some pp.sessionId) :
    (readId true (getAVPValue (buildL2TPPacketData pp)
      L2TP_AVP_TYPE_V3_SESSION_ID_REMOTE)).getD 0 = pp.sessionId := by
  cases found : getAVPValue pp L2TP_AVP_TYPE_V3_SESSION_ID_REMOTE with
  | some a =>
      have id := remote a found
      have adds : ¬(pp.ver = 3 ∧ pp.sessionId ≠ 0 ∧
          readId true (getAVPValue pp L2TP_AVP_TYPE_V3_SESSION_ID_REMOTE) = none) := by
        rw [found, id]
        exact fun adds => nomatch adds.2.2
      rw [buildL2TPPacketData, if_neg adds, found, id]
      rfl
  | none =>
      by_cases zero : pp.sessionId = 0
      · have adds : ¬(pp.ver = 3 ∧ pp.sessionId ≠ 0 ∧
            readId true (getAVPValue pp L2TP_AVP_TYPE_V3_SESSION_ID_REMOTE) = none) :=
          fun adds => adds.2.1 zero
        rw [buildL2TPPacketData, if_neg adds, found, zero]
        rfl
      · have adds : pp.ver = 3 ∧ pp.sessionId ≠ 0 ∧
            readId true (getAVPValue pp L2TP_AVP_TYPE_V3_SESSION_ID_REMOTE) = none :=
          ⟨isV3, zero, by rw [found]; rfl⟩
        have before : findAVP pp L2TP_AVP_TYPE_V3_SESSION_ID_REMOTE 0 = none :=
          findAVP_of_getAVPValue found
        have added : findAVP (buildL2TPPacketData pp) L2TP_AVP_TYPE_V3_SESSION_ID_REMOTE 0 =
            some (newAVP L2TP_AVP_TYPE_V3_SESSION_ID_REMOTE true 0 (uintBytes pp.sessionId)) := by
          rw [buildL2TPPacketData, if_pos adds]
          unfold findAVP at before ⊢
          rw [List.find?_append, before]
          rfl
        rw [getAVPValue_of_findAVP added, readId_uintBytes]
        rfl

theorem ControlPacket.build {t : Tunnel} {pp : Packet} (packet : ControlPacket t pp) :
    MessageTypeFirst (buildL2TPPacketData pp) ∧ ∀ a ∈ (buildL2TPPacketData pp).avpList, a.Fits := by
  obtain ⟨more, built, fits⟩ := buildL2TPPacketData_eq pp
  obtain ⟨mandatory, others, avpList⟩ := packet.first
  rw [built]
  refine ⟨⟨mandatory, others ++ more, ?_⟩, ?_⟩
  · rw [avpList, List.cons_append]
  · intro a listed
    obtain listed | listed := List.mem_append.mp listed
    · exact packet.fits a listed
    · exact fits a listed

theorem parse_builtBytes
    (packet : ControlPacket t pp)
    (comes : t.ComesFrom p.srcPort)
    (data : p.data = builtBytes t pp)
    (short : (builtBytes t pp).length < 65536) :
    parseL2TPPacket p = some (receivedControl t.isYamahaV3 (buildL2TPPacketData pp)) := by
  obtain ⟨first, fits⟩ := packet.build
  obtain ⟨more, built, -⟩ := buildL2TPPacketData_eq pp
  have control : (buildL2TPPacketData pp).isControl = true := by
    rw [built]
    exact packet.control
  have version : (buildL2TPPacketData pp).ver = if t.isV3 then 3 else 2 := by
    rw [built]
    exact packet.version
  have small : (buildL2TPPacketData pp).ver ≠ 3 →
      (buildL2TPPacketData pp).tunnelId.toNat < 65536 ∧
        (buildL2TPPacketData pp).sessionId.toNat < 65536 := by
    intro notV3
    rw [version] at notV3
    rw [built]
    exact packet.small (by simpa using notV3)
  have bytes := packetBytes_control control t.isYamahaV3
  rw [builtBytes, bytes] at data short
  generalize buildL2TPPacketData pp = ret at *
  have shortBody : (controlBody ret).length + 4 < 65536 := by
    simp only [List.length_append, List.length_cons, length_bigEndian] at short
    omega
  have kind : decide (ret.ver = 3) = t.isV3 := by
    rw [version]
    cases t.isV3 with
    | true => rfl
    | false => rfl
  have two : ret.ver = 2 ∨ ret.ver = 3 := by
    rw [version]
    cases t.isV3 with
    | true => exact Or.inr rfl
    | false => exact Or.inl rfl
  have header := parseHeader_control two fits first shortBody small t.isYamahaV3
  rw [kind] at header
  by_cases virtual : p.srcPort = IPSEC_PORT_L2TPV3_VIRTUAL
  · obtain ⟨isV3, notYamaha⟩ := comes.port.mp virtual
    rw [zeroSessionId_eq comes version, if_pos virtual] at data
    rw [isV3, notYamaha] at header
    rw [List.append_assoc, List.append_assoc, ← List.append_assoc [_, _]] at data
    rw [parseL2TPPacket, if_pos virtual, data, takeUINT_uintBytes, notYamaha]
    exact header
  · have yamaha := comes.isYamahaV3_eq virtual
    rw [zeroSessionId_eq comes version, if_neg virtual, List.nil_append] at data
    have flag : (2 ≤ p.data.length && p.data.getD 1 0 &&& L2TP_HEADER_BIT_VER = 3) =
        t.isYamahaV3 := by
      rw [data, yamaha, ← kind]
      obtain isTwo | isThree := two
      · simp [isTwo, show ¬(2 : UInt8) &&& L2TP_HEADER_BIT_VER = 3 by decide]
      · simp [isThree, show (3 : UInt8) &&& L2TP_HEADER_BIT_VER = 3 by decide]
    rw [parseL2TPPacket, if_neg virtual, flag, data, yamaha]
    rw [yamaha] at header
    exact header

/-- The number that is received next does not matter for the values. -/
theorem buildL2TPPacketData_nr (pp : Packet) (nr : UInt16) :
    buildL2TPPacketData { pp with nr := nr } = { buildL2TPPacketData pp with nr := nr } := by
  unfold buildL2TPPacketData
  by_cases adds : pp.ver = 3 ∧ pp.sessionId ≠ 0 ∧
      readId true (getAVPValue pp L2TP_AVP_TYPE_V3_SESSION_ID_REMOTE) = none
  · rw [if_pos adds]
    exact if_pos adds
  · rw [if_neg adds]
    exact if_neg adds

theorem length_headerIds (pp : Packet) : (headerIds pp).length = 4 := by
  unfold headerIds
  by_cases isV3 : pp.ver = 3
  · simp [isV3]
  · simp [isV3]

/-- To put the last number that was received into the bytes of a queued control packet, as
is done when the packet is sent, is to build the packet with this number. -/
theorem controlPacketBytes_builtBytes
    (packet : ControlPacket t pp)
    (comes : t.ComesFrom t.serverPort) :
    controlPacketBytes t (builtBytes t pp) = builtBytes t { pp with nr := t.lastNr + 1 } := by
  obtain ⟨more, built, -⟩ := buildL2TPPacketData_eq pp
  have control : (buildL2TPPacketData pp).isControl = true := by
    rw [built]
    exact packet.control
  have version : (buildL2TPPacketData pp).ver = if t.isV3 then 3 else 2 := by
    rw [built]
    exact packet.version
  have numbered := buildL2TPPacketData_nr pp (t.lastNr + 1)
  rw [builtBytes, builtBytes, numbered]
  clear numbered built
  generalize buildL2TPPacketData pp = ret at control version
  have after : packetBytes t.isYamahaV3 { ret with nr := t.lastNr + 1 } =
      zeroSessionId t.isYamahaV3 ret ++ [0xC8, if ret.ver = 3 then 3 else 2] ++
        bigEndian 2 ((controlBody ret).length + 4) ++ headerIds ret ++ ushortBytes ret.ns ++
        (ushortBytes (t.lastNr + 1) ++ ret.avpList.flatMap avpBytes) := by
    rw [packetBytes_control (show { ret with nr := t.lastNr + 1 }.isControl = true from control)]
    simp [controlBody, zeroSessionId, headerIds]
  have before : packetBytes t.isYamahaV3 ret =
      zeroSessionId t.isYamahaV3 ret ++ [0xC8, if ret.ver = 3 then 3 else 2] ++
        bigEndian 2 ((controlBody ret).length + 4) ++ headerIds ret ++ ushortBytes ret.ns ++
        (ushortBytes ret.nr ++ ret.avpList.flatMap avpBytes) := by
    rw [packetBytes_control control]
    simp [controlBody]
  have place : (if t.serverPort = IPSEC_PORT_L2TPV3_VIRTUAL then 14 else 10) =
      (zeroSessionId t.isYamahaV3 ret ++ [0xC8, if ret.ver = 3 then 3 else 2] ++
        bigEndian 2 ((controlBody ret).length + 4) ++ headerIds ret ++
        ushortBytes ret.ns).length := by
    have length : (zeroSessionId t.isYamahaV3 ret).length =
        if t.serverPort = IPSEC_PORT_L2TPV3_VIRTUAL then 4 else 0 := by
      rw [zeroSessionId_eq comes version]
      split
      · rfl
      · rfl
    simp only [List.length_append, List.length_cons, List.length_nil, length, length_bigEndian,
      length_headerIds, length_ushortBytes]
    split
    · rfl
    · rfl
  rw [controlPacketBytes, before, after, place]
  exact copyAt_middle (by rw [length_ushortBytes, length_ushortBytes]) _ _

/-! ## Data packets -/

theorem parse_ciscoData
    {sessionId : UInt32}
    (virtual : p.srcPort = IPSEC_PORT_L2TPV3_VIRTUAL)
    (notZero : sessionId ≠ 0)
    (bytes : p.data = uintBytes sessionId ++ data) :
    parseL2TPPacket p = some { ver := 3, sessionId := sessionId, data := data } := by
  rw [parseL2TPPacket, if_pos virtual, bytes, takeUINT_uintBytes]
  exact if_pos notZero

theorem parse_yamahaData
    {sessionId : UInt32}
    (notVirtual : p.srcPort ≠ IPSEC_PORT_L2TPV3_VIRTUAL)
    (notEmpty : data ≠ [])
    (bytes : p.data = uintBytes 0x00030000 ++ uintBytes sessionId ++ data) :
    parseL2TPPacket p = some {
      isYamahaV3 := true, ver := 3, tunnelId := sessionId, sessionId := sessionId
      data := data } := by
  have front : p.data = 0 :: 3 :: (ushortBytes 0 ++ (uintBytes sessionId ++ data)) := by
    rw [bytes, List.append_assoc]
    rfl
  have flag : (2 ≤ p.data.length && p.data.getD 1 0 &&& L2TP_HEADER_BIT_VER = 3) = true := by
    rw [front]
    simp [show (3 : UInt8) &&& L2TP_HEADER_BIT_VER = 3 by decide]
  have long : ¬p.data.length < 6 := by
    rw [front]
    simp
    omega
  rw [parseL2TPPacket, if_neg notVirtual]
  dsimp only
  rw [flag, parseHeader, if_neg long, front]
  have reserved : ∀ buf, parseReserved true false (ushortBytes 0 ++ buf) = some buf := by
    simp [parseReserved]
  have ids : ∀ ret buf, parseIds true ret (uintBytes sessionId ++ buf) = some ({ ret with
      tunnelId := sessionId
      sessionId := if ret.isControl then 0 else sessionId }, buf) := by
    simp [parseIds]
  have version : (3 : UInt8) &&& L2TP_HEADER_BIT_VER = 3 := by decide
  simp [version, parseLength, reserved, ids, parseSequence, parseOffset, notEmpty]

theorem parse_v2Data
    {tunnelId sessionId : UInt16}
    (notVirtual : p.srcPort ≠ IPSEC_PORT_L2TPV3_VIRTUAL)
    (notEmpty : data ≠ [])
    (short : 8 + data.length < 65536)
    (bytes : p.data = [0x40, 0x02] ++ bigEndian 2 (8 + data.length) ++ ushortBytes tunnelId ++
      ushortBytes sessionId ++ data) :
    parseL2TPPacket p = some {
      ver := 2, tunnelId := tunnelId.toUInt32, sessionId := sessionId.toUInt32
      data := data } := by
  have front : p.data = 0x40 :: 2 :: (bigEndian 2 (8 + data.length) ++ (ushortBytes tunnelId ++
      (ushortBytes sessionId ++ data))) := by
    rw [bytes]
    simp
  have version : (2 : UInt8) &&& L2TP_HEADER_BIT_VER = 2 := by decide
  have flag : (2 ≤ p.data.length && p.data.getD 1 0 &&& L2TP_HEADER_BIT_VER = 3) = false := by
    rw [front]
    simp [version]
  have long : ¬p.data.length < 6 := by
    rw [front]
    simp [length_bigEndian]
    omega
  have length : (UInt16.ofNat (8 + data.length)).toNat = 8 + data.length :=
    UInt16.toNat_ofNat_of_lt' short
  have whole : parseLength true (bigEndian 2 (8 + data.length) ++ (ushortBytes tunnelId ++
      (ushortBytes sessionId ++ data))) = some (ushortBytes tunnelId ++
        (ushortBytes sessionId ++ data)) := by
    have size : (ushortBytes tunnelId ++ (ushortBytes sessionId ++ data)).length =
        4 + data.length := by
      simp
      omega
    rw [parseLength, if_pos rfl, takeUSHORT_bigEndian, Option.bind_eq_bind, Option.bind_some]
    dsimp only
    rw [length, if_neg (by omega), List.take_of_length_le (by omega)]
  have ids : ∀ ret buf, parseIds false ret (ushortBytes tunnelId ++ (ushortBytes sessionId ++ buf)) =
      some ({ ret with
        tunnelId := tunnelId.toUInt32
        sessionId := sessionId.toUInt32 }, buf) := by
    simp [parseIds]
  rw [parseL2TPPacket, if_neg notVirtual]
  dsimp only
  rw [flag, parseHeader, if_neg long, front]
  have isData : (0x40 : UInt8) &&& L2TP_HEADER_BIT_TYPE = 0 := by decide
  have noSequence : (0x40 : UInt8) &&& L2TP_HEADER_BIT_SEQUENCE = 0 := by decide
  have noOffset : (0x40 : UInt8) &&& L2TP_HEADER_BIT_OFFSET = 0 := by decide
  simp [version, isData, noSequence, noOffset, whole, ids, parseReserved, parseSequence,
    parseOffset, notEmpty]

/-- A session of the tunnel whose ids fit their fields. -/
structure DataSession (t : Tunnel) (s : Session) : Prop where
  /-- The session speaks the version of the tunnel. -/
  isV3 : s.isV3 = t.isV3
  notZero : s.sessionId1 ≠ 0
  small : s.isV3 = false → s.sessionId1.toNat < 65536

theorem parse_dataPacketBytes
    {s : Session}
    (session : DataSession t s)
    (comes : t.ComesFrom p.srcPort)
    (bytes : p.data = dataPacketBytes t s data)
    (notEmpty : s.isV3 = false ∨ t.isYamahaV3 = true → data ≠ [])
    (short : s.isV3 = false → 8 + data.length < 65536) :
    ∃ ret, parseL2TPPacket p = some ret ∧ ret.isControl = false ∧
      ret.sessionId = s.sessionId1 ∧ ret.data = data := by
  unfold dataPacketBytes at bytes
  by_cases virtual : p.srcPort = IPSEC_PORT_L2TPV3_VIRTUAL
  · obtain ⟨isV3, notYamaha⟩ := comes.port.mp virtual
    rw [session.isV3, isV3, if_neg (by decide), if_pos notYamaha] at bytes
    exact ⟨_, parse_ciscoData virtual session.notZero bytes, rfl, rfl, rfl⟩
  have yamaha := comes.isYamahaV3_eq virtual
  cases isV3 : s.isV3 with
  | true =>
      have isYamaha : t.isYamahaV3 = true := by
        rw [yamaha, ← session.isV3, isV3]
      rw [isV3, isYamaha, if_neg (by decide), if_neg (by decide)] at bytes
      exact ⟨_, parse_yamahaData virtual (notEmpty (Or.inr isYamaha)) bytes, rfl, rfl, rfl⟩
  | false =>
      rw [if_pos isV3] at bytes
      have parsed := parse_v2Data virtual (notEmpty (Or.inl isV3)) (short isV3) bytes
      refine ⟨_, parsed, rfl, ?_, rfl⟩
      apply UInt32.toNat_inj.mp
      have small := session.small isV3
      simp
      omega

/-- The codec of L2TP.  A control packet whose parts fit their fields is parsed as it was built,
and as it is sent; a data packet is parsed unless it is one of L2TPv2 or of YAMAHA without a
payload; and the parser ends inside every datagram. -/
theorem l2tpPacket_roundTrip :
    (∀ t pp p, ControlPacket t pp → t.ComesFrom p.srcPort →
      p.data = builtBytes t pp → (builtBytes t pp).length < 65536 →
      ∃ ret, parseL2TPPacket p = some ret ∧ ret.isControl = true ∧
        ret.tunnelId = pp.tunnelId ∧ ret.sessionId = pp.sessionId ∧ ret.ns = pp.ns ∧
        ret.nr = pp.nr ∧ ret.messageType = pp.messageType ∧
        ret.avpList = (buildL2TPPacketData pp).avpList) ∧
    (∀ t s p data, DataSession t s → t.ComesFrom p.srcPort →
      p.data = dataPacketBytes t s data →
      (s.isV3 = false ∨ t.isYamahaV3 = true → data ≠ []) →
      (s.isV3 = false → 8 + data.length < 65536) →
      ∃ ret, parseL2TPPacket p = some ret ∧ ret.isControl = false ∧
        ret.sessionId = s.sessionId1 ∧ ret.data = data) ∧
    ∀ p : UdpPacket, p.data.length < X32 →
      parseInMemory p = (parseL2TPPacket p).elim (.error .rejected) .ok := by
  refine ⟨?_, ?_, fun p small => parseInMemory_eq small⟩
  · intro t pp p packet comes data short
    have parsed := parse_builtBytes packet comes data short
    obtain ⟨more, built, -⟩ := buildL2TPPacketData_eq pp
    refine ⟨_, parsed, rfl, ?_, ?_, ?_, ?_, ?_, rfl⟩
    · simp [receivedControl, built]
    · have ver : (buildL2TPPacketData pp).ver = pp.ver := by rw [built]
      by_cases isV3 : pp.ver = 3
      · have remote := packet.remote ((isV3_of_version packet.version).mp isV3)
        exact (if_pos (ver.trans isV3)).trans (session_buildL2TPPacketData isV3 remote)
      · refine (if_neg (ver ▸ isV3)).trans ?_
        rw [built]
    · simp [receivedControl, built]
    · simp [receivedControl, built]
    · simp [receivedControl, built]
  · intro t s p data session comes bytes notEmpty short
    exact parse_dataPacketBytes session comes bytes notEmpty short

/-- A tunnel of L2TPv2. -/
def v2Tunnel : Tunnel where
  isV3 := false
  isCiscoV3 := false
  isYamahaV3 := false
  clientIp := uintToIP 1
  clientPort := 1701
  serverIp := uintToIP 2
  serverPort := 1701
  tunnelId1 := 7
  tunnelId2 := 9
  lastRecvTick := 0
  lastHelloSent := 0

def v2Session : Session where
  isV3 := false
  isCiscoV3 := false
  sessionId1 := 3
  sessionId2 := 4

/-- A control packet of the tunnel. -/
def v2Hello : Packet :=
  { newL2TPControlPacket L2TP_MESSAGE_TYPE_HELLO false [] with tunnelId := 7 }

theorem l2tpPacket_roundTrip_v2 :
    (∃ ret, parseL2TPPacket { dataDatagram v2Tunnel v2Session [] with
        data := builtBytes v2Tunnel v2Hello } = some ret ∧ ret.isControl = true ∧
      ret.tunnelId = v2Hello.tunnelId ∧ ret.sessionId = v2Hello.sessionId ∧
      ret.ns = v2Hello.ns ∧ ret.nr = v2Hello.nr ∧ ret.messageType = v2Hello.messageType ∧
      ret.avpList = (buildL2TPPacketData v2Hello).avpList) ∧
    (∃ ret, parseL2TPPacket (dataDatagram v2Tunnel v2Session [1]) = some ret ∧
      ret.isControl = false ∧ ret.sessionId = v2Session.sessionId1 ∧ ret.data = [1]) ∧
    parseInMemory (dataDatagram v2Tunnel v2Session [1]) =
      (parseL2TPPacket (dataDatagram v2Tunnel v2Session [1])).elim (.error .rejected) .ok := by
  have comes : v2Tunnel.ComesFrom 1701 := ⟨by decide, by decide⟩
  have packet : ControlPacket v2Tunnel v2Hello := {
    control := rfl
    version := rfl
    fits := List.forall_mem_singleton.mpr (show 2 ≤ 1017 by decide)
    first := ⟨true, [], rfl⟩
    small := fun _ => by decide
    remote := by
      intro isV3
      exact absurd isV3 (by decide) }
  have session : DataSession v2Tunnel v2Session := ⟨rfl, by decide, fun _ => by decide⟩
  exact ⟨l2tpPacket_roundTrip.1 v2Tunnel v2Hello _ packet comes rfl (by decide +kernel),
    l2tpPacket_roundTrip.2.1 v2Tunnel v2Session _ [1] session comes rfl
      (fun _ => List.cons_ne_nil 1 []) (fun _ => by decide),
    l2tpPacket_roundTrip.2.2 _ (by decide +kernel)⟩

/-- A packet that was queued before six others arrived. -/
theorem controlPacketBytes_builtBytes_v2 :
    controlPacketBytes { v2Tunnel with lastNr := 6 }
        (builtBytes { v2Tunnel with lastNr := 6 } v2Hello) =
      builtBytes { v2Tunnel with lastNr := 6 } { v2Hello with nr := 7 } := by
  have packet : ControlPacket { v2Tunnel with lastNr := 6 } v2Hello := {
    control := rfl
    version := rfl
    fits := List.forall_mem_singleton.mpr (show 2 ≤ 1017 by decide)
    first := ⟨true, [], rfl⟩
    small := fun _ => by decide
    remote := by
      intro isV3
      exact absurd isV3 (by decide) }
  exact controlPacketBytes_builtBytes packet ⟨by decide, by decide⟩

/-- A data packet without a payload is sent, and refused. -/
theorem parse_emptyPayload :
    ¬∃ ret, parseL2TPPacket (dataDatagram v2Tunnel v2Session []) = some ret ∧
      ret.sessionId = v2Session.sessionId1 ∧ ret.data = [] := by
  have refused : parseL2TPPacket (dataDatagram v2Tunnel v2Session []) = none := by
    decide +kernel
  rw [refused]
  rintro ⟨ret, parsed, -⟩
  exact nomatch parsed

end L2tp
end SoftEther
