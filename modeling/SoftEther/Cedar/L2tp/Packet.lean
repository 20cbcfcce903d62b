import SoftEther.Mayaqua.Buf
import SoftEther.Mayaqua.Network

/-!
# L2TP packets

`L2TP_PACKET` of `IPsec_L2TP.c` and its parser, for L2TPv2 and for the two forms of
L2TPv3: that of Cisco, which comes from the virtual port of L2TPv3, and that of YAMAHA.
The parser never leaves the packet, so its pointer and size are the bytes that are left.
-/

namespace SoftEther
namespace L2tp

open Network

def IPSEC_PORT_L2TPV3_VIRTUAL : Nat := 1000001

abbrev L2TP_HEADER_BIT_TYPE : UInt8 := 0x80

abbrev L2TP_HEADER_BIT_LENGTH : UInt8 := 0x40

abbrev L2TP_HEADER_BIT_SEQUENCE : UInt8 := 0x08

abbrev L2TP_HEADER_BIT_OFFSET : UInt8 := 0x02

abbrev L2TP_HEADER_BIT_VER : UInt8 := 0x0F

abbrev L2TP_AVP_BIT_MANDATORY : UInt8 := 0x80

abbrev L2TP_AVP_BIT_HIDDEN : UInt8 := 0x40

abbrev L2TP_AVP_LENGTH : UInt16 := 0x3FF

abbrev L2TP_AVP_VENDOR_ID_CISCO : UInt16 := 9

abbrev L2TP_AVP_TYPE_MESSAGE_TYPE : UInt16 := 0

abbrev L2TP_AVP_TYPE_RESULT_CODE : UInt16 := 1

abbrev L2TP_AVP_TYPE_PROTOCOL_VERSION : UInt16 := 2

abbrev L2TP_AVP_TYPE_FRAME_CAP : UInt16 := 3

abbrev L2TP_AVP_TYPE_BEARER_CAP : UInt16 := 4

abbrev L2TP_AVP_TYPE_HOST_NAME : UInt16 := 7

abbrev L2TP_AVP_TYPE_VENDOR_NAME : UInt16 := 8

abbrev L2TP_AVP_TYPE_ASSIGNED_TUNNEL : UInt16 := 9

abbrev L2TP_AVP_TYPE_RECV_WINDOW_SIZE : UInt16 := 10

abbrev L2TP_AVP_TYPE_ASSIGNED_SESSION : UInt16 := 14

abbrev L2TP_AVP_TYPE_PPP_DISCONNECT_CAUSE : UInt16 := 46

abbrev L2TP_AVP_TYPE_V3_ROUTER_ID : UInt16 := 60

abbrev L2TP_AVP_TYPE_V3_TUNNEL_ID : UInt16 := 61

abbrev L2TP_AVP_TYPE_V3_PW_CAP_LIST : UInt16 := 62

abbrev L2TP_AVP_TYPE_V3_SESSION_ID_LOCAL : UInt16 := 63

abbrev L2TP_AVP_TYPE_V3_SESSION_ID_REMOTE : UInt16 := 64

abbrev L2TP_AVP_TYPE_V3_PW_TYPE : UInt16 := 68

abbrev L2TP_AVP_TYPE_V3_CIRCUIT_STATUS : UInt16 := 71

abbrev L2TPV3_CISCO_AVP_TUNNEL_ID : UInt16 := 1

abbrev L2TPV3_CISCO_AVP_PW_CAP_LIST : UInt16 := 2

abbrev L2TPV3_CISCO_AVP_SESSION_ID_LOCAL : UInt16 := 3

abbrev L2TPV3_CISCO_AVP_SESSION_ID_REMOTE : UInt16 := 4

abbrev L2TPV3_CISCO_AVP_PW_TYPE : UInt16 := 7

abbrev L2TPV3_CISCO_AVP_DRAFT_AVP_VERSION : UInt16 := 10

/-- `L2TP_AVP`; `Length` is the length of the data and of the header. -/
structure Avp where
  mandatory : Bool
  vendorID : UInt16
  type : UInt16
  /-- `Data`, as long as `DataSize`. -/
  data : List UInt8
  deriving DecidableEq

/-- `L2TP_PACKET`, without the flags that only the parser looks at. -/
structure Packet where
  isControl : Bool := false
  /-- `IsZLB`: a control packet without a message. -/
  isZLB : Bool := false
  isYamahaV3 : Bool := false
  ver : UInt8
  tunnelId : UInt32 := 0
  sessionId : UInt32 := 0
  ns : UInt16 := 0
  nr : UInt16 := 0
  /-- `Data`, as long as `DataSize`. -/
  data : List UInt8 := []
  avpList : List Avp := []
  messageType : UInt16 := 0
  deriving DecidableEq

structure UdpPacket where
  srcIP : Ip
  srcPort : Nat
  dstIP : Ip
  destPort : Nat
  /-- `Data`, as long as `Size`. -/
  data : List UInt8
  deriving DecidableEq

/-- The loop of `GetAVPValueEx`. -/
def findAVP (p : Packet) (type vendorId : UInt16) : Option Avp :=
  p.avpList.find? fun a => a.type = type && a.vendorID = vendorId

/-- `GetAVPValueEx`: three values of L2TPv3 may stand under a type of Cisco. -/
def getAVPValueEx (p : Packet) (type vendorId : UInt16) : Option Avp :=
  match findAVP p type vendorId with
  | some a => some a
  | none =>
      if vendorId = 0 then
        if type = L2TP_AVP_TYPE_V3_TUNNEL_ID then
          findAVP p L2TPV3_CISCO_AVP_TUNNEL_ID L2TP_AVP_VENDOR_ID_CISCO
        else if type = L2TP_AVP_TYPE_V3_SESSION_ID_LOCAL then
          findAVP p L2TPV3_CISCO_AVP_SESSION_ID_LOCAL L2TP_AVP_VENDOR_ID_CISCO
        else if type = L2TP_AVP_TYPE_V3_SESSION_ID_REMOTE then
          findAVP p L2TPV3_CISCO_AVP_SESSION_ID_REMOTE L2TP_AVP_VENDOR_ID_CISCO
        else none
      else none

def getAVPValue (p : Packet) (type : UInt16) : Option Avp :=
  getAVPValueEx p type 0

def readUSHORT (buf : List UInt8) : UInt16 :=
  UInt16.ofNat (fromBigEndian (buf.take 2))

/-- A value with an id: four bytes in L2TPv3, two in L2TPv2. -/
def readId (isV3 : Bool) (a : Option Avp) : Option UInt32 :=
  match a with
  | none => none
  | some a =>
      if a.data.length = (if isV3 then 4 else 2) then
        some (UInt32.ofNat (fromBigEndian a.data))
      else none

/-! ## Parsing -/

/-- A `USHORT` of the header and what is left. -/
def takeUSHORT (buf : List UInt8) : Option (UInt16 × List UInt8) :=
  if buf.length < 2 then none else some (readUSHORT buf, buf.drop 2)

/-- A `UINT` of the header and what is left. -/
def takeUINT (buf : List UInt8) : Option (UInt32 × List UInt8) :=
  if buf.length < 4 then none
  else some (UInt32.ofNat (fromBigEndian (buf.take 4)), buf.drop 4)

/-- The length field, which cuts off what stands behind the packet. -/
def parseLength (hasLength : Bool) (buf : List UInt8) : Option (List UInt8) :=
  if hasLength then do
    let (length, buf) ← takeUSHORT buf
    -- `Length - 4` of a smaller length wraps around and is greater than the size.
    if length.toNat < 4 ∨ buf.length < length.toNat - 4 then none
    else some (buf.take (length.toNat - 4))
  else some buf

/-- The reserved field of a data packet of YAMAHA. -/
def parseReserved (isYamaha isControl : Bool) (buf : List UInt8) : Option (List UInt8) :=
  if isYamaha && !isControl then do
    let (_, buf) ← takeUSHORT buf
    return buf
  else some buf

def parseIds (isV3 : Bool) (ret : Packet) (buf : List UInt8) :
    Option (Packet × List UInt8) :=
  if isV3 then do
    let (tunnelId, buf) ← takeUINT buf
    return ({ ret with
      tunnelId := tunnelId, sessionId := if ret.isControl then 0 else tunnelId }, buf)
  else do
    let (tunnelId, buf) ← takeUSHORT buf
    let (sessionId, buf) ← takeUSHORT buf
    return ({ ret with
      tunnelId := tunnelId.toUInt32, sessionId := sessionId.toUInt32 }, buf)

/-- The sequence numbers of the header. -/
def parseSequence (hasSequence : Bool) (ret : Packet) (buf : List UInt8) :
    Option (Packet × List UInt8) :=
  if hasSequence then do
    let (ns, buf) ← takeUSHORT buf
    let (nr, buf) ← takeUSHORT buf
    return ({ ret with ns := ns, nr := nr }, buf)
  else some (ret, buf)

def parseOffset (hasOffset : Bool) (buf : List UInt8) : Option (List UInt8) :=
  if hasOffset then do
    let (offsetSize, buf) ← takeUSHORT buf
    if buf.length < offsetSize.toNat then none else some (buf.drop offsetSize.toNat)
  else some buf

/-- The loop over the values; every round takes at least six bytes. -/
def parseAvpList : Nat → List UInt8 → Option (List Avp)
  | 0, buf => if buf = [] then some [] else none
  | fuel + 1, buf =>
      if buf = [] then some []
      else if buf.length < 6 then none
      else
        let flags := buf.getD 0 0
        let length := (readUSHORT buf &&& L2TP_AVP_LENGTH).toNat
        if flags &&& L2TP_AVP_BIT_HIDDEN ≠ 0 ∨ length < 6 ∨ buf.length < length then none
        else do
          let others ← parseAvpList fuel (buf.drop length)
          return {
            mandatory := flags &&& L2TP_AVP_BIT_MANDATORY ≠ 0
            vendorID := readUSHORT (buf.drop 2)
            type := readUSHORT (buf.drop 4)
            data := (buf.drop 6).take (length - 6) } :: others

/-- The message and the session of a control packet. -/
def parseMessage (ret : Packet) : Option Packet := do
  let messageType ←
    if ret.isZLB then some 0
    else match getAVPValue ret L2TP_AVP_TYPE_MESSAGE_TYPE with
      | none => none
      | some a => if a.data.length ≠ 2 then none else some (readUSHORT a.data)
  let ret := { ret with messageType := messageType }
  if ret.ver = 3 then
    match readId true (getAVPValue ret L2TP_AVP_TYPE_V3_SESSION_ID_REMOTE) with
    | none => return ret
    | some sessionId => return { ret with sessionId := sessionId }
  else return ret

/-- The part of `ParseL2TPPacket` behind the session id of L2TPv3. -/
def parseHeader (isV3 isYamaha : Bool) (buf : List UInt8) : Option Packet :=
  if buf.length < 6 then none
  else
    let flags := buf.getD 0 0
    let ver := buf.getD 1 0 &&& L2TP_HEADER_BIT_VER
    let isControl := flags &&& L2TP_HEADER_BIT_TYPE ≠ 0
    let hasLength := flags &&& L2TP_HEADER_BIT_LENGTH ≠ 0
    let hasSequence := flags &&& L2TP_HEADER_BIT_SEQUENCE ≠ 0
    let hasOffset := !isV3 && flags &&& L2TP_HEADER_BIT_OFFSET ≠ 0
    if ver ≠ (if isV3 then 3 else 2) then none
    else if isControl ∧ ¬(hasLength ∧ hasSequence) then none
    else do
      let buf ← parseLength hasLength (buf.drop 2)
      let buf ← parseReserved isYamaha isControl buf
      let (ret, buf) ← parseIds isV3
        { isControl := isControl, isYamahaV3 := isYamaha, ver := ver } buf
      let (ret, buf) ← parseSequence hasSequence ret buf
      let buf ← parseOffset hasOffset buf
      if isControl then
        let avpList ← parseAvpList buf.length buf
        parseMessage { ret with data := buf, isZLB := buf = [], avpList := avpList }
      else if buf = [] then none
      else return { ret with data := buf }

def parseL2TPPacket (p : UdpPacket) : Option Packet :=
  if p.srcPort = IPSEC_PORT_L2TPV3_VIRTUAL then do
    let (sessionId, buf) ← takeUINT p.data
    if sessionId ≠ 0 then return { ver := 3, sessionId := sessionId, data := buf }
    else parseHeader true false buf
  else
    let isYamaha := 2 ≤ p.data.length && p.data.getD 1 0 &&& L2TP_HEADER_BIT_VER = 3
    parseHeader isYamaha isYamaha p.data

theorem parseMessage_eq (ret : Packet) :
    parseMessage ret =
      (if ret.isZLB then some 0
        else (getAVPValue ret L2TP_AVP_TYPE_MESSAGE_TYPE).bind fun a =>
          if a.data.length ≠ 2 then none else some (readUSHORT a.data)).bind fun messageType =>
      some (if ret.ver = 3 then
        { ret with
          messageType := messageType
          sessionId := (readId true (getAVPValue ret L2TP_AVP_TYPE_V3_SESSION_ID_REMOTE)).getD
            ret.sessionId }
      else { ret with messageType := messageType }) := by
  have session : ∀ messageType,
      getAVPValue { ret with messageType := messageType } L2TP_AVP_TYPE_V3_SESSION_ID_REMOTE =
        getAVPValue ret L2TP_AVP_TYPE_V3_SESSION_ID_REMOTE := fun _ => rfl
  unfold parseMessage
  simp only [session]
  generalize readId true (getAVPValue ret L2TP_AVP_TYPE_V3_SESSION_ID_REMOTE) = sessionId
  generalize getAVPValue ret L2TP_AVP_TYPE_MESSAGE_TYPE = message
  by_cases zlb : ret.isZLB = true
  · rw [if_pos zlb, if_pos zlb]
    cases sessionId with
    | none => simp
    | some sessionId => simp [apply_ite some]
  rw [if_neg zlb, if_neg zlb]
  cases message with
  | none => rfl
  | some a =>
      rw [Option.bind_some]
      by_cases two : a.data.length ≠ 2
      · rw [if_pos two]
        simp [two]
      · simp only [if_neg two]
        cases sessionId with
        | none => simp
        | some sessionId => simp [apply_ite some]

end L2tp
end SoftEther
