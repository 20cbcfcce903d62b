import SoftEther.Cedar.Ike.SaPackets

/-!
# Payloads of IKE packets

The bodies of payloads and the mutual recursion between the lists of payloads and the payloads
that hold a list themselves.  A bound on the nesting of that recursion stands for its fuel: the
parser has none, and `IkeParse` is what comes out when the bound is large enough.
-/

namespace SoftEther
namespace Ike
namespace Payloads

open SaPackets

abbrev IKE_PAYLOAD_SA : UInt8 := 1

abbrev IKE_PAYLOAD_PROPOSAL : UInt8 := 2

abbrev IKE_PAYLOAD_TRANSFORM : UInt8 := 3

abbrev IKE_PAYLOAD_CERT : UInt8 := 6

abbrev IKE_PAYLOAD_CERT_REQUEST : UInt8 := 7

abbrev IKE_PAYLOAD_NOTICE : UInt8 := 11

abbrev IKE_PAYLOAD_DELETE : UInt8 := 12

abbrev IKE_PAYLOAD_NAT_OA_DRAFT : UInt8 := 16

abbrev IKE_PAYLOAD_NAT_OA : UInt8 := 21

abbrev IKE_PAYLOAD_NAT_OA_DRAFT_2 : UInt8 := 131

abbrev IKE_SA_DOI_IPSEC : Nat := 1

abbrev IKE_SA_SITUATION_IDENTITY : Nat := 1

abbrev IKE_ID_IPV4_ADDR : UInt8 := 1

abbrev IKE_ID_IPV6_ADDR : UInt8 := 5

/-! ## Bodies without payloads -/

/-- `IKE_PACKET_TRANSFORM_VALUE`. -/
structure TransformValue where
  /-- `Type`. -/
  valueType : UInt8
  value : Nat
  deriving DecidableEq

/-- `Payload` of `IKE_PACKET_PAYLOAD`, where it holds no list of payloads. -/
inductive Body where
  /-- `IKE_PACKET_TRANSFORM_PAYLOAD`. -/
  | transform (number transformId : UInt8) (valueList : Option (List TransformValue))
  /-- `IKE_PACKET_ID_PAYLOAD`. -/
  | id (idType protocolId : UInt8) (port : Nat) (idData : List UInt8)
  /-- `IKE_PACKET_CERT_PAYLOAD`. -/
  | cert (certType : UInt8) (certData : List UInt8)
  /-- `IKE_PACKET_CERT_REQUEST_PAYLOAD`. -/
  | certRequest (certType : UInt8) (requestData : List UInt8)
  /-- `IKE_PACKET_NOTICE_PAYLOAD`. -/
  | notice (protocolId : UInt8) (messageType : Nat) (spi messageData : List UInt8)
  /-- `IKE_PACKET_DELETE_PAYLOAD`. -/
  | delete (protocolId : UInt8) (spiList : List (List UInt8))
  /-- `IKE_PACKET_NAT_OA_PAYLOAD`. -/
  | natOa (ipAddress : List UInt8)
  /-- `IKE_PACKET_DATA_PAYLOAD`. -/
  | data (generalData : List UInt8)
  deriving DecidableEq

/-- `Value` of a transform value of variable length. -/
def transformValue (tmp : List UInt8) : Nat :=
  if tmp.length = 4 ∨ tmp.length = 2 ∨ tmp.length = 1 then fromBigEndian tmp else 0

def ikeParseTransformValueList (b : List UInt8) : Option (List TransformValue) :=
  match b with
  | [] => some []
  | afBit :: valueType :: high :: low :: rest =>
      let size := 256 * high.toNat + low.toNat
      if afBit = 0 then
        if rest.length < size then none
        else
          (ikeParseTransformValueList (rest.drop size)).map
            (⟨valueType, transformValue (rest.take size)⟩ :: ·)
      else (ikeParseTransformValueList rest).map (⟨valueType, size⟩ :: ·)
  | _ => none
termination_by b.length

def ikeParseTransformPayload (b : List UInt8) : Option Body :=
  if b.length < 4 then none
  else some (.transform (b.getD 0 0) (b.getD 1 0) (ikeParseTransformValueList (b.drop 4)))

def ikeParseIdPayload (b : List UInt8) : Option Body :=
  if b.length < 4 then none
  else some (.id (b.getD 0 0) (b.getD 1 0) (fromBigEndian ((b.drop 2).take 2)) (b.drop 4))

def ikeParseCertPayload (b : List UInt8) : Option Body :=
  if b.length < 1 then none
  else some (.cert (b.getD 0 0) (b.drop 1))

def ikeParseCertRequestPayload (b : List UInt8) : Option Body :=
  if b.length < 1 then none
  else some (.certRequest (b.getD 0 0) (b.drop 1))

def ikeParseNoticePayload (b : List UInt8) : Option Body :=
  if b.length < 8 then none
  else if fromBigEndian (b.take 4) ≠ IKE_SA_DOI_IPSEC then none
  else
    let spiSize := (b.getD 5 0).toNat
    if (b.drop 8).length < spiSize then none
    else
      some (.notice (b.getD 4 0) (fromBigEndian ((b.drop 6).take 2)) ((b.drop 8).take spiSize)
        ((b.drop 8).drop spiSize))

def ikeParseNatOaPayload (b : List UInt8) : Option Body :=
  if b.length < 4 then none
  else if b.getD 0 0 = IKE_ID_IPV4_ADDR then
    if (b.drop 4).length < 4 then none else some (.natOa ((b.drop 4).take 4))
  else if b.getD 0 0 = IKE_ID_IPV6_ADDR then
    if (b.drop 4).length < 16 then none else some (.natOa ((b.drop 4).take 16))
  else none

/-- The loop of `IkeParseDeletePayload`. -/
def readSpis (spiSize : Nat) : Nat → List UInt8 → Option (List (List UInt8))
  | 0, _ => some []
  | numSpi + 1, b =>
      if b.length < spiSize then none
      else (readSpis spiSize numSpi (b.drop spiSize)).map (b.take spiSize :: ·)

def ikeParseDeletePayload (b : List UInt8) : Option Body :=
  if b.length < 8 then none
  else if fromBigEndian (b.take 4) ≠ IKE_SA_DOI_IPSEC then none
  else
    (readSpis (b.getD 5 0).toNat (fromBigEndian ((b.drop 6).take 2)) (b.drop 8)).map
      (.delete (b.getD 4 0))

def ikeParseDataPayload (b : List UInt8) : Option Body :=
  some (.data b)

/-- The branches of `IkeParsePayload` for the payloads that hold no list of payloads. -/
def ikeParseBody (payloadType : UInt8) (b : List UInt8) : Option Body :=
  if payloadType = IKE_PAYLOAD_TRANSFORM then ikeParseTransformPayload b
  else if payloadType = IKE_PAYLOAD_ID then ikeParseIdPayload b
  else if payloadType = IKE_PAYLOAD_CERT then ikeParseCertPayload b
  else if payloadType = IKE_PAYLOAD_CERT_REQUEST then ikeParseCertRequestPayload b
  else if payloadType = IKE_PAYLOAD_NOTICE then ikeParseNoticePayload b
  else if payloadType = IKE_PAYLOAD_DELETE then ikeParseDeletePayload b
  else if payloadType = IKE_PAYLOAD_NAT_OA ∨ payloadType = IKE_PAYLOAD_NAT_OA_DRAFT ∨
      payloadType = IKE_PAYLOAD_NAT_OA_DRAFT_2 then ikeParseNatOaPayload b
  else ikeParseDataPayload b

/-! ## Payloads -/

/-- `IKE_PACKET_PAYLOAD`, with `BitArray` in each of them. -/
inductive Payload where
  /-- `IKE_PACKET_SA_PAYLOAD`. -/
  | sa (bitArray : List UInt8) (payloadList : Option (List Payload))
  /-- `IKE_PACKET_PROPOSAL_PAYLOAD`. -/
  | proposal (bitArray : List UInt8) (number protocolId : UInt8) (spi : List UInt8)
      (payloadList : Option (List Payload))
  /-- The other payloads. -/
  | other (bitArray : List UInt8) (otherType : UInt8) (body : Body)

def Payload.payloadType : Payload → UInt8
  | .sa _ _ => IKE_PAYLOAD_SA
  | .proposal _ _ _ _ _ => IKE_PAYLOAD_PROPOSAL
  | .other _ otherType _ => otherType

def Payload.bitArray : Payload → List UInt8
  | .sa bitArray _ => bitArray
  | .proposal bitArray _ _ _ _ => bitArray
  | .other bitArray _ _ => bitArray

/-- `PayloadList` of a payload that has one. -/
def Payload.payloadList : Payload → Option (List Payload)
  | .sa _ payloadList => payloadList
  | .proposal _ _ _ _ payloadList => payloadList
  | .other _ _ _ => none

/-- The recursion is nested deeper than a bound. -/
inductive TooDeep where
  | tooDeep
  deriving DecidableEq

/-- What `IkeParseSaPayload` hands to `IkeParsePayloadList`, when the header is valid. -/
def saRest (b : List UInt8) : Option (List UInt8) :=
  if b.length < 8 then none
  else if fromBigEndian (b.take 4) ≠ IKE_SA_DOI_IPSEC then none
  else if fromBigEndian ((b.drop 4).take 4) ≠ IKE_SA_SITUATION_IDENTITY then none
  else some (b.drop 8)

/-- What `IkeParseProposalPayload` hands to `IkeParsePayloadList`, when the header is valid. -/
def proposalRest (b : List UInt8) : Option (List UInt8) :=
  if b.length < 4 then none
  else if (b.drop 4).length < (b.getD 2 0).toNat then none
  else some ((b.drop 4).drop (b.getD 2 0).toNat)

section Lists

variable (ikeParsePayloadList : List UInt8 → UInt8 → Except TooDeep (Option (List Payload)))

def ikeParseSaPayload (b : List UInt8) : Except TooDeep (Option Payload) :=
  match saRest b with
  | none => .ok none
  | some rest =>
      (ikeParsePayloadList rest IKE_PAYLOAD_PROPOSAL).map fun payloadList =>
        some (.sa b payloadList)

def ikeParseProposalPayload (b : List UInt8) : Except TooDeep (Option Payload) :=
  match proposalRest b with
  | none => .ok none
  | some rest =>
      (ikeParsePayloadList rest IKE_PAYLOAD_TRANSFORM).map fun payloadList =>
        some (.proposal b (b.getD 0 0) (b.getD 1 0) ((b.drop 4).take (b.getD 2 0).toNat)
          payloadList)

def ikeParsePayload (payloadType : UInt8) (b : List UInt8) : Except TooDeep (Option Payload) :=
  if payloadType = IKE_PAYLOAD_SA then ikeParseSaPayload ikeParsePayloadList b
  else if payloadType = IKE_PAYLOAD_PROPOSAL then ikeParseProposalPayload ikeParsePayloadList b
  else .ok ((ikeParseBody payloadType b).map (.other b payloadType))

end Lists

/-- The loop of `IkeParsePayloadListEx`: the payloads, and how much has been read.  Supported
types and others are treated alike. -/
def ikeParsePayloadListLoop
    (ikeParsePayload : UInt8 → List UInt8 → Except TooDeep (Option Payload))
    (data : List UInt8)
    (payloadType : UInt8) :
    Except TooDeep (Option (List Payload) × Nat) :=
  if payloadType = IKE_PAYLOAD_NONE then .ok (some [], 0)
  else
    match data with
    | nextPayload :: _ :: high :: low :: rest =>
        let payloadSize := 256 * high.toNat + low.toNat
        if payloadSize < 4 then .ok (none, 4)
        else if rest.length < payloadSize - 4 then .ok (none, 4)
        else
          match ikeParsePayload payloadType (rest.take (payloadSize - 4)) with
          | .error deep => .error deep
          | .ok none => .ok (none, payloadSize)
          | .ok (some pay) =>
              (ikeParsePayloadListLoop ikeParsePayload (rest.drop (payloadSize - 4))
                nextPayload).map fun others =>
                  (others.1.map (pay :: ·), payloadSize + others.2)
    | _ => .ok (none, 0)
termination_by data.length

/-- `IkeParsePayloadListEx`, nested into itself so many times at most. -/
def ikeParsePayloadListEx :
    Nat → List UInt8 → UInt8 → Except TooDeep (Option (List Payload) × Nat)
  | 0, _, _ => .error .tooDeep
  | levels + 1, data, firstPayload =>
      ikeParsePayloadListLoop
        (ikeParsePayload fun data firstPayload =>
          (ikeParsePayloadListEx levels data firstPayload).map Prod.fst)
        data firstPayload

/-- A payload as the SAs look at it. -/
def Payload.packetPayload (p : Payload) : PacketPayload :=
  ⟨p.payloadType, p.bitArray⟩

/-- `IKE_PACKET`. -/
structure ParsedPacket where
  packet : Packet
  /-- `PayloadList` with all that the payloads hold, unless it could not be parsed. -/
  payloadList : Option (List Payload)

section Packets

variable (decrypt : List UInt8 → List UInt8 → List UInt8 → List UInt8)

/-- What `IkeParse` hands to `IkeParsePayloadListEx`, when the header is valid and the payload
can be decrypted. -/
def payloadData (cparam : Option CryptoParam) (data : List UInt8) : Option (List UInt8) :=
  if HeaderFits data then
    if isEncrypted data then (ikeDecrypt decrypt cparam (payloadOf data)).map Prod.fst
    else some (payloadOf data)
  else none

/-- `IkeParse`, where `IkeParsePayloadListEx` is nested so many times at most. -/
def ikeParse (levels : Nat) (cparam : Option CryptoParam) (data : List UInt8) :
    Except TooDeep (Option ParsedPacket) :=
  match payloadData decrypt cparam data with
  | none => .ok none
  | some payload =>
      (ikeParsePayloadListEx levels payload (data.getD 16 0)).map fun parsed =>
        some
          { packet :=
              { headerOf data with
                payloadList := parsed.1.map (List.map Payload.packetPayload)
                decryptedPayload := if isEncrypted data then payload.take parsed.2 else payload }
            payloadList := parsed.1 }

end Packets

end Payloads
end Ike
end SoftEther
