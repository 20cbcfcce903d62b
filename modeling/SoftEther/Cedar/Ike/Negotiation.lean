import SoftEther.Cedar.Ike.Defs
import SoftEther.Library.Matches

/-!
# The negotiation of an IPsec SA

`GetBestTransformSettingForIPsecSa` takes the first transform of the SA payload that it can
convert to a setting, and the answer has a transform that is built from the setting.  A setting
has the cipher, the hash, the group, the lives and the mode of one offer, and the transform that
is built from it is converted to it again, unless the offer has a group that the server does not
know.
-/

namespace SoftEther
namespace Ike

open Library

abbrev IKE_PAYLOAD_SA : UInt8 := 1

abbrev IKE_PAYLOAD_PROPOSAL : UInt8 := 2

abbrev IKE_PAYLOAD_TRANSFORM : UInt8 := 3

abbrev IKE_PROTOCOL_ID_IPSEC_ESP : UInt8 := 3

abbrev IKE_TRANSFORM_VALUE_P2_LIFE_TYPE : UInt8 := 1

abbrev IKE_TRANSFORM_VALUE_P2_LIFE_VALUE : UInt8 := 2

abbrev IKE_TRANSFORM_VALUE_P2_DH_GROUP : UInt8 := 3

abbrev IKE_TRANSFORM_VALUE_P2_CAPSULE : UInt8 := 4

abbrev IKE_TRANSFORM_VALUE_P2_HMAC : UInt8 := 5

abbrev IKE_TRANSFORM_VALUE_P2_KEY_SIZE : UInt8 := 6

abbrev IKE_P2_LIFE_TYPE_SECONDS : UInt32 := 1

abbrev IKE_P2_LIFE_TYPE_KILOBYTES : UInt32 := 2

abbrev IKE_P2_CAPSULE_TUNNEL : UInt32 := 1

abbrev IKE_P2_CAPSULE_TRANSPORT : UInt32 := 2

abbrev IKE_P2_CAPSULE_NAT_TUNNEL_1 : UInt32 := 3

abbrev IKE_P2_CAPSULE_NAT_TRANSPORT_1 : UInt32 := 4

abbrev IKE_P2_CAPSULE_NAT_TUNNEL_2 : UInt32 := 61443

abbrev IKE_P2_CAPSULE_NAT_TRANSPORT_2 : UInt32 := 61444

abbrev INFINITE : UInt32 := 0xFFFFFFFF

def MAX_IKE_ENGINE_ELEMENTS : UInt32 := 64

structure IkeHash where
  hashSize : Nat
  deriving DecidableEq

structure IkeDh where
  keySize : Nat
  deriving DecidableEq

/-- `EspCryptos` of `NewIkeEngine`: DES, 3DES and AES. -/
def espCryptos (i : UInt32) : Option IkeCrypto :=
  if i = 2 then some { blockSize := 8, keySizes := [8] }
  else if i = 3 then some { blockSize := 8, keySizes := [24] }
  else if i = 12 then some { blockSize := 16, keySizes := [16, 24, 32] }
  else none

/-- `EspHashes` of `NewIkeEngine`: MD5 and SHA-1. -/
def espHashes (i : UInt32) : Option IkeHash :=
  if i = 1 then some { hashSize := 16 }
  else if i = 2 then some { hashSize := 20 }
  else none

/-- `EspDhs` of `NewIkeEngine`. -/
def espDhs (i : UInt32) : Option IkeDh :=
  if i = 1 then some { keySize := 96 }
  else if i = 2 then some { keySize := 128 }
  else if i = 5 then some { keySize := 192 }
  else if i = 14 then some { keySize := 256 }
  else if i = 15 then some { keySize := 384 }
  else if i = 16 then some { keySize := 512 }
  else none

def engineElement {Algorithm : Type} (table : UInt32 → Option Algorithm) (i : UInt32) :
    Option Algorithm :=
  if i = 0 ∨ MAX_IKE_ENGINE_ELEMENTS ≤ i then none else table i

/-- `GetIkeCrypto` for ESP. -/
def getIkeCrypto (i : UInt32) : Option IkeCrypto :=
  engineElement espCryptos i

/-- `GetIkeHash` for ESP. -/
def getIkeHash (i : UInt32) : Option IkeHash :=
  engineElement espHashes i

/-- `GetIkeDh` for ESP. -/
def getIkeDh (i : UInt32) : Option IkeDh :=
  engineElement espDhs i

/-- `VariableKeySize`: `NewIkeCrypto` sets it for two sizes or more. -/
def IkeCrypto.variableKeySize (c : IkeCrypto) : Bool :=
  2 ≤ c.keySizes.length

def ikeCheckKeySize (c : IkeCrypto) (size : UInt32) : Bool :=
  size ≠ 0 ∧ size.toNat ∈ c.keySizes

/-- `IKE_PACKET_TRANSFORM_VALUE`. -/
structure TransformValue where
  type : UInt8
  value : UInt32
  deriving DecidableEq

/-- `IKE_PACKET_TRANSFORM_PAYLOAD`. -/
structure TransformPayload where
  number : UInt8
  transformId : UInt8
  valueList : List TransformValue
  deriving DecidableEq

/-- `IKE_PACKET_PAYLOAD`, as far as it takes part in the negotiation. -/
inductive Payload where
  /-- `IKE_PACKET_SA_PAYLOAD`. -/
  | sa (payloadList : List Payload)
  /-- `IKE_PACKET_PROPOSAL_PAYLOAD`. -/
  | proposal (number protocolId : UInt8) (spi : List UInt8) (payloadList : List Payload)
  /-- `IKE_PACKET_TRANSFORM_PAYLOAD`. -/
  | transform (payload : TransformPayload)
  | other (payloadType : UInt8)

def Payload.payloadType : Payload → UInt8
  | .sa _ => IKE_PAYLOAD_SA
  | .proposal _ _ _ _ => IKE_PAYLOAD_PROPOSAL
  | .transform _ => IKE_PAYLOAD_TRANSFORM
  | .other payloadType => payloadType

def ikeGetPayload (o : List Payload) (payloadType : UInt8) (index : Nat) : Option Payload :=
  numberedMatch (fun p => p.payloadType = payloadType) o index

/-- What the loops up to `IkeGetPayloadNum` see. -/
def payloadsOf (o : List Payload) (payloadType : UInt8) : List Payload :=
  visitMatches (fun p => p.payloadType = payloadType) o

def ikeGetTransformValue (t : TransformPayload) (type : UInt8) (index : Nat) : UInt32 :=
  ((numberedMatch (fun v => v.type = type) t.valueList index).map TransformValue.value).getD 0

def ikeGetTransformValueNum (t : TransformPayload) (type : UInt8) : Nat :=
  t.valueList.countP fun v => v.type = type

def ikeNewTransformValue (type : UInt8) (value : UInt32) : TransformValue where
  type := type
  value := value

structure IPsecSaTransformSetting where
  crypto : Option IkeCrypto := none
  cryptoKeySize : UInt32 := 0
  hash : Option IkeHash := none
  dh : Option IkeDh := none
  cryptoId : UInt32 := 0
  hashId : UInt32 := 0
  dhId : UInt32 := 0
  lifeKilobytes : UInt32 := 0
  lifeSeconds : UInt32 := 0
  spiServerToClient : UInt32 := 0
  capsuleMode : UInt32 := 0
  onlyCapsuleModeIsInvalid : Bool := false
  deriving DecidableEq

/-- The loop over the life types, from one number on: each stands with the life value of its
number. -/
def lifeLoop (t : TransformPayload) :
    List Nat → IPsecSaTransformSetting → Bool × IPsecSaTransformSetting
  | [], setting => (true, setting)
  | i :: rest, setting =>
      let lifeType := ikeGetTransformValue t IKE_TRANSFORM_VALUE_P2_LIFE_TYPE i
      let lifeValue := ikeGetTransformValue t IKE_TRANSFORM_VALUE_P2_LIFE_VALUE i
      if lifeType = IKE_P2_LIFE_TYPE_SECONDS then
        lifeLoop t rest { setting with lifeSeconds := lifeValue }
      else if lifeType = IKE_P2_LIFE_TYPE_KILOBYTES then
        lifeLoop t rest { setting with lifeKilobytes := lifeValue }
      else (false, setting)

def takeKeySize (t : TransformPayload) (crypto : IkeCrypto) (setting : IPsecSaTransformSetting) :
    Bool × IPsecSaTransformSetting :=
  if crypto.variableKeySize then
    let cryptoKeySize := ikeGetTransformValue t IKE_TRANSFORM_VALUE_P2_KEY_SIZE 0 / 8
    (cryptoKeySize ≠ 0 && ikeCheckKeySize crypto cryptoKeySize,
      { setting with cryptoKeySize := cryptoKeySize })
  else (true, { setting with cryptoKeySize := UInt32.ofNat (crypto.keySizes.headD 0) })

def takeCapsuleMode
    (isEspSupported : Bool)
    (t : TransformPayload)
    (setting : IPsecSaTransformSetting) :
    Bool × IPsecSaTransformSetting :=
  let capsuleMode := ikeGetTransformValue t IKE_TRANSFORM_VALUE_P2_CAPSULE 0
  if capsuleMode ≠ IKE_P2_CAPSULE_NAT_TUNNEL_1 ∧ capsuleMode ≠ IKE_P2_CAPSULE_NAT_TUNNEL_2 ∧
      capsuleMode ≠ IKE_P2_CAPSULE_NAT_TRANSPORT_1 ∧
      capsuleMode ≠ IKE_P2_CAPSULE_NAT_TRANSPORT_2 then
    if capsuleMode = IKE_P2_CAPSULE_TRANSPORT ∨ capsuleMode = IKE_P2_CAPSULE_TUNNEL then
      if isEspSupported = false then (false, { setting with onlyCapsuleModeIsInvalid := true })
      else (true, { setting with capsuleMode := capsuleMode })
    else (false, setting)
  else (true, { setting with capsuleMode := capsuleMode })

def transformPayloadToTransformSettingForIPsecSa (isEspSupported : Bool) (t : TransformPayload) :
    Bool × IPsecSaTransformSetting :=
  let setting : IPsecSaTransformSetting := {
    cryptoId := t.transformId.toUInt32
    hashId := ikeGetTransformValue t IKE_TRANSFORM_VALUE_P2_HMAC 0
    dhId := ikeGetTransformValue t IKE_TRANSFORM_VALUE_P2_DH_GROUP 0
    lifeKilobytes := INFINITE
    lifeSeconds := INFINITE }
  let lives := lifeLoop t
    (List.range (ikeGetTransformValueNum t IKE_TRANSFORM_VALUE_P2_LIFE_TYPE)) setting
  if lives.1 = false then lives
  else
    let setting := { lives.2 with
      crypto := getIkeCrypto lives.2.cryptoId
      hash := getIkeHash lives.2.hashId
      dh := getIkeDh lives.2.dhId }
    match setting.crypto with
    | none => (false, setting)
    | some crypto =>
        if setting.hash = none then (false, setting)
        else
          let sized := takeKeySize t crypto setting
          if sized.1 = false then sized else takeCapsuleMode isEspSupported t sized.2

def transformSettingToTransformPayloadForIPsec (setting : IPsecSaTransformSetting) :
    TransformPayload where
  number := 1
  transformId := setting.cryptoId.toUInt8
  valueList :=
    [ikeNewTransformValue IKE_TRANSFORM_VALUE_P2_HMAC setting.hashId] ++
    (if setting.dh ≠ none then
      [ikeNewTransformValue IKE_TRANSFORM_VALUE_P2_DH_GROUP setting.dhId] else []) ++
    (if setting.lifeSeconds ≠ INFINITE then
      [ikeNewTransformValue IKE_TRANSFORM_VALUE_P2_LIFE_TYPE IKE_P2_LIFE_TYPE_SECONDS,
        ikeNewTransformValue IKE_TRANSFORM_VALUE_P2_LIFE_VALUE setting.lifeSeconds] else []) ++
    (if setting.lifeKilobytes ≠ INFINITE then
      [ikeNewTransformValue IKE_TRANSFORM_VALUE_P2_LIFE_TYPE IKE_P2_LIFE_TYPE_KILOBYTES,
        ikeNewTransformValue IKE_TRANSFORM_VALUE_P2_LIFE_VALUE setting.lifeKilobytes]
      else []) ++
    -- `Crypto` of a setting that was accepted is not `NULL`.
    (if setting.crypto.any IkeCrypto.variableKeySize then
      [ikeNewTransformValue IKE_TRANSFORM_VALUE_P2_KEY_SIZE (setting.cryptoKeySize * 8)]
      else []) ++
    [ikeNewTransformValue IKE_TRANSFORM_VALUE_P2_CAPSULE setting.capsuleMode]

/-- A transform that is offered, and the SPI of its proposal. -/
structure Offer where
  spi : List UInt8
  transform : TransformPayload
  deriving DecidableEq

/-- The transforms of a proposal that is looked into: one for ESP with an SPI of four bytes. -/
def Payload.offers : Payload → List Offer
  | .proposal _ protocolId spi payloadList =>
      if protocolId = IKE_PROTOCOL_ID_IPSEC_ESP ∧ spi.length = 4 then
        (payloadsOf payloadList IKE_PAYLOAD_TRANSFORM).filterMap fun p =>
          match p with
          | .transform payload => some { spi := spi, transform := payload }
          | _ => none
      else []
  | _ => []

/-- The transforms that the two loops go over. -/
def offersOf (pr : List Payload) : List Offer :=
  match ikeGetPayload pr IKE_PAYLOAD_SA 0 with
  | some (.sa payloadList) => (payloadsOf payloadList IKE_PAYLOAD_PROPOSAL).flatMap Payload.offers
  | _ => []

/-- The loops: the first setting that failed only because of its mode is kept. -/
def scanOffers (isEspSupported : Bool) :
    List Offer → Bool → IPsecSaTransformSetting → Bool × IPsecSaTransformSetting
  | [], _, setting => (false, setting)
  | offer :: rest, ocmiiFlag, setting =>
      let set := transformPayloadToTransformSettingForIPsecSa isEspSupported offer.transform
      if set.1 then
        (true, { set.2 with spiServerToClient := UInt32.ofNat (fromBigEndian offer.spi) })
      else if set.2.onlyCapsuleModeIsInvalid ∧ ocmiiFlag = false then
        scanOffers isEspSupported rest true set.2
      else scanOffers isEspSupported rest ocmiiFlag setting

def getBestTransformSettingForIPsecSa (isEspSupported : Bool) (pr : List Payload) :
    Bool × IPsecSaTransformSetting :=
  scanOffers isEspSupported (offersOf pr) false {}

namespace TransformPayload

variable (t : TransformPayload)

def offeredCrypto : Option IkeCrypto :=
  getIkeCrypto t.transformId.toUInt32

def offeredHash : UInt32 :=
  ikeGetTransformValue t IKE_TRANSFORM_VALUE_P2_HMAC 0

/-- The group that is offered for perfect forward secrecy; 0 when there is none. -/
def offeredGroup : UInt32 :=
  ikeGetTransformValue t IKE_TRANSFORM_VALUE_P2_DH_GROUP 0

def offeredKeyBits : UInt32 :=
  ikeGetTransformValue t IKE_TRANSFORM_VALUE_P2_KEY_SIZE 0

def offeredCapsuleMode : UInt32 :=
  ikeGetTransformValue t IKE_TRANSFORM_VALUE_P2_CAPSULE 0

def lifeNumbers (kind : UInt32) (numbers : List Nat) : List Nat :=
  numbers.filter fun i => ikeGetTransformValue t IKE_TRANSFORM_VALUE_P2_LIFE_TYPE i = kind

def lastLife (kind : UInt32) (numbers : List Nat) (otherwise : UInt32) : UInt32 :=
  ((t.lifeNumbers kind numbers).getLast?.map
    (ikeGetTransformValue t IKE_TRANSFORM_VALUE_P2_LIFE_VALUE)).getD otherwise

/-- The life that is offered, of one kind; without an end when there is none. -/
def offeredLife (kind : UInt32) : UInt32 :=
  t.lastLife kind (List.range (ikeGetTransformValueNum t IKE_TRANSFORM_VALUE_P2_LIFE_TYPE))
    INFINITE

theorem lastLife_cons_of_eq
    {kind : UInt32}
    {i : Nat}
    (isKind : ikeGetTransformValue t IKE_TRANSFORM_VALUE_P2_LIFE_TYPE i = kind)
    (rest : List Nat)
    (otherwise : UInt32) :
    t.lastLife kind (i :: rest) otherwise =
      t.lastLife kind rest (ikeGetTransformValue t IKE_TRANSFORM_VALUE_P2_LIFE_VALUE i) := by
  rw [lastLife, lifeNumbers, List.filter_cons_of_pos (by simpa using isKind), List.getLast?_cons]
  unfold lastLife lifeNumbers
  cases (rest.filter fun i =>
    ikeGetTransformValue t IKE_TRANSFORM_VALUE_P2_LIFE_TYPE i = kind).getLast? with
  | none => rfl
  | some last => rfl

theorem lastLife_cons_of_ne
    {kind : UInt32}
    {i : Nat}
    (isOther : ikeGetTransformValue t IKE_TRANSFORM_VALUE_P2_LIFE_TYPE i ≠ kind)
    (rest : List Nat)
    (otherwise : UInt32) :
    t.lastLife kind (i :: rest) otherwise = t.lastLife kind rest otherwise := by
  rw [lastLife, lifeNumbers, List.filter_cons_of_neg (by simpa using isOther)]
  rfl

theorem lifeLoop_snd
    {numbers : List Nat}
    {setting : IPsecSaTransformSetting}
    (through : (lifeLoop t numbers setting).1 = true) :
    (lifeLoop t numbers setting).2 = { setting with
      lifeSeconds := t.lastLife IKE_P2_LIFE_TYPE_SECONDS numbers setting.lifeSeconds
      lifeKilobytes := t.lastLife IKE_P2_LIFE_TYPE_KILOBYTES numbers setting.lifeKilobytes } := by
  induction numbers generalizing setting with
  | nil => rfl
  | cons i rest inductionHypothesis =>
      rw [lifeLoop] at through ⊢
      by_cases seconds : ikeGetTransformValue t IKE_TRANSFORM_VALUE_P2_LIFE_TYPE i =
          IKE_P2_LIFE_TYPE_SECONDS
      · have other : ikeGetTransformValue t IKE_TRANSFORM_VALUE_P2_LIFE_TYPE i ≠
            IKE_P2_LIFE_TYPE_KILOBYTES := by
          rw [seconds]
          decide
        rw [if_pos seconds] at through ⊢
        rw [inductionHypothesis through, t.lastLife_cons_of_eq seconds, t.lastLife_cons_of_ne other]
      rw [if_neg seconds] at through ⊢
      by_cases kilobytes : ikeGetTransformValue t IKE_TRANSFORM_VALUE_P2_LIFE_TYPE i =
          IKE_P2_LIFE_TYPE_KILOBYTES
      · rw [if_pos kilobytes] at through ⊢
        rw [inductionHypothesis through, t.lastLife_cons_of_ne seconds,
          t.lastLife_cons_of_eq kilobytes]
      · rw [if_neg kilobytes] at through
        exact nomatch through

end TransformPayload

/-! ## Settings that are accepted -/

/-- The size of the key in bytes, as it is taken from an offer. -/
def TransformPayload.keySizeOf (t : TransformPayload) (crypto : IkeCrypto) : UInt32 :=
  if crypto.variableKeySize then t.offeredKeyBits / 8
  else UInt32.ofNat (crypto.keySizes.headD 0)

def AcceptedMode (isEspSupported : Bool) (capsuleMode : UInt32) : Prop :=
  capsuleMode = IKE_P2_CAPSULE_NAT_TUNNEL_1 ∨ capsuleMode = IKE_P2_CAPSULE_NAT_TUNNEL_2 ∨
    capsuleMode = IKE_P2_CAPSULE_NAT_TRANSPORT_1 ∨ capsuleMode = IKE_P2_CAPSULE_NAT_TRANSPORT_2 ∨
    isEspSupported = true ∧
      (capsuleMode = IKE_P2_CAPSULE_TRANSPORT ∨ capsuleMode = IKE_P2_CAPSULE_TUNNEL)

/-- An offer that is accepted, with its cipher and its hash. -/
structure Accepted
    (isEspSupported : Bool)
    (t : TransformPayload)
    (crypto : IkeCrypto)
    (hash : IkeHash) : Prop where
  cryptoKnown : t.offeredCrypto = some crypto
  hashKnown : getIkeHash t.offeredHash = some hash
  lives : ∀ i < ikeGetTransformValueNum t IKE_TRANSFORM_VALUE_P2_LIFE_TYPE,
    ikeGetTransformValue t IKE_TRANSFORM_VALUE_P2_LIFE_TYPE i = IKE_P2_LIFE_TYPE_SECONDS ∨
      ikeGetTransformValue t IKE_TRANSFORM_VALUE_P2_LIFE_TYPE i = IKE_P2_LIFE_TYPE_KILOBYTES
  keySize : crypto.variableKeySize = true → ikeCheckKeySize crypto (t.offeredKeyBits / 8) = true
  capsuleMode : AcceptedMode isEspSupported t.offeredCapsuleMode

def TransformPayload.settingOf (t : TransformPayload) (crypto : IkeCrypto) (hash : IkeHash) :
    IPsecSaTransformSetting where
  crypto := some crypto
  cryptoKeySize := t.keySizeOf crypto
  hash := some hash
  dh := getIkeDh t.offeredGroup
  cryptoId := t.transformId.toUInt32
  hashId := t.offeredHash
  dhId := t.offeredGroup
  lifeKilobytes := t.offeredLife IKE_P2_LIFE_TYPE_KILOBYTES
  lifeSeconds := t.offeredLife IKE_P2_LIFE_TYPE_SECONDS
  capsuleMode := t.offeredCapsuleMode

theorem lifeLoop_fst_iff
    (t : TransformPayload)
    (numbers : List Nat)
    (setting : IPsecSaTransformSetting) :
    (lifeLoop t numbers setting).1 = true ↔
      ∀ i ∈ numbers,
        ikeGetTransformValue t IKE_TRANSFORM_VALUE_P2_LIFE_TYPE i = IKE_P2_LIFE_TYPE_SECONDS ∨
          ikeGetTransformValue t IKE_TRANSFORM_VALUE_P2_LIFE_TYPE i =
            IKE_P2_LIFE_TYPE_KILOBYTES := by
  induction numbers generalizing setting with
  | nil => simp [lifeLoop]
  | cons i rest inductionHypothesis =>
      rw [lifeLoop, List.forall_mem_cons]
      by_cases seconds : ikeGetTransformValue t IKE_TRANSFORM_VALUE_P2_LIFE_TYPE i =
          IKE_P2_LIFE_TYPE_SECONDS
      · rw [if_pos seconds, inductionHypothesis]
        exact (and_iff_right (Or.inl seconds)).symm
      rw [if_neg seconds]
      by_cases kilobytes : ikeGetTransformValue t IKE_TRANSFORM_VALUE_P2_LIFE_TYPE i =
          IKE_P2_LIFE_TYPE_KILOBYTES
      · rw [if_pos kilobytes, inductionHypothesis]
        exact (and_iff_right (Or.inr kilobytes)).symm
      · rw [if_neg kilobytes]
        constructor
        · intro through
          exact nomatch through
        · intro all
          exact (all.1.elim seconds kilobytes).elim

theorem takeCapsuleMode_cases
    (isEspSupported : Bool)
    (t : TransformPayload)
    (setting : IPsecSaTransformSetting) :
    AcceptedMode isEspSupported t.offeredCapsuleMode ∧
        takeCapsuleMode isEspSupported t setting =
          (true, { setting with capsuleMode := t.offeredCapsuleMode }) ∨
      ¬AcceptedMode isEspSupported t.offeredCapsuleMode ∧
        (takeCapsuleMode isEspSupported t setting).1 = false := by
  unfold takeCapsuleMode AcceptedMode TransformPayload.offeredCapsuleMode
  generalize ikeGetTransformValue t IKE_TRANSFORM_VALUE_P2_CAPSULE 0 = capsuleMode
  dsimp only
  by_cases plain : capsuleMode ≠ IKE_P2_CAPSULE_NAT_TUNNEL_1 ∧
      capsuleMode ≠ IKE_P2_CAPSULE_NAT_TUNNEL_2 ∧
      capsuleMode ≠ IKE_P2_CAPSULE_NAT_TRANSPORT_1 ∧
      capsuleMode ≠ IKE_P2_CAPSULE_NAT_TRANSPORT_2
  · rw [if_pos plain]
    by_cases known : capsuleMode = IKE_P2_CAPSULE_TRANSPORT ∨ capsuleMode = IKE_P2_CAPSULE_TUNNEL
    · rw [if_pos known]
      cases isEspSupported with
      | false =>
          right
          simp [plain]
      | true =>
          left
          simp [known]
    · rw [if_neg known]
      right
      simp [plain, known]
  · rw [if_neg plain]
    left
    refine ⟨?_, rfl⟩
    by_contra other
    apply plain
    tauto

theorem takeKeySize_eq
    (t : TransformPayload)
    (crypto : IkeCrypto)
    (setting : IPsecSaTransformSetting) :
    (takeKeySize t crypto setting).2 = { setting with cryptoKeySize := t.keySizeOf crypto } ∧
      ((takeKeySize t crypto setting).1 = true ↔
        (crypto.variableKeySize = true →
          ikeCheckKeySize crypto (t.offeredKeyBits / 8) = true)) := by
  unfold takeKeySize TransformPayload.keySizeOf
  by_cases isVariable : crypto.variableKeySize = true
  · rw [if_pos isVariable, if_pos isVariable]
    refine ⟨rfl, ?_⟩
    simp only [isVariable, forall_const, TransformPayload.offeredKeyBits]
    generalize ikeGetTransformValue t IKE_TRANSFORM_VALUE_P2_KEY_SIZE 0 / 8 = size
    by_cases zero : size = 0
    · simp [zero, ikeCheckKeySize]
    · simp [zero]
  · rw [if_neg isVariable, if_neg isVariable]
    simp [isVariable]

theorem sizeAndMode_cases
    (isEspSupported : Bool)
    (t : TransformPayload)
    (crypto : IkeCrypto)
    (setting : IPsecSaTransformSetting) :
    ((crypto.variableKeySize = true → ikeCheckKeySize crypto (t.offeredKeyBits / 8) = true) ∧
        AcceptedMode isEspSupported t.offeredCapsuleMode) ∧
      (if (takeKeySize t crypto setting).1 = false then takeKeySize t crypto setting
        else takeCapsuleMode isEspSupported t (takeKeySize t crypto setting).2) =
        (true, { setting with
          cryptoKeySize := t.keySizeOf crypto
          capsuleMode := t.offeredCapsuleMode }) ∨
    ¬((crypto.variableKeySize = true → ikeCheckKeySize crypto (t.offeredKeyBits / 8) = true) ∧
        AcceptedMode isEspSupported t.offeredCapsuleMode) ∧
      (if (takeKeySize t crypto setting).1 = false then takeKeySize t crypto setting
        else takeCapsuleMode isEspSupported t (takeKeySize t crypto setting).2).1 = false := by
  obtain ⟨size, sizeIff⟩ := takeKeySize_eq t crypto setting
  by_cases sized : (takeKeySize t crypto setting).1 = true
  · rw [if_neg (by rw [sized]; decide), size]
    obtain ⟨mode, taken⟩ | ⟨mode, refused⟩ := takeCapsuleMode_cases isEspSupported t
      { setting with cryptoKeySize := t.keySizeOf crypto }
    · exact Or.inl ⟨⟨sizeIff.mp sized, mode⟩, taken⟩
    · exact Or.inr ⟨fun both => mode both.2, refused⟩
  · have small := Bool.eq_false_of_not_eq_true sized
    rw [if_pos small]
    exact Or.inr ⟨fun both => sized (sizeIff.mpr both.1), small⟩

theorem transformPayloadToTransformSettingForIPsecSa_cases
    (isEspSupported : Bool)
    (t : TransformPayload) :
    (∃ crypto hash, Accepted isEspSupported t crypto hash ∧
      transformPayloadToTransformSettingForIPsecSa isEspSupported t =
        (true, t.settingOf crypto hash)) ∨
      (¬∃ crypto hash, Accepted isEspSupported t crypto hash) ∧
        (transformPayloadToTransformSettingForIPsecSa isEspSupported t).1 = false := by
  unfold transformPayloadToTransformSettingForIPsecSa
  dsimp only
  generalize startIs : ({
    cryptoId := t.transformId.toUInt32
    hashId := ikeGetTransformValue t IKE_TRANSFORM_VALUE_P2_HMAC 0
    dhId := ikeGetTransformValue t IKE_TRANSFORM_VALUE_P2_DH_GROUP 0
    lifeKilobytes := INFINITE
    lifeSeconds := INFINITE } : IPsecSaTransformSetting) = start
  have kinds := lifeLoop_fst_iff t
    (List.range (ikeGetTransformValueNum t IKE_TRANSFORM_VALUE_P2_LIFE_TYPE)) start
  simp only [List.mem_range] at kinds
  by_cases through : (lifeLoop t
      (List.range (ikeGetTransformValueNum t IKE_TRANSFORM_VALUE_P2_LIFE_TYPE)) start).1 = true
  · have lives := t.lifeLoop_snd through
    rw [if_neg (by rw [through]; decide), lives]
    clear lives
    subst startIs
    dsimp only
    cases cryptoIs : getIkeCrypto t.transformId.toUInt32 with
    | none =>
        right
        refine ⟨?_, rfl⟩
        rintro ⟨crypto, hash, accepted⟩
        exact nomatch cryptoIs.symm.trans accepted.cryptoKnown
    | some crypto =>
        dsimp only
        cases hashIs : getIkeHash (ikeGetTransformValue t IKE_TRANSFORM_VALUE_P2_HMAC 0) with
        | none =>
            right
            refine ⟨?_, rfl⟩
            rintro ⟨crypto, hash, accepted⟩
            exact nomatch hashIs.symm.trans accepted.hashKnown
        | some hash =>
            rw [if_neg (by simp)]
            obtain ⟨⟨keySize, mode⟩, made⟩ | ⟨fails, made⟩ := sizeAndMode_cases isEspSupported t
              crypto { t.settingOf crypto hash with cryptoKeySize := 0, capsuleMode := 0 }
            · left
              refine ⟨crypto, hash, ?_, made⟩
              exact {
                cryptoKnown := cryptoIs
                hashKnown := hashIs
                lives := kinds.mp through
                keySize := keySize
                capsuleMode := mode }
            · right
              refine ⟨?_, made⟩
              rintro ⟨other, otherHash, accepted⟩
              cases accepted.cryptoKnown.symm.trans cryptoIs
              exact fails ⟨accepted.keySize, accepted.capsuleMode⟩
  · right
    rw [if_pos (Bool.eq_false_of_not_eq_true through)]
    refine ⟨?_, Bool.eq_false_of_not_eq_true through⟩
    rintro ⟨crypto, hash, accepted⟩
    exact through (kinds.mpr accepted.lives)

/-! ## The transform that is built -/

def TransformPayload.valuesOf (t : TransformPayload) (type : UInt8) : List UInt32 :=
  (t.valueList.filter fun v => v.type = type).map TransformValue.value

theorem ikeGetTransformValue_eq (t : TransformPayload) (type : UInt8) (index : Nat) :
    ikeGetTransformValue t type index = (t.valuesOf type)[index]?.getD 0 := by
  rw [ikeGetTransformValue, numberedMatch_eq, TransformPayload.valuesOf, List.getElem?_map]

theorem ikeGetTransformValueNum_eq (t : TransformPayload) (type : UInt8) :
    ikeGetTransformValueNum t type = (t.valuesOf type).length := by
  rw [ikeGetTransformValueNum, List.countP_eq_length_filter, TransformPayload.valuesOf,
    List.length_map]

theorem valuesOf_optional
    (condition : Prop)
    [Decidable condition]
    (values : List TransformValue)
    (type : UInt8) :
    ((if condition then values else []).filter fun v => v.type = type).map TransformValue.value =
      if condition then (values.filter fun v => v.type = type).map TransformValue.value
      else [] := by
  by_cases holds : condition
  · rw [if_pos holds, if_pos holds]
  · rw [if_neg holds, if_neg holds]
    rfl

section

variable (setting : IPsecSaTransformSetting)

theorem valuesOf_build :
    let t := transformSettingToTransformPayloadForIPsec setting
    t.valuesOf IKE_TRANSFORM_VALUE_P2_HMAC = [setting.hashId] ∧
      t.valuesOf IKE_TRANSFORM_VALUE_P2_DH_GROUP =
        (if setting.dh ≠ none then [setting.dhId] else []) ∧
      t.valuesOf IKE_TRANSFORM_VALUE_P2_KEY_SIZE =
        (if setting.crypto.any IkeCrypto.variableKeySize then [setting.cryptoKeySize * 8]
        else []) ∧
      t.valuesOf IKE_TRANSFORM_VALUE_P2_CAPSULE = [setting.capsuleMode] ∧
      t.valuesOf IKE_TRANSFORM_VALUE_P2_LIFE_TYPE =
        (if setting.lifeSeconds ≠ INFINITE then [IKE_P2_LIFE_TYPE_SECONDS] else []) ++
          (if setting.lifeKilobytes ≠ INFINITE then [IKE_P2_LIFE_TYPE_KILOBYTES] else []) ∧
      t.valuesOf IKE_TRANSFORM_VALUE_P2_LIFE_VALUE =
        (if setting.lifeSeconds ≠ INFINITE then [setting.lifeSeconds] else []) ++
          (if setting.lifeKilobytes ≠ INFINITE then [setting.lifeKilobytes] else []) := by
  unfold TransformPayload.valuesOf transformSettingToTransformPayloadForIPsec
  simp only [List.filter_append, List.map_append, valuesOf_optional]
  simp +decide [ikeNewTransformValue]

end
variable {t : TransformPayload} {crypto : IkeCrypto} {i : UInt32}

theorem offeredLife_of_valuesOf
    {seconds kilobytes : UInt32}
    (types : t.valuesOf IKE_TRANSFORM_VALUE_P2_LIFE_TYPE =
      (if seconds ≠ INFINITE then [IKE_P2_LIFE_TYPE_SECONDS] else []) ++
        (if kilobytes ≠ INFINITE then [IKE_P2_LIFE_TYPE_KILOBYTES] else []))
    (values : t.valuesOf IKE_TRANSFORM_VALUE_P2_LIFE_VALUE =
      (if seconds ≠ INFINITE then [seconds] else []) ++
        (if kilobytes ≠ INFINITE then [kilobytes] else [])) :
    t.offeredLife IKE_P2_LIFE_TYPE_SECONDS = seconds ∧
      t.offeredLife IKE_P2_LIFE_TYPE_KILOBYTES = kilobytes ∧
      ∀ i < ikeGetTransformValueNum t IKE_TRANSFORM_VALUE_P2_LIFE_TYPE,
        ikeGetTransformValue t IKE_TRANSFORM_VALUE_P2_LIFE_TYPE i = IKE_P2_LIFE_TYPE_SECONDS ∨
          ikeGetTransformValue t IKE_TRANSFORM_VALUE_P2_LIFE_TYPE i =
            IKE_P2_LIFE_TYPE_KILOBYTES := by
  unfold TransformPayload.offeredLife TransformPayload.lastLife TransformPayload.lifeNumbers
  simp only [ikeGetTransformValueNum_eq, ikeGetTransformValue_eq, types]
  by_cases first : seconds = INFINITE
  · by_cases second : kilobytes = INFINITE
    · simp [first, second]
    · simp +decide [first, second, ikeGetTransformValue_eq, values]
  · by_cases second : kilobytes = INFINITE
    · simp +decide [first, second, ikeGetTransformValue_eq, values]
    · have two : List.range (1 + 1) = [0, 1] := rfl
      simp +decide [first, second, ikeGetTransformValue_eq, values, two]

theorem keySizes_le
    (known : getIkeCrypto i = some crypto) :
    ∀ size ∈ crypto.keySizes, size ≤ 32 := by
  unfold getIkeCrypto engineElement at known
  by_cases outside : i = 0 ∨ MAX_IKE_ENGINE_ELEMENTS ≤ i
  · rw [if_pos outside] at known
    exact nomatch known
  rw [if_neg outside] at known
  unfold espCryptos at known
  split at known
  · cases known
    decide
  split at known
  · cases known
    decide
  split at known
  · cases known
    decide
  · exact nomatch known

theorem keySize_of_bits
    {size : UInt32}
    (known : getIkeCrypto i = some crypto)
    (checked : ikeCheckKeySize crypto size = true) :
    size * 8 / 8 = size := by
  have listed : size.toNat ∈ crypto.keySizes := (of_decide_eq_true checked).2
  have small := keySizes_le known _ listed
  apply UInt32.toNat_inj.mp
  have eight : (8 : UInt32).toNat = 8 := by decide
  rw [UInt32.toNat_div, UInt32.toNat_mul, eight, Nat.mod_eq_of_lt (by omega)]
  omega

/-- The group of an offer is one that the server knows, or there is none. -/
def TransformPayload.GroupKnown (t : TransformPayload) : Prop :=
  t.offeredGroup = 0 ∨ (getIkeDh t.offeredGroup).isSome = true

theorem offeredGroup_build
    (t : TransformPayload)
    (crypto : IkeCrypto)
    (hash : IkeHash) :
    (transformSettingToTransformPayloadForIPsec (t.settingOf crypto hash)).offeredGroup =
      if (getIkeDh t.offeredGroup).isSome = true then t.offeredGroup else 0 := by
  obtain ⟨-, group, -⟩ := valuesOf_build (t.settingOf crypto hash)
  rw [TransformPayload.offeredGroup, ikeGetTransformValue_eq, group]
  by_cases isKnown : (getIkeDh t.offeredGroup).isSome = true
  · have used : (t.settingOf crypto hash).dh ≠ none := Option.isSome_iff_ne_none.mp isKnown
    rw [if_pos used, if_pos isKnown]
    rfl
  · have dropped : ¬(t.settingOf crypto hash).dh ≠ none := fun used =>
      isKnown (Option.isSome_iff_ne_none.mpr used)
    rw [if_neg dropped, if_neg isKnown]
    rfl

theorem offeredGroup_build_of_known
    (known : t.GroupKnown)
    (crypto : IkeCrypto)
    (hash : IkeHash) :
    (transformSettingToTransformPayloadForIPsec (t.settingOf crypto hash)).offeredGroup =
      t.offeredGroup := by
  rw [offeredGroup_build]
  obtain none_offered | isKnown := known
  · rw [none_offered]
    exact ite_self 0
  · rw [if_pos isKnown]

theorem build_settingOf
    {isEspSupported : Bool}
    {hash : IkeHash}
    (accepted : Accepted isEspSupported t crypto hash) :
    Accepted isEspSupported (transformSettingToTransformPayloadForIPsec
        (t.settingOf crypto hash)) crypto hash ∧
      (transformSettingToTransformPayloadForIPsec (t.settingOf crypto hash)).settingOf crypto hash =
        { t.settingOf crypto hash with
          dh := getIkeDh (transformSettingToTransformPayloadForIPsec
            (t.settingOf crypto hash)).offeredGroup
          dhId := (transformSettingToTransformPayloadForIPsec
            (t.settingOf crypto hash)).offeredGroup } := by
  obtain ⟨hmac, -, size, capsule, types, values⟩ := valuesOf_build (t.settingOf crypto hash)
  obtain ⟨seconds, kilobytes, lives⟩ := offeredLife_of_valuesOf types values
  generalize buildIs : transformSettingToTransformPayloadForIPsec (t.settingOf crypto hash) = b
    at hmac size capsule types values seconds kilobytes lives ⊢
  have transformId : b.transformId = t.transformId := by
    rw [← buildIs]
    simp [transformSettingToTransformPayloadForIPsec, TransformPayload.settingOf]
  have offeredHash : b.offeredHash = t.offeredHash := by
    rw [TransformPayload.offeredHash, ikeGetTransformValue_eq, hmac]
    rfl
  have offeredMode : b.offeredCapsuleMode = t.offeredCapsuleMode := by
    rw [TransformPayload.offeredCapsuleMode, ikeGetTransformValue_eq, capsule]
    rfl
  have bits : crypto.variableKeySize = true → b.offeredKeyBits = t.keySizeOf crypto * 8 := by
    intro isVariable
    rw [TransformPayload.offeredKeyBits, ikeGetTransformValue_eq, size]
    simp [TransformPayload.settingOf, isVariable]
  have bytes : crypto.variableKeySize = true → b.offeredKeyBits / 8 = t.offeredKeyBits / 8 := by
    intro isVariable
    have same : t.keySizeOf crypto = t.offeredKeyBits / 8 := if_pos isVariable
    rw [bits isVariable, same]
    exact keySize_of_bits accepted.cryptoKnown (accepted.keySize isVariable)
  have keySize : b.keySizeOf crypto = t.keySizeOf crypto := by
    unfold TransformPayload.keySizeOf
    by_cases isVariable : crypto.variableKeySize = true
    · rw [if_pos isVariable, if_pos isVariable, bytes isVariable]
    · rw [if_neg isVariable, if_neg isVariable]
  refine ⟨?_, ?_⟩
  · exact {
      cryptoKnown := by
        rw [TransformPayload.offeredCrypto, transformId]
        exact accepted.cryptoKnown
      hashKnown := by
        rw [offeredHash]
        exact accepted.hashKnown
      lives := lives
      keySize := fun isVariable => (bytes isVariable).symm ▸ accepted.keySize isVariable
      capsuleMode := by
        rw [offeredMode]
        exact accepted.capsuleMode }
  · simp only [TransformPayload.settingOf, transformId, offeredHash, offeredMode, keySize, seconds,
      kilobytes]

/-! ## The selected setting -/

/-- The setting has what the offer has: the cipher and its key, the hash, the group, the lives and
the mode.  A group that is offered is used. -/
structure Carries (setting : IPsecSaTransformSetting) (t : TransformPayload) : Prop where
  cipher : setting.cryptoId = t.transformId.toUInt32 ∧ setting.crypto = t.offeredCrypto
  hash : setting.hashId = t.offeredHash ∧ setting.hash = getIkeHash t.offeredHash
  group : setting.dhId = t.offeredGroup ∧ setting.dh = getIkeDh t.offeredGroup ∧
    (t.offeredGroup ≠ 0 → setting.dh.isSome = true)
  keySize : ∀ crypto, setting.crypto = some crypto →
    if crypto.variableKeySize then setting.cryptoKeySize * 8 = t.offeredKeyBits
    else setting.cryptoKeySize.toNat = crypto.keySizes.headD 0
  lives : setting.lifeSeconds = t.offeredLife IKE_P2_LIFE_TYPE_SECONDS ∧
    setting.lifeKilobytes = t.offeredLife IKE_P2_LIFE_TYPE_KILOBYTES
  capsuleMode : setting.capsuleMode = t.offeredCapsuleMode

/-- The transform that is built from the setting is converted to it again; the SPI is not part of a
transform. -/
def RoundTrips (isEspSupported : Bool) (setting : IPsecSaTransformSetting) : Prop :=
  transformPayloadToTransformSettingForIPsecSa isEspSupported
    (transformSettingToTransformPayloadForIPsec setting) =
      (true, { setting with spiServerToClient := 0 })

/-- The size of the key that is offered for a cipher with several sizes is a number of bytes. -/
def TransformPayload.WholeKeySize (t : TransformPayload) : Prop :=
  ∀ crypto, t.offeredCrypto = some crypto → crypto.variableKeySize = true →
    t.offeredKeyBits % 8 = 0

theorem Accepted.converted
    {isEspSupported : Bool}
    {hash : IkeHash}
    (accepted : Accepted isEspSupported t crypto hash) :
    transformPayloadToTransformSettingForIPsecSa isEspSupported t =
      (true, t.settingOf crypto hash) := by
  obtain ⟨other, otherHash, also, converted⟩ | ⟨refused, -⟩ :=
    transformPayloadToTransformSettingForIPsecSa_cases isEspSupported t
  · cases also.cryptoKnown.symm.trans accepted.cryptoKnown
    cases also.hashKnown.symm.trans accepted.hashKnown
    exact converted
  · exact (refused ⟨crypto, hash, accepted⟩).elim

theorem bits_of_bytes_iff (bits : UInt32) : bits / 8 * 8 = bits ↔ bits % 8 = 0 := by
  have eight : (8 : UInt32).toNat = 8 := by decide
  have zero : (0 : UInt32).toNat = 0 := by decide
  rw [← UInt32.toNat_inj, ← UInt32.toNat_inj, UInt32.toNat_mul, UInt32.toNat_div,
    UInt32.toNat_mod, eight, zero]
  have small := bits.toNat_lt
  rw [Nat.mod_eq_of_lt (by omega)]
  omega

/-- The only size of a cipher fits its word. -/
theorem headD_keySizes_toNat
    (known : getIkeCrypto i = some crypto) :
    (UInt32.ofNat (crypto.keySizes.headD 0)).toNat = crypto.keySizes.headD 0 := by
  have sizes := keySizes_le known
  rw [UInt32.toNat_ofNat']
  apply Nat.mod_eq_of_lt
  cases keySizesIs : crypto.keySizes with
  | nil => simp
  | cons size rest =>
      have small := sizes size (by simp [keySizesIs])
      rw [List.headD_cons]
      omega

section

variable
    {isEspSupported : Bool}
    {t : TransformPayload}
    {crypto : IkeCrypto}
    {hash : IkeHash}
    (accepted : Accepted isEspSupported t crypto hash)
    (spi : UInt32)

include accepted

theorem carries_settingOf_iff :
    Carries { t.settingOf crypto hash with spiServerToClient := spi } t ↔
      t.GroupKnown ∧ t.WholeKeySize := by
  constructor
  · intro carries
    constructor
    · by_cases offered : t.offeredGroup = 0
      · exact Or.inl offered
      · exact Or.inr (carries.group.2.2 offered)
    · intro other otherKnown isVariable
      cases otherKnown.symm.trans accepted.cryptoKnown
      have size := carries.keySize crypto rfl
      rw [if_pos isVariable] at size
      have bytes : t.keySizeOf crypto = t.offeredKeyBits / 8 := if_pos isVariable
      rw [← bits_of_bytes_iff, ← bytes]
      exact size
  · rintro ⟨known, whole⟩
    exact {
      cipher := ⟨rfl, accepted.cryptoKnown.symm⟩
      hash := ⟨rfl, accepted.hashKnown.symm⟩
      group := ⟨rfl, rfl, known.resolve_left⟩
      keySize := by
        intro other otherIs
        cases otherIs
        by_cases isVariable : crypto.variableKeySize = true
        · have bytes : t.keySizeOf crypto = t.offeredKeyBits / 8 := if_pos isVariable
          rw [if_pos isVariable]
          show t.keySizeOf crypto * 8 = t.offeredKeyBits
          rw [bytes, bits_of_bytes_iff]
          exact whole crypto accepted.cryptoKnown isVariable
        · have only : t.keySizeOf crypto = UInt32.ofNat (crypto.keySizes.headD 0) :=
            if_neg isVariable
          rw [if_neg isVariable]
          show (t.keySizeOf crypto).toNat = crypto.keySizes.headD 0
          rw [only]
          exact headD_keySizes_toNat accepted.cryptoKnown
      lives := ⟨rfl, rfl⟩
      capsuleMode := rfl }

theorem roundTrips_settingOf (known : t.GroupKnown) :
    RoundTrips isEspSupported { t.settingOf crypto hash with spiServerToClient := spi } := by
  obtain ⟨builtAccepted, builtSetting⟩ := build_settingOf accepted
  have converted := builtAccepted.converted
  rw [builtSetting, offeredGroup_build_of_known known] at converted
  exact converted

end

/-! ## The selection goes over all the offers -/

def Offer.convertible (isEspSupported : Bool) (offer : Offer) : Bool :=
  (transformPayloadToTransformSettingForIPsecSa isEspSupported offer.transform).1

theorem scanOffers_selected
    {isEspSupported : Bool}
    {offers : List Offer}
    {ocmiiFlag : Bool}
    {start setting : IPsecSaTransformSetting}
    (selected : scanOffers isEspSupported offers ocmiiFlag start = (true, setting)) :
    ∃ offer crypto hash,
      offers.find? (Offer.convertible isEspSupported) = some offer ∧
      Accepted isEspSupported offer.transform crypto hash ∧
      setting = { offer.transform.settingOf crypto hash with
        spiServerToClient := UInt32.ofNat (fromBigEndian offer.spi) } := by
  induction offers generalizing ocmiiFlag start with
  | nil => exact nomatch selected
  | cons offer rest inductionHypothesis =>
      rw [scanOffers] at selected
      obtain ⟨crypto, hash, accepted, converted⟩ | ⟨-, refused⟩ :=
        transformPayloadToTransformSettingForIPsecSa_cases isEspSupported offer.transform
      · rw [converted, if_pos rfl] at selected
        refine ⟨offer, crypto, hash, ?_, accepted, (Prod.mk.inj selected).2.symm⟩
        exact List.find?_cons_of_pos (by rw [Offer.convertible, converted])
      · rw [List.find?_cons_of_neg (by rw [Offer.convertible, refused]; exact Bool.false_ne_true)]
        rw [if_neg (by rw [refused]; exact Bool.false_ne_true)] at selected
        by_cases kept :
            (transformPayloadToTransformSettingForIPsecSa isEspSupported
              offer.transform).2.onlyCapsuleModeIsInvalid = true ∧ ocmiiFlag = false
        · rw [if_pos kept] at selected
          exact inductionHypothesis selected
        · rw [if_neg kept] at selected
          exact inductionHypothesis selected

/-- A setting that is selected is that of the first offer that can be converted.  It has all that
the offer has, and the transform that answers is converted to it again, exactly when the group of
the offer is known to the server, or there is none, and the key has a whole number of bytes. -/
theorem getBestTransformSettingForIPsecSa_carries_iff
    {isEspSupported : Bool}
    {pr : List Payload}
    {setting : IPsecSaTransformSetting}
    (selected : getBestTransformSettingForIPsecSa isEspSupported pr = (true, setting)) :
    ∃ offer ∈ offersOf pr,
      (offersOf pr).find? (Offer.convertible isEspSupported) = some offer ∧
      setting.spiServerToClient = UInt32.ofNat (fromBigEndian offer.spi) ∧
      (Carries setting offer.transform ∧ RoundTrips isEspSupported setting ↔
        offer.transform.GroupKnown ∧ offer.transform.WholeKeySize) := by
  obtain ⟨offer, crypto, hash, first, accepted, settingIs⟩ := scanOffers_selected selected
  subst settingIs
  refine ⟨offer, List.mem_of_find?_eq_some first, first, rfl, ?_⟩
  rw [carries_settingOf_iff accepted]
  constructor
  · exact And.left
  · intro conditions
    exact ⟨conditions, roundTrips_settingOf accepted _ conditions.1⟩

/-- A quick mode offer of AES-128 with SHA-1 in UDP transport mode, with a group for perfect forward
secrecy. -/
def quickModeOffer (group : UInt32) : List Payload :=
  [.sa [.proposal 1 IKE_PROTOCOL_ID_IPSEC_ESP [0, 0, 0, 1] [.transform {
    number := 1
    transformId := 12
    valueList := [
      ikeNewTransformValue IKE_TRANSFORM_VALUE_P2_CAPSULE IKE_P2_CAPSULE_NAT_TRANSPORT_2,
      ikeNewTransformValue IKE_TRANSFORM_VALUE_P2_HMAC 2,
      ikeNewTransformValue IKE_TRANSFORM_VALUE_P2_KEY_SIZE 128,
      ikeNewTransformValue IKE_TRANSFORM_VALUE_P2_DH_GROUP group,
      ikeNewTransformValue IKE_TRANSFORM_VALUE_P2_LIFE_TYPE IKE_P2_LIFE_TYPE_SECONDS,
      ikeNewTransformValue IKE_TRANSFORM_VALUE_P2_LIFE_VALUE 3600] }]]]

theorem getBestTransformSettingForIPsecSa_carries_group14 :
    ∃ offer ∈ offersOf (quickModeOffer 14),
      (offersOf (quickModeOffer 14)).find? (Offer.convertible false) = some offer ∧
      (getBestTransformSettingForIPsecSa false (quickModeOffer 14)).2.spiServerToClient =
        UInt32.ofNat (fromBigEndian offer.spi) ∧
      (Carries (getBestTransformSettingForIPsecSa false (quickModeOffer 14)).2 offer.transform ∧
          RoundTrips false (getBestTransformSettingForIPsecSa false (quickModeOffer 14)).2 ↔
        offer.transform.GroupKnown ∧ offer.transform.WholeKeySize) :=
  getBestTransformSettingForIPsecSa_carries_iff (by decide +kernel)

/-- An offer with a group that the server does not know is accepted, without the group: the setting
has none, and the transform that answers has none. -/
theorem quickModeOffer_groupDropped :
    (getBestTransformSettingForIPsecSa false (quickModeOffer 18)).1 = true ∧
      (offersOf (quickModeOffer 18)).map (fun offer => offer.transform.offeredGroup) = [18] ∧
      (getBestTransformSettingForIPsecSa false (quickModeOffer 18)).2.dh = none ∧
      (transformSettingToTransformPayloadForIPsec
        (getBestTransformSettingForIPsecSa false (quickModeOffer 18)).2).offeredGroup = 0 ∧
      (∀ offer ∈ offersOf (quickModeOffer 18),
        ¬Carries (getBestTransformSettingForIPsecSa false (quickModeOffer 18)).2
          offer.transform) ∧
      ¬RoundTrips false (getBestTransformSettingForIPsecSa false (quickModeOffer 18)).2 := by
  have groups : (offersOf (quickModeOffer 18)).all
      (fun offer => offer.transform.offeredGroup = 18) = true := by decide +kernel
  have dropped : (getBestTransformSettingForIPsecSa false (quickModeOffer 18)).2.dh = none := by
    decide +kernel
  refine ⟨by decide +kernel, by decide +kernel, dropped, by decide +kernel, ?_, ?_⟩
  · intro offer offered carries
    have group : offer.transform.offeredGroup = 18 :=
      of_decide_eq_true (List.all_eq_true.mp groups offer offered)
    have used := carries.group.2.2 (by rw [group]; decide)
    rw [dropped] at used
    exact nomatch used
  · unfold RoundTrips
    decide +kernel

end Ike
end SoftEther
