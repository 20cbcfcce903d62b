import SoftEther.Cedar.Ike.EspTransport
import SoftEther.Library.Undisturbed

/-!
# Packets that an SA receives

`IkeSaRecvPacket` and `IPsecSaRecvPacket` parse a packet with the key and the IV of an SA
and move the IV on, before their caller looks at the hash payload.  The body of a payload is
parsed by `IkeParsePayload`, which is a parameter like the ciphers and the hashes.
-/

namespace SoftEther
namespace Ike
namespace SaPackets

open Library Network

abbrev IKE_PAYLOAD_NONE : UInt8 := 0
abbrev IKE_PAYLOAD_KEY_EXCHANGE : UInt8 := 4
abbrev IKE_PAYLOAD_ID : UInt8 := 5
abbrev IKE_PAYLOAD_HASH : UInt8 := 8
abbrev IKE_PAYLOAD_RAND : UInt8 := 10

/-! ## Parsing -/

/-- `IKE_PACKET_PAYLOAD`. -/
structure PacketPayload where
  payloadType : UInt8
  /-- `BitArray`, which is also the data of a hash payload. -/
  bitArray : List UInt8
  deriving DecidableEq

/-- `IKE_PACKET`. -/
structure Packet where
  messageSize : Nat
  initiatorCookie : UInt64
  responderCookie : UInt64
  exchangeType : UInt8
  flagEncrypted : Bool
  flagCommit : Bool
  flagAuthOnly : Bool
  messageId : UInt32
  /-- `PayloadList`, unless it could not be parsed. -/
  payloadList : Option (List PacketPayload) := none
  decryptedPayload : List UInt8 := []
  deriving DecidableEq

/-- `IKE_CRYPTO_PARAM` with the block size of the cipher. -/
structure CryptoParam where
  iv : List UInt8
  key : List UInt8
  blockSize : Nat

/-- `sizeof(IKE_HEADER)`. -/
def headerSize : Nat := 28

/-- `MessageSize` in the header. -/
def messageSizeOf (data : List UInt8) : Nat :=
  fromBigEndian ((data.drop 24).take 4)

/-- `Flag` in the header. -/
def flagOf (data : List UInt8) : UInt8 :=
  data.getD 19 0

/-- The flag says that the packet is encrypted. -/
def isEncrypted (data : List UInt8) : Bool :=
  flagOf data &&& 1 ≠ 0

def HeaderFits (data : List UInt8) : Prop :=
  headerSize ≤ data.length ∧ headerSize ≤ messageSizeOf data ∧ messageSizeOf data ≤ data.length

instance (data : List UInt8) : Decidable (HeaderFits data) :=
  inferInstanceAs (Decidable (_ ∧ _))

/-- What stands behind the header. -/
def payloadOf (data : List UInt8) : List UInt8 :=
  (data.drop headerSize).take (messageSizeOf data - headerSize)

def headerOf (data : List UInt8) : Packet where
  messageSize := messageSizeOf data
  initiatorCookie := UInt64.ofNat (fromBigEndian (data.take 8))
  responderCookie := UInt64.ofNat (fromBigEndian ((data.drop 8).take 8))
  exchangeType := data.getD 18 0
  flagEncrypted := isEncrypted data
  flagCommit := flagOf data &&& 2 ≠ 0
  flagAuthOnly := flagOf data &&& 4 ≠ 0
  messageId := UInt32.ofNat (fromBigEndian ((data.drop 20).take 4))

section

variable (decrypt : List UInt8 → List UInt8 → List UInt8 → List UInt8)
variable (ikeParsePayload : UInt8 → List UInt8 → Bool)

/-- `IkeParsePayloadListEx`: the payloads, and how much has been read. -/
def ikeParsePayloadListEx (payloadType : UInt8) (data : List UInt8) :
    Option (List PacketPayload) × Nat :=
  if payloadType = IKE_PAYLOAD_NONE then (some [], 0)
  else
    match data with
    | nextPayload :: _ :: high :: low :: rest =>
        let payloadSize := 256 * high.toNat + low.toNat
        if payloadSize < 4 then (none, 4)
        else if rest.length < payloadSize - 4 then (none, 4)
        else
          let bitArray := rest.take (payloadSize - 4)
          if ikeParsePayload payloadType bitArray then
            let (others, total) := ikeParsePayloadListEx nextPayload (rest.drop (payloadSize - 4))
            (others.map (⟨payloadType, bitArray⟩ :: ·), payloadSize + total)
          else (none, payloadSize)
    | _ => (none, 0)
termination_by data.length

/-- The last block of what has been decrypted, which is the next IV. -/
def lastBlock (blockSize : Nat) (data : List UInt8) : List UInt8 :=
  if blockSize ≤ data.length then data.drop (data.length - blockSize)
  else List.replicate blockSize 0

/-- `IkeDecrypt`: what it makes, and `NextIv`. -/
def ikeDecrypt (cparam : Option CryptoParam) (data : List UInt8) :
    Option (List UInt8 × List UInt8) :=
  match cparam with
  | none => none
  | some cparam =>
      if data.length % cparam.blockSize ≠ 0 then none
      else some (decrypt cparam.key cparam.iv data, lastBlock cparam.blockSize data)

/-- `IkeParse`: the packet, and `NextIv` when it is encrypted. -/
def ikeParse (cparam : Option CryptoParam) (data : List UInt8) :
    Option (Packet × List UInt8) :=
  if HeaderFits data then
    let payload := payloadOf data
    if isEncrypted data then
      match ikeDecrypt decrypt cparam payload with
      | none => none
      | some (plain, nextIv) =>
          let (payloadList, total) := ikeParsePayloadListEx ikeParsePayload (data.getD 16 0) plain
          some ({ headerOf data with
            payloadList := payloadList, decryptedPayload := plain.take total }, nextIv)
    else
      let payloadList := (ikeParsePayloadListEx ikeParsePayload (data.getD 16 0) payload).1
      some ({ headerOf data with
        payloadList := payloadList, decryptedPayload := payload }, [])
  else none

end

def Packet.ikeGetPayload (pr : Packet) (payloadType : UInt8) (index : Nat) :
    Option PacketPayload :=
  ((pr.payloadList.getD []).filter fun payload => payload.payloadType = payloadType)[index]?

/-! ## Receiving -/

/-- `Iv` of an SA. -/
structure IvState where
  iv : ByteArrayOf IKE_MAX_BLOCK_SIZE
  isIvExisting : Bool
  deriving DecidableEq

/-- The hash or the HMAC of what an SA waits for. -/
inductive Stage where
  /-- `IKE_SA_MM_STATE_1_SA`. -/
  | mainSa
  /-- `IKE_SA_MM_STATE_2_KEY`: `SKEYID`, and what the initiator hashes before its ID. -/
  | mainKey (skeyid initiatorData : List UInt8)
  /-- `IKE_SA_AM_STATE_1_SA` with `InitiatorHashForAM`. -/
  | aggressiveSa (initiatorHashForAM : List UInt8)
  /-- A quick mode of the client with `Hash3`. -/
  | quickThird (hash3 : List UInt8)
  /-- A quick mode of the server with `SKEYID_a` and `InitiatorRand`. -/
  | quickSecond (skeyidA : List UInt8) (initiatorRand : Option (List UInt8))
  | established
  deriving DecidableEq

/-- An IKE SA, or an IPsec SA from a client to the server with its pair. -/
structure ReceivingSa where
  /-- `Iv` of the SA. -/
  own : IvState
  /-- `Iv` of `PairIPsecSa`. -/
  pair : Option IvState := none
  /-- `CryptoKey` of the IKE SA. -/
  cryptoKey : Option (List UInt8)
  /-- `BlockSize` of the IKE SA. -/
  blockSize : Nat
  /-- `HashSize` of the IKE SA. -/
  hashSize : Nat
  /-- What the SA waits for. -/
  stage : Stage
  blockSize_mem : blockSize ∈ Set.Icc 1 IKE_MAX_BLOCK_SIZE

/-- `IkeSaUpdateIv` and `IPsecSaUpdateIv` with a block. -/
def IvState.update (nextIv : List UInt8) (state : IvState) : IvState where
  iv := overwrite state.iv nextIv
  isIvExisting := true

/-- `ProcIkeQuickModePacketRecv` gets the packet. -/
def Stage.isQuick : Stage → Bool
  | .quickThird _ => true
  | .quickSecond _ _ => true
  | _ => false

/-- The packet is not parsed with the SA: `ParseIKEPacketHeader` has rejected it, quick mode
needs an encrypted one, or the SA waits for nothing. -/
def ReceivingSa.ignores (sa : ReceivingSa) (data : List UInt8) : Bool :=
  ¬HeaderFits data ∨ (sa.stage.isQuick ∧ isEncrypted data = false) ∨ sa.stage = .established

/-- The SA with the next IV, which its pair takes as well. -/
def ReceivingSa.updateIv (sa : ReceivingSa) (nextIv : List UInt8) : ReceivingSa :=
  { sa with own := sa.own.update nextIv, pair := sa.pair.map (IvState.update nextIv) }

/-- The IV and the key, when both are there. -/
def ReceivingSa.cryptoParam (sa : ReceivingSa) : Option CryptoParam :=
  if sa.own.isIvExisting then
    sa.cryptoKey.map fun key =>
      { iv := sa.own.iv.val.take sa.blockSize, key := key, blockSize := sa.blockSize }
  else none

/-- The algorithms, the parser of the body of a payload, and what the server does with a
packet that it accepts. -/
structure Functions where
  /-- `IkeCryptoDecrypt`. -/
  decrypt : List UInt8 → List UInt8 → List UInt8 → List UInt8
  /-- `IkeHMac`. -/
  hmac : List UInt8 → List UInt8 → List UInt8
  /-- `DhCompute` of the key of the client. -/
  dhCompute : List UInt8 → Bool
  /-- `IkeParsePayload` finds nothing wrong. -/
  ikeParsePayload : UInt8 → List UInt8 → Bool
  proceed : ReceivingSa → Packet → ReceivingSa

section

variable (functions : Functions)

/-- `IkeSaRecvPacket` and `IPsecSaRecvPacket`, which read `FlagEncrypted` of the packet even
when there is none. -/
def recvPacket (sa : ReceivingSa) (data : List UInt8) :
    Except Fault (Option Packet × ReceivingSa) :=
  match sa.cryptoParam with
  | none =>
      .ok ((ikeParse functions.decrypt functions.ikeParsePayload none data).map Prod.fst, sa)
  | some cp =>
      match ikeParse functions.decrypt functions.ikeParsePayload (some cp) data with
      | none => .error .nullPacket
      | some (ret, nextIv) =>
          .ok (some ret, if ret.flagEncrypted then sa.updateIv nextIv else sa)

def ikeCompareHash (payload : Option PacketPayload) (hash : List UInt8) (hashSize : Nat) :
    Bool :=
  match payload with
  | none => false
  | some payload =>
      hashSize ≠ 0 ∧ payload.bitArray.length = hashSize ∧ payload.bitArray = hash.take hashSize

/-- What `hash2` is made of: the message ID, the random numbers of the server and what stands
behind the hash payload. -/
def hash2Data (pr : Packet) (initiatorRand : List UInt8) (hashPayload : PacketPayload) :
    List UInt8 :=
  writeBufInt pr.messageId ++ initiatorRand ++
    pr.decryptedPayload.drop (4 + hashPayload.bitArray.length)

/-- The server goes on with the packet: the hash payload verifies, or the key exchange of main
mode has what it needs. -/
def accepts (hashSize : Nat) (stage : Stage) (pr : Packet) : Bool :=
  let hashPayload := pr.ikeGetPayload IKE_PAYLOAD_HASH 0
  match stage with
  | .mainSa =>
      match pr.ikeGetPayload IKE_PAYLOAD_KEY_EXCHANGE 0, pr.ikeGetPayload IKE_PAYLOAD_RAND 0 with
      | some key, some _ => functions.dhCompute key.bitArray
      | _, _ => false
  | .mainKey skeyid initiatorData =>
      match pr.ikeGetPayload IKE_PAYLOAD_ID 0 with
      | none => false
      | some id =>
          pr.flagEncrypted && ikeCompareHash hashPayload
            (functions.hmac (skeyid.take hashSize) (initiatorData ++ id.bitArray)) hashSize
  | .aggressiveSa initiatorHashForAM => ikeCompareHash hashPayload initiatorHashForAM hashSize
  | .quickThird hash3 =>
      match hashPayload with
      | none => false
      | some payload =>
          payload.bitArray.length = hashSize ∧ payload.bitArray = hash3.take hashSize
  | .quickSecond skeyidA initiatorRand =>
      match hashPayload, initiatorRand with
      | some payload, some initiatorRand =>
          decide (4 + payload.bitArray.length < pr.decryptedPayload.length) &&
            ikeCompareHash (some payload)
              (functions.hmac (skeyidA.take hashSize) (hash2Data pr initiatorRand payload))
              hashSize
      | _, _ => false
  | .established => false

/-- The SA once it has received a packet. -/
def proceedWith (sa : ReceivingSa) (received : Option Packet × ReceivingSa) : ReceivingSa :=
  match received with
  | (none, after) => after
  | (some pr, after) =>
      if accepts functions sa.hashSize sa.stage pr then functions.proceed after pr else after

/-- The part of `ProcIKEPacketRecv` that is about a packet to an SA that is there. -/
def procPacket (sa : ReceivingSa) (data : List UInt8) : Except Fault ReceivingSa :=
  if sa.ignores data then .ok sa
  else (recvPacket functions sa data).map (proceedWith functions sa)

/-- The server goes on with a packet in the state that the SA is in. -/
def accepted (sa : ReceivingSa) (data : List UInt8) : Bool :=
  if sa.ignores data then false
  else
    match ikeParse functions.decrypt functions.ikeParsePayload sa.cryptoParam data with
    | none => false
    | some (pr, _) => accepts functions sa.hashSize sa.stage pr

end

/-! ## Packets that leave no trace -/

def IvState.Holds (block : List UInt8) (state : IvState) : Prop :=
  state.isIvExisting = true ∧ state.iv.val.take block.length = block

/-- The packet is not parsed with the SA, or it is not encrypted, or the SA has no IV or no key
yet; or it has whole blocks, and the server accepts it or its last block is the IV that the
SA and its pair have. -/
def Harmless (functions : Functions) (sa : ReceivingSa) (data : List UInt8) : Prop :=
  sa.ignores data = true ∨ isEncrypted data = false ∨ sa.cryptoParam = none ∨
    ((payloadOf data).length % sa.blockSize = 0 ∧
      (accepted functions sa data = true ∨
        sa.own.Holds (lastBlock sa.blockSize (payloadOf data)) ∧
          ∀ pair ∈ sa.pair, pair.Holds (lastBlock sa.blockSize (payloadOf data))))

theorem overwrite_eq_self_iff
    {size : Nat}
    {array : ByteArrayOf size}
    {bytes : List UInt8}
    (fits : bytes.length ≤ size) :
    overwrite array bytes = array ↔ array.val.take bytes.length = bytes := by
  have whole := array.property
  have written : (overwrite array bytes).val = bytes ++ array.val.drop bytes.length := by
    change (bytes ++ array.val.drop bytes.length).take size = _
    refine List.take_of_length_le ?_
    rw [List.length_append, List.length_drop, whole]
    omega
  rw [← Subtype.val_inj, written]
  constructor
  · intro same
    conv_lhs => rw [← same]
    exact List.take_left
  · intro starts
    conv_lhs => rw [← starts]
    rw [List.length_take, Nat.min_eq_left (by omega)]
    exact List.take_append_drop _ _

theorem IvState.update_eq_self_iff
    {state : IvState}
    {block : List UInt8}
    (fits : block.length ≤ IKE_MAX_BLOCK_SIZE) :
    state.update block = state ↔ state.Holds block := by
  obtain ⟨iv, isIvExisting⟩ := state
  simp only [IvState.update, IvState.Holds, IvState.mk.injEq, overwrite_eq_self_iff fits]
  exact ⟨fun ⟨same, exists_⟩ => ⟨exists_.symm, same⟩, fun ⟨exists_, same⟩ => ⟨same, exists_.symm⟩⟩

theorem length_lastBlock
    (blockSize : Nat)
    (data : List UInt8) :
    (lastBlock blockSize data).length = blockSize := by
  unfold lastBlock
  split
  case isTrue enough =>
    rw [List.length_drop]
    omega
  case isFalse => exact List.length_replicate

theorem ReceivingSa.updateIv_eq_self_iff
    {sa : ReceivingSa}
    {block : List UInt8}
    (fits : block.length ≤ IKE_MAX_BLOCK_SIZE) :
    sa.updateIv block = sa ↔ sa.own.Holds block ∧ ∀ pair ∈ sa.pair, pair.Holds block := by
  obtain ⟨own, pair, cryptoKey, blockSize, hashSize, stage, range⟩ := sa
  have pairs : pair.map (IvState.update block) = pair ↔ ∀ other ∈ pair, other.Holds block := by
    cases pair with
    | none => simp
    | some other => simp [IvState.update_eq_self_iff fits]
  simp only [ReceivingSa.updateIv, ReceivingSa.mk.injEq, IvState.update_eq_self_iff fits, pairs,
    and_true]

section

variable {functions : Functions}
variable {sa : ReceivingSa}
variable {data : List UInt8}

theorem ikeParse_plain
    (decrypt : List UInt8 → List UInt8 → List UInt8 → List UInt8)
    (ikeParsePayload : UInt8 → List UInt8 → Bool)
    (cparam : Option CryptoParam)
    (fits : HeaderFits data)
    (plain : isEncrypted data = false) :
    ∃ pr, ikeParse decrypt ikeParsePayload cparam data = some (pr, []) ∧
      pr.flagEncrypted = false := by
  unfold ikeParse
  rw [if_pos fits, plain]
  exact ⟨_, rfl, plain⟩

theorem ReceivingSa.blockSize_of_cryptoParam
    (sa : ReceivingSa)
    {cp : CryptoParam}
    (keyed : sa.cryptoParam = some cp) :
    cp.blockSize = sa.blockSize := by
  unfold ReceivingSa.cryptoParam at keyed
  split at keyed
  case isTrue =>
    obtain ⟨key, _, made⟩ := Option.map_eq_some_iff.mp keyed
    exact made ▸ rfl
  case isFalse => exact nomatch keyed

theorem ikeParse_encrypted
    (decrypt : List UInt8 → List UInt8 → List UInt8 → List UInt8)
    (ikeParsePayload : UInt8 → List UInt8 → Bool)
    (cp : CryptoParam)
    (fits : HeaderFits data)
    (encrypted : isEncrypted data = true) :
    if (payloadOf data).length % cp.blockSize = 0 then
      ∃ pr, ikeParse decrypt ikeParsePayload (some cp) data =
          some (pr, lastBlock cp.blockSize (payloadOf data)) ∧ pr.flagEncrypted = true
    else ikeParse decrypt ikeParsePayload (some cp) data = none := by
  unfold ikeParse
  rw [if_pos fits, encrypted]
  dsimp only [ikeDecrypt]
  by_cases blocks : (payloadOf data).length % cp.blockSize = 0
  · rw [if_pos blocks, if_neg (not_not_intro blocks)]
    exact ⟨_, rfl, encrypted⟩
  · rw [if_neg blocks, if_pos blocks]
    rfl

theorem accepted_of_recvPacket
    {pr : Packet}
    {after : ReceivingSa}
    (parsed : sa.ignores data = false)
    (received : recvPacket functions sa data = .ok (some pr, after)) :
    accepted functions sa data = accepts functions sa.hashSize sa.stage pr := by
  unfold recvPacket at received
  unfold accepted
  rw [parsed]
  cases keyed : sa.cryptoParam with
  | none =>
      rw [keyed] at received
      injection received with same
      have packet := congrArg Prod.fst same
      obtain ⟨result, made, first⟩ := Option.map_eq_some_iff.mp packet
      rw [made, ← first]
      rfl
  | some cp =>
      rw [keyed] at received
      dsimp only at received
      cases made : ikeParse functions.decrypt functions.ikeParsePayload (some cp) data with
      | none =>
          rw [made] at received
          exact nomatch received
      | some result =>
          rw [made] at received
          injection received with same
          have packet : some result.1 = some pr := congrArg Prod.fst same
          injection packet with first
          rw [← first]
          rfl

theorem leavesNoTrace_iff_recvPacket (parsed : sa.ignores data = false) :
    LeavesNoTrace (procPacket functions) (accepted functions) sa data ↔
      ∃ pr after, recvPacket functions sa data = .ok (pr, after) ∧
        (accepted functions sa data = false → after = sa) := by
  unfold LeavesNoTrace procPacket
  rw [parsed, if_neg (by decide)]
  cases received : recvPacket functions sa data with
  | error fault =>
      constructor
      · rintro ⟨after, stepped, _⟩
        exact nomatch stepped
      · rintro ⟨pr, after, other, _⟩
        exact nomatch other
  | ok result =>
      obtain ⟨pr, after⟩ := result
      have stays : accepted functions sa data = false →
          proceedWith functions sa (pr, after) = after := by
        intro rejected
        cases pr with
        | none => rfl
        | some pr =>
            rw [accepted_of_recvPacket parsed received] at rejected
            simp [proceedWith, rejected]
      constructor
      · rintro ⟨next, stepped, kept⟩
        injection stepped with same
        exact ⟨pr, after, rfl, fun rejected =>
          (stays rejected).symm.trans (same.trans (kept rejected))⟩
      · rintro ⟨other, next, same, kept⟩
        injection same with pair
        exact ⟨_, rfl, fun rejected => (stays rejected).trans
          ((congrArg Prod.snd pair).trans (kept rejected))⟩

theorem leavesNoTrace_iff (functions : Functions) (sa : ReceivingSa) (data : List UInt8) :
    LeavesNoTrace (procPacket functions) (accepted functions) sa data ↔
      Harmless functions sa data := by
  by_cases ignored : sa.ignores data = true
  · refine iff_of_true ⟨sa, ?_, fun _ => rfl⟩ (.inl ignored)
    unfold procPacket
    rw [if_pos ignored]
  · have parsed : sa.ignores data = false := Bool.eq_false_of_not_eq_true ignored
    have fits : HeaderFits data := by
      by_contra broken
      exact ignored (decide_eq_true (.inl broken))
    rw [leavesNoTrace_iff_recvPacket parsed]
    unfold Harmless recvPacket
    cases keyed : sa.cryptoParam with
    | none => exact iff_of_true ⟨_, sa, rfl, fun _ => rfl⟩ (.inr (.inr (.inl rfl)))
    | some cp =>
        have blockSize : cp.blockSize = sa.blockSize := sa.blockSize_of_cryptoParam keyed
        cases encrypted : isEncrypted data with
        | false =>
            obtain ⟨pr, made, plain⟩ := ikeParse_plain functions.decrypt
              functions.ikeParsePayload (some cp) fits encrypted
            refine iff_of_true ⟨some pr, sa, ?_, fun _ => rfl⟩ (.inr (.inl rfl))
            simp [made, plain]
        | true =>
            have whole := ikeParse_encrypted functions.decrypt functions.ikeParsePayload cp fits
              encrypted
            rw [blockSize] at whole
            have size := length_lastBlock sa.blockSize (payloadOf data)
            have moved := sa.updateIv_eq_self_iff (size.le.trans sa.blockSize_mem.2)
            by_cases blocks : (payloadOf data).length % sa.blockSize = 0
            · rw [if_pos blocks] at whole
              obtain ⟨pr, made, flag⟩ := whole
              simp only [made, flag, if_true, Except.ok.injEq, Prod.mk.injEq, ignored, blocks,
                false_or, true_and, ← moved, reduceCtorEq, Bool.true_eq_false]
              constructor
              · rintro ⟨_, after, ⟨_, updated⟩, kept⟩
                cases takes : accepted functions sa data with
                | true => exact .inl rfl
                | false => exact .inr (updated.trans (kept takes))
              · rintro takes
                refine ⟨_, _, ⟨rfl, rfl⟩, fun rejected => takes.resolve_left ?_⟩
                rw [rejected]
                exact Bool.false_ne_true
            · rw [if_neg blocks] at whole
              simp [whole, ignored, blocks]

/-- A run is undisturbed if and only if every packet is harmless in the state that it meets. -/
theorem undisturbed_iff_harmless
    (functions : Functions)
    (sa : ReceivingSa)
    (packets : List (List UInt8)) :
    Undisturbed (procPacket functions) (accepted functions) sa packets ↔
      Along (procPacket functions) (Harmless functions) sa packets :=
  undisturbed_iff.trans (along_congr (leavesNoTrace_iff functions) sa packets)

end

/-- Algorithms that change nothing, with a hash of zeros. -/
def plainFunctions : Functions where
  decrypt _ _ data := data
  hmac _ _ := List.replicate 16 0
  dhCompute _ := true
  ikeParsePayload _ _ := true
  proceed sa _ := { sa with stage := .established }

def onesIv : ByteArrayOf IKE_MAX_BLOCK_SIZE :=
  ⟨List.replicate IKE_MAX_BLOCK_SIZE 1, List.length_replicate⟩

theorem aesBlockSize : 16 ∈ Set.Icc 1 IKE_MAX_BLOCK_SIZE := by
  decide

/-- An IKE SA of main mode with AES that waits for the ID and the hash of the client. -/
def waitingSa : ReceivingSa where
  own := { iv := onesIv, isIvExisting := true }
  cryptoKey := some (List.replicate 16 7)
  blockSize := 16
  hashSize := 16
  stage := .mainKey [] []
  blockSize_mem := aesBlockSize

/-- An encrypted packet of main mode with this many bytes behind the header. -/
def encryptedPacket (size : Nat) : List UInt8 :=
  List.replicate 8 2 ++ List.replicate 8 3 ++ [0, 0x10, 2, 1, 0, 0, 0, 0] ++
    bigEndian 4 (headerSize + size) ++ List.replicate size 9

/-- A packet with a broken block stops the server, and a packet without a payload takes the IV
away. -/
theorem encryptedPacket_disturbs :
    ¬Undisturbed (procPacket plainFunctions) (accepted plainFunctions) waitingSa
        [encryptedPacket 1] ∧
      ¬Undisturbed (procPacket plainFunctions) (accepted plainFunctions) waitingSa
        [encryptedPacket 0] := by
  constructor
  · rintro ⟨⟨noTrace, _⟩, _⟩
    rcases (leavesNoTrace_iff _ _ _).mp noTrace with ignored | plain | unkeyed | ⟨blocks, _⟩
    · exact absurd ignored (by decide +kernel)
    · exact absurd plain (by decide +kernel)
    · exact nomatch unkeyed
    · exact absurd blocks (by decide +kernel)
  · rintro ⟨⟨noTrace, _⟩, _⟩
    rcases (leavesNoTrace_iff _ _ _).mp noTrace with
      ignored | plain | unkeyed | ⟨_, takes | ⟨same, _⟩⟩
    · exact absurd ignored (by decide +kernel)
    · exact absurd plain (by decide +kernel)
    · exact nomatch unkeyed
    · exact absurd takes (by decide +kernel)
    · exact absurd same.2 (by decide +kernel)

end SaPackets
end Ike
end SoftEther
