import SoftEther.Mayaqua.Buf
import SoftEther.Mayaqua.UInt

/-!
# OpenVPN packets

`OvsBuildPacket` and `OvsParsePacket` of `Interop_OpenVPN.c`.  The parser walks over
memory that ends somewhere: a read behind the end has no result, which is another
thing than a packet that the parser rejects.
-/

namespace SoftEther
namespace OpenVpn

def OPENVPN_MAX_NUMACK : Nat := 4

abbrev OPENVPN_P_CONTROL_SOFT_RESET_V1 : UInt8 := 3

abbrev OPENVPN_P_CONTROL_V1 : UInt8 := 4

abbrev OPENVPN_P_ACK_V1 : UInt8 := 5

abbrev OPENVPN_P_DATA_V1 : UInt8 := 6

abbrev OPENVPN_P_CONTROL_HARD_RESET_CLIENT_V2 : UInt8 := 7

abbrev OPENVPN_P_CONTROL_HARD_RESET_SERVER_V2 : UInt8 := 8

/-- `OPENVPN_PACKET`. -/
structure Packet where
  opCode : UInt8
  keyId : UInt8
  mySessionId : UInt64 := 0
  /-- The `NumAck` elements of `AckPacketId` that are in use. -/
  ackPacketId : List UInt32 := []
  yourSessionId : UInt64 := 0
  packetId : UInt32 := 0
  /-- The `DataSize` bytes of `Data`. -/
  data : List UInt8 := []
  deriving DecidableEq

def firstByte (opCode keyId : UInt8) : UInt8 :=
  ((opCode <<< 3) &&& 0xF8) ||| (keyId &&& 0x07)

/-- An acknowledged id as it is written: `(UCHAR)p->AckPacketId[i]`. -/
def writtenAck (id : UInt32) : UInt32 :=
  id.toUInt8.toUInt32

/-- The acknowledgements of a packet. -/
def ackBytes (p : Packet) : List UInt8 :=
  let acks := p.ackPacketId.take OPENVPN_MAX_NUMACK
  UInt8.ofNat acks.length ::
    if 1 ≤ p.ackPacketId.length then
      acks.flatMap (fun id => writeBufInt (writtenAck id)) ++ writeBufInt64 p.yourSessionId
    else []

/-- What stands behind the acknowledgements of a packet. -/
def payloadBytes (p : Packet) : List UInt8 :=
  if p.opCode ≠ OPENVPN_P_ACK_V1 then writeBufInt p.packetId ++ p.data else []

/-- The bytes that `OvsBuildPacket` writes one after the other. -/
def packetBytes (p : Packet) : List UInt8 :=
  firstByte p.opCode p.keyId ::
    if p.opCode = OPENVPN_P_DATA_V1 then p.data
    else writeBufInt64 p.mySessionId ++ (ackBytes p ++ payloadBytes p)

/-- `OvsBuildPacket`; a buffer that grows too large ends the program. -/
def ovsBuildPacket (p : Packet) : Option (List UInt8) :=
  if (packetBytes p).length ≤ maxBufSize then some (packetBytes p) else none

/-- The loop over the acknowledged ids: the ids, the pointer and the size behind them. -/
def readAcks : Nat → List UInt8 → Nat → Option (List UInt32 × List UInt8 × Nat)
  | 0, data, size => some ([], data, size)
  | count + 1, data, size => do
      let id ← readUINT data
      let (ids, data, size) ← readAcks count (data.drop 4) (subUINT size 4)
      return (id :: ids, data, size)

def parsePayload (ret : Packet) (data : List UInt8) (size : Nat) : Option (Option Packet) :=
  if ret.opCode = OPENVPN_P_ACK_V1 then some (some ret)
  else if size < 4 then some none
  else do
    let packetId ← readUINT data
    let payload ← clone (data.drop 4) (subUINT size 4)
    return some { ret with packetId := packetId, data := payload }

/-- The acknowledgements and what stands behind them. -/
def parseAck (ret : Packet) (data : List UInt8) (size : Nat) : Option (Option Packet) :=
  if size < 1 then some none
  else do
    let uc ← data.head?
    let data := data.drop 1
    let size := subUINT size 1
    if OPENVPN_MAX_NUMACK < uc.toNat then return none
    else if 1 ≤ uc.toNat then
      if size < 4 * uc.toNat + 8 then return none
      else do
        let (ids, data, size) ← readAcks uc.toNat data size
        let yourSessionId ← readUINT64 data
        parsePayload { ret with ackPacketId := ids, yourSessionId := yourSessionId }
          (data.drop 8) (subUINT size 8)
    else parsePayload ret data size

/-- `OvsParsePacket`: nothing for a read behind the end of the memory, and inside it
nothing for a packet that is rejected. -/
def ovsParsePacket (data : List UInt8) (size : Nat) : Option (Option Packet) :=
  if size = 0 then some none
  else do
    let uc ← data.head?
    let data := data.drop 1
    let size := subUINT size 1
    let ret : Packet :=
      { opCode := ((uc &&& 0xF8) >>> 3) &&& 0x1F, keyId := uc &&& 0x07 }
    if ret.opCode = OPENVPN_P_DATA_V1 then do
      let payload ← clone data size
      return some { ret with data := payload }
    else if size < 8 then return none
    else do
      let mySessionId ← readUINT64 data
      parseAck { ret with mySessionId := mySessionId } (data.drop 8) (subUINT size 8)

/-! ## Reading what was built -/

theorem readAcks_write
    {ids : List UInt32}
    {rest : List UInt8}
    (small : (ids.flatMap writeBufInt ++ rest).length < X32) :
    readAcks ids.length (ids.flatMap writeBufInt ++ rest)
        (ids.flatMap writeBufInt ++ rest).length = some (ids, rest, rest.length) := by
  induction ids with
  | nil => rfl
  | cons id others inductionHypothesis =>
      rw [List.flatMap_cons, List.append_assoc] at small ⊢
      have long := length_write id (others.flatMap writeBufInt ++ rest)
      have left : subUINT (writeBufInt id ++ (others.flatMap writeBufInt ++ rest)).length 4 =
          (others.flatMap writeBufInt ++ rest).length := by
        rw [subUINT_length (by omega) small, drop_write]
      rw [List.length_cons, readAcks, readUINT_write, left, drop_write,
        Option.bind_eq_bind, Option.bind_some, inductionHypothesis (by omega)]
      rfl

/-- What stands behind the acknowledgements is read. -/
theorem parsePayload_bytes
    {p ret : Packet}
    (opCode : ret.opCode = p.opCode)
    (small : (payloadBytes p).length < X32) :
    parsePayload ret (payloadBytes p) (payloadBytes p).length =
      some (some (if p.opCode = OPENVPN_P_ACK_V1 then ret
        else { ret with packetId := p.packetId, data := p.data })) := by
  by_cases ack : p.opCode = OPENVPN_P_ACK_V1
  · rw [parsePayload, if_pos (opCode.trans ack), if_pos ack]
  · have bytes : payloadBytes p = writeBufInt p.packetId ++ p.data := if_pos ack
    have long := length_write p.packetId p.data
    rw [bytes] at small ⊢
    have left : subUINT (writeBufInt p.packetId ++ p.data).length 4 = p.data.length := by
      rw [subUINT_length (by omega) small, drop_write]
    rw [parsePayload, if_neg (opCode ▸ ack), if_neg (by omega), readUINT_write, left,
      drop_write, if_neg ack, Option.bind_eq_bind, Option.bind_some, clone_self]
    rfl

/-- The acknowledgements that the parser finds in a packet that was built. -/
def withAcks (p ret : Packet) : Packet :=
  if p.ackPacketId = [] then ret
  else { ret with ackPacketId := p.ackPacketId.map writtenAck, yourSessionId := p.yourSessionId }

theorem length_writeIds (ids : List UInt32) :
    (ids.flatMap writeBufInt).length = 4 * ids.length := by
  induction ids with
  | nil => rfl
  | cons id others inductionHypothesis =>
      rw [List.flatMap_cons, length_write, inductionHypothesis, List.length_cons]
      omega

theorem flatMap_writtenAck (ids : List UInt32) :
    ids.flatMap (fun id => writeBufInt (writtenAck id)) =
      (ids.map writtenAck).flatMap writeBufInt := by
  rw [List.flatMap_map]

/-- The acknowledgements and what stands behind them are read. -/
theorem parseAck_bytes
    {p ret : Packet}
    (few : p.ackPacketId.length ≤ OPENVPN_MAX_NUMACK)
    (small : (ackBytes p ++ payloadBytes p).length < X32) :
    parseAck ret (ackBytes p ++ payloadBytes p) (ackBytes p ++ payloadBytes p).length =
      parsePayload (withAcks p ret) (payloadBytes p) (payloadBytes p).length := by
  have count : (UInt8.ofNat p.ackPacketId.length).toNat = p.ackPacketId.length := by
    rw [UInt8.toNat_ofNat']
    exact Nat.mod_eq_of_lt (Nat.lt_of_le_of_lt few (by decide))
  cases ids : p.ackPacketId with
  | nil =>
      have bytes : ackBytes p = [0] := by
        rw [ackBytes, ids]
        rfl
      rw [bytes] at small ⊢
      have left : subUINT ([0] ++ payloadBytes p).length 1 = (payloadBytes p).length :=
        subUINT_length (Nat.succ_le_succ (Nat.zero_le _)) small
      have empty : withAcks p ret = ret := if_pos ids
      have started : ¬([0] ++ payloadBytes p).length < 1 := by simp
      rw [parseAck, if_neg started, left, empty]
      rfl
  | cons id others =>
      have nonempty : p.ackPacketId ≠ [] := by simp [ids]
      have positive : 1 ≤ p.ackPacketId.length := by simp [ids]
      have bytes : ackBytes p = UInt8.ofNat p.ackPacketId.length ::
          ((p.ackPacketId.map writtenAck).flatMap writeBufInt ++
            writeBufInt64 p.yourSessionId) := by
        rw [ackBytes, List.take_of_length_le few, if_pos positive, flatMap_writtenAck]
      rw [bytes, List.cons_append, List.append_assoc] at small ⊢
      have inner : ((p.ackPacketId.map writtenAck).flatMap writeBufInt ++
          (writeBufInt64 p.yourSessionId ++ payloadBytes p)).length < X32 :=
        Nat.lt_of_succ_lt small
      have acks := readAcks_write inner
      rw [List.length_map] at acks
      have idsLength := length_writeIds (p.ackPacketId.map writtenAck)
      rw [List.length_map] at idsLength
      have session := length_write64 p.yourSessionId (payloadBytes p)
      generalize front : (p.ackPacketId.map writtenAck).flatMap writeBufInt = written at *
      have left : subUINT (UInt8.ofNat p.ackPacketId.length ::
          (written ++ (writeBufInt64 p.yourSessionId ++ payloadBytes p))).length 1 =
          (written ++ (writeBufInt64 p.yourSessionId ++ payloadBytes p)).length :=
        subUINT_length (Nat.succ_le_succ (Nat.zero_le _)) small
      have behind : subUINT (writeBufInt64 p.yourSessionId ++ payloadBytes p).length 8 =
          (payloadBytes p).length := by
        rw [List.length_append] at inner
        rw [subUINT_length (by omega) (by omega), drop_write64]
      have room : ¬(written ++ (writeBufInt64 p.yourSessionId ++ payloadBytes p)).length <
          4 * p.ackPacketId.length + 8 := by
        rw [List.length_append]
        omega
      have filled : withAcks p ret = { ret with
          ackPacketId := p.ackPacketId.map writtenAck
          yourSessionId := p.yourSessionId } := if_neg nonempty
      have started : ¬(UInt8.ofNat p.ackPacketId.length ::
          (written ++ (writeBufInt64 p.yourSessionId ++ payloadBytes p))).length < 1 := by
        simp
      rw [parseAck, if_neg started, left]
      simp only [List.head?_cons, List.drop_succ_cons, List.drop_zero, Option.bind_eq_bind,
        Option.bind_some, count]
      rw [if_neg (Nat.not_lt.mpr few), if_pos positive, if_neg room, acks]
      simp only [Option.bind_some]
      rw [readUINT64_write, behind, drop_write64, filled]
      rfl

private theorem firstByte_fields :
    ∀ (opCode : Fin 32) (keyId : Fin 8),
      ((firstByte (UInt8.ofNat opCode) (UInt8.ofNat keyId) &&& 0xF8) >>> 3) &&& 0x1F =
          UInt8.ofNat opCode ∧
        firstByte (UInt8.ofNat opCode) (UInt8.ofNat keyId) &&& 0x07 = UInt8.ofNat keyId := by
  decide +kernel

theorem firstByte_spec
    {opCode keyId : UInt8}
    (fiveBits : opCode < 32)
    (threeBits : keyId < 8) :
    ((firstByte opCode keyId &&& 0xF8) >>> 3) &&& 0x1F = opCode ∧
      firstByte opCode keyId &&& 0x07 = keyId := by
  have fields := firstByte_fields ⟨opCode.toNat, UInt8.lt_iff_toNat_lt.mp fiveBits⟩
    ⟨keyId.toNat, UInt8.lt_iff_toNat_lt.mp threeBits⟩
  rw [UInt8.ofNat_toNat, UInt8.ofNat_toNat] at fields
  exact fields

/-- The packet that the parser makes of a packet that was built. -/
def received (p : Packet) : Packet :=
  if p.opCode = OPENVPN_P_DATA_V1 then
    { opCode := p.opCode, keyId := p.keyId, data := p.data }
  else
    let ret := withAcks p
      { opCode := p.opCode, keyId := p.keyId, mySessionId := p.mySessionId }
    if p.opCode = OPENVPN_P_ACK_V1 then ret
    else { ret with packetId := p.packetId, data := p.data }

theorem ovsParsePacket_packetBytes
    {p : Packet}
    (fiveBits : p.opCode < 32)
    (threeBits : p.keyId < 8)
    (few : p.ackPacketId.length ≤ OPENVPN_MAX_NUMACK)
    (small : (packetBytes p).length < X32) :
    ovsParsePacket (packetBytes p) (packetBytes p).length = some (some (received p)) := by
  obtain ⟨opCode, keyId⟩ := firstByte_spec fiveBits threeBits
  by_cases isData : p.opCode = OPENVPN_P_DATA_V1
  · have bytes : packetBytes p = firstByte p.opCode p.keyId :: p.data := by
      rw [packetBytes, if_pos isData]
    rw [bytes] at small ⊢
    have left : subUINT (firstByte p.opCode p.keyId :: p.data).length 1 = p.data.length :=
      subUINT_length (Nat.succ_le_succ (Nat.zero_le _)) small
    rw [ovsParsePacket, if_neg (by simp), left]
    simp only [List.head?_cons, List.drop_succ_cons, List.drop_zero, Option.bind_eq_bind,
      Option.bind_some, opCode, keyId]
    rw [if_pos isData, clone_self, received, if_pos isData]
    rfl
  · have bytes : packetBytes p = firstByte p.opCode p.keyId ::
        (writeBufInt64 p.mySessionId ++ (ackBytes p ++ payloadBytes p)) := by
      rw [packetBytes, if_neg isData]
    rw [bytes] at small ⊢
    have inner : (writeBufInt64 p.mySessionId ++ (ackBytes p ++ payloadBytes p)).length < X32 :=
      Nat.lt_of_succ_lt small
    have session := length_write64 p.mySessionId (ackBytes p ++ payloadBytes p)
    have left : subUINT (firstByte p.opCode p.keyId ::
        (writeBufInt64 p.mySessionId ++ (ackBytes p ++ payloadBytes p))).length 1 =
          (writeBufInt64 p.mySessionId ++ (ackBytes p ++ payloadBytes p)).length :=
      subUINT_length (Nat.succ_le_succ (Nat.zero_le _)) small
    have behind : subUINT (writeBufInt64 p.mySessionId ++ (ackBytes p ++ payloadBytes p)).length
        8 = (ackBytes p ++ payloadBytes p).length := by
      rw [subUINT_length (by omega) inner, drop_write64]
    have same : (withAcks p
        { opCode := p.opCode, keyId := p.keyId, mySessionId := p.mySessionId }).opCode =
          p.opCode := by
      unfold withAcks
      split <;> rfl
    rw [ovsParsePacket, if_neg (by simp), left]
    simp only [List.head?_cons, List.drop_succ_cons, List.drop_zero, Option.bind_eq_bind,
      Option.bind_some, opCode, keyId]
    rw [if_neg isData, if_neg (by omega), readUINT64_write, behind, drop_write64]
    simp only [Option.bind_some]
    rw [parseAck_bytes few (by omega), parsePayload_bytes same, received, if_neg isData]
    have total : (ackBytes p ++ payloadBytes p).length =
        (ackBytes p).length + (payloadBytes p).length := List.length_append
    omega

/-! ## Reading inside the memory -/

variable {data : List UInt8}

theorem readUINT_isSome
    (enough : 4 ≤ data.length) :
    ∃ value, readUINT data = some value :=
  ⟨_, if_pos enough⟩

theorem readUINT64_isSome
    (enough : 8 ≤ data.length) :
    ∃ value, readUINT64 data = some value :=
  ⟨_, if_pos enough⟩

theorem readAcks_isSome
    {count : Nat}
    (enough : 4 * count ≤ data.length)
    (small : data.length < X32) :
    ∃ ids, readAcks count data data.length =
      some (ids, data.drop (4 * count), (data.drop (4 * count)).length) := by
  induction count generalizing data with
  | zero => exact ⟨[], rfl⟩
  | succ count inductionHypothesis =>
      obtain ⟨id, read⟩ := readUINT_isSome (show 4 ≤ data.length by omega)
      have shorter : (data.drop 4).length = data.length - 4 := List.length_drop
      obtain ⟨ids, rest⟩ := @inductionHypothesis (data.drop 4) (by omega) (by omega)
      refine ⟨id :: ids, ?_⟩
      rw [readAcks, read, subUINT_length (by omega) small, Option.bind_eq_bind,
        Option.bind_some, rest, List.drop_drop, show 4 + 4 * count = 4 * (count + 1) by ring]
      rfl

theorem parsePayload_inside
    {ret : Packet}
    (small : data.length < X32) :
    parsePayload ret data data.length ≠ none := by
  unfold parsePayload
  by_cases ack : ret.opCode = OPENVPN_P_ACK_V1
  · rw [if_pos ack]
    exact Option.some_ne_none _
  · rw [if_neg ack]
    by_cases short : data.length < 4
    · rw [if_pos short]
      exact Option.some_ne_none _
    · obtain ⟨value, read⟩ := readUINT_isSome (Nat.not_lt.mp short)
      rw [if_neg short, read, subUINT_length (Nat.not_lt.mp short) small, Option.bind_eq_bind,
        Option.bind_some, clone_self]
      exact Option.some_ne_none _

theorem parseAck_inside
    {ret : Packet}
    (small : data.length < X32) :
    parseAck ret data data.length ≠ none := by
  cases data with
  | nil => exact Option.some_ne_none _
  | cons uc rest =>
      have started : ¬(uc :: rest).length < 1 := by simp
      have left : subUINT (uc :: rest).length 1 = rest.length :=
        subUINT_length (Nat.succ_le_succ (Nat.zero_le _)) small
      have inner : rest.length < X32 := Nat.lt_of_succ_lt small
      rw [parseAck, if_neg started, left]
      simp only [List.head?_cons, List.drop_succ_cons, List.drop_zero, Option.bind_eq_bind,
        Option.bind_some]
      by_cases many : OPENVPN_MAX_NUMACK < uc.toNat
      · rw [if_pos many]
        exact Option.some_ne_none _
      · rw [if_neg many]
        by_cases some_ : 1 ≤ uc.toNat
        · rw [if_pos some_]
          by_cases short : rest.length < 4 * uc.toNat + 8
          · rw [if_pos short]
            exact Option.some_ne_none _
          · obtain ⟨ids, acks⟩ := readAcks_isSome
              (show 4 * uc.toNat ≤ rest.length by omega) inner
            have behind : (rest.drop (4 * uc.toNat)).length = rest.length - 4 * uc.toNat :=
              List.length_drop
            obtain ⟨session, read⟩ := readUINT64_isSome
              (show 8 ≤ (rest.drop (4 * uc.toNat)).length by omega)
            rw [if_neg short, acks]
            simp only [Option.bind_some]
            rw [read, subUINT_length (by omega) (by omega)]
            apply parsePayload_inside
            rw [List.length_drop]
            omega
        · rw [if_neg some_]
          exact parsePayload_inside inner

theorem ovsParsePacket_inside
    (small : data.length < X32) :
    ovsParsePacket data data.length ≠ none := by
  cases data with
  | nil => exact Option.some_ne_none _
  | cons uc rest =>
      have left : subUINT (uc :: rest).length 1 = rest.length :=
        subUINT_length (Nat.succ_le_succ (Nat.zero_le _)) small
      have inner : rest.length < X32 := Nat.lt_of_succ_lt small
      rw [ovsParsePacket, if_neg (by simp), left]
      simp only [List.head?_cons, List.drop_succ_cons, List.drop_zero, Option.bind_eq_bind,
        Option.bind_some]
      by_cases isData : ((uc &&& 0xF8) >>> 3) &&& 0x1F = OPENVPN_P_DATA_V1
      · rw [if_pos isData, clone_self]
        exact Option.some_ne_none _
      · rw [if_neg isData]
        by_cases short : rest.length < 8
        · rw [if_pos short]
          exact Option.some_ne_none _
        · obtain ⟨session, read⟩ := readUINT64_isSome (Nat.not_lt.mp short)
          rw [if_neg short, read, subUINT_length (Nat.not_lt.mp short) inner]
          apply parseAck_inside
          rw [List.length_drop]
          omega

/-! ## The round trip -/

/-- The second packet has the fields of the first that its opcode carries. -/
structure SameFields (p ret : Packet) : Prop where
  opCode : ret.opCode = p.opCode
  keyId : ret.keyId = p.keyId
  mySessionId : p.opCode ≠ OPENVPN_P_DATA_V1 → ret.mySessionId = p.mySessionId
  ackPacketId : p.opCode ≠ OPENVPN_P_DATA_V1 → ret.ackPacketId = p.ackPacketId
  /-- `YourSessionId`, which comes with acknowledgements. -/
  yourSessionId : p.opCode ≠ OPENVPN_P_DATA_V1 → p.ackPacketId ≠ [] →
    ret.yourSessionId = p.yourSessionId
  packetId : p.opCode ≠ OPENVPN_P_DATA_V1 → p.opCode ≠ OPENVPN_P_ACK_V1 →
    ret.packetId = p.packetId
  data : p.opCode ≠ OPENVPN_P_ACK_V1 → ret.data = p.data

/-- The packet is built, parsed again and found unchanged. -/
def RoundTrips (p : Packet) : Prop :=
  ∃ bytes ret, ovsBuildPacket p = some bytes ∧
    ovsParsePacket bytes bytes.length = some (some ret) ∧ SameFields p ret

theorem writtenAck_eq_iff (id : UInt32) : writtenAck id = id ↔ id < 256 := by
  have number : (writtenAck id).toNat = id.toNat % 256 := rfl
  constructor
  · intro same
    rw [same] at number
    exact UInt32.lt_iff_toNat_lt.mpr (number ▸ Nat.mod_lt _ (by decide))
  · intro small
    apply UInt32.toNat_inj.mp
    rw [number]
    exact Nat.mod_eq_of_lt (UInt32.lt_iff_toNat_lt.mp small)

theorem map_writtenAck_eq_iff (ids : List UInt32) :
    ids.map writtenAck = ids ↔ ∀ id ∈ ids, id < 256 := by
  induction ids with
  | nil => simp
  | cons id others inductionHypothesis =>
      rw [List.map_cons, List.cons.injEq, inductionHypothesis, writtenAck_eq_iff,
        List.forall_mem_cons]

/-- The packet that is parsed differs from the one that was built in its acknowledged ids
alone. -/
theorem sameFields_received_iff (p : Packet) :
    SameFields p (received p) ↔
      (p.opCode = OPENVPN_P_DATA_V1 ∨ ∀ id ∈ p.ackPacketId, id < 256) := by
  rw [← map_writtenAck_eq_iff]
  by_cases isData : p.opCode = OPENVPN_P_DATA_V1
  · have result : received p =
        { opCode := p.opCode, keyId := p.keyId, data := p.data } := if_pos isData
    rw [result]
    exact ⟨fun _ => Or.inl isData, fun _ => {
      opCode := rfl
      keyId := rfl
      mySessionId := fun control => absurd isData control
      ackPacketId := fun control => absurd isData control
      yourSessionId := fun control => absurd isData control
      packetId := fun control => absurd isData control
      data := fun _ => rfl }⟩
  · have acks : (received p).ackPacketId = p.ackPacketId.map writtenAck := by
      rw [received, if_neg isData]
      by_cases empty : p.ackPacketId = []
      · simp only [withAcks, empty, List.map_nil]
        split <;> rfl
      · simp only [withAcks, if_neg empty]
        split <;> rfl
    constructor
    · intro same
      exact Or.inr (acks ▸ same.ackPacketId isData)
    · intro condition
      have unchanged := condition.resolve_left isData
      rw [received, if_neg isData] at acks ⊢
      refine ⟨?_, ?_, ?_, fun _ => acks.trans unchanged, ?_, ?_, ?_⟩ <;>
        unfold withAcks <;> split <;> split <;> simp_all

/-- **The round trip of a packet.**  It succeeds exactly when the buffer is large enough and,
unless the packet is a data packet, every acknowledged id fits into one byte.  No byte string
is read behind its end. -/
theorem roundTrips_iff
    (p : Packet)
    (fiveBits : p.opCode < 32)
    (threeBits : p.keyId < 8)
    (few : p.ackPacketId.length ≤ OPENVPN_MAX_NUMACK) :
    (RoundTrips p ↔
      (packetBytes p).length ≤ maxBufSize ∧
        (p.opCode = OPENVPN_P_DATA_V1 ∨ ∀ id ∈ p.ackPacketId, id < 256)) ∧
      ∀ data : List UInt8, data.length < X32 → ovsParsePacket data data.length ≠ none := by
  refine ⟨?_, fun data small => ovsParsePacket_inside small⟩
  rw [← sameFields_received_iff]
  have parsed := fun inside : (packetBytes p).length ≤ maxBufSize =>
    ovsParsePacket_packetBytes fiveBits threeBits few
      (Nat.lt_of_le_of_lt inside (by decide))
  constructor
  · rintro ⟨bytes, ret, built, result, same⟩
    have inside : (packetBytes p).length ≤ maxBufSize := by
      by_contra large
      rw [ovsBuildPacket, if_neg large] at built
      exact nomatch built
    rw [ovsBuildPacket, if_pos inside] at built
    injection built with built
    rw [← built, parsed inside] at result
    injection result with result
    injection result with result
    exact ⟨inside, result ▸ same⟩
  · rintro ⟨inside, same⟩
    exact ⟨packetBytes p, received p, if_pos inside, parsed inside, same⟩

/-- An acknowledgement of the control packet 7 comes back. -/
theorem roundTrips_iff_small :
    RoundTrips
      { opCode := OPENVPN_P_CONTROL_V1, keyId := 1, mySessionId := 5, ackPacketId := [7],
        yourSessionId := 6, packetId := 300, data := [1, 2, 3] } :=
  (roundTrips_iff _ (by decide) (by decide) (by decide)).1.mpr
    ⟨by decide, Or.inr (List.forall_mem_singleton.mpr (by decide))⟩

/-- An acknowledgement of the control packet 256 comes back as one of the packet 0. -/
theorem ovsBuildPacket_narrows_ack :
    ¬RoundTrips
      { opCode := OPENVPN_P_ACK_V1, keyId := 0, mySessionId := 5, ackPacketId := [256],
        yourSessionId := 6 } := by
  rintro ⟨bytes, ret, built, result, same⟩
  injection built with built
  rw [← built] at result
  injection result with result
  injection result with result
  have acks := same.ackPacketId (by decide)
  rw [← result] at acks
  exact absurd acks (by decide)

end OpenVpn
end SoftEther
