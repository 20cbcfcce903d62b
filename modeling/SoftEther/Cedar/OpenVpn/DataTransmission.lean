import SoftEther.Cedar.OpenVpn.Control
import SoftEther.Cedar.OpenVpn.DataPacket
import SoftEther.Library.Counters

/-!
# Data transmission

The data packets that `OvsRecvPacket` sends on an established channel with an AEAD cipher, from
the hub and as pings, each with the next `LastDataPacketId`, which is the variable part of the
IV.  The keys of a channel are made once, before it is established.  A packet ID comes again
when it has wrapped: a re-keying is only asked for, and the channel goes on sending.
-/

namespace SoftEther
namespace OpenVpn

open Library

/-- A data packet on its way to the client, with the IV that it was encrypted with. -/
structure SentData where
  /-- `IvSend`. -/
  iv : List UInt8
  /-- The packet. -/
  bytes : List UInt8

/-- An established channel with an AEAD cipher, and a record of what it has sent. -/
structure Sender where
  channel : Channel
  ivSend : List UInt8
  /-- The packet IDs that `OvsSendDataPacket` has got, the oldest first. -/
  packetIds : List UInt32 := []
  /-- The packets, the oldest first. -/
  sent : List SentData := []

section

variable (pppParseUsername : CString → CString × CString)

-- What `CipherProcessAead` makes of the IV, the additional data and the data: the tag and the
-- encrypted data, or nothing when it fails.
variable (cipherProcessAead :
  List UInt8 → List UInt8 → List UInt8 → Option (List UInt8 × List UInt8))

/-- `OvsSendDataPacket` with an AEAD cipher. -/
def ovsSendDataPacket (s : Sender) (dataPacketId : UInt32) (data : List UInt8) : Sender :=
  let s := { s with packetIds := s.packetIds ++ [dataPacketId] }
  if data = [] then s
  else
    let op := firstByte OPENVPN_P_DATA_V1 s.channel.keyId
    let packetId := writeBufInt dataPacketId
    -- Update variable part (packet ID) of IV
    let ivSend := packetId ++ s.ivSend.drop 4
    let s := { s with ivSend := ivSend }
    match cipherProcessAead ivSend packetId data with
    | none => s
    | some (tag, encrypted) =>
        { s with
          sent := s.sent ++ [{ iv := ivSend, bytes := op :: (packetId ++ tag ++ encrypted) }] }

/-- `OvsSendDataPacket` with `++LastDataPacketId`. -/
def sendNext (s : Sender) (data : List UInt8) : Sender :=
  let lastDataPacketId := s.channel.lastDataPacketId + 1
  ovsSendDataPacket cipherProcessAead
    { s with channel := { s.channel with lastDataPacketId := lastDataPacketId } }
    lastDataPacketId data

/-- The part of `OvsRecvPacket` that sends data with the latest channel: the blocks from the
hub, which are only taken out when packets are suppressed, and a ping when one is due. -/
def transmitData
    (supressSendPacket : Bool)
    (blocks : List (List UInt8))
    (ping : Bool)
    (s : Sender) :
    Sender :=
  let s := if supressSendPacket then s else blocks.foldl (sendNext cipherProcessAead) s
  if ping then sendNext cipherProcessAead s pingSignature else s

inductive SenderEvent
  /-- What happens to its control channel: packets arrive, `OvsRecvPacket` works on it, the next
  channel is made for a new key. -/
  | control (event : ChannelEvent)
  /-- It is the latest channel when `OvsRecvPacket` sends data. -/
  | transmit (supressSendPacket : Bool) (blocks : List (List UInt8)) (ping : Bool)

def senderStep (s : Sender) : SenderEvent → Option Sender
  | .control (.dataSent _) => none
  | .control event =>
      (channelStep pppParseUsername s.channel event).map fun c => { s with channel := c }
  | .transmit supressSendPacket blocks ping =>
      if s.channel.status = .established then
        some (transmitData cipherProcessAead supressSendPacket blocks ping s)
      else none

end

/-! ## The control channel leaves the counter -/

section

variable {pppParseUsername : CString → CString × CString}

theorem lastDataPacketId_sync (c : Channel) (tls : TlsResult) :
    (c.sync tls).lastDataPacketId = c.lastDataPacketId := by
  unfold Channel.sync
  split <;> rfl

theorem lastDataPacketId_pour (c : Channel) (data : List UInt8) (tls : TlsResult) :
    (c.pour data tls).lastDataPacketId = c.lastDataPacketId := by
  unfold Channel.pour
  dsimp only
  split
  · rfl
  · exact lastDataPacketId_sync _ tls

theorem lastDataPacketId_insertAck (c : Channel) (packetId : UInt32) :
    (c.insertAck packetId).lastDataPacketId = c.lastDataPacketId := by
  unfold Channel.insertAck
  split <;> rfl

theorem lastDataPacketId_autoSplit (c : Channel) (opCode : UInt8) (data : List UInt8) :
    (c.sendControlPacketWithAutoSplit opCode data).lastDataPacketId = c.lastDataPacketId := by
  unfold Channel.sendControlPacketWithAutoSplit
  generalize data.toChunks OPENVPN_CONTROL_PACKET_MAX_DATASIZE = chunks
  induction chunks generalizing c with
  | nil => rfl
  | cons chunk rest inductionHypothesis =>
      rw [List.foldl_cons, inductionHypothesis]
      rfl

theorem lastDataPacketId_advance (se : Session) (c : Channel) (p : Packet) :
    (advance pppParseUsername se c p).2.lastDataPacketId = c.lastDataPacketId := by
  unfold advance
  cases c.status with
  | init =>
      dsimp only
      split
      · split
        · dsimp only
          split <;> rfl
        · rfl
      · split <;> rfl
  | tlsWaitClientKey =>
      dsimp only
      split <;> rfl
  | tlsWaitClientPushRequest =>
      dsimp only
      split
      · rfl
      · split <;> rfl
  | tlsVpnConnecting =>
      dsimp only
      split <;> rfl
  | established =>
      dsimp only
      split <;> rfl
  | disconnected => rfl

theorem lastDataPacketId_recvOnChannel
    (se : Session)
    (c : Channel)
    (p : Packet)
    (tls : TlsResult) :
    (recvOnChannel pppParseUsername se c p tls).2.lastDataPacketId = c.lastDataPacketId := by
  unfold recvOnChannel
  dsimp only
  split
  · rfl
  · split
    · unfold ovsProcessRecvControlPacket
      rw [lastDataPacketId_advance]
      split
      · rw [lastDataPacketId_pour]
        exact lastDataPacketId_insertAck _ p.packetId
      · exact lastDataPacketId_insertAck _ p.packetId
    · exact lastDataPacketId_insertAck _ p.packetId

theorem lastDataPacketId_checkConnection (se : Session) (c : Channel) :
    (checkConnection se c).2.lastDataPacketId = c.lastDataPacketId := by
  unfold checkConnection
  split
  · split
    · rfl
    · split
      · split <;> rfl
      · rfl
  · split <;> rfl
  · rfl

theorem lastDataPacketId_sendRawOut (c : Channel) (input : ChannelInput) :
    (sendRawOut c input).lastDataPacketId = c.lastDataPacketId := by
  unfold sendRawOut
  dsimp only
  split
  · exact lastDataPacketId_sync c input.tls
  · split
    · exact lastDataPacketId_sync c input.tls
    · rw [lastDataPacketId_autoSplit]
      exact lastDataPacketId_sync c input.tls

theorem lastDataPacketId_transmit
    (now : Nat)
    (se : Session)
    (c : Channel)
    (control : List ControlPacket) :
    (transmit now se c control).2.2.lastDataPacketId = c.lastDataPacketId := by
  induction control generalizing c with
  | nil => rfl
  | cons cp rest inductionHypothesis =>
      unfold transmit
      split
      · exact inductionHypothesis c.getAckReplyList.2
      · exact inductionHypothesis c

theorem lastDataPacketId_reply (now : Nat) (se : Session) (c : Channel) :
    (reply now se c).2.lastDataPacketId = c.lastDataPacketId := by
  have sent := lastDataPacketId_transmit now se c c.sendControlPacketList
  unfold reply
  generalize transmit now se c c.sendControlPacketList = transmitted at sent ⊢
  obtain ⟨packets, rest, after⟩ := transmitted
  dsimp only
  split <;> exact sent

theorem lastDataPacketId_channelStep
    {c after : Channel}
    {event : ChannelEvent}
    (control : ∀ count, event ≠ .dataSent count)
    (stepped : channelStep pppParseUsername c event = some after) :
    after.lastDataPacketId = c.lastDataPacketId := by
  cases event with
  | recv se p tls =>
      injection stepped with stepped
      rw [← stepped]
      exact lastDataPacketId_recvOnChannel se c p tls
  | work se now input =>
      have same : (reply now (checkConnection se c).1
          (sendRawOut (checkConnection se c).2 input)).2 = after :=
        Option.some.inj stepped
      rw [← same, lastDataPacketId_reply, lastDataPacketId_sendRawOut,
        lastDataPacketId_checkConnection]
  | rekeyInitiated =>
      injection stepped with stepped
      rw [← stepped]
  | dataSent count => exact absurd rfl (control count)

end

/-! ## Counted packets -/

theorem wrapsAt_packetId : WrapsAt (2 ^ 32) UInt32.ofNat := by
  intro left right
  rw [← UInt32.toNat_inj, UInt32.toNat_ofNat', UInt32.toNat_ofNat']

/-- The IV that a packet ID makes with the part that stays. -/
def packetIv (implicitIv : List UInt8) (packetId : UInt32) : List UInt8 :=
  writeBufInt packetId ++ implicitIv

theorem packetIv_injective (implicitIv : List UInt8) :
    Function.Injective (packetIv implicitIv) := by
  intro left right same
  have written : writeBufInt left = writeBufInt right := List.append_cancel_right same
  have read := congrArg fromBigEndian written
  have value : ∀ packetId : UInt32, fromBigEndian (writeBufInt packetId) = packetId.toNat :=
    fun packetId => fromBigEndian_bigEndian packetId.toNat_lt
  rw [value, value] at read
  exact UInt32.toNat_inj.mp read

/-- The packets of a channel have the packet IDs from one on, and their IVs. -/
structure Sender.Counted (implicitIv : List UInt8) (s : Sender) : Prop where
  packetIds : s.packetIds = counted UInt32.ofNat 1 s.packetIds.length
  last : s.channel.lastDataPacketId = UInt32.ofNat s.packetIds.length
  ivSend : s.ivSend.drop 4 = implicitIv
  sent : (s.sent.map SentData.iv).Sublist (s.packetIds.map (packetIv implicitIv))

section

variable {pppParseUsername : CString → CString × CString}
variable {cipherProcessAead :
  List UInt8 → List UInt8 → List UInt8 → Option (List UInt8 × List UInt8)}
variable {implicitIv : List UInt8}

theorem ovsSendDataPacket_cases (s : Sender) (dataPacketId : UInt32) (data : List UInt8) :
    let after := ovsSendDataPacket cipherProcessAead s dataPacketId data
    after.channel = s.channel ∧ after.packetIds = s.packetIds ++ [dataPacketId] ∧
      after.ivSend.drop 4 = s.ivSend.drop 4 ∧
        (after.sent = s.sent ∨
          ∃ bytes, after.sent =
            s.sent ++ [{ iv := packetIv (s.ivSend.drop 4) dataPacketId, bytes := bytes }]) := by
  have rest : (writeBufInt dataPacketId ++ s.ivSend.drop 4).drop 4 = s.ivSend.drop 4 :=
    List.drop_left' rfl
  unfold ovsSendDataPacket
  dsimp only
  split
  · exact ⟨rfl, rfl, rfl, .inl rfl⟩
  · split
    · exact ⟨rfl, rfl, rest, .inl rfl⟩
    · exact ⟨rfl, rfl, rest, .inr ⟨_, rfl⟩⟩

theorem Sender.Counted.sendNext
    {s : Sender}
    (counted : s.Counted implicitIv)
    (data : List UInt8) :
    (OpenVpn.sendNext cipherProcessAead s data).Counted implicitIv := by
  have next : s.channel.lastDataPacketId + 1 = UInt32.ofNat (1 + s.packetIds.length) := by
    rw [counted.last, Nat.add_comm, UInt32.ofNat_add]
    rfl
  unfold OpenVpn.sendNext
  obtain ⟨channel, packetIds, ivSend, sent⟩ := @ovsSendDataPacket_cases cipherProcessAead
    { s with channel := { s.channel with
        lastDataPacketId := s.channel.lastDataPacketId + 1 } }
    (s.channel.lastDataPacketId + 1) data
  dsimp only
  generalize ovsSendDataPacket cipherProcessAead _ _ data = after at *
  constructor
  · rw [packetIds, List.length_append, List.length_singleton, counted_succ,
      ← counted.packetIds, next]
  · rw [channel, packetIds, List.length_append, List.length_singleton, Nat.add_comm]
    exact next
  · exact ivSend.trans counted.ivSend
  · rw [packetIds, List.map_append]
    rcases sent with same | ⟨bytes, more⟩
    · rw [same]
      exact counted.sent.trans (List.sublist_append_left _ _)
    · rw [more, List.map_append]
      refine counted.sent.append ?_
      rw [List.map_singleton, List.map_singleton, counted.ivSend]

theorem Sender.Counted.transmitData
    {s : Sender}
    (counted : s.Counted implicitIv)
    (supressSendPacket : Bool)
    (blocks : List (List UInt8))
    (ping : Bool) :
    (OpenVpn.transmitData cipherProcessAead supressSendPacket blocks ping s).Counted
      implicitIv := by
  have blocksSent : (blocks.foldl (OpenVpn.sendNext cipherProcessAead) s).Counted implicitIv := by
    induction blocks generalizing s with
    | nil => exact counted
    | cons block rest inductionHypothesis => exact inductionHypothesis (counted.sendNext block)
  unfold OpenVpn.transmitData
  dsimp only
  split
  · split
    · exact counted.sendNext pingSignature
    · exact blocksSent.sendNext pingSignature
  · split
    · exact counted
    · exact blocksSent

theorem Sender.Counted.step
    {s after : Sender}
    {event : SenderEvent}
    (counted : s.Counted implicitIv)
    (stepped : senderStep pppParseUsername cipherProcessAead s event = some after) :
    after.Counted implicitIv := by
  cases event with
  | transmit supressSendPacket blocks ping =>
      unfold senderStep at stepped
      dsimp only at stepped
      split at stepped
      · injection stepped with stepped
        rw [← stepped]
        exact counted.transmitData supressSendPacket blocks ping
      · exact nomatch stepped
  | control event =>
      have control : ∀ count, event ≠ .dataSent count := by
        rintro count rfl
        exact nomatch stepped
      have moved : (channelStep pppParseUsername s.channel event).map
          (fun c => { s with channel := c }) = some after := by
        cases event with
        | dataSent count => exact absurd rfl (control count)
        | recv => exact stepped
        | work => exact stepped
        | rekeyInitiated => exact stepped
      obtain ⟨c, channelStepped, rfl⟩ := Option.map_eq_some_iff.mp moved
      exact ⟨counted.packetIds,
        (lastDataPacketId_channelStep control channelStepped).trans counted.last,
        counted.ivSend, counted.sent⟩

/-- A channel that has just been established. -/
structure Sender.Established (s : Sender) : Prop where
  status : s.channel.status = .established
  lastDataPacketId : s.channel.lastDataPacketId = 0
  packetIds : s.packetIds = []
  sent : s.sent = []

theorem Sender.Established.counted
    {s : Sender}
    (established : s.Established) :
    s.Counted (s.ivSend.drop 4) := by
  constructor
  · rw [established.packetIds]
    rfl
  · rw [established.packetIds, established.lastDataPacketId]
    rfl
  · rfl
  · rw [established.sent]
    exact List.nil_sublist _

theorem Sender.Counted.nodup_iff
    {s : Sender}
    (counted : s.Counted implicitIv) :
    (s.packetIds.Nodup ∧ (s.sent.map SentData.iv).Nodup) ↔ s.packetIds.length ≤ 2 ^ 32 := by
  have ids : s.packetIds.Nodup ↔ s.packetIds.length ≤ 2 ^ 32 := by
    rw [counted.packetIds, length_counted]
    exact nodup_counted_iff wrapsAt_packetId (by decide) 1 s.packetIds.length
  rw [ids, and_iff_left_iff_imp]
  intro few
  exact counted.sent.nodup ((ids.mpr few).map (packetIv_injective implicitIv))

/-- **Packet IDs and IVs.**  In every run of an established channel the packet IDs and the IVs
of its packets are distinct exactly when the channel has been given no more packets than there
are numbers of 32 bits. -/
theorem packetIds_nodup_iff
    {s after : Sender}
    (established : s.Established)
    (reached : Reaches (senderStep pppParseUsername cipherProcessAead) (fun _ _ => True)
      s after) :
    (after.packetIds.Nodup ∧ (after.sent.map SentData.iv).Nodup) ↔
      after.packetIds.length ≤ 2 ^ 32 := by
  have counted : after.Counted (s.ivSend.drop 4) :=
    reached.invariant (Sender.Counted (s.ivSend.drop 4)) established.counted
      fun before event next holds _ stepped => holds.step stepped
  exact counted.nodup_iff

end

/-- A cipher that encrypts nothing, with a tag of zeros. -/
def plainAead (_ _ data : List UInt8) : Option (List UInt8 × List UInt8) :=
  some (List.replicate 16 0, data)

/-- A channel with an IV of zeros. -/
def firstSender : Sender where
  channel := { keyId := 0, status := .established }
  ivSend := List.replicate 12 0

theorem firstSender_established : firstSender.Established :=
  ⟨rfl, rfl, rfl, rfl⟩

/-- The channel after a round of sending. -/
def firstSenderAfter (blocks : List (List UInt8)) : Sender :=
  transmitData plainAead false blocks true firstSender

theorem firstSenderAfter_reached (blocks : List (List UInt8)) :
    Reaches (senderStep (fun name => (name, name)) plainAead) (fun _ _ => True) firstSender
      (firstSenderAfter blocks) := by
  have stepped : senderStep (fun name => (name, name)) plainAead firstSender
      (.transmit false blocks true) = some (firstSenderAfter blocks) := by
    unfold senderStep
    exact if_pos rfl
  exact .next .start trivial stepped

theorem packetIds_nodup_iff_ping :
    ((firstSenderAfter [[69]]).packetIds.Nodup ∧
        ((firstSenderAfter [[69]]).sent.map SentData.iv).Nodup) ↔
      (firstSenderAfter [[69]]).packetIds.length ≤ 2 ^ 32 :=
  packetIds_nodup_iff firstSender_established (firstSenderAfter_reached [[69]])

theorem length_packetIds_sendNext (s : Sender) (data : List UInt8) :
    (sendNext plainAead s data).packetIds.length = s.packetIds.length + 1 := by
  unfold sendNext
  rw [(ovsSendDataPacket_cases _ _ data).2.1, List.length_append]
  rfl

theorem length_packetIds_firstSenderAfter (blocks : List (List UInt8)) :
    (firstSenderAfter blocks).packetIds.length = blocks.length + 1 := by
  have sent : ∀ s : Sender, (blocks.foldl (sendNext plainAead) s).packetIds.length =
      s.packetIds.length + blocks.length := by
    induction blocks with
    | nil => exact fun s => rfl
    | cons block rest inductionHypothesis =>
        intro s
        rw [List.foldl_cons, inductionHypothesis, length_packetIds_sendNext, List.length_cons]
        omega
  change (sendNext plainAead (blocks.foldl (sendNext plainAead) firstSender)
    pingSignature).packetIds.length = _
  rw [length_packetIds_sendNext, sent]
  exact congrArg (· + 1) (Nat.zero_add _)

/-- A channel whose client does not answer the request for a new key goes on sending until the
packet IDs come again. -/
theorem packetIds_come_again :
    ¬∀ after, Reaches (senderStep (fun name => (name, name)) plainAead) (fun _ _ => True)
      firstSender after → after.packetIds.Nodup ∧ (after.sent.map SentData.iv).Nodup := by
  intro all
  have distinct := all _ (firstSenderAfter_reached (List.replicate (2 ^ 32) [69]))
  have counted : (firstSenderAfter (List.replicate (2 ^ 32) [69])).Counted
      (firstSender.ivSend.drop 4) :=
    firstSender_established.counted.transmitData false _ true
  have few := counted.nodup_iff.mp distinct
  rw [length_packetIds_firstSenderAfter, List.length_replicate] at few
  omega

end OpenVpn
end SoftEther
