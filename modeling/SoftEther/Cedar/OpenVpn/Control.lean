import Mathlib.Data.List.InsertIdx
import SoftEther.Cedar.OpenVpn.Defs
import SoftEther.Library.Runs

/-!
# Delivery on the control channel

What a channel pours into its SSL pipe and what it acknowledges, when a client numbers its
control packets one after the other and the network loses, repeats and reorders them.  The
channel takes every packet with a number above the greatest it has seen, so the stream is
right as long as no packet overtakes another and the pipe takes what it is given.
-/

namespace SoftEther
namespace OpenVpn

open Library

def Channel.poured (c : Channel) : List UInt8 :=
  match c.sslPipe with
  | none => []
  | some pipe => pipe.taken ++ pipe.rawIn.contents

/-- The next data go into the SSL pipe. -/
def Channel.acceptsData (c : Channel) : Prop :=
  match c.sslPipe with
  | none => True
  | some pipe =>
      pipe.isDisconnected = false ∧ pipe.rawIn.fifoSize < OPENVPN_MAX_SSL_RECV_BUF_SIZE

section

variable (pppParseUsername : CString → CString × CString)

/-- What happens to a channel, in a session that may be in any state. -/
inductive ChannelEvent
  | recv (se : Session) (p : Packet) (tls : TlsResult)
  /-- `OvsRecvPacket` works on the channel. -/
  | work (se : Session) (now : Nat) (input : ChannelInput)
  /-- The server has made the next channel. -/
  | rekeyInitiated
  /-- Packets from the hub go out. -/
  | dataSent (count : UInt32)

def channelStep (c : Channel) : ChannelEvent → Option Channel
  | .recv se p tls => some (recvOnChannel pppParseUsername se c p tls).2
  | .work se now input =>
      let (se, c) := checkConnection se c
      some (reply now se (sendRawOut c input)).2
  | .rekeyInitiated => some { c with rekeyInitiated := true }
  | .dataSent count => some { c with lastDataPacketId := c.lastDataPacketId + count }

/-! ## What a step leaves alone -/

/-- Two channels agree in what they have received. -/
structure SameReceived (c after : Channel) : Prop where
  maxRecvPacketId : after.maxRecvPacketId = c.maxRecvPacketId
  /-- The data in the SSL pipe. -/
  poured : after.poured = c.poured
  /-- No acknowledgement is new. -/
  ackReplyList : ∀ id ∈ after.ackReplyList.items, id ∈ c.ackReplyList.items

theorem SameReceived.refl (c : Channel) : SameReceived c c :=
  ⟨rfl, rfl, fun _ listed => listed⟩

theorem SameReceived.trans
    {c middle after : Channel}
    (first : SameReceived c middle)
    (second : SameReceived middle after) :
    SameReceived c after where
  maxRecvPacketId := second.maxRecvPacketId.trans first.maxRecvPacketId
  poured := second.poured.trans first.poured
  ackReplyList := fun id listed => first.ackReplyList id (second.ackReplyList id listed)

theorem poured_syncSslPipe (pipe : SslPipe) (tls : TlsResult) :
    (syncSslPipe pipe tls).taken ++ (syncSslPipe pipe tls).rawIn.contents =
      pipe.taken ++ pipe.rawIn.contents := by
  unfold syncSslPipe
  split
  · rfl
  · dsimp only
    rw [List.append_assoc, Fifo.peekFifo_append_readFifo]

theorem sameReceived_sync (c : Channel) (tls : TlsResult) : SameReceived c (c.sync tls) := by
  unfold Channel.sync
  split
  · exact .refl c
  · rename_i pipe present
    refine ⟨rfl, ?_, fun _ listed => listed⟩
    simp only [Channel.poured, present]
    exact poured_syncSslPipe pipe tls

theorem sameReceived_readRecvFifo (c : Channel) (size : Nat) :
    SameReceived c (c.readRecvFifo size) := by
  refine ⟨rfl, ?_, fun _ listed => listed⟩
  simp only [Channel.poured, Channel.readRecvFifo]
  cases c.sslPipe <;> rfl

theorem sameReceived_sendControlPacketWithAutoSplit
    (c : Channel)
    (opCode : UInt8)
    (data : List UInt8) :
    SameReceived c (c.sendControlPacketWithAutoSplit opCode data) := by
  unfold Channel.sendControlPacketWithAutoSplit
  generalize data.toChunks OPENVPN_CONTROL_PACKET_MAX_DATASIZE = chunks
  induction chunks generalizing c with
  | nil => exact .refl c
  | cons tmp rest inductionHypothesis =>
      have first : SameReceived c (c.sendControlPacket opCode tmp) :=
        ⟨rfl, rfl, fun _ listed => listed⟩
      exact first.trans (inductionHypothesis _)

theorem sameReceived_getAckReplyList (c : Channel) :
    SameReceived c c.getAckReplyList.2 :=
  ⟨rfl, rfl, fun _ listed => List.mem_of_mem_drop listed⟩

theorem sameReceived_advance (se : Session) (c : Channel) (p : Packet) :
    SameReceived c (advance pppParseUsername se c p).2 := by
  have fields : ∀ {after : Channel}, after.maxRecvPacketId = c.maxRecvPacketId →
      after.sslPipe = c.sslPipe → after.ackReplyList = c.ackReplyList →
        SameReceived c after := by
    intro after number pipe acks
    refine ⟨number, ?_, fun _ listed => acks ▸ listed⟩
    simp only [Channel.poured, pipe]
  have reading : ∀ (size : Nat) {after : Channel},
      after.maxRecvPacketId = c.maxRecvPacketId →
      after.sslPipe = (c.readRecvFifo size).sslPipe → after.ackReplyList = c.ackReplyList →
        SameReceived c after := by
    intro size after number pipe acks
    refine ⟨number, ?_, fun _ listed => acks ▸ listed⟩
    rw [← (sameReceived_readRecvFifo c size).poured]
    simp only [Channel.poured, pipe]
  unfold advance
  cases c.status with
  | init =>
      dsimp only
      by_cases soft : p.opCode = OPENVPN_P_CONTROL_SOFT_RESET_V1
      · rw [if_pos soft]
        by_cases established : se.established = true
        · rw [if_pos established]
          by_cases server : c.isInitiatorServer = true
          · rw [if_pos server]
            exact fields rfl rfl rfl
          · rw [if_neg server]
            exact fields rfl rfl rfl
        · rw [if_neg established]
          exact .refl c
      · rw [if_neg soft]
        by_cases hard : p.opCode = OPENVPN_P_CONTROL_HARD_RESET_CLIENT_V2
        · rw [if_pos hard]
          exact fields rfl rfl rfl
        · rw [if_neg hard]
          exact .refl c
  | tlsWaitClientKey =>
      dsimp only
      cases ovsParseKeyMethod2 c.recvFifo.contents with
      | none => exact .refl c
      | some parsed => exact reading parsed.2 rfl rfl rfl
  | tlsWaitClientPushRequest =>
      dsimp only
      cases ovsPeekStringFromFifo c.recvFifo with
      | none => exact .refl c
      | some peeked =>
          dsimp only
          by_cases push : startWith peeked.1 (.ofBuffer (ascii "PUSH_REQUEST")) = true
          · rw [if_pos push]
            exact reading peeked.2 rfl rfl rfl
          · rw [if_neg push]
            exact sameReceived_readRecvFifo c peeked.2
  | tlsVpnConnecting =>
      dsimp only
      cases ovsPeekStringFromFifo c.recvFifo with
      | none => exact .refl c
      | some peeked => exact sameReceived_readRecvFifo c peeked.2
  | established =>
      dsimp only
      cases ovsPeekStringFromFifo c.recvFifo with
      | none => exact .refl c
      | some peeked => exact sameReceived_readRecvFifo c peeked.2
  | disconnected => exact .refl c

theorem sameReceived_transmit
    (now : Nat)
    (se : Session)
    (c : Channel)
    (packets : List ControlPacket) :
    SameReceived c (transmit now se c packets).2.2 := by
  induction packets generalizing c with
  | nil => exact .refl c
  | cons cp rest inductionHypothesis =>
      unfold transmit
      by_cases due : cp.nextSendTime ≤ now ∧ (cp.noResend = false ∨ cp.numSent = 0)
      · rw [if_pos due]
        exact (sameReceived_getAckReplyList c).trans (inductionHypothesis _)
      · rw [if_neg due]
        exact inductionHypothesis c

theorem sameReceived_reply (now : Nat) (se : Session) (c : Channel) :
    SameReceived c (reply now se c).2 := by
  have sent := sameReceived_transmit now se c c.sendControlPacketList
  unfold reply
  generalize transmit now se c c.sendControlPacketList = result at sent
  obtain ⟨packets, rest, after⟩ := result
  dsimp only at sent ⊢
  have listed : SameReceived after { after with sendControlPacketList := rest } :=
    ⟨rfl, rfl, fun _ listed => listed⟩
  have replied := (sent.trans listed).trans
    (sameReceived_getAckReplyList { after with sendControlPacketList := rest })
  split <;> exact replied

theorem sameReceived_checkConnection (se : Session) (c : Channel) :
    SameReceived c (checkConnection se c).2 := by
  have status : ∀ status grantedBy,
      SameReceived c { c with status := status, grantedBy := grantedBy } :=
    fun _ _ => ⟨rfl, rfl, fun _ listed => listed⟩
  unfold checkConnection
  split
  · split
    · exact .refl c
    · split
      · split <;> exact status _ _
      · exact .refl c
  · split
    · exact .refl c
    · exact status _ _
  · exact .refl c

theorem sameReceived_sendRawOut (c : Channel) (input : ChannelInput) :
    SameReceived c (sendRawOut c input) := by
  have synced := sameReceived_sync c input.tls
  unfold sendRawOut
  dsimp only
  split
  · exact synced
  · split
    · exact synced
    · exact synced.trans (sameReceived_sendControlPacketWithAutoSplit _ _ _)

theorem sameReceived_channelStep
    {c after : Channel}
    {event : ChannelEvent}
    (other : ∀ se p tls, event ≠ .recv se p tls)
    (stepped : channelStep pppParseUsername c event = some after) :
    SameReceived c after := by
  cases event with
  | recv se p tls => exact absurd rfl (other se p tls)
  | work se now input =>
      injection stepped with stepped
      rw [← stepped]
      exact ((sameReceived_checkConnection se c).trans (sameReceived_sendRawOut _ input)).trans
        (sameReceived_reply now _ _)
  | rekeyInitiated =>
      injection stepped with stepped
      rw [← stepped]
      exact ⟨rfl, rfl, fun _ listed => listed⟩
  | dataSent count =>
      injection stepped with stepped
      rw [← stepped]
      exact ⟨rfl, rfl, fun _ listed => listed⟩

/-! ## The arrival of a control packet -/

theorem mem_insertAck
    {c : Channel}
    {packetId id : UInt32}
    (listed : id ∈ (c.insertAck packetId).ackReplyList.items) :
    id = packetId ∨ id ∈ c.ackReplyList.items := by
  unfold Channel.insertAck at listed
  split at listed
  · exact Or.inr listed
  · obtain same | inside := List.eq_or_mem_of_mem_insertIdx listed
    · exact Or.inl same
    · exact Or.inr ((MayaquaList.ensureSorted_perm compare c.ackReplyList).mem_iff.mp inside)

theorem pour_of_acceptsData
    {c : Channel}
    (accepts : c.acceptsData)
    (data : List UInt8)
    (tls : TlsResult) :
    (c.pour data tls).maxRecvPacketId = c.maxRecvPacketId ∧
      (c.pour data tls).ackReplyList = c.ackReplyList ∧
      (c.pour data tls).poured = c.poured ++ data := by
  have poured : ∀ pipe : SslPipe, pipe.isDisconnected = false →
      pipe.rawIn.fifoSize < OPENVPN_MAX_SSL_RECV_BUF_SIZE → c.sslPipe.getD {} = pipe →
        c.poured = pipe.taken ++ pipe.rawIn.contents →
          (c.pour data tls).poured = c.poured ++ data := by
    intro pipe connected room present before
    rw [Channel.pour, present]
    dsimp only
    rw [connected, if_neg Bool.false_ne_true, if_pos room,
      (sameReceived_sync _ tls).poured, before, List.append_assoc]
    rfl
  refine ⟨?_, ?_, ?_⟩
  · unfold Channel.pour Channel.sync
    dsimp only
    split <;> rfl
  · unfold Channel.pour Channel.sync
    dsimp only
    split <;> rfl
  · cases present : c.sslPipe with
    | none =>
        exact poured {} rfl (by decide) (by rw [present]; rfl) (by rw [Channel.poured, present]; rfl)
    | some pipe =>
        rw [Channel.acceptsData, present] at accepts
        exact poured pipe accepts.1 accepts.2 (by rw [present]; rfl)
          (by rw [Channel.poured, present])

theorem recvOnChannel_old
    {se : Session}
    {c : Channel}
    {p : Packet}
    (control : p.opCode = OPENVPN_P_CONTROL_V1)
    (old : p.packetId ≤ c.maxRecvPacketId)
    (tls : TlsResult) :
    (recvOnChannel pppParseUsername se c p tls).2.maxRecvPacketId = c.maxRecvPacketId ∧
      (recvOnChannel pppParseUsername se c p tls).2.poured = c.poured ∧
      ∀ id ∈ (recvOnChannel pppParseUsername se c p tls).2.ackReplyList.items,
        id = p.packetId ∨ id ∈ c.ackReplyList.items := by
  have number : ((c.deleteFromSendingControlPacketList p.ackPacketId).insertAck
      p.packetId).maxRecvPacketId = c.maxRecvPacketId := by
    unfold Channel.insertAck
    split <;> rfl
  have pipe : ((c.deleteFromSendingControlPacketList p.ackPacketId).insertAck
      p.packetId).sslPipe = c.sslPipe := by
    unfold Channel.insertAck
    split <;> rfl
  have skipped : ¬(((c.deleteFromSendingControlPacketList p.ackPacketId).insertAck
      p.packetId).maxRecvPacketId < p.packetId ∨ isReset p = true) := by
    rintro (newer | reset)
    · rw [number] at newer
      exact absurd old (UInt32.not_le.mpr newer)
    · rw [isReset, control] at reset
      exact absurd reset (by decide)
  rw [recvOnChannel, if_neg (by rw [control]; decide), if_neg skipped]
  refine ⟨number, ?_, fun id listed => ?_⟩
  · simp only [Channel.poured, pipe]
  · exact @mem_insertAck (c.deleteFromSendingControlPacketList p.ackPacketId) p.packetId id listed

theorem recvOnChannel_new
    {se : Session}
    {c : Channel}
    {p : Packet}
    (control : p.opCode = OPENVPN_P_CONTROL_V1)
    (newer : c.maxRecvPacketId < p.packetId)
    (accepts : c.acceptsData)
    (tls : TlsResult) :
    (recvOnChannel pppParseUsername se c p tls).2.maxRecvPacketId = p.packetId ∧
      (recvOnChannel pppParseUsername se c p tls).2.poured = c.poured ++ p.data ∧
      ∀ id ∈ (recvOnChannel pppParseUsername se c p tls).2.ackReplyList.items,
        id = p.packetId ∨ id ∈ c.ackReplyList.items := by
  have acks := @mem_insertAck (c.deleteFromSendingControlPacketList p.ackPacketId) p.packetId
  have number : ((c.deleteFromSendingControlPacketList p.ackPacketId).insertAck
      p.packetId).maxRecvPacketId = c.maxRecvPacketId := by
    unfold Channel.insertAck
    split <;> rfl
  have pipe : ((c.deleteFromSendingControlPacketList p.ackPacketId).insertAck
      p.packetId).sslPipe = c.sslPipe := by
    unfold Channel.insertAck
    split <;> rfl
  generalize listedAcks : (c.deleteFromSendingControlPacketList p.ackPacketId).insertAck
    p.packetId = acked at acks number pipe
  have ready : ({ acked with maxRecvPacketId := p.packetId } : Channel).acceptsData := by
    rw [Channel.acceptsData] at accepts ⊢
    rw [pipe]
    exact accepts
  have before : ({ acked with maxRecvPacketId := p.packetId } : Channel).poured = c.poured := by
    simp only [Channel.poured, pipe]
  obtain ⟨max, replies, data⟩ := pour_of_acceptsData ready p.data tls
  have advanced := sameReceived_advance pppParseUsername se
    (({ acked with maxRecvPacketId := p.packetId } : Channel).pour p.data tls) p
  rw [recvOnChannel, if_neg (by rw [control]; decide), listedAcks,
    if_pos (Or.inl (number ▸ newer)), ovsProcessRecvControlPacket, if_pos control]
  refine ⟨advanced.maxRecvPacketId.trans max, ?_, ?_⟩
  · rw [advanced.poured, data, before]
  · intro id listed
    have inside := advanced.ackReplyList id listed
    rw [replies] at inside
    exact acks inside

/-! ## Runs of a channel -/

/-- The number of a control packet, in the order of the client. -/
def packetNumber (base : UInt32) (index : Nat) : Nat :=
  base.toNat + 1 + index

/-- The packet is the control packet with an index in the sequence of a client that numbers
its packets behind the packet that made the channel. -/
structure IsNumbered
    (base : UInt32)
    (payloads : List (List UInt8))
    (p : Packet)
    (index : Nat) :
    Prop where
  /-- The opcode. -/
  opCode : p.opCode = OPENVPN_P_CONTROL_V1
  packetId : p.packetId = UInt32.ofNat (packetNumber base index)
  data : payloads[index]? = some p.data

/-- Control packets that arrive are acknowledgements and packets of the sequence, in any
order and any number of times. -/
def FromClient (base : UInt32) (payloads : List (List UInt8)) : ChannelEvent → Prop
  | .recv _ p _ => p.opCode = OPENVPN_P_ACK_V1 ∨ ∃ index, IsNumbered base payloads p index
  | _ => True

/-- A packet of the sequence that arrives is not ahead of the next one, and the pipe takes
the next one. -/
def InOrder
    (base : UInt32)
    (payloads : List (List UInt8))
    (c : Channel) :
    ChannelEvent → Prop
  | .recv _ p _ =>
      p.opCode = OPENVPN_P_ACK_V1 ∨
        ∃ index, IsNumbered base payloads p index ∧
          (packetNumber base index ≤ c.maxRecvPacketId.toNat ∨
            packetNumber base index = c.maxRecvPacketId.toNat + 1 ∧
              packetNumber base index < X32 ∧ c.acceptsData)
  | _ => True

/-- What is in the pipe is a prefix of the stream, and what is acknowledged is in the
pipe. -/
structure Delivered (base : UInt32) (payloads : List (List UInt8)) (c : Channel) : Prop where
  isPrefix : c.poured <+: payloads.flatten
  acknowledged : ∀ id ∈ c.ackReplyList.items,
    id = base ∨ ∃ index, id = UInt32.ofNat (packetNumber base index) ∧
      (payloads.take (index + 1)).flatten <+: c.poured

/-- A channel that has been made by a packet with the given id. -/
structure Fresh (base : UInt32) (c : Channel) : Prop where
  sslPipe : c.sslPipe = none
  maxRecvPacketId : c.maxRecvPacketId = base
  /-- Nothing else has arrived. -/
  ackReplyList : ∀ id ∈ c.ackReplyList.items, id = base

/-- The channel has received the first packets of the sequence. -/
structure Received
    (base : UInt32)
    (payloads : List (List UInt8))
    (count : Nat)
    (c : Channel) :
    Prop where
  maxRecvPacketId : c.maxRecvPacketId.toNat = base.toNat + count
  /-- The data in the pipe. -/
  poured : c.poured = (payloads.take count).flatten
  /-- The acknowledgements. -/
  ackReplyList : ∀ id ∈ c.ackReplyList.items,
    id = base ∨ ∃ index < count, id = UInt32.ofNat (packetNumber base index)

variable {base : UInt32} {payloads : List (List UInt8)} {c after : Channel}

theorem Fresh.received (fresh : Fresh base c) : Received base payloads 0 c where
  maxRecvPacketId := by rw [fresh.maxRecvPacketId, Nat.add_zero]
  poured := by rw [Channel.poured, fresh.sslPipe, List.take_zero, List.flatten_nil]
  ackReplyList := fun id listed => Or.inl (fresh.ackReplyList id listed)

theorem Received.delivered
    {count : Nat}
    (received : Received base payloads count c) :
    Delivered base payloads c where
  isPrefix := by
    rw [received.poured]
    refine ⟨(payloads.drop count).flatten, ?_⟩
    rw [← List.flatten_append, List.take_append_drop]
  acknowledged := by
    intro id listed
    obtain same | ⟨index, before, same⟩ := received.ackReplyList id listed
    · exact Or.inl same
    · refine Or.inr ⟨index, same, ((payloads.take count).drop (index + 1)).flatten, ?_⟩
      have inside : (payloads.take count).take (index + 1) = payloads.take (index + 1) := by
        rw [List.take_take, Nat.min_eq_left before]
      rw [received.poured, ← inside, ← List.flatten_append, List.take_append_drop]

theorem Received.of_sameReceived
    {count : Nat}
    (received : Received base payloads count c)
    (same : SameReceived c after) :
    Received base payloads count after where
  maxRecvPacketId := by rw [same.maxRecvPacketId, received.maxRecvPacketId]
  poured := by rw [same.poured, received.poured]
  ackReplyList := fun id listed => received.ackReplyList id (same.ackReplyList id listed)

theorem recvOnChannel_ack
    {se : Session}
    {p : Packet}
    (ack : p.opCode = OPENVPN_P_ACK_V1)
    (tls : TlsResult) :
    SameReceived c (recvOnChannel pppParseUsername se c p tls).2 := by
  rw [recvOnChannel, if_pos ack]
  exact ⟨rfl, rfl, fun _ listed => listed⟩

theorem Received.step
    {count : Nat}
    {event : ChannelEvent}
    (received : Received base payloads count c)
    (inOrder : InOrder base payloads c event)
    (stepped : channelStep pppParseUsername c event = some after) :
    ∃ count, Received base payloads count after := by
  cases event with
  | recv se p tls =>
      injection stepped with stepped
      subst stepped
      obtain ack | ⟨index, numbered, place⟩ := inOrder
      · exact ⟨count, received.of_sameReceived (recvOnChannel_ack pppParseUsername ack tls)⟩
      · have max := received.maxRecvPacketId
        obtain old | ⟨next, small, accepts⟩ := place
        · have number : p.packetId.toNat = packetNumber base index := by
            rw [numbered.packetId]
            exact UInt32.toNat_ofNat_of_lt'
              (Nat.lt_of_le_of_lt old c.maxRecvPacketId.toNat_lt)
          have before : index < count := by
            unfold packetNumber at old
            omega
          obtain ⟨sameMax, samePoured, acks⟩ := @recvOnChannel_old pppParseUsername se c p
            numbered.opCode (UInt32.le_iff_toNat_le.mpr (number ▸ old)) tls
          refine ⟨count, sameMax ▸ max, samePoured.trans received.poured, ?_⟩
          intro id listed
          obtain same | earlier := acks id listed
          · exact Or.inr ⟨index, before, same.trans numbered.packetId⟩
          · exact received.ackReplyList id earlier
        · have number : p.packetId.toNat = packetNumber base index := by
            rw [numbered.packetId]
            exact UInt32.toNat_ofNat_of_lt' small
          have same : index = count := by
            unfold packetNumber at next
            omega
          subst same
          have newer : c.maxRecvPacketId < p.packetId :=
            UInt32.lt_iff_toNat_lt.mpr (by omega)
          obtain ⟨newMax, newPoured, acks⟩ := @recvOnChannel_new pppParseUsername se c p
            numbered.opCode newer accepts tls
          refine ⟨index + 1, ?_, ?_, ?_⟩
          · rw [newMax, number]
            unfold packetNumber
            omega
          · rw [newPoured, received.poured, List.take_add_one, numbered.data,
              List.flatten_append]
            simp
          · intro id listed
            obtain same | earlier := acks id listed
            · exact Or.inr ⟨index, Nat.lt_succ_self _, same.trans numbered.packetId⟩
            · obtain first | ⟨other, before, same⟩ := received.ackReplyList id earlier
              · exact Or.inl first
              · exact Or.inr ⟨other, Nat.lt_succ_of_lt before, same⟩
  | work se now input =>
      exact ⟨count, received.of_sameReceived
        (sameReceived_channelStep pppParseUsername (by rintro _ _ _ ⟨⟩) stepped)⟩
  | rekeyInitiated =>
      exact ⟨count, received.of_sameReceived
        (sameReceived_channelStep pppParseUsername (by rintro _ _ _ ⟨⟩) stepped)⟩
  | dataSent count' =>
      exact ⟨count, received.of_sameReceived
        (sameReceived_channelStep pppParseUsername (by rintro _ _ _ ⟨⟩) stepped)⟩

/-- **Delivery on the control channel.**  As long as no packet arrives ahead of the next one
and the pipe takes the next one, the pipe holds a prefix of the client's stream and all that
is acknowledged is in it. -/
theorem channel_delivers
    (base : UInt32)
    (payloads : List (List UInt8))
    (start c : Channel)
    (fresh : Fresh base start)
    (reached : Reaches (channelStep pppParseUsername) (InOrder base payloads) start c) :
    Delivered base payloads c := by
  obtain ⟨count, received⟩ := reached.invariant (fun c => ∃ count, Received base payloads count c)
    ⟨0, fresh.received⟩ (fun before event after received inOrder stepped => by
      obtain ⟨count, received⟩ := received
      exact received.step pppParseUsername inOrder stepped)
  exact received.delivered

end

/-- The arrival of a control packet of a sequence in a session without a connection. -/
def arrival (packetId : UInt32) (data : List UInt8) : ChannelEvent :=
  .recv { serverSessionId := 1 }
    { opCode := OPENVPN_P_CONTROL_V1, keyId := 0, packetId := packetId, data := data } {}

/-- The first packet of a sequence is delivered. -/
theorem channel_delivers_first :
    Delivered 0 [[1], [2]]
      ((channelStep (fun name => (name, name)) { keyId := 0 } (arrival 1 [1])).getD
        { keyId := 0 }) :=
  channel_delivers (fun name => (name, name)) 0 [[1], [2]] { keyId := 0 } _
    ⟨rfl, rfl, fun _ listed => nomatch listed⟩
    (@Reaches.next _ _ _ _ _ _ _ (arrival 1 [1]) .start
      (Or.inr ⟨0, ⟨rfl, rfl, rfl⟩, Or.inr ⟨rfl, by decide, trivial⟩⟩) rfl)

/-- The second packet overtakes the first: it is delivered, and the first is acknowledged and
thrown away. -/
theorem overtaken_packet_is_lost :
    ∃ c, Reaches (channelStep fun name => (name, name))
        (fun _ event => FromClient 0 [[1], [2]] event) { keyId := 0 } c ∧
      c.poured = [2] ∧ c.ackReplyList.items = [1, 2] ∧ ¬Delivered 0 [[1], [2]] c := by
  let events := [arrival 2 [2], arrival 1 [1]]
  let last := (run (channelStep fun name => (name, name)) events { keyId := 0 }).getD
    { keyId := 0 }
  have poured : last.poured = [2] := rfl
  refine ⟨last, ?_, poured, by rfl, ?_⟩
  · have ran : run (channelStep fun name => (name, name)) events { keyId := 0 } = some last := rfl
    apply Reaches.of_allowed ran
    rintro event listed before
    rw [List.mem_cons, List.mem_singleton] at listed
    obtain rfl | rfl := listed
    · exact Or.inr ⟨1, rfl, rfl, rfl⟩
    · exact Or.inr ⟨0, rfl, rfl, rfl⟩
  · intro delivered
    have isPrefix := delivered.isPrefix
    rw [poured] at isPrefix
    exact absurd isPrefix (by decide)

/-! ## Channels in a session -/

section

variable (pppParseUsername : CString → CString × CString)

/-- A channel goes on with steps that the event allows, or a new channel takes its place and
goes on with such steps. -/
def Follows (allowed : ChannelEvent → Prop) (c after : Channel) : Prop :=
  ∃ start, (start = c ∨ ∃ base, Fresh base start) ∧
    Reaches (channelStep pppParseUsername) (fun _ event => allowed event) start after

variable {pppParseUsername} {allowed : ChannelEvent → Prop} {c middle after : Channel}

theorem Follows.refl (c : Channel) : Follows pppParseUsername allowed c c :=
  ⟨c, Or.inl rfl, .start⟩

theorem Follows.mono
    {weaker : ChannelEvent → Prop}
    (follows : Follows pppParseUsername allowed c after)
    (implies : ∀ e, allowed e → weaker e) :
    Follows pppParseUsername weaker c after := by
  obtain ⟨start, origin, reached⟩ := follows
  exact ⟨start, origin, reached.mono fun _ => implies⟩

theorem Follows.trans
    (first : Follows pppParseUsername allowed c middle)
    (second : Follows pppParseUsername allowed middle after) :
    Follows pppParseUsername allowed c after := by
  obtain ⟨start, origin, reached⟩ := first
  obtain ⟨again, rfl | fresh, further⟩ := second
  · exact ⟨start, origin, reached.trans further⟩
  · exact ⟨again, Or.inr fresh, further⟩

theorem setChannel_self (se : Session) (j : Fin OPENVPN_NUM_CHANNELS) (c : Channel) :
    (se.setChannel j c).channels j = some c := by
  simp [Session.setChannel]

theorem setChannel_other
    {k j : Fin OPENVPN_NUM_CHANNELS}
    (other : k ≠ j)
    (se : Session)
    (c : Channel) :
    (se.setChannel j c).channels k = se.channels k := by
  simp [Session.setChannel, other]

end

end OpenVpn
end SoftEther
