import SoftEther.Cedar.OpenVpn.Control

/-!
# Authentication of OpenVPN channels

Which credentials a channel stands on when its data packets go to the virtual hub.  The hub
sees the credentials of the one connection that the session asks for.  The channel that
takes the result of that connection is established with it, and so is every channel that a
soft reset makes afterwards, whatever its own key message says.
-/

namespace SoftEther
namespace OpenVpn

open Library

/-- Two channels agree in what makes them established. -/
structure SameGrant (c after : Channel) : Prop where
  status : after.status = c.status
  isRekeyChannel : after.isRekeyChannel = c.isRekeyChannel
  /-- The connection that the channel was established with. -/
  grantedBy : after.grantedBy = c.grantedBy

theorem SameGrant.refl (c : Channel) : SameGrant c c :=
  ⟨rfl, rfl, rfl⟩

theorem SameGrant.trans
    {c middle after : Channel}
    (first : SameGrant c middle)
    (second : SameGrant middle after) :
    SameGrant c after where
  status := second.status.trans first.status
  isRekeyChannel := second.isRekeyChannel.trans first.isRekeyChannel
  grantedBy := second.grantedBy.trans first.grantedBy

theorem sameGrant_sync (c : Channel) (tls : TlsResult) : SameGrant c (c.sync tls) := by
  unfold Channel.sync
  split
  · exact .refl c
  · exact ⟨rfl, rfl, rfl⟩

theorem sameGrant_pour (c : Channel) (data : List UInt8) (tls : TlsResult) :
    SameGrant c (c.pour data tls) := by
  unfold Channel.pour
  dsimp only
  split
  · exact ⟨rfl, rfl, rfl⟩
  · generalize (if (c.sslPipe.getD {}).rawIn.fifoSize < OPENVPN_MAX_SSL_RECV_BUF_SIZE then
      { c.sslPipe.getD {} with rawIn := (c.sslPipe.getD {}).rawIn.writeFifo data }
      else c.sslPipe.getD {}) = pipe
    have filled : SameGrant c { c with sslPipe := some pipe } := ⟨rfl, rfl, rfl⟩
    exact filled.trans (sameGrant_sync _ tls)

theorem sameGrant_insertAck (c : Channel) (packetId : UInt32) :
    SameGrant c (c.insertAck packetId) := by
  unfold Channel.insertAck
  split
  · exact .refl c
  · exact ⟨rfl, rfl, rfl⟩

theorem sameGrant_sendControlPacketWithAutoSplit
    (c : Channel)
    (opCode : UInt8)
    (data : List UInt8) :
    SameGrant c (c.sendControlPacketWithAutoSplit opCode data) := by
  unfold Channel.sendControlPacketWithAutoSplit
  generalize data.toChunks OPENVPN_CONTROL_PACKET_MAX_DATASIZE = chunks
  induction chunks generalizing c with
  | nil => exact .refl c
  | cons tmp rest inductionHypothesis =>
      have first : SameGrant c (c.sendControlPacket opCode tmp) := ⟨rfl, rfl, rfl⟩
      exact first.trans (inductionHypothesis _)

theorem sameGrant_sendRawOut (c : Channel) (input : ChannelInput) :
    SameGrant c (sendRawOut c input) := by
  have synced : SameGrant c (c.sync input.tls) := sameGrant_sync c input.tls
  unfold sendRawOut
  dsimp only
  split
  · exact synced
  · split
    · exact synced
    · exact synced.trans (sameGrant_sendControlPacketWithAutoSplit _ _ _)

theorem sameGrant_transmit
    (now : Nat)
    (se : Session)
    (c : Channel)
    (packets : List ControlPacket) :
    SameGrant c (transmit now se c packets).2.2 := by
  induction packets generalizing c with
  | nil => exact .refl c
  | cons cp rest inductionHypothesis =>
      unfold transmit
      split
      · have taken : SameGrant c c.getAckReplyList.2 := ⟨rfl, rfl, rfl⟩
        exact taken.trans (inductionHypothesis _)
      · exact inductionHypothesis c

theorem sameGrant_reply (now : Nat) (se : Session) (c : Channel) :
    SameGrant c (reply now se c).2 := by
  have sent : SameGrant c (transmit now se c c.sendControlPacketList).2.2 :=
    sameGrant_transmit now se c c.sendControlPacketList
  unfold reply
  dsimp only
  split
  · exact sent.trans ⟨rfl, rfl, rfl⟩
  · exact sent.trans ⟨rfl, rfl, rfl⟩

/-! ## The invariant -/

/-- What an established channel stands on: a connection that the hub has accepted, which it
took itself, or a soft reset in a session that was established. -/
structure Channel.Authorised
    (accepted : List IpcParam)
    (wasEstablished : Prop)
    (c : Channel) : Prop where
  rekey : c.isRekeyChannel = true → accepted ≠ [] ∧ wasEstablished
  established : c.status = .established →
    c.isRekeyChannel = true ∨ ∃ param ∈ accepted, c.grantedBy = some param

theorem Channel.Authorised.of_sameGrant
    {accepted : List IpcParam}
    {wasEstablished : Prop}
    {c after : Channel}
    (authorised : c.Authorised accepted wasEstablished)
    (same : SameGrant c after) :
    after.Authorised accepted wasEstablished where
  rekey := fun isRekey => authorised.rekey (same.isRekeyChannel.symm.trans isRekey)
  established := fun established => by
    rw [same.isRekeyChannel, same.grantedBy]
    exact authorised.established (same.status.symm.trans established)

theorem Channel.Authorised.of_waiting
    {accepted : List IpcParam}
    {wasEstablished : Prop}
    {c : Channel}
    (noRekey : c.isRekeyChannel = false)
    (waiting : c.status ≠ .established) :
    c.Authorised accepted wasEstablished where
  rekey := fun isRekey => absurd (noRekey.symm.trans isRekey) (by decide)
  established := fun established => absurd established waiting

/-- The authority of a session, where `carried` holds for the credentials of key messages
and `wasEstablished` when the session has been established. -/
structure Session.Authorised
    (carried : IpcParam → Prop)
    (wasEstablished : Prop)
    (se : Session) : Prop where
  established : se.established = true → se.accepted ≠ []
  connected : ∀ ipc, se.ipc = some ipc → se.accepted ≠ []
  accepted : ∀ param ∈ se.accepted, carried param
  asked : ∀ ipcAsync, se.ipcAsync = some ipcAsync → carried ipcAsync.param
  /-- A connection that is there was accepted. -/
  done : ∀ ipcAsync ipc, se.ipcAsync = some ipcAsync → ipcAsync.ipc = some ipc →
    ipcAsync.param ∈ se.accepted
  channels : ∀ j c, se.channels j = some c → c.Authorised se.accepted wasEstablished

namespace Session.Authorised

variable {carried : IpcParam → Prop}
variable {wasEstablished : Prop}
variable {se : Session}

theorem mono
    {carriedLater : IpcParam → Prop}
    {establishedLater : Prop}
    (authorised : se.Authorised carried wasEstablished)
    (still : ∀ param, carried param → carriedLater param)
    (stillEstablished : wasEstablished → establishedLater) :
    se.Authorised carriedLater establishedLater where
  established := authorised.established
  connected := authorised.connected
  accepted := fun param listed => still param (authorised.accepted param listed)
  asked := fun ipcAsync present => still _ (authorised.asked ipcAsync present)
  done := authorised.done
  channels := fun j c present =>
    ⟨fun isRekey =>
      have before := (authorised.channels j c present).rekey isRekey
      ⟨before.1, stillEstablished before.2⟩,
      (authorised.channels j c present).established⟩

theorem setChannel
    (authorised : se.Authorised carried wasEstablished)
    (j : Fin OPENVPN_NUM_CHANNELS)
    {c : Channel}
    (own : c.Authorised se.accepted wasEstablished) :
    (se.setChannel j c).Authorised carried wasEstablished where
  established := authorised.established
  connected := authorised.connected
  accepted := authorised.accepted
  asked := authorised.asked
  done := authorised.done
  channels := fun k other present => by
    by_cases same : k = j
    · subst same
      rw [setChannel_self] at present
      injection present with present
      exact present ▸ own
    · rw [setChannel_other same] at present
      exact authorised.channels k other present

theorem newChannel
    (authorised : se.Authorised carried wasEstablished)
    (j : Fin OPENVPN_NUM_CHANNELS)
    {c : Channel}
    (own : c.Authorised se.accepted wasEstablished) :
    (se.newChannel j c).Authorised carried wasEstablished :=
  have set := authorised.setChannel j own
  ⟨set.established, set.connected, set.accepted, set.asked, set.done, set.channels⟩

end Session.Authorised

/-! ## Steps -/

section

variable (pppParseUsername : CString → CString × CString)
variable {carried : IpcParam → Prop}
variable {wasEstablished : Prop}
variable {se : Session}

theorem authorised_ovsBeginIPCAsyncConnectionIfEmpty
    (authorised : se.Authorised carried wasEstablished)
    {c : Channel}
    (own : carried (ipcParam pppParseUsername c)) :
    (ovsBeginIPCAsyncConnectionIfEmpty pppParseUsername se c).Authorised carried
        wasEstablished ∧
      (ovsBeginIPCAsyncConnectionIfEmpty pppParseUsername se c).accepted = se.accepted := by
  have cleared : ∀ ready : Session,
      ready = (if se.isIPCConnected then se else { se with ipc := none }) →
        ready.Authorised carried wasEstablished ∧ ready.accepted = se.accepted := by
    rintro ready rfl
    split
    · exact ⟨authorised, rfl⟩
    · exact ⟨⟨authorised.established, (fun _ present => nomatch present), authorised.accepted,
        authorised.asked, authorised.done, authorised.channels⟩, rfl⟩
  unfold ovsBeginIPCAsyncConnectionIfEmpty
  dsimp only
  generalize prepared : (if se.isIPCConnected then se else { se with ipc := none }) = ready
  obtain ⟨still, same⟩ := cleared ready prepared.symm
  split
  · refine ⟨⟨still.established, still.connected, still.accepted, ?_, ?_, still.channels⟩, same⟩
    · intro ipcAsync present
      injection present with present
      exact present ▸ own
    · intro ipcAsync ipc present there
      injection present with present
      subst present
      exact nomatch there
  · exact ⟨still, same⟩

theorem authorised_advance
    (authorised : se.Authorised carried wasEstablished)
    (now : se.established = true → wasEstablished)
    {c : Channel}
    (own : c.Authorised se.accepted wasEstablished)
    (p : Packet)
    (message : carried (ipcParam pppParseUsername (advance pppParseUsername se c p).2)) :
    (advance pppParseUsername se c p).1.Authorised carried wasEstablished ∧
      (advance pppParseUsername se c p).1.accepted = se.accepted ∧
      (advance pppParseUsername se c p).2.Authorised se.accepted wasEstablished := by
  have kept : ∀ {after : Channel}, SameGrant c after →
      se.Authorised carried wasEstablished ∧ se.accepted = se.accepted ∧
        after.Authorised se.accepted wasEstablished :=
    fun same => ⟨authorised, rfl, own.of_sameGrant same⟩
  have waiting : ∀ {after : Channel}, after.isRekeyChannel = c.isRekeyChannel →
      after.status ≠ .established → after.Authorised se.accepted wasEstablished :=
    fun same waits =>
      ⟨fun isRekey => own.rekey (same.symm.trans isRekey),
        fun established => absurd established waits⟩
  unfold advance at message ⊢
  cases status : c.status with
  | init =>
      simp only [status] at message ⊢
      split
      · split
        · rename_i established
          refine ⟨authorised, rfl, ?_, ?_⟩
          · exact fun _ => ⟨authorised.established established, now established⟩
          · exact fun isEstablished => nomatch isEstablished
        · exact kept (.refl c)
      · split
        · exact ⟨authorised, rfl, waiting rfl (fun isEstablished => nomatch isEstablished)⟩
        · exact kept (.refl c)
  | tlsWaitClientKey =>
      simp only [status] at message ⊢
      split
      · exact kept (.refl c)
      · refine ⟨authorised, rfl, own.rekey, ?_⟩
        intro isEstablished
        by_cases isRekey : c.isRekeyChannel = true
        · exact Or.inl isRekey
        · rw [Bool.not_eq_true] at isRekey
          simp [isRekey] at isEstablished
  | tlsWaitClientPushRequest =>
      simp only [status] at message ⊢
      split
      · exact kept (.refl c)
      · rename_i peeked
        rw [peeked] at message
        dsimp only at message
        split
        · rename_i requested
          rw [if_pos requested] at message
          obtain ⟨asked, same⟩ := @authorised_ovsBeginIPCAsyncConnectionIfEmpty
            pppParseUsername carried wasEstablished se authorised (c.readRecvFifo _) message
          exact ⟨asked, same, waiting rfl (fun isEstablished => nomatch isEstablished)⟩
        · exact kept ⟨rfl, rfl, rfl⟩
  | tlsVpnConnecting =>
      simp only [status] at message ⊢
      split
      · exact kept (.refl c)
      · exact kept ⟨rfl, rfl, rfl⟩
  | established =>
      simp only [status] at message ⊢
      split
      · exact kept (.refl c)
      · exact kept ⟨rfl, rfl, rfl⟩
  | disconnected =>
      dsimp only
      exact kept (.refl c)

theorem authorised_recvOnChannel
    (authorised : se.Authorised carried wasEstablished)
    (now : se.established = true → wasEstablished)
    {c : Channel}
    (own : c.Authorised se.accepted wasEstablished)
    (p : Packet)
    (tls : TlsResult)
    (message : carried (ipcParam pppParseUsername
      (recvOnChannel pppParseUsername se c p tls).2)) :
    (recvOnChannel pppParseUsername se c p tls).1.Authorised carried wasEstablished ∧
      (recvOnChannel pppParseUsername se c p tls).1.accepted = se.accepted ∧
      (recvOnChannel pppParseUsername se c p tls).2.Authorised se.accepted wasEstablished := by
  have deleted : SameGrant c (c.deleteFromSendingControlPacketList p.ackPacketId) :=
    ⟨rfl, rfl, rfl⟩
  have acked : SameGrant c
      ((c.deleteFromSendingControlPacketList p.ackPacketId).insertAck p.packetId) :=
    deleted.trans (sameGrant_insertAck _ _)
  unfold recvOnChannel at message ⊢
  dsimp only at message ⊢
  split
  · exact ⟨authorised, rfl, own.of_sameGrant deleted⟩
  · rename_i isAck
    rw [if_neg isAck] at message
    split
    · rename_i isNew
      rw [if_pos isNew] at message
      refine authorised_advance pppParseUsername authorised now (own.of_sameGrant ?_) p message
      generalize (c.deleteFromSendingControlPacketList p.ackPacketId).insertAck p.packetId =
        noted at acked
      have marked : SameGrant c { noted with maxRecvPacketId := p.packetId } :=
        acked.trans ⟨rfl, rfl, rfl⟩
      split
      · exact marked.trans (sameGrant_pour _ _ _)
      · exact marked
    · exact ⟨authorised, rfl, own.of_sameGrant acked⟩

theorem authorised_checkConnection
    (authorised : se.Authorised carried wasEstablished)
    {c : Channel}
    (own : c.Authorised se.accepted wasEstablished) :
    (checkConnection se c).1.Authorised carried wasEstablished ∧
      (checkConnection se c).2.Authorised (checkConnection se c).1.accepted wasEstablished := by
  have waiting : ∀ {after : Channel}, after.isRekeyChannel = c.isRekeyChannel →
      after.status ≠ .established → after.Authorised se.accepted wasEstablished :=
    fun same waits =>
      ⟨fun isRekey => own.rekey (same.symm.trans isRekey),
        fun established => absurd established waits⟩
  unfold checkConnection
  split
  · split
    · exact ⟨authorised, own⟩
    · rename_i ipcAsync asked
      split
      · split
        · rename_i ipc there
          have granted : ipcAsync.param ∈ se.accepted :=
            authorised.done ipcAsync ipc asked there
          have notEmpty : se.accepted ≠ [] := List.ne_nil_of_mem granted
          refine ⟨⟨fun _ => notEmpty, fun _ _ => notEmpty, authorised.accepted, ?_, ?_,
            authorised.channels⟩, own.rekey, fun _ => Or.inr ⟨_, granted, rfl⟩⟩
          · intro taken present
            injection present with present
            exact present ▸ authorised.asked ipcAsync asked
          · intro taken ipc present left
            injection present with present
            subst present
            exact nomatch left
        · exact ⟨⟨authorised.established, authorised.connected, authorised.accepted,
            (fun _ present => nomatch present), (fun _ _ present => nomatch present),
            authorised.channels⟩, waiting rfl (fun isEstablished => nomatch isEstablished)⟩
      · exact ⟨authorised, own⟩
  · split
    · exact ⟨authorised, own⟩
    · exact ⟨⟨(fun isEstablished => nomatch isEstablished), authorised.connected,
        authorised.accepted, authorised.asked, authorised.done, authorised.channels⟩,
        waiting rfl (fun isEstablished => nomatch isEstablished)⟩
  · exact ⟨authorised, own⟩

theorem authorised_initiateRekey
    (authorised : se.Authorised carried wasEstablished)
    {j : Fin OPENVPN_NUM_CHANNELS}
    {c : Channel}
    (present : se.channels j = some c) :
    (initiateRekey se j c).Authorised carried wasEstablished := by
  unfold initiateRekey
  split
  · have marked : (se.setChannel j { c with rekeyInitiated := true }).Authorised carried
        wasEstablished :=
      authorised.setChannel j ((authorised.channels j c present).of_sameGrant ⟨rfl, rfl, rfl⟩)
    exact marked.newChannel _ (.of_waiting rfl (fun isEstablished => nomatch isEstablished))
  · exact authorised

theorem authorised_workOnChannel
    (authorised : se.Authorised carried wasEstablished)
    (now : Nat)
    (j : Fin OPENVPN_NUM_CHANNELS)
    (input : ChannelInput) :
    (workOnChannel now se j input).2.Authorised carried wasEstablished := by
  unfold workOnChannel
  cases presentOwn : se.channels j with
  | none => exact authorised
  | some own =>
      have rekeyed : (initiateRekey se j own).Authorised carried wasEstablished :=
        authorised_initiateRekey authorised presentOwn
      dsimp only
      generalize initiateRekey se j own = se at rekeyed ⊢
      cases present : se.channels j with
      | none => exact rekeyed
      | some c =>
          obtain ⟨checked, granted⟩ :=
            authorised_checkConnection rekeyed (rekeyed.channels j c present)
          exact checked.setChannel j (granted.of_sameGrant
            ((sameGrant_sendRawOut _ input).trans (sameGrant_reply now _ _)))

theorem authorised_workOnChannels
    (authorised : se.Authorised carried wasEstablished)
    (now : Nat)
    (inputs : Fin OPENVPN_NUM_CHANNELS → ChannelInput) :
    (workOnChannels now inputs se).Authorised carried wasEstablished := by
  unfold workOnChannels
  generalize List.finRange OPENVPN_NUM_CHANNELS = indices
  induction indices generalizing se with
  | nil => exact authorised
  | cons j rest inductionHypothesis =>
      exact inductionHypothesis (authorised_workOnChannel authorised now j (inputs j))

/-- The thread that connects to the hub ends. -/
theorem authorised_ipcDone
    (authorised : se.Authorised carried wasEstablished)
    (accepted : Bool) :
    (ipcDone se accepted).Authorised carried wasEstablished := by
  unfold ipcDone
  split
  · exact authorised
  · rename_i ipcAsync asked
    split
    · exact authorised
    · split
      · have notEmpty : se.accepted ++ [ipcAsync.param] ≠ [] :=
          List.append_ne_nil_of_right_ne_nil _ (List.cons_ne_nil _ _)
        refine ⟨fun _ => notEmpty, fun _ _ => notEmpty, ?_, ?_, ?_, ?_⟩
        · intro param listed
          obtain before | last := List.mem_append.mp listed
          · exact authorised.accepted param before
          · exact List.mem_singleton.mp last ▸ authorised.asked ipcAsync asked
        · intro later present
          injection present with present
          exact present ▸ authorised.asked ipcAsync asked
        · intro later ipc present there
          injection present with present
          subst present
          exact List.mem_append_right _ (List.mem_singleton_self _)
        · intro j c present
          have before := authorised.channels j c present
          refine ⟨fun isRekey => ⟨notEmpty, (before.rekey isRekey).2⟩, fun established => ?_⟩
          obtain isRekey | ⟨param, listed, granted⟩ := before.established established
          · exact Or.inl isRekey
          · exact Or.inr ⟨param, List.mem_append_left _ listed, granted⟩
      · refine ⟨authorised.established, authorised.connected, authorised.accepted, ?_, ?_,
          authorised.channels⟩
        · intro later present
          injection present with present
          exact present ▸ authorised.asked ipcAsync asked
        · intro later ipc present there
          injection present with present
          subst present
          exact authorised.done ipcAsync ipc asked there

theorem Session.Authorised.step
    (authorised : se.Authorised carried wasEstablished)
    (now : se.established = true → wasEstablished)
    {event : Event}
    {later : Session}
    (stepped : step pppParseUsername se event = some later)
    (messages : ∀ j c, later.channels j = some c → carried (ipcParam pppParseUsername c)) :
    later.Authorised carried wasEstablished := by
  cases event with
  | packet p tls clearText =>
      injection stepped with stepped
      subst stepped
      unfold ovsProceccRecvPacket at messages ⊢
      dsimp only at messages ⊢
      by_cases isData : p.opCode = OPENVPN_P_DATA_V1
      · rw [if_pos isData]
        unfold recvData
        split
        · exact authorised
        · split
          · split
            · exact authorised
            · refine ⟨authorised.established, ?_, authorised.accepted, authorised.asked,
                authorised.done, authorised.channels⟩
              intro ipc present
              obtain ⟨before, there, _⟩ := Option.map_eq_some_iff.mp present
              exact authorised.connected before there
          · exact authorised
      · rw [if_neg isData] at messages ⊢
        have prepared : ∀ ready : Session,
            ready = (if isReset p = true then
              { se.newChannel (channelIndex p.keyId) { keyId := p.keyId } with
                clientSessionId :=
                  if se.clientSessionId = 0 then p.mySessionId else se.clientSessionId }
              else se) →
            ready.Authorised carried wasEstablished ∧ ready.established = se.established := by
          rintro ready rfl
          split
          · have made := authorised.newChannel (channelIndex p.keyId)
              (@Channel.Authorised.of_waiting se.accepted wasEstablished { keyId := p.keyId } rfl
                (fun isEstablished => nomatch isEstablished))
            exact ⟨⟨made.established, made.connected, made.accepted, made.asked, made.done,
              made.channels⟩, rfl⟩
          · exact ⟨authorised, rfl⟩
        generalize made : (if isReset p = true then
          { se.newChannel (channelIndex p.keyId) { keyId := p.keyId } with
            clientSessionId :=
              if se.clientSessionId = 0 then p.mySessionId else se.clientSessionId }
          else se) = ready at messages ⊢
        obtain ⟨still, same⟩ := prepared ready made.symm
        cases present : ready.channels (channelIndex p.keyId) with
        | none => exact still
        | some c =>
            simp only [present] at messages
            obtain ⟨received, kept, granted⟩ := authorised_recvOnChannel pppParseUsername still
              (fun established => now (same.symm.trans established))
              (still.channels _ c present) p tls (messages _ _ (setChannel_self _ _ _))
            exact received.setChannel _ (kept.symm ▸ granted)
  | interrupt now inputs =>
      injection stepped with stepped
      subst stepped
      exact authorised_workOnChannels authorised now inputs
  | dataSent j count =>
      injection stepped with stepped
      subst stepped
      unfold dataSent
      cases present : se.channels j with
      | none => exact authorised
      | some c =>
          dsimp only
          split
          · exact authorised.setChannel j
              ((authorised.channels j c present).of_sameGrant ⟨rfl, rfl, rfl⟩)
          · exact authorised
  | ipcDone accepted =>
      injection stepped with stepped
      subst stepped
      exact authorised_ipcDone authorised accepted
  | ipcDisconnected =>
      injection stepped with stepped
      subst stepped
      refine ⟨authorised.established, ?_, authorised.accepted, authorised.asked,
        authorised.done, authorised.channels⟩
      intro ipc present
      obtain ⟨before, there, _⟩ := Option.map_eq_some_iff.mp present
      exact authorised.connected before there

/-! ## Runs -/

/-- A session before its first packet. -/
structure Session.IsNew (se : Session) : Prop where
  channels : ∀ j, se.channels j = none
  /-- No connection has been asked for. -/
  ipcAsync : se.ipcAsync = none
  /-- There is no connection to the hub. -/
  ipc : se.ipc = none
  established : se.established = false
  accepted : se.accepted = []

abbrev Runs (start se : Session) : Prop :=
  Reaches (step pppParseUsername) (fun _ _ => True) start se

/-- A run has passed through a session with a property. -/
def Passed (start se : Session) (property : Session → Prop) : Prop :=
  ∃ middle, Runs pppParseUsername start middle ∧ Runs pppParseUsername middle se ∧
    property middle

variable {pppParseUsername}

theorem Passed.next
    {start se later : Session}
    {property : Session → Prop}
    {event : Event}
    (passed : Passed pppParseUsername start se property)
    (stepped : step pppParseUsername se event = some later) :
    Passed pppParseUsername start later property :=
  have ⟨middle, first, second, holds⟩ := passed
  ⟨middle, first, .next second trivial stepped, holds⟩

variable (pppParseUsername)

end

/-- A key message with a user name of one letter and the password "p". -/
def keyMessage (user : UInt8) : List UInt8 :=
  [0, 0, 0, 0, 2] ++ List.replicate (48 + 32 + 32) 0 ++
    [0, 0, 0, 2, user, 0, 0, 2, 112, 0, 0, 0]

end OpenVpn
end SoftEther
