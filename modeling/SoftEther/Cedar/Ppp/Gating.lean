import SoftEther.Cedar.Ppp.Thread
import SoftEther.Cedar.Ppp.Options
import SoftEther.Mayaqua.Network
import SoftEther.Library.Faults

/-!
# Gating

What a PPP client can reach and when: the IPC is not used before there is one, an address is
acknowledged only when it is the one in the IPC, and IP packets pass only after an
authentication and after the address has been determined.  An answer of MS-CHAPv2 that comes
in time is tried out against the challenge that it answers.
-/

namespace SoftEther
namespace Ppp

open Network
open Library

def AddressDetermined (past : List Event) : Prop :=
  ∃ late address early,
    past = late ++ .determined address :: early ∧ Event.authenticated ∈ early

/-- The address may be acknowledged when it is the one in the IPC; under `DHCPForce` it has
been allocated by DHCP. -/
def MayAcknowledge (past : List Event) (ipc : Option Ipc) (data : List UInt8) : Prop :=
  ∃ i, ipc = some i ∧ data = i.clientIPAddress.addr.val ∧
    (i.dhcpForce = true → Event.allocated (ipToUINT i.clientIPAddress) ∈ past)

/-- The identifier of the challenge that was sent last. -/
def latestChallenge : List Event → Option UInt8
  | [] => none
  | .challenged id :: _ => some id
  | _ :: past => latestChallenge past

/-- A packet with an answer of MS-CHAPv2 that is taken while a challenge waits for one is the
answer to this challenge: the one that is returned without processing, or a CHAP response with
the identifier of the challenge. -/
def InTime : Event → Prop
  | .took awaited protocol lcp loggedIn =>
      protocol = PPP_PROTOCOL_CHAP → awaited.expectedProtocol = PPP_PROTOCOL_CHAP →
        loggedIn = false → (chapResponse lcp.data).isSome = true →
          awaited.isResponse protocol lcp = true ∨
            (lcp.code = PPP_CHAP_CODE_RESPONSE ∧
              awaited.req = some (PPP_PROTOCOL_CHAP, lcp.id))
  | _ => True

/-- What may happen after what has happened. -/
def EventSound (past : List Event) : Event → Prop
  | .answered protocol req ret ipc =>
      protocol = PPP_PROTOCOL_IPCP → ret.code = PPP_LCP_CODE_ACK →
        ∀ opt ∈ req.optionList, opt.type = PPP_IPCP_OPTION_IP →
          MayAcknowledge past ipc opt.data
  | .sentIPv4 _ => AddressDetermined past
  | .attempted (.chap _) code id =>
      (∀ event ∈ past, InTime event) →
        code = PPP_CHAP_CODE_RESPONSE ∧ latestChallenge past = some id
  | _ => True

/-- Everything in a history may have happened. -/
def HistorySound : List Event → Prop
  | [] => True
  | event :: past => EventSound past event ∧ HistorySound past

theorem HistorySound.event
    {late early : List Event}
    {event : Event}
    (sound : HistorySound (late ++ event :: early)) :
    EventSound early event := by
  induction late with
  | nil => exact sound.1
  | cons _ late inductionHypothesis => exact inductionHypothesis sound.2

theorem AddressDetermined.later
    {past : List Event}
    (determined : AddressDetermined past)
    (event : Event) :
    AddressDetermined (event :: past) := by
  obtain ⟨late, address, early, rfl, before⟩ := determined
  exact ⟨event :: late, address, early, by simp, before⟩

/-- The guards of a session agree with what has happened. -/
structure World.Sound (w : World) : Prop where
  history : HistorySound w.history
  authenticated : w.session.authOk = true →
    (∃ ipc, w.session.ipc = some ipc) ∧ Event.authenticated ∈ w.history
  determined : ∀ ipc, w.session.ipc = some ipc → isZeroIP ipc.clientIPAddress = false →
    AddressDetermined w.history
  forced : (∀ ipc, w.session.ipc = some ipc → ipc.dhcpForce = true) →
    w.session.useStaticIPAddress = false ∧
      (w.session.clientAddressOption.clientAddress ≠ 0 →
        Event.allocated w.session.clientAddressOption.clientAddress ∈ w.history)

/-- The part of a world that the guards look at. -/
def World.gate (w : World) : Bool × Option Ipc × Bool × DhcpOptionList × List Event :=
  (w.session.authOk, w.session.ipc, w.session.useStaticIPAddress,
    w.session.clientAddressOption, w.history)

/-- A session has stopped, but not because the IPC is missing. -/
def Permitted : Stop → Prop
  | .nullIpc => False
  | .waiting w => HistorySound w.history

/-- A world follows another one; no challenge has been sent. -/
def Follows (w w' : World) : Prop :=
  w'.Sound ∧ (w.session.authOk = true → w'.session.authOk = true) ∧
    latestChallenge w'.history = latestChallenge w.history

theorem World.Sound.of_gate
    {w w' : World}
    (sound : w.Sound)
    (same : w'.gate = w.gate) :
    Follows w w' := by
  obtain ⟨authOk, ipc, useStatic, option, history⟩ :
      w'.session.authOk = w.session.authOk ∧ w'.session.ipc = w.session.ipc ∧
        w'.session.useStaticIPAddress = w.session.useStaticIPAddress ∧
        w'.session.clientAddressOption = w.session.clientAddressOption ∧
        w'.history = w.history := by
    simpa [World.gate] using same
  refine ⟨⟨?_, ?_, ?_, ?_⟩, fun ok => authOk.trans ok, by rw [history]⟩
  · rw [history]
    exact sound.history
  · rw [authOk, ipc, history]
    exact sound.authenticated
  · rw [ipc, history]
    exact sound.determined
  · rw [ipc, useStatic, option, history]
    exact sound.forced

theorem World.Sound.keep
    {w w' : World}
    (sound : w.Sound)
    (same : w'.gate = w.gate) :
    w'.Sound :=
  (sound.of_gate same).1

theorem World.Sound.refl
    {w : World}
    (sound : w.Sound) :
    Follows w w :=
  sound.of_gate rfl

theorem Follows.trans
    {w w' w'' : World}
    (first : Follows w w')
    (second : Follows w' w'') :
    Follows w w'' :=
  ⟨second.1, fun ok => second.2.1 (first.2.1 ok), second.2.2.trans first.2.2⟩

theorem Follows.after
    {w w' : World}
    {computation : Except Stop (α × World)}
    (first : Follows w w')
    (ends : Ends Permitted computation fun r => Follows w' r.2) :
    Ends Permitted computation fun r => Follows w r.2 :=
  ends.mono fun _ second => first.trans second

theorem World.Sound.log
    {w : World}
    (sound : w.Sound)
    {event : Event}
    (may : EventSound w.history event) :
    (w.log event).Sound := by
  refine ⟨⟨may, sound.history⟩, ?_, ?_, ?_⟩
  · intro ok
    have before := sound.authenticated ok
    exact ⟨before.1, List.mem_cons_of_mem event before.2⟩
  · intro ipc present nonzero
    exact (sound.determined ipc present nonzero).later event
  · intro force
    have before := sound.forced force
    exact ⟨before.1, fun nonzero => List.mem_cons_of_mem event (before.2 nonzero)⟩

theorem World.Sound.follows
    {w : World}
    (sound : w.Sound)
    {event : Event}
    (may : EventSound w.history event)
    (same : latestChallenge (event :: w.history) = latestChallenge w.history) :
    Follows w (w.log event) :=
  ⟨sound.log may, fun ok => ok, same⟩

theorem World.Sound.answer_gate
    {w : World}
    (sound : w.Sound)
    {answers : List α}
    {left : List α → World}
    (same : ∀ rest, (left rest).gate = w.gate) :
    Ends Permitted (w.answer answers left) fun r => r.2.gate = w.gate := by
  cases answers with
  | nil => exact .error sound.history
  | cons first rest => exact .ok (same rest)

theorem World.Sound.answer
    {w : World}
    (sound : w.Sound)
    {answers : List α}
    {left : List α → World}
    (same : ∀ rest, (left rest).gate = w.gate) :
    Ends Permitted (w.answer answers left) fun r => Follows w r.2 :=
  (sound.answer_gate same).mono fun _ kept => sound.of_gate kept

theorem World.Sound.ask
    {w : World}
    (sound : w.Sound) :
    Ends Permitted w.ask fun r => Follows w r.2 :=
  sound.answer fun _ => rfl

theorem World.Sound.pppSendPacket
    {w : World}
    (sound : w.Sound) :
    Ends Permitted (Ppp.pppSendPacket w) fun r => Follows w r.2 :=
  sound.ask

theorem useIpc_eq_ok
    {w : World}
    {ipc : Ipc}
    (present : w.session.ipc = some ipc) :
    w.useIpc = .ok ipc := by
  simp [World.useIpc, present]

theorem setIPv4Parameters_eq_ok
    {w : World}
    {ipc : Ipc}
    (present : w.session.ipc = some ipc)
    (ip subnet gw : Ip) :
    w.setIPv4Parameters ip subnet gw =
      .ok (w.set { w.session with ipc := some (ipcSetIPv4Parameters ip subnet gw ipc) }) := by
  unfold World.setIPv4Parameters
  rw [useIpc_eq_ok present]
  rfl

theorem World.Sound.lowLayer_gate
    {w : World}
    (sound : w.Sound)
    (rounds : Nat) :
    Ends Permitted (Ppp.pppRecvPacketWithLowLayerProcessing rounds w)
      fun r => r.2.gate = w.gate := by
  induction rounds generalizing w with
  | zero => exact .error sound.history
  | succ rounds inductionHypothesis =>
      -- the next packet is received
      have next : ∀ {w' : World}, w'.gate = w.gate →
          Ends Permitted (Ppp.pppRecvPacketWithLowLayerProcessing rounds w')
            fun r => r.2.gate = w.gate := by
        intro w' same
        exact (inductionHypothesis (sound.keep same)).mono fun r kept => kept.trans same
      -- a packet is answered, and the next one is received
      have again : ∀ {w' : World}, w'.gate = w.gate →
          Ends Permitted
            (Ppp.pppSendPacket w' >>= fun sent =>
              if sent.1 then Ppp.pppRecvPacketWithLowLayerProcessing rounds sent.2
              else .ok (none, sent.2))
            fun r => r.2.gate = w.gate := by
        intro w' same
        refine Ends.bind ((sound.keep same).answer_gate fun _ => rfl) ?_
        rintro ⟨sent, after⟩ kept
        dsimp only
        split
        · exact next (kept.trans same)
        · exact .ok (kept.trans same)
      unfold Ppp.pppRecvPacketWithLowLayerProcessing
      refine Ends.bind (sound.answer_gate fun _ => rfl) ?_
      rintro ⟨arrived, w'⟩ kept
      cases arrived with
      | none => exact .ok kept
      | some pp =>
          dsimp only
          split
          · exact again kept
          · split
            · exact .ok kept
            · split
              · exact .ok kept
              · split
                · exact again kept
                · split
                  · exact next kept
                  · split
                    · exact again kept
                    · exact .ok kept

theorem World.Sound.communication_gate
    {w : World}
    (sound : w.Sound)
    (rounds : Nat) :
    Ends Permitted (Ppp.pppRecvPacketForCommunication rounds w)
      fun r => r.2.gate = w.gate := by
  unfold Ppp.pppRecvPacketForCommunication
  split
  · exact .ok rfl
  · exact sound.lowLayer_gate rounds

theorem World.Sound.pppRecvPacketForCommunication
    {w : World}
    (sound : w.Sound)
    (rounds : Nat) :
    Ends Permitted (Ppp.pppRecvPacketForCommunication rounds w) fun r => Follows w r.2 :=
  (sound.communication_gate rounds).mono fun _ kept => sound.of_gate kept

/-! ## Authentication -/

theorem isZeroIP_zeroIP : isZeroIP zeroIP = true := by
  decide +kernel

/-- An answer may be tried out: when it has come in time, the challenge waits for it. -/
def MayAttempt (w : World) (lcp : PppLcp) : Prop :=
  w.session.ipc = none → (chapResponse lcp.data).isSome = true →
    (∀ event ∈ w.history, InTime event) →
      lcp.code = PPP_CHAP_CODE_RESPONSE ∧ latestChallenge w.history = some lcp.id

theorem World.Sound.connect
    {w : World}
    (sound : w.Sound)
    (absent : w.session.ipc = none)
    {session : Session}
    {ipc : Ipc}
    (present : session.ipc = some ipc)
    (noAddress : isZeroIP ipc.clientIPAddress = true)
    (sameAuthOk : session.authOk = w.session.authOk)
    (sameUse : session.useStaticIPAddress = w.session.useStaticIPAddress)
    (sameOption : session.clientAddressOption = w.session.clientAddressOption) :
    Follows w (w.set session) := by
  have locked : w.session.authOk ≠ true := by
    intro ok
    obtain ⟨⟨ipc, some⟩, _⟩ := sound.authenticated ok
    exact nomatch absent.symm.trans some
  refine ⟨⟨sound.history, ?_, ?_, ?_⟩, fun ok => absurd ok locked, rfl⟩
  · intro ok
    exact absurd (sameAuthOk.symm.trans ok) locked
  · intro other there nonzero
    have same : other = ipc := Option.some.inj (there.symm.trans present)
    rw [same, noAddress] at nonzero
    exact nomatch nonzero
  · intro _
    have before := sound.forced (by
      intro other there
      exact nomatch absent.symm.trans there)
    change session.useStaticIPAddress = false ∧
      (session.clientAddressOption.clientAddress ≠ 0 →
        Event.allocated session.clientAddressOption.clientAddress ∈ w.history)
    rw [sameUse, sameOption]
    exact before

theorem isSome_of_login
    {hubs : Hubs}
    {session : PppSession}
    {data : List UInt8}
    {made : Login}
    (attempt : processRequestPacket hubs session (.chap data) = some made) :
    (chapResponse data).isSome = true := by
  obtain ⟨response, _, read, _⟩ := processRequestPacket_chap.mp attempt
  simp [read]

theorem World.Sound.login
    {w : World}
    (sound : w.Sound)
    {lcp : PppLcp}
    {req : AuthRequest}
    (mayAttempt : ∀ data, req = .chap data → data = lcp.data ∧ MayAttempt w lcp)
    (hubs : Hubs) :
    Ends Permitted (Ppp.login hubs w lcp req) fun r =>
      Follows w r.2 ∧ (r.1 = true → ∃ ipc, r.2.session.ipc = some ipc) := by
  unfold Ppp.login
  split
  · rename_i ipc present
    exact .ok ⟨sound.refl, fun _ => ⟨ipc, present⟩⟩
  · rename_i absent
    split
    · exact .ok ⟨sound.refl, fun ok => nomatch ok⟩
    · rename_i made attempt
      have may : EventSound w.history (.attempted req lcp.code lcp.id) := by
        cases req with
        | pap data => trivial
        | chap data =>
            obtain ⟨rfl, allowed⟩ := mayAttempt data rfl
            exact allowed absent (isSome_of_login attempt)
      have logged := sound.follows may rfl
      have result : Ends Permitted ((w.log (.attempted req lcp.code lcp.id)).newIPC) fun r =>
          Follows w r.2 ∧ r.2.session.ipc = none := by
        unfold World.newIPC World.answer
        split
        · exact .error logged.1.history
        · exact .ok ⟨logged.trans (logged.1.of_gate rfl), absent⟩
      refine result.bind ?_
      rintro ⟨answer, w'⟩ ⟨follows, absent'⟩
      cases answer with
      | ipc dhcpForce response =>
          cases req with
          | chap data =>
              exact .ok ⟨follows.trans
                (follows.1.connect absent' rfl isZeroIP_zeroIP rfl rfl rfl), fun _ => ⟨_, rfl⟩⟩
          | pap data =>
              exact .ok ⟨follows.trans
                (follows.1.connect absent' rfl isZeroIP_zeroIP rfl rfl rfl), fun _ => ⟨_, rfl⟩⟩
      | null passwordNeedReset =>
          cases req with
          | chap data =>
              exact .ok ⟨follows.trans (follows.1.of_gate rfl), fun ok => nomatch ok⟩
          | pap data => exact .ok ⟨follows, fun ok => nomatch ok⟩

theorem World.Sound.authenticate
    {w : World}
    (sound : w.Sound)
    (present : ∃ ipc, w.session.ipc = some ipc) :
    Follows w w.authenticate := by
  refine ⟨⟨⟨trivial, sound.history⟩, ?_, ?_, ?_⟩, fun _ => rfl, rfl⟩
  · exact fun _ => ⟨present, List.mem_cons_self⟩
  · intro ipc there nonzero
    exact (sound.determined ipc there nonzero).later .authenticated
  · intro force
    have before := sound.forced force
    exact ⟨before.1, fun nonzero => List.mem_cons_of_mem _ (before.2 nonzero)⟩

theorem World.Sound.processChap
    {w : World}
    (sound : w.Sound)
    {lcp : PppLcp}
    (mayAttempt : MayAttempt w lcp)
    (hubs : Hubs) :
    Ends Permitted (Ppp.processChap hubs w lcp) fun r => Follows w r.2 := by
  unfold Ppp.processChap
  refine (sound.login ?_ hubs).bind ?_
  · rintro data same
    injection same with same
    exact ⟨same.symm, mayAttempt⟩
  · rintro ⟨ok, w'⟩ ⟨follows, present⟩
    dsimp only
    split
    · rename_i successful
      exact .ok (follows.trans (follows.1.authenticate (present successful)))
    · exact .ok follows

theorem World.Sound.processPap
    {w : World}
    (sound : w.Sound)
    (lcp : PppLcp)
    (hubs : Hubs) :
    Ends Permitted (Ppp.processPap hubs w lcp) fun r => Follows w r.2 := by
  unfold Ppp.processPap
  refine (sound.login (by intro data same; cases same) hubs).bind ?_
  rintro ⟨ok, w'⟩ ⟨follows, present⟩
  dsimp only
  split
  · rename_i successful
    exact .ok (follows.trans (follows.1.authenticate (present successful)))
  · exact .ok follows

/-! ## The address -/

theorem World.Sound.chooseStatic
    {w : World}
    (sound : w.Sound)
    {ipc : Ipc}
    (present : w.session.ipc = some ipc)
    (ipAddress : Ip) :
    Ends Permitted (Ppp.chooseStatic w ipAddress) fun w' =>
      Follows w w' ∧ w'.session.ipc = some ipc := by
  unfold Ppp.chooseStatic
  split
  · refine .ok ⟨⟨⟨sound.history, sound.authenticated, sound.determined, ?_⟩,
      fun ok => ok, rfl⟩, present⟩
    exact fun force => ⟨rfl, (sound.forced force).2⟩
  · rw [useIpc_eq_ok present]
    change Ends Permitted (if _ then _ else _) _
    split
    · rename_i free
      refine .ok ⟨⟨⟨sound.history, sound.authenticated, sound.determined, ?_⟩,
        fun ok => ok, rfl⟩, present⟩
      intro force
      have forced := force ipc present
      rw [free.1] at forced
      exact nomatch forced
    · exact .ok ⟨sound.refl, present⟩

theorem World.Sound.readdress
    {w w' : World}
    (sound : w.Sound)
    {ipc ipc' : Ipc}
    (present : w.session.ipc = some ipc)
    (changed : w'.session.ipc = some ipc')
    (sameForce : ipc'.dhcpForce = ipc.dhcpForce)
    (sameAuthOk : w'.session.authOk = w.session.authOk)
    (sameHistory : w'.history = w.history)
    (determined : isZeroIP ipc'.clientIPAddress = false → AddressDetermined w.history)
    (sameUse : w'.session.useStaticIPAddress = w.session.useStaticIPAddress)
    (sameOption : ipc.dhcpForce = true →
      w'.session.clientAddressOption = w.session.clientAddressOption) :
    Follows w w' := by
  refine ⟨⟨?_, ?_, ?_, ?_⟩, fun ok => sameAuthOk.trans ok, by rw [sameHistory]⟩
  · rw [sameHistory]
    exact sound.history
  · intro ok
    rw [sameHistory]
    exact ⟨⟨ipc', changed⟩, (sound.authenticated (sameAuthOk.symm.trans ok)).2⟩
  · intro other there nonzero
    have same : other = ipc' := Option.some.inj (there.symm.trans changed)
    rw [same] at nonzero
    rw [sameHistory]
    exact determined nonzero
  · intro force
    have forced : ipc.dhcpForce = true := sameForce.symm.trans (force ipc' changed)
    rw [sameHistory, sameUse, sameOption forced]
    apply sound.forced
    intro other there
    rw [Option.some.inj (there.symm.trans present)]
    exact forced

theorem ends_ipcDhcpRequestInformIP
    {w : World}
    (there : ∃ ipc, w.session.ipc = some ipc)
    (sound : HistorySound w.history) :
    Ends Permitted w.ipcDhcpRequestInformIP fun r =>
      ∃ rest, r.2 = { w with informs := rest } := by
  obtain ⟨ipc, present⟩ := there
  unfold World.ipcDhcpRequestInformIP
  rw [useIpc_eq_ok present]
  change Ends Permitted (w.answer w.informs _) _
  cases w.informs with
  | nil => exact .error sound
  | cons first rest => exact .ok ⟨rest, rfl⟩

theorem ends_ipcDhcpAllocateIP
    {w : World}
    (there : ∃ ipc, w.session.ipc = some ipc)
    (sound : HistorySound w.history) :
    Ends Permitted w.ipcDhcpAllocateIP fun r =>
      ∃ rest, r.2 = { w with allocations := rest } := by
  obtain ⟨ipc, present⟩ := there
  unfold World.ipcDhcpAllocateIP
  rw [useIpc_eq_ok present]
  change Ends Permitted (w.answer w.allocations _) _
  cases w.allocations with
  | nil => exact .error sound
  | cons first rest => exact .ok ⟨rest, rfl⟩

theorem World.Sound.notForced
    {w : World}
    (sound : w.Sound)
    {ipc : Ipc}
    (present : w.session.ipc = some ipc)
    (useStatic : w.session.useStaticIPAddress = true) :
    ipc.dhcpForce ≠ true := by
  intro force
  have forced := sound.forced (by
    intro other there
    rw [Option.some.inj (there.symm.trans present)]
    exact force)
  rw [useStatic] at forced
  exact nomatch forced.1

theorem World.Sound.tryInform
    {w : World}
    (sound : w.Sound)
    {ipc : Ipc}
    (present : w.session.ipc = some ipc)
    (useStatic : w.session.useStaticIPAddress = true) :
    Ends Permitted (Ppp.tryInform w) fun w' =>
      Follows w w' ∧ ∃ ipc, w'.session.ipc = some ipc := by
  have free := sound.notForced present useStatic
  unfold Ppp.tryInform
  split
  · exact .ok ⟨sound.refl, ipc, present⟩
  · dsimp only
    rw [setIPv4Parameters_eq_ok present]
    -- the address is in the IPC only while the DHCP server is asked
    change Ends Permitted (World.ipcDhcpRequestInformIP _ >>= _) _
    refine Ends.bind (ends_ipcDhcpRequestInformIP ?_ ?_) ?_
    · exact ⟨_, rfl⟩
    · exact sound.history
    rintro ⟨cao, w'⟩ ⟨rest, rfl⟩
    cases cao with
    | none =>
        refine .ok ⟨sound.readdress present rfl rfl rfl rfl ?_ rfl ?_, _, rfl⟩
        · intro nonzero
          exact nomatch isZeroIP_zeroIP.symm.trans nonzero
        · exact fun _ => rfl
    | some cao =>
        refine .ok ⟨sound.readdress present rfl rfl rfl rfl ?_ rfl ?_, _, rfl⟩
        · intro nonzero
          exact nomatch isZeroIP_zeroIP.symm.trans nonzero
        · exact fun force => absurd force free

theorem World.Sound.tryAllocate
    {w : World}
    (sound : w.Sound)
    {ipc : Ipc}
    (present : w.session.ipc = some ipc)
    (notStatic : w.session.useStaticIPAddress = false) :
    Ends Permitted (Ppp.tryAllocate w) fun w' =>
      Follows w w' ∧ ∃ ipc, w'.session.ipc = some ipc := by
  unfold Ppp.tryAllocate
  split
  · exact .ok ⟨sound.refl, ipc, present⟩
  · dsimp only
    refine Ends.bind (ends_ipcDhcpAllocateIP ?_ ?_) ?_
    · exact ⟨ipc, present⟩
    · exact sound.history
    rintro ⟨cao, w'⟩ ⟨rest, rfl⟩
    cases cao with
    | none => exact .ok ⟨sound.of_gate rfl, ipc, present⟩
    | some cao =>
        refine .ok ⟨⟨⟨⟨trivial, sound.history⟩, ?_, ?_, ?_⟩, fun ok => ok, rfl⟩,
          ipc, present⟩
        · intro ok
          have before := sound.authenticated ok
          exact ⟨before.1, List.mem_cons_of_mem _ before.2⟩
        · intro other there nonzero
          exact (sound.determined other there nonzero).later _
        · exact fun _ => ⟨notStatic, fun _ => List.mem_cons_self⟩

/-- An accepted address is the one in the IPC, and may be acknowledged. -/
def Acceptable (w : World) (req optionList : List PppOption) : Prop :=
  optionList.map PppOption.content = req.map PppOption.content ∧
    ∀ opt ∈ optionList, opt.type = PPP_IPCP_OPTION_IP → opt.isAccepted = true →
      MayAcknowledge w.history w.session.ipc opt.data

theorem Acceptable.of_notAccepted
    {w : World}
    {req optionList : List PppOption}
    (same : optionList.map PppOption.content = req.map PppOption.content)
    (refused : NotAccepted PPP_IPCP_OPTION_IP optionList) :
    Acceptable w req optionList := by
  refine ⟨same, ?_⟩
  intro opt listed address accepted
  rw [refused opt listed address] at accepted
  exact nomatch accepted

theorem World.Sound.setAddress
    {w : World}
    (sound : w.Sound)
    {ipc : Ipc}
    (present : w.session.ipc = some ipc)
    (ok : w.session.authOk = true)
    {req optionList : List PppOption}
    (same : optionList.map PppOption.content = req.map PppOption.content)
    (refused : NotAccepted PPP_IPCP_OPTION_IP optionList) :
    Ends Permitted (Ppp.setAddress w optionList) fun r =>
      Follows w r.2 ∧ Acceptable r.2 req r.1 := by
  unfold Ppp.setAddress
  dsimp only
  split
  · rw [setIPv4Parameters_eq_ok present]
    refine .ok ⟨?_, ?_, ?_⟩
    · have may : EventSound w.history
          (.determined (uintToIP w.session.clientAddressOption.clientAddress)) :=
        trivial
      have logged := sound.follows may rfl
      refine logged.trans
        (logged.1.readdress present rfl rfl rfl rfl ?_ rfl fun _ => rfl)
      exact fun _ => ⟨[], _, w.history, rfl, (sound.authenticated ok).2⟩
    · exact (map_content_setIPOption _ _).trans same
    · intro opt listed address accepted
      obtain ⟨data, nonzero⟩ := pppSetIPOptionToLCP_acceptedIs refused _ opt listed address accepted
      refine ⟨_, rfl, data, ?_⟩
      intro force
      have forced := sound.forced (by
        intro other there
        rw [Option.some.inj (there.symm.trans present)]
        exact force)
      change Event.allocated (ipToUINT (uintToIP _)) ∈ _
      rw [ipToUINT_uintToIP]
      apply List.mem_cons_of_mem
      apply forced.2
      intro zero
      change isZeroIP (uintToIP w.session.clientAddressOption.clientAddress) = false at nonzero
      rw [zero] at nonzero
      exact nomatch isZeroIP_zeroIP.symm.trans nonzero
  · refine .ok ⟨sound.refl, (map_content_setIPOption _ _).trans same, ?_⟩
    intro opt listed address accepted
    obtain ⟨_, nonzero⟩ := pppSetIPOptionToLCP_acceptedIs refused {} opt listed address accepted
    exact nomatch isZeroIP_zeroIP.symm.trans nonzero

theorem World.Sound.processIpcp
    {w : World}
    (sound : w.Sound)
    (ok : w.session.authOk = true)
    {req optionList : List PppOption}
    (same : optionList.map PppOption.content = req.map PppOption.content)
    (refused : NotAccepted PPP_IPCP_OPTION_IP optionList) :
    Ends Permitted (Ppp.processIpcp w optionList) fun r =>
      Follows w r.2 ∧ Acceptable r.2 req r.1 := by
  obtain ⟨⟨ipc, present⟩, _⟩ := sound.authenticated ok
  obtain ⟨kept, refused⟩ := pppGetIPOptionFromLCP_keeps refused
  unfold Ppp.processIpcp
  generalize pppGetIPOptionFromLCP optionList = got at kept refused
  obtain ⟨found, optionList'⟩ := got
  cases found with
  | none => exact .ok ⟨sound.refl, .of_notAccepted (kept.trans same) refused⟩
  | some ipAddress =>
      refine (sound.chooseStatic present ipAddress).bind ?_
      rintro w' ⟨follows, present'⟩
      -- whichever way the address is looked for, it is set afterwards
      have rest : ∀ w'', Follows w' w'' ∧ (∃ ipc, w''.session.ipc = some ipc) →
          Ends Permitted (Ppp.setAddress w'' optionList') fun r =>
            Follows w r.2 ∧ Acceptable r.2 req r.1 := by
        rintro w'' ⟨follows', ipc', present''⟩
        have before := follows.trans follows'
        refine (before.1.setAddress present'' (before.2.1 ok) (kept.trans same) refused).mono ?_
        exact fun r ⟨after, acceptable⟩ => ⟨before.trans after, acceptable⟩
      split
      · rename_i useStatic
        exact (follows.1.tryInform present' useStatic).bind rest
      · rename_i notStatic
        exact (follows.1.tryAllocate present' (Bool.eq_false_of_not_eq_true notStatic)).bind rest

theorem content_resetOption (optionList : List PppOption) :
    (optionList.map resetOption).map PppOption.content =
      optionList.map PppOption.content := by
  rw [List.map_map]
  rfl

theorem notAccepted_resetOption (type : UInt8) (optionList : List PppOption) :
    NotAccepted type (optionList.map resetOption) := by
  intro opt listed _
  obtain ⟨before, _, rfl⟩ := List.mem_map.mp listed
  rfl

theorem Acceptable.of_ack
    {w : World}
    {req optionList : List PppOption}
    {id : UInt8}
    (acceptable : Acceptable w req optionList)
    (ack : (optionAnswer id optionList).code = PPP_LCP_CODE_ACK) :
    ∀ opt ∈ req, opt.type = PPP_IPCP_OPTION_IP →
      MayAcknowledge w.history w.session.ipc opt.data := by
  intro opt listed address
  have content : opt.content ∈ req.map PppOption.content := List.mem_map_of_mem listed
  rw [← acceptable.1] at content
  obtain ⟨answered, inside, equal⟩ := List.mem_map.mp content
  obtain ⟨type, data⟩ := Prod.mk.inj equal
  rw [← data]
  exact acceptable.2 answered inside (type.trans address) (isAccepted_of_ack ack answered inside)

theorem World.Sound.pppProcessRequestPacket
    {w : World}
    (sound : w.Sound)
    {protocol : UInt16}
    {req : PppLcp}
    (mayAttempt : protocol = PPP_PROTOCOL_CHAP → MayAttempt w req)
    (ok : protocol = PPP_PROTOCOL_IPCP → w.session.authOk = true)
    (hubs : Hubs) :
    Ends Permitted (Ppp.pppProcessRequestPacket hubs w protocol req) fun r =>
      Follows w r.2 ∧
        EventSound r.2.history (.answered protocol req r.1 r.2.session.ipc) := by
  unfold Ppp.pppProcessRequestPacket
  dsimp only
  split
  · rename_i lcp
    refine .ok ⟨?_, ?_⟩
    · apply sound.of_gate
      simp only [World.gate, World.set]
      split <;> rfl
    · intro ipcp
      exact absurd (lcp.symm.trans ipcp) (by decide)
  · split
    · rename_i chap
      refine (sound.processChap (mayAttempt chap) hubs).bind ?_
      rintro ⟨⟨code, data⟩, w'⟩ follows
      exact .ok ⟨follows, fun ipcp => absurd (chap.symm.trans ipcp) (by decide)⟩
    · split
      · rename_i pap
        refine (sound.processPap req hubs).bind ?_
        rintro ⟨code, w'⟩ follows
        exact .ok ⟨follows, fun ipcp => absurd (pap.symm.trans ipcp) (by decide)⟩
      · split
        · rename_i ipcp
          refine (sound.processIpcp (ok ipcp) (content_resetOption req.optionList)
            (notAccepted_resetOption _ _)).bind ?_
          rintro ⟨optionList, w'⟩ ⟨follows, acceptable⟩
          exact .ok ⟨follows, fun _ ack => acceptable.of_ack ack⟩
        · rename_i other
          exact .ok ⟨sound.refl, fun ipcp => absurd ipcp other⟩

/-! ## `PPPRecvResponsePacket` -/

/-- What is awaited fits the session: an IPCP request comes after the authentication, a CHAP
packet after a challenge. -/
def Awaited.Ready (awaited : Awaited) (w : World) : Prop :=
  (awaited.expectedProtocol = PPP_PROTOCOL_IPCP → w.session.authOk = true) ∧
    (awaited.expectedProtocol = PPP_PROTOCOL_CHAP →
      ∃ id, awaited.req = some (PPP_PROTOCOL_CHAP, id) ∧ latestChallenge w.history = some id)

theorem Awaited.Ready.later
    {awaited : Awaited}
    {w w' : World}
    (ready : awaited.Ready w)
    (follows : Follows w w') :
    awaited.Ready w' := by
  refine ⟨fun ipcp => follows.2.1 (ready.1 ipcp), ?_⟩
  intro chap
  obtain ⟨id, req, last⟩ := ready.2 chap
  exact ⟨id, req, follows.2.2.trans last⟩

theorem World.Sound.answerRequest
    {w : World}
    (sound : w.Sound)
    {protocol : UInt16}
    {req : PppLcp}
    (mayAttempt : protocol = PPP_PROTOCOL_CHAP → MayAttempt w req)
    (ok : protocol = PPP_PROTOCOL_IPCP → w.session.authOk = true)
    (hubs : Hubs) :
    Ends Permitted (Ppp.answerRequest hubs w protocol req) fun r => Follows w r.2 := by
  unfold Ppp.answerRequest
  refine (sound.pppProcessRequestPacket mayAttempt ok hubs).bind ?_
  rintro ⟨ret, w'⟩ ⟨follows, may⟩
  have logged := follows.1.follows may rfl
  refine logged.1.pppSendPacket.bind ?_
  rintro ⟨sent, w''⟩ after
  exact .ok (follows.trans (logged.trans after))

theorem World.Sound.waitForPacket
    {w : World}
    (sound : w.Sound)
    (awaited : Awaited) :
    Ends Permitted (Ppp.waitForPacket awaited w) fun r => Follows w r.2 := by
  unfold Ppp.waitForPacket
  refine sound.ask.bind ?_
  rintro ⟨resend, w1⟩ follows
  have rest : ∀ r : Bool × World, Follows w r.2 →
      Ends Permitted
        (r.2.ask >>= fun asked =>
          if r.1 = false ∨ (awaited.req.isSome ∧ asked.1) ∨
              (awaited.finishWhenAllLcpAcked ∧ asked.2.session.clientLcpOptionDetermined) then
            .ok (false, asked.2)
          else asked.2.ask)
        fun r => Follows w r.2 := by
    rintro ⟨sent, w2⟩ before
    refine before.1.ask.bind ?_
    rintro ⟨timedOut, w3⟩ after
    dsimp only
    split
    · exact .ok (before.trans after)
    · exact (before.trans after).after after.1.ask
  dsimp only
  split
  · exact (follows.after follows.1.pppSendPacket).bind rest
  · exact rest (true, w1) follows

theorem Awaited.Ready.mayAttempt
    {awaited : Awaited}
    {w : World}
    (ready : awaited.Ready w)
    {lcp : PppLcp}
    (chap : awaited.expectedProtocol = PPP_PROTOCOL_CHAP)
    (notResponse : awaited.isResponse PPP_PROTOCOL_CHAP lcp ≠ true) :
    MayAttempt
      (w.log (.took awaited PPP_PROTOCOL_CHAP lcp w.session.ipc.isSome)) lcp := by
  intro absent answer inTime
  have notLoggedIn : w.session.ipc.isSome = false := by
    rw [show w.session.ipc = none from absent]
    rfl
  obtain ⟨id, req, last⟩ := ready.2 chap
  rcases inTime _ List.mem_cons_self rfl chap notLoggedIn answer with response | ⟨code, same⟩
  · exact absurd response notResponse
  · have equal : id = lcp.id := (Prod.mk.inj (Option.some.inj (req.symm.trans same))).2
    exact ⟨code, by rw [← equal]; exact last⟩

theorem World.Sound.recvResponseLoop
    {w : World}
    (sound : w.Sound)
    {awaited : Awaited}
    (ready : awaited.Ready w)
    (hubs : Hubs)
    (rounds : Nat) :
    Ends Permitted (Ppp.recvResponseLoop hubs awaited rounds w) fun r => Follows w r.2 := by
  induction rounds generalizing w with
  | zero => exact .error sound.history
  | succ rounds inductionHypothesis =>
      unfold Ppp.recvResponseLoop
      refine (sound.pppRecvPacketForCommunication rounds).bind ?_
      rintro ⟨arrived, w1⟩ follows
      cases arrived with
      | none =>
          refine (follows.1.waitForPacket awaited).bind ?_
          rintro ⟨goesOn, w2⟩ after
          have before := follows.trans after
          dsimp only
          split
          · exact before.after (inductionHypothesis before.1 (ready.later before))
          · exact .ok before
      | some pp =>
          obtain ⟨protocol, body⟩ := pp
          cases body with
          | data bytes =>
              dsimp only
              split
              · exact .ok (follows.trans (follows.1.of_gate rfl))
              · exact .ok follows
          | control lcp =>
              have taken := follows.trans (follows.1.follows
                (show EventSound w1.history
                  (.took awaited protocol lcp w1.session.ipc.isSome) from trivial) rfl)
              dsimp only
              split
              · exact .ok taken
              · rename_i notResponse
                split
                · split
                  · exact .ok (taken.trans (taken.1.of_gate rfl))
                  · exact .ok taken
                · rename_i expected
                  have same : protocol = awaited.expectedProtocol := not_not.mp expected
                  split
                  · refine (taken.1.answerRequest ?_ ?_ hubs).bind ?_
                    · intro chap
                      subst chap
                      exact (ready.later follows).mayAttempt same.symm notResponse
                    · intro ipcp
                      exact (ready.later taken).1 (same.symm.trans ipcp)
                    · rintro ⟨goesOn, w2⟩ after
                      have before := taken.trans after
                      dsimp only
                      split
                      · exact before.after (inductionHypothesis before.1 (ready.later before))
                      · exact .ok before
                  · exact taken.after (inductionHypothesis taken.1 (ready.later taken))

theorem World.Sound.pppRecvResponsePacket
    {w : World}
    (sound : w.Sound)
    {awaited : Awaited}
    (ready : awaited.Ready w)
    (hubs : Hubs)
    (rounds : Nat) :
    Ends Permitted (Ppp.pppRecvResponsePacket hubs rounds awaited w)
      fun r => Follows w r.2 := by
  unfold Ppp.pppRecvResponsePacket
  refine sound.ask.bind ?_
  rintro ⟨connected, w'⟩ follows
  dsimp only
  split
  · exact follows.after (follows.1.recvResponseLoop (ready.later follows) hubs rounds)
  · exact .ok follows

theorem ready_of_ne
    {awaited : Awaited}
    {w : World}
    (notChap : awaited.expectedProtocol ≠ PPP_PROTOCOL_CHAP)
    (ok : awaited.expectedProtocol = PPP_PROTOCOL_IPCP → w.session.authOk = true) :
    awaited.Ready w :=
  ⟨ok, fun chap => absurd chap notChap⟩

theorem World.Sound.pppSendRequest
    {w : World}
    (sound : w.Sound)
    {protocol : UInt16}
    (notChap : protocol ≠ PPP_PROTOCOL_CHAP)
    (ok : protocol = PPP_PROTOCOL_IPCP → w.session.authOk = true)
    (hubs : Hubs)
    (rounds : Nat) :
    Ends Permitted (Ppp.pppSendRequest hubs rounds protocol w) fun r => Follows w r.2 := by
  have counted : Follows w (w.set { w.session with nextId := w.session.nextId + 1 }) :=
    sound.of_gate rfl
  unfold Ppp.pppSendRequest
  dsimp only
  refine (counted.after counted.1.pppSendPacket).bind ?_
  rintro ⟨sent, w1⟩ follows
  dsimp only
  split
  · refine Ends.bind (follows.after (follows.1.pppRecvResponsePacket
      (ready_of_ne notChap fun ipcp => follows.2.1 (ok ipcp)) hubs rounds)) ?_
    rintro ⟨⟨response, received⟩, w2⟩ after
    cases response with
    | none => exact .ok after
    | some lcp => exact .ok after
  · exact .ok follows

theorem World.Sound.pppContinueCurrentProtocolRequestListening
    {w : World}
    (sound : w.Sound)
    {protocol : UInt16}
    (notChap : protocol ≠ PPP_PROTOCOL_CHAP)
    (ok : protocol = PPP_PROTOCOL_IPCP → w.session.authOk = true)
    (hubs : Hubs)
    (rounds : Nat) :
    Ends Permitted (Ppp.pppContinueCurrentProtocolRequestListening hubs rounds protocol w)
      fun r => Follows w r.2 := by
  unfold Ppp.pppContinueCurrentProtocolRequestListening
  refine Ends.bind (sound.pppRecvResponsePacket (ready_of_ne notChap ok) hubs rounds) ?_
  rintro ⟨⟨response, received⟩, w'⟩ follows
  exact .ok follows

/-! ## `PPPThread` -/

theorem World.Sound.establishLink
    {w : World}
    (sound : w.Sound)
    (hubs : Hubs)
    (rounds : Nat) :
    Ends Permitted (Ppp.establishLink hubs rounds w) fun r => r.2.Sound := by
  have request : ∀ {w : World}, w.Sound →
      Ends Permitted (Ppp.pppSendRequest hubs rounds PPP_PROTOCOL_LCP w)
        fun r => Follows w r.2 :=
    fun sound => sound.pppSendRequest (by decide) (fun ipcp => absurd ipcp (by decide))
      hubs rounds
  unfold Ppp.establishLink
  refine (request sound).bind ?_
  rintro ⟨ret, w1⟩ follows
  dsimp only
  split
  · exact .ok follows.1
  · refine follows.1.ask.bind ?_
    rintro ⟨connected, w2⟩ asked
    dsimp only
    split
    · refine (request asked.1).bind ?_
      rintro ⟨ret, w3⟩ requested
      dsimp only
      split
      · exact .ok (requested.1.keep rfl)
      · exact .ok requested.1
    · exact .ok asked.1

/-- A result of an authentication phase: the next protocol comes after `AuthOk`. -/
def Authenticated (r : Option UInt16 × World) : Prop :=
  r.2.Sound ∧ (r.1.isSome = true → r.2.session.authOk = true)

theorem World.Sound.authenticatePap
    {w : World}
    (sound : w.Sound)
    (hubs : Hubs)
    (rounds : Nat) :
    Ends Permitted (Ppp.authenticatePap hubs rounds w) Authenticated := by
  unfold Ppp.authenticatePap
  refine (sound.pppContinueCurrentProtocolRequestListening (by decide)
    (fun ipcp => absurd ipcp (by decide)) hubs rounds).bind ?_
  rintro ⟨nextProtocol, w1⟩ follows
  dsimp only
  split
  · exact .ok ⟨follows.1, fun ok => nomatch ok⟩
  · refine (follows.1.pppContinueCurrentProtocolRequestListening (by decide)
      (fun ipcp => absurd ipcp (by decide)) hubs rounds).bind ?_
    rintro ⟨nextProtocol, w2⟩ after
    dsimp only
    split
    · exact .ok ⟨after.1, fun ok => nomatch ok⟩
    · rename_i passed
      exact .ok ⟨after.1, fun _ => Bool.eq_true_of_not_eq_false fun no => passed (.inr no)⟩

theorem World.Sound.challenge
    {w : World}
    (sound : w.Sound)
    (challenge : ByteArrayOf 16)
    (id : UInt8) :
    Ends Permitted
      (Ppp.pppSendPacket
        ((w.set { w.session with msChapV2ServerChallenge := challenge }).log (.challenged id)))
      fun r => r.2.Sound ∧ latestChallenge r.2.history = some id := by
  have changed : World.Sound (w.set { w.session with msChapV2ServerChallenge := challenge }) :=
    sound.keep rfl
  have sent : World.Sound
      ((w.set { w.session with msChapV2ServerChallenge := challenge }).log (.challenged id)) :=
    changed.log trivial
  exact sent.pppSendPacket.mono fun r follows => ⟨follows.1, follows.2.2⟩

theorem ready_of_challenge
    {w : World}
    {id : UInt8}
    (last : latestChallenge w.history = some id)
    {awaited : Awaited}
    (chap : awaited.expectedProtocol = PPP_PROTOCOL_CHAP)
    (asks : awaited.req = some (PPP_PROTOCOL_CHAP, id)) :
    awaited.Ready w :=
  ⟨fun ipcp => absurd (chap.symm.trans ipcp) (by decide), fun _ => ⟨id, asks, last⟩⟩

theorem World.Sound.firstMsChapV2
    {w : World}
    (sound : w.Sound)
    (hubs : Hubs)
    (rounds : Nat) :
    Ends Permitted (Ppp.firstMsChapV2 hubs rounds w) World.Sound := by
  unfold Ppp.firstMsChapV2
  refine Ends.bind (sound.answer fun _ => rfl) ?_
  rintro ⟨challenge, w1⟩ follows
  refine (follows.1.challenge challenge 99).bind ?_
  rintro ⟨_, w2⟩ ⟨sound2, last⟩
  refine (sound2.pppRecvResponsePacket (ready_of_challenge last rfl rfl) hubs rounds).bind ?_
  rintro ⟨⟨ppRet, _⟩, w3⟩ received
  cases ppRet with
  | none => exact .ok received.1
  | some lcp =>
      dsimp only
      split
      · exact .ok received.1
      · refine Ends.bind (received.1.answer fun _ => rfl) ?_
        rintro ⟨eap, w4⟩ asked
        cases eap with
        | none => exact .ok asked.1
        | some eap => exact .ok (asked.1.keep rfl)

theorem World.Sound.challengeMsChapV2
    {w : World}
    (sound : w.Sound)
    (challenge : ByteArrayOf 16)
    (hubs : Hubs)
    (rounds : Nat) :
    Ends Permitted (Ppp.challengeMsChapV2 hubs rounds challenge w) Authenticated := by
  unfold Ppp.challengeMsChapV2
  refine (sound.challenge challenge 0).bind ?_
  rintro ⟨_, w1⟩ ⟨sound1, last⟩
  refine (sound1.pppRecvResponsePacket (ready_of_challenge last rfl rfl) hubs rounds).bind ?_
  rintro ⟨⟨_, ppRetProtocol⟩, w2⟩ received
  dsimp only
  split
  · exact .ok ⟨received.1, fun ok => nomatch ok⟩
  · rename_i passed
    exact .ok ⟨received.1, fun _ => Bool.eq_true_of_not_eq_false fun no => passed (.inr no)⟩

theorem World.Sound.secondMsChapV2
    {w : World}
    (sound : w.Sound)
    (hubs : Hubs)
    (rounds : Nat) :
    Ends Permitted (Ppp.secondMsChapV2 hubs rounds w) Authenticated := by
  unfold Ppp.secondMsChapV2
  split
  · refine Ends.bind (sound.answer fun _ => rfl) ?_
    rintro ⟨challenge, w1⟩ follows
    exact follows.1.challengeMsChapV2 challenge hubs rounds
  · exact sound.challengeMsChapV2 _ hubs rounds

theorem World.Sound.authenticateMsChapV2
    {w : World}
    (sound : w.Sound)
    (hubs : Hubs)
    (rounds : Nat) :
    Ends Permitted (Ppp.authenticateMsChapV2 hubs rounds w) Authenticated := by
  unfold Ppp.authenticateMsChapV2
  refine (sound.pppRecvResponsePacket (ready_of_ne (by decide)
    (fun ipcp => absurd ipcp (by decide))) hubs rounds).bind ?_
  rintro ⟨_, w1⟩ follows
  dsimp only
  split
  · refine (follows.1.firstMsChapV2 hubs rounds).bind ?_
    exact fun w2 sound2 => sound2.secondMsChapV2 hubs rounds
  · exact follows.1.secondMsChapV2 hubs rounds

/-! ## Communication -/

/-- The session has an IPC, and its address has been determined. -/
def Connected (w : World) : Prop :=
  w.Sound ∧ (∃ ipc, w.session.ipc = some ipc) ∧ AddressDetermined w.history

theorem Connected.of_gate
    {w w' : World}
    (connected : Connected w)
    (same : w'.gate = w.gate) :
    Connected w' := by
  obtain ⟨_, ipc, _, _, history⟩ :
      w'.session.authOk = w.session.authOk ∧ w'.session.ipc = w.session.ipc ∧
        w'.session.useStaticIPAddress = w.session.useStaticIPAddress ∧
        w'.session.clientAddressOption = w.session.clientAddressOption ∧
        w'.history = w.history := by
    simpa [World.gate] using same
  refine ⟨connected.1.keep same, ?_, ?_⟩
  · rw [ipc]
    exact connected.2.1
  · rw [history]
    exact connected.2.2

theorem Connected.useIpc
    {w : World}
    (connected : Connected w) :
    ∃ ipc, w.useIpc = .ok ipc := by
  obtain ⟨ipc, present⟩ := connected.2.1
  exact ⟨ipc, useIpc_eq_ok present⟩

theorem Connected.ask
    {w : World}
    (connected : Connected w) :
    Ends Permitted w.ask fun r => Connected r.2 := by
  have asked : Ends Permitted w.ask fun r => r.2.gate = w.gate :=
    connected.1.answer_gate fun _ => rfl
  exact asked.mono fun _ kept => connected.of_gate kept

theorem Connected.passPackets
    {w : World}
    (connected : Connected w)
    (rounds : Nat) :
    Ends Permitted (Ppp.passPackets rounds w) Connected := by
  induction rounds generalizing w with
  | zero => exact .error connected.1.history
  | succ rounds inductionHypothesis =>
      unfold Ppp.passPackets
      refine (connected.1.communication_gate rounds).bind ?_
      rintro ⟨arrived, w'⟩ kept
      have connected' := connected.of_gate kept
      cases arrived with
      | none => exact .ok connected'
      | some pp =>
          obtain ⟨protocol, body⟩ := pp
          cases body with
          | control lcp => exact inductionHypothesis connected'
          | data bytes =>
              dsimp only
              split
              · obtain ⟨ipc, used⟩ := connected'.useIpc
                rw [used]
                have may : EventSound w'.history (.sentIPv4 bytes) := connected'.2.2
                exact inductionHypothesis
                  ⟨connected'.1.log may, connected'.2.1, connected'.2.2.later _⟩
              · exact inductionHypothesis connected'

theorem Connected.useIpcIf
    {w : World}
    (connected : Connected w)
    (condition : Bool) :
    w.useIpcIf condition = .ok () := by
  obtain ⟨ipc, used⟩ := connected.useIpc
  cases condition with
  | true => simp [World.useIpcIf, used, Except.map]
  | false => rfl

theorem Connected.communicate
    {w : World}
    (connected : Connected w)
    (rounds : Nat) :
    Ends Permitted (Ppp.communicate rounds w) Connected := by
  induction rounds generalizing w with
  | zero => exact .error connected.1.history
  | succ rounds inductionHypothesis =>
      unfold Ppp.communicate
      obtain ⟨ipc, used⟩ := connected.useIpc
      rw [used]
      change Ends Permitted (Ppp.passPackets rounds w >>= _) _
      refine (connected.passPackets rounds).bind ?_
      intro w1 connected1
      refine connected1.ask.bind ?_
      rintro ⟨renew, w2⟩ connected2
      obtain ⟨ipc2, used2⟩ := connected2.useIpc
      dsimp only
      rw [connected2.useIpcIf, used2]
      change Ends Permitted (w2.ask >>= _) _
      refine connected2.ask.bind ?_
      rintro ⟨ends, w3⟩ connected3
      dsimp only
      split
      · exact .ok connected3
      · exact inductionHypothesis connected3

theorem World.Sound.afterAuthentication
    {w : World}
    (sound : w.Sound)
    (ok : w.session.authOk = true)
    (hubs : Hubs)
    (rounds : Nat)
    (nextProtocol : UInt16) :
    Ends Permitted (Ppp.afterAuthentication hubs rounds nextProtocol w) World.Sound := by
  unfold Ppp.afterAuthentication
  split
  · exact .ok sound
  · refine (sound.pppSendRequest (by decide) (fun _ => ok) hubs rounds).bind ?_
    rintro ⟨ret, w1⟩ follows
    dsimp only
    split
    · exact .ok follows.1
    · refine Ends.bind (follows.1.pppContinueCurrentProtocolRequestListening (by decide)
        (fun _ => follows.2.1 ok) hubs rounds) ?_
      rintro ⟨received, w2⟩ after
      dsimp only
      split
      · exact .ok after.1
      · rename_i ipc present
        split
        · exact .ok after.1
        · rename_i nonzero
          have connected : Connected w2 :=
            ⟨after.1, ⟨ipc, present⟩,
              after.1.determined ipc present (Bool.eq_false_of_not_eq_true nonzero)⟩
          have communicated : Ends Permitted
              (communicateIf (received = PPP_PROTOCOL_IP) rounds w2) Connected := by
            unfold communicateIf
            split
            · exact connected.communicate rounds
            · exact .ok connected
          refine communicated.bind ?_
          intro w3 connected3
          rw [connected3.useIpcIf]
          exact .ok connected3.1

/-- A session whose guards agree with its history goes on so, and does not use an IPC that is
missing. -/
theorem World.Sound.pppThread
    {w : World}
    (sound : w.Sound)
    (hubs : Hubs)
    (rounds : Nat) :
    Ends Permitted (Ppp.pppThread hubs rounds w) World.Sound := by
  unfold Ppp.pppThread
  refine (sound.establishLink hubs rounds).bind ?_
  rintro ⟨established, w1⟩ sound1
  dsimp only
  split
  · exact .ok sound1
  · split
    · refine (World.Sound.authenticatePap sound1 hubs rounds).bind ?_
      rintro ⟨nextProtocol, w2⟩ ⟨sound2, ok⟩
      cases nextProtocol with
      | none => exact .ok sound2
      | some nextProtocol => exact sound2.afterAuthentication (ok rfl) hubs rounds nextProtocol
    · refine (World.Sound.authenticateMsChapV2 sound1 hubs rounds).bind ?_
      rintro ⟨nextProtocol, w2⟩ ⟨sound2, ok⟩
      cases nextProtocol with
      | none => exact .ok sound2
      | some nextProtocol => exact sound2.afterAuthentication (ok rfl) hubs rounds nextProtocol

end Ppp
end SoftEther
