import SoftEther.Cedar.Ppp.Gating

/-!
# Runs of a PPP session

What the invariant of the guards says about the history of a session from its start.  The
session gets all its packets and answers at the start, and asks for them one after the other;
so a theorem about every start is about every order of packets and answers.
-/

namespace SoftEther
namespace Ppp

open Network
open Library

/-- The answers that a session gets. -/
structure Answers where
  arrivals : List (Option PppPacket) := []
  /-- Whether a tube is connected, a packet can be sent, or time is up. -/
  choices : List Bool := []
  /-- What `NewIPC` returns. -/
  newIpcs : List NewIpc := []
  /-- What `HubNewEapClient` returns. -/
  eapClients : List (Option (ByteArrayOf 8 × ByteArrayOf 16)) := []
  challenges : List (ByteArrayOf 16) := []
  /-- What `IPCDhcpRequestInformIP` returns. -/
  informs : List (Option DhcpOptionList) := []
  /-- What `IPCDhcpAllocateIP` returns. -/
  allocations : List (Option DhcpOptionList) := []

/-- `NewPPPSession`, with the single or the double challenge procedure. -/
def World.start (useDoubleMsChapV2 : Bool) (answers : Answers) : World where
  session := { msChapV2UseDoubleMsChapV2 := useDoubleMsChapV2 }
  arrivals := answers.arrivals
  choices := answers.choices
  newIpcs := answers.newIpcs
  eapClients := answers.eapClients
  challenges := answers.challenges
  informs := answers.informs
  allocations := answers.allocations

theorem World.Sound.start
    (useDoubleMsChapV2 : Bool)
    (answers : Answers) :
    (World.start useDoubleMsChapV2 answers).Sound := by
  constructor
  · trivial
  · intro ok
    exact nomatch ok
  · intro ipc present
    exact nomatch present
  · intro _
    exact ⟨rfl, fun nonzero => absurd rfl nonzero⟩

/-- The session goes on or stops with such a history, and does not use an IPC that is
missing. -/
def Keeps (property : List Event → Prop) (run : Except Stop World) : Prop :=
  Ends
    (fun stop =>
      match stop with
      | .nullIpc => False
      | .waiting w => property w.history)
    run fun w => property w.history

theorem keeps_of_historySound
    {property : List Event → Prop}
    (implies : ∀ history, HistorySound history → property history)
    (hubs : Hubs)
    (rounds : Nat)
    (useDoubleMsChapV2 : Bool)
    (answers : Answers) :
    Keeps property (pppThread hubs rounds (.start useDoubleMsChapV2 answers)) := by
  have run := (World.Sound.start useDoubleMsChapV2 answers).pppThread hubs rounds
  refine (run.permit ?_).mono fun w sound => implies w.history sound.history
  intro stop permitted
  cases stop with
  | nullIpc => exact permitted
  | waiting w => exact implies w.history permitted

/-- An address is acknowledged only when it is the one in the IPC, which under `DHCPForce` has
been allocated by DHCP; and an IP packet is passed on only after an authentication and after
the address has been determined. -/
structure Gated (history : List Event) : Prop where
  acknowledged : ∀ late early req ret ipc,
    history = late ++ .answered PPP_PROTOCOL_IPCP req ret ipc :: early →
      ret.code = PPP_LCP_CODE_ACK →
        ∀ opt ∈ req.optionList, opt.type = PPP_IPCP_OPTION_IP →
          ∃ i, ipc = some i ∧ opt.data = i.clientIPAddress.addr.val ∧
            (i.dhcpForce = true → Event.allocated (ipToUINT i.clientIPAddress) ∈ early)
  sent : ∀ late early data, history = late ++ .sentIPv4 data :: early →
    ∃ between address before, early = between ++ .determined address :: before ∧
      Event.authenticated ∈ before

/-- Whatever a client sends and whatever `NewIPC` and DHCP return, the session does not use an
IPC that is missing, and its history is gated. -/
theorem pppThread_gated
    (hubs : Hubs)
    (rounds : Nat)
    (useDoubleMsChapV2 : Bool)
    (answers : Answers) :
    Keeps Gated (pppThread hubs rounds (.start useDoubleMsChapV2 answers)) := by
  apply keeps_of_historySound
  intro history sound
  constructor
  · rintro late early req ret ipc rfl ack
    exact sound.event rfl ack
  · rintro late early data rfl
    exact sound.event

/-- An answer is tried out only as a CHAP response to the challenge that was sent last. -/
def AttemptsCurrent (history : List Event) : Prop :=
  ∀ late early data code id, history = late ++ .attempted (.chap data) code id :: early →
    code = PPP_CHAP_CODE_RESPONSE ∧ latestChallenge early = some id

/-- When every answer comes in time, each one that is tried out answers the challenge that was
sent last. -/
theorem pppThread_attemptsCurrent
    (hubs : Hubs)
    (rounds : Nat)
    (useDoubleMsChapV2 : Bool)
    (answers : Answers) :
    Keeps (fun history => (∀ event ∈ history, InTime event) → AttemptsCurrent history)
      (pppThread hubs rounds (.start useDoubleMsChapV2 answers)) := by
  apply keeps_of_historySound
  rintro history sound inTime late early data code id rfl
  apply sound.event
  intro event before
  exact inTime event (List.mem_append_right late (List.mem_cons_of_mem _ before))

/-- `AttemptsCurrent`, computed. -/
def attemptsCurrent : List Event → Bool
  | [] => true
  | event :: past =>
      attemptsCurrent past &&
        match event with
        | .attempted (.chap _) code id =>
            decide (code = PPP_CHAP_CODE_RESPONSE ∧ latestChallenge past = some id)
        | _ => true

theorem AttemptsCurrent.computed
    {history : List Event}
    (current : AttemptsCurrent history) :
    attemptsCurrent history = true := by
  induction history with
  | nil => rfl
  | cons event past inductionHypothesis =>
      have before : attemptsCurrent past = true := by
        apply inductionHypothesis
        rintro late early data code id rfl
        exact current (event :: late) early data code id rfl
      unfold attemptsCurrent
      rw [before, Bool.true_and]
      split
      · exact decide_eq_true (current [] past _ _ _ rfl)
      · rfl

/-- A client that has turned down PAP, and sends its answer to the first challenge of the
double challenge procedure twice. -/
def answersTwice : Answers :=
  let answer : PppLcp :=
    { code := PPP_CHAP_CODE_RESPONSE, id := 99, data := 49 :: List.replicate 50 97 }
  let packet := fun protocol lcp => some { protocol := protocol, body := .control lcp }
  { arrivals :=
      [packet PPP_PROTOCOL_LCP { code := PPP_LCP_CODE_NAK, id := 0 },
        packet PPP_PROTOCOL_LCP { code := PPP_LCP_CODE_ACK, id := 1 },
        packet PPP_PROTOCOL_LCP { code := PPP_LCP_CODE_REQ, id := 1 },
        none,
        packet PPP_PROTOCOL_CHAP answer,
        packet PPP_PROTOCOL_CHAP answer]
    choices :=
      [true, true, true, true, true, true, true, false, false, true, true, true, true, true]
    newIpcs := [.null false]
    eapClients := [none]
    challenges := [⟨List.replicate 16 1, rfl⟩, ⟨List.replicate 16 2, rfl⟩] }

/-- The second copy is tried out against the second challenge, and the session fails. -/
theorem answersTwice_fails :
    ¬∀ hubs rounds useDoubleMsChapV2 answers,
      Keeps AttemptsCurrent (pppThread hubs rounds (.start useDoubleMsChapV2 answers)) := by
  intro all
  have kept := all { isHubExists := fun _ => false, l2tpDefaultHub := .ofBuffer [] } 9 true
    answersTwice
  have run :
      ((pppThread { isHubExists := fun _ => false, l2tpDefaultHub := .ofBuffer [] } 9
        (.start true answersTwice)).toOption.map fun w => attemptsCurrent w.history) =
        some false := by
    decide +kernel
  generalize pppThread _ 9 (.start true answersTwice) = ends at kept run
  cases ends with
  | error stop => exact nomatch run
  | ok w =>
      injection run with failed
      exact nomatch (AttemptsCurrent.computed kept).symm.trans failed

end Ppp
end SoftEther
