import SoftEther.Cedar.Ike.Esp

/-!
# Runs of the IKE server

What holds of every state that the server reaches, and the two packets that break it: an
ESP packet for an SA that has no keys yet, and an ESP packet that merges its client away
and asks for a quick mode.
-/

namespace SoftEther
namespace Ike

open Library

/-- The server is empty at first. -/
theorem Graph.initial : Graph False {} :=
  { ikeSasUnique := List.nodup_nil
    ipsecSasUnique := List.nodup_nil
    ikeSasOld := by simp
    ipsecSasOld := by simp
    clients := by simp
    ikeSas := by simp
    ipsecSas := by simp }

section

variable (algorithms : Algorithms)

/-- How the server may stop at an event. -/
def Stops (ike : IkeServer) (event : Event) (fault : Fault) : Prop :=
  (fault = .danglingClient ∧ MergedAway algorithms ike event) ∨
    (fault = .nullKey ∧ ¬MergedAway algorithms ike event ∧ TooEarly ike event) ∨
    (fault = .nullPacket ∧ ¬MergedAway algorithms ike event)

variable {ike : IkeServer}

theorem proc_ends
    (graph : Graph False ike)
    (event : Event) :
    Ends (Stops algorithms ike event) (proc algorithms ike event) fun after =>
      Graph False after ∧ ¬MergedAway algorithms ike event := by
  have now : ∀ now, Graph False { ike with now := now } := fun _ =>
    graph.of_sameLists rfl rfl rfl rfl
  have packet : ∀ {computation : Except Fault IkeServer},
      ¬MergedAway algorithms ike event →
      Ends (Eq Fault.nullPacket) computation (Graph False) →
      Ends (Stops algorithms ike event) computation fun after =>
        Graph False after ∧ ¬MergedAway algorithms ike event := by
    intro computation stays ends
    exact (ends.permit fun fault null => .inr (.inr ⟨null.symm, stays⟩)).mono
      fun after graph => ⟨graph, stays⟩
  cases event with
  | main arrival header content =>
      exact packet id (procIkeMainModePacketRecv_ends rfl (now arrival.now) arrival header content)
  | aggressive arrival header content =>
      exact packet id
        (procIkeAggressiveModePacketRecv_ends rfl (now arrival.now) arrival header content)
  | quick arrival header content =>
      exact packet id
        (procIkeQuickModePacketRecv_ends rfl algorithms (now arrival.now) arrival header content)
  | informational arrival header content =>
      exact packet id
        (procIkeInformationalExchangePacketRecv_ends (now arrival.now) arrival header content)
  | interrupt interrupt => exact packet id (processIKEInterrupts_ends graph interrupt)
  | esp arrival data =>
      exact (procIPsecEspPacketRecv_ends algorithms (now arrival.now) arrival data).permit
        fun fault stops => stops.imp id .inl

theorem proc_eq_ok_of_step
    {algorithms : Algorithms}
    {before after : IkeServer}
    {event : Event}
    (stepped : step algorithms before event = some after) :
    proc algorithms before event = .ok after := by
  unfold step at stepped
  cases ran : proc algorithms before event with
  | ok other =>
      rw [ran] at stepped
      exact congrArg _ (Option.some.inj stepped)
  | error fault =>
      rw [ran] at stepped
      exact nomatch stepped

theorem Reached.graph
    {algorithms : Algorithms}
    (reached : Reached algorithms ike) :
    Graph False ike := by
  refine reached.invariant (Graph False) .initial ?_
  intro before event after graph _ stepped
  exact ((proc_ends algorithms graph event).of_ok (proc_eq_ok_of_step stepped)).1

def plainAlgorithms : Algorithms where
  calcKeymat := fun _ _ _ _ _ => List.replicate 64 1
  hmac := fun key _ => key
  decrypt := fun _ _ data => data
  service := fun _ _ _ => none

/-- The endpoint of a client at UDP port 500. -/
def endpointOf (host : UInt8) : Endpoint where
  clientIP := { addr := ⟨[10, 0, 0, host], rfl⟩ }
  clientPort := 500
  serverIP := { addr := ⟨[10, 0, 0, 1], rfl⟩ }
  serverPort := 500

/-- A packet of a client. -/
def arrivalFrom (host : UInt8) : Arrival where
  now := 1
  endpoint := endpointOf host
  found := 0

/-- A packet of phase 1 of which everything is right. -/
def rightPhase1 (newCookie : UInt64) : Phase1Content where
  parsed := true
  natTraversal := true
  transform := true
  keyExchange := true
  skeyidD := [7]
  hashRight := true
  dpdRfc3706 := false
  newCookie := newCookie

def aesSha1 : TransformSetting where
  crypto := { blockSize := 16, keySizes := [16, 24, 32] }
  cryptoKeySize := 16
  hashSize := 20
  dh := false
  lifeKilobytes := 0
  spiServerToClient := 9
  capsuleMode := .transport
  keySizeChecked := by decide

/-- The first client establishes an IKE SA by aggressive mode and a pair of IPsec SAs, the
one to the server with SPI 7. -/
def establishing : List Event :=
  [.aggressive (arrivalFrom 2)
      { initiatorCookie := 1, responderCookie := 0, messageId := 0, flagEncrypted := false }
      (rightPhase1 2),
    .aggressive (arrivalFrom 2)
      { initiatorCookie := 1, responderCookie := 2, messageId := 0, flagEncrypted := true }
      (rightPhase1 0),
    .quick (arrivalFrom 2)
      { initiatorCookie := 1, responderCookie := 2, messageId := 3, flagEncrypted := true }
      (.first
        { setting := some aesSha1
          keyPayload := false
          sharedKey := []
          initiatorRand := []
          responderRand := []
          spi := 7 })]

def startingQuickMode : Interrupt where
  now := 2
  ikeSaTimedOut := fun _ => false
  ipsecSaTimedOut := fun _ => false
  quickMode := fun _ => some { messageId := 4, spi := 8, initiatorRand := [] }
  clientTimedOut := fun _ => false
  sends := fun _ => []
  dpd := fun _ => false

/-- A first packet of main mode from the second client. -/
def secondClient : Event :=
  .main (arrivalFrom 3)
    { initiatorCookie := 5, responderCookie := 0, messageId := 0, flagEncrypted := false }
    (rightPhase1 6)

/-- An ESP packet of one block, with a hash that shows the key. -/
def espPacket (spi : UInt8) (sequence : List UInt8) (hash : UInt8) : List UInt8 :=
  [0, 0, 0, spi] ++ sequence ++ List.replicate 32 0 ++ List.replicate IKE_ESP_HASH_SIZE hash

def stateAfter (events : List Event) : IkeServer :=
  (run (step plainAlgorithms) events {}).getD {}

/-- How a computation stops. -/
def faultOf : Except Fault IkeServer → Option Fault
  | .ok _ => none
  | .error fault => some fault

theorem eq_error_of_faultOf
    {computation : Except Fault IkeServer}
    {fault : Fault}
    (stops : faultOf computation = some fault) :
    computation = .error fault := by
  cases computation with
  | ok ike => exact nomatch stops
  | error other => exact congrArg _ (Option.some.inj stops)

theorem reached_stateAfter (events : List Event) :
    Reached plainAlgorithms (stateAfter events) := by
  unfold stateAfter
  cases ran : run (step plainAlgorithms) events {} with
  | none => exact .start
  | some ike => exact .of_run ran

/-- The pointers of the server lead to objects of its lists. -/
structure PointersSound (ike : IkeServer) : Prop where
  clientOfIkeSa : ∀ sa ∈ ike.ikeSaList, ClientAt ike sa.ikeClient
  clientOfIPsecSa : ∀ sa ∈ ike.ipsecSaList, ClientAt ike sa.ikeClient
  ikeSa : ∀ sa ∈ ike.ipsecSaList, ∃ place, sa.ikeSa = some place ∧
    Allocated IkeSa.address ike.ikeSaList place
  pairIPsecSa : ∀ sa ∈ ike.ipsecSaList, ∀ place, sa.pairIPsecSa = some place →
    Allocated IPsecSa.address ike.ipsecSaList place
  currentIkeSa : ∀ c ∈ ike.clientList, ∀ place, c.currentIkeSa = some place →
    Allocated IkeSa.address ike.ikeSaList place
  currentIpSecSaSend : ∀ c ∈ ike.clientList, ∀ place, c.currentIpSecSaSend = some place →
    Allocated IPsecSa.address ike.ipsecSaList place
  currentIpSecSaRecv : ∀ c ∈ ike.clientList, ∀ place, c.currentIpSecSaRecv = some place →
    Allocated IPsecSa.address ike.ipsecSaList place

theorem Graph.pointersSound
    (graph : Graph False ike) :
    PointersSound ike where
  clientOfIkeSa sa listed := (graph.ikeSas sa listed).client
  clientOfIPsecSa sa listed := (graph.ipsecSas sa listed).client
  ikeSa sa listed := by
    obtain ⟨impossible, _⟩ | ⟨place, points, there⟩ := (graph.ipsecSas sa listed).ikeSa
    · exact impossible.elim
    · exact ⟨place, points, there.allocated⟩
  pairIPsecSa sa listed place points :=
    ((graph.ipsecSas sa listed).pairIPsecSa place points).allocated
  currentIkeSa c listed place points :=
    ((graph.clients c listed).currentIkeSa place points).allocated
  currentIpSecSaSend c listed := (graph.clients c listed).currentIpSecSaSend
  currentIpSecSaRecv c listed := (graph.clients c listed).currentIpSecSaRecv

/-- An event follows no pointer to an object that has been freed, and the rounds of the
purge come to an end. -/
def NeverDangles (ike : IkeServer) (event : Event) : Prop :=
  ∀ fault, proc algorithms ike event = .error fault → fault = .nullKey ∨ fault = .nullPacket

/-- Between steps all pointers lead to objects of the lists, and a step follows no pointer
to a freed object unless it is an ESP packet that merges its client away and asks for a
quick mode. -/
theorem pointersSound_iff
    {ike : IkeServer}
    (reached : Reached algorithms ike) :
    PointersSound ike ∧
      ∀ event, NeverDangles algorithms ike event ↔ ¬MergedAway algorithms ike event := by
  have graph := reached.graph
  refine ⟨graph.pointersSound, fun event => ⟨fun sound merged => ?_, fun stays fault ended => ?_⟩⟩
  · have ends := proc_ends algorithms graph event
    cases ran : proc algorithms ike event with
    | ok after => exact (ends.of_ok ran).2 merged
    | error fault =>
        obtain ⟨rfl, _⟩ | ⟨_, stays, _⟩ | ⟨_, stays⟩ := ends.of_error ran
        · simpa using sound _ ran
        · exact stays merged
        · exact stays merged
  · obtain ⟨_, merged⟩ | ⟨null, _⟩ | ⟨null, _⟩ :=
      (proc_ends algorithms graph event).of_error ended
    · exact absurd merged stays
    · exact .inl null
    · exact .inr null

/-- An ESP packet from the endpoint of another client writes to a client that has been
freed. -/
theorem merged_client_written :
    Reached plainAlgorithms (stateAfter (establishing ++ [secondClient])) ∧
      ¬NeverDangles plainAlgorithms (stateAfter (establishing ++ [secondClient]))
        (.esp (arrivalFrom 3) (espPacket 7 [240, 0, 0, 0] 1)) := by
  refine ⟨reached_stateAfter _, fun sound => ?_⟩
  have stops : proc plainAlgorithms (stateAfter (establishing ++ [secondClient]))
      (.esp (arrivalFrom 3) (espPacket 7 [240, 0, 0, 0] 1)) = .error .danglingClient := by
    apply eq_error_of_faultOf
    decide +kernel
  simpa using sound _ stops

/-- The rule after both clients have come. -/
theorem pointersSound_stateAfter :
    PointersSound (stateAfter (establishing ++ [secondClient])) ∧
      (NeverDangles plainAlgorithms (stateAfter (establishing ++ [secondClient]))
          (.esp (arrivalFrom 3) (espPacket 7 [0, 0, 0, 1] 1)) ↔
        ¬MergedAway plainAlgorithms (stateAfter (establishing ++ [secondClient]))
          (.esp (arrivalFrom 3) (espPacket 7 [0, 0, 0, 1] 1))) :=
  have sound := pointersSound_iff plainAlgorithms
    (reached_stateAfter (establishing ++ [secondClient]))
  ⟨sound.1, sound.2 _⟩

def VerifiedWithKeys (ike : IkeServer) (event : Event) : Prop :=
  (∀ arrival data sa, event = .esp arrival data → espSa ike data = some sa → sa.HasKeys) ∧
    proc algorithms ike event ≠ .error .nullKey

/-- An ESP packet is verified with keys unless it comes too early. -/
theorem verifiedWithKeys_iff
    {ike : IkeServer}
    (reached : Reached algorithms ike)
    (event : Event) :
    VerifiedWithKeys algorithms ike event ↔ ¬TooEarly ike event := by
  have graph := reached.graph
  constructor
  · intro verified early
    cases event with
    | esp arrival data =>
        obtain ⟨sa, found, waits⟩ := early
        obtain ⟨listed, direction⟩ := espSa_eq_some found
        obtain ⟨keyMat, _, made, _⟩ := verified.1 arrival data sa rfl found
        have fits := (graph.ipsecSas sa listed).keys direction
        unfold IPsecSa.KeysFit at fits
        rw [if_pos waits] at fits
        exact nomatch made.symm.trans fits
    | _ => exact early
  · intro late
    refine ⟨?_, fun ended => ?_⟩
    · rintro arrival data sa rfl found
      obtain ⟨listed, direction⟩ := espSa_eq_some found
      have fits := (graph.ipsecSas sa listed).keys direction
      have ready : ¬sa.Waiting := fun waits => late ⟨sa, found, waits⟩
      unfold IPsecSa.KeysFit at fits
      rw [if_neg ready] at fits
      exact fits
    · obtain ⟨null, _⟩ | ⟨_, _, early⟩ | ⟨null, _⟩ :=
        (proc_ends algorithms graph event).of_error ended
      · exact nomatch null
      · exact late early
      · exact nomatch null

/-- An ESP packet that is signed with a zero key is decrypted without a key. -/
theorem espPacket_decrypted_without_key :
    Reached plainAlgorithms (stateAfter (establishing ++ [.interrupt startingQuickMode])) ∧
      ¬VerifiedWithKeys plainAlgorithms
        (stateAfter (establishing ++ [.interrupt startingQuickMode]))
        (.esp (arrivalFrom 2) (espPacket 8 [0, 0, 0, 1] 0)) := by
  refine ⟨reached_stateAfter _, fun verified => verified.2 (eq_error_of_faultOf ?_)⟩
  decide +kernel

/-- The rule at the packet that shows its key in time. -/
theorem espPacket_verified_with_keys :
    VerifiedWithKeys plainAlgorithms (stateAfter establishing)
        (.esp (arrivalFrom 2) (espPacket 7 [0, 0, 0, 1] 1)) ↔
      ¬TooEarly (stateAfter establishing) (.esp (arrivalFrom 2) (espPacket 7 [0, 0, 0, 1] 1)) :=
  verifiedWithKeys_iff plainAlgorithms (reached_stateAfter establishing) _

end

end Ike
end SoftEther
