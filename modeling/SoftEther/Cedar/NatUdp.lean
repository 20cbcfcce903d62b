import Mathlib.Data.List.Basic
import SoftEther.Library.Runs

/-!
# UDP entries of the user-mode NAT

`NatTransactUdp` queues what arrives at the socket of an entry, and `PoolingNatUdp` sends it to the
client with a source that it takes from the entry.
-/

namespace SoftEther
namespace NatUdp

open Library

def MAX_NUM_IGNORE_ERRORS : Nat := 1024

def SPECIAL_UDP_PORT_WSD : UInt16 := 3702

def SPECIAL_UDP_PORT_SSDP : UInt16 := 1900

def UDP_HEADER_SIZE : Nat := 8

/-- A datagram of UDP over IPv4 that `RecvFrom` returns. -/
structure Datagram where
  srcIp : UInt32
  srcPort : UInt16
  data : List UInt8
  nonempty : data ≠ []
  short : data.length ≤ 65507

/-- The addresses and ports of a `NAT_ENTRY`, which stay as they are. -/
structure Flow where
  srcIp : UInt32
  srcPort : UInt16
  destIp : UInt32
  destPort : UInt16
  proxyDns : Bool
  destIpProxy : UInt32

/-- A `BLOCK` of `UdpRecvQueue`. -/
structure Block where
  buf : List UInt8
  param1 : UInt32
  origin : Datagram

/-- The fields of `NAT_ENTRY` that change. -/
structure NatEntry where
  disconnectNow : Bool
  udpSocketCreated : Bool
  udpRecvQueue : List Block
  udpSendQueue : List (List UInt8)
  lastCommTime : UInt64

/-- What `RecvFrom` returns before it returns `SOCK_LATER`; with an error the socket tells whether
it can be ignored. -/
inductive Received
  | error (ignoreRecvErr : Bool)
  | datagram (d : Datagram)

/-- The size that the last `SendTo` for a block returns, and whether an error can be ignored. -/
structure Sent where
  size : Nat
  ignoreSendErr : Bool

/-- What the system gives to one call of `NatTransactUdp`. -/
structure Transaction where
  now : UInt64
  natUdpTimeout : UInt32
  /-- `NewUDP` makes a socket. -/
  newUDP : Bool
  received : List Received
  sent : Nat → Sent

/-- The test behind the comment "Check the source IP". -/
def Flow.accepts (n : Flow) (d : Datagram) : Bool :=
  d.srcIp = n.destIp ∨ n.destIp = 0xFFFFFFFF ∨
    (d.srcIp = n.destIpProxy ∧ n.proxyDns) ∧ d.srcPort = n.destPort

def Block.ofDatagram (d : Datagram) : Block where
  buf := d.data
  param1 :=
    if d.srcPort = SPECIAL_UDP_PORT_WSD ∨ d.srcPort = SPECIAL_UDP_PORT_SSDP then d.srcIp else 0
  origin := d

/-- The loop that receives; none is `DISCONNECT`. -/
def recvLoop (n : Flow) (now : UInt64) :
    (numIgnoreErrors : Nat) → List Received → NatEntry → Option NatEntry
  | _, [], entry => some entry
  | numIgnoreErrors, .error ignoreRecvErr :: rest, entry =>
      if ignoreRecvErr = false then none
      else if MAX_NUM_IGNORE_ERRORS < numIgnoreErrors then none
      else recvLoop n now (numIgnoreErrors + 1) rest entry
  | numIgnoreErrors, .datagram d :: rest, entry =>
      if n.accepts d then
        recvLoop n now numIgnoreErrors rest
          { entry with
            udpRecvQueue := entry.udpRecvQueue ++ [.ofDatagram d]
            lastCommTime := now }
      else recvLoop n now numIgnoreErrors rest entry

/-- The loop that sends, from the block with a number on: the new `LastCommTime`. -/
def sendLoop (sent : Nat → Sent) (now : UInt64) :
    (number : Nat) → List (List UInt8) → UInt64 → Option UInt64
  | _, [], lastCommTime => some lastCommTime
  | number, _ :: rest, lastCommTime =>
      if (sent number).size = 0 then
        if (sent number).ignoreSendErr then sendLoop sent now (number + 1) rest lastCommTime
        else none
      else sendLoop sent now (number + 1) rest now

/-- `NatTransactUdp`; without a result the entry has been deleted. -/
def natTransactUdp (n : Flow) (t : Transaction) (entry : NatEntry) : Option NatEntry :=
  if entry.disconnectNow then none
  else if entry.udpSocketCreated = false ∧ t.newUDP = false then none
  else
    match recvLoop n t.now 0 t.received { entry with udpSocketCreated := true } with
    | none => none
    | some entry =>
        match sendLoop t.sent t.now 0 entry.udpSendQueue entry.lastCommTime with
        | none => none
        | some lastCommTime =>
            if lastCommTime + t.natUdpTimeout.toUInt64 < t.now ∨ t.now < lastCommTime then none
            else some { entry with udpSendQueue := [], lastCommTime := lastCommTime }

/-- A UDP packet that `SendIp` gets. -/
structure UdpPacket where
  destIp : UInt32
  destPort : UInt16
  srcIp : UInt32
  srcPort : UInt16
  data : List UInt8

def sendUdp
    (destIp : UInt32)
    (destPort : UInt16)
    (srcIp : UInt32)
    (srcPort : UInt16)
    (data : List UInt8) :
    Option UdpPacket :=
  if 65536 < UDP_HEADER_SIZE + data.length then none
  else
    some
      { destIp := destIp, destPort := destPort, srcIp := srcIp, srcPort := srcPort, data := data }

/-- The source address that `PoolingNatUdp` shows. -/
def Flow.shownIp (n : Flow) (hostIP : UInt32) (block : Block) : UInt32 :=
  if block.param1 ≠ 0 then block.param1
  else if n.destIp = 0xFFFFFFFF then hostIP
  else n.destIp

/-- A packet for the client, with the block it was made from and the address of the virtual host at
that time. -/
structure Forwarded where
  hostIP : UInt32
  origin : Datagram
  packet : UdpPacket

/-- One round of the loop of `PoolingNatUdp`. -/
def Flow.forward (n : Flow) (hostIP : UInt32) (block : Block) : Option Forwarded :=
  (sendUdp n.srcIp n.srcPort (n.shownIp hostIP block) n.destPort block.buf).map fun packet =>
    { hostIP := hostIP, origin := block.origin, packet := packet }

/-- `PoolingNatUdp`: the entry and the packets. -/
def poolingNatUdp (n : Flow) (hostIP : UInt32) (entry : NatEntry) : NatEntry × List Forwarded :=
  ({ entry with udpRecvQueue := [] }, entry.udpRecvQueue.filterMap (n.forward hostIP))

/-! ## The life of an entry -/

/-- The entry while it is in the table, and what has been sent to the client. -/
structure State where
  entry : Option NatEntry
  forwarded : List Forwarded

inductive Event
  /-- `UdpRecvForInternet` with a packet of the client. -/
  | send (data : List UInt8)
  /-- `DisconnectNatEntryNow`. -/
  | disconnect
  | transact (t : Transaction)
  | pool (hostIP : UInt32)

def step (n : Flow) (state : State) (event : Event) : Option State :=
  state.entry.map fun entry =>
    match event with
    | .send data =>
        { state with entry := some { entry with udpSendQueue := entry.udpSendQueue ++ [data] } }
    | .disconnect => { state with entry := some { entry with disconnectNow := true } }
    | .transact t => { state with entry := natTransactUdp n t entry }
    | .pool hostIP =>
        { entry := some (poolingNatUdp n hostIP entry).1
          forwarded := state.forwarded ++ (poolingNatUdp n hostIP entry).2 }

/-- `CreateNatUdp`. -/
def created (now : UInt64) : State where
  entry := some
    { disconnectNow := false
      udpSocketCreated := false
      udpRecvQueue := []
      udpSendQueue := []
      lastCommTime := now }
  forwarded := []

/-- What arrives at the socket comes from a network with some datagrams. -/
def From (network : Datagram → Prop) (_ : State) (event : Event) : Prop :=
  ∀ t, event = .transact t → ∀ d, .datagram d ∈ t.received → network d

/-- The datagram comes from where it may come from, and the client sees its source, or one of the
documented substitutes. -/
structure Forwarded.Right (n : Flow) (f : Forwarded) : Prop where
  port : f.origin.srcPort = n.destPort
  address :
    f.origin.srcIp = n.destIp ∨ (n.proxyDns ∧ f.origin.srcIp = n.destIpProxy) ∨
      n.destIp = 0xFFFFFFFF
  shownPort : f.packet.srcPort = f.origin.srcPort
  shownIp :
    f.packet.srcIp = f.origin.srcIp ∨ (n.destIp = 0xFFFFFFFF ∧ f.packet.srcIp = f.hostIP) ∨
      (n.proxyDns ∧ f.origin.srcIp = n.destIpProxy ∧ f.packet.srcIp = n.destIp)

variable {n : Flow} {network : Datagram → Prop}

/-! ## What is in the queue -/

def Block.Queued (network : Datagram → Prop) (n : Flow) (block : Block) : Prop :=
  ∃ d, block = .ofDatagram d ∧ n.accepts d = true ∧ network d

def NatEntry.Queued (network : Datagram → Prop) (n : Flow) (entry : NatEntry) : Prop :=
  ∀ block ∈ entry.udpRecvQueue, block.Queued network n

theorem queued_recvLoop
    {now : UInt64}
    {numIgnoreErrors : Nat}
    {received : List Received}
    {entry after : NatEntry}
    (queued : entry.Queued network n)
    (arrive : ∀ d, .datagram d ∈ received → network d)
    (looped : recvLoop n now numIgnoreErrors received entry = some after) :
    after.Queued network n := by
  fun_induction recvLoop n now numIgnoreErrors received entry with
  | case1 => rwa [← Option.some.inj looped]
  | case2 => cases looped
  | case3 => cases looped
  | case4 _ _ _ _ _ _ inductionHypothesis =>
      exact inductionHypothesis queued (fun d listed => arrive d (List.mem_cons_of_mem _ listed))
        looped
  | case5 _ d _ entry accepted inductionHypothesis =>
      apply inductionHypothesis _ (fun d listed => arrive d (List.mem_cons_of_mem _ listed)) looped
      intro block listed
      obtain before | new := List.mem_append.mp listed
      · exact queued block before
      · rw [List.mem_singleton.mp new]
        exact ⟨d, rfl, accepted, arrive d List.mem_cons_self⟩
  | case6 _ _ _ _ _ inductionHypothesis =>
      exact inductionHypothesis queued (fun d listed => arrive d (List.mem_cons_of_mem _ listed))
        looped

theorem queued_natTransactUdp
    {t : Transaction}
    {entry after : NatEntry}
    (queued : entry.Queued network n)
    (arrive : ∀ d, .datagram d ∈ t.received → network d)
    (transacted : natTransactUdp n t entry = some after) :
    after.Queued network n := by
  unfold natTransactUdp at transacted
  split at transacted
  · cases transacted
  · split at transacted
    · cases transacted
    · cases looped : recvLoop n t.now 0 t.received { entry with udpSocketCreated := true } with
      | none => simp [looped] at transacted
      | some received =>
          have open_ : NatEntry.Queued network n { entry with udpSocketCreated := true } := queued
          have still := queued_recvLoop open_ arrive looped
          simp only [looped] at transacted
          split at transacted
          · cases transacted
          · split at transacted
            · cases transacted
            · rwa [← Option.some.inj transacted]

/-! ## What is sent to the client -/

theorem forward_ofDatagram (hostIP : UInt32) (d : Datagram) :
    n.forward hostIP (.ofDatagram d) =
      some
        { hostIP := hostIP
          origin := d
          packet :=
            { destIp := n.srcIp
              destPort := n.srcPort
              srcIp := n.shownIp hostIP (.ofDatagram d)
              srcPort := n.destPort
              data := d.data } } := by
  have fits : ¬ 65536 < UDP_HEADER_SIZE + (Block.ofDatagram d).buf.length :=
    Nat.not_lt.mpr (Nat.le_trans (Nat.add_le_add_left d.short 8) (by decide))
  rw [Flow.forward, sendUdp, if_neg fits]
  rfl

/-- A packet that was made for a datagram of the network. -/
def Forwarded.Made (network : Datagram → Prop) (n : Flow) (f : Forwarded) : Prop :=
  ∃ hostIP d, n.accepts d = true ∧ network d ∧ n.forward hostIP (.ofDatagram d) = some f

structure State.Genuine (network : Datagram → Prop) (n : Flow) (state : State) : Prop where
  queued : ∀ entry, state.entry = some entry → entry.Queued network n
  made : ∀ f ∈ state.forwarded, f.Made network n

theorem genuine_created (now : UInt64) : (created now).Genuine network n where
  queued entry is := by
    cases is
    exact fun _ listed => absurd listed List.not_mem_nil
  made _ listed := absurd listed List.not_mem_nil

theorem genuine_step
    {state after : State}
    {event : Event}
    (genuine : state.Genuine network n)
    (arrive : From network state event)
    (stepped : step n state event = some after) :
    after.Genuine network n := by
  obtain ⟨entry, present, rfl⟩ := Option.map_eq_some_iff.mp stepped
  have queued := genuine.queued entry present
  cases event with
  | send data =>
      refine ⟨fun entry is => ?_, genuine.made⟩
      cases is
      exact queued
  | disconnect =>
      refine ⟨fun entry is => ?_, genuine.made⟩
      cases is
      exact queued
  | transact t =>
      exact ⟨fun entry is => queued_natTransactUdp queued (arrive t rfl) is, genuine.made⟩
  | pool hostIP =>
      refine ⟨fun entry is => ?_, fun f listed => ?_⟩
      · cases is
        exact fun _ listed => absurd listed List.not_mem_nil
      · obtain before | new := List.mem_append.mp listed
        · exact genuine.made f before
        · obtain ⟨block, inQueue, forwarded⟩ := List.mem_filterMap.mp new
          obtain ⟨d, rfl, accepted, received⟩ := queued block inQueue
          exact ⟨hostIP, d, accepted, received, forwarded⟩

/-- A datagram for which the precedence of the operators does not matter: it comes from the port of
the entry, or the entry is for one other address. -/
def Flow.Clear (n : Flow) (d : Datagram) : Prop :=
  d.srcPort = n.destPort ∨ d.srcIp ≠ n.destIp ∧ n.destIp ≠ 0xFFFFFFFF

theorem shownIp_ofDatagram
    {d : Datagram}
    (accepted : n.accepts d = true)
    (hostIP : UInt32) :
    n.shownIp hostIP (.ofDatagram d) = d.srcIp ∨
      (n.destIp = 0xFFFFFFFF ∧ n.shownIp hostIP (.ofDatagram d) = hostIP) ∨
        (n.proxyDns ∧ d.srcIp = n.destIpProxy ∧
          n.shownIp hostIP (.ofDatagram d) = n.destIp) := by
  have param1 : (Block.ofDatagram d).param1 = d.srcIp ∨ (Block.ofDatagram d).param1 = 0 := by
    simp only [Block.ofDatagram]
    split <;> simp
  unfold Flow.shownIp
  split
  case isTrue special =>
    exact .inl (param1.resolve_right special)
  case isFalse =>
    split
    case isTrue all => exact .inr (.inl ⟨all, rfl⟩)
    case isFalse notAll =>
      obtain fromDest | all | ⟨⟨fromProxy, proxy⟩, _⟩ := of_decide_eq_true accepted
      · exact .inl fromDest.symm
      · exact absurd all notAll
      · exact .inr (.inr ⟨proxy, fromProxy, rfl⟩)

theorem right_of_made
    {f : Forwarded}
    (made : f.Made network n)
    (clear : ∀ d, network d → n.Clear d) :
    f.Right n := by
  obtain ⟨hostIP, d, accepted, received, forwarded⟩ := made
  rw [forward_ofDatagram] at forwarded
  obtain rfl := Option.some.inj forwarded
  have alternatives := of_decide_eq_true accepted
  have port : d.srcPort = n.destPort := by
    obtain fromPort | ⟨fromOther, notAll⟩ := clear d received
    · exact fromPort
    · obtain fromDest | all | ⟨_, port⟩ := alternatives
      · exact absurd fromDest fromOther
      · exact absurd all notAll
      · exact port
  refine ⟨port, ?_, port.symm, shownIp_ofDatagram accepted hostIP⟩
  obtain fromDest | all | ⟨⟨fromProxy, proxy⟩, _⟩ := alternatives
  · exact .inl fromDest
  · exact .inr (.inr all)
  · exact .inr (.inl ⟨proxy, fromProxy⟩)

/-! ## One datagram -/

def arrival (d : Datagram) : Transaction where
  now := 0
  natUdpTimeout := 0
  newUDP := true
  received := [.datagram d]
  sent _ := { size := 1, ignoreSendErr := true }

theorem step_arrival
    {d : Datagram}
    (accepted : n.accepts d = true)
    (now : UInt64) :
    step n (created now) (.transact (arrival d)) =
      some
        { entry := some
            { disconnectNow := false
              udpSocketCreated := true
              udpRecvQueue := [.ofDatagram d]
              udpSendQueue := []
              lastCommTime := 0 }
          forwarded := [] } := by
  simp [step, created, arrival, natTransactUdp, recvLoop, sendLoop, accepted]

theorem reaches_forwarded
    {d : Datagram}
    (accepted : n.accepts d = true)
    (received : network d)
    (now : UInt64)
    (hostIP : UInt32) :
    ∃ state, Reaches (step n) (From network) (created now) state ∧
      ∃ f ∈ state.forwarded, f.origin = d ∧ f.packet.srcPort = n.destPort := by
  have arrived : From network (created now) (.transact (arrival d)) := by
    intro t is other listed
    cases is
    cases List.mem_singleton.mp listed
    exact received
  have nothing (state : State) : From network state (.pool hostIP) := by
    intro t is
    cases is
  have queued := Reaches.start.next arrived (step_arrival accepted now)
  refine ⟨_, queued.next (nothing _) rfl, ?_⟩
  simp [poolingNatUdp, forward_ofDatagram]

/-- Whatever the network sends to the socket of an entry, what gets to the client is right, if and
only if no datagram takes advantage of the precedence. -/
theorem forwards_right_iff
    (n : Flow)
    (network : Datagram → Prop)
    (now : UInt64) :
    (∀ state, Reaches (step n) (From network) (created now) state →
        ∀ f ∈ state.forwarded, f.Right n) ↔
      ∀ d, network d → n.Clear d := by
  constructor
  · intro right d received
    by_contra unclear
    obtain ⟨otherPort, precedence⟩ := not_or.mp unclear
    have accepted : n.accepts d = true := by
      apply decide_eq_true
      by_cases fromDest : d.srcIp = n.destIp
      · exact .inl fromDest
      · exact .inr (.inl (Decidable.not_not.mp fun notAll => precedence ⟨fromDest, notAll⟩))
    obtain ⟨state, reached, f, listed, rfl, shown⟩ := reaches_forwarded accepted received now 0
    exact otherPort (right state reached f listed).port
  · intro clear state reached f listed
    have genuine := reached.invariant (State.Genuine network n) (genuine_created now)
      fun _ _ _ before arrive stepped => genuine_step before arrive stepped
    exact right_of_made (genuine.made f listed) clear

/-- A client has asked a name server. -/
def query : Flow where
  srcIp := 0xC0A81E0A
  srcPort := 5000
  destIp := 0x08080808
  destPort := 53
  proxyDns := false
  destIpProxy := 0

/-- Port 1234 of the name server answers in the place of its port 53. -/
theorem not_forwards_right :
    ∃ state, Reaches (step query) (From fun _ => True) (created 0) state ∧
      ∃ f ∈ state.forwarded, ¬ f.Right query := by
  obtain ⟨state, reached, f, listed, origin, _⟩ :=
    @reaches_forwarded query (fun _ => True)
      { srcIp := 0x08080808
        srcPort := 1234
        data := [0]
        nonempty := List.cons_ne_nil _ _
        short := by decide }
      (by decide) trivial 0 0
  refine ⟨state, reached, f, listed, fun right => ?_⟩
  have port := right.port
  simp [query, origin] at port

end NatUdp
end SoftEther
