import SoftEther.Cedar.Policy
import SoftEther.Library.KeyedTables
import SoftEther.Library.Runs
import SoftEther.Mayaqua.Memory

/-!
# Additional connections of a session

The branch `additional_connect` of `ServerAccept`, which adds a TCP connection to a session
in tunneling mode, with the number of connections that a login grants and the places where
`ConnectionSend` and `ConnectionReceive` drop a connection.

The keys for RC4 and for bulk transfer over R-UDP, which the answer carries, are left out.
-/

namespace SoftEther
namespace AdditionalConnect

open Library

def MAX_TCP_CONNECTION : Nat := 32

def NUM_TCP_CONNECTION_FOR_UDP_RECOVERY : Nat := 2

abbrev SessionKey := ByteArrayOf 20

/-- `Direction` of a `TCPSOCK`. -/
inductive Direction
  /-- `TCP_BOTH`. -/
  | both
  /-- `TCP_SERVER_TO_CLIENT`. -/
  | serverToClient
  /-- `TCP_CLIENT_TO_SERVER`. -/
  | clientToServer
  deriving DecidableEq

structure TcpSock where
  sock : Nat
  direction : Direction := .both
  deriving DecidableEq

/-- `Protocol` of a `CONNECTION`. -/
inductive Protocol
  /-- `CONNECTION_TCP`. -/
  | tcp
  /-- `CONNECTION_UDP`. -/
  | udp
  deriving DecidableEq

/-- The errors of a request. -/
inductive Err
  /-- `ERR_PROTOCOL_ERROR`. -/
  | protocolError
  /-- `ERR_SESSION_TIMEOUT`. -/
  | sessionTimeout
  /-- `ERR_INVALID_PROTOCOL`. -/
  | invalidProtocol
  /-- `ERR_TOO_MANY_CONNECTION`. -/
  | tooManyConnection
  deriving DecidableEq

/-- A `SESSION` of the server with its `CONNECTION`. -/
structure Session where
  sessionKey : SessionKey
  /-- `Policy`. -/
  policyMaxConnection : Nat
  maxConnection : Nat
  halfConnection : Bool
  noReconnectToSession : Bool
  /-- `Protocol` of the connection. -/
  protocol : Protocol
  halt : Bool := false
  /-- `CurrentNumConnection` of the connection. -/
  currentNumConnection : Nat
  /-- `TcpSockList` of the connection. -/
  tcpSockList : List TcpSock
  ref : Nat
  deriving DecidableEq

/-- What a login says about its connections. -/
structure Login where
  maxConnection : UInt32
  halfConnection : Bool
  /-- `qos`, as far as the policy, the server and the hub allow it. -/
  qos : Bool
  noReconnectToSession : Bool
  /-- `IsRUDPSocket` of the first socket. -/
  isRUDPSocket : Bool
  enableUdpRecovery : Bool
  deriving DecidableEq

/-- `policy->MaxConnection`; 0 stands for the maximum. -/
def policyMaxConnection (policy : Policy) : Nat :=
  if policy.maxConnection = 0 then MAX_TCP_CONNECTION else policy.maxConnection.toNat

def Login.overUdp (l : Login) : Login :=
  if l.isRUDPSocket then
    { l with
      halfConnection := false
      qos := false
      noReconnectToSession := !l.enableUdpRecovery }
  else l

/-- The number of connections that the policy allows of those that are asked for. -/
def Login.allowed (policy : Policy) (l : Login) : Nat :=
  max (min (min l.maxConnection.toNat (policyMaxConnection policy)) MAX_TCP_CONNECTION) 1

/-- The number of connections that the modes of the login need. -/
def Login.needed (l : Login) : Nat :=
  if l.qos then if l.halfConnection then 4 else 2
  else if l.halfConnection then 2 else 0

/-- The number of connections that a login takes whatever the policy allows. -/
def Login.required (l : Login) : Nat :=
  if l.isRUDPSocket then
    if l.enableUdpRecovery then NUM_TCP_CONNECTION_FOR_UDP_RECOVERY else 1
  else l.needed

/-- `max_connection` of the session. -/
def Login.granted (policy : Policy) (l : Login) : Nat :=
  if l.isRUDPSocket then
    if l.enableUdpRecovery then NUM_TCP_CONNECTION_FOR_UDP_RECOVERY else 1
  else max (l.allowed policy) l.needed

/-- The session of a login after `StartTunnelingMode`. -/
def Login.session (policy : Policy) (sessionKey : SessionKey) (sock : Nat) (l : Login) :
    Session where
  sessionKey := sessionKey
  policyMaxConnection := policyMaxConnection policy
  maxConnection := l.granted policy
  halfConnection := l.overUdp.halfConnection
  noReconnectToSession := l.overUdp.noReconnectToSession
  protocol := .tcp
  currentNumConnection := 1
  tcpSockList :=
    [{ sock := sock
       direction := if l.overUdp.halfConnection then .clientToServer else .both }]
  -- One reference of the thread, and one of the list of the hub.
  ref := 2

inductive Answer
  | refused (err : Err)
  | added (direction : Direction)
  deriving DecidableEq

def Session.newDirection (s : Session) : Direction :=
  if s.halfConnection then
    let s2c := s.tcpSockList.countP fun ts => ts.direction = .serverToClient
    let c2s := s.tcpSockList.countP fun ts => ts.direction ≠ .serverToClient
    if c2s < s2c then .clientToServer else .serverToClient
  else .both

/-- The request after `GetSessionFromKey` has found the session and referenced it. -/
def Session.additionalConnect (s : Session) (sock : Nat) : Session × Answer :=
  -- The reference is not released here.
  if s.halt ∨ s.noReconnectToSession then (s, .refused .sessionTimeout)
  else if s.protocol ≠ .tcp then ({ s with ref := s.ref - 1 }, .refused .invalidProtocol)
  else if s.maxConnection < s.currentNumConnection then
    ({ s with ref := s.ref - 1 }, .refused .tooManyConnection)
  else
    ({ s with
      tcpSockList := s.tcpSockList ++ [{ sock := sock, direction := s.newDirection }]
      currentNumConnection := s.currentNumConnection + 1
      ref := s.ref - 1 },
    .added s.newDirection)

def Session.disconnect (s : Session) (ts : TcpSock) : Session :=
  { s with
    tcpSockList := s.tcpSockList.erase ts
    currentNumConnection := s.currentNumConnection - 1 }

/-- `GetSessionFromKey`: the place of the first session with a key. -/
def getSessionFromKey (sessions : List Session) (sessionKey : SessionKey) : Option Nat :=
  sessions.findIdx? fun s => s.sessionKey = sessionKey

/-- A request, which may carry no key. -/
def additionalConnect (sessions : List Session) (sessionKey : Option SessionKey)
    (sock : Nat) : List Session × Answer :=
  match sessionKey with
  | none => (sessions, .refused .protocolError)
  | some sessionKey =>
      match getSessionFromKey sessions sessionKey with
      | none => (sessions, .refused .sessionTimeout)
      | some place =>
          match sessions[place]? with
          | none => (sessions, .refused .sessionTimeout)
          | some s =>
              let (after, answer) :=
                ({ s with ref := s.ref + 1 } : Session).additionalConnect sock
              (sessions.set place after, answer)

/-- What happens to the sessions of a server. -/
inductive Event
  | login (policy : Policy) (sessionKey : SessionKey) (sock : Nat) (l : Login)
  | additionalConnect (sessionKey : Option SessionKey) (sock : Nat)
  /-- `ConnectionSend` or `ConnectionReceive` finds a connection disconnected. -/
  | disconnect (place : Nat) (ts : TcpSock)
  | halt (place : Nat)
  | reference (place ref : Nat)
  | leave (place : Nat)

def step (sessions : List Session) : Event → Option (List Session)
  | .login policy sessionKey sock l => some (l.session policy sessionKey sock :: sessions)
  | .additionalConnect sessionKey sock => some (additionalConnect sessions sessionKey sock).1
  | .disconnect place ts =>
      match sessions[place]? with
      | none => none
      | some s => if ts ∈ s.tcpSockList then some (sessions.set place (s.disconnect ts)) else none
  | .halt place => some (sessions.modify place fun s => { s with halt := true })
  | .reference place ref => some (sessions.modify place fun s => { s with ref := ref })
  | .leave place => some (sessions.eraseIdx place)

/-! ## Sound sessions -/

/-- What holds of a session: the count is the number of connections, and within the number
that was granted, which is within the policy. -/
structure Session.Sound (s : Session) : Prop where
  /-- `CurrentNumConnection` counts the entries of `TcpSockList`. -/
  counted : s.currentNumConnection = s.tcpSockList.length
  /-- `MaxConnection` bounds the count. -/
  bounded : s.currentNumConnection ≤ s.maxConnection
  /-- The policy bounds `MaxConnection`. -/
  withinPolicy : s.maxConnection ≤ s.policyMaxConnection

def requested (sessions : List Session) : Option SessionKey → Option Session
  | none => none
  | some sessionKey =>
      (getSessionFromKey sessions sessionKey).bind fun place => sessions[place]?

/-- Requests are for sessions that are not halted. -/
def IsLive (sessions : List Session) : Event → Prop
  | .additionalConnect sessionKey _ =>
      ∀ s ∈ requested sessions sessionKey, s.halt = false
  | _ => True

/-- The policy allows the connections that a login needs; a request is for a session that
may be reconnected to and does not have all its connections yet. -/
def HasRoom (sessions : List Session) : Event → Prop
  | .login policy _ _ l => l.required ≤ policyMaxConnection policy
  | .additionalConnect sessionKey _ =>
      ∀ s ∈ requested sessions sessionKey,
        s.noReconnectToSession = false ∧ s.currentNumConnection ≠ s.maxConnection
  | _ => True

instance (sessions : List Session) (event : Event) : Decidable (IsLive sessions event) := by
  cases event <;> unfold IsLive <;> infer_instance

instance (sessions : List Session) (event : Event) : Decidable (HasRoom sessions event) := by
  cases event <;> unfold HasRoom <;> infer_instance

theorem policyMaxConnection_pos (policy : Policy) : 1 ≤ policyMaxConnection policy := by
  unfold policyMaxConnection
  split
  case isTrue => decide
  case isFalse positive =>
    have nonzero : policy.maxConnection.toNat ≠ 0 := fun zero =>
      positive (UInt32.toNat_inj.mp zero)
    omega

theorem Login.session_sound
    {policy : Policy}
    {sessionKey : SessionKey}
    {sock : Nat}
    {l : Login}
    (room : l.required ≤ policyMaxConnection policy) :
    (l.session policy sessionKey sock).Sound := by
  have positive := policyMaxConnection_pos policy
  have granted : 1 ≤ l.granted policy ∧ l.granted policy ≤ policyMaxConnection policy := by
    unfold Login.required at room
    unfold Login.granted
    by_cases overUdp : l.isRUDPSocket = true
    · rw [if_pos overUdp] at room ⊢
      refine ⟨?_, room⟩
      split
      · decide
      · exact Nat.le_refl 1
    · rw [if_neg overUdp] at room ⊢
      unfold Login.allowed
      omega
  exact ⟨rfl, granted.1, granted.2⟩

theorem Session.additionalConnect_cases
    {s : Session}
    (sock : Nat)
    (sound : s.Sound)
    (live : s.halt = false)
    (reconnect : s.noReconnectToSession = false)
    (room : s.currentNumConnection ≠ s.maxConnection) :
    (∃ err, ({ s with ref := s.ref + 1 } : Session).additionalConnect sock =
      (s, .refused err)) ∨
    ∃ after direction, ({ s with ref := s.ref + 1 } : Session).additionalConnect sock =
      (after, .added direction) ∧ after.Sound ∧ after.ref = s.ref := by
  have bounded := sound.bounded
  have open_ : ¬(s.halt = true ∨ s.noReconnectToSession = true) := by
    simp [live, reconnect]
  unfold Session.additionalConnect
  dsimp only
  rw [if_neg open_]
  by_cases tcp : s.protocol = .tcp
  · rw [if_neg (not_not.mpr tcp), if_neg (Nat.not_lt.mpr bounded)]
    refine .inr ⟨_, _, rfl, ⟨?_, ?_, sound.withinPolicy⟩, rfl⟩
    · simp [sound.counted]
    · exact Nat.lt_of_le_of_ne bounded room
  · rw [if_pos tcp]
    exact .inl ⟨_, rfl⟩

section

variable {sessions : List Session}

theorem additionalConnect_sound
    {sessionKey : Option SessionKey}
    {sock : Nat}
    (sound : ∀ s ∈ sessions, s.Sound)
    (live : IsLive sessions (.additionalConnect sessionKey sock))
    (room : HasRoom sessions (.additionalConnect sessionKey sock)) :
    (∃ err, additionalConnect sessions sessionKey sock = (sessions, .refused err)) ∨
    ∃ after direction,
      additionalConnect sessions sessionKey sock = (after, .added direction) ∧
        ∀ s ∈ after, s.Sound := by
  cases sessionKey with
  | none => exact .inl ⟨_, rfl⟩
  | some sessionKey =>
      unfold IsLive HasRoom requested at *
      unfold additionalConnect
      dsimp only at *
      cases found : getSessionFromKey sessions sessionKey with
      | none => exact .inl ⟨_, rfl⟩
      | some place =>
          dsimp only
          rw [found, Option.bind_some] at live room
          cases at_place : sessions[place]? with
          | none => exact .inl ⟨_, rfl⟩
          | some s =>
              have listed : s ∈ sessions := List.mem_of_getElem? at_place
              have isLive := live s at_place
              obtain ⟨reconnect, notFull⟩ := room s at_place
              dsimp only
              obtain ⟨err, refused⟩ | ⟨after, direction, added, kept, _⟩ :=
                s.additionalConnect_cases sock (sound s listed) isLive reconnect notFull
              · obtain ⟨inside, same⟩ := List.getElem?_eq_some_iff.mp at_place
                rw [refused]
                refine .inl ⟨err, ?_⟩
                dsimp only
                rw [← same, List.set_getElem_self]
              · rw [added]
                refine .inr ⟨_, direction, rfl, ?_⟩
                intro other present
                cases List.mem_or_eq_of_mem_set present with
                | inl before => exact sound other before
                | inr same => exact same ▸ kept

theorem Session.disconnect_sound
    {s : Session}
    {ts : TcpSock}
    (sound : s.Sound)
    (present : ts ∈ s.tcpSockList) :
    (s.disconnect ts).Sound where
  counted := by
    change s.currentNumConnection - 1 = (s.tcpSockList.erase ts).length
    rw [List.length_erase_of_mem present, sound.counted]
  bounded := Nat.le_trans (Nat.sub_le _ 1) sound.bounded
  withinPolicy := sound.withinPolicy

theorem modify_sound
    {place : Nat}
    {change : Session → Session}
    (sound : ∀ s ∈ sessions, s.Sound)
    (kept : ∀ s : Session, s.Sound → (change s).Sound) :
    ∀ s ∈ sessions.modify place change, s.Sound := by
  intro s present
  obtain before | ⟨old, listed, same⟩ := mem_modify_cases present
  · exact sound s before
  · exact same ▸ kept old (sound old listed)

theorem step_sound
    {event : Event}
    {after : List Session}
    (sound : ∀ s ∈ sessions, s.Sound)
    (live : IsLive sessions event)
    (room : HasRoom sessions event)
    (stepped : step sessions event = some after) :
    ∀ s ∈ after, s.Sound := by
  cases event with
  | login policy sessionKey sock l =>
      injection stepped with same
      rw [← same]
      exact List.forall_mem_cons.mpr ⟨Login.session_sound room, sound⟩
  | additionalConnect sessionKey sock =>
      injection stepped with same
      rw [← same]
      obtain ⟨err, refused⟩ | ⟨after, direction, added, kept⟩ :=
        additionalConnect_sound sound live room
      · rw [refused]
        exact sound
      · rw [added]
        exact kept
  | disconnect place ts =>
      unfold step at stepped
      dsimp only at stepped
      cases found : sessions[place]? with
      | none =>
          rw [found] at stepped
          exact nomatch stepped
      | some s =>
          rw [found] at stepped
          dsimp only at stepped
          split at stepped
          case isTrue present =>
            injection stepped with same
            rw [← same]
            intro other listed
            cases List.mem_or_eq_of_mem_set listed with
            | inl before => exact sound other before
            | inr same =>
                exact same ▸ Session.disconnect_sound
                  (sound s (List.mem_of_getElem? found)) present
          case isFalse => exact nomatch stepped
  | halt place =>
      injection stepped with same
      exact same ▸ modify_sound sound fun s kept =>
        ⟨kept.counted, kept.bounded, kept.withinPolicy⟩
  | reference place ref =>
      injection stepped with same
      exact same ▸ modify_sound sound fun s kept =>
        ⟨kept.counted, kept.bounded, kept.withinPolicy⟩
  | leave place =>
      injection stepped with same
      exact same ▸ fun s listed => sound s ((List.eraseIdx_sublist sessions place).subset listed)

end

/-- The connections of a session are counted, bounded by what was granted and by the policy,
and a request that is refused changes nothing, as long as requests are for sessions with room
that may be reconnected to, and the policies allow what the logins need. -/
theorem connections_counted_and_bounded
    {sessions : List Session}
    (reached : Reaches step
      (fun sessions event => IsLive sessions event ∧ HasRoom sessions event) [] sessions) :
    (∀ s ∈ sessions, s.currentNumConnection = s.tcpSockList.length ∧
      s.currentNumConnection ≤ s.maxConnection ∧ s.maxConnection ≤ s.policyMaxConnection) ∧
    ∀ sessionKey sock err,
      IsLive sessions (.additionalConnect sessionKey sock) →
      HasRoom sessions (.additionalConnect sessionKey sock) →
      (additionalConnect sessions sessionKey sock).2 = .refused err →
      (additionalConnect sessions sessionKey sock).1 = sessions := by
  have sound : ∀ s ∈ sessions, s.Sound := by
    apply reached.invariant fun sessions => ∀ s ∈ sessions, s.Sound
    · exact fun _ listed => (nomatch listed)
    · intro before event after sound admitted stepped
      exact step_sound sound admitted.1 admitted.2 stepped
  constructor
  · intro s listed
    have holds := sound s listed
    exact ⟨holds.counted, holds.bounded, holds.withinPolicy⟩
  · intro sessionKey sock err live room isRefused
    obtain ⟨err, refused⟩ | ⟨after, direction, added, _⟩ :=
      additionalConnect_sound sound live room
    · rw [refused]
    · rw [added] at isRefused
      exact nomatch isRefused

def exampleKey (number : UInt8) : SessionKey :=
  ⟨List.replicate 20 number, List.length_replicate⟩

/-- A login that asks for so many connections. -/
def tcpLogin (maxConnection : UInt32) : Login where
  maxConnection := maxConnection
  halfConnection := false
  qos := false
  noReconnectToSession := false
  isRUDPSocket := false
  enableUdpRecovery := false

/-- A login over R-UDP without UDP recovery. -/
def udpLogin : Login :=
  { tcpLogin 8 with isRUDPSocket := true }

/-- A session with two connections, one of which is lost and replaced. -/
def replaced : List Event :=
  [.login {} (exampleKey 1) 10 (tcpLogin 2), .additionalConnect (some (exampleKey 1)) 11,
    .disconnect 0 { sock := 10 }, .additionalConnect (some (exampleKey 1)) 12]

/-- A session with as many connections as were granted, and a request with no key. -/
theorem connections_counted_and_bounded_replaced :
    ∃ sessions, runChecked step
        (fun sessions event => decide (IsLive sessions event ∧ HasRoom sessions event))
        replaced [] = some sessions ∧
      sessions.map (fun s => s.tcpSockList.map TcpSock.sock) = [[11, 12]] ∧
      (∀ s ∈ sessions, s.currentNumConnection = s.tcpSockList.length ∧
        s.currentNumConnection ≤ s.maxConnection ∧ s.maxConnection ≤ s.policyMaxConnection) ∧
      (additionalConnect sessions none 13).1 = sessions := by
  have ran : ((runChecked step
      (fun sessions event => decide (IsLive sessions event ∧ HasRoom sessions event))
      replaced []).map fun sessions => sessions.map fun s => s.tcpSockList.map TcpSock.sock) =
        some [[11, 12]] := by
    decide +kernel
  obtain ⟨sessions, last, socks⟩ := Option.map_eq_some_iff.mp ran
  have reached : Reaches step
      (fun sessions event => IsLive sessions event ∧ HasRoom sessions event) [] sessions :=
    (Reaches.of_runChecked last).mono fun _ _ => of_decide_eq_true
  obtain ⟨sound, refused⟩ := connections_counted_and_bounded reached
  exact ⟨sessions, last, socks, sound,
    refused none 13 .protocolError (fun _ found => (nomatch found))
      (fun _ found => (nomatch found)) rfl⟩

/-- A session gets a connection more than was granted, and a request that is refused keeps a
reference to the session. -/
theorem extra_connection_and_lost_reference :
    (∃ sessions, Reaches step IsLive [] sessions ∧
      ¬∀ s ∈ sessions, s.currentNumConnection ≤ s.maxConnection) ∧
    ∃ sessions, Reaches step IsLive [] sessions ∧
      IsLive sessions (.additionalConnect (some (exampleKey 1)) 11) ∧
      (additionalConnect sessions (some (exampleKey 1)) 11).2 = .refused .sessionTimeout ∧
      (additionalConnect sessions (some (exampleKey 1)) 11).1.map Session.ref ≠
        sessions.map Session.ref := by
  constructor
  · have ran : ((runChecked step (fun sessions event => decide (IsLive sessions event))
        [.login {} (exampleKey 1) 10 (tcpLogin 1),
          .additionalConnect (some (exampleKey 1)) 11] []).map fun sessions =>
            decide (∀ s ∈ sessions, s.currentNumConnection ≤ s.maxConnection)) =
          some false := by
      decide +kernel
    obtain ⟨sessions, last, exceeds⟩ := Option.map_eq_some_iff.mp ran
    exact ⟨sessions, (Reaches.of_runChecked last).mono fun _ _ => of_decide_eq_true,
      of_decide_eq_false exceeds⟩
  · refine ⟨[udpLogin.session {} (exampleKey 1) 10], ?_, by decide, by decide, by decide⟩
    have login : step [] (.login {} (exampleKey 1) 10 udpLogin) =
        some [udpLogin.session {} (exampleKey 1) 10] := rfl
    have live : IsLive [] (.login {} (exampleKey 1) 10 udpLogin) := trivial
    exact .next .start live login

end AdditionalConnect
end SoftEther
