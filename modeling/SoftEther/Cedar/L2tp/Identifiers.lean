import SoftEther.Cedar.L2tp.Server
import SoftEther.Library.KeyedTables
import SoftEther.Mayaqua.KeyedList

/-!
# Identifiers and isolation

No two tunnels of a client share an id, no two sessions of a tunnel share one, and no packet
touches a tunnel of another client.  Two packets break this: a request for a tunnel that
assigns the id 0, which the search for a tunnel takes for no id at all, and a data packet of
L2TPv3, whose session is searched in the tunnels of all clients.
-/

namespace SoftEther
namespace L2tp

open Library Network

/-- The ids of a session and the version that they belong to. -/
def Session.ids (s : Session) : Bool × UInt32 × UInt32 :=
  (s.isV3, s.sessionId1, s.sessionId2)

def Tunnel.ids (t : Tunnel) : List (Bool × UInt32 × UInt32) :=
  t.sessionList.map Session.ids

def Tunnel.identity (t : Tunnel) : Ip × Bool × UInt32 × UInt32 :=
  (t.clientIp, t.isV3, t.tunnelId1, t.tunnelId2)

structure Tunnel.Distinct (t : Tunnel) : Prop where
  clientAssigned : UniqueKeys Session.sessionId1 t.sessionList
  serverAssigned : UniqueKeys Session.sessionId2 t.sessionList
  version : ∀ s ∈ t.sessionList, s.isV3 = t.isV3

/-- A tunnel becomes another one: it keeps what it is found by, and its sessions stay
distinct. -/
structure Tunnel.Becomes (t other : Tunnel) : Prop where
  /-- What the tunnel is found by. -/
  identity : other.identity = t.identity
  /-- The sessions. -/
  distinct : t.Distinct → other.Distinct

namespace Session

variable {s : Session}

@[simp] theorem ids_disconnectL2TPSession :
    (disconnectL2TPSession s).ids = s.ids := by
  unfold disconnectL2TPSession
  split <;> rfl

@[simp] theorem ids_stopL2TPThread : (stopL2TPThread s).ids = s.ids := by
  unfold stopL2TPThread
  split <;> rfl

@[simp] theorem ids_afterMessage (t : Tunnel) (p : Packet) :
    (s.afterMessage t p).ids = s.ids := by
  unfold afterMessage
  split
  · split <;> rfl
  · split
    · exact ids_disconnectL2TPSession
    · rfl

@[simp] theorem ids_afterData (env : Env) (data : List UInt8) :
    (s.afterData env data).ids = s.ids := by
  unfold afterData
  split
  · have started : (startL2TPThread s).ids = s.ids := by
      unfold startL2TPThread
      split <;> rfl
    rw [← started]
    unfold passToPpp
    split
    · rfl
    · split <;> rfl
  · have managed : (l2tpSessionManageEtherIPServer env s).ids = s.ids := by
      unfold l2tpSessionManageEtherIPServer
      split <;> rfl
    rw [← managed]
    unfold passToEtherIP
    split <;> rfl

@[simp] theorem ids_drain : s.drain.ids = s.ids := by
  have flushed : ∀ s : Session, (if s.isV3 then
      { s with etherIP := s.etherIP.map fun server =>
        { server with sendPacketList := [] } }
      else s).ids = s.ids := by
    intro s
    split <;> rfl
  unfold drain
  dsimp only
  rw [flushed]
  split
  · rfl
  · split
    · rfl
    · exact ids_disconnectL2TPSession

@[simp] theorem ids_afterThread (event : ThreadEvent) :
    (s.afterThread event).ids = s.ids := by
  cases event <;> rfl

end Session

/-! ## Tunnels -/

namespace Tunnel

variable {t other : Tunnel}

theorem Distinct.of_ids
    (distinct : t.Distinct)
    (version : other.isV3 = t.isV3)
    (fewer : other.ids.Sublist t.ids) :
    other.Distinct := by
  have first : ∀ t : Tunnel, t.sessionList.map Session.sessionId1 =
      t.ids.map fun ids => ids.2.1 := by
    intro t
    unfold Tunnel.ids
    rw [List.map_map]
    rfl
  have second : ∀ t : Tunnel, t.sessionList.map Session.sessionId2 =
      t.ids.map fun ids => ids.2.2 := by
    intro t
    unfold Tunnel.ids
    rw [List.map_map]
    rfl
  obtain ⟨clientAssigned, serverAssigned, versions⟩ := distinct
  unfold UniqueKeys at clientAssigned serverAssigned
  rw [first] at clientAssigned
  rw [second] at serverAssigned
  constructor
  · unfold UniqueKeys
    rw [first]
    exact clientAssigned.sublist (fewer.map _)
  · unfold UniqueKeys
    rw [second]
    exact serverAssigned.sublist (fewer.map _)
  · intro s listed
    have inside : s.ids ∈ t.ids := fewer.subset (List.mem_map_of_mem listed)
    obtain ⟨old, present, same⟩ := List.mem_map.mp inside
    have sameVersion : old.isV3 = s.isV3 := congrArg Prod.fst same
    rw [version, ← sameVersion]
    exact versions old present

theorem Becomes.of_ids
    (identity : other.identity = t.identity)
    (fewer : other.ids.Sublist t.ids) :
    t.Becomes other := by
  refine ⟨identity, fun distinct => distinct.of_ids ?_ fewer⟩
  exact congrArg (fun identity => identity.2.1) identity

theorem Becomes.refl : t.Becomes t :=
  ⟨rfl, id⟩

theorem Becomes.trans
    {last : Tunnel}
    (first : t.Becomes other)
    (second : other.Becomes last) :
    t.Becomes last :=
  ⟨second.identity.trans first.identity, fun distinct =>
    second.distinct (first.distinct distinct)⟩

theorem becomes_disconnectL2TPTunnel : t.Becomes (disconnectL2TPTunnel t) := by
  unfold disconnectL2TPTunnel
  split
  · apply Becomes.of_ids (by rfl)
    unfold ids
    rw [List.map_map]
    have same : Session.ids ∘ disconnectL2TPSession = Session.ids := by
      funext s
      exact Session.ids_disconnectL2TPSession
    rw [same]
  · exact .refl

theorem becomes_writeSession
    {old new : Session}
    (ids : new.ids = old.ids) :
    t.Becomes (t.writeSession old new) := by
  apply Becomes.of_ids (by rfl)
  have same : (t.sessionList.replace old new).map Session.ids =
      t.sessionList.map Session.ids :=
    KeyedList.map_key_replace ids t.sessionList
  unfold Tunnel.ids writeSession
  rw [same]

theorem becomes_modifySession
    {change : Session → Session}
    (ids : ∀ s, (change s).ids = s.ids)
    (session : Nat) :
    t.Becomes (t.modifySession session change) := by
  apply Becomes.of_ids (by rfl)
  have same : (t.sessionList.modify session change).map Session.ids =
      t.sessionList.map Session.ids :=
    map_key_modify ids
  unfold Tunnel.ids modifySession
  rw [same]

theorem Distinct.addSession
    {s : Session}
    (distinct : t.Distinct)
    (version : s.isV3 = t.isV3)
    (clientAssigned : ∀ old ∈ t.sessionList, old.sessionId1 ≠ s.sessionId1)
    (serverAssigned : ∀ old ∈ t.sessionList, old.sessionId2 ≠ s.sessionId2) :
    ({ t with sessionList := t.sessionList ++ [s] } : Tunnel).Distinct := by
  have order : (t.sessionList ++ [s]).Perm (s :: t.sessionList) :=
    List.perm_append_comm
  refine ⟨(distinct.clientAssigned.cons clientAssigned).perm order,
    (distinct.serverAssigned.cons serverAssigned).perm order, ?_⟩
  intro old listed
  cases List.mem_append.mp listed with
  | inl present => exact distinct.version old present
  | inr new =>
      rw [List.mem_singleton.mp new]
      exact version

end Tunnel

theorem firstFreeId_free
    {taken : UInt32 → Bool}
    {count : Nat}
    {id : UInt32}
    (found : firstFreeId taken count id ≠ 0) :
    taken (firstFreeId taken count id) = false := by
  induction count generalizing id with
  | zero => exact absurd rfl found
  | succ count inductionHypothesis =>
      unfold firstFreeId at found ⊢
      cases free : taken id with
      | true =>
          simp only [free, if_true] at found ⊢
          exact inductionHypothesis found
      | false => simp [free]

theorem clientAssigned_new
    {t : Tunnel}
    {sessionId : UInt32}
    (nonzero : sessionId ≠ 0)
    (absent : getSessionFromIdAssignedByClient t sessionId = none) :
    ∀ old ∈ t.sessionList, old.sessionId1 ≠ sessionId := by
  intro old listed same
  unfold getSessionFromIdAssignedByClient at absent
  rw [if_neg nonzero, List.find?_eq_none] at absent
  exact absent old listed (by simp [same])

theorem newL2TPSession_ids
    {env : Env}
    {t : Tunnel}
    {sessionId : UInt32}
    {s : Session}
    (versions : ∀ old ∈ t.sessionList, old.isV3 = t.isV3)
    (new : newL2TPSession env t sessionId = some s) :
    s.isV3 = t.isV3 ∧ s.sessionId1 = sessionId ∧
      ∀ old ∈ t.sessionList, old.sessionId2 ≠ s.sessionId2 := by
  have generated : ∀ id, (if t.isV3 = false then generateNewSessionIdEx t t.isV3
      else generateNewSessionIdForL2TPv3 env t) = id → id ≠ 0 →
      ∀ old ∈ t.sessionList, old.sessionId2 ≠ id := by
    intro id chosen nonzero old listed same
    split at chosen
    case isTrue =>
      subst chosen
      have free := firstFreeId_free nonzero
      change (getSessionFromId t (generateNewSessionIdEx t t.isV3)).isSome = false at free
      unfold getSessionFromId at free
      rw [if_neg nonzero, Option.isSome_eq_false_iff, Option.isNone_iff_eq_none,
        List.find?_eq_none] at free
      exact free old listed (by simp [same])
    case isFalse version =>
      rw [Bool.not_eq_false] at version
      unfold generateNewSessionIdForL2TPv3 at chosen
      cases drawn : env.draws.find? _ with
      | none =>
          rw [drawn] at chosen
          exact nonzero chosen.symm
      | some draw =>
          have free := List.find?_some drawn
          rw [drawn] at chosen
          have equal : draw = id := chosen
          rw [equal] at free
          have own : old.isV3 = true := (versions old listed).trans version
          simp only [Bool.and_eq_true, Bool.not_eq_true', List.any_eq_false] at free
          exact free.2 old listed (by simp [same, own])
  unfold newL2TPSession at new
  dsimp only at new
  generalize drawn : (if t.isV3 = false then generateNewSessionIdEx t t.isV3
    else generateNewSessionIdForL2TPv3 env t) = id at new
  split at new
  · exact nomatch new
  · split at new
    · exact nomatch new
    · split at new
      · exact nomatch new
      next nonzero =>
        injection new with same
        subst same
        exact ⟨rfl, rfl, generated id drawn nonzero⟩

/-! ## Packets for a tunnel -/

namespace Work

variable {env : Env}
variable {w : Work}

theorem becomes_sendL2TPControlPacket (sessionId : UInt32) (p : Packet) :
    w.tunnel.Becomes (w.sendL2TPControlPacket env sessionId p).tunnel :=
  .of_ids (by rfl) (.refl _)

theorem becomes_processIcrq (p : Packet) :
    w.tunnel.Becomes (w.processIcrq env p).tunnel := by
  unfold processIcrq
  split
  · exact .refl
  next sessionId _ =>
    split
    case isTrue asked =>
      split
      · exact .refl
      next s new =>
        refine .trans ?_ (becomes_sendL2TPControlPacket _ _)
        refine ⟨rfl, ?_⟩
        intro distinct
        obtain ⟨version, clientId, serverAssigned⟩ :=
          newL2TPSession_ids distinct.version new
        have clientAssigned := clientAssigned_new asked.1 asked.2
        rw [← clientId] at clientAssigned
        apply distinct.addSession
        · split
          · exact version
          · exact version
        · split
          · exact clientAssigned
          · exact clientAssigned
        · split
          · exact serverAssigned
          · exact serverAssigned
    case isFalse => exact .refl

theorem becomes_processTunnelMessage (p : Packet) :
    w.tunnel.Becomes (w.processTunnelMessage env p).tunnel := by
  have established : w.tunnel.Becomes (w.processScccn env p).tunnel := by
    unfold processScccn
    split
    · exact .of_ids (by rfl) (.refl _)
    · exact .refl
  unfold processTunnelMessage
  dsimp only
  apply established.trans
  generalize w.processScccn env p = w
  split
  · split
    · exact becomes_processIcrq p
    · split
      · unfold processStopccn
        split
        · exact Tunnel.becomes_disconnectL2TPTunnel
        · exact .refl
      · exact .refl
  · exact .refl

theorem becomes_l2tpProcessRecvControlPacket (p : Packet) :
    w.tunnel.Becomes (w.l2tpProcessRecvControlPacket env p).tunnel := by
  unfold l2tpProcessRecvControlPacket
  dsimp only
  have recorded : w.tunnel.Becomes { w.tunnel with
      processed := w.tunnel.processed ++ [p] } :=
    .of_ids (by rfl) (.refl _)
  split
  · apply recorded.trans
    exact becomes_processTunnelMessage (w := { w with
      tunnel := { w.tunnel with processed := w.tunnel.processed ++ [p] } }) p
  · apply recorded.trans
    unfold processSessionMessage
    split
    · exact .refl
    · exact Tunnel.becomes_writeSession (Session.ids_afterMessage _ p)

theorem becomes_readCompleted (fuel : Nat) :
    w.tunnel.Becomes (w.readCompleted env fuel).tunnel := by
  induction fuel generalizing w with
  | zero => exact .refl
  | succ fuel inductionHypothesis =>
      unfold readCompleted
      split
      · exact .refl
      · split
        · exact .refl
        · refine .trans ?_ inductionHypothesis
          refine .trans ?_ (becomes_l2tpProcessRecvControlPacket _)
          dsimp only
          split
          · exact .of_ids (by rfl) (.refl _)
          · exact .of_ids (by rfl) (.refl _)

theorem becomes_recvPacket (pp : Packet) :
    w.tunnel.Becomes (w.recvPacket env pp).tunnel := by
  have touched : w.tunnel.Becomes { w.tunnel with lastRecvTick := env.now } :=
    .of_ids (by rfl) (.refl _)
  unfold recvPacket
  dsimp only
  apply touched.trans
  generalize ({ w.tunnel with lastRecvTick := env.now } : Tunnel) = t
  split
  · have acknowledged : t.Becomes (t.removeAcknowledged pp.nr) :=
      .of_ids (by rfl) (.refl _)
    unfold recvControlPacket
    dsimp only
    apply acknowledged.trans
    generalize t.removeAcknowledged pp.nr = t
    split
    · unfold enqueue
      split
      · dsimp only
        split
        · exact .of_ids (by rfl) (.refl _)
        · refine .trans ?_ (becomes_readCompleted _)
          exact .of_ids (by rfl) (.refl _)
      · exact .refl
    · split
      · exact .of_ids (by rfl) (.refl _)
      · exact .refl
  · unfold recvDataPacket
    split
    · exact .refl
    · split
      · exact Tunnel.becomes_writeSession (Session.ids_afterData env pp.data)
      · exact .refl

theorem ids_interruptSession (s : Session) :
    (w.interruptSession env s).tunnel.identity = w.tunnel.identity ∧
      (w.interruptSession env s).tunnel.ids.Sublist (w.tunnel.ids ++ [s.ids]) := by
  have kept : ∀ (w : Work) (other : Session), other.ids = s.ids →
      (w.keepSession env other).tunnel.identity = w.tunnel.identity ∧
        (w.keepSession env other).tunnel.ids.Sublist (w.tunnel.ids ++ [s.ids]) := by
    intro w other same
    unfold keepSession
    split
    · exact ⟨rfl, List.sublist_append_left _ _⟩
    · refine ⟨rfl, ?_⟩
      unfold Tunnel.ids
      rw [List.map_append, ← same]
      exact .refl _
  have tunnel := (tunnel_sendWaiting (w := w) s s.waiting).1
  unfold interruptSession
  dsimp only
  generalize s.waiting.foldl (fun w data => w.sendL2TPDataPacket s data) w = after at tunnel
  rw [← tunnel]
  split
  · apply kept
    rw [Session.ids_stopL2TPThread]
    exact Session.ids_drain
  · exact kept after s.drain Session.ids_drain

theorem ids_interruptSessions (sessions : List Session) :
    (sessions.foldl (Work.interruptSession env) w).tunnel.identity = w.tunnel.identity ∧
      (sessions.foldl (Work.interruptSession env) w).tunnel.ids.Sublist
        (w.tunnel.ids ++ sessions.map Session.ids) := by
  induction sessions generalizing w with
  | nil => exact ⟨rfl, by simp⟩
  | cons s rest inductionHypothesis =>
      obtain ⟨identity, fewer⟩ := @ids_interruptSession env w s
      obtain ⟨others, last⟩ := inductionHypothesis (w := w.interruptSession env s)
      refine ⟨others.trans identity, last.trans ?_⟩
      rw [List.map_cons, List.append_cons]
      exact fewer.append_right _

theorem becomes_interruptTunnel :
    w.tunnel.Becomes (w.interruptTunnel env).tunnel := by
  have timed : w.tunnel.Becomes (w.tunnel.checkTimeout env) := by
    unfold Tunnel.checkTimeout
    split
    · have marked : w.tunnel.Becomes { w.tunnel with timedout := true } :=
        .of_ids (by rfl) (.refl _)
      exact marked.trans Tunnel.becomes_disconnectL2TPTunnel
    · exact .refl
  unfold interruptTunnel
  dsimp only
  apply timed.trans
  generalize w.tunnel.checkTimeout env = t
  have greeted : t.Becomes (({ w with tunnel := t } : Work).sendHello env).tunnel := by
    unfold sendHello
    split
    · exact .of_ids (by rfl) (.refl _)
    · exact .refl
  apply greeted.trans
  generalize ({ w with tunnel := t } : Work).sendHello env = w
  have collected : w.tunnel.Becomes (w.interruptSessions env).tunnel := by
    obtain ⟨identity, fewer⟩ := @ids_interruptSessions env
      { w with tunnel := { w.tunnel with sessionList := [] } } w.tunnel.sessionList
    exact .of_ids identity fewer
  apply collected.trans
  generalize w.interruptSessions env = w
  unfold stopTunnel
  split
  · exact .of_ids (by rfl) (.refl _)
  · exact .refl

theorem becomes_retransmit :
    w.tunnel.Becomes (w.retransmit env).tunnel := by
  have queued : ∀ (queue : List Queue) (w : Work),
      w.tunnel.Becomes (queue.foldl (Work.retransmitQueue env) w).tunnel := by
    intro queue
    induction queue with
    | nil =>
        intro w
        exact .refl
    | cons q rest inductionHypothesis =>
        intro w
        refine .trans ?_ (inductionHypothesis _)
        unfold retransmitQueue
        split
        · exact .of_ids (by rfl) (.refl _)
        · exact .of_ids (by rfl) (.refl _)
  have settled : ∀ t : Tunnel, t.Becomes { t with stateChanged := false } := by
    intro t
    exact .of_ids (by rfl) (.refl _)
  unfold retransmit
  dsimp only
  refine .trans ?_ (settled _)
  split
  · have emptied : w.tunnel.Becomes
        ({ w with tunnel := { w.tunnel with sendQueue := [] } } : Work).tunnel :=
      .of_ids (by rfl) (.refl _)
    exact emptied.trans (queued w.tunnel.sendQueue _)
  · split
    · exact .of_ids (by rfl) (.refl _)
    · exact .refl

end Work

namespace Server

variable {l2tp : Server}

/-- No two tunnels of a client share an id, and no two sessions of a tunnel do. -/
structure Distinct (l2tp : Server) : Prop where
  clientAssigned :
    UniqueKeys (fun t : Tunnel => (t.clientIp, t.tunnelId1)) l2tp.tunnelList
  serverAssigned :
    UniqueKeys (fun t : Tunnel => (t.clientIp, t.isV3, t.tunnelId2)) l2tp.tunnelList
  sessions : ∀ t ∈ l2tp.tunnelList, t.Distinct

/-- What the tunnels are found by. -/
def identities (l2tp : Server) : List (Ip × Bool × UInt32 × UInt32) :=
  l2tp.tunnelList.map Tunnel.identity

/-- Tunnels may go; those that stay keep what they are found by. -/
theorem Distinct.of_identities
    {after : Server}
    (distinct : l2tp.Distinct)
    (fewer : after.identities.Sublist l2tp.identities)
    (sessions : ∀ t ∈ after.tunnelList, t.Distinct) :
    after.Distinct := by
  have first : ∀ l2tp : Server,
      l2tp.tunnelList.map (fun t => (t.clientIp, t.tunnelId1)) =
        l2tp.identities.map fun identity => (identity.1, identity.2.2.1) := by
    intro l2tp
    unfold identities
    rw [List.map_map]
    rfl
  have second : ∀ l2tp : Server,
      l2tp.tunnelList.map (fun t => (t.clientIp, t.isV3, t.tunnelId2)) =
        l2tp.identities.map fun identity => (identity.1, identity.2.1, identity.2.2.2) := by
    intro l2tp
    unfold identities
    rw [List.map_map]
    rfl
  obtain ⟨clientAssigned, serverAssigned, -⟩ := distinct
  unfold UniqueKeys at clientAssigned serverAssigned
  rw [first] at clientAssigned
  rw [second] at serverAssigned
  refine ⟨?_, ?_, sessions⟩
  · unfold UniqueKeys
    rw [first]
    exact clientAssigned.sublist (fewer.map _)
  · unfold UniqueKeys
    rw [second]
    exact serverAssigned.sublist (fewer.map _)

theorem Distinct.addTunnel
    {t : Tunnel}
    {sendPacketList : List SentPacket}
    (distinct : l2tp.Distinct)
    (clientAssigned : ∀ old ∈ l2tp.tunnelList,
      (old.clientIp, old.tunnelId1) ≠ (t.clientIp, t.tunnelId1))
    (serverAssigned : ∀ old ∈ l2tp.tunnelList,
      (old.clientIp, old.isV3, old.tunnelId2) ≠ (t.clientIp, t.isV3, t.tunnelId2))
    (sessions : t.Distinct) :
    ({ l2tp with
      tunnelList := l2tp.tunnelList ++ [t]
      sendPacketList := sendPacketList } : Server).Distinct := by
  have order : (l2tp.tunnelList ++ [t]).Perm (t :: l2tp.tunnelList) :=
    List.perm_append_comm
  refine ⟨(distinct.clientAssigned.cons clientAssigned).perm order,
    (distinct.serverAssigned.cons serverAssigned).perm order, ?_⟩
  intro old listed
  cases List.mem_append.mp listed with
  | inl present => exact distinct.sessions old present
  | inr new =>
      rw [List.mem_singleton.mp new]
      exact sessions

theorem Distinct.writeTunnel
    {old new : Tunnel}
    {sendPacketList : List SentPacket}
    (distinct : l2tp.Distinct)
    (listed : old ∈ l2tp.tunnelList)
    (becomes : old.Becomes new) :
    ({ l2tp with
      tunnelList := l2tp.tunnelList.replace old new
      sendPacketList := sendPacketList } : Server).Distinct := by
  apply distinct.of_identities
  · have same : (l2tp.tunnelList.replace old new).map Tunnel.identity =
        l2tp.tunnelList.map Tunnel.identity :=
      KeyedList.map_key_replace becomes.identity l2tp.tunnelList
    unfold identities
    rw [same]
  · intro t present
    by_cases kept : t ∈ l2tp.tunnelList
    · exact distinct.sessions t kept
    · rw [KeyedList.eq_of_mem_replace present kept]
      exact becomes.distinct (distinct.sessions old listed)

/-! ## Packets -/

/-- The packet asks for a tunnel with the id 0 that its client has already. -/
def asksForZero (l2tp : Server) (p : UdpPacket) (pp : Packet) : Bool :=
  l2tp.isSccrq pp && assignedTunnel (pp.ver = 3) pp = some 0 &&
    l2tp.tunnelList.any fun t => t.clientIp = p.srcIP && t.tunnelId1 = 0

/-- The packet is for a session of another client's tunnel. -/
def reachesForeign (l2tp : Server) (p : UdpPacket) (pp : Packet) : Bool :=
  !l2tp.isSccrq pp && !pp.isControl && pp.ver = 3 &&
    (l2tp.searchL2TPSessionById true pp.sessionId).any fun t => t.clientIp ≠ p.srcIP

/-- No packet asks for a second tunnel with the id 0 or is for another client's session. -/
def isRegular (l2tp : Server) : Event → Bool
  | .receive p _ _ => (parseL2TPPacket p).all fun pp =>
      !l2tp.asksForZero p pp && !l2tp.reachesForeign p pp
  | _ => true

theorem findTunnel_own
    {pp : Packet}
    {p : UdpPacket}
    {t : Tunnel}
    (existing : l2tp.isSccrq pp = false)
    (own : l2tp.reachesForeign p pp = false)
    (found : l2tp.findTunnel pp p = some t) :
    t ∈ l2tp.tunnelList ∧ t.clientIp = p.srcIP := by
  unfold findTunnel at found
  split at found
  case isTrue =>
    unfold getTunnelFromId at found
    split at found
    · exact nomatch found
    · have matched := List.find?_some found
      simp only [Bool.and_eq_true, decide_eq_true_eq] at matched
      exact ⟨List.mem_of_find?_eq_some found, matched.1.2⟩
  case isFalse data =>
    rw [not_or, not_not] at data
    unfold reachesForeign at own
    rw [existing, found] at own
    have client : t.clientIp = p.srcIP := by
      simpa [data.1, data.2] using own
    unfold searchL2TPSessionById at found
    split at found
    · exact nomatch found
    · exact ⟨List.mem_of_find?_eq_some found, client⟩

theorem newL2TPTunnel_ids
    {pp : Packet}
    {p : UdpPacket}
    {t : Tunnel}
    (new : l2tp.newL2TPTunnel pp p = some t) :
    t.clientIp = p.srcIP ∧ assignedTunnel (pp.ver = 3) pp = some t.tunnelId1 ∧
      t.sessionList = [] ∧
      ∀ old ∈ l2tp.tunnelList,
        (old.clientIp, old.isV3, old.tunnelId2) ≠ (t.clientIp, t.isV3, t.tunnelId2) := by
  unfold newL2TPTunnel at new
  dsimp only at new
  split at new
  · exact nomatch new
  next tunnelId1 assigned =>
    split at new
    · exact nomatch new
    next nonzero =>
      injection new with same
      subst same
      refine ⟨rfl, assigned, rfl, ?_⟩
      intro old listed taken
      obtain ⟨client, version, id⟩ := Prod.mk.inj taken |>.imp_right Prod.mk.inj
      have free := firstFreeId_free nonzero
      change (l2tp.getTunnelFromId p.srcIP
        (l2tp.generateNewTunnelIdEx p.srcIP (decide (pp.ver = 3)))
        (decide (pp.ver = 3))).isSome = false at free
      unfold getTunnelFromId at free
      rw [if_neg nonzero, Option.isSome_eq_false_iff, Option.isNone_iff_eq_none,
        List.find?_eq_none] at free
      exact free old listed (by simp [client, version, id])

theorem Distinct.recvSccrq
    {pp : Packet}
    {p : UdpPacket}
    (distinct : l2tp.Distinct)
    (asked : l2tp.isSccrq pp = true)
    (nonzero : l2tp.asksForZero p pp = false) :
    (l2tp.recvSccrq pp p).Distinct := by
  unfold asksForZero at nonzero
  unfold Server.recvSccrq
  split
  · exact distinct
  next clientAssignedId assigned =>
    split
    case isTrue admitted =>
      split
      · exact distinct
      next t new =>
        obtain ⟨client, tunnelId1, empty, serverAssigned⟩ := newL2TPTunnel_ids new
        rw [assigned] at tunnelId1
        injection tunnelId1 with sameId
        subst sameId
        have becomes : t.Becomes (l2tp.answerSccrq t).tunnel :=
          Work.becomes_sendL2TPControlPacket (w := { tunnel := t }) _ _
        apply distinct.addTunnel
        · intro old listed taken
          change (old.clientIp, old.tunnelId1) = (t.clientIp, t.tunnelId1) at taken
          obtain ⟨sameClient, sameTunnelId⟩ := Prod.mk.inj taken
          rw [client] at sameClient
          have absent := admitted.1
          unfold getTunnelFromIdOfAssignedByClient at absent
          split at absent
          case isTrue zero =>
            -- The search for the id 0 finds nothing; the run is regular instead.
            have present : (l2tp.tunnelList.any fun other =>
                other.clientIp = p.srcIP && other.tunnelId1 = 0) = true :=
              List.any_eq_true.mpr ⟨old, listed, by simp [sameClient, sameTunnelId, zero]⟩
            rw [present, assigned, zero, asked] at nonzero
            exact absurd nonzero (by decide)
          case isFalse =>
            rw [List.find?_eq_none] at absent
            exact absent old listed (by simp [sameClient, sameTunnelId])
        · exact serverAssigned
        · apply becomes.distinct
          refine ⟨?_, ?_, ?_⟩
          · rw [empty]
            exact .nil
          · rw [empty]
            exact .nil
          · rw [empty]
            intro s listed
            exact nomatch listed
    case isFalse => exact distinct

def tunnelsOfOthers (l2tp : Server) (clientIp : Ip) : List Tunnel :=
  l2tp.tunnelList.filter fun t => t.clientIp ≠ clientIp

theorem filter_replace
    {old new : Tunnel}
    {chosen : Tunnel → Bool}
    {tunnels : List Tunnel}
    (oldOut : chosen old = false)
    (newOut : chosen new = false) :
    (tunnels.replace old new).filter chosen = tunnels.filter chosen := by
  induction tunnels with
  | nil => rfl
  | cons t rest inductionHypothesis =>
      rw [List.replace_cons]
      cases same : old == t with
      | true =>
          have equal : old = t := eq_of_beq same
          rw [List.filter_cons_of_neg (by simp [newOut]),
            List.filter_cons_of_neg (by simp [← equal, oldOut])]
      | false =>
          change (t :: rest.replace old new).filter chosen = _
          rw [List.filter_cons, List.filter_cons, inductionHypothesis]

theorem Distinct.recvPacket
    {pp : Packet}
    {p : UdpPacket}
    (distinct : l2tp.Distinct)
    (nonzero : l2tp.asksForZero p pp = false)
    (own : l2tp.reachesForeign p pp = false)
    (draws : List UInt32)
    (unset : UInt16) :
    (l2tp.recvPacket draws unset pp p).Distinct ∧
      (l2tp.recvPacket draws unset pp p).tunnelsOfOthers p.srcIP =
        l2tp.tunnelsOfOthers p.srcIP := by
  unfold Server.recvPacket
  split
  case isTrue asked =>
    refine ⟨distinct.recvSccrq asked nonzero, ?_⟩
    unfold Server.recvSccrq
    split
    · rfl
    · split
      · split
        · rfl
        next t new =>
          have client : (l2tp.answerSccrq t).tunnel.clientIp = p.srcIP :=
            (newL2TPTunnel_ids new).1
          unfold tunnelsOfOthers
          rw [List.filter_append, List.filter_cons_of_neg (by simp [client])]
          exact List.append_nil _
      · rfl
  case isFalse existing =>
    cases found : l2tp.findTunnel pp p with
    | none => exact ⟨distinct, rfl⟩
    | some t =>
        obtain ⟨listed, client⟩ := findTunnel_own (by simpa using existing) own found
        have becomes : t.Becomes
            (({ tunnel := t } : Work).recvPacket (l2tp.env draws unset) pp).tunnel :=
          Work.becomes_recvPacket (w := { tunnel := t }) pp
        refine ⟨distinct.writeTunnel listed becomes, ?_⟩
        have after : (({ tunnel := t } : Work).recvPacket
            (l2tp.env draws unset) pp).tunnel.clientIp = p.srcIP :=
          (congrArg Prod.fst becomes.identity).trans client
        exact filter_replace (by simp [client]) (by simp [after])

/-! ## Runs -/

theorem interruptTunnels_becomes
    {tunnels : List Tunnel}
    {env : Env}
    (old : ∀ t ∈ l2tp.tunnelList, t.Distinct)
    (others : ∀ t ∈ tunnels, t.Distinct) :
    (tunnels.foldl (interruptTunnel env) l2tp).identities.Sublist
        (l2tp.identities ++ tunnels.map Tunnel.identity) ∧
      ∀ t ∈ (tunnels.foldl (interruptTunnel env) l2tp).tunnelList, t.Distinct := by
  induction tunnels generalizing l2tp with
  | nil => exact ⟨by simp, old⟩
  | cons t rest inductionHypothesis =>
      have becomes : t.Becomes (({ tunnel := t } : Work).interruptTunnel env).tunnel :=
        Work.becomes_interruptTunnel (w := { tunnel := t })
      have kept : (interruptTunnel env l2tp t).identities.Sublist
            (l2tp.identities ++ [t.identity]) ∧
          ∀ other ∈ (interruptTunnel env l2tp t).tunnelList, other.Distinct := by
        unfold interruptTunnel
        dsimp only
        split
        · exact ⟨List.sublist_append_left _ _, old⟩
        · constructor
          · unfold identities
            rw [List.map_append, ← becomes.identity]
            exact .refl _
          · intro other listed
            cases List.mem_append.mp listed with
            | inl present => exact old other present
            | inr new =>
                rw [List.mem_singleton.mp new]
                exact becomes.distinct (others t List.mem_cons_self)
      obtain ⟨fewer, distinct⟩ := @inductionHypothesis (interruptTunnel env l2tp t)
        kept.2 fun other listed => others other (List.mem_cons_of_mem t listed)
      refine ⟨fewer.trans ?_, distinct⟩
      rw [List.map_cons, List.append_cons]
      exact kept.1.append_right _

theorem retransmitTunnels_becomes
    {tunnels : List Tunnel}
    {env : Env}
    (old : ∀ t ∈ l2tp.tunnelList, t.Distinct)
    (others : ∀ t ∈ tunnels, t.Distinct) :
    (tunnels.foldl (retransmitTunnel env) l2tp).identities =
        l2tp.identities ++ tunnels.map Tunnel.identity ∧
      ∀ t ∈ (tunnels.foldl (retransmitTunnel env) l2tp).tunnelList, t.Distinct := by
  induction tunnels generalizing l2tp with
  | nil => exact ⟨by simp, old⟩
  | cons t rest inductionHypothesis =>
      have becomes : t.Becomes (({ tunnel := t } : Work).retransmit env).tunnel :=
        Work.becomes_retransmit (w := { tunnel := t })
      have distinct : ∀ other ∈ (retransmitTunnel env l2tp t).tunnelList,
          other.Distinct := by
        intro other listed
        cases List.mem_append.mp listed with
        | inl present => exact old other present
        | inr new =>
            rw [List.mem_singleton.mp new]
            exact becomes.distinct (others t List.mem_cons_self)
      have identity : (retransmitTunnel env l2tp t).identities =
          l2tp.identities ++ [t.identity] := by
        unfold identities retransmitTunnel
        rw [List.map_append, ← becomes.identity]
        rfl
      obtain ⟨same, last⟩ := @inductionHypothesis (retransmitTunnel env l2tp t)
        distinct fun other listed => others other (List.mem_cons_of_mem t listed)
      refine ⟨same.trans ?_, last⟩
      rw [identity, List.map_cons, ← List.append_cons]

theorem Distinct.l2tpProcessInterrupts
    (distinct : l2tp.Distinct) :
    l2tp.l2tpProcessInterrupts.Distinct := by
  have began : l2tp.beginHalting.Distinct := by
    unfold beginHalting
    split
    · apply distinct.of_identities
      · unfold identities
        rw [List.map_map]
        have same : Tunnel.identity ∘ disconnectL2TPTunnel = Tunnel.identity := by
          funext t
          exact Tunnel.becomes_disconnectL2TPTunnel.identity
        rw [same]
      · intro t listed
        obtain ⟨old, present, same⟩ := List.mem_map.mp listed
        rw [← same]
        exact Tunnel.becomes_disconnectL2TPTunnel.distinct (distinct.sessions old present)
    · exact distinct
  unfold Server.l2tpProcessInterrupts
  generalize l2tp.beginHalting = l2tp at began
  have interrupted : l2tp.interruptTunnels.Distinct := by
    obtain ⟨fewer, sessions⟩ := @interruptTunnels_becomes { l2tp with tunnelList := [] }
      l2tp.tunnelList (l2tp.env [] 0) (fun _ listed => nomatch listed) began.sessions
    exact began.of_identities fewer sessions
  generalize l2tp.interruptTunnels = l2tp at interrupted
  have retransmitted : l2tp.retransmitTunnels.Distinct := by
    obtain ⟨same, sessions⟩ := @retransmitTunnels_becomes { l2tp with tunnelList := [] }
      l2tp.tunnelList (l2tp.env [] 0) (fun _ listed => nomatch listed) interrupted.sessions
    refine interrupted.of_identities ?_ sessions
    have whole : l2tp.retransmitTunnels.identities = l2tp.identities := same
    rw [whole]
  generalize l2tp.retransmitTunnels = l2tp at retransmitted
  unfold completeHalting
  split
  · exact ⟨retransmitted.clientAssigned, retransmitted.serverAssigned,
      retransmitted.sessions⟩
  · exact retransmitted

theorem Distinct.step
    {event : Event}
    {after : Server}
    (distinct : l2tp.Distinct)
    (regular : l2tp.isRegular event = true)
    (stepped : l2tp.step event = some after) :
    after.Distinct := by
  have tunnelwise : ∀ tunnelList : List Tunnel,
      tunnelList.map Tunnel.identity = l2tp.identities →
      (∀ t ∈ tunnelList, t.Distinct) → ∀ after : Server, after.tunnelList = tunnelList →
      after.Distinct := by
    intro tunnelList same sessions after list
    apply distinct.of_identities
    · unfold identities at same ⊢
      rw [list, same]
    · rw [list]
      exact sessions
  cases event with
  | tick now =>
      injection stepped with same
      exact tunnelwise _ rfl distinct.sessions after (by rw [← same])
  | receive p draws unset =>
      injection stepped with same
      rw [← same]
      unfold procL2TPPacketRecv
      cases parsed : parseL2TPPacket p with
      | none => exact distinct
      | some pp =>
          have passes : l2tp.asksForZero p pp = false ∧ l2tp.reachesForeign p pp = false := by
            simpa [isRegular, parsed] using regular
          exact (distinct.recvPacket passes.1 passes.2 draws unset).1
  | interrupts =>
      injection stepped with same
      rw [← same]
      exact distinct.l2tpProcessInterrupts
  | sendPackets =>
      injection stepped with same
      exact tunnelwise _ rfl distinct.sessions after (by rw [← same])
  | thread tunnel session event =>
      injection stepped with same
      have becomes : ∀ t : Tunnel,
          t.Becomes (t.modifySession session fun s => s.afterThread event) :=
        fun t => Tunnel.becomes_modifySession (fun s => s.ids_afterThread event) session
      apply tunnelwise (l2tp.tunnelList.modify tunnel fun t =>
        t.modifySession session fun s => s.afterThread event) _ _ after (by rw [← same])
      · exact map_key_modify fun t => (becomes t).identity
      · intro t listed
        cases mem_modify_cases listed with
        | inl present => exact distinct.sessions t present
        | inr changed =>
            obtain ⟨old, present, equal⟩ := changed
            rw [equal]
            exact (becomes old).distinct (distinct.sessions old present)
  | stop noWait =>
      injection stepped with same
      unfold stopL2TPServer at same
      split at same
      · rw [← same]
        exact distinct
      · split at same
        · have stopped : ∀ t : Tunnel,
              t.Becomes { t with sessionList := t.sessionList.map stopL2TPThread } := by
            intro t
            apply Tunnel.Becomes.of_ids (by rfl)
            unfold Tunnel.ids
            rw [List.map_map]
            have same : Session.ids ∘ stopL2TPThread = Session.ids := by
              funext s
              exact Session.ids_stopL2TPThread
            rw [same]
          apply tunnelwise (l2tp.tunnelList.map fun t =>
            { t with sessionList := t.sessionList.map stopL2TPThread }) _ _ after
            (by rw [← same])
          · unfold identities
            rw [List.map_map]
            exact List.map_congr_left fun t _ => (stopped t).identity
          · intro t listed
            obtain ⟨old, present, equal⟩ := List.mem_map.mp listed
            rw [← equal]
            exact (stopped old).distinct (distinct.sessions old present)
        · exact tunnelwise _ rfl distinct.sessions after (by rw [← same])

/-- In a regular run the ids are distinct, and the next regular packet leaves the tunnels of
the other clients, with all their sessions, alone. -/
theorem ids_distinct_and_clients_isolated
    {ike : Bool}
    {hostName : List UInt8}
    {l2tp : Server}
    (reached : Reaches Server.step (fun before event => before.isRegular event = true)
      (newL2TPServerEx ike hostName) l2tp) :
    l2tp.Distinct ∧
      ∀ (p : UdpPacket) (draws : List UInt32) (unset : UInt16) (after : Server),
        l2tp.isRegular (.receive p draws unset) = true →
        l2tp.step (.receive p draws unset) = some after →
        after.tunnelsOfOthers p.srcIP = l2tp.tunnelsOfOthers p.srcIP := by
  have distinct : l2tp.Distinct := by
    apply reached.invariant Distinct
    · exact ⟨.nil, .nil, fun _ listed => (nomatch listed)⟩
    · intro before event after distinct regular stepped
      exact distinct.step regular stepped
  refine ⟨distinct, ?_⟩
  intro p draws unset after regular stepped
  injection stepped with same
  rw [← same]
  unfold procL2TPPacketRecv
  cases parsed : parseL2TPPacket p with
  | none => rfl
  | some pp =>
      have passes : l2tp.asksForZero p pp = false ∧ l2tp.reachesForeign p pp = false := by
        simpa [isRegular, parsed] using regular
      exact (distinct.recvPacket passes.1 passes.2 draws unset).2

/-- A client's request for a tunnel of L2TPv2. -/
def tunnelRequest (client : UInt32) (assigned : UInt16) : Event :=
  datagram (uintToIP client) (uintToIP 2) (controlBytes 0 0 0 0
    (valueBytes L2TP_AVP_TYPE_MESSAGE_TYPE (ushortBytes L2TP_MESSAGE_TYPE_SCCRQ) ++
      valueBytes L2TP_AVP_TYPE_ASSIGNED_TUNNEL (ushortBytes assigned)))

/-- Two clients with two tunnels each have distinct ids, and a third request of the first
client leaves the tunnels of the second one alone. -/
theorem ids_distinct_and_clients_isolated_twoClients :
    ∃ l2tp after : Server, Library.runChecked Server.step isRegular
        [tunnelRequest 1 7, tunnelRequest 3 7, tunnelRequest 1 0, tunnelRequest 3 8]
        (newL2TPServerEx false []) = some l2tp ∧
      l2tp.tunnelList.map (fun t => (t.tunnelId1, t.tunnelId2)) =
        [(7, 1), (7, 1), (0, 2), (8, 2)] ∧
      l2tp.Distinct ∧ l2tp.step (tunnelRequest 1 9) = some after ∧
      after.tunnelsOfOthers (uintToIP 1) = l2tp.tunnelsOfOthers (uintToIP 1) := by
  have ran : ((Library.runChecked Server.step isRegular
      [tunnelRequest 1 7, tunnelRequest 3 7, tunnelRequest 1 0, tunnelRequest 3 8]
      (newL2TPServerEx false [])).map fun l2tp =>
        (l2tp.tunnelList.map fun t => (t.tunnelId1, t.tunnelId2),
          l2tp.isRegular (tunnelRequest 1 9))) =
      some ([(7, 1), (7, 1), (0, 2), (8, 2)], true) := by
    decide +kernel
  obtain ⟨l2tp, last, facts⟩ := Option.map_eq_some_iff.mp ran
  obtain ⟨ids, regular⟩ := Prod.mk.inj facts
  obtain ⟨distinct, isolated⟩ :=
    ids_distinct_and_clients_isolated (Reaches.of_runChecked last)
  exact ⟨l2tp, _, last, ids, distinct, rfl, isolated _ _ _ _ regular rfl⟩

/-- The messages of a client of L2TPv3 that opens a tunnel and a session, whose id is 9. -/
def openingV3 : List Event :=
  [datagram (uintToIP 1) (uintToIP 2) (controlBytesV3 0 0 0
      (valueBytes L2TP_AVP_TYPE_MESSAGE_TYPE (ushortBytes L2TP_MESSAGE_TYPE_SCCRQ) ++
        valueBytes L2TP_AVP_TYPE_V3_TUNNEL_ID [0, 0, 0, 7])),
    datagram (uintToIP 1) (uintToIP 2) (controlBytesV3 1 1 1
      (valueBytes L2TP_AVP_TYPE_MESSAGE_TYPE (ushortBytes L2TP_MESSAGE_TYPE_SCCCN))),
    .receive {
      srcIP := uintToIP 1
      srcPort := 1701
      dstIP := uintToIP 2
      destPort := 1701
      data := controlBytesV3 1 2 1
        (valueBytes L2TP_AVP_TYPE_MESSAGE_TYPE (ushortBytes L2TP_MESSAGE_TYPE_ICRQ) ++
          valueBytes L2TP_AVP_TYPE_V3_SESSION_ID_LOCAL [0, 0, 0, 5]) } [9] 0,
    .tick 5]

/-- A data packet of another client for the session 9. -/
def foreignData : UdpPacket where
  srcIP := uintToIP 3
  srcPort := 1701
  dstIP := uintToIP 2
  destPort := 1701
  data := [0, 3, 0, 0, 0, 0, 0, 9, 0xFF]

/-- A client gets two tunnels with the id 0, and the data packet of another client is taken
for that of the session's client. -/
theorem zero_and_foreign_break_identifiers :
    (¬∀ (ike : Bool) (hostName : List UInt8) (l2tp : Server),
      Reaches Server.step (fun _ _ => True) (newL2TPServerEx ike hostName) l2tp →
      l2tp.Distinct) ∧
    ¬∀ (ike : Bool) (hostName : List UInt8) (l2tp after : Server) (p : UdpPacket),
      Reaches Server.step (fun _ _ => True) (newL2TPServerEx ike hostName) l2tp →
      l2tp.step (.receive p [] 0) = some after →
      after.tunnelsOfOthers p.srcIP = l2tp.tunnelsOfOthers p.srcIP := by
  constructor
  · intro all
    have ran : ((Library.run Server.step [tunnelRequest 1 0, tunnelRequest 1 0]
        (newL2TPServerEx false [])).map fun l2tp =>
          l2tp.tunnelList.map fun t => (t.clientIp, t.tunnelId1)) =
        some [(uintToIP 1, 0), (uintToIP 1, 0)] := by
      decide +kernel
    obtain ⟨l2tp, last, ids⟩ := Option.map_eq_some_iff.mp ran
    have unique := (all false [] l2tp (Reaches.of_run last)).clientAssigned
    unfold UniqueKeys at unique
    rw [ids] at unique
    simp at unique
  · intro all
    have ran : ((Library.run Server.step openingV3 (newL2TPServerEx false [])).map
        fun l2tp => ((l2tp.tunnelsOfOthers (uintToIP 3)).map Tunnel.lastRecvTick,
          ((l2tp.procL2TPPacketRecv [] 0 foreignData).tunnelsOfOthers
            (uintToIP 3)).map Tunnel.lastRecvTick)) = some ([0], [5]) := by
      decide +kernel
    obtain ⟨l2tp, last, ticks⟩ := Option.map_eq_some_iff.mp ran
    have same := all false [] l2tp _ foreignData (Reaches.of_run last) rfl
    have before := congrArg Prod.fst ticks
    have after := congrArg Prod.snd ticks
    change ((l2tp.procL2TPPacketRecv [] 0 foreignData).tunnelsOfOthers
      (uintToIP 3)).map Tunnel.lastRecvTick = [5] at after
    change (l2tp.tunnelsOfOthers (uintToIP 3)).map Tunnel.lastRecvTick = [0] at before
    change (l2tp.procL2TPPacketRecv [] 0 foreignData).tunnelsOfOthers (uintToIP 3) =
      l2tp.tunnelsOfOthers (uintToIP 3) at same
    rw [same, before] at after
    exact absurd after (by decide)

end Server

end L2tp
end SoftEther
