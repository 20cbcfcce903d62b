import SoftEther.Cedar.L2tp.Server
import SoftEther.Library.KeyedTables
import SoftEther.Mayaqua.KeyedList

/-!
# What a freed session owns

A session that is freed owns neither a PPP thread nor an EtherIP server, unless it came to
own one after its tunnel wanted to disconnect.  Such a session is established by a message
that arrives behind `STOPCCN`, or behind the timeout or the shutdown, and nothing marks it:
when the tunnel is deleted, the session is freed with its thread running.
-/

namespace SoftEther
namespace L2tp

open Library Network

/-- The session owns a running PPP thread or an EtherIP server. -/
def Session.Owns (s : Session) : Prop :=
  s.hasThread = true ∨ s.etherIP.isSome = true

/-- What holds of a session of a tunnel that does or does not want to disconnect. -/
structure Session.Guarded (s : Session) (tunnelWants : Bool) : Prop where
  thread : s.hasThread = true → s.isV3 = false
  etherIP : s.etherIP.isSome = true → s.isV3 = true
  established : s.Owns → s.established = true
  marked : s.Owns → tunnelWants = true → s.wantToDisconnect = true
  disconnecting : s.disconnecting = true → s.established = false

/-- What holds of a tunnel and its sessions. -/
structure Tunnel.Guarded (t : Tunnel) : Prop where
  sessions : ∀ s ∈ t.sessionList, s.Guarded t.wantToDisconnect
  disconnecting : t.disconnecting = true → t.wantToDisconnect = true

/-! ## Sessions -/

namespace Session

variable {s : Session}
variable {wants : Bool}

theorem Guarded.not_owns
    (guarded : s.Guarded wants)
    (disconnecting : s.disconnecting = true) :
    ¬s.Owns := by
  intro owns
  have established := guarded.established owns
  rw [guarded.disconnecting disconnecting] at established
  exact Bool.false_ne_true established

theorem Guarded.disconnectL2TPSession
    (guarded : s.Guarded wants) :
    (disconnectL2TPSession s).Guarded true := by
  unfold L2tp.disconnectL2TPSession
  split
  case isTrue marks =>
    exact ⟨guarded.thread, guarded.etherIP, guarded.established, fun _ _ => rfl,
      guarded.disconnecting⟩
  case isFalse stays =>
    refine ⟨guarded.thread, guarded.etherIP, guarded.established, ?_, guarded.disconnecting⟩
    intro owns _
    have established := guarded.established owns
    cases disconnecting : s.disconnecting with
    | true => exact absurd owns (guarded.not_owns disconnecting)
    | false =>
        rw [established, disconnecting] at stays
        simpa using stays

theorem Guarded.weaken
    (guarded : s.Guarded true)
    (others : Bool) :
    s.Guarded others where
  thread := guarded.thread
  etherIP := guarded.etherIP
  established := guarded.established
  marked := fun owns _ => guarded.marked owns rfl
  disconnecting := guarded.disconnecting

theorem Guarded.stop
    (guarded : s.Guarded wants)
    (timeout : Nat) :
    (stopL2TPThread { s with
      disconnecting := true
      established := false
      disconnectTimeout := timeout }).Guarded wants := by
  unfold L2tp.stopL2TPThread
  split
  case isTrue version =>
    have noThread : s.hasThread = true → False := by
      intro thread
      have old := guarded.thread thread
      exact Bool.false_ne_true (old.symm.trans version)
    have owns : ∀ owner : Session, owner.thread = s.thread → owner.etherIP = none →
        ¬owner.Owns := by
      intro owner thread etherIP own
      cases own with
      | inl has => exact noThread (by rwa [Session.hasThread, thread] at has)
      | inr has => simp [etherIP] at has
    exact ⟨fun thread => (noThread thread).elim, fun _ => version,
      fun own => absurd own (owns _ rfl rfl), fun own => absurd own (owns _ rfl rfl),
      fun _ => rfl⟩
  case isFalse version =>
    rw [Bool.not_eq_true] at version
    have noEtherIP : s.etherIP.isSome = true → False := by
      intro etherIP
      have new := guarded.etherIP etherIP
      exact Bool.false_ne_true (version.symm.trans new)
    have owns : ∀ owner : Session, owner.thread = none → owner.etherIP = s.etherIP →
        ¬owner.Owns := by
      intro owner thread etherIP own
      cases own with
      | inl has => simp [Session.hasThread, thread] at has
      | inr has => exact noEtherIP (etherIP ▸ has)
    exact ⟨fun _ => version, fun etherIP => (noEtherIP etherIP).elim,
      fun own => absurd own (owns _ rfl rfl), fun own => absurd own (owns _ rfl rfl),
      fun _ => rfl⟩

theorem Guarded.stopL2TPThread
    (guarded : s.Guarded wants) :
    (stopL2TPThread s).Guarded wants := by
  unfold L2tp.stopL2TPThread
  split
  · refine ⟨guarded.thread, fun etherIP => absurd etherIP (by simp), ?_, ?_,
      guarded.disconnecting⟩
    · intro owns
      cases owns with
      | inl thread => exact guarded.established (.inl thread)
      | inr etherIP => exact absurd etherIP (by simp)
    · intro owns
      cases owns with
      | inl thread => exact guarded.marked (.inl thread)
      | inr etherIP => exact absurd etherIP (by simp)
  · refine ⟨fun thread => absurd thread (by simp [hasThread]), guarded.etherIP, ?_, ?_,
      guarded.disconnecting⟩
    · intro owns
      cases owns with
      | inl thread => exact absurd thread (by simp [hasThread])
      | inr etherIP => exact guarded.established (.inr etherIP)
    · intro owns
      cases owns with
      | inl thread => exact absurd thread (by simp [hasThread])
      | inr etherIP => exact guarded.marked (.inr etherIP)

theorem Guarded.afterMessage
    (guarded : s.Guarded wants)
    (t : Tunnel)
    (p : Packet) :
    (s.afterMessage t p).Guarded wants := by
  unfold Session.afterMessage
  split
  case isTrue fresh =>
    split
    case isTrue accepted =>
      have owns : ¬s.Owns := by
        intro owns
        have established := guarded.established owns
        rw [fresh] at established
        exact Bool.false_ne_true established
      exact ⟨guarded.thread, guarded.etherIP, fun _ => rfl, fun own => absurd own owns,
        fun ends => absurd ends (by simp [accepted.2])⟩
    case isFalse => exact guarded
  case isFalse =>
    split
    case isTrue => exact guarded.disconnectL2TPSession.weaken wants
    case isFalse => exact guarded

theorem Guarded.drain
    (guarded : s.Guarded wants) :
    s.drain.Guarded wants := by
  have flushed : ∀ s : Session, s.Guarded wants →
      (if s.isV3 then
        { s with etherIP := s.etherIP.map fun server =>
          { server with sendPacketList := [] } }
      else s).Guarded wants := by
    intro s guarded
    split
    · have same : (s.etherIP.map fun server =>
          { server with sendPacketList := [] }).isSome = s.etherIP.isSome :=
        Option.isSome_map
      constructor
      · exact guarded.thread
      · simpa only [same] using guarded.etherIP
      · simpa only [Owns, hasThread, same] using guarded.established
      · simpa only [Owns, hasThread, same] using guarded.marked
      · exact guarded.disconnecting
    · exact guarded
  apply flushed
  cases thread : s.thread with
  | none => exact guarded
  | some ppp =>
      dsimp only
      split
      · have old : s.hasThread = true := by simp [hasThread, thread]
        exact ⟨fun _ => guarded.thread old, guarded.etherIP,
          fun _ => guarded.established (.inl old), fun _ => guarded.marked (.inl old),
          guarded.disconnecting⟩
      · exact guarded.disconnectL2TPSession.weaken wants

theorem Guarded.afterThread
    (guarded : s.Guarded wants)
    (event : ThreadEvent) :
    (s.afterThread event).Guarded wants := by
  have thread : ((s.afterThread event).hasThread = s.hasThread) := by
    cases event <;> simp [Session.afterThread, hasThread]
  have etherIP : ((s.afterThread event).etherIP.isSome = s.etherIP.isSome) := by
    cases event <;> simp [Session.afterThread]
  have rest : (s.afterThread event).isV3 = s.isV3 ∧
      (s.afterThread event).established = s.established ∧
      (s.afterThread event).wantToDisconnect = s.wantToDisconnect ∧
      (s.afterThread event).disconnecting = s.disconnecting := by
    cases event <;> exact ⟨rfl, rfl, rfl, rfl⟩
  obtain ⟨version, established, marked, disconnecting⟩ := rest
  constructor
  · simpa only [thread, version] using guarded.thread
  · simpa only [etherIP, version] using guarded.etherIP
  · simpa only [Owns, thread, etherIP, established] using guarded.established
  · simpa only [Owns, thread, etherIP, marked] using guarded.marked
  · simpa only [disconnecting, established] using guarded.disconnecting

theorem Guarded.afterData
    {env : Env}
    (guarded : s.Guarded wants)
    (established : s.established = true)
    (timely : s.isV3 = false ∨ env.ike = true → wants = true → s.wantToDisconnect = true)
    (data : List UInt8) :
    (s.afterData env data).Guarded wants := by
  have ends : s.disconnecting = true → s.established = false := guarded.disconnecting
  unfold Session.afterData
  split
  case isTrue version =>
    have noEtherIP : s.etherIP.isSome = true → False := by
      intro etherIP
      have new := guarded.etherIP etherIP
      rw [version] at new
      exact Bool.false_ne_true new
    have started : (startL2TPThread s).Guarded wants := by
      unfold startL2TPThread
      split
      · exact guarded
      · exact ⟨fun _ => version, fun etherIP => (noEtherIP etherIP).elim,
          fun _ => established, fun _ => timely (.inl version), ends⟩
    generalize startL2TPThread s = s at started
    unfold passToPpp
    cases thread : s.thread with
    | none => exact started
    | some ppp =>
        dsimp only
        split
        · have old : s.hasThread = true := by simp [hasThread, thread]
          exact ⟨fun _ => started.thread old, started.etherIP,
            fun _ => started.established (.inl old), fun _ => started.marked (.inl old),
            started.disconnecting⟩
        · exact started
  case isFalse version =>
    rw [Bool.not_eq_false] at version
    have noThread : s.hasThread = true → False := by
      intro thread
      have old := guarded.thread thread
      rw [version] at old
      exact Bool.false_ne_true old.symm
    have managed : (l2tpSessionManageEtherIPServer env s).Guarded wants := by
      unfold l2tpSessionManageEtherIPServer
      split
      case isTrue starts =>
        rw [Bool.and_eq_true] at starts
        exact ⟨fun thread => (noThread thread).elim, fun _ => version,
          fun _ => established, fun _ => timely (.inr starts.1), ends⟩
      case isFalse => exact guarded
    generalize l2tpSessionManageEtherIPServer env s = s at managed
    unfold passToEtherIP
    cases etherIP : s.etherIP with
    | none => exact managed
    | some server =>
        have old : s.etherIP.isSome = true := by simp [etherIP]
        exact ⟨managed.thread, fun _ => managed.etherIP old,
          fun _ => managed.established (.inr old), fun _ => managed.marked (.inr old),
          managed.disconnecting⟩

end Session

namespace Tunnel

variable {t : Tunnel}

theorem Guarded.congr
    {other : Tunnel}
    (guarded : t.Guarded)
    (sessionList : other.sessionList = t.sessionList)
    (wantToDisconnect : other.wantToDisconnect = t.wantToDisconnect)
    (disconnecting : other.disconnecting = t.disconnecting) :
    other.Guarded := by
  constructor
  · rw [sessionList, wantToDisconnect]
    exact guarded.sessions
  · rw [disconnecting, wantToDisconnect]
    exact guarded.disconnecting

theorem Guarded.disconnectL2TPTunnel
    (guarded : t.Guarded) :
    (disconnectL2TPTunnel t).Guarded := by
  unfold L2tp.disconnectL2TPTunnel
  split
  · constructor
    · intro s listed
      obtain ⟨old, present, same⟩ := List.mem_map.mp listed
      rw [← same]
      exact (guarded.sessions old present).disconnectL2TPSession
    · intro _
      rfl
  · exact guarded

theorem Guarded.writeSession
    {old new : Session}
    (guarded : t.Guarded)
    (fits : new.Guarded t.wantToDisconnect) :
    (t.writeSession old new).Guarded := by
  constructor
  · intro s listed
    by_cases kept : s ∈ t.sessionList
    · exact guarded.sessions s kept
    · rw [KeyedList.eq_of_mem_replace listed kept]
      exact fits
  · exact guarded.disconnecting

theorem Guarded.addSession
    {s : Session}
    (guarded : t.Guarded)
    (fits : s.Guarded t.wantToDisconnect) :
    ({ t with sessionList := t.sessionList ++ [s] } : Tunnel).Guarded := by
  constructor
  · intro other listed
    cases List.mem_append.mp listed with
    | inl present => exact guarded.sessions other present
    | inr new =>
        rw [List.mem_singleton.mp new]
        exact fits
  · exact guarded.disconnecting

theorem Guarded.modifySession
    (guarded : t.Guarded)
    (session : Nat)
    (event : ThreadEvent) :
    (t.modifySession session fun s => s.afterThread event).Guarded := by
  constructor
  · intro s listed
    cases mem_modify_cases listed with
    | inl present => exact guarded.sessions s present
    | inr changed =>
        obtain ⟨old, present, same⟩ := changed
        rw [same]
        exact (guarded.sessions old present).afterThread event
  · exact guarded.disconnecting

end Tunnel

theorem mem_of_getSessionFromId
    {t : Tunnel}
    {sessionId : UInt32}
    {s : Session}
    (found : getSessionFromId t sessionId = some s) :
    s ∈ t.sessionList := by
  unfold getSessionFromId at found
  split at found
  · exact nomatch found
  · exact List.mem_of_find?_eq_some found

/-! ## Control packets -/

namespace Work

variable {env : Env}
variable {w : Work}

theorem guarded_sendL2TPControlPacket
    (guarded : w.tunnel.Guarded)
    (sessionId : UInt32)
    (p : Packet) :
    (w.sendL2TPControlPacket env sessionId p).tunnel.Guarded :=
  guarded.congr rfl rfl rfl

theorem guarded_newL2TPSession
    {t : Tunnel}
    {sessionId : UInt32}
    {s : Session}
    (new : newL2TPSession env t sessionId = some s)
    (wants : Bool) :
    s.Guarded wants := by
  have nothing : s.thread = none ∧ s.etherIP = none ∧ s.disconnecting = false := by
    unfold newL2TPSession at new
    dsimp only at new
    generalize (if t.isV3 = false then _ else _ : UInt32) = id at new
    repeat' split at new
    · exact nomatch new
    · exact nomatch new
    · exact nomatch new
    · injection new with same
      rw [← same]
      exact ⟨rfl, rfl, rfl⟩
  obtain ⟨thread, etherIP, disconnecting⟩ := nothing
  have owns : ¬s.Owns := by simp [Session.Owns, Session.hasThread, thread, etherIP]
  exact ⟨fun own => absurd (.inl own) owns, fun own => absurd (.inr own) owns,
    fun own => absurd own owns, fun own => absurd own owns,
    fun ends => absurd ends (by simp [disconnecting])⟩

theorem guarded_processIcrq
    (guarded : w.tunnel.Guarded)
    (p : Packet) :
    (w.processIcrq env p).tunnel.Guarded := by
  unfold processIcrq
  split
  · exact guarded
  · split
    · split
      · exact guarded
      next sessionId _ _ s new =>
        have fits := guarded_newL2TPSession new w.tunnel.wantToDisconnect
        unfold addSession
        dsimp only
        apply guarded_sendL2TPControlPacket
        apply guarded.addSession
        split
        · exact ⟨fits.thread, fits.etherIP, fits.established, fits.marked,
            fits.disconnecting⟩
        · exact fits
    · exact guarded

theorem guarded_processTunnelMessage
    (guarded : w.tunnel.Guarded)
    (p : Packet) :
    (w.processTunnelMessage env p).tunnel.Guarded := by
  have established : (w.processScccn env p).tunnel.Guarded := by
    unfold processScccn
    split
    · exact guarded.congr rfl rfl rfl
    · exact guarded
  unfold processTunnelMessage
  dsimp only
  generalize w.processScccn env p = w at established
  split
  · split
    · exact guarded_processIcrq established p
    · split
      · unfold processStopccn
        split
        · exact established.disconnectL2TPTunnel
        · exact established
      · exact established
  · exact established

theorem guarded_processSessionMessage
    (guarded : w.tunnel.Guarded)
    (p : Packet) :
    (w.processSessionMessage p).tunnel.Guarded := by
  unfold processSessionMessage
  cases found : getSessionFromId w.tunnel p.sessionId with
  | none => exact guarded
  | some s =>
      have fits := guarded.sessions s (mem_of_getSessionFromId found)
      exact guarded.writeSession (fits.afterMessage w.tunnel p)

theorem guarded_l2tpProcessRecvControlPacket
    (guarded : w.tunnel.Guarded)
    (p : Packet) :
    (w.l2tpProcessRecvControlPacket env p).tunnel.Guarded := by
  unfold l2tpProcessRecvControlPacket
  dsimp only
  have recorded : ({ w.tunnel with
      processed := w.tunnel.processed ++ [p] } : Tunnel).Guarded :=
    guarded.congr rfl rfl rfl
  split
  · exact guarded_processTunnelMessage recorded p
  · exact guarded_processSessionMessage recorded p

theorem guarded_readCompleted
    (fuel : Nat)
    (guarded : w.tunnel.Guarded) :
    (w.readCompleted env fuel).tunnel.Guarded := by
  induction fuel generalizing w with
  | zero => exact guarded
  | succ fuel inductionHypothesis =>
      unfold readCompleted
      split
      · exact guarded
      · split
        · exact guarded
        · apply inductionHypothesis
          apply guarded_l2tpProcessRecvControlPacket
          dsimp only
          split
          · exact guarded.congr rfl rfl rfl
          · exact guarded.congr rfl rfl rfl

theorem guarded_recvControlPacket
    (guarded : w.tunnel.Guarded)
    (pp : Packet) :
    (w.recvControlPacket env pp).tunnel.Guarded := by
  have acknowledged : (w.tunnel.removeAcknowledged pp.nr).Guarded :=
    guarded.congr rfl rfl rfl
  unfold recvControlPacket
  dsimp only
  generalize w.tunnel.removeAcknowledged pp.nr = t at acknowledged
  split
  · unfold enqueue
    split
    · dsimp only
      split
      · exact acknowledged.congr rfl rfl rfl
      · exact guarded_readCompleted _ (acknowledged.congr rfl rfl rfl)
    · exact acknowledged
  · split
    · exact acknowledged.congr rfl rfl rfl
    · exact acknowledged

end Work

/-- A data packet would give a session a thread or an EtherIP server although its tunnel
wants to disconnect and nothing has marked the session. -/
def startsLate (env : Env) (t : Tunnel) (pp : Packet) : Bool :=
  !pp.isControl && t.wantToDisconnect &&
    (getSessionFromId t pp.sessionId).any fun s =>
      s.established && !s.wantToDisconnect && (s.isV3 = false || env.ike)

theorem Work.guarded_recvPacket
    {env : Env}
    {w : Work}
    {pp : Packet}
    (guarded : w.tunnel.Guarded)
    (timely : startsLate env w.tunnel pp = false) :
    (w.recvPacket env pp).tunnel.Guarded := by
  have touched : ({ w.tunnel with lastRecvTick := env.now } : Tunnel).Guarded :=
    guarded.congr rfl rfl rfl
  unfold recvPacket
  dsimp only
  split
  case isTrue => exact guarded_recvControlPacket touched pp
  case isFalse data =>
    unfold recvDataPacket
    dsimp only
    have same : getSessionFromId { w.tunnel with lastRecvTick := env.now } pp.sessionId =
        getSessionFromId w.tunnel pp.sessionId := rfl
    rw [same]
    unfold startsLate at timely
    cases found : getSessionFromId w.tunnel pp.sessionId with
    | none => exact touched
    | some s =>
        dsimp only
        split
        case isTrue established =>
          have fits := guarded.sessions s (mem_of_getSessionFromId found)
          apply touched.writeSession
          apply fits.afterData established
          intro owns wants
          by_contra unmarked
          rw [found, wants] at timely
          simp only [data, established, unmarked, Option.any_some, Bool.not_false,
            Bool.and_self, Bool.true_and, Bool.or_eq_false_iff, decide_eq_false_iff_not] at timely
          cases owns with
          | inl version => exact timely.1 version
          | inr ike => exact absurd ike (by simp [timely.2])
        case isFalse => exact touched

/-! ## Interrupts -/

/-- A tunnel whose sessions are collected: those that stay do not wait for their `CDN`, and
those that were freed own nothing. -/
structure Work.Collected (w : Work) : Prop where
  guarded : w.tunnel.Guarded
  stopped : ∀ s ∈ w.tunnel.sessionList, s.wantToDisconnect = true → s.disconnecting = true
  freed : ∀ s ∈ w.freed, ¬s.Owns

namespace Work

variable {env : Env}
variable {w : Work}

theorem Collected.keepSession
    {s : Session}
    (collected : w.Collected)
    (fits : s.Guarded w.tunnel.wantToDisconnect)
    (stopped : s.wantToDisconnect = true → s.disconnecting = true) :
    (w.keepSession env s).Collected := by
  unfold Work.keepSession
  split
  case isTrue ends =>
    refine ⟨collected.guarded, collected.stopped, ?_⟩
    intro other listed
    cases List.mem_append.mp listed with
    | inl before => exact collected.freed other before
    | inr new =>
        rw [List.mem_singleton.mp new]
        exact fits.not_owns ends.1
  case isFalse =>
    refine ⟨collected.guarded.addSession fits, ?_, collected.freed⟩
    intro other listed
    cases List.mem_append.mp listed with
    | inl before => exact collected.stopped other before
    | inr new =>
        rw [List.mem_singleton.mp new]
        exact stopped

theorem Collected.interruptSession
    {s : Session}
    (collected : w.Collected)
    (fits : s.Guarded w.tunnel.wantToDisconnect) :
    (w.interruptSession env s).Collected := by
  have sent := tunnel_sendWaiting (w := w) s s.waiting
  have drained := fits.drain
  unfold Work.interruptSession
  dsimp only
  generalize s.waiting.foldl (fun w data => w.sendL2TPDataPacket s data) w = after at sent
  generalize s.drain = s at drained
  rw [← sent.1] at drained
  have same : after.Collected := by
    constructor
    · rw [sent.1]
      exact collected.guarded
    · rw [sent.1]
      exact collected.stopped
    · rw [sent.2]
      exact collected.freed
  split
  case isTrue =>
    have told : (after.sendL2TPControlPacket env s.sessionId1
        (cdnPacket after.tunnel s)).Collected :=
      ⟨guarded_sendL2TPControlPacket same.guarded _ _, same.stopped, same.freed⟩
    apply told.keepSession (drained.stop _)
    intro _
    unfold stopL2TPThread
    split
    · rfl
    · rfl
  case isFalse stays =>
    apply same.keepSession drained
    intro wants
    cases disconnecting : s.disconnecting with
    | true => rfl
    | false => exact absurd ⟨wants, disconnecting⟩ stays

theorem wantToDisconnect_keepSession (s : Session) :
    (w.keepSession env s).tunnel.wantToDisconnect = w.tunnel.wantToDisconnect := by
  unfold keepSession
  split
  · rfl
  · rfl

theorem wantToDisconnect_interruptSession (s : Session) :
    (w.interruptSession env s).tunnel.wantToDisconnect = w.tunnel.wantToDisconnect := by
  have sent := (tunnel_sendWaiting (w := w) s s.waiting).1
  unfold interruptSession
  dsimp only
  split
  · rw [wantToDisconnect_keepSession]
    have same := congrArg Tunnel.wantToDisconnect sent
    exact same
  · rw [wantToDisconnect_keepSession, sent]

theorem Collected.interrupts
    {sessions : List Session}
    (collected : w.Collected)
    (fit : ∀ s ∈ sessions, s.Guarded w.tunnel.wantToDisconnect) :
    (sessions.foldl (Work.interruptSession env) w).Collected := by
  induction sessions generalizing w with
  | nil => exact collected
  | cons s rest inductionHypothesis =>
      apply inductionHypothesis (collected.interruptSession (fit s List.mem_cons_self))
      rw [wantToDisconnect_interruptSession]
      intro other listed
      exact fit other (List.mem_cons_of_mem s listed)

theorem collected_interruptTunnel
    (guarded : w.tunnel.Guarded)
    (freed : ∀ s ∈ w.freed, ¬s.Owns) :
    (w.interruptTunnel env).Collected := by
  have timed : (w.tunnel.checkTimeout env).Guarded := by
    unfold Tunnel.checkTimeout
    split
    · exact Tunnel.Guarded.disconnectL2TPTunnel (guarded.congr rfl rfl rfl)
    · exact guarded
  unfold interruptTunnel
  dsimp only
  generalize w.tunnel.checkTimeout env = t at timed
  have greeted : (({ w with tunnel := t } : Work).sendHello env).tunnel.Guarded ∧
      (({ w with tunnel := t } : Work).sendHello env).freed = w.freed := by
    unfold sendHello
    split
    · exact ⟨timed.congr rfl rfl rfl, rfl⟩
    · exact ⟨timed, rfl⟩
  rw [← greeted.2] at freed
  replace greeted := greeted.1
  generalize ({ w with tunnel := t } : Work).sendHello env = w at greeted freed
  have emptied : ({ w with tunnel := { w.tunnel with sessionList := [] } } : Work).Collected := by
    refine ⟨⟨?_, greeted.disconnecting⟩, ?_, freed⟩
    · intro s listed
      exact nomatch listed
    · intro s listed
      exact nomatch listed
  have collected : (w.interruptSessions env).Collected := emptied.interrupts greeted.sessions
  generalize w.interruptSessions env = w at collected
  unfold stopTunnel
  split
  case isTrue wants =>
    exact ⟨⟨collected.guarded.sessions, fun _ => wants.1⟩, collected.stopped,
      collected.freed⟩
  case isFalse => exact collected

theorem Collected.finished
    (collected : w.Collected)
    (finished : w.tunnel.isFinished env = true) :
    ∀ s ∈ w.tunnel.sessionList, ¬s.Owns := by
  intro s listed owns
  unfold Tunnel.isFinished at finished
  rw [Bool.and_eq_true] at finished
  have fits := collected.guarded.sessions s listed
  have wants := collected.guarded.disconnecting finished.1
  have ends := collected.stopped s listed (fits.marked owns wants)
  exact fits.not_owns ends owns

/-- The retransmission leaves the sessions alone. -/
theorem guarded_retransmit
    (guarded : w.tunnel.Guarded) :
    (w.retransmit env).tunnel.Guarded := by
  have queued : ∀ (queue : List Queue) (w : Work), w.tunnel.Guarded →
      (queue.foldl (Work.retransmitQueue env) w).tunnel.Guarded := by
    intro queue
    induction queue with
    | nil =>
        intro w guarded
        exact guarded
    | cons q rest inductionHypothesis =>
        intro w guarded
        apply inductionHypothesis
        unfold retransmitQueue
        split
        · exact guarded.congr rfl rfl rfl
        · exact guarded.congr rfl rfl rfl
  unfold retransmit
  dsimp only
  split
  · have emptied : ({ w with
        tunnel := { w.tunnel with sendQueue := [] } } : Work).tunnel.Guarded :=
      guarded.congr rfl rfl rfl
    exact (queued w.tunnel.sendQueue _ emptied).congr rfl rfl rfl
  · split
    · exact guarded.congr rfl rfl rfl
    · exact guarded.congr rfl rfl rfl

end Work

/-! ## The server -/

namespace Server

variable {l2tp : Server}

/-- Every tunnel is guarded, and what the interrupts have freed owned nothing. -/
structure Guarded (l2tp : Server) : Prop where
  tunnels : ∀ t ∈ l2tp.tunnelList, t.Guarded
  freed : ∀ s ∈ l2tp.freed, ¬s.Owns

/-- A packet that would give a session a thread or an EtherIP server too late. -/
def receivesLate (l2tp : Server) (p : UdpPacket) (pp : Packet) : Bool :=
  !l2tp.isSccrq pp && (l2tp.findTunnel pp p).any fun t => startsLate (l2tp.env [] 0) t pp

/-- No data packet gives a session a thread or an EtherIP server too late. -/
def inTime (l2tp : Server) : Event → Bool
  | .receive p _ _ => (parseL2TPPacket p).all fun pp => !l2tp.receivesLate p pp
  | _ => true

theorem mem_of_findTunnel
    {pp : Packet}
    {p : UdpPacket}
    {t : Tunnel}
    (found : l2tp.findTunnel pp p = some t) :
    t ∈ l2tp.tunnelList := by
  unfold findTunnel at found
  split at found
  · unfold getTunnelFromId at found
    split at found
    · exact nomatch found
    · exact List.mem_of_find?_eq_some found
  · unfold searchL2TPSessionById at found
    split at found
    · exact nomatch found
    · exact List.mem_of_find?_eq_some found

theorem Guarded.recvSccrq
    (guarded : l2tp.Guarded)
    (pp : Packet)
    (p : UdpPacket) :
    (l2tp.recvSccrq pp p).Guarded := by
  unfold Server.recvSccrq
  split
  · exact guarded
  · split
    · split
      · exact guarded
      next t new =>
        refine ⟨?_, guarded.freed⟩
        intro other listed
        cases List.mem_append.mp listed with
        | inl old => exact guarded.tunnels other old
        | inr added =>
            rw [List.mem_singleton.mp added]
            have empty : t.sessionList = [] ∧ t.disconnecting = false := by
              unfold newL2TPTunnel at new
              dsimp only at new
              split at new
              · exact nomatch new
              · split at new
                · exact nomatch new
                · injection new with same
                  rw [← same]
                  exact ⟨rfl, rfl⟩
            have fresh : t.Guarded := by
              constructor
              · intro s present
                rw [empty.1] at present
                exact nomatch present
              · intro ends
                rw [empty.2] at ends
                exact nomatch ends
            exact Work.guarded_sendL2TPControlPacket (w := { tunnel := t }) fresh _ _
    · exact guarded

theorem Guarded.recvPacket
    {pp : Packet}
    {p : UdpPacket}
    (guarded : l2tp.Guarded)
    (timely : l2tp.receivesLate p pp = false)
    (draws : List UInt32)
    (unset : UInt16) :
    (l2tp.recvPacket draws unset pp p).Guarded := by
  unfold receivesLate at timely
  unfold Server.recvPacket
  split
  case isTrue => exact guarded.recvSccrq pp p
  case isFalse existing =>
    cases found : l2tp.findTunnel pp p with
    | none => exact guarded
    | some t =>
        have old := guarded.tunnels t (mem_of_findTunnel found)
        have inTime : startsLate (l2tp.env draws unset) t pp = false := by
          rw [found] at timely
          have same : startsLate (l2tp.env [] 0) t pp = false := by
            simpa [existing] using timely
          exact same
        have new := Work.guarded_recvPacket (w := { tunnel := t }) old inTime
        refine ⟨?_, guarded.freed⟩
        intro other listed
        by_cases kept : other ∈ l2tp.tunnelList
        · exact guarded.tunnels other kept
        · rw [KeyedList.eq_of_mem_replace listed kept]
          exact new

theorem Guarded.interrupts
    {tunnels : List Tunnel}
    {env : Env}
    (guarded : l2tp.Guarded)
    (others : ∀ t ∈ tunnels, t.Guarded) :
    (tunnels.foldl (interruptTunnel env) l2tp).Guarded := by
  induction tunnels generalizing l2tp with
  | nil => exact guarded
  | cons t rest inductionHypothesis =>
      apply inductionHypothesis _ fun other listed =>
        others other (List.mem_cons_of_mem t listed)
      have collected : (({ tunnel := t } : Work).interruptTunnel env).Collected :=
        Work.collected_interruptTunnel (others t List.mem_cons_self) fun s listed =>
          nomatch listed
      have freed : ∀ s ∈ l2tp.freed ++
          (({ tunnel := t } : Work).interruptTunnel env).freed, ¬s.Owns := by
        intro s listed
        cases List.mem_append.mp listed with
        | inl before => exact guarded.freed s before
        | inr new => exact collected.freed s new
      unfold interruptTunnel
      dsimp only
      split
      case isTrue finished =>
        refine ⟨guarded.tunnels, ?_⟩
        intro s listed
        cases List.mem_append.mp listed with
        | inl before => exact freed s before
        | inr last => exact collected.finished finished s last
      case isFalse =>
        refine ⟨?_, freed⟩
        intro other listed
        cases List.mem_append.mp listed with
        | inl before => exact guarded.tunnels other before
        | inr new =>
            rw [List.mem_singleton.mp new]
            exact collected.guarded

theorem Guarded.retransmissions
    {tunnels : List Tunnel}
    {env : Env}
    (guarded : l2tp.Guarded)
    (others : ∀ t ∈ tunnels, t.Guarded) :
    (tunnels.foldl (retransmitTunnel env) l2tp).Guarded := by
  induction tunnels generalizing l2tp with
  | nil => exact guarded
  | cons t rest inductionHypothesis =>
      apply inductionHypothesis _ fun other listed =>
        others other (List.mem_cons_of_mem t listed)
      refine ⟨?_, guarded.freed⟩
      intro other listed
      cases List.mem_append.mp listed with
      | inl before => exact guarded.tunnels other before
      | inr new =>
          rw [List.mem_singleton.mp new]
          exact Work.guarded_retransmit (w := { tunnel := t }) (others t List.mem_cons_self)

theorem Guarded.l2tpProcessInterrupts
    (guarded : l2tp.Guarded) :
    l2tp.l2tpProcessInterrupts.Guarded := by
  have began : l2tp.beginHalting.Guarded := by
    unfold beginHalting
    split
    · refine ⟨?_, guarded.freed⟩
      intro t listed
      obtain ⟨old, present, same⟩ := List.mem_map.mp listed
      rw [← same]
      exact (guarded.tunnels old present).disconnectL2TPTunnel
    · exact guarded
  unfold Server.l2tpProcessInterrupts
  generalize l2tp.beginHalting = l2tp at began
  have empty : ∀ l2tp : Server, l2tp.Guarded → ({ l2tp with tunnelList := [] } : Server).Guarded :=
    fun _ old => ⟨fun _ listed => (nomatch listed), old.freed⟩
  have interrupted : l2tp.interruptTunnels.Guarded := (empty l2tp began).interrupts began.tunnels
  generalize l2tp.interruptTunnels = l2tp at interrupted
  have retransmitted : l2tp.retransmitTunnels.Guarded :=
    (empty l2tp interrupted).retransmissions interrupted.tunnels
  generalize l2tp.retransmitTunnels = l2tp at retransmitted
  unfold completeHalting
  split
  · exact ⟨retransmitted.tunnels, retransmitted.freed⟩
  · exact retransmitted

theorem Guarded.step
    {event : Event}
    {after : Server}
    (guarded : l2tp.Guarded)
    (timely : l2tp.inTime event = true)
    (stepped : l2tp.step event = some after) :
    after.Guarded := by
  cases event with
  | tick now =>
      injection stepped with same
      rw [← same]
      exact ⟨guarded.tunnels, guarded.freed⟩
  | receive p draws unset =>
      injection stepped with same
      rw [← same]
      unfold procL2TPPacketRecv
      cases parsed : parseL2TPPacket p with
      | none => exact guarded
      | some pp =>
          have passes : l2tp.receivesLate p pp = false := by
            simpa [inTime, parsed] using timely
          exact guarded.recvPacket passes draws unset
  | interrupts =>
      injection stepped with same
      rw [← same]
      exact guarded.l2tpProcessInterrupts
  | sendPackets =>
      injection stepped with same
      rw [← same]
      exact ⟨guarded.tunnels, guarded.freed⟩
  | thread tunnel session event =>
      injection stepped with same
      rw [← same]
      refine ⟨?_, guarded.freed⟩
      intro t listed
      cases mem_modify_cases listed with
      | inl present => exact guarded.tunnels t present
      | inr changed =>
          obtain ⟨old, present, same⟩ := changed
          rw [same]
          exact (guarded.tunnels old present).modifySession session event
  | stop noWait =>
      injection stepped with same
      rw [← same]
      unfold stopL2TPServer
      split
      · exact guarded
      · split
        · refine ⟨?_, guarded.freed⟩
          intro t listed
          obtain ⟨old, present, same⟩ := List.mem_map.mp listed
          rw [← same]
          refine ⟨?_, (guarded.tunnels old present).disconnecting⟩
          intro s inside
          obtain ⟨before, among, stopped⟩ := List.mem_map.mp inside
          rw [← stopped]
          exact ((guarded.tunnels old present).sessions before among).stopL2TPThread
        · exact ⟨guarded.tunnels, guarded.freed⟩

/-- In a run in which no data packet gives a session a thread or an EtherIP server after its
tunnel wanted to disconnect, no freed session owns one. -/
theorem freed_owns_nothing
    {ike : Bool}
    {hostName : List UInt8}
    {l2tp : Server}
    (reached : Reaches Server.step (fun before event => before.inTime event = true)
      (newL2TPServerEx ike hostName) l2tp) :
    ∀ s ∈ l2tp.freed, s.hasThread = false ∧ s.etherIP = none := by
  have guarded : l2tp.Guarded := by
    apply reached.invariant Guarded
    · exact ⟨fun _ listed => (nomatch listed), fun _ listed => (nomatch listed)⟩
    · intro before event after guarded timely stepped
      exact guarded.step timely stepped
  intro s listed
  have owns := guarded.freed s listed
  unfold Session.Owns at owns
  simpa using owns

/-- The messages of a client that opens a tunnel and asks for a session. -/
def openingMessages : List Event :=
  [datagram (uintToIP 1) (uintToIP 2) (controlBytes 0 0 0 0
      (valueBytes L2TP_AVP_TYPE_MESSAGE_TYPE (ushortBytes L2TP_MESSAGE_TYPE_SCCRQ) ++
        valueBytes L2TP_AVP_TYPE_ASSIGNED_TUNNEL [0, 7])),
    datagram (uintToIP 1) (uintToIP 2) (controlBytes 1 0 1 1
      (valueBytes L2TP_AVP_TYPE_MESSAGE_TYPE (ushortBytes L2TP_MESSAGE_TYPE_SCCCN))),
    datagram (uintToIP 1) (uintToIP 2) (controlBytes 1 0 2 1
      (valueBytes L2TP_AVP_TYPE_MESSAGE_TYPE (ushortBytes L2TP_MESSAGE_TYPE_ICRQ) ++
        valueBytes L2TP_AVP_TYPE_ASSIGNED_SESSION [0, 5]))]

/-- The client's message that the session is connected. -/
def connectedMessage (ns : UInt16) : Event :=
  datagram (uintToIP 1) (uintToIP 2) (controlBytes 1 1 ns 2
    (valueBytes L2TP_AVP_TYPE_MESSAGE_TYPE (ushortBytes L2TP_MESSAGE_TYPE_ICCN)))

/-- The client's message that ends the tunnel. -/
def endMessage (ns : UInt16) : Event :=
  datagram (uintToIP 1) (uintToIP 2) (controlBytes 1 0 ns 2
    (valueBytes L2TP_AVP_TYPE_MESSAGE_TYPE (ushortBytes L2TP_MESSAGE_TYPE_STOPCCN) ++
      valueBytes L2TP_AVP_TYPE_ASSIGNED_TUNNEL [0, 7]))

def sessionData : Event :=
  datagram (uintToIP 1) (uintToIP 2) [0, 2, 0, 1, 0, 1, 0xFF, 0x03]

/-- The messages of a tunnel that ends after its session was in use. -/
def orderlyEnd : List Event :=
  openingMessages ++ [connectedMessage 3, sessionData, endMessage 4, .interrupts,
    .tick 3000, .interrupts]

/-- In an orderly run the session is freed without its thread. -/
theorem freed_owns_nothing_orderlyEnd :
    ∃ l2tp, Library.runChecked Server.step inTime orderlyEnd (newL2TPServerEx false []) =
        some l2tp ∧
      (l2tp.freed.map Session.sessionId1 = [5]) ∧
      ∀ s ∈ l2tp.freed, s.hasThread = false ∧ s.etherIP = none := by
  have ran : ((Library.runChecked Server.step inTime orderlyEnd
      (newL2TPServerEx false [])).map fun l2tp => l2tp.freed.map Session.sessionId1) =
      some [5] := by
    decide +kernel
  obtain ⟨l2tp, last, ids⟩ := Option.map_eq_some_iff.mp ran
  exact ⟨l2tp, last, ids, freed_owns_nothing (Reaches.of_runChecked last)⟩

/-- The messages of a tunnel whose session is connected after the message that ends the
tunnel. -/
def lateConnection : List Event :=
  openingMessages ++ [endMessage 3, connectedMessage 4, sessionData, .interrupts,
    .tick 3000, .interrupts]

/-- A session that is connected behind the end of its tunnel is freed with its thread. -/
theorem lateConnection_frees_thread :
    ¬∀ (ike : Bool) (hostName : List UInt8) (l2tp : Server),
      Reaches Server.step (fun _ _ => True) (newL2TPServerEx ike hostName) l2tp →
      ∀ s ∈ l2tp.freed, s.hasThread = false ∧ s.etherIP = none := by
  intro all
  have ran : ((Library.run Server.step lateConnection (newL2TPServerEx false [])).map
      fun l2tp => l2tp.freed.map Session.hasThread) = some [true] := by
    decide +kernel
  obtain ⟨l2tp, last, threads⟩ := Option.map_eq_some_iff.mp ran
  have freed := all false [] l2tp (Reaches.of_run last)
  obtain ⟨s, listed, owns⟩ : ∃ s ∈ l2tp.freed, s.hasThread = true :=
    List.mem_map.mp (threads ▸ List.mem_singleton.mpr rfl)
  exact Bool.false_ne_true ((freed s listed).1.symm.trans owns)

end Server

end L2tp
end SoftEther
