import SoftEther.Cedar.Tunnel.Others
import SoftEther.Library.Ledger
import SoftEther.Library.Runs

/-!
# The budgets of a server

The counters of a server are the sums of what its sessions have put there, whatever the
sessions do and in whatever order, and nothing is left on them once every connection has
been cleaned up.
-/

namespace SoftEther
namespace Tunnel

open Library

section

variable (settings : Settings)
variable (zlib : Zlib)

/-! ## A server -/

namespace SessionState

variable (state : SessionState)

/-- What a session has on `FifoBudget`. -/
def fifoShare : UInt32 :=
  state.connection.lastRecvFifoTotalSize

/-- What a session has on `QueueBudget`. -/
def queueShare : UInt32 :=
  state.connection.lastRecvBlocksNum + state.pa.linkBlocksNum

/-- What a session has on `CurrentTcpQueueSize`. -/
def tcpShare : UInt32 :=
  state.connection.lastTcpQueueSize + state.connection.lastPacketQueueSize +
    state.pa.floodingSize

/-- A session has nothing on the counters. -/
structure Settled : Prop where
  fifo : state.fifoShare = 0
  queue : state.queueShare = 0
  tcp : state.tcpShare = 0

/-- What a session has given back so far. -/
structure Fit : Prop where
  freed : state.phase ≠ .running → state.pa = .freed
  settled : state.phase = .cleanedUp → state.Settled

theorem fit_of_running
    {state : SessionState}
    (running : state.phase = .running) :
    state.Fit where
  freed := fun stopped => absurd running stopped
  settled := fun cleaned => by
    rw [running] at cleaned
    exact nomatch cleaned

end SessionState

/-- The counters are the sums of what the sessions have there. -/
structure Server.Accounted (server : Server) : Prop where
  fifo : Balanced SessionState.fifoShare server.sessions server.cedar.fifoBudget
  queue : Balanced SessionState.queueShare server.sessions server.cedar.queueBudget
  tcp : Balanced SessionState.tcpShare server.sessions server.cedar.currentTcpQueueSize
  fit : ∀ state ∈ server.sessions, state.Fit

theorem Server.accounted_new : ({} : Server).Accounted where
  fifo := .nil
  queue := .nil
  tcp := .nil
  fit := fun _ listed => nomatch listed

theorem Server.Accounted.set
    {server : Server}
    (accounted : server.Accounted)
    {place : Nat}
    {before after : SessionState}
    (found : server.sessions[place]? = some before)
    {cedar : Cedar}
    (same : others cedar after.connection after.pa =
      others server.cedar before.connection before.pa)
    (fit : after.Fit) :
    ({ cedar := cedar, sessions := server.sessions.set place after } : Server).Accounted where
  fifo := accounted.fifo.set found (congrArg Others.fifo same)
  queue := accounted.queue.set found (congrArg Others.queue same)
  tcp := accounted.tcp.set found (congrArg Others.tcp same)
  fit := by
    intro state listed
    rcases List.mem_or_eq_of_mem_set listed with old | new
    · exact accounted.fit state old
    · rw [new]
      exact fit

theorem SessionState.others_does
    {cedar after : Cedar}
    {state left : SessionState}
    {event : ServerEvent}
    (ran : state.does settings zlib cedar event = some (after, left)) :
    others after left.connection left.pa = others cedar state.connection state.pa := by
  cases event with
  | start session kind => exact nomatch ran
  | addSocket place ts =>
      injection ran with ran
      obtain ⟨rfl, rfl⟩ := Prod.mk.inj ran
      exact others_of_sameShares ⟨rfl, rfl, rfl, rfl⟩ _ _
  | receive place input =>
      unfold SessionState.does at ran
      dsimp only at ran
      split at ran
      · exact nomatch ran
      · rename_i received
        injection ran with ran
        obtain ⟨rfl, rfl⟩ := Prod.mk.inj ran
        exact others_connectionReceive settings zlib state.session state.pa received
  | insert place blocks =>
      injection ran with ran
      obtain ⟨rfl, rfl⟩ := Prod.mk.inj ran
      exact others_of_sameShares ⟨rfl, rfl, rfl, rfl⟩ _ _
  | putPackets place count =>
      injection ran with ran
      obtain ⟨rfl, rfl⟩ := Prod.mk.inj ran
      exact others_of_sameShares ⟨rfl, rfl, rfl, rfl⟩ _ _
  | takePackets place blockAllPackets priority packets =>
      injection ran with ran
      obtain ⟨rfl, rfl⟩ := Prod.mk.inj ran
      exact others_takePacketsFromAdapter settings zlib state.session blockAllPackets priority
        cedar state.connection state.pa packets
  | send place input =>
      injection ran with ran
      obtain ⟨rfl, rfl⟩ := Prod.mk.inj ran
      exact others_connectionSend state.session cedar state.connection input state.pa
  | handOver place =>
      injection ran with ran
      obtain ⟨rfl, rfl⟩ := Prod.mk.inj ran
      exact others_of_sameShares ⟨rfl, rfl, rfl, rfl⟩ _ _
  | store place data flooding =>
      unfold SessionState.does at ran
      dsimp only at ran
      split at ran
      · rename_i packetQueue hub
        injection ran with ran
        obtain ⟨rfl, rfl⟩ := Prod.mk.inj ran
        rw [hub]
        exact others_storePacketToHubPa settings zlib cedar state.connection packetQueue data
          flooding
      · exact nomatch ran
  | linkPut place halting data => exact nomatch ran
  | finish place =>
      injection ran with ran
      obtain ⟨rfl, rfl⟩ := Prod.mk.inj ran
      exact others_finishSession cedar state.connection state.pa
  | cleanup place =>
      injection ran with ran
      obtain ⟨rfl, rfl⟩ := Prod.mk.inj ran
      exact others_cleanupConnection cedar state.connection state.pa

theorem SessionState.phase_does
    {cedar after : Cedar}
    {state left : SessionState}
    {event : ServerEvent}
    (ran : state.does settings zlib cedar event = some (after, left)) :
    left.phase = state.phase ∨ (left.phase = .finished ∧ left.pa = .freed) ∨
      ∃ place, event = .cleanup place := by
  cases event with
  | start session kind => exact nomatch ran
  | linkPut place halting data => exact nomatch ran
  | receive place input =>
      unfold SessionState.does at ran
      dsimp only at ran
      split at ran
      · exact nomatch ran
      · injection ran with ran
        obtain ⟨rfl, rfl⟩ := Prod.mk.inj ran
        exact .inl rfl
  | store place data flooding =>
      unfold SessionState.does at ran
      dsimp only at ran
      split at ran
      · injection ran with ran
        obtain ⟨rfl, rfl⟩ := Prod.mk.inj ran
        exact .inl rfl
      · exact nomatch ran
  | finish place =>
      injection ran with ran
      obtain ⟨rfl, rfl⟩ := Prod.mk.inj ran
      exact .inr (.inl ⟨rfl, rfl⟩)
  | cleanup place => exact .inr (.inr ⟨place, rfl⟩)
  | _ =>
      injection ran with ran
      obtain ⟨rfl, rfl⟩ := Prod.mk.inj ran
      exact .inl rfl

variable {settings zlib}

theorem Server.Accounted.change
    {server after : Server}
    (accounted : server.Accounted)
    {place : Nat}
    {phase : Phase}
    {event : ServerEvent}
    (stepped : server.change place phase
      (fun state => state.does settings zlib server.cedar event) = some after)
    (fit : ∀ (state : SessionState) (cedar : Cedar) (left : SessionState),
      state.Fit → state.phase = phase →
      state.does settings zlib server.cedar event = some (cedar, left) → left.Fit) :
    after.Accounted := by
  unfold Server.change at stepped
  split at stepped
  · exact nomatch stepped
  · rename_i state found
    split at stepped
    · rename_i so
      split at stepped
      · exact nomatch stepped
      · rename_i cedar left ran
        injection stepped with stepped
        rw [← stepped]
        exact accounted.set found (state.others_does settings zlib ran)
          (fit state cedar left (accounted.fit state (List.mem_of_getElem? found)) so ran)
    · exact nomatch stepped

theorem SessionState.fit_does
    {cedar after : Cedar}
    {state left : SessionState}
    {event : ServerEvent}
    (running : state.phase = .running)
    (noCleanup : ∀ place, event ≠ .cleanup place)
    (ran : state.does settings zlib cedar event = some (after, left)) :
    left.Fit := by
  rcases state.phase_does settings zlib ran with same | ⟨finished, freed⟩ | ⟨place, cleanup⟩
  · exact fit_of_running (same.trans running)
  · refine ⟨fun _ => freed, fun cleaned => ?_⟩
    rw [finished] at cleaned
    exact nomatch cleaned
  · exact absurd cleanup (noCleanup place)

theorem SessionState.fit_cleanup
    {cedar after : Cedar}
    {state left : SessionState}
    {place : Nat}
    (fit : state.Fit)
    (finished : state.phase = .finished)
    (ran : state.does settings zlib cedar (.cleanup place) = some (after, left)) :
    left.Fit := by
  injection ran with ran
  obtain ⟨rfl, rfl⟩ := Prod.mk.inj ran
  have freed : state.pa = .freed := fit.freed (by rw [finished]; exact fun same => nomatch same)
  refine ⟨fun _ => freed, fun _ => ⟨rfl, ?_, ?_⟩⟩
  · unfold SessionState.queueShare
    dsimp only
    rw [freed]
    exact add_zero _
  · unfold SessionState.tcpShare
    dsimp only
    rw [freed]
    rfl

theorem Server.Accounted.linkPut
    {server after : Server}
    (accounted : server.Accounted)
    {place : Nat}
    {halting : Bool}
    {data : Option (List UInt8)}
    (stepped : server.linkPut settings zlib place halting data = some after) :
    after.Accounted := by
  unfold Server.linkPut at stepped
  split at stepped
  · exact nomatch stepped
  · rename_i state found
    split at stepped
    · rename_i k running link
      split at stepped
      · exact nomatch stepped
      · rename_i serverSession _
        have same := others_linkPaPutPacket settings zlib halting server.cedar state.connection k
          serverSession.connection.receivedBlocks data
        generalize linkPaPutPacket settings zlib halting server.cedar k
          serverSession.connection.receivedBlocks data = put at stepped same
        obtain ⟨cedar, last, receivedBlocks⟩ := put
        dsimp only at stepped same
        rw [← link] at same
        have changed := @Server.Accounted.set server accounted place state
          { state with pa := .link last } found cedar same (SessionState.fit_of_running running)
        generalize server.sessions.set place { state with pa := .link last } = sessions
          at stepped changed
        injection stepped with stepped
        rw [← stepped]
        let queued := fun state : SessionState =>
          { state with connection := { state.connection with receivedBlocks := receivedBlocks } }
        change Server.Accounted
          { cedar := cedar, sessions := sessions.modify k.serverSession queued }
        cases present : sessions[k.serverSession]? with
        | none =>
            rw [List.modify_eq_self (List.getElem?_eq_none_iff.mp present)]
            exact changed
        | some other =>
            have replaced : sessions.modify k.serverSession queued =
                sessions.set k.serverSession (queued other) := by
              rw [List.modify_eq_set_getElem?, present]
              rfl
            rw [replaced]
            have fit := changed.fit other (List.mem_of_getElem? present)
            exact @Server.Accounted.set { cedar := cedar, sessions := sessions } changed
              k.serverSession other (queued other) present cedar rfl
              ⟨fit.freed, fun cleaned => ⟨(fit.settled cleaned).fifo, (fit.settled cleaned).queue,
                (fit.settled cleaned).tcp⟩⟩
    · exact nomatch stepped

theorem Server.Accounted.start
    {server : Server}
    (accounted : server.Accounted)
    (session : Session)
    (kind : AdapterKind) :
    ({ server with sessions := server.sessions ++ [{ session := session, pa := kind.init }] } :
      Server).Accounted := by
  have nothing : ({ session := session, pa := kind.init } : SessionState).Settled := by
    cases kind with
    | hub => exact ⟨rfl, rfl, by simp [SessionState.tcpShare, AdapterKind.init,
        PacketAdapter.floodingSize, floodingSize_nil]⟩
    | link serverSession => exact ⟨rfl, rfl, rfl⟩
    | other => exact ⟨rfl, rfl, rfl⟩
  refine ⟨accounted.fifo.join nothing.fifo, accounted.queue.join nothing.queue,
    accounted.tcp.join nothing.tcp, ?_⟩
  intro state listed
  rcases List.mem_append.mp listed with old | new
  · exact accounted.fit state old
  · rw [List.mem_singleton.mp new]
    exact SessionState.fit_of_running rfl

theorem Server.Accounted.step
    {server after : Server}
    (accounted : server.Accounted)
    {event : ServerEvent}
    (stepped : server.step settings zlib event = some after) :
    after.Accounted := by
  have running : (∀ place, event ≠ .cleanup place) → ∀ place,
      server.change place .running (fun state => state.does settings zlib server.cedar event) =
        some after → after.Accounted :=
    fun noCleanup place changed => accounted.change changed fun _ _ _ _ so ran =>
      SessionState.fit_does so noCleanup ran
  cases event with
  | start session kind =>
      injection stepped with stepped
      rw [← stepped]
      exact accounted.start session kind
  | linkPut place halting data => exact accounted.linkPut stepped
  | cleanup place =>
      have changed : server.change place .finished
          (fun state => state.does settings zlib server.cedar (.cleanup place)) = some after :=
        stepped
      exact accounted.change changed fun _ _ _ fit finished ran =>
        SessionState.fit_cleanup fit finished ran
  | _ => exact running (fun _ same => nomatch same) _ stepped

variable (settings zlib)

/-- The states that a server comes to. -/
abbrev Server.Reached (server : Server) : Prop :=
  Reaches (Server.step settings zlib) (fun _ _ => True) {} server

variable {settings zlib}

theorem Server.Reached.accounted
    {server : Server}
    (reached : server.Reached settings zlib) :
    server.Accounted :=
  Reaches.invariant Server.Accounted reached Server.accounted_new
    fun _ _ _ accounted _ stepped => accounted.step stepped

/-- In every state that a server comes to, `FifoBudget` is the sum of `LastRecvFifoTotalSize`,
`QueueBudget` the sum of `LastRecvBlocksNum` and of what the cascade connections have counted
in the queues of their server sessions, and `CurrentTcpQueueSize` the sum of
`LastTcpQueueSize`, of `LastPacketQueueSize` and of the flooding blocks that wait in the ports
of hubs.  A connection that has been cleaned up has no share, and when all have been cleaned
up the counters are zero. -/
theorem budgets_eq_sums
    {server : Server}
    (reached : server.Reached settings zlib) :
    server.cedar.fifoBudget =
      (server.sessions.map fun state => state.connection.lastRecvFifoTotalSize).sum ∧
    server.cedar.queueBudget =
      (server.sessions.map fun state => state.connection.lastRecvBlocksNum).sum +
        (server.sessions.map fun state => state.pa.linkBlocksNum).sum ∧
    server.cedar.currentTcpQueueSize =
      (server.sessions.map fun state =>
          state.connection.lastTcpQueueSize + state.connection.lastPacketQueueSize).sum +
        (server.sessions.map fun state => state.pa.floodingSize).sum ∧
    (∀ state ∈ server.sessions, state.phase = .cleanedUp → state.Settled) ∧
    ((∀ state ∈ server.sessions, state.phase = .cleanedUp) →
      server.cedar.fifoBudget = 0 ∧ server.cedar.queueBudget = 0 ∧
        server.cedar.currentTcpQueueSize = 0) := by
  have accounted := reached.accounted
  have settled : ∀ state ∈ server.sessions, state.phase = .cleanedUp → state.Settled :=
    fun state listed cleaned => (accounted.fit state listed).settled cleaned
  refine ⟨accounted.fifo, ?_, ?_, settled, ?_⟩
  · rw [← List.sum_map_add]
    exact accounted.queue
  · rw [← List.sum_map_add]
    exact accounted.tcp
  · intro cleaned
    exact
      ⟨accounted.fifo.settled fun state listed => (settled state listed (cleaned state listed)).fifo,
        accounted.queue.settled fun state listed =>
          (settled state listed (cleaned state listed)).queue,
        accounted.tcp.settled fun state listed =>
          (settled state listed (cleaned state listed)).tcp⟩

/-- A server whose sessions do not compress. -/
def uncompressed : Zlib where
  compress := fun _ data => data
  uncompress := fun _ data => data

/-- A cascade connection puts a packet into the queue of its server session, and a packet is
flooded to a port of the hub. -/
def cascadeEvents : List ServerEvent :=
  [.start { useCompress := false } .other, .start { useCompress := false } (.link 0),
    .start { useCompress := false } .hub, .linkPut 1 false (some [1, 2, 3]), .linkPut 1 false none,
    .store 2 [1, 2, 3] true]

/-- What is on the counters after the packets. -/
theorem run_cascadeEvents :
    (run (Server.step {} uncompressed) cascadeEvents {}).map
        (fun server => (server.cedar.queueBudget, server.cedar.currentTcpQueueSize,
          (server.sessions.map fun state => state.connection.lastRecvBlocksNum).sum)) =
      some (1, 3, 0) := by
  decide +kernel

/-- The packets of a cascade connection are on `QueueBudget`, and the flooding packet is on
`CurrentTcpQueueSize`. -/
theorem cascade_budgets_eq_sums :
    ∃ server : Server, server.Reached {} uncompressed ∧
      server.cedar.queueBudget = 1 ∧
      server.cedar.queueBudget =
        (server.sessions.map fun state => state.connection.lastRecvBlocksNum).sum +
          (server.sessions.map fun state => state.pa.linkBlocksNum).sum ∧
      server.cedar.currentTcpQueueSize = 3 := by
  obtain ⟨server, ran, seen⟩ := Option.map_eq_some_iff.mp run_cascadeEvents
  have reached : server.Reached {} uncompressed := .of_run ran
  injection seen with queue seen
  injection seen with tcp _
  exact ⟨server, reached, queue, (budgets_eq_sums reached).2.1, tcp⟩

/-- The sum of `LastRecvBlocksNum` alone is not what is on `QueueBudget`. -/
theorem cascade_packets_on_queueBudget :
    ¬∀ server : Server, server.Reached {} uncompressed →
      server.cedar.queueBudget =
        (server.sessions.map fun state => state.connection.lastRecvBlocksNum).sum := by
  intro always
  obtain ⟨server, ran, seen⟩ := Option.map_eq_some_iff.mp run_cascadeEvents
  have sums := always server (.of_run ran)
  injection seen with queue seen
  injection seen with _ blocks
  rw [queue, blocks] at sums
  exact absurd sums (by decide)

end

end Tunnel
end SoftEther
