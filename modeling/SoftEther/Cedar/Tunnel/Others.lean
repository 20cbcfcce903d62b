import Mathlib.Data.UInt
import Mathlib.Algebra.BigOperators.Group.List.Basic
import Mathlib.Tactic.Abel
import SoftEther.Cedar.Tunnel.Session

/-!
# What the others have on the counters

Whatever a session does, it changes the counters of the server by what it has there itself:
what the other sessions have on them stays the same.  The signed differences of a reception,
of the packet queue, of a cascade connection and of a hub port telescope.
-/

namespace SoftEther
namespace Tunnel

/-- The number of blocks that a cascade connection has on `QueueBudget`. -/
def PacketAdapter.linkBlocksNum : PacketAdapter → UInt32
  | .link k => k.lastServerConnectionReceivedBlocksNum
  | _ => 0

def floodingSize (packetQueue : List Block) : UInt32 :=
  ((packetQueue.filter Block.isFlooding).map Block.size).sum

/-- The size of the flooding blocks that wait in a port of a hub. -/
def PacketAdapter.floodingSize : PacketAdapter → UInt32
  | .hub packetQueue => Tunnel.floodingSize packetQueue
  | _ => 0

/-- What is on the counters of a server beside what one session has there. -/
@[ext]
structure Others where
  /-- On `FifoBudget`. -/
  fifo : UInt32
  /-- On `QueueBudget`. -/
  queue : UInt32
  /-- On `CurrentTcpQueueSize`. -/
  tcp : UInt32

/-- What the others have on the counters, when a session has this connection and this
adapter. -/
def others (cedar : Cedar) (c : Connection) (pa : PacketAdapter) : Others where
  fifo := cedar.fifoBudget - c.lastRecvFifoTotalSize
  queue := cedar.queueBudget - (c.lastRecvBlocksNum + pa.linkBlocksNum)
  tcp := cedar.currentTcpQueueSize -
    (c.lastTcpQueueSize + c.lastPacketQueueSize + pa.floodingSize)

section

variable (settings : Settings)
variable (zlib : Zlib)
variable (session : Session)

/-! ## Reception -/

/-- What a reception has not changed, up to what it has added itself. -/
structure Reception.Kept (before after : Reception) : Prop where
  fifo : after.cedar.fifoBudget = before.cedar.fifoBudget
  queue : after.cedar.queueBudget - after.lastRecvBlocksNum =
    before.cedar.queueBudget - before.lastRecvBlocksNum
  tcp : after.cedar.currentTcpQueueSize = before.cedar.currentTcpQueueSize

theorem Reception.Kept.refl (reception : Reception) : reception.Kept reception :=
  ⟨rfl, rfl, rfl⟩

theorem Reception.Kept.trans
    {first second third : Reception}
    (before : first.Kept second)
    (after : second.Kept third) :
    first.Kept third :=
  ⟨after.fifo.trans before.fifo, after.queue.trans before.queue, after.tcp.trans before.tcp⟩

/-- What the difference of the blocks adds is what the connection has more. -/
theorem Reception.kept_updateQueueBudget (reception : Reception) :
    reception.Kept reception.updateQueueBudget := by
  refine ⟨rfl, ?_, rfl⟩
  unfold Reception.updateQueueBudget Cedar.addQueueBudget
  dsimp only
  abel

theorem kept_receiveBlock (reception : Reception) (block : Block) :
    reception.Kept (receiveBlock settings reception block) := by
  have inserted : reception.Kept (insertReveicedBlockToQueue settings reception block) := by
    unfold insertReveicedBlockToQueue
    split <;> exact ⟨rfl, rfl, rfl⟩
  unfold receiveBlock
  split
  · exact .refl _
  · split
    · exact ⟨rfl, rfl, rfl⟩
    · dsimp only
      split
      · have updated := inserted.trans (Reception.kept_updateQueueBudget _)
        exact ⟨updated.fifo, updated.queue, updated.tcp⟩
      · exact ⟨inserted.fifo, inserted.queue, inserted.tcp⟩

theorem kept_foldl_receiveBlock (blocks : List Block) (reception : Reception) :
    reception.Kept (blocks.foldl (receiveBlock settings) reception) := by
  induction blocks generalizing reception with
  | nil => exact .refl _
  | cons block blocks inductionHypothesis =>
      exact (kept_receiveBlock settings reception block).trans (inductionHypothesis _)

theorem kept_receiveBlocks (reception : Reception) (blocks : List Block) :
    reception.Kept (receiveBlocks settings reception blocks) := by
  have kept := kept_foldl_receiveBlock settings blocks { reception with currentPacketIndex := 0 }
  exact ⟨kept.fifo, kept.queue, kept.tcp⟩

theorem kept_processFifo
    {rounds : Nat}
    {ts left : TcpSock}
    {reception after : Reception}
    (ran : processFifo settings zlib session rounds ts reception = some (left, after)) :
    reception.Kept after := by
  induction rounds generalizing ts reception with
  | zero =>
      unfold processFifo at ran
      split at ran
      · injection ran with ran
        rw [← (Prod.mk.inj ran).2]
        exact .refl _
      · exact nomatch ran
  | succ rounds inductionHypothesis =>
      unfold processFifo at ran
      split at ran
      · injection ran with ran
        rw [← (Prod.mk.inj ran).2]
        exact .refl _
      · dsimp only at ran
        have later := inductionHypothesis ran
        split at later
        · exact later
        · exact (kept_receiveBlock settings reception _).trans later

theorem recvStart_adds
    {closed : Bool}
    {counts : List Nat}
    {ts : TcpSock}
    {bytes : List UInt8}
    {cedar : Cedar}
    {middle : UInt32} :
    (recvStart settings closed counts ts bytes cedar middle).2.2.1.fifoBudget -
        (recvStart settings closed counts ts bytes cedar middle).2.2.2.1 =
      cedar.fifoBudget - middle ∧
    (recvStart settings closed counts ts bytes cedar middle).2.2.1.queueBudget =
      cedar.queueBudget ∧
    (recvStart settings closed counts ts bytes cedar middle).2.2.1.currentTcpQueueSize =
      cedar.currentTcpQueueSize := by
  induction counts generalizing ts bytes cedar middle with
  | nil =>
      unfold recvStart
      dsimp only
      split <;> exact ⟨rfl, rfl, rfl⟩
  | cons count counts inductionHypothesis =>
      unfold recvStart
      dsimp only
      split
      · split
        · exact ⟨rfl, rfl, rfl⟩
        · generalize bytes.take (min count _) = data
          have added : (cedar.addFifoBudget (UInt32.ofNat data.length)).fifoBudget -
              (middle + UInt32.ofNat data.length) = cedar.fifoBudget - middle := by
            unfold Cedar.addFifoBudget
            dsimp only
            abel
          split
          · obtain ⟨fifo, queue, tcp⟩ := @inductionHypothesis (ts.writeRecvFifo data)
              (bytes.drop data.length) (cedar.addFifoBudget (UInt32.ofNat data.length))
              (middle + UInt32.ofNat data.length)
            exact ⟨fifo.trans added, queue, tcp⟩
          · exact ⟨added, rfl, rfl⟩
      · exact ⟨rfl, rfl, rfl⟩

/-- What a reception has not changed, up to what it has added itself and to a sum of what it has
added to `FifoBudget`. -/
structure Reception.KeptBeside (before after : Reception) (middle : UInt32) : Prop where
  fifo : after.cedar.fifoBudget - middle = before.cedar.fifoBudget
  queue : after.cedar.queueBudget - after.lastRecvBlocksNum =
    before.cedar.queueBudget - before.lastRecvBlocksNum
  tcp : after.cedar.currentTcpQueueSize = before.cedar.currentTcpQueueSize

theorem Reception.Kept.beside
    {before middle after : Reception}
    {sum : UInt32}
    (kept : before.Kept middle)
    (beside : middle.KeptBeside after sum) :
    before.KeptBeside after sum :=
  ⟨beside.fifo.trans kept.fifo, beside.queue.trans kept.queue, beside.tcp.trans kept.tcp⟩

theorem Reception.KeptBeside.trans
    {first second third : Reception}
    {early late : UInt32}
    (before : first.KeptBeside second early)
    (after : second.KeptBeside third late) :
    first.KeptBeside third (early + late) where
  fifo := by
    rw [← before.fifo, ← after.fifo]
    abel
  queue := after.queue.trans before.queue
  tcp := after.tcp.trans before.tcp

theorem keptBeside_receiveSocket
    {incoming : Incoming}
    {ts : TcpSock}
    {reception : Reception}
    {received : SocketReception}
    (ran : receiveSocket settings zlib session incoming ts reception = some received) :
    reception.KeptBeside received.reception received.middleUpdate := by
  unfold receiveSocket at ran
  dsimp only at ran
  generalize (if ts.recv.wantSize = 0 then
    { ts with recv := { ts.recv with wantSize := 4 } } else ts) = woken at ran
  generalize (incoming.closed || woken.recv.disconnected) = closed at ran
  generalize (if woken.recv.disconnected then [] else incoming.counts) = counts at ran
  have adds := @recvStart_adds settings closed counts woken incoming.bytes reception.cedar 0
  generalize recvStart settings closed counts woken incoming.bytes reception.cedar 0 = started
    at ran adds
  obtain ⟨fed, bytes, cedar, middle, result⟩ := started
  dsimp only at ran adds
  obtain ⟨fifo, queue, tcp⟩ := adds
  rw [sub_zero] at fifo
  split at ran
  · injection ran with ran
    rw [← ran]
    refine ⟨fifo, ?_, tcp⟩
    dsimp only
    rw [queue]
  · split at ran
    · exact nomatch ran
    · rename_i processed after looped
      have kept := kept_processFifo settings zlib session looped
      injection ran with ran
      rw [← ran]
      refine ⟨?_, ?_, kept.tcp.trans tcp⟩
      · dsimp only
        rw [kept.fifo]
        exact fifo
      · dsimp only
        rw [kept.queue]
        dsimp only
        rw [queue]

theorem keptBeside_receiveSockets
    {inputs : List (TcpSock × SocketInput)}
    {reception after : Reception}
    {socks : List TcpSock}
    {middle fifoSize : UInt32}
    (ran : receiveSockets settings zlib session inputs reception =
      some (socks, after, middle, fifoSize)) :
    reception.KeptBeside after middle := by
  induction inputs generalizing reception after socks middle fifoSize with
  | nil =>
      injection ran with ran
      injection ran with _ ran
      injection ran with same ran
      injection ran with zero _
      rw [← same, ← zero]
      exact ⟨sub_zero _, rfl, rfl⟩
  | cons input rest inductionHypothesis =>
      obtain ⟨ts, input⟩ := input
      unfold receiveSockets at ran
      dsimp only at ran
      have bulk := kept_receiveBlocks settings reception (input.bulk.map (bulkBlock zlib))
      generalize receiveBlocks settings reception (input.bulk.map (bulkBlock zlib)) = early
        at ran bulk
      split at ran
      · split at ran
        · exact bulk.beside (inductionHypothesis ran)
        · rename_i datas _
          split at ran
          · exact nomatch ran
          · rename_i ended
            injection ran with ran
            injection ran with _ ran
            injection ran with same ran
            injection ran with middleSame _
            rw [← same, ← middleSame]
            exact bulk.beside ((kept_receiveBlocks settings early _).beside
              (inductionHypothesis ended))
      · split at ran
        · exact nomatch ran
        · rename_i received one
          split at ran
          · exact nomatch ran
          · rename_i ended
            injection ran with ran
            injection ran with _ ran
            injection ran with same ran
            injection ran with middleSame _
            rw [← same, ← middleSame]
            exact bulk.beside ((keptBeside_receiveSocket settings zlib session one).trans
              (inductionHypothesis ended))

theorem kept_recvBlockQueue (blocks : List Block) (reception : Reception) :
    reception.Kept
      (blocks.foldl (fun reception block => receiveBlocks settings reception [block])
        reception) := by
  induction blocks generalizing reception with
  | nil => exact .refl _
  | cons block blocks inductionHypothesis =>
      exact (kept_receiveBlocks settings reception [block]).trans (inductionHypothesis _)

/-- A reception keeps what the others have on the counters. -/
theorem others_connectionReceive
    {cedar after : Cedar}
    {c left : Connection}
    {input : ConnectionInput}
    (pa : PacketAdapter)
    (ran : connectionReceive settings zlib session cedar c input = some (after, left)) :
    others after left pa = others cedar c pa := by
  unfold connectionReceive at ran
  dsimp only at ran
  have accelerated := kept_recvBlockQueue settings input.recvBlockQueue
    ⟨cedar, c.receivedBlocks, c.lastRecvBlocksNum, 0, [], 0⟩
  split at ran
  · exact nomatch ran
  · rename_i socks reception middle fifoSize looped
    have beside := accelerated.beside (keptBeside_receiveSockets settings zlib session looped)
    injection ran with ran
    obtain ⟨rfl, rfl⟩ := Prod.mk.inj ran
    obtain ⟨fifo, queue, tcp⟩ := beside
    dsimp only at fifo queue tcp
    unfold others Reception.updateQueueBudget Cedar.addQueueBudget Cedar.addFifoBudget
    dsimp only
    ext1
    · dsimp only
      rw [← fifo]
      abel
    · dsimp only
      rw [← sub_sub, ← sub_sub, ← queue]
      abel
    · dsimp only
      rw [tcp]

/-- The members of a connection that say what it has on the counters. -/
structure Connection.SameShares (before after : Connection) : Prop where
  lastRecvFifoTotalSize : after.lastRecvFifoTotalSize = before.lastRecvFifoTotalSize
  lastRecvBlocksNum : after.lastRecvBlocksNum = before.lastRecvBlocksNum
  lastTcpQueueSize : after.lastTcpQueueSize = before.lastTcpQueueSize
  lastPacketQueueSize : after.lastPacketQueueSize = before.lastPacketQueueSize

theorem others_of_sameShares
    {before after : Connection}
    (same : before.SameShares after)
    (cedar : Cedar)
    (pa : PacketAdapter) :
    others cedar after pa = others cedar before pa := by
  unfold others
  rw [same.lastRecvFifoTotalSize, same.lastRecvBlocksNum, same.lastTcpQueueSize,
    same.lastPacketQueueSize]

theorem others_lastTcpQueueSize
    (cedar : Cedar)
    (c : Connection)
    (pa : PacketAdapter)
    (size : UInt32) :
    others (cedar.addCurrentTcpQueueSize (size - c.lastTcpQueueSize))
      { c with lastTcpQueueSize := size } pa = others cedar c pa := by
  unfold others Cedar.addCurrentTcpQueueSize
  ext1
  · rfl
  · rfl
  · dsimp only
    abel

/-- A transmission keeps what the others have on the counters. -/
theorem others_connectionSend
    (cedar : Cedar)
    (c : Connection)
    (input : SendInput)
    (pa : PacketAdapter) :
    others (connectionSend session cedar c input).1 (connectionSend session cedar c input).2 pa =
      others cedar c pa := by
  unfold connectionSend
  dsimp only
  generalize (if session.isInProc then c.tcpSockList
    else (withInputs c.tcpSockList input.keepAlives).map _) = socks
  rw [← others_lastTcpQueueSize cedar c pa (tcpQueueSize socks)]
  apply others_of_sameShares
  cases input.tsHp with
  | none => split <;> exact ⟨rfl, rfl, rfl, rfl⟩
  | some tsHp =>
      cases input.ts with
      | none => split <;> exact ⟨rfl, rfl, rfl, rfl⟩
      | some ts => split <;> exact ⟨rfl, rfl, rfl, rfl⟩

theorem others_updatePacketQueueSize
    (cedar : Cedar)
    (c : Connection)
    (pa : PacketAdapter) :
    others (updatePacketQueueSize cedar c).1 (updatePacketQueueSize cedar c).2 pa =
      others cedar c pa := by
  unfold others updatePacketQueueSize Cedar.addCurrentTcpQueueSize
  ext1
  · rfl
  · rfl
  · dsimp only
    abel

/-! ## Packet adapters -/

theorem floodingSize_nil : floodingSize [] = 0 :=
  List.sum_nil

theorem floodingSize_cons (block : Block) (packetQueue : List Block) :
    floodingSize (block :: packetQueue) =
      (if block.isFlooding then block.size else 0) + floodingSize packetQueue := by
  unfold floodingSize
  cases flooding : block.isFlooding <;> simp [flooding]

theorem floodingSize_append (first second : List Block) :
    floodingSize (first ++ second) = floodingSize first + floodingSize second := by
  simp [floodingSize]

theorem others_storePacketToHubPa
    (cedar : Cedar)
    (c : Connection)
    (packetQueue : List Block)
    (data : List UInt8)
    (flooding : Bool) :
    others (storePacketToHubPa settings zlib cedar packetQueue data flooding).1 c
        (.hub (storePacketToHubPa settings zlib cedar packetQueue data flooding).2) =
      others cedar c (.hub packetQueue) := by
  unfold storePacketToHubPa
  dsimp only
  split
  · split
    · unfold others Cedar.addCurrentTcpQueueSize PacketAdapter.floodingSize
      ext1
      · rfl
      · rfl
      · dsimp only
        rw [floodingSize_append, floodingSize_cons, floodingSize_nil, if_pos rfl]
        change cedar.currentTcpQueueSize + (newBlock zlib data .none).size -
            (c.lastTcpQueueSize + c.lastPacketQueueSize +
              (floodingSize packetQueue + ((newBlock zlib data .none).size + 0))) =
          cedar.currentTcpQueueSize -
            (c.lastTcpQueueSize + c.lastPacketQueueSize + floodingSize packetQueue)
        abel
    · unfold others PacketAdapter.floodingSize
      ext1
      · rfl
      · rfl
      · dsimp only
        rw [floodingSize_append, floodingSize_cons, floodingSize_nil]
        have plain : (newBlock zlib data .none).isFlooding = false := rfl
        rw [plain]
        simp
  · rfl

theorem currentTcpQueueSize_releaseFlooding (cedar : Cedar) (block : Block) :
    (releaseFlooding cedar block).currentTcpQueueSize =
      cedar.currentTcpQueueSize - (if block.isFlooding then block.size else 0) := by
  unfold releaseFlooding Cedar.addCurrentTcpQueueSize
  split
  · exact (sub_eq_add_neg _ _).symm
  · exact (sub_zero _).symm

theorem releaseFlooding_budgets (cedar : Cedar) (block : Block) :
    (releaseFlooding cedar block).fifoBudget = cedar.fifoBudget ∧
      (releaseFlooding cedar block).queueBudget = cedar.queueBudget := by
  unfold releaseFlooding
  split <;> exact ⟨rfl, rfl⟩

theorem others_hubPaGetNextPacket
    (cedar : Cedar)
    (c : Connection)
    (packetQueue : List Block) :
    others (hubPaGetNextPacket cedar packetQueue).2.1 c
        (.hub (hubPaGetNextPacket cedar packetQueue).2.2) =
      others cedar c (.hub packetQueue) := by
  cases packetQueue with
  | nil => rfl
  | cons block packetQueue =>
      obtain ⟨fifo, queue⟩ := releaseFlooding_budgets cedar block
      unfold others hubPaGetNextPacket PacketAdapter.floodingSize
      ext1
      · dsimp only
        rw [fifo]
      · dsimp only
        rw [queue]
        rfl
      · dsimp only
        rw [currentTcpQueueSize_releaseFlooding, floodingSize_cons]
        abel

theorem others_getNextPacket
    (cedar : Cedar)
    (c : Connection)
    (pa : PacketAdapter)
    (packets : List (List UInt8)) :
    others (getNextPacket cedar pa packets).2.1 c (getNextPacket cedar pa packets).2.2.1 =
      others cedar c pa := by
  cases pa with
  | hub packetQueue => exact others_hubPaGetNextPacket cedar c packetQueue
  | link k => rfl
  | other => rfl
  | freed => rfl

theorem others_hubPaFree
    (cedar : Cedar)
    (c : Connection)
    (packetQueue : List Block) :
    others (hubPaFree cedar packetQueue) c .freed = others cedar c (.hub packetQueue) := by
  induction packetQueue generalizing cedar with
  | nil => rfl
  | cons block packetQueue inductionHypothesis =>
      have first := others_hubPaGetNextPacket cedar c (block :: packetQueue)
      exact (inductionHypothesis (releaseFlooding cedar block)).trans first

theorem others_paFree
    (cedar : Cedar)
    (c : Connection)
    (pa : PacketAdapter) :
    others (paFree cedar pa) c .freed = others cedar c pa := by
  cases pa with
  | hub packetQueue => exact others_hubPaFree cedar c packetQueue
  | link k =>
      unfold others paFree linkPaFree Cedar.addQueueBudget
      ext1
      · rfl
      · dsimp only [PacketAdapter.linkBlocksNum]
        abel
      · rfl
  | other => rfl
  | freed => rfl

theorem others_link_update
    (cedar : Cedar)
    (c : Connection)
    (k : Link)
    (receivedBlocks : List Block) :
    others (k.update cedar receivedBlocks).1 c (.link (k.update cedar receivedBlocks).2) =
      others cedar c (.link k) := by
  unfold others Link.update Cedar.addQueueBudget
  ext1
  · rfl
  · dsimp only [PacketAdapter.linkBlocksNum]
    abel
  · rfl

theorem others_link
    {first second : Link}
    (same : second.lastServerConnectionReceivedBlocksNum =
      first.lastServerConnectionReceivedBlocksNum)
    (cedar : Cedar)
    (c : Connection) :
    others cedar c (.link second) = others cedar c (.link first) := by
  unfold others PacketAdapter.linkBlocksNum
  dsimp only
  rw [same]
  rfl

theorem others_linkPaPutPacket
    (halting : Bool)
    (cedar : Cedar)
    (c : Connection)
    (k : Link)
    (receivedBlocks : List Block)
    (data : Option (List UInt8)) :
    others (linkPaPutPacket settings zlib halting cedar k receivedBlocks data).1 c
        (.link (linkPaPutPacket settings zlib halting cedar k receivedBlocks data).2.1) =
      others cedar c (.link k) := by
  unfold linkPaPutPacket
  dsimp only
  have counted : ∀ counted : Cedar × Link,
      (if (k.flag1 + 1) % 32 = 0 then { k with flag1 := k.flag1 + 1 }.update cedar receivedBlocks
        else (cedar, { k with flag1 := k.flag1 + 1 })) = counted →
      others counted.1 c (.link counted.2) = others cedar c (.link k) := by
    intro counted same
    rw [← same]
    split
    · rw [others_link_update]
      exact others_link rfl cedar c
    · exact others_link rfl cedar c
  generalize (if (k.flag1 + 1) % 32 = 0 then
    { k with flag1 := k.flag1 + 1 }.update cedar receivedBlocks
    else (cedar, { k with flag1 := k.flag1 + 1 })) = early at counted ⊢
  obtain ⟨cedar, k⟩ := early
  have counted := counted _ rfl
  dsimp only at counted ⊢
  rw [← counted]
  cases data with
  | none =>
      dsimp only
      rw [← others_link_update cedar c k receivedBlocks]
      exact others_link rfl _ c
  | some data =>
      have locked : ∀ locked : Cedar × Link,
          (if k.lockFlag then (cedar, k)
            else { k with lockFlag := true }.update cedar receivedBlocks) = locked →
          others locked.1 c (.link locked.2) = others cedar c (.link k) := by
        intro locked same
        rw [← same]
        split
        · rfl
        · rw [others_link_update]
          exact others_link rfl cedar c
      dsimp only
      generalize (if k.lockFlag then (cedar, k)
        else { k with lockFlag := true }.update cedar receivedBlocks) = late at locked ⊢
      obtain ⟨after, last⟩ := late
      have locked := locked _ rfl
      dsimp only at locked ⊢
      rw [← locked]
      split
      · rfl
      · split
        · rfl
        · split <;> rfl

/-! ## `SessionMain` -/

theorem sameShares_bufferPacket
    (blockAllPackets : Bool)
    (priority : List UInt8 → Bool)
    (c : Connection)
    (packet : List UInt8) :
    c.SameShares (bufferPacket settings zlib session blockAllPackets priority c packet) := by
  unfold bufferPacket
  split
  · exact ⟨rfl, rfl, rfl, rfl⟩
  · dsimp only
    split
    · split <;> exact ⟨rfl, rfl, rfl, rfl⟩
    · split <;> exact ⟨rfl, rfl, rfl, rfl⟩

theorem others_takePackets
    (blockAllPackets : Bool)
    (priority : List UInt8 → Bool)
    (left i : Nat)
    (cedar : Cedar)
    (c : Connection)
    (pa : PacketAdapter)
    (packets : List (List UInt8)) :
    others (takePackets settings zlib session blockAllPackets priority left i cedar c pa packets).1
        (takePackets settings zlib session blockAllPackets priority left i cedar c pa packets).2.1
        (takePackets settings zlib session blockAllPackets priority left i cedar c pa
          packets).2.2 =
      others cedar c pa := by
  induction left generalizing i cedar c pa packets with
  | zero => rfl
  | succ left inductionHypothesis =>
      unfold takePackets
      have next := others_getNextPacket cedar c pa packets
      generalize getNextPacket cedar pa packets = got at next ⊢
      obtain ⟨packet, cedar, pa, packets⟩ := got
      dsimp only at next ⊢
      rw [← next]
      split
      · rfl
      · have buffered := others_of_sameShares
          (sameShares_bufferPacket settings zlib session blockAllPackets priority c packet) cedar pa
        generalize bufferPacket settings zlib session blockAllPackets priority c packet = fuller
          at buffered ⊢
        rw [← buffered]
        split
        · have updated := others_updatePacketQueueSize cedar fuller pa
          generalize updatePacketQueueSize cedar fuller = accounted at updated ⊢
          rw [← updated]
          exact inductionHypothesis _ _ _ _ _
        · exact inductionHypothesis _ _ _ _ _

theorem others_takePacketsFromAdapter
    (blockAllPackets : Bool)
    (priority : List UInt8 → Bool)
    (cedar : Cedar)
    (c : Connection)
    (pa : PacketAdapter)
    (packets : List (List UInt8)) :
    others
        (takePacketsFromAdapter settings zlib session blockAllPackets priority cedar c pa
          packets).1
        (takePacketsFromAdapter settings zlib session blockAllPackets priority cedar c pa
          packets).2.1
        (takePacketsFromAdapter settings zlib session blockAllPackets priority cedar c pa
          packets).2.2 =
      others cedar c pa := by
  unfold takePacketsFromAdapter
  have taken := others_takePackets settings zlib session blockAllPackets priority
    (max 1 settings.maxSendSocketQueueNum) 0 cedar c pa packets
  generalize takePackets settings zlib session blockAllPackets priority
    (max 1 settings.maxSendSocketQueueNum) 0 cedar c pa packets = took at taken ⊢
  rw [← taken]
  exact others_updatePacketQueueSize _ _ _

theorem others_finishSession
    (cedar : Cedar)
    (c : Connection)
    (pa : PacketAdapter) :
    others (finishSession cedar c pa).1 (finishSession cedar c pa).2 .freed =
      others cedar c pa := by
  unfold finishSession
  have none : -c.lastTcpQueueSize = 0 - c.lastTcpQueueSize := (zero_sub _).symm
  dsimp only
  rw [others_paFree, others_updatePacketQueueSize, none]
  exact others_lastTcpQueueSize cedar c pa 0

theorem others_cleanupConnection
    (cedar : Cedar)
    (c : Connection)
    (pa : PacketAdapter) :
    others (cleanupConnection cedar c).1 (cleanupConnection cedar c).2 pa =
      others cedar c pa := by
  unfold others cleanupConnection Cedar.addCurrentTcpQueueSize Cedar.addQueueBudget
    Cedar.addFifoBudget
  ext1
  · dsimp only
    abel
  · dsimp only
    abel
  · dsimp only
    abel

end

end Tunnel
end SoftEther
