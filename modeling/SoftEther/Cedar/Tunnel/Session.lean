import SoftEther.Cedar.Tunnel.Receive
import SoftEther.Cedar.Tunnel.Send

/-!
# Sessions

What the thread of a session does with its connection: `ConnectionReceive`, the part of
`SessionMain` that takes packets from the packet adapter, `ConnectionSend`, the end of the
session and `CleanupConnection`; and the packet adapters of a hub port and of a cascade
connection.  The counters of the server are passed through.
-/

namespace SoftEther
namespace Tunnel

/-- `CONNECTION_BULK_COMPRESS_SIGNATURE`, as it stands in front of the data. -/
def CONNECTION_BULK_COMPRESS_SIGNATURE : List UInt8 :=
  [0xde, 0xad, 0xbe, 0xef, 0xca, 0xfe, 0xfa, 0xce]

section

variable (settings : Settings)
variable (zlib : Zlib)
variable (session : Session)

/-- The block of data that has come over an R-UDP bulk transfer. -/
def bulkBlock (data : List UInt8) : Block :=
  if 8 < data.length ∧ data.take 8 = CONNECTION_BULK_COMPRESS_SIGNATURE then
    newBlock zlib (data.drop 8) .expand
  else newBlock zlib data .none

structure SocketInput where
  bulk : List (List UInt8) := []
  tube : Option (List (List UInt8)) := none
  /-- What comes in over TCP. -/
  incoming : Incoming := { bytes := [], counts := [] }

/-- Blocks that come in one after the other. -/
def receiveBlocks (reception : Reception) (blocks : List Block) : Reception :=
  blocks.foldl (receiveBlock settings) { reception with currentPacketIndex := 0 }

/-- The reception from the sockets: those that are left, and the sums of
`recv_fifo_size_middle_update` and `current_recv_fifo_size`. -/
def receiveSockets :
    List (TcpSock × SocketInput) → Reception →
      Option (List TcpSock × Reception × UInt32 × UInt32)
  | [], reception => some ([], reception, 0, 0)
  | (ts, input) :: rest, reception =>
      let reception := receiveBlocks settings reception (input.bulk.map (bulkBlock zlib))
      if session.isInProc then
        match input.tube with
        | none => receiveSockets rest reception
        | some datas =>
            let blocks := datas.map fun data => newBlock zlib data .none
            match receiveSockets rest (receiveBlocks settings reception blocks) with
            | none => none
            | some (socks, reception, middle, fifoSize) =>
                some (ts :: socks, reception, middle, fifoSize)
      else
        match receiveSocket settings zlib session input.incoming ts reception with
        | none => none
        | some received =>
            match receiveSockets rest received.reception with
            | none => none
            | some (socks, reception, middle, fifoSize) =>
                some
                  (received.sock.toList ++ socks, reception, received.middleUpdate + middle,
                    received.recvFifoSize + fifoSize)

structure ConnectionInput where
  recvBlockQueue : List Block := []
  sockets : Nat → SocketInput := fun _ => {}

/-- The members of a list, each with what there is for its place. -/
def withInputs (list : List TcpSock) (inputs : Nat → α) : List (TcpSock × α) :=
  list.zipIdx.map fun (ts, index) => (ts, inputs index)

/-- `ConnectionReceive` over TCP; nothing when the loop over a FIFO does not end. -/
def connectionReceive (cedar : Cedar) (c : Connection) (input : ConnectionInput) :
    Option (Cedar × Connection) :=
  let reception : Reception :=
    { cedar := cedar
      receivedBlocks := c.receivedBlocks
      lastRecvBlocksNum := c.lastRecvBlocksNum }
  -- the index is declared inside the loop
  let reception :=
    input.recvBlockQueue.foldl
      (fun reception block => receiveBlocks settings reception [block]) reception
  match receiveSockets settings zlib session (withInputs c.tcpSockList input.sockets)
      reception with
  | none => none
  | some (socks, reception, recvFifoSizeMiddleUpdate, currentRecvFifoSize) =>
      let diff := currentRecvFifoSize - c.lastRecvFifoTotalSize
      let reception :=
        { reception with
          cedar := reception.cedar.addFifoBudget (diff - recvFifoSizeMiddleUpdate) }
      let reception := reception.updateQueueBudget
      some
        (reception.cedar,
          { c with
            tcpSockList := socks
            receivedBlocks := reception.receivedBlocks
            lastRecvFifoTotalSize := currentRecvFifoSize
            lastRecvBlocksNum := reception.lastRecvBlocksNum })

/-- What a transmission depends on. -/
structure SendInput where
  keepAlives : Nat → Option (List UInt8 × Option UInt16) := fun _ => none
  /-- The socket for `SendBlocks2`. -/
  tsHp : Option Nat := none
  /-- The socket for `SendBlocks`. -/
  ts : Option Nat := none
  /-- The blocks go to the UDP acceleration or to the R-UDP bulk transfer. -/
  notOverTcp : Bool := false
  /-- The bytes that each socket sends, unless it is disconnected. -/
  sent : Nat → Option Nat := fun _ => some 0

/-- What becomes of the blocks of a queue that is sent through a socket. -/
def sendBlocksTo (c : Connection) (input : SendInput) (tss : Nat) (queue : List Block) :
    Connection :=
  { c with
    currentSendQueueSize :=
      queue.foldl (fun size block => size - block.size) c.currentSendQueueSize
    tcpSockList :=
      if session.isInProc || input.notOverTcp then c.tcpSockList
      else c.tcpSockList.modify tss fun ts => sendQueue session ts queue }

/-- The sum of the sizes of the `SendFifo`s. -/
def tcpQueueSize (socks : List TcpSock) : UInt32 :=
  (socks.map fun ts => UInt32.ofNat ts.sendFifo.fifoSize).foldl (· + ·) 0

/-- `ConnectionSend` over TCP. -/
def connectionSend (cedar : Cedar) (c : Connection) (input : SendInput) : Cedar × Connection :=
  let socks :=
    if session.isInProc then c.tcpSockList
    else
      (withInputs c.tcpSockList input.keepAlives).map fun (ts, keepAlive) =>
        match keepAlive with
        | none => ts
        | some (random, nattPort) => sendKeepAlive ts random nattPort
  let size := tcpQueueSize socks
  let cedar := cedar.addCurrentTcpQueueSize (size - c.lastTcpQueueSize)
  let c := { c with tcpSockList := socks, lastTcpQueueSize := size }
  let c :=
    match input.tsHp, input.ts with
    | some tsHp, some ts =>
        let c := { sendBlocksTo session c input tsHp c.sendBlocks2 with sendBlocks2 := [] }
        { sendBlocksTo session c input ts c.sendBlocks with sendBlocks := [] }
    | _, _ => c
  let c :=
    if session.isInProc then c
    else
      { c with
        tcpSockList :=
          (withInputs c.tcpSockList input.sent).filterMap fun (ts, sent) =>
            match sent with
            | none => none
            | some size => some { ts with sendFifo := ts.sendFifo.readFifo size } }
  (cedar, c)

/-- `ConnectionSend` on a connection that is not over TCP: the blocks go to what the session is
connected to. -/
def handOverBlocks (c : Connection) : Connection :=
  { c with
    currentSendQueueSize :=
      c.sendBlocks.foldl (fun size block => size - block.size) c.currentSendQueueSize
    sendBlocks := [] }

/-- `StorePacketToHubPa` with a packet that passes the checks; `flooding` says that it is
flooded and comes from a session. -/
def storePacketToHubPa
    (cedar : Cedar) (packetQueue : List Block) (data : List UInt8) (flooding : Bool) :
    Cedar × List Block :=
  let block := newBlock zlib data .none
  if packetQueue.length < settings.maxStoredQueueNum then
    if flooding then
      (cedar.addCurrentTcpQueueSize block.size,
        packetQueue ++ [{ block with isFlooding := true }])
    else (cedar, packetQueue ++ [block])
  else (cedar, packetQueue)

/-- A block leaves a packet queue. -/
def releaseFlooding (cedar : Cedar) (block : Block) : Cedar :=
  if block.isFlooding then cedar.addCurrentTcpQueueSize (-block.size) else cedar

/-- `HubPaGetNextPacket`; no data when there is no packet. -/
def hubPaGetNextPacket (cedar : Cedar) : List Block → List UInt8 × Cedar × List Block
  | [] => ([], cedar, [])
  | block :: packetQueue => (block.buf, releaseFlooding cedar block, packetQueue)

def hubPaFree (cedar : Cedar) (packetQueue : List Block) : Cedar :=
  packetQueue.foldl releaseFlooding cedar

/-- `LINK`: the members for the queue of the server session. -/
structure Link where
  /-- The place of `ServerSession`. -/
  serverSession : Nat
  lastServerConnectionReceivedBlocksNum : UInt32 := 0
  flag1 : UInt32 := 0
  lockFlag : Bool := false

/-- The number of blocks in the queue of the server session is accounted for. -/
def Link.update (k : Link) (cedar : Cedar) (receivedBlocks : List Block) : Cedar × Link :=
  let currentNum := UInt32.ofNat receivedBlocks.length
  (cedar.addQueueBudget (currentNum - k.lastServerConnectionReceivedBlocksNum),
    { k with lastServerConnectionReceivedBlocksNum := currentNum })

/-- `LinkPaPutPacket` with a packet, or after the last one; `receivedBlocks` is the queue of
the server session. -/
def linkPaPutPacket
    (halting : Bool) (cedar : Cedar) (k : Link) (receivedBlocks : List Block)
    (data : Option (List UInt8)) :
    Cedar × Link × List Block :=
  let k := { k with flag1 := k.flag1 + 1 }
  let (cedar, k) := if k.flag1 % 32 = 0 then k.update cedar receivedBlocks else (cedar, k)
  match data with
  | some data =>
      let (cedar, k) :=
        if k.lockFlag then (cedar, k)
        else { k with lockFlag := true }.update cedar receivedBlocks
      if halting then (cedar, k, receivedBlocks)
      else if cedar.getFifoBudgetBalance settings = 0 then (cedar, k, receivedBlocks)
      else if receivedBlocks.length < settings.maxStoredQueueNum then
        (cedar, k, receivedBlocks ++ [newBlock zlib data .none])
      else (cedar, k, receivedBlocks)
  | none =>
      let (cedar, k) := k.update cedar receivedBlocks
      (cedar, { k with lockFlag := false }, receivedBlocks)

/-- `LinkPaFree`: the part for the counters. -/
def linkPaFree (cedar : Cedar) (k : Link) : Cedar × Link :=
  (cedar.addQueueBudget (-k.lastServerConnectionReceivedBlocksNum),
    { k with lastServerConnectionReceivedBlocksNum := 0 })

inductive PacketAdapter where
  /-- A port of a hub, with its `PacketQueue`. -/
  | hub (packetQueue : List Block)
  /-- A cascade connection. -/
  | link (k : Link)
  /-- Another one. -/
  | other
  /-- `Free` has been called. -/
  | freed

/-- `GetNextPacket`: of another adapter the packets are given. -/
def getNextPacket (cedar : Cedar) (pa : PacketAdapter) (packets : List (List UInt8)) :
    List UInt8 × Cedar × PacketAdapter × List (List UInt8) :=
  match pa with
  | .hub packetQueue =>
      let (data, cedar, packetQueue) := hubPaGetNextPacket cedar packetQueue
      (data, cedar, .hub packetQueue, packets)
  | _ => (packets.headD [], cedar, pa, packets.tail)

/-- `Free` of a packet adapter. -/
def paFree (cedar : Cedar) (pa : PacketAdapter) : Cedar :=
  match pa with
  | .hub packetQueue => hubPaFree cedar packetQueue
  | .link k => (linkPaFree cedar k).1
  | .other => cedar
  | .freed => cedar

/-- A packet of the adapter is put into a queue, or discarded. -/
def bufferPacket (blockAllPackets : Bool) (priority : List UInt8 → Bool) (c : Connection)
    (packet : List UInt8) : Connection :=
  if settings.maxBufferingPacketSize < c.currentSendQueueSize ∨ blockAllPackets then c
  else
    let block := newBlock zlib packet (if session.useCompress then .compress else .none)
    if priority packet && session.qos then
      if settings.maxStoredQueueNum < c.sendBlocks2.length then c
      else
        { c with
          currentSendQueueSize := c.currentSendQueueSize + block.size
          sendBlocks2 := c.sendBlocks2 ++ [block] }
    else if settings.maxStoredQueueNum < c.sendBlocks.length then c
    else
      { c with
        currentSendQueueSize := c.currentSendQueueSize + block.size
        sendBlocks := c.sendBlocks ++ [block] }

def updatePacketQueueSize (cedar : Cedar) (c : Connection) : Cedar × Connection :=
  (cedar.addCurrentTcpQueueSize (c.currentSendQueueSize - c.lastPacketQueueSize),
    { c with lastPacketQueueSize := c.currentSendQueueSize })

/-- The loop over the packets of the adapter, for so many more packets; `i` have been taken. -/
def takePackets (blockAllPackets : Bool) (priority : List UInt8 → Bool) :
    Nat → Nat → Cedar → Connection → PacketAdapter → List (List UInt8) →
      Cedar × Connection × PacketAdapter
  | 0, _, cedar, c, pa, _ => (cedar, c, pa)
  | left + 1, i, cedar, c, pa, packets =>
      let (packet, cedar, pa, packets) := getNextPacket cedar pa packets
      if packet = [] then (cedar, c, pa)
      else
        let c := bufferPacket settings zlib session blockAllPackets priority c packet
        let (cedar, c) := if i % 16 = 0 then updatePacketQueueSize cedar c else (cedar, c)
        takePackets blockAllPackets priority left (i + 1) cedar c pa packets

/-- The part of `SessionMain` that takes packets from the adapter. -/
def takePacketsFromAdapter (blockAllPackets : Bool) (priority : List UInt8 → Bool)
    (cedar : Cedar) (c : Connection) (pa : PacketAdapter) (packets : List (List UInt8)) :
    Cedar × Connection × PacketAdapter :=
  let (cedar, c, pa) :=
    takePackets settings zlib session blockAllPackets priority
      (max 1 settings.maxSendSocketQueueNum) 0 cedar c pa packets
  let (cedar, c) := updatePacketQueueSize cedar c
  (cedar, c, pa)

/-- The end of `SessionMain`. -/
def finishSession (cedar : Cedar) (c : Connection) (pa : PacketAdapter) : Cedar × Connection :=
  let cedar := cedar.addCurrentTcpQueueSize (-c.lastTcpQueueSize)
  let c := { c with lastTcpQueueSize := 0 }
  let (cedar, c) := updatePacketQueueSize cedar c
  (paFree cedar pa, c)

/-- `CleanupConnection`: the part for the counters. -/
def cleanupConnection (cedar : Cedar) (c : Connection) : Cedar × Connection :=
  let cedar := cedar.addFifoBudget (-c.lastRecvFifoTotalSize)
  let cedar := cedar.addQueueBudget (-c.lastRecvBlocksNum)
  let cedar := cedar.addCurrentTcpQueueSize (-c.lastTcpQueueSize)
  let cedar := cedar.addCurrentTcpQueueSize (-c.lastPacketQueueSize)
  (cedar,
    { c with
      lastRecvFifoTotalSize := 0
      lastRecvBlocksNum := 0
      lastTcpQueueSize := 0
      lastPacketQueueSize := 0 })

/-! ## A server -/

/-- How far a session has come. -/
inductive Phase where
  /-- `SessionMain` runs. -/
  | running
  /-- `SessionMain` has ended. -/
  | finished
  /-- `CleanupConnection` has been called. -/
  | cleanedUp
  deriving DecidableEq

/-- A session of a server, with its connection and its packet adapter. -/
structure SessionState where
  session : Session
  connection : Connection := {}
  pa : PacketAdapter
  /-- How far it has come. -/
  phase : Phase := .running

structure Server where
  /-- The counters. -/
  cedar : Cedar := {}
  sessions : List SessionState := []

/-- The packet adapters that a session starts with. -/
inductive AdapterKind where
  | hub
  | link (serverSession : Nat)
  /-- Another one. -/
  | other

def AdapterKind.init : AdapterKind → PacketAdapter
  | .hub => .hub []
  | .link serverSession => .link { serverSession := serverSession }
  | .other => .other

/-- What happens on a server; the number is the place of the session. -/
inductive ServerEvent where
  | start (session : Session) (kind : AdapterKind)
  | addSocket (place : Nat) (ts : TcpSock)
  /-- `ConnectionReceive` over TCP. -/
  | receive (place : Nat) (input : ConnectionInput)
  | insert (place : Nat) (blocks : List Block)
  /-- `SessionMain` passes so many received blocks to the packet adapter. -/
  | putPackets (place : Nat) (count : Nat)
  /-- `SessionMain` takes packets from the packet adapter. -/
  | takePackets (place : Nat) (blockAllPackets : Bool) (priority : List UInt8 → Bool)
      (packets : List (List UInt8))
  /-- `ConnectionSend` over TCP. -/
  | send (place : Nat) (input : SendInput)
  /-- `ConnectionSend` over another protocol. -/
  | handOver (place : Nat)
  /-- `StorePacketToHubPa`. -/
  | store (place : Nat) (data : List UInt8) (flooding : Bool)
  /-- `LinkPaPutPacket`. -/
  | linkPut (place : Nat) (halting : Bool) (data : Option (List UInt8))
  /-- `SessionMain` ends. -/
  | finish (place : Nat)
  /-- `CleanupConnection`. -/
  | cleanup (place : Nat)

/-- A session that has come so far does something. -/
def Server.change (server : Server) (place : Nat) (phase : Phase)
    (does : SessionState → Option (Cedar × SessionState)) : Option Server :=
  match server.sessions[place]? with
  | none => none
  | some state =>
      if state.phase = phase then
        match does state with
        | none => none
        | some (cedar, state) =>
            some { cedar := cedar, sessions := server.sessions.set place state }
      else none

/-- Blocks that come in over another protocol. -/
def insertBlocks (receivedBlocks blocks : List Block) : List Block :=
  blocks.foldl
    (fun receivedBlocks block =>
      if MAX_PACKET_SIZE < block.buf.length then receivedBlocks
      else if receivedBlocks.length < settings.maxStoredQueueNum then receivedBlocks ++ [block]
      else receivedBlocks)
    receivedBlocks

def SessionState.does (cedar : Cedar) (state : SessionState) :
    ServerEvent → Option (Cedar × SessionState)
  | .addSocket _ ts =>
      let c := state.connection
      some (cedar, { state with connection := { c with tcpSockList := c.tcpSockList ++ [ts] } })
  | .receive _ input =>
      match connectionReceive settings zlib state.session cedar state.connection input with
      | none => none
      | some (cedar, c) => some (cedar, { state with connection := c })
  | .insert _ blocks =>
      let c := state.connection
      some (cedar,
        { state with
          connection :=
            { c with receivedBlocks := insertBlocks settings c.receivedBlocks blocks } })
  | .putPackets _ count =>
      let c := state.connection
      some (cedar,
        { state with connection := { c with receivedBlocks := c.receivedBlocks.drop count } })
  | .takePackets _ blockAllPackets priority packets =>
      let (cedar, c, pa) :=
        takePacketsFromAdapter settings zlib state.session blockAllPackets priority cedar
          state.connection state.pa packets
      some (cedar, { state with connection := c, pa := pa })
  | .send _ input =>
      let (cedar, c) := connectionSend state.session cedar state.connection input
      some (cedar, { state with connection := c })
  | .handOver _ => some (cedar, { state with connection := handOverBlocks state.connection })
  | .store _ data flooding =>
      match state.pa with
      | .hub packetQueue =>
          let (cedar, packetQueue) :=
            storePacketToHubPa settings zlib cedar packetQueue data flooding
          some (cedar, { state with pa := .hub packetQueue })
      | _ => none
  | .finish _ =>
      let (cedar, c) := finishSession cedar state.connection state.pa
      some (cedar, { state with connection := c, pa := .freed, phase := .finished })
  | .cleanup _ =>
      let (cedar, c) := cleanupConnection cedar state.connection
      some (cedar, { state with connection := c, phase := .cleanedUp })
  | _ => none

/-- A packet goes from a cascade connection to the queue of its server session. -/
def Server.linkPut (server : Server) (place : Nat) (halting : Bool)
    (data : Option (List UInt8)) : Option Server :=
  match server.sessions[place]? with
  | none => none
  | some state =>
      match state.phase, state.pa with
      | .running, .link k =>
          match server.sessions[k.serverSession]? with
          | none => none
          | some serverSession =>
              let (cedar, link, receivedBlocks) :=
                linkPaPutPacket settings zlib halting server.cedar k
                  serverSession.connection.receivedBlocks data
              some
                { cedar := cedar
                  sessions :=
                    (server.sessions.set place { state with pa := .link link }).modify
                      k.serverSession fun state =>
                        { state with
                          connection := { state.connection with receivedBlocks := receivedBlocks } } }
      | _, _ => none

/-- A server takes a step; nothing when the event cannot happen. -/
def Server.step (server : Server) (event : ServerEvent) : Option Server :=
  match event with
  | .start session kind =>
      some
        { server with
          sessions := server.sessions ++ [{ session := session, pa := kind.init }] }
  | .linkPut place halting data => server.linkPut settings zlib place halting data
  | .cleanup place =>
      server.change place .finished fun state => state.does settings zlib server.cedar event
  | .addSocket place _ | .receive place _ | .insert place _ | .putPackets place _
  | .takePackets place _ _ _ | .send place _ | .handOver place | .store place _ _
  | .finish place =>
      server.change place .running fun state => state.does settings zlib server.cedar event

end

end Tunnel
end SoftEther
