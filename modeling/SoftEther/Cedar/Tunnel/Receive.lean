import SoftEther.Cedar.Tunnel.Defs
import SoftEther.Library.StreamDecoder

/-!
# Reception

`ConnectionReceive` on a connection over TCP: the state machine that finds the blocks in
the bytes of a socket, the queue of the blocks that have come, and the counters of the
server.  What comes from the sockets is part of the event.
-/

namespace SoftEther
namespace Tunnel

open Library

/-- The `UINT` in front of a buffer. -/
def readUint (buf : List UInt8) : Nat :=
  fromBigEndian (buf.take 4)

/-- The port that a keep-alive packet brings. -/
def natTPort (body : List UInt8) : Option Nat :=
  let signature := UDP_NAT_T_PORT_SIGNATURE_IN_KEEP_ALIVE
  if signature.length + 2 ≤ body.length ∧ body.take signature.length = signature then
    let port := fromBigEndian ((body.drop signature.length).take 2)
    if port ≠ 0 then some port else none
  else none

/-- How much of the FIFO the phase reads. -/
def usedSize (recv : RecvState) : Nat :=
  match recv.mode with
  | .blockNum | .blockSize | .keepAliveSize => 4
  | .blockBody | .keepAliveBody => recv.nextBlockSize

/-- What the `switch` of the reception does with the bytes it reads; the data of a block
when one is complete. -/
def processMode (recv : RecvState) (buf : List UInt8) : RecvState × Option (List UInt8) :=
  match recv.mode with
  | .blockNum =>
      let sz := readUint buf
      ({ recv with
          wantSize := 4
          nextBlockNum := sz
          currentPacketNum := 0
          mode :=
            if sz ≠ 0 then
              if sz = KEEP_ALIVE_MAGIC.toNat then .keepAliveSize else .blockSize
            else .blockNum },
        none)
  | .blockSize =>
      let sz := readUint buf
      let recv :=
        { recv with
          disconnected := recv.disconnected || decide (MAX_PACKET_SIZE * 2 < sz)
          nextBlockSize := min sz (MAX_PACKET_SIZE * 2)
          wantSize := min sz (MAX_PACKET_SIZE * 2) }
      if recv.wantSize ≠ 0 then ({ recv with mode := .blockBody }, none)
      else
        ({ recv with
            wantSize := 4
            currentPacketNum := recv.currentPacketNum + 1
            mode :=
              if recv.nextBlockNum ≤ recv.currentPacketNum + 1 then .blockNum
              else .blockSize },
          none)
  | .blockBody =>
      ({ recv with
          wantSize := 4
          currentPacketNum := recv.currentPacketNum + 1
          mode :=
            if recv.nextBlockNum ≤ recv.currentPacketNum + 1 then .blockNum else .blockSize },
        some (buf.take recv.nextBlockSize))
  | .keepAliveSize =>
      let sz := readUint buf
      ({ recv with
          mode := .keepAliveBody
          disconnected := recv.disconnected || decide (MAX_KEEPALIVE_SIZE < sz)
          nextBlockSize := min sz MAX_KEEPALIVE_SIZE
          wantSize := sz },
        none)
  | .keepAliveBody =>
      ({ recv with
          mode := .blockNum
          yourPortByNatTServer :=
            match natTPort (buf.take recv.nextBlockSize) with
            | some port => some port
            | none => recv.yourPortByNatTServer
          wantSize := 4 },
        none)

section

variable (settings : Settings)
variable (zlib : Zlib)
variable (session : Session)

/-- A reception: the server, the connection, how many blocks have come into the queue, and
what has been done with the blocks so far. -/
structure Reception where
  /-- The server. -/
  cedar : Cedar
  receivedBlocks : List Block
  lastRecvBlocksNum : UInt32
  currentPacketIndex : Nat := 0
  inserted : List Block := []
  /-- The number of blocks that there was no room for. -/
  refused : Nat := 0

/-- The number of blocks in the queue is accounted for. -/
def Reception.updateQueueBudget (reception : Reception) : Reception :=
  let currentRecvBlockNum := UInt32.ofNat reception.receivedBlocks.length
  { reception with
    cedar :=
      reception.cedar.addQueueBudget (currentRecvBlockNum - reception.lastRecvBlocksNum)
    lastRecvBlocksNum := currentRecvBlockNum }

def insertReveicedBlockToQueue (reception : Reception) (block : Block) : Reception :=
  if reception.receivedBlocks.length < settings.maxStoredQueueNum then
    { reception with
      receivedBlocks := reception.receivedBlocks ++ [block]
      inserted := reception.inserted ++ [block] }
  else { reception with refused := reception.refused + 1 }

/-- A block comes into the queue when its size and the budget allow it. -/
def receiveBlock (reception : Reception) (block : Block) : Reception :=
  if MAX_PACKET_SIZE < block.buf.length then reception
  else if reception.cedar.getQueueBudgetBalance settings = 0 then
    { reception with refused := reception.refused + 1 }
  else
    let reception := insertReveicedBlockToQueue settings reception block
    let reception :=
      if reception.currentPacketIndex % 32 = 0 then reception.updateQueueBudget else reception
    { reception with currentPacketIndex := reception.currentPacketIndex + 1 }

/-! ## The bytes of a socket -/

/-- The block that the data of a body makes. -/
def blockOf (data : List UInt8) : Block :=
  newBlock zlib data (if session.useCompress then .expand else .none)

/-- The loop over the data in the FIFO, for so many rounds. -/
def processFifo : Nat → TcpSock → Reception → Option (TcpSock × Reception)
  | rounds, ts, reception =>
      if ts.recvFifo.fifoSize < ts.recv.wantSize then some (ts, reception)
      else
        match rounds with
        | 0 => none
        | rounds + 1 =>
            let (recv, body) := processMode ts.recv ts.recvFifo.contents
            let ts :=
              { ts with recv := recv, recvFifo := ts.recvFifo.readFifo (usedSize ts.recv) }
            let reception :=
              match body with
              | none => reception
              | some data => receiveBlock settings reception (blockOf zlib session data)
            processFifo rounds ts reception

/-- The rounds that the loop needs at most. -/
def roundsFor (ts : TcpSock) : Nat :=
  2 * ts.recvFifo.fifoSize + 2

/-- What a reception from a socket returns. -/
inductive RecvResult where
  /-- `0`: the connection is closed. -/
  | closed
  /-- `SOCK_LATER`. -/
  | later
  | data
  deriving DecidableEq

/-- What has come in for a socket, and how `Recv` hands it out. -/
structure Incoming where
  bytes : List UInt8
  /-- The number of bytes that each `Recv` has to hand out. -/
  counts : List Nat
  closed : Bool := false
  /-- Nothing has come for the time-out of the session. -/
  timedOut : Bool := false

/-- `RECV_START`: the socket, the bytes that are left, the sum of the sizes
(`recv_fifo_size_middle_update`), and the last result. -/
def recvStart
    (closed : Bool) :
    List Nat → TcpSock → List UInt8 → Cedar → UInt32 →
      TcpSock × List UInt8 × Cedar × UInt32 × RecvResult
  | counts, ts, bytes, cedar, middle =>
      let currentFifoBudget := (cedar.getFifoBudgetBalance settings).toNat
      if ts.recvFifo.fifoSize < currentFifoBudget then
        match counts with
        | [] => (ts, bytes, cedar, middle, if closed then .closed else .later)
        | count :: counts =>
            let recvBufSize := min (currentFifoBudget - ts.recvFifo.fifoSize) RECV_BUF_SIZE
            let data := bytes.take (min count recvBufSize)
            if data = [] then
              (ts, bytes, cedar, middle, if closed then .closed else .later)
            else
              let fifoSizeLimit :=
                min (cedar.getFifoBudgetBalance settings) settings.maxBufferingPacketSize
              let size := UInt32.ofNat data.length
              let ts := ts.writeRecvFifo data
              let bytes := bytes.drop data.length
              let cedar := cedar.addFifoBudget size
              let middle := middle + size
              if ts.recvFifo.fifoSize < fifoSizeLimit.toNat then
                recvStart closed counts ts bytes cedar middle
              else (ts, bytes, cedar, middle, .data)
      else (ts, bytes, cedar, middle, .later)

/-- What a reception from a socket leaves: the socket, unless it has been released, the bytes
that have not been handed out, and the sizes that the connection adds up. -/
structure SocketReception where
  sock : Option TcpSock
  bytes : List UInt8
  /-- What has been done with the blocks. -/
  reception : Reception
  /-- What is added to `recv_fifo_size_middle_update`. -/
  middleUpdate : UInt32
  /-- What is added to `current_recv_fifo_size`. -/
  recvFifoSize : UInt32

/-- The reception from a socket over TCP; nothing when the loop over the FIFO does not
end. -/
def receiveSocket (incoming : Incoming) (ts : TcpSock) (reception : Reception) :
    Option SocketReception :=
  -- Read for sizeof(UINT) first
  let ts :=
    if ts.recv.wantSize = 0 then { ts with recv := { ts.recv with wantSize := 4 } } else ts
  let counts := if ts.recv.disconnected then [] else incoming.counts
  let (ts, bytes, cedar, middle, result) :=
    recvStart settings (incoming.closed || ts.recv.disconnected) counts ts incoming.bytes
      reception.cedar 0
  let reception := { reception with cedar := cedar, currentPacketIndex := 0 }
  if result = .closed ∨ (result = .later ∧ incoming.timedOut) then
    some
      { sock := none
        bytes := bytes
        reception := reception
        middleUpdate := middle
        recvFifoSize := 0 }
  else
    match processFifo settings zlib session (roundsFor ts) ts reception with
    | none => none
    | some (processed, reception) =>
        some
          { sock := some processed
            bytes := bytes
            reception := reception
            middleUpdate := middle
            recvFifoSize := UInt32.ofNat ts.recvFifo.fifoSize }

end

end Tunnel
end SoftEther
