import SoftEther.Mayaqua.Buf
import SoftEther.Mayaqua.Fifo

/-!
# Connections of a VPN session

The data of `Connection.c`: blocks, TCP sockets and connections, with the counters of
`Cedar.c` that limit the queues of a whole server.  Times, traffic statistics and the
priority of a block are left out; compression and the cipher stream are parameters.
-/

namespace SoftEther
namespace Tunnel

def MAX_PACKET_SIZE : Nat := 1600

def KEEP_ALIVE_MAGIC : UInt32 := 0xffffffff

def MAX_KEEPALIVE_SIZE : Nat := 512

def RECV_BUF_SIZE : Nat := 65536

def UDP_NAT_T_PORT_SIGNATURE_IN_KEEP_ALIVE : List UInt8 :=
  ascii "NATT_MY_PORT"

/-- The global parameters that the connections go by; a configuration may change them. -/
structure Settings where
  queueBudget : UInt32 := 2048
  fifoBudget : UInt32 := 1600 * 1600 * 4
  maxStoredQueueNum : Nat := 1024
  maxBufferingPacketSize : UInt32 := 1600 * 1600
  maxSendSocketQueueNum : Nat := 128
  fewStored : maxStoredQueueNum + 1 < KEEP_ALIVE_MAGIC.toNat := by decide

/-- The counters of `CEDAR`. -/
structure Cedar where
  queueBudget : UInt32 := 0
  fifoBudget : UInt32 := 0
  currentTcpQueueSize : UInt32 := 0

namespace Cedar

variable (cedar : Cedar)

/-- `CedarAddQueueBudget`. -/
def addQueueBudget (diff : UInt32) : Cedar :=
  { cedar with queueBudget := cedar.queueBudget + diff }

/-- `CedarAddFifoBudget`. -/
def addFifoBudget (diff : UInt32) : Cedar :=
  { cedar with fifoBudget := cedar.fifoBudget + diff }

/-- `CedarAddCurrentTcpQueueSize`. -/
def addCurrentTcpQueueSize (diff : UInt32) : Cedar :=
  { cedar with currentTcpQueueSize := cedar.currentTcpQueueSize + diff }

/-- `CedarGetQueueBudgetBalance`. -/
def getQueueBudgetBalance (settings : Settings) : UInt32 :=
  if cedar.queueBudget ≤ settings.queueBudget then settings.queueBudget - cedar.queueBudget
  else 0

/-- `CedarGetFifoBudgetBalance`. -/
def getFifoBudgetBalance (settings : Settings) : UInt32 :=
  if cedar.fifoBudget ≤ settings.fifoBudget then settings.fifoBudget - cedar.fifoBudget
  else 0

end Cedar

/-- The compression library; the first argument is the size of the output buffer. -/
structure Zlib where
  compress : Nat → List UInt8 → List UInt8
  uncompress : Nat → List UInt8 → List UInt8

def calcCompress (size : Nat) : Nat :=
  size * 2 + 256

structure Block where
  /-- `Buf` and `Size`. -/
  buf : List UInt8
  sizeofData : Nat
  compressed : Bool
  isFlooding : Bool := false
  deriving DecidableEq

def Block.size (block : Block) : UInt32 :=
  UInt32.ofNat block.buf.length

/-- What `NewBlock` does with its data. -/
inductive Compression where
  /-- `0`. -/
  | none
  /-- `1`. -/
  | compress
  /-- `-1`. -/
  | expand
  deriving DecidableEq

def newBlock (zlib : Zlib) (data : List UInt8) : Compression → Block
  | .none => { buf := data, sizeofData := data.length, compressed := false }
  | .compress =>
      { buf := zlib.compress (calcCompress data.length) data
        sizeofData := data.length
        compressed := true }
  | .expand =>
      { buf := zlib.uncompress MAX_PACKET_SIZE data
        sizeofData := data.length
        compressed := false }

/-- `Mode` of a `TCPSOCK`. -/
inductive Mode where
  /-- `0`: the number of data blocks. -/
  | blockNum
  /-- `1`: the size of a data block. -/
  | blockSize
  /-- `2`: the body of a data block. -/
  | blockBody
  /-- `3`: the size of a keep-alive packet. -/
  | keepAliveSize
  /-- `4`: the body of a keep-alive packet. -/
  | keepAliveBody
  deriving DecidableEq

/-- The members of a `TCPSOCK` that the reception goes by, and what the reception does to
the socket and to the UDP acceleration. -/
structure RecvState where
  mode : Mode := .blockNum
  wantSize : Nat := 0
  nextBlockNum : Nat := 0
  nextBlockSize : Nat := 0
  currentPacketNum : Nat := 0
  /-- `Disconnect` has been called with the socket. -/
  disconnected : Bool := false
  /-- `YourPortByNatTServer` of the UDP acceleration, when a keep-alive packet has brought
  one. -/
  yourPortByNatTServer : Option Nat := none
  deriving DecidableEq

/-- A cipher stream: its bytes and how many have been used. -/
structure CipherStream where
  bytes : Nat → UInt8
  /-- The number of bytes that have been used. -/
  position : Nat := 0

/-- `Encrypt`, which is its own inverse. -/
def CipherStream.encrypt (stream : CipherStream) (data : List UInt8) :
    List UInt8 × CipherStream :=
  (data.mapIdx fun index byte => byte ^^^ stream.bytes (stream.position + index),
    { stream with position := stream.position + data.length })

structure TcpSock where
  /-- The members for the reception. -/
  recv : RecvState := {}
  recvFifo : Fifo UInt8 := Fifo.newFifo
  sendFifo : Fifo UInt8 := Fifo.newFifo
  /-- `RecvKey`, when the session uses it (`UseFastRC4`). -/
  recvKey : Option CipherStream := none
  /-- `SendKey`, when the session uses it. -/
  sendKey : Option CipherStream := none

/-- The data with a key, when there is one, and the key after it. -/
def encryptWith : Option CipherStream → List UInt8 → List UInt8 × Option CipherStream
  | none, data => (data, none)
  | some stream, data =>
      let (data, stream) := stream.encrypt data
      (data, some stream)

namespace TcpSock

variable (ts : TcpSock)

def writeSendFifo (data : List UInt8) : TcpSock :=
  let (data, key) := encryptWith ts.sendKey data
  { ts with sendFifo := ts.sendFifo.writeFifo data, sendKey := key }

def writeRecvFifo (data : List UInt8) : TcpSock :=
  let (data, key) := encryptWith ts.recvKey data
  { ts with recvFifo := ts.recvFifo.writeFifo data, recvKey := key }

end TcpSock

structure Connection where
  tcpSockList : List TcpSock := []
  receivedBlocks : List Block := []
  sendBlocks : List Block := []
  sendBlocks2 : List Block := []
  currentSendQueueSize : UInt32 := 0
  lastTcpQueueSize : UInt32 := 0
  lastPacketQueueSize : UInt32 := 0
  lastRecvFifoTotalSize : UInt32 := 0
  lastRecvBlocksNum : UInt32 := 0

/-- `SESSION`: the members that its connection goes by. -/
structure Session where
  useCompress : Bool
  /-- `IsInProc` of the connection. -/
  isInProc : Bool := false
  qos : Bool := false
  /-- `size_quota` of a socket, from `MaxConnection`. -/
  sizeQuota : Nat := 1600 * 200

end Tunnel
end SoftEther
