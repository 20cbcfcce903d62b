import SoftEther.Cedar.Tunnel.Receive

/-!
# Transmission

`SendKeepAlive`, and the part of `ConnectionSend` that writes the blocks of a queue to a
TCP socket.
-/

namespace SoftEther
namespace Tunnel

/-- `SendKeepAlive` with the random bytes and the port for NAT traversal, when there is
one. -/
def sendKeepAlive (ts : TcpSock) (random : List UInt8) (nattPort : Option UInt16) : TcpSock :=
  let random := random.take (random.length % MAX_KEEPALIVE_SIZE)
  let buf :=
    match nattPort with
    | none => random
    | some myport =>
        UDP_NAT_T_PORT_SIGNATURE_IN_KEEP_ALIVE ++ bigEndian 2 myport.toNat ++
          random.drop (UDP_NAT_T_PORT_SIGNATURE_IN_KEEP_ALIVE.length + 2)
  let ts := ts.writeSendFifo (writeBufInt KEEP_ALIVE_MAGIC)
  let ts := ts.writeSendFifo (writeBufInt (UInt32.ofNat buf.length))
  ts.writeSendFifo buf

def writeBlock (ts : TcpSock) (block : Block) : TcpSock :=
  (ts.writeSendFifo (writeBufInt block.size)).writeSendFifo block.buf

/-- The blocks of a queue are written to the socket. -/
def writeBlocks (ts : TcpSock) (queue : List Block) : TcpSock :=
  queue.foldl writeBlock
    (ts.writeSendFifo (writeBufInt (UInt32.ofNat queue.length)))

/-- What `ConnectionSend` does with a queue and the socket that is selected for it: nothing
with an empty queue, and the blocks are released when the socket has too much to send. -/
def sendQueue (session : Session) (ts : TcpSock) (queue : List Block) : TcpSock :=
  if queue = [] then ts
  else if session.sizeQuota ≤ ts.sendFifo.fifoSize then ts
  else writeBlocks ts queue

end Tunnel
end SoftEther
