import SoftEther.Cedar.L2tp.Packet
import SoftEther.Mayaqua.List

/-!
# The L2TP server

`IPsec_L2TP.c` from the reception of a UDP packet to the interrupts.  A tunnel is worked on
together with the packets that are sent for it; a PPP thread and an EtherIP server are seen
as the queues between them and their session.  Interrupts may come at any time, so the
times at which they are asked for are left out.
-/

namespace SoftEther
namespace L2tp

open Network

/-- `L2TP_SEQ_LT`. -/
def seqLT (a b : UInt16) : Bool :=
  (a - b) &&& 0x8000 ≠ 0

def L2TP_PACKET_RESEND_INTERVAL : Nat := 500

def L2TP_TUNNEL_DISCONNECT_TIMEOUT : Nat := 3000

def L2TP_TUNNEL_TIMEOUT : Nat := 60 * 1000

def L2TP_HELLO_INTERVAL : Nat := 8801

def L2TP_HELLO_SUPRESS_MAX_THRETHORD_NUM_SEND_QUEUE : Nat := 32

def L2TP_QUOTA_MAX_NUM_TUNNELS_PER_IP : Nat := 1000

def L2TP_QUOTA_MAX_NUM_TUNNELS : Nat := 30000

def L2TP_QUOTA_MAX_NUM_SESSIONS_PER_TUNNEL : Nat := 1024

def L2TP_WINDOW_SIZE : Nat := 16

abbrev L2TP_MESSAGE_TYPE_SCCRQ : UInt16 := 1

abbrev L2TP_MESSAGE_TYPE_SCCRP : UInt16 := 2

abbrev L2TP_MESSAGE_TYPE_SCCCN : UInt16 := 3

abbrev L2TP_MESSAGE_TYPE_STOPCCN : UInt16 := 4

abbrev L2TP_MESSAGE_TYPE_HELLO : UInt16 := 6

abbrev L2TP_MESSAGE_TYPE_ICRQ : UInt16 := 10

abbrev L2TP_MESSAGE_TYPE_ICRP : UInt16 := 11

abbrev L2TP_MESSAGE_TYPE_ICCN : UInt16 := 12

abbrev L2TP_MESSAGE_TYPE_CDN : UInt16 := 14

abbrev L2TPV3_PW_TYPE_ETHERNET : UInt16 := 5

abbrev L2TPV3_PW_TYPE_ETHERNET_VLAN : UInt16 := 4

/-! ## Data -/

/-- `L2TP_QUEUE`. -/
structure Queue where
  /-- `L2TPPacket`, or the packet that `Buf` was built from. -/
  packet : Packet
  ns : UInt16
  nextSendTick : Nat := 0
  /-- A record for the proofs: how many control packets the tunnel sent before. -/
  number : Nat := 0
  deriving DecidableEq

/-- `Thread` of a session and its two tubes. -/
structure PppThread where
  /-- The data in `TubeRecv`, from L2TP to PPP. -/
  tubeRecv : List (List UInt8) := []
  /-- The data in `TubeSend`, from PPP to L2TP. -/
  tubeSend : List (List UInt8) := []
  /-- `IsTubeConnected`. -/
  connected : Bool := true
  /-- `IntParam1` of `TubeRecv`. -/
  intParam1 : UInt16 := 0
  /-- `IntParam2` of `TubeRecv`. -/
  intParam2 : UInt8 := 0
  deriving DecidableEq

/-- `ETHERIP_SERVER` as its session sees it. -/
structure EtherIpServer where
  /-- The blocks that `EtherIPProcRecvPackets` was called with. -/
  received : List (List UInt8) := []
  sendPacketList : List (List UInt8) := []
  deriving DecidableEq

/-- `L2TP_SESSION`. -/
structure Session where
  isV3 : Bool
  isCiscoV3 : Bool
  /-- `SessionId1`, the id that the client assigned. -/
  sessionId1 : UInt32
  /-- `SessionId2`, the id that the server assigned. -/
  sessionId2 : UInt32
  established : Bool := false
  wantToDisconnect : Bool := false
  disconnecting : Bool := false
  disconnectTimeout : Nat := 0
  /-- `Thread`, `TubeSend` and `TubeRecv`, which are there when `HasThread` is set. -/
  thread : Option PppThread := none
  pseudowireType : UInt16 := 0
  etherIP : Option EtherIpServer := none
  deriving DecidableEq

def Session.hasThread (s : Session) : Bool :=
  s.thread.isSome

/-- `L2TP_TUNNEL`. -/
structure Tunnel where
  isV3 : Bool
  isCiscoV3 : Bool
  isYamahaV3 : Bool
  clientIp : Ip
  clientPort : Nat
  serverIp : Ip
  serverPort : Nat
  /-- `TunnelId1`, the id that the client assigned. -/
  tunnelId1 : UInt32
  /-- `TunnelId2`, the id that the server assigned. -/
  tunnelId2 : UInt32
  sessionList : List Session := []
  sendQueue : List Queue := []
  recvQueue : MayaquaList Queue := {}
  nextNs : UInt16 := 0
  lastNr : UInt16 := 0
  established : Bool := false
  stateChanged : Bool := false
  wantToDisconnect : Bool := false
  disconnecting : Bool := false
  disconnectTimeout : Nat := 0
  lastRecvTick : Nat
  timedout : Bool := false
  lastHelloSent : Nat
  numSent : Nat := 0
  /-- A record for the proofs: the packets that `L2TPProcessRecvControlPacket` was called
  with. -/
  processed : List Packet := []
  deriving DecidableEq

/-- A UDP packet of the server, before it is written as bytes. -/
structure SentPacket where
  srcIP : Ip
  srcPort : Nat
  dstIP : Ip
  destPort : Nat
  packet : Packet
  processed : List Packet := []
  deriving DecidableEq

/-- What a tunnel sees of the server while it is worked on. -/
structure Env where
  now : Nat
  halt : Bool
  /-- `IkeServer` and `IkeClient` are there. -/
  ike : Bool
  /-- What `Rand32` returns, call by call. -/
  draws : List UInt32 := []
  /-- A session of L2TPv3 of some tunnel has the id. -/
  inUse : UInt32 → Bool := fun _ => false
  /-- The value of a variable that one branch sends without having set it. -/
  unset : UInt16 := 0

/-- A tunnel that is worked on, and what comes of it. -/
structure Work where
  tunnel : Tunnel
  /-- The packets for `SendPacketList`. -/
  sendPacketList : List SentPacket := []
  /-- A record for the proofs: the sessions given to `FreeL2TPSession`. -/
  freed : List Session := []

/-- `NewAVP` with a value in network byte order. -/
def newAVP
    (type : UInt16)
    (mandatory : Bool)
    (vendorId : UInt16)
    (data : List UInt8) :
    Avp where
  mandatory := mandatory
  vendorID := vendorId
  type := type
  data := data

/-- A `USHORT` in network byte order. -/
def ushortBytes (value : UInt16) : List UInt8 :=
  bigEndian 2 value.toNat

/-- A `UINT` in network byte order. -/
def uintBytes (value : UInt32) : List UInt8 :=
  bigEndian 4 value.toNat

/-- `NewL2TPControlPacket` and the values that are added to it. -/
def newL2TPControlPacket (messageType : UInt16) (isV3 : Bool) (avpList : List Avp) :
    Packet where
  isControl := true
  ver := if isV3 then 3 else 2
  messageType := messageType
  avpList :=
    if messageType ≠ 0 then
      newAVP L2TP_AVP_TYPE_MESSAGE_TYPE true 0 (ushortBytes messageType) :: avpList
    else avpList

/-- The values that `BuildL2TPPacketData` adds: L2TPv3 has no session id in the header. -/
def buildL2TPPacketData (pp : Packet) : Packet :=
  if pp.ver = 3 ∧ pp.sessionId ≠ 0 ∧
      readId true (getAVPValue pp L2TP_AVP_TYPE_V3_SESSION_ID_REMOTE) = none then
    let ui := uintBytes pp.sessionId
    let cisco :=
      if (getAVPValueEx pp L2TPV3_CISCO_AVP_SESSION_ID_LOCAL
          L2TP_AVP_VENDOR_ID_CISCO).isSome then
        [newAVP L2TPV3_CISCO_AVP_SESSION_ID_REMOTE true L2TP_AVP_VENDOR_ID_CISCO ui]
      else []
    { pp with
      avpList := pp.avpList ++
        newAVP L2TP_AVP_TYPE_V3_SESSION_ID_REMOTE true 0 ui :: cisco }
  else pp

namespace Work

/-- `L2TPSendUDP` for a packet between the addresses of the tunnel. -/
def l2tpSendUDP (w : Work) (serverPort clientPort : Nat) (packet : Packet) : Work :=
  { w with
    sendPacketList := w.sendPacketList ++ [{
      srcIP := w.tunnel.serverIp
      srcPort := serverPort
      dstIP := w.tunnel.clientIp
      destPort := clientPort
      packet := packet
      processed := w.tunnel.processed }] }

/-- `SendL2TPControlPacketMain`: the packet with the number received last. -/
def sendL2TPControlPacketMain (w : Work) (q : Queue) : Work :=
  w.l2tpSendUDP w.tunnel.serverPort w.tunnel.clientPort
    { q.packet with nr := w.tunnel.lastNr + 1 }

def sendL2TPControlPacket (env : Env) (w : Work) (sessionId : UInt32) (p : Packet) :
    Work :=
  let p := { p with
    isControl := true
    tunnelId := w.tunnel.tunnelId1
    sessionId := sessionId
    ns := w.tunnel.nextNs
    nr := w.tunnel.lastNr + 1 }
  let q : Queue := {
    packet := buildL2TPPacketData p
    ns := p.ns
    nextSendTick := env.now + L2TP_PACKET_RESEND_INTERVAL
    number := w.tunnel.numSent }
  let w := w.sendL2TPControlPacketMain q
  { w with
    tunnel := { w.tunnel with
      nextNs := w.tunnel.nextNs + 1
      numSent := w.tunnel.numSent + 1
      sendQueue := w.tunnel.sendQueue ++ [q] } }

def sendL2TPDataPacket (w : Work) (s : Session) (data : List UInt8) : Work :=
  if s.isV3 = false then
    w.l2tpSendUDP w.tunnel.serverPort w.tunnel.clientPort
      { ver := 2, tunnelId := w.tunnel.tunnelId1, sessionId := s.sessionId1, data := data }
  else if w.tunnel.isYamahaV3 = false then
    w.l2tpSendUDP IPSEC_PORT_L2TPV3_VIRTUAL IPSEC_PORT_L2TPV3_VIRTUAL
      { ver := 3, sessionId := s.sessionId1, data := data }
  else
    w.l2tpSendUDP w.tunnel.serverPort w.tunnel.clientPort
      { isYamahaV3 := true, ver := 3, sessionId := s.sessionId1, data := data }

end Work

def disconnectL2TPSession (s : Session) : Session :=
  if s.established && !s.disconnecting && !s.wantToDisconnect then
    { s with wantToDisconnect := true }
  else s

def disconnectL2TPTunnel (t : Tunnel) : Tunnel :=
  if !t.disconnecting && !t.wantToDisconnect then
    { t with
      wantToDisconnect := true
      sessionList := t.sessionList.map disconnectL2TPSession }
  else t

def startL2TPThread (s : Session) : Session :=
  if s.hasThread then s else { s with thread := some {} }

def stopL2TPThread (s : Session) : Session :=
  if s.isV3 then { s with etherIP := none } else { s with thread := none }

/-- `TubeSendEx` to the PPP thread. -/
def passToPpp (s : Session) (data : List UInt8) : Session :=
  match s.thread with
  | none => s
  | some thread =>
      if data ≠ [] && thread.connected then
        { s with thread := some { thread with tubeRecv := thread.tubeRecv ++ [data] } }
      else s

def l2tpSessionManageEtherIPServer (env : Env) (s : Session) : Session :=
  if env.ike && s.etherIP.isNone then { s with etherIP := some {} } else s

/-- `EtherIPProcRecvPackets`, which does nothing without a server. -/
def passToEtherIP (s : Session) (data : List UInt8) : Session :=
  match s.etherIP with
  | none => s
  | some server =>
      { s with etherIP := some { server with received := server.received ++ [data] } }

def getSessionFromId (t : Tunnel) (sessionId : UInt32) : Option Session :=
  if sessionId = 0 then none
  else t.sessionList.find? fun s => s.sessionId2 = sessionId

def getSessionFromIdAssignedByClient (t : Tunnel) (sessionId : UInt32) :
    Option Session :=
  if sessionId = 0 then none
  else t.sessionList.find? fun s => s.sessionId1 = sessionId

/-- The first id that is free, of `count` ids from `id` on; 0 when there is none. -/
def firstFreeId (taken : UInt32 → Bool) : Nat → UInt32 → UInt32
  | 0, _ => 0
  | count + 1, id => if taken id then firstFreeId taken count (id + 1) else id

/-- The number of ids that `GenerateNewTunnelIdEx` and `GenerateNewSessionIdEx` try. -/
def maxNumber (is32bit : Bool) : Nat :=
  if is32bit then 0xfffffffe else 0xffff

def generateNewSessionIdEx (t : Tunnel) (is32bit : Bool) : UInt32 :=
  firstFreeId (fun id => (getSessionFromId t id).isSome) (maxNumber is32bit) 1

/-- `GenerateNewSessionIdForL2TPv3`.  Draws that end before a free id is found leave the
loop of the source running; here they give no id. -/
def generateNewSessionIdForL2TPv3 (env : Env) (t : Tunnel) : UInt32 :=
  (env.draws.find? fun id =>
    id ≠ 0 && id ≠ 0xffffffff && !env.inUse id &&
      !t.sessionList.any fun s => s.sessionId2 = id && s.isV3).getD 0

def newL2TPSession (env : Env) (t : Tunnel) (sessionIdByClient : UInt32) :
    Option Session :=
  if sessionIdByClient = 0 then none
  else if L2TP_QUOTA_MAX_NUM_SESSIONS_PER_TUNNEL ≤ t.sessionList.length then none
  else
    let sessionIdByServer :=
      if t.isV3 = false then generateNewSessionIdEx t t.isV3
      else generateNewSessionIdForL2TPv3 env t
    if sessionIdByServer = 0 then none
    else some {
      isV3 := t.isV3
      isCiscoV3 := t.isCiscoV3
      sessionId1 := sessionIdByClient
      sessionId2 := sessionIdByServer }

/-- A write to a session through its pointer. -/
def Tunnel.writeSession (t : Tunnel) (old new : Session) : Tunnel :=
  { t with sessionList := t.sessionList.replace old new }

/-- The values of `ICRP`. -/
def icrpValues (env : Env) (t : Tunnel) (s : Session) : List Avp :=
  if s.isV3 = false then
    [newAVP L2TP_AVP_TYPE_ASSIGNED_SESSION true 0 (ushortBytes s.sessionId2.toUInt16)]
  else
    let ui := uintBytes s.sessionId2
    -- The value that the last of the three branches stores is not used any more.
    let us := if t.isYamahaV3 then env.unset else s.pseudowireType
    [newAVP L2TP_AVP_TYPE_V3_SESSION_ID_LOCAL true 0 ui] ++
      (if s.isCiscoV3 then
        [newAVP L2TPV3_CISCO_AVP_SESSION_ID_LOCAL true L2TP_AVP_VENDOR_ID_CISCO ui] else []) ++
      (if t.isYamahaV3 = false then
        [newAVP L2TP_AVP_TYPE_V3_PW_TYPE true 0 (ushortBytes s.pseudowireType)] else []) ++
      (if s.isCiscoV3 then
        [newAVP L2TPV3_CISCO_AVP_PW_TYPE true L2TP_AVP_VENDOR_ID_CISCO (ushortBytes us)]
        else []) ++
      (if t.isYamahaV3 then
        [newAVP L2TP_AVP_TYPE_V3_CIRCUIT_STATUS true 0 (ushortBytes 3)] else [])

/-- The type of the virtual line that `ICRQ` asks for. -/
def askedPseudowireType (p : Packet) : UInt16 :=
  match getAVPValue p L2TP_AVP_TYPE_V3_PW_TYPE with
  | none => L2TPV3_PW_TYPE_ETHERNET
  | some a => if a.data.length = 2 then readUSHORT a.data else L2TPV3_PW_TYPE_ETHERNET

/-- The value with the session id that the client assigned. -/
def assignedSession (t : Tunnel) (p : Packet) : Option UInt32 :=
  readId t.isV3 (getAVPValue p
    (if t.isV3 then L2TP_AVP_TYPE_V3_SESSION_ID_LOCAL else L2TP_AVP_TYPE_ASSIGNED_SESSION))

/-- The value with the tunnel id that the client assigned. -/
def assignedTunnel (isV3 : Bool) (p : Packet) : Option UInt32 :=
  readId isV3 (getAVPValue p
    (if isV3 then L2TP_AVP_TYPE_V3_TUNNEL_ID else L2TP_AVP_TYPE_ASSIGNED_TUNNEL))

/-- A new session and the answer to its request. -/
def Work.addSession (env : Env) (w : Work) (p : Packet) (s : Session) : Work :=
  let s := if w.tunnel.isV3 then { s with pseudowireType := askedPseudowireType p } else s
  let w := { w with
    tunnel := { w.tunnel with sessionList := w.tunnel.sessionList ++ [s] } }
  w.sendL2TPControlPacket env s.sessionId1
    (newL2TPControlPacket L2TP_MESSAGE_TYPE_ICRP s.isV3 (icrpValues env w.tunnel s))

/-- `ICRQ`: a request to establish a new session. -/
def Work.processIcrq (env : Env) (w : Work) (p : Packet) : Work :=
  match assignedSession w.tunnel p with
  | none => w
  | some sessionId =>
      if sessionId ≠ 0 ∧ getSessionFromIdAssignedByClient w.tunnel sessionId = none then
        match newL2TPSession env w.tunnel sessionId with
        | none => w
        | some s => w.addSession env p s
      else w

/-- `STOPCCN`: a request to disconnect the tunnel. -/
def Work.processStopccn (w : Work) (p : Packet) : Work :=
  if assignedTunnel w.tunnel.isV3 p = some w.tunnel.tunnelId1 then
    { w with tunnel := disconnectL2TPTunnel w.tunnel }
  else w

/-- `SCCCN`: the tunnel is established. -/
def Work.processScccn (env : Env) (w : Work) (p : Packet) : Work :=
  if p.messageType = L2TP_MESSAGE_TYPE_SCCCN ∧ env.halt = false ∧
      w.tunnel.established = false ∧ w.tunnel.disconnecting = false then
    { w with
      tunnel := { w.tunnel with established := true, lastHelloSent := env.now } }
  else w

def Work.processTunnelMessage (env : Env) (w : Work) (p : Packet) : Work :=
  let w := w.processScccn env p
  if w.tunnel.established then
    if p.messageType = L2TP_MESSAGE_TYPE_ICRQ ∧ w.tunnel.wantToDisconnect = false ∧
        env.halt = false then
      w.processIcrq env p
    else if p.messageType = L2TP_MESSAGE_TYPE_STOPCCN then w.processStopccn p
    else w
  else w

def Session.afterMessage (t : Tunnel) (s : Session) (p : Packet) : Session :=
  if s.established = false then
    if p.messageType = L2TP_MESSAGE_TYPE_ICCN ∧ s.disconnecting = false then
      { s with established := true }
    else s
  else if p.messageType = L2TP_MESSAGE_TYPE_CDN ∧
      assignedSession t p = some s.sessionId1 then
    disconnectL2TPSession s
  else s

def Work.processSessionMessage (w : Work) (p : Packet) : Work :=
  match getSessionFromId w.tunnel p.sessionId with
  | none => w
  | some s => { w with tunnel := w.tunnel.writeSession s (s.afterMessage w.tunnel p) }

def Work.l2tpProcessRecvControlPacket (env : Env) (w : Work) (p : Packet) : Work :=
  let w := { w with
    tunnel := { w.tunnel with processed := w.tunnel.processed ++ [p] } }
  if p.sessionId = 0 then w.processTunnelMessage env p else w.processSessionMessage p

def cmpL2TPQueueForRecv (q1 q2 : Queue) : Ordering :=
  if seqLT q1.ns q2.ns then .lt else if q1.ns = q2.ns then .eq else .gt

/-- The packets that the other side has received leave the retransmission queue. -/
def Tunnel.removeAcknowledged (t : Tunnel) (nr : UInt16) : Tunnel :=
  { t with sendQueue := t.sendQueue.filter fun q => !seqLT q.ns nr }

/-- The completed part of the reception queue is read; every round takes a packet out of
the queue. -/
def Work.readCompleted (env : Env) : Nat → Work → Work
  | 0, w => w
  | fuel + 1, w =>
      match w.tunnel.recvQueue.items with
      | [] => w
      | q :: _ =>
          if q.ns ≠ w.tunnel.lastNr + 1 then w
          else
            let t := w.tunnel
            let t := if q.packet.isZLB = false then
                { t with lastNr := q.ns, stateChanged := true } else t
            let t := { t with recvQueue := t.recvQueue.delete q }
            (({ w with tunnel := t } : Work).l2tpProcessRecvControlPacket env
              q.packet).readCompleted env fuel

/-- The other side's packet joins the reception queue. -/
def Work.enqueue (env : Env) (w : Work) (pp : Packet) : Work :=
  if w.tunnel.recvQueue.num < L2TP_WINDOW_SIZE then
    let q : Queue := { packet := pp, ns := pp.ns }
    match w.tunnel.recvQueue.search cmpL2TPQueueForRecv (cmpL2TPQueueForRecv q) with
    | (some _, recvQueue) => { w with tunnel := { w.tunnel with recvQueue := recvQueue } }
    | (none, recvQueue) =>
        let recvQueue := recvQueue.insert cmpL2TPQueueForRecv q
        ({ w with tunnel := { w.tunnel with recvQueue := recvQueue } } : Work).readCompleted
          env recvQueue.num
  else w

/-- The branch of `ProcL2TPPacketRecv` for a control packet. -/
def Work.recvControlPacket (env : Env) (w : Work) (pp : Packet) : Work :=
  let w := { w with tunnel := w.tunnel.removeAcknowledged pp.nr }
  if !seqLT pp.ns w.tunnel.lastNr ∧ pp.ns ≠ w.tunnel.lastNr then w.enqueue env pp
  -- The packet has been received before; it is acknowledged again.
  else if pp.isZLB = false then { w with tunnel := { w.tunnel with stateChanged := true } }
  else w

def Session.afterData (env : Env) (s : Session) (data : List UInt8) : Session :=
  if s.isV3 = false then passToPpp (startL2TPThread s) data
  else passToEtherIP (l2tpSessionManageEtherIPServer env s) data

/-- The branch of `ProcL2TPPacketRecv` for a data packet. -/
def Work.recvDataPacket (env : Env) (w : Work) (pp : Packet) : Work :=
  match getSessionFromId w.tunnel pp.sessionId with
  | none => w
  | some s =>
      if s.established then
        { w with tunnel := w.tunnel.writeSession s (s.afterData env pp.data) }
      else w

/-- The part of `ProcL2TPPacketRecv` behind the search for the tunnel. -/
def Work.recvPacket (env : Env) (w : Work) (pp : Packet) : Work :=
  let w := { w with tunnel := { w.tunnel with lastRecvTick := env.now } }
  if pp.isControl then w.recvControlPacket env pp else w.recvDataPacket env pp

/-! ## Interrupts of a tunnel -/

/-- The tunnel is disconnected when nothing came for a while. -/
def Tunnel.checkTimeout (env : Env) (t : Tunnel) : Tunnel :=
  if t.lastRecvTick + L2TP_TUNNEL_TIMEOUT ≤ env.now ∧ t.timedout = false then
    disconnectL2TPTunnel { t with timedout := true }
  else t

/-- A `HELLO` message now and then. -/
def Work.sendHello (env : Env) (w : Work) : Work :=
  if w.tunnel.established ∧ w.tunnel.lastHelloSent + L2TP_HELLO_INTERVAL ≤ env.now ∧
      w.tunnel.sendQueue.length ≤ L2TP_HELLO_SUPRESS_MAX_THRETHORD_NUM_SEND_QUEUE then
    let w := { w with tunnel := { w.tunnel with lastHelloSent := env.now } }
    w.sendL2TPControlPacket env 0
      (newL2TPControlPacket L2TP_MESSAGE_TYPE_HELLO w.tunnel.isV3 [])
  else w

/-- The data that wait for a session to send them: those of the PPP thread as long as
its tube is connected, and those of the EtherIP server. -/
def Session.waiting (s : Session) : List (List UInt8) :=
  (match s.thread with
    | none => []
    | some thread => if thread.connected then thread.tubeSend else []) ++
  (if s.isV3 then
    match s.etherIP with
    | none => []
    | some server => server.sendPacketList
  else [])

/-- A session after its data are sent; it is disconnected when the PPP thread has ended. -/
def Session.drain (s : Session) : Session :=
  let s := match s.thread with
    | none => s
    | some thread =>
        if thread.connected then { s with thread := some { thread with tubeSend := [] } }
        else disconnectL2TPSession s
  if s.isV3 then
    { s with etherIP := s.etherIP.map fun server => { server with sendPacketList := [] } }
  else s

/-- The value with the reason that PPP ended for. -/
def disconnectCause (s : Session) : List Avp :=
  match s.thread with
  | none => []
  | some thread =>
      if thread.intParam1 ≠ 0 then
        [newAVP L2TP_AVP_TYPE_PPP_DISCONNECT_CAUSE false 0
          (ushortBytes thread.intParam1 ++ ushortBytes 0xc021 ++ [thread.intParam2])]
      else []

/-- `Endian16` of the id of a session, in a `UINT` that is written as it is. -/
def cdnIdBytes (id : UInt32) : List UInt8 :=
  bigEndian 2 id.toUInt16.toNat ++ [0, 0]

/-- The `CDN` message of a session. -/
def cdnPacket (t : Tunnel) (s : Session) : Packet :=
  newL2TPControlPacket L2TP_MESSAGE_TYPE_CDN s.isV3 <|
    (if s.isV3 = false then
      [newAVP L2TP_AVP_TYPE_ASSIGNED_SESSION true 0 (ushortBytes s.sessionId2.toUInt16)]
    else
      newAVP L2TP_AVP_TYPE_V3_SESSION_ID_LOCAL true 0 (cdnIdBytes s.sessionId2) ::
        if t.isCiscoV3 then
          [newAVP L2TPV3_CISCO_AVP_SESSION_ID_LOCAL true L2TP_AVP_VENDOR_ID_CISCO
            (cdnIdBytes s.sessionId2)]
        else []) ++
    newAVP L2TP_AVP_TYPE_RESULT_CODE true 0 [0, 3, 0, 0] :: disconnectCause s

/-- The session is deleted when the other side has received everything, or when that
takes too long; otherwise it stays. -/
def Work.keepSession (env : Env) (w : Work) (s : Session) : Work :=
  if s.disconnecting ∧ (s.disconnectTimeout ≤ env.now ∨ w.tunnel.sendQueue = []) then
    { w with freed := w.freed ++ [s] }
  else
    { w with tunnel := { w.tunnel with sessionList := w.tunnel.sessionList ++ [s] } }

def Work.interruptSession (env : Env) (w : Work) (s : Session) : Work :=
  let w := s.waiting.foldl (fun w data => w.sendL2TPDataPacket s data) w
  let s := s.drain
  if s.wantToDisconnect ∧ s.disconnecting = false then
    let w := w.sendL2TPControlPacket env s.sessionId1 (cdnPacket w.tunnel s)
    w.keepSession env (stopL2TPThread { s with
      disconnecting := true
      established := false
      disconnectTimeout := env.now + L2TP_TUNNEL_DISCONNECT_TIMEOUT })
  else w.keepSession env s

/-- The interrupts of the sessions one after the other; those that stay are collected
again. -/
def Work.interruptSessions (env : Env) (w : Work) : Work :=
  w.tunnel.sessionList.foldl (Work.interruptSession env)
    { w with tunnel := { w.tunnel with sessionList := [] } }

/-- The `STOPCCN` message of a tunnel. -/
def stopccnPacket (t : Tunnel) : Packet :=
  newL2TPControlPacket L2TP_MESSAGE_TYPE_STOPCCN t.isV3 <|
    (if t.isV3 = false then
      [newAVP L2TP_AVP_TYPE_ASSIGNED_TUNNEL true 0 (ushortBytes t.tunnelId2.toUInt16)]
    else
      newAVP L2TP_AVP_TYPE_V3_TUNNEL_ID true 0 (uintBytes t.tunnelId2) ::
        if t.isCiscoV3 then
          [newAVP L2TPV3_CISCO_AVP_TUNNEL_ID true L2TP_AVP_VENDOR_ID_CISCO
            (uintBytes t.tunnelId2)]
        else []) ++
    -- The second of four `USHORT` values is 6.
    [newAVP L2TP_AVP_TYPE_RESULT_CODE true 0 [0, 0, 6, 0, 0, 0, 0, 0]]

def Work.stopTunnel (env : Env) (w : Work) : Work :=
  if w.tunnel.wantToDisconnect ∧ w.tunnel.disconnecting = false then
    let w := w.sendL2TPControlPacket env 0 (stopccnPacket w.tunnel)
    { w with
      tunnel := { w.tunnel with
        disconnecting := true
        established := false
        disconnectTimeout := env.now + L2TP_TUNNEL_DISCONNECT_TIMEOUT } }
  else w

/-- The interrupt of a tunnel up to the question whether it is deleted. -/
def Work.interruptTunnel (env : Env) (w : Work) : Work :=
  let w := { w with tunnel := w.tunnel.checkTimeout env }
  ((w.sendHello env).interruptSessions env).stopTunnel env

def Tunnel.isFinished (env : Env) (t : Tunnel) : Bool :=
  t.disconnecting && (t.sendQueue = [] && t.sessionList = [] || t.disconnectTimeout ≤ env.now)

/-- A packet of the retransmission queue, when its time has come. -/
def Work.retransmitQueue (env : Env) (w : Work) (q : Queue) : Work :=
  if q.nextSendTick ≤ env.now then
    let q := { q with nextSendTick := env.now + L2TP_PACKET_RESEND_INTERVAL }
    let w := w.sendL2TPControlPacketMain q
    { w with tunnel := { w.tunnel with sendQueue := w.tunnel.sendQueue ++ [q] } }
  else { w with tunnel := { w.tunnel with sendQueue := w.tunnel.sendQueue ++ [q] } }

/-- The retransmission for a tunnel that stays; the queue is collected again. -/
def Work.retransmit (env : Env) (w : Work) : Work :=
  let w :=
    if 1 ≤ w.tunnel.sendQueue.length then
      w.tunnel.sendQueue.foldl (Work.retransmitQueue env)
        { w with tunnel := { w.tunnel with sendQueue := [] } }
    else if w.tunnel.stateChanged then
      w.sendL2TPControlPacketMain {
        packet := { newL2TPControlPacket 0 w.tunnel.isV3 [] with
          tunnelId := w.tunnel.tunnelId1, ns := w.tunnel.nextNs }
        ns := 0 }
    else w
  { w with tunnel := { w.tunnel with stateChanged := false } }

namespace Work

variable {w : Work}

theorem tunnel_sendL2TPDataPacket (s : Session) (data : List UInt8) :
    (w.sendL2TPDataPacket s data).tunnel = w.tunnel ∧
      (w.sendL2TPDataPacket s data).freed = w.freed := by
  unfold sendL2TPDataPacket
  split
  · exact ⟨rfl, rfl⟩
  · split
    · exact ⟨rfl, rfl⟩
    · exact ⟨rfl, rfl⟩

theorem tunnel_sendWaiting (s : Session) (waiting : List (List UInt8)) :
    (waiting.foldl (fun w data => w.sendL2TPDataPacket s data) w).tunnel = w.tunnel ∧
      (waiting.foldl (fun w data => w.sendL2TPDataPacket s data) w).freed = w.freed := by
  induction waiting generalizing w with
  | nil => exact ⟨rfl, rfl⟩
  | cons data rest inductionHypothesis =>
      have sent := tunnel_sendL2TPDataPacket (w := w) s data
      have others := inductionHypothesis (w := w.sendL2TPDataPacket s data)
      exact ⟨others.1.trans sent.1, others.2.trans sent.2⟩

end Work

end L2tp
end SoftEther
