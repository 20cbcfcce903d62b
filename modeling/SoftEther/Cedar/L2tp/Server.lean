import SoftEther.Cedar.L2tp.Defs
import SoftEther.Library.Runs

/-!
# Runs of the L2TP server

The list of tunnels, the search for the tunnel of a packet, the interrupts of all tunnels
and the shutdown.  A run takes packets from any client, interrupts at any time, whatever
PPP threads and EtherIP servers do, and the shutdown, in any order.
-/

namespace SoftEther
namespace L2tp

open Network

/-- `L2TP_SERVER`. -/
structure Server where
  now : Nat := 0
  sendPacketList : List SentPacket := []
  tunnelList : List Tunnel := []
  halt : Bool := false
  halting : Bool := false
  haltCompleted : Bool := false
  /-- `IkeServer` and `IkeClient` are there. -/
  ike : Bool := false
  /-- What `GetMachineHostName` returns. -/
  hostName : List UInt8 := []
  /-- A record for the proofs: the sessions that the interrupts gave to
  `FreeL2TPSession`. -/
  freed : List Session := []

namespace Server

def getTunnelFromId (l2tp : Server) (clientIp : Ip) (tunnelId : UInt32) (isV3 : Bool) :
    Option Tunnel :=
  if tunnelId = 0 then none
  else l2tp.tunnelList.find? fun t =>
    t.tunnelId2 = tunnelId && t.clientIp = clientIp && t.isV3 = isV3

def getTunnelFromIdOfAssignedByClient
    (l2tp : Server)
    (clientIp : Ip)
    (tunnelId : UInt32) :
    Option Tunnel :=
  if tunnelId = 0 then none
  else l2tp.tunnelList.find? fun t => t.tunnelId1 = tunnelId && t.clientIp = clientIp

def generateNewTunnelIdEx (l2tp : Server) (clientIp : Ip) (is32bit : Bool) : UInt32 :=
  firstFreeId (fun id => (l2tp.getTunnelFromId clientIp id is32bit).isSome)
    (maxNumber is32bit) 1

/-- `SearchL2TPSessionById`: the `Tunnel` of the session. -/
def searchL2TPSessionById (l2tp : Server) (isV3 : Bool) (id : UInt32) : Option Tunnel :=
  if id = 0 then none
  else l2tp.tunnelList.find? fun t =>
    t.sessionList.any fun s => s.sessionId2 = id && s.isV3 = isV3

def getNumL2TPTunnelsByClientIP (l2tp : Server) (clientIp : Ip) : Nat :=
  l2tp.tunnelList.countP fun t => t.clientIp = clientIp

def newL2TPTunnel (l2tp : Server) (p : Packet) (udp : UdpPacket) : Option Tunnel :=
  let isV3 : Bool := p.ver = 3
  match assignedTunnel isV3 p with
  | none => none
  | some tunnelId1 =>
      let tunnelId2 := l2tp.generateNewTunnelIdEx udp.srcIP isV3
      if tunnelId2 = 0 then none
      else some {
        isV3 := isV3
        isCiscoV3 := isV3 &&
          (getAVPValueEx p L2TPV3_CISCO_AVP_TUNNEL_ID L2TP_AVP_VENDOR_ID_CISCO).isSome
        isYamahaV3 := isV3 && p.isYamahaV3
        clientIp := udp.srcIP
        clientPort := udp.srcPort
        serverIp := udp.dstIP
        serverPort := udp.destPort
        tunnelId1 := tunnelId1
        tunnelId2 := tunnelId2
        lastRecvTick := l2tp.now
        lastHelloSent := l2tp.now }

def L2TP_VENDOR_NAME : List UInt8 := ascii "L2TP"

/-- The values of `SCCRP`. -/
def sccrpValues (l2tp : Server) (t : Tunnel) : List Avp :=
  let ui := uintBytes t.tunnelId2
  let capList := ushortBytes L2TPV3_PW_TYPE_ETHERNET ++ ushortBytes L2TPV3_PW_TYPE_ETHERNET_VLAN
  let hostName := if l2tp.hostName = [] then ascii "vpn" else l2tp.hostName
  (if t.isYamahaV3 = false then
    [newAVP L2TP_AVP_TYPE_PROTOCOL_VERSION true 0 [1, 0],
      newAVP L2TP_AVP_TYPE_FRAME_CAP false 0 [0, 0, 0, if t.isV3 = false then 3 else 0]]
    else []) ++
  (if t.isV3 = false then
    [newAVP L2TP_AVP_TYPE_BEARER_CAP false 0 [0, 0, 0, 3]] else []) ++
  [newAVP L2TP_AVP_TYPE_HOST_NAME true 0 hostName] ++
  [newAVP L2TP_AVP_TYPE_VENDOR_NAME false 0
    (if t.isYamahaV3 = false then L2TP_VENDOR_NAME
      else ascii "YAMAHA Corporation")] ++
  (if t.isYamahaV3 then
    [newAVP L2TP_AVP_TYPE_V3_ROUTER_ID true 0 [0, 0, 0, 0]] else []) ++
  (if t.isV3 = false then
    [newAVP L2TP_AVP_TYPE_ASSIGNED_TUNNEL true 0 (ushortBytes t.tunnelId2.toUInt16)]
  else
    newAVP L2TP_AVP_TYPE_V3_TUNNEL_ID true 0 ui ::
      if t.isCiscoV3 then
        [newAVP L2TPV3_CISCO_AVP_TUNNEL_ID true L2TP_AVP_VENDOR_ID_CISCO ui] else []) ++
  (if t.isV3 then
    newAVP L2TP_AVP_TYPE_V3_PW_CAP_LIST true 0 capList ::
      if t.isCiscoV3 then
        [newAVP L2TPV3_CISCO_AVP_PW_CAP_LIST true L2TP_AVP_VENDOR_ID_CISCO capList] else []
    else []) ++
  (if t.isCiscoV3 then
    [newAVP L2TPV3_CISCO_AVP_DRAFT_AVP_VERSION true L2TP_AVP_VENDOR_ID_CISCO
      (ushortBytes 1)] else []) ++
  (if t.isYamahaV3 = false then
    [newAVP L2TP_AVP_TYPE_RECV_WINDOW_SIZE false 0
      (ushortBytes (UInt16.ofNat L2TP_WINDOW_SIZE))] else [])

/-- What a tunnel sees of the server. -/
def env (l2tp : Server) (draws : List UInt32) (unset : UInt16) : Env where
  now := l2tp.now
  halt := l2tp.halt
  ike := l2tp.ike
  draws := draws
  inUse := fun id => (l2tp.searchL2TPSessionById true id).isSome
  unset := unset

/-- The tunnel that answers `SCCRQ` with `SCCRP`. -/
def answerSccrq (l2tp : Server) (t : Tunnel) : Work :=
  ({ tunnel := t } : Work).sendL2TPControlPacket (l2tp.env [] 0) 0
    (newL2TPControlPacket L2TP_MESSAGE_TYPE_SCCRP t.isV3 (l2tp.sccrpValues t))

/-- A request for a tunnel. -/
def recvSccrq (l2tp : Server) (pp : Packet) (p : UdpPacket) : Server :=
  match assignedTunnel (pp.ver = 3) pp with
  | none => l2tp
  | some clientAssignedId =>
      if l2tp.getTunnelFromIdOfAssignedByClient p.srcIP clientAssignedId = none ∧
          l2tp.tunnelList.length < L2TP_QUOTA_MAX_NUM_TUNNELS ∧
          l2tp.getNumL2TPTunnelsByClientIP p.srcIP < L2TP_QUOTA_MAX_NUM_TUNNELS_PER_IP then
        match l2tp.newL2TPTunnel pp p with
        | none => l2tp
        | some t =>
            let w := l2tp.answerSccrq t
            { l2tp with
              tunnelList := l2tp.tunnelList ++ [w.tunnel]
              sendPacketList := l2tp.sendPacketList ++ w.sendPacketList }
      else l2tp

/-- The tunnel of a packet: data packets of L2TPv3 hold the id of a session only. -/
def findTunnel (l2tp : Server) (pp : Packet) (p : UdpPacket) : Option Tunnel :=
  if pp.isControl ∨ pp.ver ≠ 3 then
    l2tp.getTunnelFromId p.srcIP pp.tunnelId (pp.ver = 3)
  else l2tp.searchL2TPSessionById true pp.sessionId

/-- The packet asks for a tunnel. -/
def isSccrq (l2tp : Server) (pp : Packet) : Bool :=
  pp.messageType = L2TP_MESSAGE_TYPE_SCCRQ && pp.sessionId = 0 && pp.tunnelId = 0 &&
    pp.nr = 0 && pp.ns = 0 && l2tp.halt = false

/-- The server after the work on a tunnel, which is written through its pointer. -/
def finishWork (l2tp : Server) (t : Tunnel) (w : Work) : Server :=
  { l2tp with
    tunnelList := l2tp.tunnelList.replace t w.tunnel
    sendPacketList := l2tp.sendPacketList ++ w.sendPacketList }

/-- `ProcL2TPPacketRecv` behind the parser. -/
def recvPacket
    (l2tp : Server)
    (draws : List UInt32)
    (unset : UInt16)
    (pp : Packet)
    (p : UdpPacket) :
    Server :=
  if l2tp.isSccrq pp then l2tp.recvSccrq pp p
  else
    match l2tp.findTunnel pp p with
    | none => l2tp
    | some t =>
        l2tp.finishWork t (({ tunnel := t } : Work).recvPacket (l2tp.env draws unset) pp)

def procL2TPPacketRecv
    (l2tp : Server)
    (draws : List UInt32)
    (unset : UInt16)
    (p : UdpPacket) :
    Server :=
  match parseL2TPPacket p with
  | none => l2tp
  | some pp => l2tp.recvPacket draws unset pp p

/-- All tunnels are disconnected at the first interrupt after the shutdown began. -/
def beginHalting (l2tp : Server) : Server :=
  if l2tp.halt ∧ l2tp.halting = false then
    { l2tp with
      halting := true
      tunnelList := l2tp.tunnelList.map disconnectL2TPTunnel }
  else l2tp

/-- The interrupt of one tunnel; the tunnels that stay are collected again. -/
def interruptTunnel (env : Env) (l2tp : Server) (t : Tunnel) : Server :=
  let w := ({ tunnel := t } : Work).interruptTunnel env
  let l2tp := { l2tp with
    sendPacketList := l2tp.sendPacketList ++ w.sendPacketList
    freed := l2tp.freed ++ w.freed }
  if w.tunnel.isFinished env then
    -- `FreeL2TPTunnel` frees the sessions that are left.
    { l2tp with freed := l2tp.freed ++ w.tunnel.sessionList }
  else { l2tp with tunnelList := l2tp.tunnelList ++ [w.tunnel] }

def retransmitTunnel (env : Env) (l2tp : Server) (t : Tunnel) : Server :=
  let w := ({ tunnel := t } : Work).retransmit env
  { l2tp with
    sendPacketList := l2tp.sendPacketList ++ w.sendPacketList
    tunnelList := l2tp.tunnelList ++ [w.tunnel] }

def interruptTunnels (l2tp : Server) : Server :=
  l2tp.tunnelList.foldl (interruptTunnel (l2tp.env [] 0)) { l2tp with tunnelList := [] }

def retransmitTunnels (l2tp : Server) : Server :=
  l2tp.tunnelList.foldl (retransmitTunnel (l2tp.env [] 0)) { l2tp with tunnelList := [] }

/-- The shutdown is complete when no tunnel is left. -/
def completeHalting (l2tp : Server) : Server :=
  if l2tp.halting ∧ l2tp.tunnelList = [] then { l2tp with haltCompleted := true } else l2tp

def l2tpProcessInterrupts (l2tp : Server) : Server :=
  l2tp.beginHalting.interruptTunnels.retransmitTunnels.completeHalting

def newL2TPServerEx (ike : Bool) (hostName : List UInt8) : Server where
  ike := ike
  hostName := hostName

def stopL2TPServer (l2tp : Server) (noWait : Bool) : Server :=
  if l2tp.halt then l2tp
  else if noWait then
    { l2tp with
      halt := true
      tunnelList := l2tp.tunnelList.map fun t =>
        { t with sessionList := t.sessionList.map stopL2TPThread } }
  else { l2tp with halt := true }

end Server

/-- What a PPP thread or an EtherIP server does. -/
inductive ThreadEvent
  | pppSends (data : List UInt8)
  | pppEnds (intParam1 : UInt16) (intParam2 : UInt8)
  | etherIPSends (data : List UInt8)

def Session.afterThread (s : Session) : ThreadEvent → Session
  | .pppSends data => { s with thread := s.thread.map fun thread =>
      { thread with tubeSend := thread.tubeSend ++ [data] } }
  | .pppEnds intParam1 intParam2 => { s with thread := s.thread.map fun thread =>
      { thread with connected := false, intParam1 := intParam1, intParam2 := intParam2 } }
  | .etherIPSends data => { s with etherIP := s.etherIP.map fun server =>
      { server with sendPacketList := server.sendPacketList ++ [data] } }

/-- What happens to the server. -/
inductive Event
  /-- `Now` is set to the time. -/
  | tick (now : Nat)
  /-- A packet arrives; the draws of `Rand32` come with it. -/
  | receive (p : UdpPacket) (draws : List UInt32) (unset : UInt16)
  /-- `L2TPProcessInterrupts`. -/
  | interrupts
  /-- The packets in `SendPacketList` are sent. -/
  | sendPackets
  | thread (tunnel session : Nat) (event : ThreadEvent)
  /-- `StopL2TPServer`. -/
  | stop (noWait : Bool)

/-- A tunnel after something happened to one of its sessions. -/
def Tunnel.modifySession (t : Tunnel) (session : Nat) (change : Session → Session) : Tunnel :=
  { t with sessionList := t.sessionList.modify session change }

def Server.step (l2tp : Server) : Event → Option Server
  | .tick now => some { l2tp with now := now }
  | .receive p draws unset => some (l2tp.procL2TPPacketRecv draws unset p)
  | .interrupts => some l2tp.l2tpProcessInterrupts
  | .sendPackets => some { l2tp with sendPacketList := [] }
  | .thread tunnel session event => some { l2tp with
      tunnelList := l2tp.tunnelList.modify tunnel fun t =>
        t.modifySession session fun s => s.afterThread event }
  | .stop noWait => some (l2tp.stopL2TPServer noWait)

/-- A packet between the ports of L2TP. -/
def datagram (client server : Ip) (data : List UInt8) : Event :=
  .receive { srcIP := client, srcPort := 1701, dstIP := server, destPort := 1701, data := data }
    [] 0

/-- The bytes of a value of a control packet. -/
def valueBytes (type : UInt16) (data : List UInt8) : List UInt8 :=
  ushortBytes (0x8000 + 6 + UInt16.ofNat data.length) ++ [0, 0] ++ ushortBytes type ++ data

/-- The bytes of a control packet of YAMAHA's L2TPv3. -/
def controlBytesV3 (tunnelId : UInt32) (ns nr : UInt16) (values : List UInt8) : List UInt8 :=
  [0xC8, 3] ++ ushortBytes (12 + UInt16.ofNat values.length) ++ uintBytes tunnelId ++
    ushortBytes ns ++ ushortBytes nr ++ values

/-- The bytes of a control packet of L2TPv2. -/
def controlBytes
    (tunnelId sessionId ns nr : UInt16)
    (values : List UInt8) :
    List UInt8 :=
  [0xC8, 2] ++ ushortBytes (12 + UInt16.ofNat values.length) ++ ushortBytes tunnelId ++
    ushortBytes sessionId ++ ushortBytes ns ++ ushortBytes nr ++ values

end L2tp
end SoftEther
