import SoftEther.Mayaqua.KeyedList
import SoftEther.Mayaqua.Network
import SoftEther.Mayaqua.TcpIp.Packet

/-!
# The in-process client

The part of an `IPC` that sends IPv4 packets: its IPv4 parameters, the table in which it
learns MAC addresses, and the packets that wait there for the answer to an ARP request.  Blocks
of memory are lists of bytes; the tube of sent frames is the list of them, the first one first.
-/

namespace SoftEther
namespace InProc

open Network TcpIp

def isZeroIp (ip : Ip) : Bool :=
  if isIP6 ip = false then ip.addr.val.all (· = 0) else ip.ipv6Addr.val.all (· = 0)

def ipAnd4 (a b : Ip) : Ip :=
  if isIP6 a ∨ isIP6 b then uintToIP 0 else uintToIP (ipToUINT a &&& ipToUINT b)

def isInSameNetwork4 (a1 a2 subnet : Ip) : Bool :=
  if isIP6 a1 ∨ isIP6 a2 ∨ isIP6 subnet then false
  else cmpIpAddr (ipAnd4 a1 subnet) (ipAnd4 a2 subnet) = .eq

def getBroadcastAddress4 (addr mask : Ip) : Ip :=
  if isIP6 addr ∨ isIP6 mask then uintToIP 0
  else uintToIP ((ipToUINT addr &&& ipToUINT mask) ||| ~~~(ipToUINT mask))

def isMulticastIP4 (ip : Ip) : Bool :=
  224 ≤ ip.addr.val.getD 0 0 ∧ ip.addr.val.getD 0 0 ≤ 239

def isValidUnicastMacAddress (mac : MacAddress) : Bool :=
  mac.val.getD 0 0 &&& 1 = 0 ∧ ¬mac.val.all (· = 0)

def isValidUnicastIPAddress4 (ip : Ip) : Bool :=
  isIP6 ip = false ∧ isZeroIp ip = false ∧ isMulticastIP4 ip = false ∧
    ip.addr.val.any (· ≠ 255)

structure DhcpClasslessRoute where
  exists_ : Bool
  network : Ip
  subnetMask : Ip
  gateway : Ip
  subnetMaskLen : UInt32
  deriving DecidableEq

structure DhcpClasslessRouteTable where
  numExistingRoutes : UInt32 := 0
  entries : List DhcpClasslessRoute := []
  deriving DecidableEq

/-- The loop of `GetBestClasslessRoute`, with `max_mask` and `ret`. -/
def bestClasslessRouteLoop
    (ip : Ip)
    (best : UInt32 × Option DhcpClasslessRoute)
    (e : DhcpClasslessRoute) :
    UInt32 × Option DhcpClasslessRoute :=
  if e.exists_ then
    if isInSameNetwork4 ip e.network e.subnetMask then
      if best.1 ≤ e.subnetMaskLen then (e.subnetMaskLen, some e) else best
    else best
  else best

def getBestClasslessRoute (t : DhcpClasslessRouteTable) (ip : Ip) : Option DhcpClasslessRoute :=
  if t.numExistingRoutes = 0 then none
  else (t.entries.foldl (bestClasslessRouteLoop ip) (0, none)).2

def IPC_ARP_LIFETIME : UInt64 := 180000

def IPC_ARP_GIVEUPTIME : UInt64 := 1000

def IPC_MAX_PACKET_QUEUE_LEN : Nat := 10000

structure IpcArp where
  ip : Ip
  resolved : Bool
  macAddress : MacAddress
  giveupTime : UInt64
  expireTime : UInt64
  packetQueue : List (List UInt8)
  deriving DecidableEq

/-- What `IPCCmpArpTable` compares. -/
def IpcArp.key (a : IpcArp) : ByteArrayOf 20 :=
  addressPart a.ip

def ipcNewARP (now : UInt64) (ip : Ip) (macAddress : Option MacAddress) : IpcArp where
  ip := ip
  resolved := macAddress.isSome
  macAddress := macAddress.getD ⟨List.replicate 6 0, length_zeros6⟩
  giveupTime := if macAddress.isSome then 0 else now + IPC_ARP_GIVEUPTIME
  expireTime := if macAddress.isSome then now + IPC_ARP_LIFETIME else 0
  packetQueue := []

/-- The entry is to go. -/
def IpcArp.isOld (now : UInt64) (a : IpcArp) : Bool :=
  (a.resolved ∧ a.expireTime ≤ now) ∨ (a.resolved = false ∧ a.giveupTime ≤ now)

/-- An entry of which the MAC address is learnt. -/
def IpcArp.learn (a : IpcArp) (now : UInt64) (macAddress : MacAddress) : IpcArp :=
  { a with
    macAddress := macAddress
    resolved := true
    giveupTime := if a.resolved = false then 0 else a.giveupTime
    expireTime := now + IPC_ARP_LIFETIME
    packetQueue := if a.resolved = false then [] else a.packetQueue }

/-- An entry that is used. -/
def IpcArp.use (a : IpcArp) (now : UInt64) : IpcArp :=
  { a with expireTime := now + IPC_ARP_LIFETIME }

/-- An entry with a packet more in its queue, when there is room. -/
def IpcArp.enqueue (a : IpcArp) (data : List UInt8) : IpcArp :=
  if a.packetQueue.length < IPC_MAX_PACKET_QUEUE_LEN then
    { a with packetQueue := a.packetQueue ++ [data] }
  else a

theorem IpcArp.key_learn (a : IpcArp) (now : UInt64) (macAddress : MacAddress) :
    (a.learn now macAddress).key = a.key := by
  simp only [IpcArp.key, IpcArp.learn]

theorem IpcArp.key_expireAt (a : IpcArp) (time : UInt64) :
    ({ a with expireTime := time } : IpcArp).key = a.key :=
  rfl

theorem IpcArp.key_use (a : IpcArp) (now : UInt64) : (a.use now).key = a.key :=
  a.key_expireAt (now + IPC_ARP_LIFETIME)

theorem IpcArp.key_enqueue (a : IpcArp) (data : List UInt8) :
    (a.enqueue data).key = a.key := by
  unfold IpcArp.enqueue
  split
  case isTrue => rfl
  case isFalse => rfl

structure Ipc where
  clientIPAddress : Ip := uintToIP 0
  subnetMask : Ip := uintToIP 0
  defaultGateway : Ip := uintToIP 0
  broadcastAddress : Ip := uintToIP 0
  classlessRoute : DhcpClasslessRouteTable := {}
  macAddress : MacAddress
  arpTable : KeyedList IpcArp.key compareBytes := .empty
  /-- `IPv4RecviedQueue`. -/
  ipv4ReceivedQueue : List (List UInt8) := []
  /-- What has been sent through `Sock->SendTube`. -/
  sendTube : List (List UInt8) := []

section

variable (ipc : Ipc)

def ipcSendL2 (data : List UInt8) : Ipc :=
  { ipc with sendTube := ipc.sendTube ++ [data] }

def ipcSearchArpTable (ip : Ip) : Option IpcArp :=
  ipc.arpTable.search (addressPart ip)

def ipcSendIPv4WithDestMacAddr (data : List UInt8) (destMacAddr : MacAddress) : Ipc :=
  if data.length < 20 ∨ 1500 < data.length then ipc
  else
    ipcSendL2 ipc
      (destMacAddr.val ++ ipc.macAddress.val ++ bigEndian 2 MAC_PROTO_IPV4 ++ data)

/-- The checks of `IPCAssociateOnArpTable`. -/
def isLearnable (ip : Ip) (macAddress : MacAddress) : Bool :=
  isValidUnicastIPAddress4 ip && isValidUnicastMacAddress macAddress &&
    !(cmpIpAddr ipc.clientIPAddress ip = .eq || ipc.macAddress = macAddress) &&
    isInSameNetwork4 ip ipc.clientIPAddress ipc.subnetMask &&
    !(cmpIpAddr ipc.broadcastAddress ip = .eq)

def ipcAssociateOnArpTable (now : UInt64) (ip : Ip) (macAddress : MacAddress) : Ipc :=
  if isLearnable ipc ip macAddress = false then ipc
  else
    match ipcSearchArpTable ipc ip with
    | none => { ipc with arpTable := ipc.arpTable.insert (ipcNewARP now ip (some macAddress)) }
    | some a =>
        let ipc :=
          { ipc with
            arpTable := ipc.arpTable.write a (a.learn now macAddress) (a.key_learn now macAddress) }
        if a.resolved = false then
          a.packetQueue.foldl (fun ipc b => ipcSendIPv4WithDestMacAddr ipc b macAddress) ipc
        else ipc

def ipcProcessArp (now : UInt64) (b : List UInt8) : Ipc :=
  if b.length < 14 + 28 then ipc
  else if ushortAt b 14 ≠ ARP_HARDWARE_TYPE_ETHERNET then ipc
  else if ushortAt b 16 ≠ MAC_PROTO_IPV4 then ipc
  else if b.getD 18 0 ≠ 6 ∨ b.getD 19 0 ≠ 4 then ipc
  else
    let senderMac : MacAddress := bytesAt b 22 6
    let senderIP := uintToIP (uintAt b 28)
    let targetMac : MacAddress := bytesAt b 32 6
    let targetIP := uintToIP (uintAt b 38)
    if cmpIpAddr senderIP ipc.clientIPAddress = .eq then ipc
    else
      let ipc := ipcAssociateOnArpTable ipc now senderIP senderMac
      let ipc := ipcAssociateOnArpTable ipc now targetIP targetMac
      if ushortAt b 20 = ARP_OPERATION_REQUEST ∧
          cmpIpAddr targetIP ipc.clientIPAddress = .eq ∧ isValidUnicastMacAddress senderMac then
        ipcSendL2 ipc
          (senderMac.val ++ ipc.macAddress.val ++ bigEndian 2 MAC_PROTO_ARPV4 ++
            arpV4Header ARP_OPERATION_RESPONSE ipc.macAddress (ipToUINT ipc.clientIPAddress)
              senderMac (ipToUINT senderIP))
      else ipc

/-- An IPv4 packet is for the IPC. -/
def isReceived (ipDst : Ip) : Bool :=
  cmpIpAddr ipDst ipc.clientIPAddress = .eq || ipDst.addr.val.all (· = 255) ||
    isMulticastIP4 ipDst || cmpIpAddr ipc.broadcastAddress ipDst = .eq ||
    isZeroIp ipc.clientIPAddress

/-- An IPv4 packet in a frame that the IPC receives. -/
def processIPv4 (now : UInt64) (b : List UInt8) : Ipc :=
  if b.length < 14 + 20 then ipc
  else
    let data := b.drop 14
    let ipSrc := uintToIP (uintAt data 12)
    let ipDst := uintToIP (uintAt data 16)
    if isReceived ipc ipDst then
      let ipc := ipcAssociateOnArpTable ipc now ipSrc (bytesAt b 6 6)
      { ipc with ipv4ReceivedQueue := ipc.ipv4ReceivedQueue ++ [data] }
    else ipc

/-- A frame is looked at: it is for the IPC and comes from another station. -/
def isForMe (b : List UInt8) : Bool :=
  let destMac : MacAddress := bytesAt b 0 6
  let srcMac : MacAddress := bytesAt b 6 6
  (destMac = ipc.macAddress || destMac.val.getD 0 0 &&& 1 ≠ 0) &&
    (srcMac ≠ ipc.macAddress && isValidUnicastMacAddress srcMac)

/-- A frame in the loop of `IPCProcessL3EventsEx`. -/
def processFrame (now : UInt64) (b : List UInt8) : Ipc :=
  if b.length < 14 then ipc
  else if isForMe ipc b = false then ipc
  else if ushortAt b 12 = MAC_PROTO_ARPV4 then ipcProcessArp ipc now b
  else if ushortAt b 12 = MAC_PROTO_IPV4 then processIPv4 ipc now b
  else ipc

def ipcFlushArpTableEx (now : UInt64) : Ipc :=
  { ipc with arpTable := ipc.arpTable.deleteAll (IpcArp.isOld now) }

/-- A frame in the receiving tube, and `Tick64` when it is looked at. -/
structure Received where
  /-- `Tick64`. -/
  now : UInt64
  frame : List UInt8

def ipcProcessL3EventsEx (now : UInt64) (received : List Received) : Ipc :=
  received.foldl (fun ipc b => processFrame ipc b.now b.frame) (ipcFlushArpTableEx ipc now)

/-- `IPCSetIPv4Parameters`, with whether something has changed. -/
def ipcSetIPv4Parameters
    (ip subnet : Ip)
    (gw : Option Ip)
    (rt : Option DhcpClasslessRouteTable) :
    Bool × Ipc :=
  let changed : Bool :=
    cmpIpAddr ipc.clientIPAddress ip ≠ .eq || cmpIpAddr ipc.subnetMask subnet ≠ .eq ||
      match gw with
      | some gw => cmpIpAddr ipc.defaultGateway gw ≠ .eq
      | none => !isZeroIp ipc.defaultGateway
  let ipc :=
    { ipc with
      clientIPAddress := ip
      subnetMask := subnet
      defaultGateway := gw.getD (uintToIP 0)
      broadcastAddress := getBroadcastAddress4 ip subnet }
  match rt with
  | none => (changed, ipc)
  | some rt =>
      if 1 ≤ rt.numExistingRoutes then
        (changed || ipc.classlessRoute ≠ rt, { ipc with classlessRoute := rt })
      else (changed, ipc)

def ipcSendIPv4Unicast (now : UInt64) (data : List UInt8) (nextIP : Ip) : Ipc :=
  if data.length < 20 ∨ 1500 < data.length then ipc
  else
    match ipcSearchArpTable ipc nextIP with
    | some a =>
        if a.resolved then
          ipcSendIPv4WithDestMacAddr
            { ipc with arpTable := ipc.arpTable.write a (a.use now) (a.key_use now) } data
            a.macAddress
        else
          { ipc with arpTable := ipc.arpTable.write a (a.enqueue data) (a.key_enqueue data) }
    | none =>
        let ipc := ipcSendL2 ipc
          ((macOf 255).val ++ ipc.macAddress.val ++ bigEndian 2 MAC_PROTO_ARPV4 ++
            arpV4Header ARP_OPERATION_REQUEST ipc.macAddress (ipToUINT ipc.clientIPAddress)
              (macOf 0) (ipToUINT nextIP))
        { ipc with arpTable := ipc.arpTable.insert ((ipcNewARP now nextIP none).enqueue data) }

/-- Where `IPCSendIPv4` sends a packet. -/
inductive Route where
  | nowhere
  | broadcast
  | unicast (nextIP : Ip)

/-- The next hop of a destination: `ip_dst_local`. -/
def ipDstLocal (ipDst : Ip) : Ip :=
  if isInSameNetwork4 ipDst ipc.clientIPAddress ipc.subnetMask = false then
    match getBestClasslessRoute ipc.classlessRoute ipDst with
    | none => ipc.defaultGateway
    | some r => r.gateway
  else ipDst

/-- The checks of `IPCSendIPv4`, in its order. -/
def routeOf (data : List UInt8) : Route :=
  let ipSrc := uintToIP (uintAt data 12)
  let ipDst := uintToIP (uintAt data 16)
  if data.length < 20 ∨ 1500 < data.length then .nowhere
  else if data.getD 0 0 >>> 4 &&& 15 ≠ 4 then .nowhere
  else if cmpIpAddr ipSrc ipc.clientIPAddress ≠ .eq then .nowhere
  else if isZeroIp ipDst then .nowhere
  else if cmpIpAddr ipDst ipc.clientIPAddress = .eq then .nowhere
  else if cmpIpAddr ipc.broadcastAddress ipDst = .eq ∨ ipDst.addr.val.all (· = 255) ∨
      isMulticastIP4 ipDst then .broadcast
  else if isZeroIp (ipDstLocal ipc ipDst) then .nowhere
  else .unicast (ipDstLocal ipc ipDst)

def ipcSendIPv4 (now : UInt64) (data : List UInt8) : Ipc :=
  match routeOf ipc data with
  | .nowhere => ipc
  | .broadcast => ipcSendIPv4WithDestMacAddr ipc data (macOf 255)
  | .unicast nextIP => ipcSendIPv4Unicast ipc now data nextIP

end

/-- What happens to an IPC. -/
inductive Event where
  | setIPv4Parameters (ip subnet : Ip) (gw : Option Ip) (rt : Option DhcpClasslessRouteTable)
  | sendIPv4 (now : UInt64) (data : List UInt8)
  | processL3Events (now : UInt64) (received : List Received)
  | flushArpTable (now : UInt64)

def step (ipc : Ipc) : Event → Ipc
  | .setIPv4Parameters ip subnet gw rt => (ipcSetIPv4Parameters ipc ip subnet gw rt).2
  | .sendIPv4 now data => ipcSendIPv4 ipc now data
  | .processL3Events now received => ipcProcessL3EventsEx ipc now received
  | .flushArpTable now => ipcFlushArpTableEx ipc now

/-- The IPC after some events, the latest of them first. -/
def ipcAfter (macAddress : MacAddress) : List Event → Ipc
  | [] => { macAddress := macAddress }
  | event :: earlier => step (ipcAfter macAddress earlier) event

end InProc
end SoftEther
