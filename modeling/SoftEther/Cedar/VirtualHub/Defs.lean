import SoftEther.Cedar.AccessList.Defs
import SoftEther.Cedar.Policy
import SoftEther.Mayaqua.KeyedList
import SoftEther.Mayaqua.List
import SoftEther.Mayaqua.Memory
import SoftEther.Mayaqua.UInt

/-!
# Virtual hub

The data that `StorePacket` of `Hub.c` reads and writes: the MAC address table,
the IP table, and the sessions with their packet adapters.  A session stands for
the pointer to it; what its owner fixed before, like the policy, is kept apart
from what packets change.

Times are ticks in milliseconds.  The tick is read once for each packet.
-/

namespace SoftEther
namespace VirtualHub

open AccessList

def MAC_MIN_LIMIT_COUNT : Nat := 3

def IP_MIN_LIMIT_COUNT : Nat := 4

def IP_MIN_LIMIT_COUNT_V6 : Nat := 5

def IP_LIMIT_WHEN_NO_ROUTING_V6 : Nat := 15

def MAC_TABLE_EXCLUSIVE_TIME : Nat := 13000

def IP_TABLE_EXCLUSIVE_TIME : Nat := 13000

def OLD_MAC_ADDRESS_ENTRY_FLUSH_INTERVAL : Nat := 1000

def LIMITER_SAMPLING_SPAN : Nat := 1000

def DHCP_DISCOVER : Nat := 1

def DHCP_REQUEST : Nat := 3

def DHCP_ACK : Nat := 5

def DHCP_RELEASE : Nat := 7

def DHCP_INFORM : Nat := 8

def ICMPV6_TYPE_ROUTER_SOLICIATION : Nat := 133

def ICMPV6_TYPE_ROUTER_ADVERTISEMENT : Nat := 134

def ARP_OPERATION_REQUEST : Nat := 1

def MAC_PROTO_IPV4 : Nat := 2048

def MAC_PROTO_TAGVLAN : Nat := 33024

def TCP_FIN : UInt8 := 1

/-- The source addresses of spanning tree packets of D-Link. -/
def dlinkMac1 : MacAddress := ⟨[0, 128, 200, 0, 0, 0], rfl⟩

/-- The source addresses of spanning tree packets of D-Link. -/
def dlinkMac2 : MacAddress := ⟨[0, 13, 136, 0, 0, 0], rfl⟩

/-- The bytes of `IP` that `CmpIpAddr` compares: `addr` and `ipv6_addr`. -/
abbrev IpAddr := { bytes : List UInt8 // bytes.length = 20 }

def uintToIP (value : UInt32) : IpAddr :=
  ⟨[value.toUInt8, (value >>> 8).toUInt8, (value >>> 16).toUInt8,
    (value >>> 24).toUInt8] ++ List.replicate 16 0, rfl⟩

def ipv6AddrToIP (addr : Ipv6Addr) : IpAddr :=
  ⟨[223, 255, 255, 254] ++ addr.val, by simp [addr.property]⟩

def isIP6 (ip : IpAddr) : Bool :=
  ip.val.take 4 = [223, 255, 255, 254]

def isIP4 (ip : IpAddr) : Bool :=
  !isIP6 ip

/-- `IPV6_ADDR_UNICAST` of `GetIPv6AddrType`. -/
def isUnicastV6 (addr : Ipv6Addr) : Bool :=
  addr.val.getD 0 0 ≠ 255

/-- `IPV6_ADDR_LOCAL_UNICAST` of `GetIPv6AddrType`. -/
def isLocalUnicastV6 (addr : List UInt8) : Bool :=
  addr.getD 0 0 = 254 ∧ addr.getD 1 0 &&& 192 = 128

/-- `IPV6_ADDR_LOOPBACK` of `GetIPv6AddrType`. -/
def isLoopbackV6 (addr : Ipv6Addr) : Bool :=
  addr.val = List.replicate 15 0 ++ [1]

def isHubIpAddress64 (addr : Ipv6Addr) : Bool :=
  addr.val.take 10 = [254, 128, 0, 0, 0, 0, 0, 0, 2, 174] ∧
    addr.val.getD 11 0 = 255 ∧ addr.val.getD 12 0 = 254

/-- `IsIPPrivate`; `onFile` is `IsOnPrivateIPFile`, which reads a file. -/
def isIPPrivate (onFile : IpAddr → Bool) (ip : IpAddr) : Bool :=
  let byte (index : Nat) := ip.val.getD index 0
  byte 0 = 10 ∨
  (byte 0 = 172 ∧ 16 ≤ byte 1 ∧ byte 1 ≤ 31) ∨
  (byte 0 = 192 ∧ byte 1 = 168) ∨
  (byte 0 = 169 ∧ byte 1 = 254) ∨
  (byte 0 = 100 ∧ 64 ≤ byte 1 ∧ byte 1 ≤ 127) ∨
  (isIP4 ip ∧ onFile ip)

/-! ## Packets -/

structure DhcpV4Header where
  opCode : Nat
  hardwareType : Nat
  hardwareAddressSize : Nat
  yourIP : UInt32
  clientMacAddress : MacAddress
  deriving DecidableEq

/-- `TypeL7` with the header that it says is there. -/
inductive L7
  | unknown
  | dhcpv4 (header : DhcpV4Header)
  | ikeConn
  | openVpnConn
  | dns
  deriving DecidableEq

structure Pkt extends AccessList.Pkt where
  packetData : List UInt8
  broadcastPacket : Bool
  vlanId : Nat := 0
  l7 : L7 := .unknown
  dhcpOpCode : Nat := 0
  /-- `ICMPv6HeaderPacketInfo.Type`. -/
  icmpv6Type : Nat := 0
  /-- `Lifetime` of the router advertisement. -/
  routerLifetime : Nat := 0
  /-- `Operation` of the ARP header. -/
  arpOperation : Nat := 0
  delayedForwardTick : Nat := 0
  deriving DecidableEq

/-- A DHCP packet over IPv4, with its header. -/
def Pkt.dhcpHeader? (p : Pkt) : Option DhcpV4Header :=
  match p.l3, p.l4, p.l7 with
  | .ipv4 _, .udp _ _, .dhcpv4 header => some header
  | _, _, _ => none

/-- A UDP packet over IPv6, with its ports. -/
def Pkt.udpv6Ports? (p : Pkt) : Option (Nat × Nat) :=
  match p.l3, p.l4 with
  | .ipv6 _, .udp srcPort dstPort => some (srcPort, dstPort)
  | _, _ => none

/-- A UDP packet over IPv6 to a port of DHCPv6. -/
def Pkt.isToDhcpv6Port (p : Pkt) : Bool :=
  match p.udpv6Ports? with
  | some (_, dstPort) => dstPort = 546 ∨ dstPort = 547
  | none => false

def Pkt.isIcmpv6Packet (p : Pkt) : Bool :=
  match p.l3, p.l4 with
  | .ipv6 _, .icmpv6 => true
  | _, _ => false

def Pkt.isRouterAdvertisement (p : Pkt) : Bool :=
  p.isIcmpv6Packet ∧ p.icmpv6Type = ICMPV6_TYPE_ROUTER_ADVERTISEMENT

def Pkt.isRouterDiscovery (p : Pkt) : Bool :=
  p.isIcmpv6Packet ∧
    (p.icmpv6Type = ICMPV6_TYPE_ROUTER_SOLICIATION ∨
      p.icmpv6Type = ICMPV6_TYPE_ROUTER_ADVERTISEMENT)

/-- Broadcasts that pass `ArpDhcpOnly`. -/
def Pkt.isArpOrDhcp (p : Pkt) : Bool :=
  p.isArpPacket ∨ p.dhcpHeader?.isSome ∨ p.isToDhcpv6Port ∨ p.isIcmpv6Packet

/-- The ARP header is one for IPv4 addresses over Ethernet. -/
def isArpForIPv4 (header : ArpV4Header) : Bool :=
  header.hardwareSize = 6 ∧ header.hardwareType = ARP_HARDWARE_TYPE_ETHERNET ∧
    header.protocolSize = 4 ∧ header.protocolType = MAC_PROTO_IPV4

/-- The source address that the IPv4 part of the IP table is about. -/
def Pkt.sourceIPv4 (p : Pkt) : Option UInt32 :=
  match p.l7 with
  | .dhcpv4 _ => none
  | _ =>
      match p.l3 with
      | .ipv4 header => some header.srcIP
      | .arpv4 header => if isArpForIPv4 header then some header.srcIP else none
      | _ => none

/-- `READ_UINT` of the last four bytes of a MAC address. -/
def lightRecvFilterMac (mac : MacAddress) : Nat :=
  (mac.val.getD 2 0).toNat * 16777216 + (mac.val.getD 3 0).toNat * 65536 +
    (mac.val.getD 4 0).toNat * 256 + (mac.val.getD 5 0).toNat

def isValidUnicastMacAddress (mac : MacAddress) : Bool :=
  mac.val.getD 0 0 &&& 1 = 0 ∧ mac.val.any (· ≠ 0)

def isMostHighestPriorityPacket (p : Pkt) : Bool :=
  match p.l3 with
  | .arpv4 _ => true
  | .ipv4 _ =>
      match p.l4 with
      | .icmpv4 => true
      | .tcp header =>
          header.flag &&& TCP_SYN ≠ 0 ∨ header.flag &&& TCP_FIN ≠ 0 ∨
            header.flag &&& TCP_RST ≠ 0
      | .udp _ _ => p.dhcpHeader?.isSome
      | _ => false
  | _ => false

/-! ## Sessions and tables -/

/-- A pointer to a `SESSION`; it also stands for its `HUB_PA`. -/
abbrev SessionId := Nat

structure MacTableEntry where
  macAddress : MacAddress
  vlanId : Nat
  session : SessionId
  /-- The session of `HubPa`. -/
  hubPa : SessionId
  createdTime : Nat
  updatedTime : Nat
  /-- `HubPa` is the packet adapter of `Session`. -/
  sameSession : hubPa = session := by rfl
  deriving DecidableEq

/-- What `CompareMacTable` and `GetHashOfMacTable` look at. -/
abbrev MacKey := MacAddress × Nat

def MacTableEntry.key (entry : MacTableEntry) : MacKey :=
  (entry.macAddress, entry.vlanId)

def compareMacTable : MacKey → MacKey → Ordering :=
  compareLex (fun left right => compareBytes left.1 right.1)
    (compareOn Prod.snd)

instance : Std.TransCmp fun left right : MacKey =>
    compareBytes left.1 right.1 :=
  Library.transCmp_image Prod.fst compareBytes

instance : Std.TransCmp compareMacTable :=
  inferInstanceAs (Std.TransCmp (compareLex _ _))

instance : Std.LawfulEqCmp compareMacTable where
  compare_self := by
    intro key
    unfold compareMacTable compareLex compareOn
    rw [Ordering.then_eq_eq]
    exact ⟨Std.ReflCmp.compare_self, Std.ReflCmp.compare_self⟩
  eq_of_compare := by
    intro left right equal
    unfold compareMacTable compareLex compareOn at equal
    rw [Ordering.then_eq_eq] at equal
    exact Prod.ext (Std.LawfulEqCmp.eq_of_compare equal.1)
      (Std.LawfulEqCmp.eq_of_compare equal.2)

def getHashOfMacTable (key : MacKey) : Nat :=
  addUINT (key.1.val.map UInt8.toNat).sum key.2

structure IpTableEntry where
  ip : IpAddr
  session : SessionId
  dhcpAllocated : Bool
  createdTime : Nat
  updatedTime : Nat
  macAddress : MacAddress
  deriving DecidableEq

structure TrafficLimiter where
  lastTime : Nat := 0
  value : Nat := 0
  deriving DecidableEq

structure Storm where
  macAddress : MacAddress
  srcIp : IpAddr
  destIp : IpAddr
  strictMode : Bool
  checkStartTick : Nat := 0
  currentBroadcastNum : Nat := 0
  discardValue : Nat := 0
  deriving DecidableEq

/-- `BLOCK` in a packet queue. -/
structure Block where
  buf : List UInt8
  isFlooding : Bool
  packet : Option Pkt
  deriving DecidableEq

structure HubPa where
  packetQueue : List Block := []
  uploadLimiter : TrafficLimiter := {}
  downloadLimiter : TrafficLimiter := {}
  stormList : MayaquaList Storm := {}
  deriving DecidableEq

/-- The fields of `SESSION` that packets change. -/
structure SessionState where
  /-- `PacketAdapter->Param`. -/
  hubPa : Option HubPa := none
  acl : AccessList.Session
  lastCommTimeForDormant : Nat := 0
  lightRecvFilterMac : Nat := 0
  lightRecvFilterIPv4_1 : UInt32 := 0
  lightRecvFilterIPv4_2 : UInt32 := 0
  lastDLinkSTPPacketSendTick : Nat := 0
  lastDLinkSTPPacketDataHash : List UInt8 := []
  delayedPacketList : List Pkt := []
  maxLoggedPacketsPerMinuteStartTick : Nat := 0
  currentNumPackets : Nat := 0

/-- The fields of `SESSION` that are fixed before its first packet. -/
structure Session where
  policy : Policy
  bridgeMode : Bool := false
  isOpenVPNL3Session : Bool := false
  enableLightRecvFilter : Bool := false
  isMonitorMode : Bool := false
  ipv6Session : Bool := false
  secureNATMode : Bool := false
  linkModeServer : Bool := false
  linkModeClient : Bool := false
  l3SwitchMode : Bool := false
  /-- `Connection->Protocol == CONNECTION_TCP`. -/
  isConnectionTcp : Bool := false
  vLanId : Nat := 0
  adjustMss : Nat := 0
  isUsingUdpAcceleration : Bool := false
  udpAccelMss : Nat := 0
  isRUDPSession : Bool := false
  rUdpMss : Nat := 0

/-- `HUB_OPTION`; the options of access lists are kept with the list. -/
structure HubOption where
  dropBroadcastsInPrivacyFilterMode : Bool := false
  dropArpInPrivacyFilterMode : Bool := false
  floodingSendQueueBufferQuota : Nat := 0
  detectDormantSessionInterval : Nat := 0
  noManageVlanId : Bool := false
  noIpTable : Bool := false
  disableCheckMacOnLocalBridge : Bool := false
  fixForDLinkBPDU : Bool := false
  noIPv6DefaultRouterInRAWhenIPv6 : Bool := false
  manageOnlyPrivateIP : Bool := false
  manageOnlyLocalUnicastIPv6 : Bool := false
  broadcastLimiterStrictMode : Bool := false
  broadcastStormDetectionThreshold : Nat := 0
  vlanTypeId : Nat := 0
  disableAdjustTcpMss : Bool := false
  maxLoggedPacketsPerMinute : Nat := 0
  noIPv4PacketLog : Bool := false
  noIPv6PacketLog : Bool := false

/-- The global parameters of `VPN_GP`, with their defaults. -/
structure GlobalParams where
  maxMacTables : Nat := 65536
  maxIpTables : Nat := 65536
  maxStoredQueueNum : Nat := 1024
  macTableExpireTime : Nat := 600000
  ipTableExpireTime : Nat := 60000
  ipTableExpireTimeDhcp : Nat := 300000
  stormCheckSpan : Nat := 500
  stormDiscardValueStart : Nat := 3
  stormDiscardValueEnd : Nat := 1024

/-- `HUB_LOG`, as far as packet logs go. -/
structure HubLog where
  savePacketLog : Bool := false
  tcpConn : Nat := 0
  tcp : Nat := 0
  dhcp : Nat := 0
  udp : Nat := 0
  icmp : Nat := 0
  ip : Nat := 0
  arp : Nat := 0
  ethernet : Nat := 0

/-- What is fixed while packets are stored: settings of the hub and of its
sessions, and the functions that read files, hash data or rewrite the bytes of a
frame. -/
structure Settings where
  option : HubOption := {}
  hubMacAddr : MacAddress
  acl : AccessList.Hub
  session : SessionId → Session
  params : GlobalParams := {}
  logSetting : HubLog := {}
  /-- `IsUserMatchInUserListWithCacheExpires`. -/
  userListContains : List UInt8 → UInt64 → Nat → Bool
  isOnPrivateIPFile : IpAddr → Bool
  hash : List UInt8 → List UInt8
  /-- `AdjustTcpMssL2`, with the MSS and the VLAN type. -/
  adjustTcpMssL2 : List UInt8 → Nat → Nat → List UInt8
  /-- The rewriting of `DeleteIPv6DefaultRouterInRA`. -/
  withoutDefaultRouter : List UInt8 → List UInt8
  /-- The reply that `ForceRedirectToUrl` builds. -/
  redirectReply : Pkt → CString → List UInt8

/-- The draws and readings that one call of `StorePacket` gets from outside. -/
structure Draws where
  /-- `rand()` of the packet loss. -/
  lossDraw : Nat := 0
  jitteredDelay : Nat := 0
  tickHighres64 : Nat := 0
  /-- `rand()` of the broadcast storm check. -/
  stormDraw : Nat := 0
  /-- `CedarGetCurrentTcpQueueSize` as read for a session. -/
  currentTcpQueueSize : SessionId → Nat := fun _ => 0

structure Hub where
  macHashTable :
    HashList MacTableEntry.key compareMacTable getHashOfMacTable :=
      .empty 256 (by decide)
  ipTable : KeyedList IpTableEntry.ip (@compareBytes 20) := .empty
  lastFlushTick : Nat := 0
  sessionList : List SessionId := []
  monitorList : List SessionId := []
  sessions : SessionId → SessionState

def Hub.updateSession
    (hub : Hub)
    (s : SessionId)
    (change : SessionState → SessionState) :
    Hub :=
  { hub with
    sessions := Function.update hub.sessions s (change (hub.sessions s)) }

/-- The hub with the packet adapter of a session changed. -/
def Hub.updatePa (hub : Hub) (s : SessionId) (change : HubPa → HubPa) : Hub :=
  hub.updateSession s fun state =>
    { state with hubPa := state.hubPa.map change }

/-- The session has a packet adapter: `HubPaInit` was called and `HubPaFree`
was not. -/
def Hub.isAttached (hub : Hub) (s : SessionId) : Bool :=
  (hub.sessions s).hubPa.isSome

def Hub.packetQueue (hub : Hub) (s : SessionId) : List Block :=
  match (hub.sessions s).hubPa with
  | some pa => pa.packetQueue
  | none => []

end VirtualHub
end SoftEther
