import SoftEther.Cedar.VirtualHub.Delivery

/-!
# Filtering of packets to store

`StorePacketFilter` with its three parts: the upload limit, the policy of the
session, and the access list.  The policy part also records the addresses that
DHCP servers hand out in the IP table.
-/

namespace SoftEther
namespace VirtualHub

open AccessList

variable (cfg : Settings)

def storePacketFilterByTrafficLimiter
    (now : Nat)
    (s : SessionId)
    (p : Pkt)
    (hub : Hub) :
    Bool × Hub :=
  if (cfg.session s).policy.maxUpload = 0 then (true, hub)
  else if isMostHighestPriorityPacket p then (true, hub)
  else
    match (hub.sessions s).hubPa with
    | none => (true, hub)
    | some pa =>
        let limiter := intoTrafficLimiter now p pa.uploadLimiter
        (!limiter.exceeds (cfg.session s).policy.maxUpload,
          hub.updatePa s fun pa => { pa with uploadLimiter := limiter })

/-! ## The policy -/

/-- A TCP packet that answers a connection. -/
def isSynAck (p : Pkt) : Bool :=
  match p.l4 with
  | .tcp header => header.flag &&& TCP_SYN ≠ 0 ∧ header.flag &&& TCP_ACK ≠ 0
  | _ => false

def isFromDhcpServer (p : Pkt) : Bool :=
  match p.dhcpHeader? with
  | some header => header.opCode = 2
  | none => false

/-- A DHCPv6 packet that `DHCPv6NoServer` takes for one of a server. -/
def isFromDhcpv6Server (p : Pkt) : Bool :=
  match p.udpv6Ports? with
  | some (srcPort, dstPort) => dstPort = 546 ∨ srcPort = 547
  | none => false

/-- The checks of `StorePacketFilterByPolicy`: the packet is dropped. -/
def droppedByPolicy (pol : Policy) (p : Pkt) : Bool :=
  (pol.noServer ∧ p.isIPv4Packet ∧ isSynAck p) ∨
  (pol.noServerV6 ∧ p.isIPv6Packet ∧ isSynAck p) ∨
  (pol.arpDhcpOnly ∧ p.broadcastPacket ∧ p.isArpOrDhcp = false) ∨
  (pol.filterIPv4 ∧ (p.macProtocol = 2048 ∨ p.macProtocol = 2054)) ∨
  (pol.filterIPv6 ∧ p.macProtocol = 34525) ∨
  (pol.filterNonIP ∧
    ¬(p.macProtocol = 34525 ∨ p.macProtocol = 2048 ∨ p.macProtocol = 2054)) ∨
  (pol.dhcpFilter ∧ p.dhcpHeader?.isSome) ∨
  (pol.dhcpv6Filter ∧ p.isToDhcpv6Port) ∨
  (pol.dhcpNoServer ∧ isFromDhcpServer p) ∨
  (pol.dhcpv6NoServer ∧ isFromDhcpv6Server p) ∨
  (pol.rsAndRAFilter ∧ p.isRouterDiscovery) ∨
  (pol.raFilter ∧ p.isRouterAdvertisement)

def IpTableEntry.isExpired (now : Nat) (e : IpTableEntry) : Bool :=
  e.updatedTime +
    (if e.dhcpAllocated then cfg.params.ipTableExpireTimeDhcp
    else cfg.params.ipTableExpireTime) ≤ now

/-- The loop of `DeleteOldIpTableEntry`: the last of the oldest entries. -/
def oldestIpTableEntry (entries : List IpTableEntry) : Option IpTableEntry :=
  entries.foldl
    (fun old e =>
      match old with
      | none => some e
      | some oldest => if e.updatedTime ≤ oldest.updatedTime then some e else old)
    none

def deleteOldIpTableEntry
    (o : KeyedList IpTableEntry.ip (@compareBytes 20)) :
    KeyedList IpTableEntry.ip (@compareBytes 20) :=
  match oldestIpTableEntry o.items with
  | some old => o.delete old
  | none => o

/-- A new IP table entry: expired entries go, and an old one if there is no
room. -/
def insertIpTableEntry (now : Nat) (e : IpTableEntry) (hub : Hub) : Hub :=
  let o := hub.ipTable.deleteAll (IpTableEntry.isExpired cfg now)
  let o := if cfg.params.maxIpTables ≤ o.num then deleteOldIpTableEntry o else o
  { hub with ipTable := o.insert e }

def learnOwnAddress (s : SessionId) (ip : UInt32) (hub : Hub) : Hub :=
  if (cfg.session s).enableLightRecvFilter then
    hub.updateSession s fun state =>
      if state.lightRecvFilterIPv4_1 = 0 then
        { state with lightRecvFilterIPv4_1 := ip }
      else { state with lightRecvFilterIPv4_2 := ip }
  else hub

/-- The address that a DHCP server hands out to a client, as the IP table
records it. -/
def dhcpAllocation (p : Pkt) : Option (UInt32 × MacAddress) :=
  match p.dhcpHeader? with
  | none => none
  | some h =>
      if h.opCode = 2 ∧ p.dhcpOpCode = DHCP_ACK ∧
          h.hardwareType = ARP_HARDWARE_TYPE_ETHERNET ∧
          h.hardwareAddressSize = 6 ∧ h.yourIP ≠ 0 ∧ h.yourIP ≠ 4294967295 then
        some (h.yourIP, h.clientMacAddress)
      else none

/-- The record of an address for the session of the client. -/
def registerDhcpAddress
    (now : Nat)
    (p : Pkt)
    (client : SessionId)
    (ip : UInt32)
    (hub : Hub) :
    Hub :=
  let hub := learnOwnAddress cfg client ip hub
  match found : hub.ipTable.search (uintToIP ip) with
  | none =>
      insertIpTableEntry cfg now
        { ip := uintToIP ip
          session := client
          dhcpAllocated := true
          createdTime := now
          updatedTime := now
          macAddress := p.macAddressDest } hub
  | some e =>
      { hub with
        ipTable := hub.ipTable.write e
          { ip := uintToIP ip
            session := client
            dhcpAllocated := true
            createdTime := now
            updatedTime := now
            macAddress := p.macAddressDest }
          (KeyedList.search_sound found).2.symm }

/-- The recording of DHCP replies in `StorePacketFilterByPolicy`. -/
def recordDhcpReply (now : Nat) (p : Pkt) (hub : Hub) : Hub :=
  if cfg.option.noIpTable then hub
  else
    match dhcpAllocation p with
    | none => hub
    | some (ip, mac) =>
        match hub.macHashTable.search (mac, 0) with
        | none => hub
        | some macTable => registerDhcpAddress cfg now p macTable.session ip hub

def storePacketFilterByPolicy
    (now : Nat)
    (s : SessionId)
    (p : Pkt)
    (hub : Hub) :
    Bool × Hub :=
  if droppedByPolicy (cfg.session s).policy p then (false, hub)
  else (true, recordDhcpReply cfg now p hub)

/-- `ApplyAccessListToStoredPacket` at the session, with the redirection reply
that it may send back. -/
def applyAccessList (now : Nat) (s : SessionId) (p : Pkt) (hub : Hub) :
    Option Pkt × Hub :=
  let stored := applyAccessListToStoredPacket cfg.userListContains cfg.acl
    (hub.sessions s).acl p.toPkt
  let hub := hub.updateSession s fun state =>
    { state with acl := stored.session }
  let hub :=
    match stored.redirectUrl with
    | some url =>
        storePacketToHubPa cfg now s none (cfg.redirectReply p url) none false
          false hub
    | none => hub
  (if stored.pass then some { p with toPkt := stored.packet } else none, hub)

/-- `StorePacketFilter`: the packet as it passes, if it does. -/
def storePacketFilter (now : Nat) (s : SessionId) (p : Pkt) (hub : Hub) :
    Option Pkt × Hub :=
  match storePacketFilterByTrafficLimiter cfg now s p hub with
  | (false, hub) => (none, hub)
  | (true, hub) =>
      match storePacketFilterByPolicy cfg now s p hub with
      | (false, hub) => (none, hub)
      | (true, hub) => applyAccessList cfg now s p hub

end VirtualHub
end SoftEther
