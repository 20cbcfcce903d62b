import SoftEther.Cedar.VirtualHub.Filter
import SoftEther.Cedar.VirtualHub.Storm
import SoftEther.Library.Runs

/-!
# Storing a packet

`StorePacket`, cut at its steps: the filters, the MAC address table, the choice
of the destination, the IP table, the broadcast storm check, and the paths to
the monitoring ports, to one session and to all sessions.  A step that jumps to
`DISCARD_PACKET` returns `false` with the state it leaves behind.

`none` as the source is the hub itself.
-/

namespace SoftEther
namespace VirtualHub

open AccessList

variable (cfg : Settings)

def isFromMonitorPort (s : Option SessionId) : Bool :=
  match s with
  | some source => (cfg.session source).policy.monitorPort
  | none => false

/-- The interval after which a silent session is dormant, 0 if never. -/
def dormantInterval : Nat :=
  cfg.option.detectDormantSessionInterval * 1000

/-- The source shows that it is alive and where it is. -/
def noteSender (now : Nat) (s : Option SessionId) (packet : Pkt) (hub : Hub) :
    Hub :=
  match s with
  | none => hub
  | some source =>
      hub.updateSession source fun state =>
        { state with
          lastCommTimeForDormant :=
            if dormantInterval cfg ≠ 0 ∧ state.acl.normalClient ∧
                isHubMacAddress packet.macAddressSrc = false then
              now
            else state.lastCommTimeForDormant
          lightRecvFilterMac :=
            if (cfg.session source).enableLightRecvFilter ∧
                isValidUnicastMacAddress packet.macAddressSrc then
              lightRecvFilterMac packet.macAddressSrc
            else state.lightRecvFilterMac }

/-- The filters; a packet that was delayed passed them before. -/
def applyStoreFilter
    (now : Nat)
    (s : Option SessionId)
    (packet : Pkt)
    (hub : Hub) :
    Option Pkt × Hub :=
  match s with
  | none => (some packet, hub)
  | some source =>
      if packet.delayedForwardTick = 0 then
        storePacketFilter cfg now source packet hub
      else (some packet, hub)

/-- The packet loss of an access list entry hits the packet. -/
def isLost (draws : Draws) (packet : Pkt) : Bool :=
  1 ≤ packet.loss ∧ (100 ≤ packet.loss ∨ draws.lossDraw % 100 < packet.loss)

def delayAfterJitter (draws : Draws) (packet : Pkt) : Nat :=
  if packet.delay = 0 then 0
  else if packet.jitter = 0 then packet.delay
  else draws.jitteredDelay

def delayPacket (draws : Draws) (source : SessionId) (packet : Pkt) (hub : Hub) :
    Hub :=
  hub.updateSession source fun state =>
    { state with
      delayedPacketList :=
        state.delayedPacketList ++
          [{ packet with
            loss := 0
            jitter := 0
            delay := 0
            delayedForwardTick :=
              draws.tickHighres64 + delayAfterJitter draws packet }] }

/-! ## The MAC address table -/

/-- The key under which an address of a packet is registered. -/
def macKey (mac : MacAddress) (packet : Pkt) : MacKey :=
  (mac, if cfg.option.noManageVlanId then 0 else packet.vlanId)

def MacTableEntry.isExpired (now : Nat) (entry : MacTableEntry) : Bool :=
  entry.updatedTime + cfg.params.macTableExpireTime ≤ now

/-- The removal of old entries, `DeleteExpiredMacTableEntry`, at intervals. -/
def flushMacTable (now : Nat) (hub : Hub) : Hub :=
  if hub.lastFlushTick = 0 ∨
      hub.lastFlushTick + OLD_MAC_ADDRESS_ENTRY_FLUSH_INTERVAL < now then
    { hub with
      lastFlushTick := now
      macHashTable :=
        hub.macHashTable.deleteAll (MacTableEntry.isExpired cfg now) }
  else hub

/-- The number of MAC addresses of a session. -/
def numMac (hub : Hub) (s : SessionId) : Nat :=
  hub.macHashTable.toArray.countP fun e => e.session = s

def Policy.limitsMac (pol : Policy) : Bool :=
  pol.maxMac ≠ 0 ∨ pol.noBridge

/-- `limited_count` for MAC addresses. -/
def Policy.macLimit (pol : Policy) : Nat :=
  let limitedCount := INFINITE
  let limitedCount :=
    if pol.noBridge then min limitedCount MAC_MIN_LIMIT_COUNT else limitedCount
  let limitedCount :=
    if pol.maxMac ≠ 0 then min limitedCount pol.maxMac.toNat else limitedCount
  max limitedCount MAC_MIN_LIMIT_COUNT

/-- The session may not register another MAC address. -/
def isMacLimitReached (hub : Hub) (s : SessionId) : Bool :=
  Policy.limitsMac (cfg.session s).policy ∧
    (cfg.session s).isOpenVPNL3Session = false ∧
    Policy.macLimit (cfg.session s).policy ≤ numMac hub s

/-- The registration of a new MAC address. -/
def registerMac (now : Nat) (s : SessionId) (packet : Pkt) (hub : Hub) :
    Bool × Hub :=
  let hub := flushMacTable cfg now hub
  if isMacLimitReached cfg hub s then (false, hub)
  else if cfg.params.maxMacTables ≤ hub.macHashTable.num then (false, hub)
  else
    (true,
      { hub with
        macHashTable := hub.macHashTable.add
          { macAddress := packet.macAddressSrc
            vlanId := (macKey cfg packet.macAddressSrc packet).2
            session := s
            hubPa := s
            createdTime := now
            updatedTime := now } })

/-- The duplicate check of MAC addresses is on for a session. -/
def checksMac (s : SessionId) : Bool :=
  if (cfg.session s).policy.checkMac then true
  else
    (cfg.session s).bridgeMode ∧
      cfg.option.disableCheckMacOnLocalBridge = false

/-- The condition of the measures for D-Link, as `&&` and `||` bind. -/
def isDLinkBPDU (mac : MacAddress) : Bool :=
  (cfg.option.fixForDLinkBPDU ∧ mac = dlinkMac1) ∨ mac = dlinkMac2

/-- The same packet was sent to the session less than 750 ms ago. -/
def isRepeatedDLinkPacket
    (now : Nat)
    (s : SessionId)
    (packet : Pkt)
    (hub : Hub) :
    Bool :=
  (hub.sessions s).lastDLinkSTPPacketSendTick ≠ 0 ∧
    subUINT64 now (hub.sessions s).lastDLinkSTPPacketSendTick < 750 ∧
    cfg.hash packet.packetData = (hub.sessions s).lastDLinkSTPPacketDataHash

/-- `UPDATE_FDB`: the entry goes over to another session. -/
def takeOverMac (now : Nat) (s : SessionId) (entry : MacTableEntry) (hub : Hub) :
    Hub :=
  { hub with
    macHashTable := hub.macHashTable.write entry
      { entry with
        session := s
        hubPa := s
        createdTime := now
        updatedTime := now
        sameSession := rfl }
      rfl }

/-- The source address is registered to another session. -/
def claimMac
    (now : Nat)
    (s : SessionId)
    (packet : Pkt)
    (entry : MacTableEntry)
    (hub : Hub) :
    Bool × Hub :=
  if checksMac cfg s ∧ packet.macAddressSrc ≠ cfg.hubMacAddr ∧
      now ≤ entry.updatedTime + MAC_TABLE_EXCLUSIVE_TIME then
    if isDLinkBPDU cfg packet.macAddressSrc ∧
        isRepeatedDLinkPacket cfg now s packet hub = false then
      (true, takeOverMac now s entry hub)
    else (false, hub)
  else (true, takeOverMac now s entry hub)

/-- The source address is registered to the session itself. -/
def refreshMac (now : Nat) (entry : MacTableEntry) (hub : Hub) : Hub :=
  { hub with
    macHashTable := hub.macHashTable.write entry
      { entry with updatedTime := now } rfl }

/-- The source address in the MAC address table. -/
def learnMac (now : Nat) (s : SessionId) (packet : Pkt) (hub : Hub) :
    Bool × Hub :=
  match hub.macHashTable.search (macKey cfg packet.macAddressSrc packet) with
  | none => registerMac cfg now s packet hub
  | some entry =>
      if entry.session = s then (true, refreshMac now entry hub)
      else claimMac cfg now s packet entry hub

/-- Where a packet goes. -/
inductive Route
  /-- To all sessions. -/
  | flood
  | unicast (entry : MacTableEntry)

/-- The destination of a packet; there is none when it is the source. -/
def findDestination (s : Option SessionId) (packet : Pkt) (hub : Hub) :
    Option Route :=
  if packet.broadcastPacket then some .flood
  else
    match hub.macHashTable.search (macKey cfg packet.macAddressDest packet) with
    | none => some .flood
    | some entry =>
        if some entry.session = s then none else some (.unicast entry)

/-! ## The IP table -/

def isIPManagementTargetForHUB (ip : IpAddr) : Bool :=
  if isIP4 ip then
    if cfg.option.manageOnlyPrivateIP then
      isIPPrivate cfg.isOnPrivateIPFile ip
    else true
  else if cfg.option.manageOnlyLocalUnicastIPv6 then
    isLocalUnicastV6 (ip.val.drop 4)
  else true

/-- The number of IP addresses of a session that are of one version. -/
def numIp (ofVersion : IpAddr → Bool) (hub : Hub) (s : SessionId) : Nat :=
  hub.ipTable.items.countP fun e => e.session = s ∧ ofVersion e.ip

def newIpEntry (now : Nat) (s : SessionId) (packet : Pkt) (ip : IpAddr) :
    IpTableEntry where
  ip := ip
  session := s
  dhcpAllocated := false
  createdTime := now
  updatedTime := now
  macAddress := packet.macAddressSrc

/-- The entry belongs to the session itself: its time is renewed. -/
def refreshIp (now : Nat) (packet : Pkt) (e : IpTableEntry) (hub : Hub) : Hub :=
  { hub with
    ipTable := hub.ipTable.write e
      { e with updatedTime := now, macAddress := packet.macAddressSrc } rfl }

/-- An entry was used recently. -/
def IpTableEntry.isExclusive (now : Nat) (e : IpTableEntry) : Bool :=
  now ≤ e.updatedTime + IP_TABLE_EXCLUSIVE_TIME

/-- The source address that the IPv6 part of the IP table is about. -/
def trackedIPv6 (packet : Pkt) : Option IpAddr :=
  match packet.l3 with
  | .ipv6 header =>
      let addr := header.srcAddress
      if isUnicastV6 addr = false ∨ isLoopbackV6 addr ∨ isZeroIP6Addr addr ∨
          (isHubMacAddress packet.macAddressSrc ∧ isHubIpAddress64 addr) then
        none
      else some (ipv6AddrToIP addr)
  | _ => none

/-- A router solicitation or advertisement, or a DHCPv6 packet. -/
def isDhcpOrRA (packet : Pkt) : Bool :=
  packet.isRouterDiscovery ∨ packet.isToDhcpv6Port

/-- `limited_count` for IPv6 addresses. -/
def ipv6Limit (pol : Policy) (packet : Pkt) : Nat :=
  if isDhcpOrRA packet then INFINITE
  else
    let limitedCount := INFINITE
    let limitedCount :=
      if pol.noRoutingV6 then min limitedCount IP_LIMIT_WHEN_NO_ROUTING_V6
      else limitedCount
    let limitedCount :=
      if pol.maxIPv6 ≠ 0 then min limitedCount pol.maxIPv6.toNat
      else limitedCount
    max limitedCount IP_MIN_LIMIT_COUNT_V6

/-- The session may not register another IPv6 address. -/
def isIPv6LimitReached (hub : Hub) (s : SessionId) (packet : Pkt) : Bool :=
  let pol := (cfg.session s).policy
  (pol.noRoutingV6 ∨ pol.maxIPv6 ≠ 0) ∧ ipv6Limit pol packet ≤ numIp isIP6 hub s

def checkIPv6Source (now : Nat) (s : SessionId) (packet : Pkt) (hub : Hub) :
    Bool × Hub :=
  match trackedIPv6 packet with
  | none => (true, hub)
  | some ip =>
      match hub.ipTable.search ip with
      | none =>
          if isIPv6LimitReached cfg hub s packet then (false, hub)
          else if isIPManagementTargetForHUB cfg ip then
            (true, insertIpTableEntry cfg now (newIpEntry now s packet ip) hub)
          else (true, hub)
      | some e =>
          if e.session = s then (true, refreshIp now packet e hub)
          else if (cfg.session s).policy.checkIPv6 ∧ e.isExclusive now then
            (false, hub)
          else
            -- Nothing is written here, unlike in the part for IPv4.
            (true, hub)

/-- The source address that the IPv4 part of the IP table is about. -/
def trackedIPv4 (packet : Pkt) : Option UInt32 :=
  match packet.sourceIPv4 with
  | none => none
  | some ip =>
      if ip = 0 ∨ ip = 4294967295 ∨
          (isHubIpAddress32 ip ∧ isHubMacAddress packet.macAddressSrc) then
        none
      else some ip

def Policy.limitsIPv4 (pol : Policy) : Bool :=
  pol.noRouting ∨ pol.maxIP ≠ 0

/-- `limited_count` for IPv4 addresses. -/
def Policy.ipv4Limit (pol : Policy) : Nat :=
  let limitedCount := INFINITE
  let limitedCount :=
    if pol.noRouting then min limitedCount IP_MIN_LIMIT_COUNT else limitedCount
  let limitedCount :=
    if pol.maxIP ≠ 0 then min limitedCount pol.maxIP.toNat else limitedCount
  max limitedCount IP_MIN_LIMIT_COUNT

/-- The session may not register another IPv4 address. -/
def isIPv4LimitReached (hub : Hub) (s : SessionId) : Bool :=
  Policy.limitsIPv4 (cfg.session s).policy ∧
    Policy.ipv4Limit (cfg.session s).policy ≤ numIp isIP4 hub s

/-- The entry goes over to another session. -/
def takeOverIp
    (now : Nat)
    (s : SessionId)
    (packet : Pkt)
    (e : IpTableEntry)
    (hub : Hub) :
    Hub :=
  { hub with
    ipTable := hub.ipTable.write e
      { e with
        session := s
        updatedTime := now
        macAddress := packet.macAddressSrc } rfl }

def checkIPv4Source (now : Nat) (s : SessionId) (packet : Pkt) (hub : Hub) :
    Bool × Hub :=
  let pol := (cfg.session s).policy
  match trackedIPv4 packet with
  | none => (true, hub)
  | some ip =>
      match hub.ipTable.search (uintToIP ip) with
      | none =>
          if pol.dhcpForce then (false, hub)
          else if isIPv4LimitReached cfg hub s then (false, hub)
          else if isIPManagementTargetForHUB cfg (uintToIP ip) then
            (true,
              learnOwnAddress cfg s ip
                (insertIpTableEntry cfg now
                  (newIpEntry now s packet (uintToIP ip)) hub))
          else (true, hub)
      | some e =>
          if e.session = s then (true, refreshIp now packet e hub)
          else if (pol.checkIP ∨ pol.dhcpForce) ∧ e.isExclusive now then
            (false, hub)
          else if pol.dhcpForce ∧ e.dhcpAllocated = false then (false, hub)
          else (true, takeOverIp now s packet e hub)

def checkIpTable (now : Nat) (s : SessionId) (packet : Pkt) (hub : Hub) :
    Bool × Hub :=
  if cfg.option.noIpTable then (true, hub)
  else
    match checkIPv6Source cfg now s packet hub with
    | (false, hub) => (false, hub)
    | (true, hub) => checkIPv4Source cfg now s packet hub

/-! ## The ways to the sessions -/

/-- The privacy filter between two sessions: broadcasts and ARP pass unless
options of the hub say no. -/
def droppedByPrivacyFilter (source dest : SessionId) (p : Pkt) : Bool :=
  (cfg.option.dropBroadcastsInPrivacyFilterMode ∨ p.broadcastPacket = false) ∧
    (cfg.session source).policy.privacyFilter ∧
    (cfg.session dest).policy.privacyFilter ∧
    (cfg.option.dropArpInPrivacyFilterMode ∨ p.isArpPacket = false)

/-- The checks that a packet of a session goes through for a destination. -/
def droppedBetween (s : Option SessionId) (dest : SessionId) (p : Pkt) : Bool :=
  match s with
  | none => false
  | some source =>
      droppedByPrivacyFilter cfg source dest p ∨
        p.macAddressSrc = cfg.hubMacAddr ∨ p.macAddressDest = cfg.hubMacAddr

def droppedByDestination (s : Option SessionId) (dest : SessionId) (p : Pkt) :
    Bool :=
  let pol := (cfg.session dest).policy
  (pol.rsAndRAFilter ∧ p.isRouterDiscovery) ∨
  (pol.dhcpFilter ∧ p.dhcpHeader?.isSome) ∨
  (pol.dhcpv6Filter ∧ p.isToDhcpv6Port) ∨
  (pol.arpDhcpOnly ∧ p.broadcastPacket ∧ p.isArpOrDhcp = false) ∨
  (pol.filterIPv4 ∧ (p.isIPv4Packet ∨ p.isArpPacket)) ∨
  (pol.filterIPv6 ∧ p.isIPv6Packet) ∨
  (pol.filterNonIP ∧ ¬(p.isIPv4Packet ∨ p.isArpPacket ∨ p.isIPv6Packet)) ∨
  droppedBetween cfg s dest p

def dataWithoutDefaultRouter (dest : SessionId) (p : Pkt) : List UInt8 :=
  let destSession := cfg.session dest
  if (destSession.policy.noIPv6DefaultRouterInRA ∨
        (destSession.policy.noIPv6DefaultRouterInRAWhenIPv6 ∧
          destSession.ipv6Session) ∨
        (cfg.option.noIPv6DefaultRouterInRAWhenIPv6 ∧
          destSession.ipv6Session)) ∧
      p.isRouterAdvertisement ∧ p.routerLifetime ≠ 0 then
    cfg.withoutDefaultRouter p.packetData
  else p.packetData

def calcPacketLoggingLevel (p : Pkt) : Nat :=
  let g := cfg.logSetting
  let ofTcp (header : TcpHeader) : Nat :=
    if header.flag &&& TCP_SYN ≠ 0 ∨ header.flag &&& TCP_RST ≠ 0 ∨
        header.flag &&& TCP_FIN ≠ 0 then
      max g.tcp g.tcpConn
    else g.tcp
  let ofL7 : Nat :=
    match p.l7, p.isIPv4Packet with
    | .dhcpv4 _, true => g.dhcp
    | .ikeConn, _ | .openVpnConn, _ | .dns, _ => g.tcpConn
    | _, _ => 0
  let ofL4 : Nat :=
    match p.l4, p.isIPv4Packet with
    | .icmpv4, true => g.icmp
    | .icmpv6, false => g.icmp
    | .tcp header, _ => ofTcp header
    | .udp _ _, _ => max g.udp ofL7
    | _, _ => 0
  let ofL3 : Nat :=
    match p.l3 with
    | .arpv4 _ => g.arp
    | .ipv4 _ | .ipv6 _ => max g.ip ofL4
    | _ => 0
  max g.ethernet ofL3

/-- The packet log is taken for the packet. -/
def isLogged (p : Pkt) : Bool :=
  cfg.logSetting.savePacketLog ∧
    ¬(p.macAddressSrc = cfg.hubMacAddr ∨ p.macAddressDest = cfg.hubMacAddr) ∧
    calcPacketLoggingLevel cfg p ≠ 0 ∧
    ¬(cfg.option.noIPv4PacketLog ∧ (p.isIPv4Packet ∨ p.isArpPacket)) ∧
    ¬(cfg.option.noIPv6PacketLog ∧ p.isIPv6Packet)

def checkMaxLoggedPacketsPerMinute (now : Nat) (s : SessionId) (hub : Hub) :
    Bool × Hub :=
  let session := cfg.session s
  if session.policy.noBroadcastLimiter ∨ session.secureNATMode ∨
      session.bridgeMode ∨ session.linkModeServer ∨ session.linkModeClient ∨
      session.l3SwitchMode then
    (true, hub)
  else
    let state := hub.sessions s
    let isNewMinute :=
      state.maxLoggedPacketsPerMinuteStartTick = 0 ∨
        state.maxLoggedPacketsPerMinuteStartTick + 60000 ≤ now
    let num := (if isNewMinute then 0 else state.currentNumPackets) + 1
    (num ≤ cfg.option.maxLoggedPacketsPerMinute,
      hub.updateSession s fun state =>
        { state with
          maxLoggedPacketsPerMinuteStartTick :=
            if isNewMinute then now
            else state.maxLoggedPacketsPerMinuteStartTick
          currentNumPackets := num })

/-- `PacketLog`: `false` when the source has logged too many packets. -/
def packetLog (now : Nat) (s : Option SessionId) (p : Pkt) (hub : Hub) :
    Bool × Hub :=
  match s with
  | none => (true, hub)
  | some source =>
      if isLogged cfg p ∧ cfg.option.maxLoggedPacketsPerMinute ≠ 0 then
        checkMaxLoggedPacketsPerMinute cfg now source hub
      else (true, hub)

/-- The copies for the monitoring ports. -/
def storeToMonitors
    (now : Nat)
    (s : Option SessionId)
    (packet : Pkt)
    (hub : Hub) :
    Hub :=
  hub.monitorList.foldl
    (fun hub monitor =>
      storePacketToHubPa cfg now monitor s packet.packetData (some packet) false
        false hub)
    hub

/-- The way to one destination. -/
def storeUnicast
    (now : Nat)
    (s : Option SessionId)
    (packet : Pkt)
    (entry : MacTableEntry)
    (hub : Hub) :
    Hub :=
  let packet :=
    { packet with
      packetData := dataWithoutDefaultRouter cfg entry.session packet }
  if droppedByDestination cfg s entry.session packet then hub
  else
    match packetLog cfg now s packet hub with
    | (false, hub) => hub
    | (true, hub) =>
        storePacketToHubPa cfg now entry.hubPa s packet.packetData (some packet)
          false false hub

/-- An ARP request for an address that a session has not learned. -/
def isArpRequestForOther (state : SessionState) (p : Pkt) : Bool :=
  match p.l3 with
  | .arpv4 header =>
      isArpForIPv4 header ∧ p.arpOperation = ARP_OPERATION_REQUEST ∧
        ¬((state.lightRecvFilterIPv4_1 ≠ 0 ∧
            state.lightRecvFilterIPv4_1 = header.targetIP) ∨
          (state.lightRecvFilterIPv4_2 ≠ 0 ∧
            state.lightRecvFilterIPv4_2 = header.targetIP))
  | _ => false

def droppedByLightFilter (hub : Hub) (dest : SessionId) (p : Pkt) : Bool :=
  let state := hub.sessions dest
  (cfg.session dest).enableLightRecvFilter ∧
    ((p.broadcastPacket = false ∧ state.lightRecvFilterMac ≠ 0 ∧
        state.lightRecvFilterMac ≠ lightRecvFilterMac p.macAddressDest) ∨
      (p.broadcastPacket ∧ isArpRequestForOther state p))

def isFromDhcpClient (p : Pkt) : Bool :=
  p.dhcpHeader?.isSome ∧
    (p.dhcpOpCode = DHCP_DISCOVER ∨ p.dhcpOpCode = DHCP_REQUEST ∨
      p.dhcpOpCode = DHCP_RELEASE ∨ p.dhcpOpCode = DHCP_INFORM)

/-- The checks of a destination that only flooding makes: the packet is
dropped. -/
def droppedByFlooding
    (draws : Draws)
    (now : Nat)
    (hub : Hub)
    (dest : SessionId)
    (p : Pkt) :
    Bool :=
  let session := cfg.session dest
  let state := hub.sessions dest
  let quota := cfg.option.floodingSendQueueBufferQuota
  (session.policy.dhcpNoServer ∧ isFromDhcpClient p) ∨
  droppedByLightFilter cfg hub dest p ∨
  session.isMonitorMode ∨
  (state.acl.normalClient ∧ dormantInterval cfg ≠ 0 ∧
    (state.lastCommTimeForDormant = 0 ∨
      state.lastCommTimeForDormant + dormantInterval cfg < now)) ∨
  (quota ≠ 0 ∧ quota ≤ draws.currentTcpQueueSize dest ∧
    (session.isConnectionTcp ∨ session.linkModeServer)) ∨
  (session.vLanId ≠ 0 ∧ p.l3 = .tagVlan ∧ p.vlanId ≠ session.vLanId)

def floodTo
    (draws : Draws)
    (now : Nat)
    (s : Option SessionId)
    (packet : Pkt)
    (hub : Hub)
    (dest : SessionId) :
    Hub :=
  if some dest = s then hub
  else if droppedByFlooding cfg draws now hub dest packet ∨
      droppedByDestination cfg s dest packet then
    hub
  else if hub.isAttached dest ∧
      deniedByAccessList cfg hub s dest (some packet) = false then
    storePacketToHubPa cfg now dest s (dataWithoutDefaultRouter cfg dest packet)
      (some packet) true true hub
  else hub

/-- The way to all sessions. -/
def storeBroadcast
    (draws : Draws)
    (now : Nat)
    (s : Option SessionId)
    (packet : Pkt)
    (hub : Hub) :
    Hub :=
  match packetLog cfg now s packet hub with
  | (false, hub) => hub
  | (true, hub) =>
      hub.sessionList.foldl (floodTo cfg draws now s packet) hub

/-- The packet is given out: first to the monitoring ports. -/
def forwardPacket
    (draws : Draws)
    (now : Nat)
    (s : Option SessionId)
    (packet : Pkt)
    (route : Route)
    (hub : Hub) :
    Hub :=
  let hub := storeToMonitors cfg now s packet hub
  match route with
  | .flood => storeBroadcast cfg draws now s packet hub
  | .unicast entry => storeUnicast cfg now s packet entry hub

/-- What becomes of a packet. -/
inductive Verdict
  | discarded
  | delayed
  | forwarded
  deriving DecidableEq

def checkTables
    (draws : Draws)
    (now : Nat)
    (source : SessionId)
    (packet : Pkt)
    (hub : Hub) :
    Option Route × Hub :=
  if packet.macAddressSrc = cfg.hubMacAddr then (none, hub)
  else
    match learnMac cfg now source packet hub with
    | (false, hub) => (none, hub)
    | (true, hub) =>
        match findDestination cfg (some source) packet hub with
        | none => (none, hub)
        | some route =>
            match checkIpTable cfg now source packet hub with
            | (false, hub) => (none, hub)
            | (true, hub) =>
                match route with
                | .unicast entry => (some (.unicast entry), hub)
                | .flood =>
                    match checkBroadcastStorm cfg draws.stormDraw now source
                        packet hub with
                    | (false, hub) => (none, hub)
                    | (true, hub) => (some .flood, hub)

/-- The part of `StorePacket` after the filters, the loss and the delay. -/
def admitPacket
    (draws : Draws)
    (now : Nat)
    (s : Option SessionId)
    (packet : Pkt)
    (hub : Hub) :
    Verdict × Hub :=
  let checked :=
    match s with
    | some source => checkTables cfg draws now source packet hub
    | none => (findDestination cfg none packet hub, hub)
  match checked with
  | (none, hub) => (.discarded, hub)
  | (some route, hub) =>
      (.forwarded, forwardPacket cfg draws now s packet route hub)

/-- The loss and the delay of a packet that passed the filters. -/
def lossAndDelay
    (draws : Draws)
    (now : Nat)
    (s : Option SessionId)
    (packet : Pkt)
    (hub : Hub) :
    Verdict × Hub :=
  if isLost draws packet then (.discarded, hub)
  else
    match s with
    | some source =>
        if delayAfterJitter draws packet = 0 then
          admitPacket cfg draws now s packet hub
        else (.delayed, delayPacket draws source packet hub)
    | none =>
        -- A packet of the hub itself carries no delay.
        admitPacket cfg draws now s packet hub

def storePacket
    (draws : Draws)
    (now : Nat)
    (s : Option SessionId)
    (packet : Pkt)
    (hub : Hub) :
    Verdict × Hub :=
  if isFromMonitorPort cfg s then (.discarded, hub)
  else
    match applyStoreFilter cfg now s packet (noteSender cfg now s packet hub) with
    | (none, hub) => (.discarded, hub)
    | (some packet, hub) => lossAndDelay cfg draws now s packet hub

def hubPaInit (s : SessionId) (hub : Hub) : Hub :=
  let hub := hub.updateSession s fun state => { state with hubPa := some {} }
  if (cfg.session s).policy.monitorPort then
    { hub with monitorList := s :: hub.monitorList }
  else hub

def hubPaFree (s : SessionId) (hub : Hub) : Hub :=
  { hub with
    monitorList :=
      if (cfg.session s).policy.monitorPort then hub.monitorList.erase s
      else hub.monitorList
    macHashTable := hub.macHashTable.deleteAll fun e => e.session = s
    ipTable := hub.ipTable.deleteAll fun e => e.session = s }.updateSession s
      fun state => { state with hubPa := none }

/-- What happens at a hub. -/
inductive Event
  /-- The clock goes on. -/
  | tick (interval : Nat)
  /-- `AddSession` with a new session, which access lists know by `acl`. -/
  | addSession (s : SessionId) (acl : AccessList.Session)
  | hubPaInit (s : SessionId)
  /-- `StorePacket` by a session or by the hub itself. -/
  | storePacket (draws : Draws) (s : Option SessionId) (packet : Pkt)
  | hubPaGetNextPacket (s : SessionId)
  | delSession (s : SessionId)
  | hubPaFree (s : SessionId)

/-- A hub and the tick. -/
structure System where
  hub : Hub
  now : Nat

def newHub : Hub where
  sessions := fun _ =>
    { acl := { usernameHash := 0, groupnameHash := 0, normalClient := false } }

/-- One event.  The packet adapter of a session is used between `HubPaInit` and
`HubPaFree` only, and a session is added once before. -/
def step (sys : System) (event : Event) : Option System :=
  match event with
  | .tick interval => some { sys with now := sys.now + interval }
  | .addSession s acl =>
      if sys.hub.isAttached s ∨ s ∈ sys.hub.sessionList then none
      else
        some
          { sys with
            hub :=
              { sys.hub.updateSession s fun _ => { acl := acl } with
                sessionList := s :: sys.hub.sessionList } }
  | .hubPaInit s =>
      if sys.hub.isAttached s then none
      else some { sys with hub := hubPaInit cfg s sys.hub }
  | .storePacket draws s packet =>
      match s with
      | none =>
          some { sys with
            hub := (storePacket cfg draws sys.now none packet sys.hub).2 }
      | some source =>
          if sys.hub.isAttached source then
            some { sys with
              hub :=
                (storePacket cfg draws sys.now (some source) packet sys.hub).2 }
          else none
  | .hubPaGetNextPacket s =>
      some { sys with
        hub := sys.hub.updatePa s fun pa =>
          { pa with packetQueue := pa.packetQueue.tail } }
  | .delSession s =>
      some { sys with
        hub := { sys.hub with sessionList := sys.hub.sessionList.erase s } }
  | .hubPaFree s =>
      if sys.hub.isAttached s then
        some { sys with hub := hubPaFree cfg s sys.hub }
      else none

end VirtualHub
end SoftEther
