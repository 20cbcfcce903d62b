import SoftEther.Mayaqua.Memory
import SoftEther.Mayaqua.Str
import SoftEther.Mayaqua.UInt

/-!
# Access lists of a virtual hub

The packet, session and hub data that the access list of `Hub.c` reads, and its
functions: `IsPacketMaskedByAccessList`, `ApplyAccessListToStoredPacket` and
`ApplyAccessListToForwardPacket`.  Port numbers and the EtherType are in host
byte order.

Whether a user list file contains a user is a parameter: it stands for
`IsUserMatchInUserListWithCacheExpires`, which reads the file.
-/

namespace SoftEther
namespace AccessList

def TCP_SYN : UInt8 := 2

def TCP_RST : UInt8 := 4

def TCP_ACK : UInt8 := 16

def TCP_URG : UInt8 := 32

def ARP_HARDWARE_TYPE_ETHERNET : Nat := 1

def SE_HUB_MAC_ADDR_SIGN : UInt8 := 174

/-- `ACCESS_LIST_INCLUDED_PREFIX`, "include:". -/
def ACCESS_LIST_INCLUDED_PREFIX : List UInt8 :=
  [105, 110, 99, 108, 117, 100, 101, 58]

abbrev Ipv6Addr := { bytes : List UInt8 // bytes.length = 16 }

structure ArpV4Header where
  hardwareType : Nat
  protocolType : Nat
  hardwareSize : Nat
  protocolSize : Nat
  srcIP : UInt32
  targetIP : UInt32
  deriving DecidableEq

structure IPv4Header where
  srcIP : UInt32
  dstIP : UInt32
  protocol : Nat
  deriving DecidableEq

/-- `IPV6_HEADER` and the protocol of `IPV6_HEADER_PACKET_INFO`. -/
structure IPv6Header where
  srcAddress : Ipv6Addr
  destAddress : Ipv6Addr
  protocol : Nat
  deriving DecidableEq

/-- `TypeL3` with the header that it says is there. -/
inductive L3
  | unknown
  | arpv4 (header : ArpV4Header)
  | ipv4 (header : IPv4Header)
  | tagVlan
  | bpdu
  | ipv6 (header : IPv6Header)
  deriving DecidableEq

structure TcpHeader where
  srcPort : Nat
  dstPort : Nat
  flag : UInt8
  deriving DecidableEq

/-- `TypeL4` with the header that it says is there. -/
inductive L4
  | unknown
  | udp (srcPort dstPort : Nat)
  | tcp (header : TcpHeader)
  | icmpv4
  | icmpv6
  | fragment
  deriving DecidableEq

structure Pkt where
  macAddressSrc : MacAddress
  macAddressDest : MacAddress
  macProtocol : Nat
  l3 : L3
  l4 : L4
  payload : List UInt8
  accessChecked : Bool := false
  delay : Nat := 0
  jitter : Nat := 0
  loss : Nat := 0
  deriving DecidableEq

structure Access where
  active : Bool
  discard : Bool
  srcIpAddress : UInt32 := 0
  srcSubnetMask : UInt32 := 0
  destIpAddress : UInt32 := 0
  destSubnetMask : UInt32 := 0
  protocol : Nat := 0
  srcPortStart : Nat := 0
  srcPortEnd : Nat := 0
  destPortStart : Nat := 0
  destPortEnd : Nat := 0
  srcUsernameHash : UInt64 := 0
  isSrcUsernameIncludeOrExclude : Bool := false
  srcUsername : CString := ⟨[], CString.noNul_nil⟩
  destUsernameHash : UInt64 := 0
  isDestUsernameIncludeOrExclude : Bool := false
  destUsername : CString := ⟨[], CString.noNul_nil⟩
  checkSrcMac : Bool := false
  srcMacAddress : MacAddress := ⟨[0, 0, 0, 0, 0, 0], rfl⟩
  srcMacMask : MacAddress := ⟨[0, 0, 0, 0, 0, 0], rfl⟩
  checkDstMac : Bool := false
  dstMacAddress : MacAddress := ⟨[0, 0, 0, 0, 0, 0], rfl⟩
  dstMacMask : MacAddress := ⟨[0, 0, 0, 0, 0, 0], rfl⟩
  checkTcpState : Bool := false
  established : Bool := false
  delay : Nat := 0
  jitter : Nat := 0
  loss : Nat := 0
  redirectUrl : CString := ⟨[], CString.noNul_nil⟩
  isIPv6 : Bool := false
  srcIpAddress6 : Ipv6Addr := ⟨List.replicate 16 0, length_zeros16⟩
  srcSubnetMask6 : Ipv6Addr := ⟨List.replicate 16 0, length_zeros16⟩
  destIpAddress6 : Ipv6Addr := ⟨List.replicate 16 0, length_zeros16⟩
  destSubnetMask6 : Ipv6Addr := ⟨List.replicate 16 0, length_zeros16⟩
  deriving DecidableEq

/-- The options of `HUB_OPTION` that access lists read. -/
structure HubOption where
  filterPPPoE : Bool := false
  filterOSPF : Bool := false
  filterIPv4 : Bool := false
  filterIPv6 : Bool := false
  filterNonIP : Bool := false
  filterBPDU : Bool := false
  applyIPv4AccessListOnArpPacket : Bool := false
  accessListIncludeFileCacheLifetime : Nat := 30
  deriving DecidableEq

/-- `HUB`: its options and its access list. -/
structure Hub where
  option : HubOption := {}
  accessList : List Access
  deriving DecidableEq

/-- The names of `HUB_PA` and the fields of `SESSION` that access lists read. -/
structure Session where
  usernameHash : UInt64
  groupnameHash : UInt64
  normalClient : Bool
  firstTimeHttpRedirect : Bool := false
  firstTimeHttpAccessCheckIp : UInt32 := 0
  firstTimeHttpRedirectUrl : CString := ⟨[], CString.noNul_nil⟩
  deriving DecidableEq

/-- The destination of a packet as `IsPacketMaskedByAccessList` gets it: when
the packet is stored, neither the names nor the session are known. -/
structure Destination where
  destUsername : UInt64 := 0
  destGroupname : UInt64 := 0
  destSession : Option Session := none

def Session.asDestination (session : Session) : Destination where
  destUsername := session.usernameHash
  destGroupname := session.groupnameHash
  destSession := some session

def isHubIpAddress32 (ip32 : UInt32) : Bool :=
  let ip := ip32.toNat
  ip % 256 = 172 ∧ ip / 256 % 256 = 31 ∧
    (1 ≤ ip / 65536 % 256 ∧ ip / 65536 % 256 ≤ 254) ∧
    (1 ≤ ip / 16777216 ∧ ip / 16777216 ≤ 254)

def isHubMacAddress (mac : MacAddress) : Bool :=
  mac.val.getD 0 0 = 0 ∧ mac.val.getD 1 0 = SE_HUB_MAC_ADDR_SIGN

/-- `TypeL3 == L3_IPV4`. -/
def Pkt.isIPv4Packet (p : Pkt) : Bool :=
  match p.l3 with
  | .ipv4 _ => true
  | _ => false

/-- `TypeL3 == L3_IPV6`. -/
def Pkt.isIPv6Packet (p : Pkt) : Bool :=
  match p.l3 with
  | .ipv6 _ => true
  | _ => false

/-- `TypeL3 == L3_ARPV4`. -/
def Pkt.isArpPacket (p : Pkt) : Bool :=
  match p.l3 with
  | .arpv4 _ => true
  | _ => false

/-- The check of a MAC address under its mask. -/
def macMatches (check : Bool) (address mask mac : MacAddress) : Bool :=
  if check then
    List.zipWith (· &&& ·) address.val mask.val =
      List.zipWith (· &&& ·) mask.val mac.val
  else true

section

variable (userListContains : List UInt8 → UInt64 → Nat → Bool)

def isUserMatchInUserListWithCacheExpiresAcl
    (nameInAcl : CString)
    (userHash : UInt64)
    (lifetime : Nat) :
    Bool :=
  if userHash = 0 ∨ nameInAcl.strLen < 9 then false
  else
    let exclude :=
      (nameInAcl.bytes.take 8).map toLower ≠ ACCESS_LIST_INCLUDED_PREFIX
    let filename := trim (nameInAcl.bytes.drop 8)
    let isFullPath :=
      filename.getD 0 0 = 92 ∨ filename.getD 0 0 = 47 ∨
        (filename.getD 1 0 = 58 ∧ filename.getD 2 0 = 92)
    let filename := if isFullPath then filename else 64 :: filename
    let ret := userListContains filename userHash lifetime
    if exclude then !ret else ret

/-- The check of the source user or group. -/
def srcUserMatches (hub : Hub) (s : Session) (a : Access) : Bool :=
  if a.srcUsernameHash ≠ 0 then
    if a.isSrcUsernameIncludeOrExclude = false then
      a.srcUsernameHash = s.usernameHash ∨ a.srcUsernameHash = s.groupnameHash
    else
      s.normalClient ∧
        isUserMatchInUserListWithCacheExpiresAcl userListContains a.srcUsername
          s.usernameHash
          (mulUINT hub.option.accessListIncludeFileCacheLifetime 1000)
  else true

def destUserMatches (hub : Hub) (a : Access) (dest : Destination) : Bool :=
  if a.destUsernameHash ≠ 0 then
    if a.isDestUsernameIncludeOrExclude = false then
      a.destUsernameHash = dest.destUsername ∨
        a.destUsernameHash = dest.destGroupname
    else if (dest.destSession.map Session.normalClient) = some false then false
    else
      isUserMatchInUserListWithCacheExpiresAcl userListContains a.destUsername
        dest.destUsername
        (mulUINT hub.option.accessListIncludeFileCacheLifetime 1000)
  else true

end

/-- The check of an IPv4 address under its mask, for the address that
`ofIPv4` or `ofArp` selects from the header. -/
def ipv4AddressMatches
    (address mask : UInt32)
    (ofIPv4 : IPv4Header → UInt32)
    (ofArp : ArpV4Header → UInt32)
    (p : Pkt) :
    Bool :=
  if address ≠ 0 ∨ mask ≠ 0 then
    match p.l3 with
    | .ipv4 header => ofIPv4 header &&& mask = address &&& mask
    | .arpv4 header =>
        (header.hardwareSize = 6 ∧
          header.hardwareType = ARP_HARDWARE_TYPE_ETHERNET ∧
          header.protocolSize = 4 ∧ header.protocolType = 2048) ∧
        (ofArp header ≠ 0 ∧ ofArp header ≠ 4294967295 ∧
          ¬(isHubIpAddress32 (ofArp header) ∧
            isHubMacAddress p.macAddressSrc)) ∧
        ofArp header &&& mask = address &&& mask
    | _ => false
  else true

def ipAnd6 (left right : Ipv6Addr) : List UInt8 :=
  List.zipWith (· &&& ·) left.val right.val

def isZeroIP6Addr (addr : Ipv6Addr) : Bool :=
  addr.val.all (· = 0)

/-- The check of an IPv6 address under its mask. -/
def ipv6AddressMatches
    (address mask : Ipv6Addr)
    (ofIPv6 : IPv6Header → Ipv6Addr)
    (p : Pkt) :
    Bool :=
  if isZeroIP6Addr address = false ∨ isZeroIP6Addr mask = false then
    match p.l3 with
    | .ipv6 header => ipAnd6 address mask = ipAnd6 (ofIPv6 header) mask
    | _ => false
  else true

/-- The checks of the source and the destination address. -/
def addressesMatch (p : Pkt) (a : Access) : Bool :=
  if a.isIPv6 = false then
    ipv4AddressMatches a.srcIpAddress a.srcSubnetMask IPv4Header.srcIP
        ArpV4Header.srcIP p ∧
      ipv4AddressMatches a.destIpAddress a.destSubnetMask IPv4Header.dstIP
        ArpV4Header.targetIP p
  else
    ipv6AddressMatches a.srcIpAddress6 a.srcSubnetMask6 IPv6Header.srcAddress p ∧
      ipv6AddressMatches a.destIpAddress6 a.destSubnetMask6
        IPv6Header.destAddress p

/-- ARP packets are matched only with an option of the hub. -/
def arpAllowed (hub : Hub) (p : Pkt) : Bool :=
  if p.isArpPacket then hub.option.applyIPv4AccessListOnArpPacket else true

/-- The check of the protocol number. -/
def protocolMatches (p : Pkt) (a : Access) : Bool :=
  if a.protocol ≠ 0 then
    match a.isIPv6, p.l3 with
    | false, .ipv4 header => header.protocol = a.protocol
    | true, .ipv6 header => header.protocol = a.protocol
    | _, _ => false
  else true

/-- The packet is of the IP version that an entry is about. -/
def ipVersionMatches (p : Pkt) (a : Access) : Bool :=
  if a.isIPv6 then p.isIPv6Packet else p.isIPv4Packet

def portInRange (first last port : Nat) : Bool :=
  if first ≠ 0 ∨ last ≠ 0 then first ≤ port ∧ port ≤ last else true

/-- The check of the port numbers. -/
def portsMatch (p : Pkt) (a : Access) : Bool :=
  if a.srcPortStart ≠ 0 ∨ a.destPortStart ≠ 0 ∨ a.srcPortEnd ≠ 0 ∨
      a.destPortEnd ≠ 0 then
    if ipVersionMatches p a = false then false
    else
      match p.l4 with
      | .tcp header =>
          portInRange a.srcPortStart a.srcPortEnd header.srcPort ∧
            portInRange a.destPortStart a.destPortEnd header.dstPort
      | .udp srcPort dstPort =>
          portInRange a.srcPortStart a.srcPortEnd srcPort ∧
            portInRange a.destPortStart a.destPortEnd dstPort
      | _ => false
  else true

def tcpStateMatches (p : Pkt) (a : Access) : Bool :=
  if a.checkTcpState then
    if ipVersionMatches p a = false then false
    else
      match p.l4 with
      | .tcp header =>
          let est :=
            ¬(header.flag &&& TCP_SYN ≠ 0 ∧ header.flag &&& TCP_ACK = 0)
          a.established = decide est
      | _ => false
  else true

section

variable (userListContains : List UInt8 → UInt64 → Nat → Bool)

/-- `IsPacketMaskedByAccessList`; the callers pass the hub of the session. -/
def isPacketMaskedByAccessList
    (hub : Hub)
    (s : Session)
    (p : Pkt)
    (dest : Destination)
    (a : Access) :
    Bool :=
  a.active ∧
    macMatches a.checkSrcMac a.srcMacAddress a.srcMacMask p.macAddressSrc ∧
    macMatches a.checkDstMac a.dstMacAddress a.dstMacMask p.macAddressDest ∧
    srcUserMatches userListContains hub s a ∧
    destUserMatches userListContains hub a dest ∧
    addressesMatch p a ∧ arpAllowed hub p ∧ protocolMatches p a ∧
    portsMatch p a ∧ tcpStateMatches p a

/-- The loop of `ApplyAccessListToForwardPacket`: the entry that decides. -/
def scanForward
    (hub : Hub)
    (s : Session)
    (p : Pkt)
    (dest : Destination) :
    Bool → List Access → Option Access
  | _, [] => none
  | skip, a :: rest =>
      let skip := if a.destUsernameHash ≠ 0 then false else skip
      if skip = false ∧
          isPacketMaskedByAccessList userListContains hub s p dest a then
        some a
      else scanForward hub s p dest skip rest

def applyAccessListToForwardPacket
    (hub : Hub)
    (srcSession destSession : Session)
    (p : Pkt) :
    Bool :=
  if p.accessChecked then true
  else
    match scanForward userListContains hub srcSession p
        destSession.asDestination true hub.accessList with
    | some a => !a.discard
    | none => true

/-- The loop of `ApplyAccessListToStoredPacket`: the entry that decides. -/
def scanStored (hub : Hub) (s : Session) (p : Pkt) : List Access → Option Access
  | [] => none
  | a :: rest =>
      if a.destUsernameHash ≠ 0 then none
      else if isPacketMaskedByAccessList userListContains hub s p {} a then some a
      else scanStored hub s p rest

end

def Pkt.ipv4Protocol (p : Pkt) : Option Nat :=
  match p.l3 with
  | .ipv4 header => some header.protocol
  | _ => none

/-- The protocol filters of the hub options: the packet is dropped. -/
def filteredByOption (option : HubOption) (p : Pkt) : Bool :=
  (option.filterPPPoE ∧ (p.macProtocol = 34915 ∨ p.macProtocol = 34916)) ∨
  (option.filterOSPF ∧ p.ipv4Protocol = some 89) ∨
  (option.filterIPv4 ∧ (p.macProtocol = 2048 ∨ p.macProtocol = 2054)) ∨
  (option.filterIPv6 ∧ p.macProtocol = 34525) ∨
  (option.filterNonIP ∧
    ¬(p.macProtocol = 34525 ∨ p.macProtocol = 2048 ∨ p.macProtocol = 2054)) ∨
  (option.filterBPDU ∧ p.l3 = .bpdu)

def Pkt.tcpHeader? (p : Pkt) : Option TcpHeader :=
  match p.l4 with
  | .tcp header =>
      if p.isIPv4Packet ∨ p.isIPv6Packet then some header else none
  | _ => none

/-- A TCP packet with data, as both redirections look for it. -/
def isTcpData (header : TcpHeader) (p : Pkt) : Bool :=
  header.flag &&& TCP_ACK ≠ 0 ∧ header.flag &&& TCP_SYN = 0 ∧
    header.flag &&& TCP_RST = 0 ∧ header.flag &&& TCP_URG = 0 ∧ p.payload ≠ []

/-- An entry with a URL redirects the packet. -/
def redirectsByAccess (a : Access) (p : Pkt) : Bool :=
  match p.tcpHeader? with
  | some header => a.redirectUrl.bytes ≠ [] ∧ isTcpData header p
  | none => false

/-- `SearchBin` finds the key. -/
def searchBin (data key : List UInt8) : Bool :=
  data.tails.any fun rest => key.isPrefixOf rest

/-- `IsTcpPacketNcsiHttpAccess`: the payload contains "NCSI", ".jpeg", ".jpg",
".gif" or ".css". -/
def isTcpPacketNcsiHttpAccess (p : Pkt) : Bool :=
  match p.l4 with
  | .tcp _ =>
      [[78, 67, 83, 73], [46, 106, 112, 101, 103], [46, 106, 112, 103],
        [46, 103, 105, 102], [46, 99, 115, 115]].any (searchBin p.payload)
  | _ => false

/-- `p->L3.IPv4Header->DstIP`; in an IPv6 packet these are bytes 8 to 11 of the
source address. -/
def Pkt.dstIPField (p : Pkt) : UInt32 :=
  match p.l3 with
  | .ipv4 header => header.dstIP
  | .ipv6 header =>
      let byte (index : Nat) := (header.srcAddress.val.getD index 0).toUInt32
      byte 8 + byte 9 * 256 + byte 10 * 65536 + byte 11 * 16777216
  | _ => 0

def firstTimeHttpHeader (s : Session) (p : Pkt) : Option TcpHeader :=
  if s.firstTimeHttpRedirect ∧ s.firstTimeHttpAccessCheckIp ≠ 0 then
    match p.tcpHeader? with
    | some header => if header.dstPort = 80 then some header else none
    | none => none
  else none

def redirectsFirstTime (s : Session) (p : Pkt) : Bool :=
  match firstTimeHttpHeader s p with
  | some header =>
      p.dstIPField ≠ s.firstTimeHttpAccessCheckIp ∧ isTcpData header p ∧
        isTcpPacketNcsiHttpAccess p = false ∧
        s.firstTimeHttpRedirectUrl.bytes ≠ []
  | none => false

/-- The session after the first-time redirection: an access to the address it
waits for ends it. -/
def afterFirstTime (s : Session) (p : Pkt) : Session :=
  match firstTimeHttpHeader s p with
  | some _ =>
      if p.dstIPField = s.firstTimeHttpAccessCheckIp then
        { s with firstTimeHttpRedirect := false }
      else s
  | none => s

/-- What `ApplyAccessListToStoredPacket` returns and leaves behind;
`redirectUrl` is what `ForceRedirectToUrl` is called with. -/
structure Stored where
  pass : Bool
  packet : Pkt
  session : Session
  redirectUrl : Option CString

/-- The packet with the marks of the entry that decided. -/
def Pkt.check (p : Pkt) (a : Access) : Pkt :=
  { p with
    accessChecked := true
    delay := a.delay
    jitter := a.jitter
    loss := a.loss }

section

variable (userListContains : List UInt8 → UInt64 → Nat → Bool)

def applyAccessListToStoredPacket (hub : Hub) (s : Session) (p : Pkt) : Stored :=
  if filteredByOption hub.option p then
    { pass := false, packet := p, session := s, redirectUrl := none }
  else
    let decided := scanStored userListContains hub s p hub.accessList
    let pass : Bool :=
      match decided with
      | some a => !a.discard
      | none => true
    let byAccess :=
      match decided with
      | some a => if redirectsByAccess a p then some a.redirectUrl else none
      | none => none
    -- The first-time redirection overrides the URL of the entry.
    let url :=
      if pass ∧ redirectsFirstTime s p then some s.firstTimeHttpRedirectUrl
      else byAccess
    { pass := pass ∧ url = none
      packet :=
        match decided with
        | some a => p.check a
        | none => p
      session := if pass then afterFirstTime s p else s
      redirectUrl := if s.normalClient then url else none }

end

end AccessList
end SoftEther
