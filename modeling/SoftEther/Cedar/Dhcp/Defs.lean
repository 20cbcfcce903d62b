import SoftEther.Library.Runs
import SoftEther.Mayaqua.List
import SoftEther.Mayaqua.Memory
import SoftEther.Mayaqua.Str
import SoftEther.Mayaqua.UInt

/-!
# DHCP server of SecureNAT

The lease list of the virtual DHCP server and the functions of `Virtual.c` that
read and write it: `ServeDhcpDiscover`, `ServeDhcpRequest`,
`GetFreeDhcpIpAddress`, `PollingDhcpServer` and `VirtualDhcpServer` from the
parsed option list on.  IP addresses are `UINT` values in network byte order.

The classless routes that a reply pushes are left out: nothing here reads them.
-/

namespace SoftEther
namespace Dhcp

open Library

def DHCP_DISCOVER : Nat := 1

def DHCP_OFFER : Nat := 2

def DHCP_REQUEST : Nat := 3

def DHCP_ACK : Nat := 5

def DHCP_NACK : Nat := 6

def DHCP_INFORM : Nat := 8

def DHCP_POLLING_INTERVAL : Nat := 1000

/-- `NN_HOSTNAME_STARTWITH`, "securenat-". -/
def NN_HOSTNAME_STARTWITH : CString where
  bytes := [115, 101, 99, 117, 114, 101, 110, 97, 116, 45]
  noNul := by decide

/-- `NN_HOSTNAME_STARTWITH2`, "securenat_". -/
def NN_HOSTNAME_STARTWITH2 : CString where
  bytes := [115, 101, 99, 117, 114, 101, 110, 97, 116, 95]
  noNul := by decide

structure DhcpLease where
  id : Nat
  leasedTime : Nat
  expireTime : Nat
  macAddress : MacAddress
  ipAddress : Nat
  mask : Nat
  hostname : CString
  deriving DecidableEq

/-- The part of `VH` that the DHCP server uses. -/
structure DhcpServer where
  hostIP : Nat
  dhcpIpStart : Nat
  dhcpIpEnd : Nat
  dhcpMask : Nat
  dhcpExpire : Nat
  dhcpGateway : Nat
  dhcpDns : Nat
  dhcpDns2 : Nat
  dhcpDomain : CString
  dhcpLeaseList : MayaquaList DhcpLease := {}
  dhcpId : Nat := 0
  lastDhcpPolling : Nat := 0
  deriving DecidableEq

/-- What `ParseDhcpOptionList` returns for a client's message. -/
structure DhcpOptionList where
  opcode : Nat
  requestedIp : Nat
  hostname : CString
  deriving DecidableEq

/-- A DHCP packet as `VirtualDhcpServer` reads it. -/
structure DhcpPacket where
  macAddressSrc : MacAddress
  srcIP : Nat
  srcPort : Nat
  opCode : Nat
  transactionId : Nat
  hardwareType : Nat
  hardwareAddressSize : Nat
  clientMacAddress : MacAddress
  options : DhcpOptionList
  deriving DecidableEq

/-- The option list of a reply and the arguments of `VirtualDhcpSend`. -/
structure DhcpReply where
  opcode : Nat
  serverAddress : Nat
  leaseTime : Nat := 0
  domainName : CString
  subnetMask : Nat
  dnsServer : Nat := 0
  dnsServer2 : Nat := 0
  gateway : Nat := 0
  tranId : Nat
  destIp : Nat
  destPort : Nat
  newIp : Nat
  clientMac : MacAddress
  hwType : Nat
  hwAddrSize : Nat
  deriving DecidableEq

def searchDhcpLeaseByIp (v : DhcpServer) (ip : Nat) : Option DhcpLease :=
  v.dhcpLeaseList.items.find? fun d => d.ipAddress = ip

def compareDhcpLeaseList (d1 d2 : DhcpLease) : Ordering :=
  cmpBytes d1.macAddress.val d2.macAddress.val

/-- `SearchDhcpLeaseByMac`; the list is sorted afterwards. -/
def searchDhcpLeaseByMac
    (v : DhcpServer)
    (mac : MacAddress) :
    Option DhcpLease × DhcpServer :=
  let searched :=
    v.dhcpLeaseList.search compareDhcpLeaseList fun d =>
      cmpBytes mac.val d.macAddress.val
  (searched.1, { v with dhcpLeaseList := searched.2 })

/-- An address lies in the range of assignment. -/
def inRange (v : DhcpServer) (ip : Nat) : Bool :=
  Endian32 v.dhcpIpStart ≤ Endian32 ip ∧ Endian32 ip ≤ Endian32 v.dhcpIpEnd

/-- The loop of `GetFreeDhcpIpAddress`, with one turn for each `UINT`. -/
def freeFrom (v : DhcpServer) : Nat → Nat → Nat
  | 0, _ => 0
  | fuel + 1, i =>
      if i ≤ Endian32 v.dhcpIpEnd then
        if searchDhcpLeaseByIp v (Endian32 i) = none then Endian32 i
        else freeFrom v fuel (addUINT i 1)
      else 0

def getFreeDhcpIpAddress (v : DhcpServer) : Nat :=
  freeFrom v X32 (Endian32 v.dhcpIpStart)

def READ_UINT (buf : List UInt8) : Nat :=
  (buf.getD 0 0).toNat * 16777216 + (buf.getD 1 0).toNat * 65536 +
    (buf.getD 2 0).toNat * 256 + (buf.getD 3 0).toNat

def WRITE_UINT (i : Nat) : List UInt8 :=
  [.ofNat (i / 16777216), .ofNat (i / 65536), .ofNat (i / 256), .ofNat i]

section

variable (hash : List UInt8 → List UInt8)

/-- The loop of `GetFreeDhcpIpAddressByRandom`: `numRetry` turns from the turn
`i` on. -/
def freeByRandomFrom (v : DhcpServer) (mac : MacAddress) : Nat → Nat → Nat
  | 0, _ => 0
  | numRetry + 1, i =>
      let ipStart := Endian32 v.dhcpIpStart
      let ipEnd := Endian32 v.dhcpIpEnd
      let randInt := READ_UINT (hash (WRITE_UINT i ++ mac.val))
      let newIp :=
        Endian32
          (addUINT ipStart (randInt % addUINT (subUINT ipEnd ipStart) 1))
      if searchDhcpLeaseByIp v newIp = none then newIp
      else freeByRandomFrom v mac numRetry (i + 1)

def getFreeDhcpIpAddressByRandom (v : DhcpServer) (mac : MacAddress) : Nat :=
  let ipStart := Endian32 v.dhcpIpStart
  let ipEnd := Endian32 v.dhcpIpEnd
  if ipStart > ipEnd then 0
  else
    let numRetry := mulUINT (addUINT (subUINT ipEnd ipStart) 1) 2
    freeByRandomFrom hash v mac (min numRetry 131072) 0

/-- The first part of `ServeDhcpDiscover`: the requested address when it can be
given to the client, else 0. -/
def acceptRequested (v : DhcpServer) (mac : MacAddress) (requestIp : Nat) : Nat :=
  if requestIp ≠ 0 then
    match searchDhcpLeaseByIp v requestIp with
    | some d =>
        if cmpBytes mac.val d.macAddress.val = .eq then
          if inRange v requestIp then requestIp else 0
        else 0
    | none => if inRange v requestIp then requestIp else 0
  else 0

/-- `ServeDhcpDiscover`: the address and the server, whose lease list may have
been sorted. -/
def serveDhcpDiscover
    (randomizeAssignIp : Bool)
    (v : DhcpServer)
    (mac : MacAddress)
    (requestIp : Nat) :
    Nat × DhcpServer :=
  if acceptRequested v mac requestIp ≠ 0 then (acceptRequested v mac requestIp, v)
  else
    let searched := searchDhcpLeaseByMac v mac
    let v := searched.2
    let ret :=
      match searched.1 with
      | some d => if inRange v d.ipAddress then d.ipAddress else 0
      | none => 0
    if ret ≠ 0 then (ret, v)
    else if randomizeAssignIp then
      (getFreeDhcpIpAddressByRandom hash v mac, v)
    else (getFreeDhcpIpAddress v, v)

def serveDhcpRequest
    (randomizeAssignIp : Bool)
    (v : DhcpServer)
    (mac : MacAddress)
    (requestIp : Nat) :
    Nat × DhcpServer :=
  let served := serveDhcpDiscover hash randomizeAssignIp v mac requestIp
  if served.1 ≠ requestIp ∧ requestIp ≠ 0 then (0, served.2) else served

/-- `NewDhcpLease`, with the `Id` that `VirtualDhcpServer` sets. -/
def newDhcpLease
    (id tick expire : Nat)
    (macAddress : MacAddress)
    (ip mask : Nat)
    (hostname : CString) :
    DhcpLease where
  id := id
  leasedTime := tick
  expireTime := if expire = INFINITE then INFINITE else addUINT64 tick expire
  macAddress := macAddress
  ipAddress := ip
  mask := mask
  hostname := hostname

/-- The lease list after a request for an address has been granted: an old
lease of the address is removed and a new one added. -/
def grantLease
    (v : DhcpServer)
    (tick : Nat)
    (mac : MacAddress)
    (ip : Nat)
    (hostname : CString) :
    DhcpServer :=
  let kept :=
    match searchDhcpLeaseByIp v ip with
    | some d => v.dhcpLeaseList.delete d
    | none => v.dhcpLeaseList
  let id := addUINT v.dhcpId 1
  { v with
    dhcpLeaseList :=
      kept.add (newDhcpLease id tick v.dhcpExpire mac ip v.dhcpMask hostname)
    dhcpId := id }

/-- The reply that offers or acknowledges an address. -/
def positiveReply
    (v : DhcpServer)
    (p : DhcpPacket)
    (ip : Nat) :
    DhcpReply where
  opcode := if p.options.opcode = DHCP_DISCOVER then DHCP_OFFER else DHCP_ACK
  serverAddress := v.hostIP
  leaseTime :=
    if p.options.opcode = DHCP_INFORM then 0
    else if v.dhcpExpire = INFINITE then INFINITE
    else Endian32 (v.dhcpExpire / 1000)
  domainName := v.dhcpDomain
  subnetMask := v.dhcpMask
  dnsServer := v.dhcpDns
  dnsServer2 := v.dhcpDns2
  gateway := v.dhcpGateway
  tranId := p.transactionId
  destIp := if p.srcIP = 0 then INFINITE else p.srcIP
  destPort := p.srcPort
  newIp := ip
  clientMac := p.clientMacAddress
  hwType := p.hardwareType
  hwAddrSize := p.hardwareAddressSize

def negativeReply (v : DhcpServer) (p : DhcpPacket) : DhcpReply where
  opcode := DHCP_NACK
  serverAddress := v.hostIP
  domainName := v.dhcpDomain
  subnetMask := v.dhcpMask
  tranId := p.transactionId
  destIp := if p.srcIP = 0 then INFINITE else p.srcIP
  destPort := p.srcPort
  newIp := 0
  clientMac := p.clientMacAddress
  hwType := p.hardwareType
  hwAddrSize := p.hardwareAddressSize

/-- The address that `VirtualDhcpServer` finds for a message; an inform message
gets none. -/
def findDhcpIp
    (randomizeAssignIp : Bool)
    (v : DhcpServer)
    (p : DhcpPacket) :
    Nat × DhcpServer :=
  let requestedIp :=
    if p.options.requestedIp = 0 then p.srcIP else p.options.requestedIp
  if p.options.opcode = DHCP_DISCOVER then
    serveDhcpDiscover hash randomizeAssignIp v p.macAddressSrc requestedIp
  else if p.options.opcode = DHCP_REQUEST then
    serveDhcpRequest hash randomizeAssignIp v p.macAddressSrc requestedIp
  else (0, v)

/-- The answer of `VirtualDhcpServer` once the address is found. -/
def answerDhcp
    (tick : Nat)
    (p : DhcpPacket)
    (ip : Nat)
    (v : DhcpServer) :
    DhcpServer × Option DhcpReply :=
  if ip ≠ 0 ∨ p.options.opcode = DHCP_INFORM then
    if p.options.opcode = DHCP_REQUEST then
      let granted := grantLease v tick p.macAddressSrc ip p.options.hostname
      (granted, some (positiveReply granted p ip))
    else (v, some (positiveReply v p ip))
  else (v, some (negativeReply v p))

/-- `VirtualDhcpServer` from the parsed option list on; `tick` is the time that
`NewDhcpLease` reads. -/
def virtualDhcpServer
    (randomizeAssignIp : Bool)
    (tick : Nat)
    (v : DhcpServer)
    (p : DhcpPacket) :
    DhcpServer × Option DhcpReply :=
  if startWith p.options.hostname NN_HOSTNAME_STARTWITH ∨
      startWith p.options.hostname NN_HOSTNAME_STARTWITH2 then
    (v, none)
  else if p.opCode = 1 ∧
      (p.options.opcode = DHCP_DISCOVER ∨ p.options.opcode = DHCP_REQUEST ∨
        p.options.opcode = DHCP_INFORM) then
    let found := findDhcpIp hash randomizeAssignIp v p
    answerDhcp tick p found.1 found.2
  else
    (v, none)

end

/-- The removal loop of `PollingDhcpServer`: every turn removes the first
expired lease, so the number of leases bounds it. -/
def removeExpired (now : Nat) : Nat → List DhcpLease → List DhcpLease
  | 0, leases => leases
  | fuel + 1, leases =>
      match leases.find? fun d => d.expireTime < now with
      | none => leases
      | some d => removeExpired now fuel (leases.erase d)

def pollingDhcpServer (now : Nat) (v : DhcpServer) : DhcpServer :=
  if v.lastDhcpPolling ≠ 0 ∧
      (addUINT64 v.lastDhcpPolling DHCP_POLLING_INTERVAL > now ∧
        v.lastDhcpPolling < now) then
    v
  else
    { v with
      lastDhcpPolling := now
      dhcpLeaseList :=
        { v.dhcpLeaseList with
          items :=
            removeExpired now v.dhcpLeaseList.num v.dhcpLeaseList.items } }

end Dhcp
end SoftEther
