import SoftEther.Cedar.Layer3.Routes

/-!
# Interfaces of a layer-3 switch

The functions that work on one interface: sending, learning of MAC addresses, ARP queries, and
polling.  Every function takes the tick count it sees.
-/

namespace SoftEther
namespace Layer3

open Network TcpIp

section

variable (f : L3If)

def l3SendL2Now (destMac srcMac : MacAddress) (protocol : Nat) (data : List UInt8) : L3If :=
  { f with
    sendQueue := f.sendQueue ++ [destMac.val ++ srcMac.val ++ bigEndian 2 protocol ++ data] }

def l3SendIpNow (a : Option L3ArpEntry) (p : L3Packet) : L3If :=
  l3SendL2Now f ((a.map L3ArpEntry.macAddress).getD (macOf 255)) f.macAddress p.packet.protocol
    p.packet.l3

def l3SendArpRequestNow (destIp : UInt32) : L3If :=
  l3SendL2Now f (macOf 255) f.macAddress MAC_PROTO_ARPV4
    (arpV4Header ARP_OPERATION_REQUEST f.macAddress f.ipAddress (macOf 0) destIp)

def l3SendArpResponseNow (destMac : MacAddress) (destIp srcIp : UInt32) : L3If :=
  l3SendL2Now f destMac f.macAddress MAC_PROTO_ARPV4
    (arpV4Header ARP_OPERATION_RESPONSE f.macAddress srcIp destMac destIp)

/-- An address that the ARP functions refuse. -/
def isReserved (ip : UInt32) : Bool :=
  ip = 0 ∨ ip = allOnes

def l3SearchArpTable (ip : UInt32) : Option L3ArpEntry :=
  if isReserved ip then none else f.arpTable.search ip

/-- `L3SendWaitingIp`: the packets for the address are sent and deleted. -/
def l3SendWaitingIp (ip : UInt32) (a : L3ArpEntry) : L3If :=
  let o := f.ipWaitList.filter fun p => p.nextHopIp = ip
  { o.foldl (fun f p => l3SendIpNow f (some a) p) f with
    ipWaitList := f.ipWaitList.filter fun p => p.nextHopIp ≠ ip }

/-- An entry with a new expiration date. -/
def L3ArpEntry.expireAt (a : L3ArpEntry) (time : Nat) : L3ArpEntry :=
  { a with expire := time }

theorem L3ArpEntry.ipAddress_expireAt (a : L3ArpEntry) (time : Nat) :
    (a.expireAt time).ipAddress = a.ipAddress :=
  rfl

def l3InsertArpTable (now : Nat) (ip : UInt32) (mac : MacAddress) : L3If :=
  if isReserved ip then f
  else
    match f.arpTable.search ip with
    | none =>
        let a : L3ArpEntry := ⟨ip, mac, now + ARP_ENTRY_EXPIRES⟩
        l3SendWaitingIp { f with arpTable := f.arpTable.insert a } ip a
    | some a =>
        let extended := a.expireAt (now + ARP_ENTRY_EXPIRES)
        l3SendWaitingIp
          { f with arpTable := f.arpTable.write a extended (a.ipAddress_expireAt _) } ip extended

/-- `Search` in a list without a comparison function. -/
def searchWithoutCmp (_ : List L3Packet) : Option L3Packet :=
  none

/-- `L3KnownArp`.  The ARP query is searched for in `IpWaitList`. -/
def l3KnownArp (now : Nat) (ip : UInt32) (mac : MacAddress) : L3If :=
  if isReserved ip then f
  else if f.inSubnet ip = false then f
  else
    match searchWithoutCmp f.ipWaitList with
    | none => l3InsertArpTable f now ip mac
    | some w => l3InsertArpTable { f with ipWaitList := f.ipWaitList.erase w } now ip mac

def l3SendArp (now : Nat) (ip : UInt32) : L3If :=
  if isReserved ip then f
  else
    match f.arpWaitTable.search ip with
    | some _ => f
    | none =>
        { f with
          arpWaitTable := f.arpWaitTable.insert
            { ipAddress := ip, expire := now + ARP_REQUEST_GIVEUP } }

def isBroadcast (p : L3Packet) : Bool :=
  p.nextHopIp = allOnes ∨
    (p.nextHopIp &&& f.subnetMask = f.ipAddress &&& f.subnetMask ∧
      p.nextHopIp &&& ~~~f.subnetMask = ~~~f.subnetMask)

/-- The packet is addressed to the interface itself. -/
def isForInterface (p : L3Packet) : Bool :=
  uintAt p.packet.l3 16 = f.ipAddress

/-- A packet with a new expiration date. -/
def L3Packet.expireAt (p : L3Packet) (time : Nat) : L3Packet :=
  { p with expire := time }

def l3SendIp (now : Nat) (p : L3Packet) : L3If :=
  if p.packet.typeL3 ≠ .ipv4 then f
  else if isBroadcast f p then l3SendIpNow f none p
  else if isForInterface f p then l3SendIpNow f none p
  else
    match l3SearchArpTable f p.nextHopIp with
    | some a => l3SendIpNow f (some a) p
    | none =>
        let p := p.expireAt (now + IP_WAIT_FOR_ARP_TIMEOUT)
        l3SendArp { f with ipWaitList := f.ipWaitList ++ [p] } now p.nextHopIp

def l3PollingIpQueue (now : Nat) : L3If :=
  f.ipPacketQueue.foldl (fun f p => l3SendIp f now p) { f with ipPacketQueue := [] }

/-- A query after its request has been sent. -/
def L3ArpWait.sentAt (w : L3ArpWait) (time : Nat) : L3ArpWait :=
  { w with lastSentTime := time }

theorem L3ArpWait.ipAddress_sentAt (w : L3ArpWait) (time : Nat) :
    (w.sentAt time).ipAddress = w.ipAddress :=
  rfl

/-- The body of the first loop of `L3PollingArpWaitTable`. -/
def pollArpWait (now : Nat) (f : L3If) (w : L3ArpWait) : L3If :=
  if w.expire ≤ now then f
  else if w.lastSentTime + ARP_REQUEST_TIMEOUT ≤ now then
    l3SendArpRequestNow
      { f with arpWaitTable := f.arpWaitTable.write w (w.sentAt now) (w.ipAddress_sentAt now) }
      w.ipAddress
  else f

def l3PollingArpWaitTable (now : Nat) : L3If :=
  let f := f.arpWaitTable.items.foldl (pollArpWait now) f
  { f with arpWaitTable := f.arpWaitTable.deleteAll fun w => w.expire ≤ now }

def l3DeleteOldArpTable (now : Nat) : L3If :=
  if now < f.lastDeleteOldArpTable + ARP_ENTRY_POLLING_TIME then f
  else
    { f with
      lastDeleteOldArpTable := now
      arpTable := f.arpTable.deleteAll fun a => a.expire ≤ now }

def l3DeleteOldIpWaitList (now : Nat) : L3If :=
  { f with ipWaitList := f.ipWaitList.filter fun p => ¬p.expire ≤ now }

/-- The string that a beacon carries, with its terminator. -/
def beaconStr : List UInt8 :=
  ascii "PacketiX VPN Virtual Layer-3 Switch Beacon" ++ [0]

/-- The broadcast address of the subnet, to which a beacon goes. -/
def beaconIp : UInt32 :=
  f.ipAddress &&& f.subnetMask ||| ~~~f.subnetMask

def beaconUdp (checksum : Nat) : List UInt8 :=
  bigEndian 2 7 ++ bigEndian 2 7 ++ bigEndian 2 (8 + beaconStr.length) ++
    littleUshort checksum ++ beaconStr

def beaconHeader (checksum : Nat) : List UInt8 :=
  [0x45, 0] ++ bigEndian 2 (28 + beaconStr.length) ++ [0, 0, 0, 0, 128, IP_PROTO_UDP] ++
    littleUshort checksum ++ (bytesOfUINT f.ipAddress).val ++ (bytesOfUINT (beaconIp f)).val

def beaconPacket : List UInt8 :=
  beaconHeader f (ipChecksum (beaconHeader f 0)) ++
    beaconUdp (calcChecksumForIPv4 f.ipAddress (beaconIp f) IP_PROTO_UDP (beaconUdp 0))

def l3PollingBeacon (now : Nat) : L3If :=
  if f.lastBeaconSent = 0 ∨ f.lastBeaconSent + BEACON_SEND_INTERVAL ≤ now then
    let f := l3SendL2Now f (macOf 255) f.macAddress MAC_PROTO_IPV4 (beaconPacket f)
    let f := l3SendL2Now f (macOf 255) f.macAddress MAC_PROTO_ARPV4
      (arpV4Header ARP_OPERATION_RESPONSE f.macAddress f.ipAddress (macOf 255) (beaconIp f))
    { f with lastBeaconSent := now }
  else f

def l3Polling (now : Nat) : L3If :=
  let f := l3PollingBeacon f now
  let f := l3PollingIpQueue f now
  let f := l3DeleteOldArpTable f now
  let f := l3PollingArpWaitTable f now
  l3DeleteOldIpWaitList f now

end

end Layer3
end SoftEther
