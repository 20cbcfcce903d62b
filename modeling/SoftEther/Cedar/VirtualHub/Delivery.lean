import SoftEther.Cedar.VirtualHub.Defs

/-!
# Delivery to a packet adapter

`StorePacketToHubPa`, which every path of the virtual hub ends in, and the
limits and rewritings on its way.
-/

namespace SoftEther
namespace VirtualHub

open AccessList

variable (cfg : Settings)

def intoTrafficLimiter (now : Nat) (packet : Pkt) (limiter : TrafficLimiter) :
    TrafficLimiter :=
  let limiter :=
    if limiter.lastTime = 0 ∨ now < limiter.lastTime ∨
        limiter.lastTime + LIMITER_SAMPLING_SPAN < now then
      { lastTime := now, value := 0 }
    else limiter
  { limiter with value := limiter.value + packet.packetData.length * 8 }

/-- The measured bandwidth is above a limit. -/
def TrafficLimiter.exceeds (limiter : TrafficLimiter) (limit : UInt32) : Bool :=
  limit.toNat < limiter.value * 1000 / LIMITER_SAMPLING_SPAN

/-- The access list forbids the way from the source to the destination. -/
def deniedByAccessList
    (hub : Hub)
    (src : Option SessionId)
    (dest : SessionId)
    (packet : Option Pkt) :
    Bool :=
  match src, packet with
  | some source, some packet =>
      !applyAccessListToForwardPacket cfg.userListContains cfg.acl
        (hub.sessions source).acl (hub.sessions dest).acl packet.toPkt
  | _, _ => false

def downloadLimiterAfter
    (now : Nat)
    (src : Option SessionId)
    (dest : SessionId)
    (packet : Option Pkt)
    (limiter : TrafficLimiter) :
    Option TrafficLimiter :=
  match src, packet with
  | some _, some packet =>
      if (cfg.session dest).policy.maxDownload ≠ 0 ∧
          isMostHighestPriorityPacket packet = false then
        some (intoTrafficLimiter now packet limiter)
      else none
  | _, _ => none

/-- A spanning tree packet of D-Link is remembered at the sessions that check
MAC addresses. -/
def recordDLinkPacket
    (now : Nat)
    (src : Option SessionId)
    (dest : SessionId)
    (packet : Option Pkt)
    (hub : Hub) :
    Hub :=
  match src, packet with
  | some _, some packet =>
      if cfg.option.fixForDLinkBPDU ∧
          (packet.macAddressSrc = dlinkMac1 ∨ packet.macAddressSrc = dlinkMac2) ∧
          (cfg.session dest).policy.checkMac then
        hub.updateSession dest fun state =>
          { state with
            lastDLinkSTPPacketDataHash := cfg.hash packet.packetData
            lastDLinkSTPPacketSendTick := now }
      else hub
  | _, _ => hub

def vLanRemoveTag (data : List UInt8) (vlanId vlanTpid : Nat) :
    Option (List UInt8) :=
  let vlanTpid := if vlanTpid = 0 then MAC_PROTO_TAGVLAN else vlanTpid
  let byte (index : Nat) := (data.getD index 0).toNat
  if 18 ≤ data.length ∧ byte 12 * 256 + byte 13 = vlanTpid % 65536 ∧
      (vlanId = 0 ∨ (byte 14 * 256 + byte 15) % 4096 = vlanId) then
    some (data.take 12 ++ data.drop 16)
  else none

/-- The frame without the VLAN tag of the destination. -/
def untagged (src : Option SessionId) (dest : SessionId) (data : List UInt8) :
    Option (List UInt8) :=
  if (cfg.session dest).vLanId ≠ 0 then
    vLanRemoveTag data (cfg.session dest).vLanId
      (if src.isSome then cfg.option.vlanTypeId else 0)
  else some data

/-- The smallest MSS that a destination asks for. -/
def targetMss (dest : Session) : Nat :=
  let target := INFINITE
  let target := if dest.adjustMss ≠ 0 then min target dest.adjustMss else target
  if dest.isUsingUdpAcceleration ∧ dest.udpAccelMss ≠ 0 then
    min target dest.udpAccelMss
  else if dest.isRUDPSession ∧ dest.rUdpMss ≠ 0 then min target dest.rUdpMss
  else target

/-- The frame with the MSS of the destination. -/
def withAdjustedMss
    (src : Option SessionId)
    (dest : SessionId)
    (data : List UInt8) :
    List UInt8 :=
  if src.isSome ∧ cfg.option.disableAdjustTcpMss = false ∧
      targetMss (cfg.session dest) ≠ INFINITE then
    cfg.adjustTcpMssL2 data (targetMss (cfg.session dest)) cfg.option.vlanTypeId
  else data

/-- The queue takes the block while there is room. -/
def HubPa.store (block : Block) (pa : HubPa) : HubPa :=
  if pa.packetQueue.length < cfg.params.maxStoredQueueNum then
    { pa with packetQueue := pa.packetQueue ++ [block] }
  else pa

/-- The last steps of `StorePacketToHubPa`, behind its limits. -/
def insertIntoQueue
    (src : Option SessionId)
    (dest : SessionId)
    (data : List UInt8)
    (packet : Option Pkt)
    (isFlooding : Bool)
    (hub : Hub) :
    Hub :=
  match untagged cfg src dest data with
  | none => hub
  | some data =>
      hub.updatePa dest (HubPa.store cfg
        { buf := withAdjustedMss cfg src dest data
          isFlooding := isFlooding && src.isSome
          packet := packet })

/-- `StorePacketToHubPa`; `dest` is the session of the packet adapter. -/
def storePacketToHubPa
    (now : Nat)
    (dest : SessionId)
    (src : Option SessionId)
    (data : List UInt8)
    (packet : Option Pkt)
    (isFlooding noCheckAcl : Bool)
    (hub : Hub) :
    Hub :=
  match (hub.sessions dest).hubPa with
  | none => hub
  | some pa =>
      if data.length < 14 then hub
      else if noCheckAcl = false ∧ deniedByAccessList cfg hub src dest packet then
        hub
      else
        match downloadLimiterAfter cfg now src dest packet pa.downloadLimiter with
        | none =>
            insertIntoQueue cfg src dest data packet isFlooding
              (recordDLinkPacket cfg now src dest packet hub)
        | some limiter =>
            let hub := hub.updatePa dest fun pa =>
              { pa with downloadLimiter := limiter }
            if limiter.exceeds (cfg.session dest).policy.maxDownload then hub
            else
              insertIntoQueue cfg src dest data packet isFlooding
                (recordDLinkPacket cfg now src dest packet hub)

end VirtualHub
end SoftEther
