import SoftEther.Cedar.VirtualHub.Defs

/-!
# Broadcast storms

`CheckBroadcastStorm`: the number of broadcasts of each endpoint.
-/

namespace SoftEther
namespace VirtualHub

open AccessList

variable (cfg : Settings)

def compareStormList (s1 s2 : Storm) : Ordering :=
  let byDest := compareBytes s1.destIp s2.destIp
  let bySrc := compareBytes s1.srcIp s2.srcIp
  let byMac := compareBytes s1.macAddress s2.macAddress
  if s1.strictMode = false ∧ s2.strictMode = false then
    (byDest.then bySrc).then byMac
  else if byDest = .eq ∨ bySrc = .eq then byMac
  else byDest

/-- The source and the destination that a packet is counted under. -/
def stormAddresses (p : Pkt) : IpAddr × IpAddr :=
  match p.l3 with
  | .ipv4 header => (uintToIP header.srcIP, uintToIP header.dstIP)
  | .arpv4 header => (uintToIP header.srcIP, uintToIP 0)
  | .ipv6 header =>
      (ipv6AddrToIP header.srcAddress, ipv6AddrToIP header.destAddress)
  | _ => (uintToIP 0, uintToIP 0)

/-- The record of an endpoint before its first broadcast. -/
def newStorm (p : Pkt) : Storm where
  macAddress := p.macAddressSrc
  srcIp := (stormAddresses p).1
  destIp := (stormAddresses p).2
  strictMode := cfg.option.broadcastLimiterStrictMode

/-- `SearchStormList` and, if nothing is found, `AddStormList`. -/
def findStorm (p : Pkt) (list : MayaquaList Storm) :
    Storm × MayaquaList Storm :=
  let searched := list.search compareStormList (compareStormList (newStorm cfg p))
  match searched.1 with
  | some storm => (storm, searched.2)
  | none =>
      (newStorm cfg p, searched.2.insert compareStormList (newStorm cfg p))

/-- The periodic measurement: the record afterwards, and whether the number of
broadcasts is below the limit. -/
def measureStorm (now : Nat) (storm : Storm) : Bool × Storm :=
  let limitStartCount :=
    if cfg.option.broadcastStormDetectionThreshold ≠ 0 then
      cfg.option.broadcastStormDetectionThreshold
    else 32
  let span := cfg.params.stormCheckSpan
  let diffTime :=
    if storm.checkStartTick < now then now - storm.checkStartTick else 0
  let num := storm.currentBroadcastNum * 1000 / span
  let measured :=
    { storm with checkStartTick := now, currentBroadcastNum := 0 }
  if limitStartCount ≤ num then
    (false,
      if storm.discardValue < cfg.params.stormDiscardValueEnd then
        { measured with discardValue := max storm.discardValue 1 * 2 }
      else measured)
  else
    (true,
      if 1 ≤ storm.discardValue then
        { measured with
          discardValue := storm.discardValue / max 2 (diffTime / span) }
      else measured)

/-- The record of an endpoint after a broadcast, and whether it may pass. -/
def countBroadcast (stormDraw now : Nat) (storm : Storm) : Bool × Storm :=
  let storm := { storm with currentBroadcastNum := storm.currentBroadcastNum + 1 }
  let measured :=
    if storm.checkStartTick + cfg.params.stormCheckSpan < now ∨
        storm.checkStartTick = 0 ∨ now < storm.checkStartTick then
      measureStorm cfg now storm
    else (true, storm)
  let discardValue := measured.2.discardValue
  let discarded : Bool :=
    cfg.params.stormDiscardValueStart ≤ discardValue ∧
      (128 ≤ discardValue ∨ stormDraw % discardValue ≠ 0)
  (measured.1 && !discarded, measured.2)

def checkBroadcastStorm
    (stormDraw now : Nat)
    (s : SessionId)
    (p : Pkt)
    (hub : Hub) :
    Bool × Hub :=
  if (cfg.session s).policy.noBroadcastLimiter then (true, hub)
  else
    match (hub.sessions s).hubPa with
    | none => (true, hub)
    | some pa =>
        let found := findStorm cfg p pa.stormList
        let counted := countBroadcast cfg stormDraw now found.1
        (counted.1,
          hub.updatePa s fun pa =>
            { pa with stormList := found.2.write found.1 counted.2 })

end VirtualHub
end SoftEther
