import SoftEther.Cedar.VirtualHub.Frame
import SoftEther.Mayaqua.Buf
import SoftEther.Mayaqua.TcpIp.AdjustTcpMss

/-!
# VLAN tags

`HubPaPutPacket` gives a tag to the frames of a session with a VLAN, and `StorePacketToHubPa` takes
it from the frames for such a session.  A frame without it is not delivered.
-/

namespace SoftEther
namespace VirtualHub

/-- `VLanInsertTag`. -/
def vLanInsertTag (data : List UInt8) (vlanId vlanTpid : Nat) : List UInt8 :=
  if data.length < 14 ∨ vlanId = 0 then data
  else
    let vlanTpid := if vlanTpid = 0 then MAC_PROTO_TAGVLAN else vlanTpid
    data.take 12 ++ (bigEndian 2 vlanTpid ++ (bigEndian 2 (vlanId % 4096) ++ data.drop 12))

variable (cfg : Settings)

/-- The tag that `HubPaPutPacket` gives to a frame of a session. -/
def tagged (s : SessionId) (data : List UInt8) : List UInt8 :=
  if (cfg.session s).vLanId ≠ 0 then
    vLanInsertTag data (cfg.session s).vLanId cfg.option.vlanTypeId
  else data

/-- A call of `StorePacketToHubPa`, with the settings at that time. -/
structure StoreCall where
  cfg : Settings
  now : Nat
  dest : SessionId
  src : Option SessionId
  data : List UInt8
  packet : Option Pkt
  isFlooding : Bool
  noCheckAcl : Bool

namespace StoreCall

def run (hub : Hub) (c : StoreCall) : Hub :=
  storePacketToHubPa c.cfg c.now c.dest c.src c.data c.packet c.isFlooding c.noCheckAcl hub

def vlanId (c : StoreCall) : Nat :=
  (c.cfg.session c.dest).vLanId

/-- The type of the tags; without a source it is the usual one. -/
def vlanTpid (c : StoreCall) : Nat :=
  if c.src.isSome then c.cfg.option.vlanTypeId else 0

/-- The data without its first tag. -/
def frame (c : StoreCall) : List UInt8 :=
  c.data.take 12 ++ c.data.drop 16

end StoreCall

/-- The call gives out a frame that a session with a VLAN sent through `HubPaPutPacket`. -/
def StoreCall.Sends (c : StoreCall) (source : SessionId) (data : List UInt8) : Prop :=
  c.src = some source ∧ c.data = tagged c.cfg source data ∧ 14 ≤ data.length ∧
    0 < (c.cfg.session source).vLanId ∧ (c.cfg.session source).vLanId < 4096

end VirtualHub
end SoftEther
