import SoftEther.Cedar.UdpAccel.Replay
import SoftEther.Cedar.UdpAccel.RoundTrip
import SoftEther.Library.Runs

/-!
# A link of UDP acceleration

Two objects with each other's keys and cookies, and a network that loses datagrams, changes their
order and delivers them any number of times.
-/

namespace SoftEther
namespace UdpAcceleration

open Library
open Network (Ip)
open Rudp (BulkCrypto)

/-- A datagram, and what it says. -/
structure Sent where
  packet : Packet
  tmp : List UInt8

/-- A side: what it has sent, and the blocks that it has returned. -/
structure Side where
  accel : UdpAccel
  sent : List Sent := []
  blocks : List Block := []

inductive LinkEvent
  | setTick (side : Bool) (tick64 : UInt64)
  | send (side : Bool) (data : List UInt8) (flag : UInt8) (maxSize : UInt32) (rand : Nat)
  /-- A copy of a datagram of the other side arrives. -/
  | deliver (side : Bool) (place : Nat) (srcIp : Ip) (srcPort : UInt32)

/-- A side goes on. -/
def Side.go (x : Side) (a : UdpAccel) (more : List Sent) (made : List Block) : Side where
  accel := a
  sent := x.sent ++ more
  blocks := x.blocks ++ made

/-- The packet that a side puts into a datagram. -/
def UdpAccel.packet (a : UdpAccel) (data : List UInt8) (flag : UInt8) : Packet where
  myTick := a.myTick
  yourTick := a.lastRecvYourTick
  flag := flag
  data := data

/-- The tick is that of one of the datagrams, or there is none yet. -/
def Known (sent : List Sent) (tick : UInt64) : Prop :=
  tick = 0 ∨ ∃ d ∈ sent, d.packet.myTick = tick

/-- The fields that are set once. -/
structure SameKeys (a b : UdpAccel) : Prop where
  plainTextMode : b.plainTextMode = a.plainTextMode
  version : b.version = a.version
  myKey : b.myKey = a.myKey
  yourKey : b.yourKey = a.yourKey
  myKeyV2 : b.myKeyV2 = a.myKeyV2
  yourKeyV2 : b.yourKeyV2 = a.yourKeyV2
  myCookie : b.myCookie = a.myCookie
  yourCookie : b.yourCookie = a.yourCookie

section

variable (crypto : BulkCrypto) (uncompress : List UInt8 → List UInt8)

def Side.send (x : Side) (data : List UInt8) (flag : UInt8) (maxSize : UInt32) (rand : Nat) :
    Side :=
  match udpAccelSend crypto x.accel data flag maxSize rand with
  | none => x
  | some (tmp, after) => x.go after [⟨x.accel.packet data flag, tmp⟩] []

def Side.receive (x : Side) (d : Sent) (srcIp : Ip) (srcPort : UInt32) : Side :=
  let (after, block) := udpAccelProcessRecvPacket crypto uncompress x.accel d.tmp srcIp srcPort
  x.go after [] block.toList

/-- The block is that of a packet; what is marked as compressed has been expanded. -/
def IsBlockOf (block : Block) (p : Packet) : Prop :=
  block.buf = p.data ∨ p.flag ≠ 0 ∧ block.buf = uncompress p.data

/-- What a side has of the other one. -/
structure Side.Sound (x y : Side) : Prop where
  peers : Peers x.accel y.accel
  opens : ∀ d ∈ x.sent, ∀ receiver, Peers x.accel receiver →
    opened crypto receiver d.tmp = some d.packet
  /-- A datagram echoes a tick of the other side. -/
  echoes : ∀ d ∈ x.sent, Known y.sent d.packet.yourTick
  yourTick : Known y.sent x.accel.lastRecvYourTick
  /-- A side that is told that a tick has arrived has sent it. -/
  myTick : Known x.sent x.accel.lastRecvMyTick
  /-- A block has been sent by the other side. -/
  blocks : ∀ block ∈ x.blocks, ∃ d ∈ y.sent, IsBlockOf uncompress block d.packet

end

theorem Known.max
    {sent : List Sent}
    {a b : UInt64}
    (first : Known sent a)
    (second : Known sent b) :
    Known sent (maxTick a b) := by
  unfold maxTick
  split
  · exact first
  · exact second

theorem Known.append
    {sent : List Sent}
    {tick : UInt64}
    (known : Known sent tick)
    (more : List Sent) :
    Known (sent ++ more) tick :=
  known.imp_right fun ⟨d, listed, same⟩ => ⟨d, List.mem_append_left _ listed, same⟩

theorem SameKeys.refl (a : UdpAccel) : SameKeys a a :=
  ⟨rfl, rfl, rfl, rfl, rfl, rfl, rfl, rfl⟩

theorem SameKeys.symm {a b : UdpAccel} (same : SameKeys a b) : SameKeys b a :=
  ⟨same.1.symm, same.2.symm, same.3.symm, same.4.symm, same.5.symm, same.6.symm, same.7.symm,
    same.8.symm⟩

theorem sameKeys_withNextIv (a : UdpAccel) (tmp : List UInt8) :
    SameKeys a (a.withNextIv tmp) := by
  unfold UdpAccel.withNextIv
  split
  · exact .refl a
  · split <;> exact ⟨rfl, rfl, rfl, rfl, rfl, rfl, rfl, rfl⟩

theorem sameKeys_accept (a : UdpAccel) (p : Packet) (srcIp : Ip) (srcPort : UInt32) :
    SameKeys a (a.accept p srcIp srcPort) := by
  simp only [UdpAccel.accept]
  split <;> split <;> exact ⟨rfl, rfl, rfl, rfl, rfl, rfl, rfl, rfl⟩

theorem Peers.of_sameKeys
    {a b after behind : UdpAccel}
    (peers : Peers after behind)
    (sender : SameKeys a after)
    (receiver : SameKeys b behind) :
    Peers a b where
  plainTextMode := by
    rw [← receiver.plainTextMode, peers.plainTextMode, sender.plainTextMode]
  version := by rw [← receiver.version, peers.version, sender.version]
  key := by rw [← receiver.yourKey, peers.key, sender.myKey]
  keyV2 := by rw [← receiver.yourKeyV2, peers.keyV2, sender.myKeyV2]
  cookie := by rw [← receiver.myCookie, peers.cookie, sender.yourCookie]

theorem isBlockOf_newBlock
    {uncompress : List UInt8 → List UInt8}
    {a : UdpAccel}
    {p : Packet}
    {block : Block}
    (made : newBlock uncompress a p = some block) :
    IsBlockOf uncompress block p := by
  unfold newBlock at made
  split at made
  · cases made
  · split at made
    · exact .inl (Option.some.inj made ▸ rfl)
    · rw [← Option.some.inj made]
      by_cases plain : p.flag = 0
      · exact .inl (if_pos plain)
      · exact .inr ⟨plain, if_neg plain⟩

section

variable {crypto : BulkCrypto} {uncompress : List UInt8 → List UInt8}
variable {x y : Side}

/-- A side that goes on with its keys, with datagrams that the other one can open and blocks that
the other one has sent. -/
theorem Side.Sound.go
    (sound : x.Sound crypto uncompress y)
    (back : y.Sound crypto uncompress x)
    {a : UdpAccel}
    (same : SameKeys x.accel a)
    (yourTick : Known y.sent a.lastRecvYourTick)
    (myTick : Known x.sent a.lastRecvMyTick)
    {more : List Sent}
    (opens : ∀ d ∈ more, (∀ receiver, Peers a receiver →
      opened crypto receiver d.tmp = some d.packet) ∧ Known y.sent d.packet.yourTick)
    {made : List Block}
    (right : ∀ block ∈ made, ∃ d ∈ y.sent, IsBlockOf uncompress block d.packet) :
    (x.go a more made).Sound crypto uncompress y ∧
      y.Sound crypto uncompress (x.go a more made) := by
  constructor
  · refine ⟨sound.peers.of_sameKeys same.symm (.refl _), ?_, ?_, yourTick, myTick.append more, ?_⟩
    · intro d listed receiver peers
      obtain before | new := List.mem_append.mp listed
      · exact sound.opens d before receiver (peers.of_sameKeys same (.refl _))
      · exact (opens d new).1 receiver peers
    · intro d listed
      obtain before | new := List.mem_append.mp listed
      · exact sound.echoes d before
      · exact (opens d new).2
    · intro block listed
      obtain before | new := List.mem_append.mp listed
      · exact sound.blocks block before
      · exact right block new
  · refine ⟨back.peers.of_sameKeys (.refl _) same.symm, back.opens,
      fun d listed => (back.echoes d listed).append more, back.yourTick.append more, back.myTick, ?_⟩
    intro block listed
    obtain ⟨d, among, right⟩ := back.blocks block listed
    exact ⟨d, List.mem_append_left _ among, right⟩

theorem Side.Sound.send
    (lawful : crypto.Lawful)
    (sound : x.Sound crypto uncompress y)
    (back : y.Sound crypto uncompress x)
    (data : List UInt8)
    (flag : UInt8)
    (maxSize : UInt32)
    (rand : Nat) :
    (x.send crypto data flag maxSize rand).Sound crypto uncompress y ∧
      y.Sound crypto uncompress (x.send crypto data flag maxSize rand) := by
  unfold Side.send
  cases sends : udpAccelSend crypto x.accel data flag maxSize rand with
  | none => exact ⟨sound, back⟩
  | some result =>
      have ticks := sameTicks_send sends
      unfold udpAccelSend at sends
      dsimp only at sends
      split at sends
      case isFalse => cases sends
      case isTrue inBuffer =>
        rw [← Option.some.inj sends] at ticks ⊢
        have keys := sameKeys_withNextIv x.accel (x.accel.datagram crypto data flag maxSize rand)
        refine sound.go back keys (ticks.yourTick ▸ sound.yourTick) (ticks.myTick ▸ sound.myTick) ?_
          (List.forall_mem_nil _)
        intro d listed
        rw [List.mem_singleton.mp listed]
        exact ⟨fun receiver peers =>
          opened_datagram lawful (peers.of_sameKeys keys (.refl _)) inBuffer, sound.yourTick⟩

theorem Side.Sound.receive
    (sound : x.Sound crypto uncompress y)
    (back : y.Sound crypto uncompress x)
    {d : Sent}
    (listed : d ∈ y.sent)
    (srcIp : Ip)
    (srcPort : UInt32) :
    (x.receive crypto uncompress d srcIp srcPort).Sound crypto uncompress y ∧
      y.Sound crypto uncompress (x.receive crypto uncompress d srcIp srcPort) := by
  unfold Side.receive udpAccelProcessRecvPacket admitted
  rw [back.opens d listed _ back.peers, Option.filter_some]
  cases x.accel.behind d.packet.myTick with
  | true =>
      exact sound.go back (.refl _) sound.yourTick sound.myTick
        (List.forall_mem_nil _) (List.forall_mem_nil _)
  | false =>
      refine sound.go back (sameKeys_accept _ d.packet srcIp srcPort) ?_ ?_
        (List.forall_mem_nil _) ?_
      · rw [accept_lastRecvYourTick]
        exact sound.yourTick.max (.inr ⟨d, listed, rfl⟩)
      · rw [accept_lastRecvMyTick]
        exact sound.myTick.max (back.echoes d listed)
      · intro block made
        exact ⟨d, listed, isBlockOf_newBlock (Option.mem_toList.mp made)⟩

end

end UdpAcceleration
end SoftEther
