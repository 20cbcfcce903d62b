import SoftEther.Cedar.AccessList.TwoPhase
import SoftEther.Library.SinglePrecision

/-!
# Delay, jitter and packet loss

An entry of the access list gives a packet that it lets pass a delay, a jitter and a loss.
`AddAccessListEx` bounds all three, and `StorePacket` draws the delay of the packet with them.  The
numbers are single precision; the remainder has none when its divisor is zero.
-/

namespace SoftEther
namespace AccessList

open Library.SinglePrecision

/-- The random numbers of one packet. -/
structure Draws where
  /-- `rand()` for the loss. -/
  rand : Nat
  /-- `Rand1()`: the jitter is added. -/
  rand1 : Bool
  /-- `Rand32()`. -/
  rand32 : UInt32

/-- A packet from `ParsePacket`, which no entry has been applied to. -/
def Pkt.unmarked (p : Pkt) : Pkt :=
  { p with accessChecked := false, delay := 0, jitter := 0, loss := 0 }

def isLost (draws : Draws) (p : Pkt) : Bool :=
  1 ≤ p.loss ∧ (100 ≤ p.loss ∨ draws.rand % 100 < p.loss)

section

variable (userListContains : List UInt8 → UInt64 → Nat → Bool)

end

section

variable {userListContains : List UInt8 → UInt64 → Nat → Bool}

end

end AccessList
end SoftEther
