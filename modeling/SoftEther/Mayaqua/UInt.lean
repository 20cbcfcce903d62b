import Mathlib.Algebra.Order.Ring.Nat
import Mathlib.Tactic.Ring

/-!
# Unsigned machine arithmetic

`UINT` and `UINT64` values whose wrap-around matters are natural numbers below
`X32` and `X64`; the operations below are the C operations on them.  Values
that are only copied and compared keep Lean's `UInt32` and `UInt64`.
-/

namespace SoftEther

/-- The number of values of a `UINT`. -/
abbrev X32 : Nat := 4294967296

/-- The number of values of a `UINT64`. -/
abbrev X64 : Nat := 18446744073709551616

/-- `INFINITE`, the largest `UINT`. -/
abbrev INFINITE : Nat := 4294967295

/-- `UINT` addition. -/
def addUINT (left right : Nat) : Nat :=
  (left + right) % X32

/-- `UINT` subtraction; the right operand is below `X32`. -/
def subUINT (left right : Nat) : Nat :=
  (left + X32 - right) % X32

/-- `UINT` multiplication. -/
def mulUINT (left right : Nat) : Nat :=
  left * right % X32

/-- `UINT64` addition. -/
def addUINT64 (left right : Nat) : Nat :=
  (left + right) % X64

/-- `UINT64` subtraction; the right operand is below `X64`. -/
def subUINT64 (left right : Nat) : Nat :=
  (left + X64 - right) % X64

theorem addUINT_lt (left right : Nat) : addUINT left right < X32 :=
  Nat.mod_lt _ (by decide)

theorem subUINT_lt (left right : Nat) : subUINT left right < X32 :=
  Nat.mod_lt _ (by decide)

theorem addUINT64_lt (left right : Nat) : addUINT64 left right < X64 :=
  Nat.mod_lt _ (by decide)

variable {left right : Nat}

/-- Addition that stays below the modulus is ordinary addition. -/
theorem addUINT_of_lt
    (small : left + right < X32) :
    addUINT left right = left + right :=
  Nat.mod_eq_of_lt small

theorem subUINT_of_le
    (ordered : right ≤ left)
    (small : left < X32) :
    subUINT left right = left - right := by
  unfold subUINT X32 at *
  omega

theorem addUINT64_of_lt
    (small : left + right < X64) :
    addUINT64 left right = left + right :=
  Nat.mod_eq_of_lt small

/-- The bytes of a `UINT` in the opposite order: `Endian32` on the
little-endian hosts that the model describes. -/
def Endian32 (value : Nat) : Nat :=
  value % 256 * 16777216 + value / 256 % 256 * 65536 +
    value / 65536 % 256 * 256 + value / 16777216 % 256

theorem Endian32_lt (value : Nat) : Endian32 value < X32 := by
  unfold Endian32 X32
  omega

private theorem Endian32_of_bytes
    {byte0 byte1 byte2 byte3 : Nat}
    (small0 : byte0 < 256)
    (small1 : byte1 < 256)
    (small2 : byte2 < 256)
    (small3 : byte3 < 256) :
    Endian32 (byte0 * 16777216 + byte1 * 65536 + byte2 * 256 + byte3) =
      byte3 * 16777216 + byte2 * 65536 + byte1 * 256 + byte0 := by
  unfold Endian32
  omega

/-- Exchanging the byte order twice gives the value back. -/
theorem Endian32_Endian32
    {value : Nat}
    (small : value < X32) :
    Endian32 (Endian32 value) = value := by
  conv_lhs => rw [Endian32.eq_def value]
  rw [Endian32_of_bytes (by omega) (by omega) (by omega) (by omega)]
  unfold X32 at small
  omega

end SoftEther
