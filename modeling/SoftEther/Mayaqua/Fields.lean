import Mathlib.Data.List.GetD
import SoftEther.Mayaqua.Buf
import SoftEther.Mayaqua.Memory

/-!
# Fields of a block

The values that lie in a block of memory at an offset.  Memory behind the block reads as zero:
the functions that read a field have checked that it lies inside.
-/

namespace SoftEther

theorem length_map_range (size : Nat) (byte : Nat → UInt8) :
    ((List.range size).map byte).length = size := by
  rw [List.length_map, List.length_range]

/-- An array of bytes inside a block. -/
def bytesAt (data : List UInt8) (offset size : Nat) : ByteArrayOf size :=
  ⟨(List.range size).map fun i => data.getD (offset + i) 0, length_map_range size _⟩

/-- A `USHORT` inside a block, most significant byte first. -/
def ushortAt (data : List UInt8) (offset : Nat) : Nat :=
  fromBigEndian (bytesAt data offset 2).val

/-- A `UINT` inside a block as it lies in memory. -/
def uintAt (data : List UInt8) (offset : Nat) : UInt32 :=
  UInt32.ofNat ((bytesAt data offset 4).val.foldr (fun byte value => byte.toNat + 256 * value) 0)

/-- An array inside a block is what lies there. -/
theorem bytesAt_middle
    (front middle rest : List UInt8) :
    (bytesAt (front ++ (middle ++ rest)) front.length middle.length).val = middle := by
  apply List.ext_getElem
  · exact (bytesAt _ _ _).property
  · intro i _ inside
    have read : (front ++ (middle ++ rest)).getD (front.length + i) 0 = middle[i] := by
      rw [List.getD_append_right _ _ _ _ (Nat.le_add_right _ _), Nat.add_sub_cancel_left,
        List.getD_append _ _ _ _ inside, List.getD_eq_getElem _ _ inside]
    simpa [bytesAt] using read

theorem bytesAt_eq
    {data front rest : List UInt8}
    {offset size : Nat}
    (middle : ByteArrayOf size)
    (split : data = front ++ (middle.val ++ rest))
    (place : front.length = offset) :
    bytesAt data offset size = middle := by
  obtain ⟨middle, rfl⟩ := middle
  subst split place
  exact Subtype.ext (bytesAt_middle front middle rest)

end SoftEther
