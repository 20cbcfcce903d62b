import SoftEther.Library.Slices
import SoftEther.Mayaqua.Memory
import SoftEther.Mayaqua.UInt

/-!
# Blocks of memory with bounds

A block from the allocator, copies into it and out of it, and growing it.  A copy that
leaves the block is a fault.
-/

namespace SoftEther
namespace Memory

open Library

/-- What goes wrong inside an operation on a block of memory. -/
inductive Fault
  /-- A copy that leaves the block. -/
  | outside
  /-- `AbortExitEx`. -/
  | abort
  /-- A loop that does not end. -/
  | endless
  deriving DecidableEq

/-- `Copy` out of a block. -/
def copyFrom (block : List UInt8) (offset size : Nat) : Except Fault (List UInt8) :=
  if offset + size ≤ block.length then .ok (slice block offset size) else .error .outside

/-- `Copy` into a block. -/
def copyTo (block : List UInt8) (offset : Nat) (data : List UInt8) :
    Except Fault (List UInt8) :=
  if offset + data.length ≤ block.length then .ok (copyAt block offset data)
  else .error .outside

/-- The bytes that memory from the allocator holds before anyone writes them. -/
abbrev FreshMemory := Nat → UInt8

def malloc (fresh : FreshMemory) (size : Nat) : List UInt8 :=
  (List.range size).map fresh

/-- `ReAlloc`. -/
def reAllocBlock (fresh : FreshMemory) (block : List UInt8) (size : Nat) : List UInt8 :=
  block.take size ++ malloc fresh (size - block.length)

variable (fresh : FreshMemory)

theorem length_malloc (size : Nat) : (malloc fresh size).length = size := by
  simp [malloc]

theorem length_reAllocBlock (block : List UInt8) (size : Nat) :
    (reAllocBlock fresh block size).length = size := by
  unfold reAllocBlock
  rw [List.length_append, length_malloc, List.length_take]
  omega

theorem reAllocBlock_eq
    {block : List UInt8}
    {size : Nat}
    (grows : block.length ≤ size) :
    reAllocBlock fresh block size = block ++ malloc fresh (size - block.length) := by
  rw [reAllocBlock, List.take_of_length_le grows]

theorem addUINT_of_wraps
    {left right : Nat}
    (wraps : 4294967296 ≤ left + right)
    (leftSmall : left < 4294967296)
    (rightSmall : right < 4294967296) :
    addUINT left right = left + right - 4294967296 := by
  unfold addUINT X32
  omega

variable {block data : List UInt8}

theorem slice_copyAt_self
    {offset : Nat}
    (inside : offset + data.length ≤ block.length) :
    slice (copyAt block offset data) offset data.length = data := by
  have before : (block.take offset).length = offset := by
    rw [List.length_take]
    omega
  rw [slice, copyAt, List.append_assoc, List.drop_left' before, List.take_left]

theorem slice_copyAt_before
    {offset start size : Nat}
    (inside : offset + data.length ≤ block.length)
    (before : start + size ≤ offset) :
    slice (copyAt block offset data) start size = slice block start size := by
  have room : start + size ≤ (block.take offset).length := by
    rw [List.length_take]
    omega
  rw [copyAt, List.append_assoc, slice_append_left room, slice, List.drop_take, List.take_take,
    Nat.min_eq_left (by omega)]
  rfl

end Memory
end SoftEther
