import SoftEther.Library.Pointers
import SoftEther.Mayaqua.Buf
import SoftEther.Mayaqua.Memory

/-!
# Reading behind a pointer

`READ_USHORT`, `Clone` and the reading of a byte behind a pointer.  The memory behind the
pointer is the list of the bytes that are left; the size that a function keeps beside the
pointer is a `UINT`.
-/

namespace SoftEther
namespace Pointer

open Library

/-- `*data`. -/
def readUCHAR (data : List UInt8) : Except ParseFailure UInt8 :=
  (readItems data 1).map fun bytes => bytes.headD 0

def readUSHORT (data : List UInt8) : Except ParseFailure Nat :=
  (readItems data 2).map fromBigEndian

def readUINT (data : List UInt8) : Except ParseFailure Nat :=
  (readItems data 4).map fromBigEndian

/-- `Clone`. -/
def cloneData (data : List UInt8) (size : Nat) : Except ParseFailure (List UInt8) :=
  readItems data size

/-- `Copy` into a block of memory. -/
def copyInto (block : List UInt8) (offset : Nat) (data : List UInt8) :
    Except ParseFailure (List UInt8) :=
  if offset + data.length ≤ block.length then .ok (copyAt block offset data)
  else .error .outside

variable {offset : Nat}

theorem copyInto_of_le
    {block data : List UInt8}
    (inside : offset + data.length ≤ block.length) :
    copyInto block offset data = .ok (copyAt block offset data) :=
  if_pos inside

theorem copyInto_of_lt
    {block data : List UInt8}
    (beyond : block.length < offset + data.length) :
    copyInto block offset data = .error .outside :=
  if_neg (Nat.not_le.mpr beyond)

theorem inside_of_copyInto_eq_ok
    {block data after : List UInt8}
    (copied : copyInto block offset data = .ok after) :
    offset + data.length ≤ block.length ∧ after.length = block.length := by
  by_cases inside : offset + data.length ≤ block.length
  · rw [copyInto_of_le inside] at copied
    injection copied with same
    exact ⟨inside, same ▸ length_copyAt inside⟩
  · rw [copyInto_of_lt (Nat.lt_of_not_le inside)] at copied
    exact nomatch copied

theorem copyInto_next
    {written rest piece : List UInt8}
    (here : written.length = offset)
    (fits : piece.length ≤ rest.length) :
    copyInto (written ++ rest) offset piece =
      .ok (written ++ piece ++ rest.drop piece.length) := by
  subst here
  have inside : written.length + piece.length ≤ (written ++ rest).length := by simpa using fits
  rw [copyInto_of_le inside, copyAt, List.take_left, ← List.drop_drop, List.drop_left]

@[simp] theorem readUCHAR_cons (byte : UInt8) (rest : List UInt8) :
    readUCHAR (byte :: rest) = .ok byte := by
  unfold readUCHAR
  rw [readItems_of_le (by simp)]
  rfl

theorem readUSHORT_write
    {value : Nat}
    (small : value < 65536)
    (rest : List UInt8) :
    readUSHORT (bigEndian 2 value ++ rest) = .ok value := by
  have block := readItems_append (bigEndian 2 value) rest
  rw [length_bigEndian] at block
  have number : fromBigEndian (bigEndian 2 value) = value := fromBigEndian_bigEndian small
  rw [readUSHORT, block]
  exact congrArg Except.ok number

theorem cloneData_append (block rest : List UInt8) :
    cloneData (block ++ rest) block.length = .ok block :=
  readItems_append block rest

theorem cloneData_self (block : List UInt8) : cloneData block block.length = .ok block :=
  readItems_self block

theorem drop_bigEndian (width value : Nat) (rest : List UInt8) :
    (bigEndian width value ++ rest).drop width = rest :=
  List.drop_left' (length_bigEndian width value)

theorem subUINT_add
    {size count : Nat}
    (small : size + count < X32) :
    subUINT (size + count) count = size := by
  rw [subUINT_of_le (Nat.le_add_left count size) small, Nat.add_sub_cancel]

theorem inside_readUSHORT
    {data : List UInt8}
    (enough : 2 ≤ data.length) :
    Inside (readUSHORT data) fun value => value = fromBigEndian (data.take 2) := by
  apply (Inside.read enough).map
  intro bytes taken
  rw [taken]

theorem inside_cloneData
    {data : List UInt8}
    {size : Nat}
    (enough : size ≤ data.length) :
    Inside (cloneData data size) fun block => block = data.take size :=
  Inside.read enough

/-- A pointer, and the size that a function keeps beside it. -/
structure Cursor where
  /-- The memory behind the pointer. -/
  data : List UInt8
  size : Nat

/-- The pointer moves over some bytes. -/
def Cursor.skip (c : Cursor) (count : Nat) : Cursor where
  data := c.data.drop count
  size := subUINT c.size count

/-- The size stays inside the memory, and the bytes up to it are these. -/
structure Cursor.Shows (c : Cursor) (bytes : List UInt8) : Prop where
  within : c.size ≤ c.data.length
  /-- The memory is no longer than a `UINT` says. -/
  small : c.data.length < X32
  shown : c.data.take c.size = bytes

/-- What is taken, and what is left behind it. -/
def Cursor.TakesAs {Value : Type} (taken : Value × Cursor) (shown : Value × List UInt8) : Prop :=
  taken.1 = shown.1 ∧ taken.2.Shows shown.2

namespace Cursor.Shows

variable {c : Cursor} {bytes : List UInt8} {count : Nat}

theorem size_eq (shows : c.Shows bytes) : c.size = bytes.length := by
  rw [← shows.shown, List.length_take, Nat.min_eq_left shows.within]

/-- A pointer to a block of memory. -/
theorem start (small : bytes.length < X32) : (Cursor.mk bytes bytes.length).Shows bytes where
  within := Nat.le_refl _
  small := small
  shown := List.take_length

theorem skip (shows : c.Shows bytes) (enough : count ≤ bytes.length) :
    (c.skip count).Shows (bytes.drop count) := by
  have size := shows.size_eq
  have within := shows.within
  have small := shows.small
  have less : subUINT c.size count = c.size - count :=
    subUINT_of_le (by omega) (by omega)
  refine { within := ?_, small := ?_, shown := ?_ }
  · simp only [Cursor.skip, less, List.length_drop]
    omega
  · simp only [Cursor.skip, List.length_drop]
    omega
  · simp only [Cursor.skip, less]
    rw [← List.drop_take, shows.shown]

/-- What is read up to the size stands there. -/
theorem take_data (shows : c.Shows bytes) (enough : count ≤ bytes.length) :
    c.data.take count = bytes.take count := by
  rw [← shows.shown, List.take_take, Nat.min_eq_left (shows.size_eq ▸ enough)]

theorem shorten (shows : c.Shows bytes) (enough : count ≤ bytes.length) :
    (Cursor.mk c.data count).Shows (bytes.take count) where
  within := enough.trans (shows.size_eq ▸ shows.within)
  small := shows.small
  shown := shows.take_data enough

theorem readItems (shows : c.Shows bytes) (enough : count ≤ bytes.length) :
    Library.readItems c.data count = .ok (bytes.take count) := by
  rw [readItems_of_le (enough.trans (shows.size_eq ▸ shows.within)), shows.take_data enough]

theorem readUCHAR (shows : c.Shows bytes) (enough : 1 ≤ bytes.length) :
    Pointer.readUCHAR c.data = .ok (bytes.getD 0 0) := by
  rw [Pointer.readUCHAR, shows.readItems enough]
  cases bytes with
  | nil => exact absurd enough (by simp)
  | cons byte rest => rfl

theorem readUSHORT (shows : c.Shows bytes) (enough : 2 ≤ bytes.length) :
    Pointer.readUSHORT c.data = .ok (fromBigEndian (bytes.take 2)) := by
  rw [Pointer.readUSHORT, shows.readItems enough]
  rfl

theorem readUINT (shows : c.Shows bytes) (enough : 4 ≤ bytes.length) :
    Pointer.readUINT c.data = .ok (fromBigEndian (bytes.take 4)) := by
  rw [Pointer.readUINT, shows.readItems enough]
  rfl

/-- All that is left is copied. -/
theorem cloneData (shows : c.Shows bytes) : Pointer.cloneData c.data c.size = .ok bytes := by
  rw [Pointer.cloneData, shows.size_eq, shows.readItems (Nat.le_refl _), List.take_length]

end Cursor.Shows

end Pointer
end SoftEther
