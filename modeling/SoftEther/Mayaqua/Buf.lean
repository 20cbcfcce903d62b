import Mathlib.Tactic.Ring
import SoftEther.Mayaqua.Str
import SoftEther.Mayaqua.UInt

/-!
# Buffers

`BUF` of `Memory.c`.  A writer appends to the bytes written so far; a reader takes
bytes from those that are left behind `Current`.  Numbers are in network byte
order.
-/

namespace SoftEther

/-- The bytes of a number of the given width, most significant first. -/
def bigEndian : Nat → Nat → List UInt8
  | 0, _ => []
  | width + 1, value => UInt8.ofNat (value / 256 ^ width) :: bigEndian width value

def writeBufInt (value : UInt32) : List UInt8 :=
  bigEndian 4 value.toNat

def writeBufInt64 (value : UInt64) : List UInt8 :=
  bigEndian 8 value.toNat

def writeBufStr (str : CString) : List UInt8 :=
  writeBufInt (UInt32.ofNat (str.strLen + 1)) ++ str.bytes

/-- The largest size that `AdjustBufSize` grows a buffer to: `INIT_BUF_SIZE` doubled
eighteen times.  A larger buffer ends the program. -/
def maxBufSize : Nat := 10240 * 2 ^ 18

/-- `ReadBuf`: the block that is filled, the bytes read into it and what is left. -/
def readBuf (unread : List UInt8) (size : Nat) : List UInt8 × Nat × List UInt8 :=
  (unread.take size ++ List.replicate (size - unread.length) 0,
    min size unread.length, unread.drop size)

/-- The number that bytes make, most significant first. -/
def fromBigEndian (bytes : List UInt8) : Nat :=
  bytes.foldl (fun value byte => value * 256 + byte.toNat) 0

def readBufInt (unread : List UInt8) : UInt32 × List UInt8 :=
  let (block, read, unread) := readBuf unread 4
  (if read = 4 then UInt32.ofNat (fromBigEndian block) else 0, unread)

def readBufInt64 (unread : List UInt8) : UInt64 × List UInt8 :=
  let (block, read, unread) := readBuf unread 8
  (if read = 8 then UInt64.ofNat (fromBigEndian block) else 0, unread)

/-- `ReadBufStr` into an array of `size` bytes; the content of the array before the
call stays when there is no string. -/
def readBufStr (array : List UInt8) (size : Nat) (unread : List UInt8) :
    List UInt8 × List UInt8 :=
  let (len, unread) := readBufInt unread
  if len = 0 then (array, unread)
  else
    let len := len.toNat - 1
    let readSize := min len (size - 1)
    let (block, read, unread) := readBuf unread readSize
    if read ≠ readSize then (block ++ array.drop readSize, unread)
    else (block ++ 0 :: array.drop (readSize + 1), unread.drop (len - readSize))

theorem length_bigEndian (width value : Nat) : (bigEndian width value).length = width := by
  induction width with
  | zero => rfl
  | succ width inductionHypothesis =>
      rw [bigEndian, List.length_cons, inductionHypothesis]

theorem foldl_bigEndian (width value start : Nat) :
    (bigEndian width value).foldl (fun value byte => value * 256 + byte.toNat) start =
      start * 256 ^ width + value % 256 ^ width := by
  induction width generalizing start with
  | zero => simp [bigEndian, Nat.mod_one]
  | succ width inductionHypothesis =>
      have byte : (UInt8.ofNat (value / 256 ^ width)).toNat = value / 256 ^ width % 256 :=
        UInt8.toNat_ofNat'
      have split : value % 256 ^ (width + 1) =
          value % 256 ^ width + 256 ^ width * (value / 256 ^ width % 256) := by
        rw [Nat.pow_succ, Nat.mod_mul]
      rw [bigEndian, List.foldl_cons, inductionHypothesis, byte, split, Nat.pow_succ]
      ring

theorem readBuf_append (block rest : List UInt8) :
    readBuf (block ++ rest) block.length = (block, block.length, rest) := by
  have inside : block.length - (block ++ rest).length = 0 := by
    rw [List.length_append]
    omega
  have all : min block.length (block ++ rest).length = block.length := by
    rw [List.length_append]
    omega
  rw [readBuf, inside, all, List.take_left, List.drop_left, List.replicate_zero,
    List.append_nil]

/-- A number that fits is read back. -/
theorem fromBigEndian_bigEndian
    {width value : Nat}
    (small : value < 256 ^ width) :
    fromBigEndian (bigEndian width value) = value := by
  have bytes := foldl_bigEndian width value 0
  rw [Nat.zero_mul, Nat.zero_add, Nat.mod_eq_of_lt small] at bytes
  exact bytes

theorem fromBigEndian_lt (bytes : List UInt8) : fromBigEndian bytes < 256 ^ bytes.length := by
  induction bytes using List.reverseRecOn with
  | nil => exact Nat.one_pos
  | append_singleton bytes byte inductionHypothesis =>
      have last := byte.toNat_lt
      unfold fromBigEndian at inductionHypothesis ⊢
      rw [List.foldl_append, List.length_append, List.length_singleton, Nat.pow_succ]
      change _ * 256 + byte.toNat < _
      omega

theorem readBufInt_write (value : UInt32) (rest : List UInt8) :
    readBufInt (writeBufInt value ++ rest) = (value, rest) := by
  have block := readBuf_append (writeBufInt value) rest
  have length : (writeBufInt value).length = 4 := length_bigEndian 4 value.toNat
  have number : fromBigEndian (writeBufInt value) = value.toNat :=
    fromBigEndian_bigEndian value.toNat_lt
  rw [length] at block
  rw [readBufInt, block]
  dsimp only
  rw [if_pos rfl, number, UInt32.ofNat_toNat]

theorem readBufInt64_write (value : UInt64) (rest : List UInt8) :
    readBufInt64 (writeBufInt64 value ++ rest) = (value, rest) := by
  have block := readBuf_append (writeBufInt64 value) rest
  have length : (writeBufInt64 value).length = 8 := length_bigEndian 8 value.toNat
  have number : fromBigEndian (writeBufInt64 value) = value.toNat :=
    fromBigEndian_bigEndian value.toNat_lt
  rw [length] at block
  rw [readBufInt64, block]
  dsimp only
  rw [if_pos rfl, number, UInt64.ofNat_toNat]

theorem readBufStr_write
    {str : CString}
    {size : Nat}
    (fits : str.strLen < size)
    (inRange : size < 2 ^ 32)
    (array rest : List UInt8) :
    readBufStr array size (writeBufStr str ++ rest) =
      (str.bytes ++ 0 :: array.drop (str.strLen + 1), rest) := by
  have number : (UInt32.ofNat (str.strLen + 1)).toNat = str.strLen + 1 :=
    UInt32.toNat_ofNat_of_lt' (by unfold UInt32.size; omega)
  have nonzero : UInt32.ofNat (str.strLen + 1) ≠ 0 := by
    intro zero
    rw [zero] at number
    exact absurd number (by simp)
  have room : min str.strLen (size - 1) = str.bytes.length := by
    rw [Nat.min_eq_left (by omega)]
    rfl
  have none_left : str.strLen - str.bytes.length = 0 := Nat.sub_self _
  rw [writeBufStr, List.append_assoc, readBufStr, readBufInt_write]
  dsimp only
  rw [if_neg nonzero, number, Nat.add_sub_cancel, room, readBuf_append]
  dsimp only
  rw [if_neg (not_not_intro rfl), none_left, List.drop_zero]
  rfl

theorem length_readBuf (unread : List UInt8) (size : Nat) :
    (readBuf unread size).2.2.length = unread.length - size :=
  List.length_drop

theorem length_readBufInt (unread : List UInt8) :
    (readBufInt unread).2.length = unread.length - 4 :=
  List.length_drop

theorem length_of_readBufInt_ne_zero
    {unread : List UInt8}
    (nonzero : (readBufInt unread).1 ≠ 0) :
    4 ≤ unread.length := by
  by_contra short
  apply nonzero
  change (if min 4 unread.length = 4 then _ else (0 : UInt32)) = 0
  exact if_neg (by omega)

theorem length_readBufStr (array : List UInt8) (size : Nat) (unread : List UInt8) :
    (readBufStr array size unread).2.length ≤ unread.length := by
  have number := length_readBufInt unread
  unfold readBufStr
  generalize readBufInt unread = result at number
  obtain ⟨len, left⟩ := result
  dsimp only at number ⊢
  by_cases zero : len = 0
  · rw [if_pos zero]
    dsimp only
    omega
  · rw [if_neg zero]
    have block := length_readBuf left (min (len.toNat - 1) (size - 1))
    generalize readBuf left (min (len.toNat - 1) (size - 1)) = result at block ⊢
    obtain ⟨bytes, read, after⟩ := result
    dsimp only at block ⊢
    by_cases short : read ≠ min (len.toNat - 1) (size - 1)
    · rw [if_pos short]
      dsimp only
      omega
    · rw [if_neg short, List.length_drop]
      omega

/-- `READ_UINT` of the bytes behind a pointer. -/
def readUINT (data : List UInt8) : Option UInt32 :=
  if 4 ≤ data.length then some (UInt32.ofNat (fromBigEndian (data.take 4))) else none

/-- `READ_UINT64` of the bytes behind a pointer. -/
def readUINT64 (data : List UInt8) : Option UInt64 :=
  if 8 ≤ data.length then some (UInt64.ofNat (fromBigEndian (data.take 8))) else none

/-- `Clone` of the bytes behind a pointer. -/
def clone (data : List UInt8) (size : Nat) : Option (List UInt8) :=
  if size ≤ data.length then some (data.take size) else none

theorem readUINT_write (value : UInt32) (rest : List UInt8) :
    readUINT (writeBufInt value ++ rest) = some value := by
  have length : (writeBufInt value).length = 4 := length_bigEndian 4 value.toNat
  have enough : 4 ≤ (writeBufInt value ++ rest).length := by
    rw [List.length_append]
    omega
  rw [readUINT, if_pos enough, List.take_left' length, writeBufInt,
    fromBigEndian_bigEndian value.toNat_lt, UInt32.ofNat_toNat]

theorem readUINT64_write (value : UInt64) (rest : List UInt8) :
    readUINT64 (writeBufInt64 value ++ rest) = some value := by
  have length : (writeBufInt64 value).length = 8 := length_bigEndian 8 value.toNat
  have enough : 8 ≤ (writeBufInt64 value ++ rest).length := by
    rw [List.length_append]
    omega
  rw [readUINT64, if_pos enough, List.take_left' length, writeBufInt64,
    fromBigEndian_bigEndian value.toNat_lt, UInt64.ofNat_toNat]

theorem drop_write (value : UInt32) (rest : List UInt8) :
    (writeBufInt value ++ rest).drop 4 = rest :=
  List.drop_left' (length_bigEndian 4 value.toNat)

theorem drop_write64 (value : UInt64) (rest : List UInt8) :
    (writeBufInt64 value ++ rest).drop 8 = rest :=
  List.drop_left' (length_bigEndian 8 value.toNat)

theorem length_write (value : UInt32) (rest : List UInt8) :
    (writeBufInt value ++ rest).length = 4 + rest.length := by
  rw [List.length_append, writeBufInt, length_bigEndian]

theorem length_write64 (value : UInt64) (rest : List UInt8) :
    (writeBufInt64 value ++ rest).length = 8 + rest.length := by
  rw [List.length_append, writeBufInt64, length_bigEndian]

theorem clone_self (data : List UInt8) : clone data data.length = some data := by
  rw [clone, if_pos (Nat.le_refl _), List.take_length]

/-- The remaining size follows the pointer. -/
theorem subUINT_length
    {data : List UInt8}
    {count : Nat}
    (enough : count ≤ data.length)
    (small : data.length < X32) :
    subUINT data.length count = (data.drop count).length := by
  rw [subUINT_of_le enough small, List.length_drop]

end SoftEther
