import SoftEther.Library.Runs
import SoftEther.Mayaqua.Buf
import SoftEther.Mayaqua.Memory.Block

/-!
# A buffer in its memory

`BUF` of `Memory.c` as it lies in memory: a block, how much of it is in use and the
cursor, with the arithmetic of `UINT`.  `WriteBuf`, `ReadBuf`, `ReadBufStr` and
`SeekBuf` copy inside the block; a copy that leaves it is a fault.  The other
modules see a buffer as the list of its bytes.
-/

namespace SoftEther
namespace Memory

open Library

structure BUF where
  /-- The block `Buf`. -/
  buf : List UInt8
  size : Nat
  current : Nat
  sizeReserved : Nat
  deriving DecidableEq

def initBufSize : Nat := 10240

variable (fresh : FreshMemory)

def NewBuf : BUF where
  buf := malloc fresh initBufSize
  size := 0
  current := 0
  sizeReserved := initBufSize

def ClearBufEx (b : BUF) (initBuffer : Bool) : BUF :=
  if initBuffer = true ∧ b.sizeReserved ≠ initBufSize then
    { buf := malloc fresh initBufSize, size := 0, current := 0, sizeReserved := initBufSize }
  else { b with size := 0, current := 0 }

/-- The loop of `AdjustBufSize`, which doubles the reserved size.  Any reserved size
but zero passes `0x7FFFFFFF` within 32 rounds. -/
def doubleReserved : Nat → Nat → Nat → Except Fault Nat
  | 0, _, _ => .error .endless
  | rounds + 1, sizeReserved, newSize =>
      if sizeReserved < newSize then
        if 0x7FFFFFFF < sizeReserved then .error .abort
        else doubleReserved rounds (mulUINT sizeReserved 2) newSize
      else .ok sizeReserved

def AdjustBufSize (b : BUF) (newSize : Nat) : Except Fault BUF :=
  if newSize ≤ b.sizeReserved then .ok b
  else do
    let sizeReserved ← doubleReserved 33 b.sizeReserved newSize
    return { b with buf := reAllocBlock fresh b.buf sizeReserved, sizeReserved := sizeReserved }

def WriteBuf (b : BUF) (buf : List UInt8) : Except Fault BUF :=
  if buf.length = 0 then .ok b
  else
    let newSize := addUINT b.current buf.length
    (if b.size < newSize then AdjustBufSize fresh b newSize else .ok b) >>= fun b => do
      let block ← copyTo b.buf b.current buf
      return { b with buf := block, current := addUINT b.current buf.length, size := newSize }

/-- What `ReadBuf` returns: the number of bytes read and what it put into the
memory of the caller. -/
structure BufRead where
  sizeRead : Nat
  /-- The bytes that the caller's memory holds now; none of them was written when the
  caller passed `NULL`. -/
  buf : List UInt8
  deriving DecidableEq

/-- `ReadBuf`; `stored` says that the caller passes memory and not `NULL`. -/
def ReadBuf (b : BUF) (stored : Bool) (size : Nat) : Except Fault (BufRead × BUF) :=
  if size = 0 then .ok (⟨0, []⟩, b)
  else
    let sizeRead := if b.size ≤ addUINT b.current size then subUINT b.size b.current else size
    let after := { b with current := addUINT b.current sizeRead }
    if stored then do
      let copied ← copyFrom b.buf b.current sizeRead
      return (⟨sizeRead, copied ++ List.replicate (subUINT size sizeRead) 0⟩, after)
    else .ok (⟨sizeRead, []⟩, after)

def ReadBufInt (b : BUF) : Except Fault (Nat × BUF) := do
  let (read, b) ← ReadBuf b true 4
  return (if read.sizeRead = 4 then fromBigEndian read.buf else 0, b)

/-- `ReadBufStr` into the memory `str` of `size` bytes. -/
def ReadBufStr (b : BUF) (str : List UInt8) (size : Nat) :
    Except Fault (Bool × List UInt8 × BUF) :=
  if size = 0 then .ok (false, str, b)
  else do
    let (len, b) ← ReadBufInt b
    if len = 0 then return (false, str, b)
    else
      let len := len - 1
      let size := if len ≤ size - 1 then len + 1 else size
      let readSize := min len (size - 1)
      let (read, b) ← ReadBuf b true readSize
      let str := copyAt str 0 read.buf
      if read.sizeRead ≠ readSize then return (false, str, b)
      else
        (if readSize < len then (ReadBuf b false (len - readSize)).map Prod.snd else .ok b) >>=
          fun b => .ok (true, copyAt str readSize [0], b)

def SeekBuf (b : BUF) (offset : Nat) (mode : Int) : BUF :=
  let newPos :=
    if mode = 0 then offset
    else if 0 < mode then addUINT b.current offset
    else if offset ≤ b.current then b.current - offset
    else 0
  -- MAKESURE(new_pos, 0, b->Size)
  { b with current := min newPos b.size }

/-- The bytes in use. -/
def BUF.contents (b : BUF) : List UInt8 :=
  b.buf.take b.size

/-- The bytes behind the cursor. -/
def BUF.unread (b : BUF) : List UInt8 :=
  b.contents.drop b.current

/-- The buffer with its cursor behind the next bytes, so many or all that there are. -/
def BUF.skip (b : BUF) (size : Nat) : BUF :=
  { b with current := b.current + min size (b.size - b.current) }

/-- A state that the operations keep: the block is as large as it says, it has doubled
from the initial size, and size and cursor lie in it. -/
structure BUF.WellFormed (b : BUF) : Prop where
  block : b.buf.length = b.sizeReserved
  doubled : ∃ rounds, rounds ≤ 18 ∧ b.sizeReserved = initBufSize * 2 ^ rounds
  inside : b.size ≤ b.sizeReserved
  cursor : b.current ≤ b.size

namespace BUF.WellFormed

variable {b : BUF}

theorem reserved_le (wellFormed : b.WellFormed) : b.sizeReserved ≤ maxBufSize := by
  obtain ⟨rounds, few, doubled⟩ := wellFormed.doubled
  rw [doubled, initBufSize, maxBufSize]
  exact Nat.mul_le_mul_left _ (Nat.pow_le_pow_right (by decide) few)

theorem size_le (wellFormed : b.WellFormed) : b.size ≤ 2684354560 :=
  wellFormed.inside.trans wellFormed.reserved_le

theorem length_contents (wellFormed : b.WellFormed) : b.contents.length = b.size := by
  have inside := wellFormed.inside
  rw [BUF.contents, List.length_take, wellFormed.block]
  omega

theorem length_unread (wellFormed : b.WellFormed) :
    b.unread.length = b.size - b.current := by
  rw [BUF.unread, List.length_drop, wellFormed.length_contents]

/-- What a copy from the cursor on reads is the bytes behind the cursor. -/
theorem slice_buf
    {size : Nat}
    (inside : b.current + size ≤ b.size) :
    slice b.buf b.current size = b.unread.take size := by
  unfold slice BUF.unread BUF.contents
  rw [List.drop_take, List.take_take, Nat.min_eq_left (by omega)]

/-- The cursor may stand anywhere in the bytes in use. -/
theorem seek
    (wellFormed : b.WellFormed)
    {position : Nat}
    (inside : position ≤ b.size) :
    ({ b with current := position } : BUF).WellFormed where
  block := wellFormed.block
  doubled := wellFormed.doubled
  inside := wellFormed.inside
  cursor := inside

end BUF.WellFormed

/-- The initial buffer. -/
theorem NewBuf_wellFormed : (NewBuf fresh).WellFormed where
  block := by simp only [NewBuf, length_malloc]
  doubled := ⟨0, by simp [NewBuf]⟩
  inside := by simp [NewBuf]
  cursor := by simp [NewBuf]

theorem ClearBufEx_wellFormed
    {b : BUF}
    (wellFormed : b.WellFormed)
    (initBuffer : Bool) :
    (ClearBufEx fresh b initBuffer).WellFormed := by
  unfold ClearBufEx
  split
  case isTrue => exact NewBuf_wellFormed fresh
  case isFalse =>
    exact
      { block := wellFormed.block
        doubled := wellFormed.doubled
        inside := Nat.zero_le _
        cursor := Nat.le_refl _ }

section

variable {b : BUF}

theorem ReadBuf_of_lt
    (wellFormed : b.WellFormed)
    {size : Nat}
    (fits : b.current + size < 4294967296)
    (stored : Bool) :
    ReadBuf b stored size =
      .ok
        (⟨min size (b.size - b.current),
          if stored then
            b.unread.take size ++ List.replicate (size - (b.size - b.current)) 0
          else []⟩,
        b.skip size) := by
  have cursor := wellFormed.cursor
  have sizeLe := wellFormed.size_le
  have inside := wellFormed.inside
  unfold ReadBuf
  by_cases empty : size = 0
  · subst empty
    simp [BUF.skip]
  rw [if_neg empty, addUINT_of_lt fits]
  have read :
      (if b.size ≤ b.current + size then subUINT b.size b.current else size) =
        min size (b.size - b.current) := by
    split
    case isTrue beyond =>
      rw [subUINT_of_le cursor (by change _ < 4294967296; omega)]
      omega
    case isFalse => omega
  have moved : addUINT b.current (min size (b.size - b.current)) =
      b.current + min size (b.size - b.current) :=
    addUINT_of_lt (by change _ < 4294967296; omega)
  have rest : subUINT size (min size (b.size - b.current)) =
      size - (b.size - b.current) := by
    rw [subUINT_of_le (Nat.min_le_left _ _) (by change _ < 4294967296; omega)]
    omega
  have copied : copyFrom b.buf b.current (min size (b.size - b.current)) =
      .ok (b.unread.take size) := by
    have room : b.current + min size (b.size - b.current) ≤ b.buf.length := by
      rw [wellFormed.block]
      omega
    have all : b.unread.take (min size (b.size - b.current)) = b.unread.take size := by
      rw [← wellFormed.length_unread, List.take_eq_take_iff]
      omega
    rw [copyFrom, if_pos room, BUF.WellFormed.slice_buf (by omega), all]
  dsimp only
  rw [read, moved, rest, copied]
  cases stored with
  | true => rfl
  | false => rfl

theorem ReadBuf_of_wraps
    (wellFormed : b.WellFormed)
    {size : Nat}
    (small : size < 4294967296)
    (wraps : 4294967296 ≤ b.current + size) :
    ReadBuf b true size = .error .outside ∧
      ReadBuf b false size =
        .ok (⟨size, []⟩, { b with current := b.current + size - 4294967296 }) := by
  have cursor := wellFormed.cursor
  have sizeLe := wellFormed.size_le
  have inside := wellFormed.inside
  have block := wellFormed.block
  have reserved := wellFormed.reserved_le
  have limit : maxBufSize = 2684354560 := by decide
  have wrapped : addUINT b.current size = b.current + size - 4294967296 :=
    addUINT_of_wraps wraps (by omega) small
  have taken : ¬b.size ≤ b.current + size - 4294967296 := by omega
  have room : ¬b.current + size ≤ b.buf.length := by omega
  have nonzero : ¬size = 0 := by omega
  unfold ReadBuf
  rw [if_neg nonzero, if_neg nonzero, wrapped]
  dsimp only
  rw [if_neg taken, wrapped, copyFrom, if_neg room]
  exact ⟨rfl, rfl⟩

end

/-! ## `WriteBuf` -/

theorem doubleReserved_eq
    {rounds left fuel newSize : Nat}
    (few : rounds + left = 18)
    (enough : left < fuel) :
    if newSize ≤ maxBufSize then
      ∃ more, rounds ≤ more ∧ more ≤ 18 ∧ newSize ≤ initBufSize * 2 ^ more ∧
        doubleReserved fuel (initBufSize * 2 ^ rounds) newSize = .ok (initBufSize * 2 ^ more)
    else
      doubleReserved fuel (initBufSize * 2 ^ rounds) newSize = .error .abort := by
  induction left generalizing rounds fuel with
  | zero =>
      obtain rfl : rounds = 18 := few
      obtain ⟨fuel, rfl⟩ : ∃ fewer, fuel = fewer + 1 := ⟨fuel - 1, by omega⟩
      have largest : initBufSize * 2 ^ 18 = maxBufSize := by simp [initBufSize, maxBufSize]
      have big : 0x7FFFFFFF < maxBufSize := by simp [maxBufSize]
      rw [largest, doubleReserved]
      by_cases fits : newSize ≤ maxBufSize
      · rw [if_pos fits, if_neg (by omega)]
        exact ⟨18, le_rfl, le_rfl, fits.trans_eq largest.symm, by rw [largest]⟩
      · rw [if_neg fits, if_pos (by omega), if_pos big]
  | succ left inductionHypothesis =>
      obtain ⟨fuel, rfl⟩ : ∃ fewer, fuel = fewer + 1 := ⟨fuel - 1, by omega⟩
      have power : 2 ^ rounds ≤ 2 ^ 17 := Nat.pow_le_pow_right (by decide) (by omega)
      have next : mulUINT (initBufSize * 2 ^ rounds) 2 = initBufSize * 2 ^ (rounds + 1) := by
        rw [Nat.pow_succ, ← Nat.mul_assoc]
        unfold mulUINT X32 initBufSize
        omega
      rw [doubleReserved]
      by_cases fits : initBufSize * 2 ^ rounds < newSize
      · have small : ¬0x7FFFFFFF < initBufSize * 2 ^ rounds := by
          unfold initBufSize
          omega
        have doubled := @inductionHypothesis (rounds + 1) fuel (by omega) (by omega)
        rw [if_pos fits, if_neg small, next]
        split at doubled
        case isTrue below =>
          obtain ⟨more, least, most, enoughRoom, ended⟩ := doubled
          rw [if_pos below]
          exact ⟨more, by omega, most, enoughRoom, ended⟩
        case isFalse above =>
          rw [if_neg above]
          exact doubled
      · have below : newSize ≤ maxBufSize := by
          unfold maxBufSize
          unfold initBufSize at fits
          omega
        rw [if_pos below, if_neg fits]
        exact ⟨rounds, le_rfl, by omega, Nat.le_of_not_lt fits, rfl⟩

section

variable {b : BUF}

theorem AdjustBufSize_eq
    (wellFormed : b.WellFormed)
    (newSize : Nat) :
    if newSize ≤ maxBufSize then
      ∃ more reserved, newSize ≤ reserved ∧ b.sizeReserved ≤ reserved ∧
        AdjustBufSize fresh b newSize =
          .ok { b with buf := b.buf ++ more, sizeReserved := reserved } ∧
        ({ b with buf := b.buf ++ more, sizeReserved := reserved } : BUF).WellFormed
    else AdjustBufSize fresh b newSize = .error .abort := by
  obtain ⟨rounds, few, doubled⟩ := wellFormed.doubled
  have reserved := wellFormed.reserved_le
  have inside := wellFormed.inside
  have loop := @doubleReserved_eq rounds (18 - rounds) 33 newSize
    (Nat.add_sub_cancel' few) (by omega)
  rw [← doubled] at loop
  unfold AdjustBufSize
  by_cases room : newSize ≤ b.sizeReserved
  · rw [if_pos (room.trans reserved), if_pos room]
    refine ⟨[], b.sizeReserved, room, le_rfl, ?_, ?_⟩
    · rw [List.append_nil]
    · rw [List.append_nil]
      exact wellFormed
  · rw [if_neg room]
    split at loop
    case isTrue below =>
      obtain ⟨more, _, most, enough, ended⟩ := loop
      have grows : b.buf.length ≤ initBufSize * 2 ^ more := by
        rw [wellFormed.block]
        omega
      have least : b.sizeReserved ≤ initBufSize * 2 ^ more :=
        (Nat.le_of_not_le room).trans enough
      rw [if_pos below, ended]
      refine ⟨malloc fresh (initBufSize * 2 ^ more - b.buf.length), initBufSize * 2 ^ more,
        enough, least, ?_, ?_⟩
      · rw [← reAllocBlock_eq fresh grows]
        rfl
      · rw [← reAllocBlock_eq fresh grows]
        exact
          { block := length_reAllocBlock fresh b.buf _
            doubled := ⟨more, most, rfl⟩
            inside := inside.trans least
            cursor := wellFormed.cursor }
    case isFalse above =>
      rw [if_neg above, loop]
      rfl

theorem WriteBuf_of_le
    (wellFormed : b.WellFormed)
    {buf : List UInt8}
    (nonempty : buf ≠ [])
    (below : b.current + buf.length ≤ maxBufSize) :
    ∃ after, WriteBuf fresh b buf = .ok after ∧ after.WellFormed ∧
      after.contents = b.contents.take b.current ++ buf ∧
      after.size = b.current + buf.length ∧ after.current = b.current + buf.length := by
  have cursor := wellFormed.cursor
  have inside := wellFormed.inside
  have limit : maxBufSize = 2684354560 := by decide
  have lengthSome : ¬buf.length = 0 := fun none => nonempty (List.eq_nil_of_length_eq_zero none)
  have sum : addUINT b.current buf.length = b.current + buf.length :=
    addUINT_of_lt (by change _ < 4294967296; omega)
  -- the block in which the bytes find room
  obtain ⟨more, reserved, enough, adjusted, grown⟩ : ∃ more reserved,
      b.current + buf.length ≤ reserved ∧
      (if b.size < b.current + buf.length then AdjustBufSize fresh b (b.current + buf.length)
        else .ok b) = .ok { b with buf := b.buf ++ more, sizeReserved := reserved } ∧
      ({ b with buf := b.buf ++ more, sizeReserved := reserved } : BUF).WellFormed := by
    by_cases larger : b.size < b.current + buf.length
    · have adjust := AdjustBufSize_eq fresh wellFormed (b.current + buf.length)
      rw [if_pos below] at adjust
      obtain ⟨more, reserved, enough, _, adjusted, grown⟩ := adjust
      rw [if_pos larger]
      exact ⟨more, reserved, enough, adjusted, grown⟩
    · rw [if_neg larger]
      refine ⟨[], b.sizeReserved, by omega, ?_, ?_⟩
      · rw [List.append_nil]
      · rw [List.append_nil]
        exact wellFormed
  have room : b.current + buf.length ≤ (b.buf ++ more).length := by
    rw [show (b.buf ++ more).length = reserved from grown.block]
    exact enough
  have copied : copyTo (b.buf ++ more) b.current buf =
      .ok (copyAt (b.buf ++ more) b.current buf) := if_pos room
  refine ⟨{ b with
      buf := copyAt (b.buf ++ more) b.current buf
      sizeReserved := reserved
      current := b.current + buf.length
      size := b.current + buf.length }, ?_, ?_, ?_, rfl, rfl⟩
  · unfold WriteBuf
    rw [if_neg lengthSome, sum]
    dsimp only
    rw [adjusted]
    change (copyTo (b.buf ++ more) b.current buf >>= _) = _
    rw [copied]
    dsimp only
    rw [sum]
    rfl
  · exact
      { block := (length_copyAt room).trans grown.block
        doubled := grown.doubled
        inside := enough
        cursor := le_rfl }
  · have before : (b.buf ++ more).take b.current = b.buf.take b.current :=
      List.take_append_of_le_length (by rw [wellFormed.block]; omega)
    have lengthBefore : (b.buf.take b.current).length = b.current := by
      rw [List.length_take, wellFormed.block]
      omega
    unfold BUF.contents copyAt
    dsimp only
    rw [before, List.take_take, Nat.min_eq_left cursor]
    rw [List.take_left' (by rw [List.length_append, lengthBefore])]

/-- A buffer that would become too large ends the program. -/
theorem WriteBuf_of_gt
    (wellFormed : b.WellFormed)
    {buf : List UInt8}
    (above : maxBufSize < b.current + buf.length)
    (fits : b.current + buf.length < 4294967296) :
    WriteBuf fresh b buf = .error .abort := by
  have cursor := wellFormed.cursor
  have inside := wellFormed.inside
  have reserved := wellFormed.reserved_le
  have adjust := AdjustBufSize_eq fresh wellFormed (b.current + buf.length)
  rw [if_neg (Nat.not_le_of_lt above)] at adjust
  unfold WriteBuf
  rw [if_neg (by omega), addUINT_of_lt fits]
  dsimp only
  rw [if_pos (by omega), adjust]
  rfl

theorem WriteBuf_of_wraps
    (wellFormed : b.WellFormed)
    {buf : List UInt8}
    (small : buf.length < 4294967296)
    (wraps : 4294967296 ≤ b.current + buf.length) :
    WriteBuf fresh b buf = .error .outside := by
  have cursor := wellFormed.cursor
  have inside := wellFormed.inside
  have reserved := wellFormed.reserved_le
  have limit : maxBufSize = 2684354560 := by decide
  have block := wellFormed.block
  have room : ¬b.current + buf.length ≤ b.buf.length := by omega
  unfold WriteBuf
  rw [if_neg (by omega), addUINT_of_wraps wraps (by omega) small]
  dsimp only
  rw [if_neg (by omega)]
  change (copyTo b.buf b.current buf >>= _) = _
  rw [copyTo, if_neg room]
  rfl

end

/-! ## Histories of a buffer -/

inductive BufOperation
  | writeBuf (buf : List UInt8)
  | readBuf (stored : Bool) (size : UInt32)
  | seekBuf (offset : UInt32) (mode : Int)
  /-- `ClearBufEx`. -/
  | clearBuf (initBuffer : Bool)

/-- An operation takes place; nothing is left behind a fault. -/
def operateBuf (b : BUF) : BufOperation → Option BUF
  | .writeBuf buf => (WriteBuf fresh b buf).toOption
  | .readBuf stored size => ((ReadBuf b stored size.toNat).map Prod.snd).toOption
  | .seekBuf offset mode => some (SeekBuf b offset.toNat mode)
  | .clearBuf initBuffer => some (ClearBufEx fresh b initBuffer)

/-- The size of a block that `WriteBuf` gets is a `UINT`. -/
def BufOperation.Possible (_ : BUF) : BufOperation → Prop
  | .writeBuf buf => buf.length < 4294967296
  | _ => True

/-- The buffers that operations make out of a new one. -/
def BufReached (b : BUF) : Prop :=
  Reaches (operateBuf fresh) BufOperation.Possible (NewBuf fresh) b

theorem SeekBuf_wellFormed
    {b : BUF}
    (wellFormed : b.WellFormed)
    (offset : Nat)
    (mode : Int) :
    (SeekBuf b offset mode).WellFormed :=
  wellFormed.seek (Nat.min_le_right _ _)

theorem WriteBuf_wellFormed
    {b after : BUF}
    {buf : List UInt8}
    (wellFormed : b.WellFormed)
    (small : buf.length < 4294967296)
    (wrote : WriteBuf fresh b buf = .ok after) :
    after.WellFormed := by
  by_cases empty : buf = []
  · rw [empty, WriteBuf, if_pos List.length_nil] at wrote
    rw [← Except.ok.inj wrote]
    exact wellFormed
  by_cases wraps : 4294967296 ≤ b.current + buf.length
  · rw [WriteBuf_of_wraps fresh wellFormed small wraps] at wrote
    cases wrote
  by_cases below : b.current + buf.length ≤ maxBufSize
  · obtain ⟨_, written, kept, _⟩ := WriteBuf_of_le fresh wellFormed empty below
    rw [written] at wrote
    rw [← Except.ok.inj wrote]
    exact kept
  · rw [WriteBuf_of_gt fresh wellFormed (by omega) (by omega)] at wrote
    cases wrote

theorem ReadBuf_wellFormed
    {b : BUF}
    {stored : Bool}
    {size : Nat}
    {result : BufRead × BUF}
    (wellFormed : b.WellFormed)
    (small : size < 4294967296)
    (read : ReadBuf b stored size = .ok result) :
    result.2.WellFormed := by
  have cursor := wellFormed.cursor
  by_cases fits : b.current + size < 4294967296
  · rw [ReadBuf_of_lt wellFormed fits] at read
    rw [← Except.ok.inj read]
    exact wellFormed.seek (by omega)
  · obtain ⟨outside, back⟩ := ReadBuf_of_wraps wellFormed small (by omega)
    cases stored with
    | true =>
        rw [outside] at read
        cases read
    | false =>
        rw [back] at read
        rw [← Except.ok.inj read]
        exact wellFormed.seek (by omega)

theorem operateBuf_wellFormed
    {b after : BUF}
    {operation : BufOperation}
    (wellFormed : b.WellFormed)
    (possible : operation.Possible b)
    (operated : operateBuf fresh b operation = some after) :
    after.WellFormed := by
  cases operation with
  | writeBuf buf =>
      rw [operateBuf] at operated
      cases wrote : WriteBuf fresh b buf with
      | error fault =>
          rw [wrote] at operated
          cases operated
      | ok written =>
          rw [wrote] at operated
          cases operated
          exact WriteBuf_wellFormed fresh wellFormed possible wrote
  | readBuf stored size =>
      rw [operateBuf] at operated
      cases read : ReadBuf b stored size.toNat with
      | error fault =>
          rw [read] at operated
          cases operated
      | ok result =>
          rw [read] at operated
          cases operated
          exact ReadBuf_wellFormed wellFormed size.toNat_lt read
  | seekBuf offset mode =>
      cases operated
      exact SeekBuf_wellFormed wellFormed offset.toNat mode
  | clearBuf initBuffer =>
      cases operated
      exact ClearBufEx_wellFormed fresh wellFormed initBuffer

theorem BufReached.wellFormed
    {b : BUF}
    (reached : BufReached fresh b) :
    b.WellFormed :=
  reached.invariant BUF.WellFormed (NewBuf_wellFormed fresh)
    fun _ _ _ => operateBuf_wellFormed fresh

theorem bufReached_contents
    (contents : List UInt8)
    (cursor : Nat)
    (below : contents.length ≤ maxBufSize)
    (inside : cursor ≤ contents.length) :
    ∃ b, BufReached fresh b ∧ b.contents = contents ∧ b.current = cursor := by
  have limit : maxBufSize = 2684354560 := by decide
  have empty : (NewBuf fresh).contents = [] := List.take_zero
  have atStart : (NewBuf fresh).current = 0 := rfl
  have emptySize : (NewBuf fresh).size = 0 := rfl
  obtain ⟨written, reached, held⟩ :
      ∃ written, BufReached fresh written ∧ written.contents = contents ∧
        written.size = contents.length := by
    by_cases nothing : contents = []
    · exact ⟨NewBuf fresh, .start, by rw [empty, nothing], by rw [emptySize, nothing]; rfl⟩
    · obtain ⟨written, wrote, -, held, size, -⟩ :=
        WriteBuf_of_le fresh (NewBuf_wellFormed fresh) nothing (by rw [atStart]; omega)
      have possible : BufOperation.Possible (NewBuf fresh) (.writeBuf contents) := by
        change contents.length < 4294967296
        omega
      have operated : operateBuf fresh (NewBuf fresh) (.writeBuf contents) = some written := by
        rw [operateBuf, wrote]
        rfl
      refine ⟨written, .next .start possible operated, ?_, ?_⟩
      · rw [held, empty, List.take_nil, List.nil_append]
      · rw [size, atStart, Nat.zero_add]
  have small : cursor < UInt32.size := by
    change cursor < 4294967296
    omega
  have possible : BufOperation.Possible written (.seekBuf (UInt32.ofNat cursor) 0) := trivial
  refine ⟨SeekBuf written (UInt32.ofNat cursor).toNat 0, .next reached possible rfl, held.1, ?_⟩
  change min (UInt32.ofNat cursor).toNat written.size = cursor
  rw [UInt32.toNat_ofNat_of_lt' small, held.2, Nat.min_eq_left inside]

end Memory
end SoftEther
