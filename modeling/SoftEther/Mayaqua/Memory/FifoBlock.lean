import SoftEther.Mayaqua.Fifo
import SoftEther.Mayaqua.Memory.Block

/-!
# A FIFO in its memory

`FIFO` of `Memory.c` as it lies in memory: a block, the position of the first byte and
the number of bytes, with the arithmetic of `UINT`.  Writing multiplies the block,
reading moves the position and now and then halves the block.  `Fifo` is the queue that
this stands for.
-/

namespace SoftEther
namespace Memory

open Library

/-! ## The code -/

structure FIFO where
  /-- The block `p`. -/
  p : List UInt8
  pos : Nat
  size : Nat
  memsize : Nat
  totalReadSize : Nat
  totalWriteSize : Nat
  fixed : Bool
  deriving DecidableEq

def fifoInitMemSize : Nat := 4096

variable (fresh : FreshMemory)

def NewFifo : FIFO where
  p := malloc fresh fifoInitMemSize
  pos := 0
  size := 0
  memsize := fifoInitMemSize
  totalReadSize := 0
  totalWriteSize := 0
  fixed := false

/-- What `PeekFifo` and `ReadFifo` return: the number of bytes and what they put into the
memory of the caller, nothing when the caller passed `NULL`. -/
structure FifoRead where
  readSize : Nat
  /-- The bytes that were stored. -/
  p : List UInt8
  deriving DecidableEq

/-- `PeekFifo`; `stored` says that the caller passes memory and not `NULL`. -/
def PeekFifo (f : FIFO) (stored : Bool) (size : Nat) : Except Fault FifoRead :=
  if size = 0 then .ok ⟨0, []⟩
  else
    let readSize := min size f.size
    if readSize = 0 then .ok ⟨0, []⟩
    else if stored then do
      let copied ← copyFrom f.p f.pos readSize
      return ⟨readSize, copied⟩
    else .ok ⟨readSize, []⟩

/-- `ShrinkFifoMemory`, where `reallocMemSize` is `fifo_current_realloc_mem_size`. -/
def ShrinkFifoMemory (reallocMemSize : Nat) (f : FIFO) : Except Fault FIFO :=
  if f.fixed then .ok f
  else if fifoInitMemSize ≤ f.pos ∧ reallocMemSize ≤ f.memsize ∧ f.size < f.memsize / 2 then do
    let newSize := max (f.memsize / 2) fifoInitMemSize
    let moved ← copyFrom f.p f.pos f.size
    let newP ← copyTo (malloc fresh newSize) 0 moved
    return { f with memsize := newSize, p := newP, pos := 0 }
  else .ok f

/-- The bytes that are read leave the FIFO. -/
def takeOut (f : FIFO) (readSize : Nat) : FIFO :=
  { f with
    pos :=
      if f.fixed = false ∧ subUINT f.size readSize = 0 then 0 else addUINT f.pos readSize
    size := subUINT f.size readSize
    totalReadSize := addUINT64 f.totalReadSize readSize }

def ReadFifo (reallocMemSize : Nat) (f : FIFO) (stored : Bool) (size : Nat) :
    Except Fault (FifoRead × FIFO) :=
  if size = 0 then .ok (⟨0, []⟩, f)
  else
    let readSize := min size f.size
    if readSize = 0 then .ok (⟨0, []⟩, f)
    else do
      let read ← PeekFifo f stored size
      let f ← ShrinkFifoMemory fresh reallocMemSize (takeOut f readSize)
      return (read, f)

/-- One round of the memory expansion in `WriteFifo`. -/
def tripleMemsize (memsize : Nat) : Nat :=
  mulUINT (max memsize fifoInitMemSize) 3

/-- The memory expansion in `WriteFifo`.  A loop that has not ended after as many rounds
as there are `UINT`s has been in one of its states twice and does not end. -/
def growMemsize : Nat → Nat → Nat → Except Fault Nat
  | 0, _, _ => .error .endless
  | rounds + 1, memsize, needSize =>
      if memsize < needSize then growMemsize rounds (tripleMemsize memsize) needSize
      else .ok memsize

/-- More rounds than there are `UINT`s. -/
def growRounds : Nat := 4294967297

/-- What a caller of `WriteFifo` passes: bytes, or a size without bytes. -/
inductive FifoData
  | bytes (p : List UInt8)
  | null (size : Nat)
  deriving DecidableEq

def FifoData.size : FifoData → Nat
  | .bytes p => p.length
  | .null size => size

/-- The data are copied into the block, unless there are none. -/
def storeData (block : List UInt8) (offset : Nat) : FifoData → Except Fault (List UInt8)
  | .bytes p => copyTo block offset p
  | .null _ => .ok block

/-- `WriteFifo` when there is something to write. -/
def appendFifo (f : FIFO) (data : FifoData) : Except Fault FIFO := do
  let size := addUINT f.size data.size
  let needSize := addUINT f.pos size
  let memsize ← growMemsize growRounds f.memsize needSize
  let p ← storeData (if f.memsize < needSize then reAllocBlock fresh f.p memsize else f.p)
    (f.pos + f.size) data
  return { f with
    p
    size
    memsize
    totalWriteSize := addUINT64 f.totalWriteSize data.size }

def WriteFifo (f : FIFO) (data : FifoData) : Except Fault FIFO :=
  if data.size = 0 then .ok f else appendFifo fresh f data

def ClearFifo (f : FIFO) : FIFO :=
  { f with
    size := 0
    pos := 0
    memsize := fifoInitMemSize
    p := reAllocBlock fresh f.p fifoInitMemSize }

/-- The bytes from the position on. -/
def FIFO.contents (f : FIFO) : List UInt8 :=
  slice f.p f.pos f.size

/-- The queue that a FIFO in memory stands for. -/
def FIFO.queue (f : FIFO) : Fifo UInt8 :=
  ⟨f.contents⟩

/-- The representation invariant: the block is as large as it says, and the bytes lie
in it. -/
structure FIFO.WellFormed (f : FIFO) : Prop where
  block : f.p.length = f.memsize
  small : f.memsize < 4294967296
  inside : f.pos + f.size ≤ f.memsize

section

variable {f : FIFO}

theorem FIFO.WellFormed.length_contents (wellFormed : f.WellFormed) :
    f.contents.length = f.size :=
  length_slice (by
    rw [wellFormed.block]
    exact wellFormed.inside)

theorem FIFO.WellFormed.copyFrom
    (wellFormed : f.WellFormed)
    {size : Nat}
    (there : size ≤ f.size) :
    Memory.copyFrom f.p f.pos size = .ok (f.contents.take size) := by
  have inside := wellFormed.inside
  have room : f.pos + size ≤ f.p.length := by
    rw [wellFormed.block]
    omega
  rw [Memory.copyFrom, if_pos room, FIFO.contents, take_slice _ _ there]

theorem NewFifo_wellFormed : (NewFifo fresh).WellFormed where
  block := by simp only [NewFifo, length_malloc]
  small := by simp [NewFifo, fifoInitMemSize]
  inside := by simp [NewFifo]

theorem ClearFifo_wellFormed (f : FIFO) : (ClearFifo fresh f).WellFormed where
  block := by simp only [ClearFifo, length_reAllocBlock]
  small := by simp [ClearFifo, fifoInitMemSize]
  inside := by simp [ClearFifo]

@[simp] theorem contents_NewFifo : (NewFifo fresh).contents = [] := by
  simp [FIFO.contents, NewFifo]

@[simp] theorem contents_ClearFifo (f : FIFO) : (ClearFifo fresh f).contents = [] := by
  simp [FIFO.contents, ClearFifo]

/-! ## Reading -/

theorem PeekFifo_eq
    (wellFormed : f.WellFormed)
    (stored : Bool)
    (size : Nat) :
    PeekFifo f stored size =
      .ok ⟨min size f.size, if stored then f.contents.take size else []⟩ := by
  have length := wellFormed.length_contents
  unfold PeekFifo
  by_cases nothing : min size f.size = 0
  · have empty : f.contents.take size = [] := by
      apply List.eq_nil_of_length_eq_zero
      rw [List.length_take, length, nothing]
    have none : (if stored then f.contents.take size else []) = [] := by
      rw [empty, ite_self]
    rw [none]
    dsimp only
    rw [if_pos nothing, nothing, ite_self]
  · have asked : ¬size = 0 := by omega
    have same : f.contents.take (min size f.size) = f.contents.take size := by
      rw [← length, List.take_eq_take_iff]
      omega
    dsimp only
    rw [if_neg asked, if_neg nothing, wellFormed.copyFrom (Nat.min_le_right _ _), same]
    cases stored with
    | true => rfl
    | false => rfl

/-- Taking out bytes that are there. -/
theorem takeOut_eq
    (wellFormed : f.WellFormed)
    {readSize : Nat}
    (there : readSize ≤ f.size) :
    (takeOut f readSize).WellFormed ∧
      (takeOut f readSize).contents = f.contents.drop readSize := by
  have small := wellFormed.small
  have inside := wellFormed.inside
  have size : subUINT f.size readSize = f.size - readSize :=
    subUINT_of_le there (by change _ < 4294967296; omega)
  have pos : addUINT f.pos readSize = f.pos + readSize :=
    addUINT_of_lt (by change _ < 4294967296; omega)
  have left : f.contents.drop readSize = slice f.p (f.pos + readSize) (f.size - readSize) :=
    drop_slice f.p f.pos f.size readSize
  unfold takeOut
  rw [size, pos, left]
  by_cases reset : f.fixed = false ∧ f.size - readSize = 0
  · rw [if_pos reset]
    constructor
    · exact
        { block := wellFormed.block
          small
          inside := by
            change 0 + (f.size - readSize) ≤ f.memsize
            omega }
    · change slice f.p 0 (f.size - readSize) = _
      rw [reset.2, slice_size_zero, slice_size_zero]
  · rw [if_neg reset]
    constructor
    · exact
        { block := wellFormed.block
          small
          inside := by
            change f.pos + readSize + (f.size - readSize) ≤ f.memsize
            omega }
    · rfl

/-- A smaller block keeps the bytes. -/
theorem ShrinkFifoMemory_eq
    (wellFormed : f.WellFormed)
    (reallocMemSize : Nat) :
    ∃ after, ShrinkFifoMemory fresh reallocMemSize f = .ok after ∧ after.WellFormed ∧
      after.contents = f.contents := by
  have small := wellFormed.small
  have length := wellFormed.length_contents
  unfold ShrinkFifoMemory
  by_cases fixed : f.fixed = true
  · rw [if_pos fixed]
    exact ⟨f, rfl, wellFormed, rfl⟩
  rw [if_neg fixed]
  split
  case isFalse => exact ⟨f, rfl, wellFormed, rfl⟩
  case isTrue shrinks =>
    obtain ⟨_, _, half⟩ := shrinks
    have all : Memory.copyFrom f.p f.pos f.size = .ok f.contents := by
      rw [wellFormed.copyFrom le_rfl, ← length, List.take_length]
    have room : 0 + f.contents.length ≤
        (malloc fresh (max (f.memsize / 2) fifoInitMemSize)).length := by
      rw [length_malloc, length]
      omega
    have stored : copyTo (malloc fresh (max (f.memsize / 2) fifoInitMemSize)) 0 f.contents =
        .ok (copyAt (malloc fresh (max (f.memsize / 2) fifoInitMemSize)) 0 f.contents) :=
      if_pos room
    refine ⟨{ f with
        memsize := max (f.memsize / 2) fifoInitMemSize
        p := copyAt (malloc fresh (max (f.memsize / 2) fifoInitMemSize)) 0 f.contents
        pos := 0 }, ?_, ?_, ?_⟩
    · rw [all]
      change (copyTo _ 0 f.contents >>= _) = _
      rw [stored]
      rfl
    · exact
        { block := by
            rw [length_copyAt room, length_malloc]
          small := by
            change max (f.memsize / 2) 4096 < 4294967296
            omega
          inside := by
            change 0 + f.size ≤ max (f.memsize / 2) fifoInitMemSize
            omega }
    · change slice (copyAt _ 0 f.contents) 0 f.size = f.contents
      rw [slice_offset_zero, copyAt, List.take_zero, List.nil_append,
        List.take_left' length]

theorem ReadFifo_eq
    (wellFormed : f.WellFormed)
    (reallocMemSize : Nat)
    (stored : Bool)
    (size : Nat) :
    ∃ after,
      ReadFifo fresh reallocMemSize f stored size =
        .ok (⟨min size f.size, if stored then f.contents.take size else []⟩, after) ∧
      after.WellFormed ∧ after.contents = f.contents.drop size := by
  have length := wellFormed.length_contents
  have peeked := PeekFifo_eq wellFormed stored size
  have behind : f.contents.drop size = f.contents.drop (min size f.size) := by
    rw [List.drop_eq_drop_iff, length]
    omega
  by_cases nothing : min size f.size = 0
  · have read : ReadFifo fresh reallocMemSize f stored size = .ok (⟨0, []⟩, f) := by
      unfold ReadFifo
      dsimp only
      rw [if_pos nothing, ite_self]
    have peek : PeekFifo f stored size = .ok ⟨0, []⟩ := by
      unfold PeekFifo
      dsimp only
      rw [if_pos nothing, ite_self]
    rw [peek] at peeked
    refine ⟨f, ?_, wellFormed, ?_⟩
    · rw [read, ← Except.ok.inj peeked]
    · rw [behind, nothing, List.drop_zero]
  · obtain ⟨kept, contents⟩ := takeOut_eq wellFormed (Nat.min_le_right size f.size)
    obtain ⟨after, shrunk, afterKept, same⟩ :=
      ShrinkFifoMemory_eq fresh kept reallocMemSize
    have asked : ¬size = 0 := by omega
    refine ⟨after, ?_, afterKept, ?_⟩
    · unfold ReadFifo
      dsimp only
      rw [if_neg asked, if_neg nothing, peeked]
      change (ShrinkFifoMemory fresh reallocMemSize (takeOut f (min size f.size)) >>= _) = _
      rw [shrunk]
      rfl
    · rw [same, contents, behind]

/-! ## Writing -/

theorem growMemsize_le
    {rounds memsize needSize grown : Nat}
    (ended : growMemsize rounds memsize needSize = .ok grown) :
    needSize ≤ grown ∧ (memsize < 4294967296 → grown < 4294967296) := by
  induction rounds generalizing memsize with
  | zero => cases ended
  | succ rounds inductionHypothesis =>
      rw [growMemsize] at ended
      split at ended
      case isTrue =>
        obtain ⟨room, small⟩ := inductionHypothesis ended
        exact ⟨room, fun _ => small (Nat.mod_lt _ (by decide))⟩
      case isFalse enough =>
        cases ended
        exact ⟨Nat.le_of_not_lt enough, id⟩

theorem growMemsize_ends
    {rounds fuel memsize needSize : Nat}
    (enough : needSize ≤ tripleMemsize^[rounds] memsize)
    (few : rounds < fuel) :
    ∃ grown, growMemsize fuel memsize needSize = .ok grown := by
  induction rounds generalizing fuel memsize with
  | zero =>
      obtain ⟨fuel, rfl⟩ : ∃ fewer, fuel = fewer + 1 := ⟨fuel - 1, by omega⟩
      have room : ¬memsize < needSize := Nat.not_lt_of_le enough
      rw [growMemsize, if_neg room]
      exact ⟨memsize, rfl⟩
  | succ rounds inductionHypothesis =>
      obtain ⟨fuel, rfl⟩ : ∃ fewer, fuel = fewer + 1 := ⟨fuel - 1, by omega⟩
      rw [growMemsize]
      split
      case isTrue => exact inductionHypothesis enough (by omega)
      case isFalse => exact ⟨memsize, rfl⟩

/-- The bytes that a write puts behind the others: those of the caller, or whatever the
memory holds. -/
def FifoData.Writes : FifoData → List UInt8 → Prop
  | .bytes p, appended => appended = p
  | .null size, appended => appended.length = size

/-- The end of the bytes stays a `UINT`, and tripling the memory makes room for it. -/
def FifoFits (f : FIFO) (data : FifoData) : Prop :=
  f.pos + f.size + data.size < 4294967296 ∧
    ∃ rounds < 4294967296, f.pos + f.size + data.size ≤ tripleMemsize^[rounds] f.memsize

theorem storeData_eq
    (wellFormed : f.WellFormed)
    {data : FifoData}
    (more : List UInt8)
    {grown : Nat}
    (room : f.pos + f.size + data.size ≤ grown)
    (length : (f.p ++ more).length = grown) :
    ∃ p appended,
      storeData (f.p ++ more) (f.pos + f.size) data = .ok p ∧ p.length = grown ∧
        data.Writes appended ∧ slice p f.pos (f.size + data.size) = f.contents ++ appended := by
  have kept : slice (f.p ++ more) f.pos f.size = f.contents :=
    slice_append_left (by rw [wellFormed.block]; exact wellFormed.inside) more
  cases data with
  | bytes p =>
      have within : f.pos + f.size + p.length ≤ (f.p ++ more).length := room.trans_eq length.symm
      refine ⟨copyAt (f.p ++ more) (f.pos + f.size) p, p, if_pos within,
        (length_copyAt within).trans length, rfl, ?_⟩
      change slice _ f.pos (f.size + p.length) = _
      rw [← slice_append, slice_copyAt_before within le_rfl, kept, slice_copyAt_self within]
  | null size =>
      refine ⟨f.p ++ more, slice (f.p ++ more) (f.pos + f.size) size, rfl, length,
        length_slice (room.trans_eq length.symm), ?_⟩
      change slice _ f.pos (f.size + size) = _
      rw [← slice_append, kept]

/-- A write behind which the memory expansion has made room. -/
theorem appendFifo_eq
    (wellFormed : f.WellFormed)
    {data : FifoData}
    {grown : Nat}
    (fits : f.pos + f.size + data.size < 4294967296)
    (ended : growMemsize growRounds f.memsize (f.pos + f.size + data.size) = .ok grown) :
    ∃ after appended, appendFifo fresh f data = .ok after ∧ after.WellFormed ∧
      data.Writes appended ∧ after.contents = f.contents ++ appended := by
  have block := wellFormed.block
  have small := wellFormed.small
  have inside := wellFormed.inside
  have size : addUINT f.size data.size = f.size + data.size :=
    addUINT_of_lt (by change _ < 4294967296; omega)
  have need : addUINT f.pos (f.size + data.size) = f.pos + f.size + data.size := by
    rw [addUINT_of_lt (by change _ < 4294967296; omega), Nat.add_assoc]
  obtain ⟨room, grownSmall⟩ := growMemsize_le ended
  -- the block in which there is room
  obtain ⟨more, larger, lengthLarger⟩ : ∃ more,
      (if f.memsize < f.pos + f.size + data.size then reAllocBlock fresh f.p grown else f.p) =
        f.p ++ more ∧ (f.p ++ more).length = grown := by
    by_cases grows : f.memsize < f.pos + f.size + data.size
    · have longer : f.p.length ≤ grown := by omega
      rw [if_pos grows, reAllocBlock_eq fresh longer]
      exact ⟨_, rfl, by rw [List.length_append, length_malloc]; omega⟩
    · have same : grown = f.memsize := by
        have rest : growMemsize growRounds f.memsize (f.pos + f.size + data.size) =
            .ok f.memsize := by
          rw [show growRounds = 4294967296 + 1 from rfl, growMemsize, if_neg grows]
        rw [rest] at ended
        exact (Except.ok.inj ended).symm
      rw [if_neg grows]
      exact ⟨[], by rw [List.append_nil], by rw [List.append_nil, block, same]⟩
  -- the bytes that stand behind the others afterwards
  obtain ⟨p, appended, stored, length, writes, contents⟩ : ∃ p appended,
      storeData (f.p ++ more) (f.pos + f.size) data = .ok p ∧ p.length = grown ∧
        data.Writes appended ∧ slice p f.pos (f.size + data.size) = f.contents ++ appended :=
    storeData_eq wellFormed more (by omega) lengthLarger
  refine ⟨{ f with
      p
      size := f.size + data.size
      memsize := grown
      totalWriteSize := addUINT64 f.totalWriteSize data.size }, appended, ?_, ?_, writes, contents⟩
  · unfold appendFifo
    rw [size]
    dsimp only
    rw [need, ended]
    change (storeData (if _ then _ else _) _ data >>= _) = _
    rw [larger, stored]
    rfl
  · exact
      { block := length
        small := grownSmall small
        inside := by
          change f.pos + (f.size + data.size) ≤ grown
          omega }

theorem WriteFifo_of_fits
    (wellFormed : f.WellFormed)
    {data : FifoData}
    (fits : FifoFits f data) :
    ∃ after appended, WriteFifo fresh f data = .ok after ∧ after.WellFormed ∧
      data.Writes appended ∧ after.contents = f.contents ++ appended := by
  by_cases nothing : data.size = 0
  · rw [WriteFifo, if_pos nothing]
    refine ⟨f, [], rfl, wellFormed, ?_, (List.append_nil _).symm⟩
    cases data with
    | bytes p => exact (List.eq_nil_of_length_eq_zero nothing).symm
    | null size => exact nothing.symm
  · obtain ⟨small, rounds, few, enough⟩ := fits
    obtain ⟨grown, ended⟩ := growMemsize_ends enough
      (show rounds < growRounds from Nat.lt_succ_of_lt few)
    rw [WriteFifo, if_neg nothing]
    exact appendFifo_eq fresh wellFormed small ended

theorem WriteFifo_of_wraps
    (wellFormed : f.WellFormed)
    {p : List UInt8}
    (wraps : 4294967296 ≤ f.pos + f.size + p.length) :
    ∃ fault, WriteFifo fresh f (.bytes p) = .error fault := by
  have block := wellFormed.block
  have small := wellFormed.small
  have inside := wellFormed.inside
  have something : ¬(FifoData.bytes p).size = 0 := by
    change ¬p.length = 0
    omega
  rw [WriteFifo, if_neg something]
  unfold appendFifo
  dsimp only
  cases ended : growMemsize growRounds f.memsize
      (addUINT f.pos (addUINT f.size (FifoData.bytes p).size)) with
  | error fault => exact ⟨fault, rfl⟩
  | ok grown =>
      obtain ⟨_, grownSmall⟩ := growMemsize_le ended
      have short : ¬f.pos + f.size + p.length ≤
          (if f.memsize < addUINT f.pos (addUINT f.size (FifoData.bytes p).size) then
            reAllocBlock fresh f.p grown
          else f.p).length := by
        have limit := grownSmall small
        split
        case isTrue =>
          rw [length_reAllocBlock]
          omega
        case isFalse => omega
      refine ⟨.outside, ?_⟩
      change (copyTo _ _ p >>= _) = _
      rw [copyTo, if_neg short]
      rfl

end

end Memory
end SoftEther
