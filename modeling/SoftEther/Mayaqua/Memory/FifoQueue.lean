import SoftEther.Library.Runs
import SoftEther.Mayaqua.Memory.FifoBlock

/-!
# A FIFO is a queue of bytes

Runs of `WriteFifo`, `ReadFifo`, `PeekFifo` and `ClearFifo`, with what was written and
read since the last `ClearFifo`, and runs with `WriteFifoFront`.  The queue holds through
every growing, moving and shrinking of the block as long as the sizes stay `UINT`s;
`WriteFifoFront` works inside the bytes that were read before.
-/

namespace SoftEther
namespace Memory

open Library

variable (fresh : FreshMemory)
variable (reallocMemSize : Nat)

section

variable {f : FIFO}

theorem queue_writeFifo
    (wellFormed : f.WellFormed)
    {p : List UInt8}
    (fits : FifoFits f (.bytes p)) :
    ∃ after, WriteFifo fresh f (.bytes p) = .ok after ∧ after.WellFormed ∧
      after.queue = f.queue.writeFifo p := by
  obtain ⟨after, appended, wrote, kept, writes, contents⟩ :=
    WriteFifo_of_fits fresh wellFormed fits
  refine ⟨after, wrote, kept, ?_⟩
  rw [FIFO.queue, contents, show appended = p from writes]
  rfl

theorem queue_readFifo
    (wellFormed : f.WellFormed)
    (size : Nat) :
    ∃ after,
      ReadFifo fresh reallocMemSize f true size =
        .ok (⟨min size f.queue.fifoSize, f.queue.peekFifo size⟩, after) ∧
      after.WellFormed ∧ after.queue = f.queue.readFifo size := by
  obtain ⟨after, read, kept, contents⟩ :=
    ReadFifo_eq fresh wellFormed reallocMemSize true size
  refine ⟨after, ?_, kept, ?_⟩
  · rw [read, Fifo.fifoSize, FIFO.queue, wellFormed.length_contents]
    rfl
  · rw [FIFO.queue, contents]
    rfl

theorem queue_clearFifo (f : FIFO) : (ClearFifo fresh f).queue = Fifo.newFifo := by
  rw [FIFO.queue, contents_ClearFifo]
  rfl

end

/-! ## Runs -/

/-- A FIFO with what was written and read since the last `ClearFifo`. -/
structure FifoRun where
  fifo : FIFO
  written : List UInt8
  read : List UInt8

inductive FifoOperation
  | writeFifo (data : FifoData)
  | readFifo (stored : Bool) (size : UInt32)
  | peekFifo (stored : Bool) (size : UInt32)
  | clearFifo

/-- The bytes that a write adds: those of the caller, or those that the memory behind the
queue holds when the caller passes `NULL`. -/
def addedBytes (before after : FIFO) : FifoData → List UInt8
  | .bytes p => p
  | .null _ => after.contents.drop before.contents.length

/-- The bytes that a read takes out: those that the caller gets, or those that it skips when
it passes `NULL`. -/
def takenBytes (before : FIFO) (stored : Bool) (read : FifoRead) : List UInt8 :=
  if stored then read.p else before.contents.take read.readSize

/-- An operation takes place; nothing is left behind a fault. -/
def operateFifo (run : FifoRun) : FifoOperation → Option FifoRun
  | .writeFifo data =>
      (WriteFifo fresh run.fifo data).toOption.map fun after =>
        { run with fifo := after, written := run.written ++ addedBytes run.fifo after data }
  | .readFifo stored size =>
      (ReadFifo fresh reallocMemSize run.fifo stored size.toNat).toOption.map fun result =>
        { run with
          fifo := result.2
          read := run.read ++ takenBytes run.fifo stored result.1 }
  | .peekFifo stored size =>
      (PeekFifo run.fifo stored size.toNat).toOption.map fun _ => run
  | .clearFifo => some { fifo := ClearFifo fresh run.fifo, written := [], read := [] }

def FifoRun.start : FifoRun where
  fifo := NewFifo fresh
  written := []
  read := []

/-- A write fits; everything else does always. -/
def FifoOperation.Fits (run : FifoRun) : FifoOperation → Prop
  | .writeFifo data => FifoFits run.fifo data
  | _ => True

/-- What was read and what the FIFO holds make what was written, and the FIFO is well
formed. -/
structure FifoRun.Sound (run : FifoRun) : Prop where
  queue : run.read ++ run.fifo.contents = run.written
  wellFormed : run.fifo.WellFormed

theorem FifoRun.start_sound : (FifoRun.start fresh).Sound where
  queue := by simp [FifoRun.start]
  wellFormed := NewFifo_wellFormed fresh

theorem operateFifo_sound
    {run : FifoRun}
    {operation : FifoOperation}
    (sound : run.Sound)
    (fits : operation.Fits run) :
    ∃ after, operateFifo fresh reallocMemSize run operation = some after ∧ after.Sound := by
  have wellFormed := sound.wellFormed
  cases operation with
  | writeFifo data =>
      obtain ⟨after, appended, wrote, kept, writes, contents⟩ :=
        WriteFifo_of_fits fresh wellFormed fits
      have added : addedBytes run.fifo after data = appended := by
        cases data with
        | bytes p => exact writes.symm
        | null size =>
            change after.contents.drop run.fifo.contents.length = appended
            rw [contents, List.drop_left]
      refine ⟨_, by rw [operateFifo, wrote]; rfl, ?_, kept⟩
      change run.read ++ after.contents = run.written ++ addedBytes run.fifo after data
      rw [contents, added, ← List.append_assoc, sound.queue]
  | readFifo stored size =>
      obtain ⟨after, read, kept, contents⟩ :=
        ReadFifo_eq fresh wellFormed reallocMemSize stored size.toNat
      have taken : takenBytes run.fifo stored ⟨min size.toNat run.fifo.size,
          if stored then run.fifo.contents.take size.toNat else []⟩ =
          run.fifo.contents.take size.toNat := by
        cases stored with
        | true => rfl
        | false =>
            change run.fifo.contents.take (min size.toNat run.fifo.size) = _
            rw [← wellFormed.length_contents, List.take_eq_take_iff]
            omega
      refine ⟨_, by rw [operateFifo, read]; rfl, ?_, kept⟩
      change run.read ++ takenBytes run.fifo stored _ ++ after.contents = run.written
      rw [taken, contents, List.append_assoc, List.take_append_drop, sound.queue]
  | peekFifo stored size =>
      refine ⟨run, ?_, sound⟩
      rw [operateFifo, PeekFifo_eq wellFormed]
      rfl
  | clearFifo =>
      refine ⟨_, rfl, ?_, ClearFifo_wellFormed fresh run.fifo⟩
      change [] ++ (ClearFifo fresh run.fifo).contents = []
      rw [contents_ClearFifo, List.append_nil]

/-- The runs whose writes all fit. -/
def FifoReached (run : FifoRun) : Prop :=
  Reaches (operateFifo fresh reallocMemSize) FifoOperation.Fits (FifoRun.start fresh) run

theorem FifoReached.sound
    {run : FifoRun}
    (reached : FifoReached fresh reallocMemSize run) :
    run.Sound := by
  refine reached.invariant FifoRun.Sound (FifoRun.start_sound fresh) ?_
  intro before operation after sound fits operated
  obtain ⟨other, same, kept⟩ := operateFifo_sound fresh reallocMemSize sound fits
  rw [operated] at same
  rw [Option.some.inj same]
  exact kept

/-- A FIFO that is an unbounded queue, as far as one operation can tell. -/
structure FifoRun.IsQueue (run : FifoRun) : Prop where
  queue : run.read ++ run.fifo.contents = run.written
  /-- The queue holds as many bytes as the FIFO says. -/
  available : run.fifo.contents.length = run.fifo.size
  /-- The representation invariant. -/
  inside : run.fifo.pos + run.fifo.size ≤ run.fifo.memsize
  block : run.fifo.p.length = run.fifo.memsize
  reads : ∀ (stored : Bool) (size : UInt32), ∃ read after,
    ReadFifo fresh reallocMemSize run.fifo stored size.toNat = .ok (read, after) ∧
      read.readSize = min size.toNat run.fifo.contents.length ∧
      read.p = (if stored then run.fifo.contents.take size.toNat else []) ∧
      after.contents = run.fifo.contents.drop size.toNat
  peeks : ∀ (stored : Bool) (size : UInt32), ∃ read,
    PeekFifo run.fifo stored size.toNat = .ok read ∧
      read.readSize = min size.toNat run.fifo.contents.length ∧
      read.p = if stored then run.fifo.contents.take size.toNat else []
  writes : ∀ p, FifoFits run.fifo (.bytes p) → ∃ after,
    WriteFifo fresh run.fifo (.bytes p) = .ok after ∧
      after.contents = run.fifo.contents ++ p

/-- In every run whose writes fit, a FIFO is a queue in every state. -/
theorem fifo_isQueue
    {run : FifoRun}
    (reached : FifoReached fresh reallocMemSize run) :
    run.IsQueue fresh reallocMemSize := by
  have sound := reached.sound
  have wellFormed := sound.wellFormed
  have length := wellFormed.length_contents
  refine ⟨sound.queue, length, wellFormed.inside, wellFormed.block, ?_, ?_, ?_⟩
  · intro stored size
    obtain ⟨after, read, _, contents⟩ :=
      ReadFifo_eq fresh wellFormed reallocMemSize stored size.toNat
    rw [length]
    exact ⟨_, after, read, rfl, rfl, contents⟩
  · intro stored size
    rw [length]
    exact ⟨_, PeekFifo_eq wellFormed stored size.toNat, rfl, rfl⟩
  · intro p fits
    obtain ⟨after, wrote, _, same⟩ := queue_writeFifo fresh wellFormed fits
    exact ⟨after, wrote, congrArg Fifo.contents same⟩

theorem fifoFits_NewFifo
    {data : FifoData}
    (few : data.size ≤ fifoInitMemSize) :
    FifoFits (NewFifo fresh) data := by
  unfold fifoInitMemSize at few
  refine ⟨?_, 0, by decide, ?_⟩
  · change 0 + 0 + data.size < 4294967296
    omega
  · change 0 + 0 + data.size ≤ 4096
    omega

theorem fifoReached_write
    {p : List UInt8}
    (fits : FifoFits (NewFifo fresh) (.bytes p)) :
    ∃ run, FifoReached fresh reallocMemSize run ∧ run.fifo.contents = p ∧
      run.written = p ∧ run.read = [] := by
  obtain ⟨after, wrote, _, queue⟩ := queue_writeFifo fresh (NewFifo_wellFormed fresh) fits
  have admitted : FifoOperation.Fits (FifoRun.start fresh) (.writeFifo (.bytes p)) := fits
  have operated : operateFifo fresh reallocMemSize (FifoRun.start fresh) (.writeFifo (.bytes p)) =
      some { fifo := after, written := p, read := [] } := by
    change (WriteFifo fresh (NewFifo fresh) (.bytes p)).toOption.map _ = _
    rw [wrote]
    rfl
  refine ⟨_, .next .start admitted operated, ?_, rfl, rfl⟩
  have contents := congrArg Fifo.contents queue
  rw [Fifo.contents_writeFifo] at contents
  change after.contents = (NewFifo fresh).contents ++ p at contents
  rw [contents, contents_NewFifo, List.nil_append]

/-- Three bytes are written and two of them are read. -/
theorem fifo_isQueue_example :
    ∃ run, FifoReached (fun _ => 0) 655360 run ∧ run.written = [1, 2, 3] ∧ run.read = [1, 2] ∧
      run.IsQueue (fun _ => 0) 655360 := by
  have few : (FifoData.bytes [1, 2, 3]).size ≤ fifoInitMemSize := by
    unfold fifoInitMemSize
    decide
  obtain ⟨run, reached, contents, written, read⟩ :=
    fifoReached_write (fun _ => 0) 655360 (fifoFits_NewFifo (fun _ => 0) few)
  have wellFormed := (reached.sound (fun _ => 0) 655360).wellFormed
  obtain ⟨after, took, -, -⟩ := ReadFifo_eq (fun _ => 0) wellFormed 655360 true 2
  have size : run.fifo.size = 3 := by
    rw [← wellFormed.length_contents, contents]
    rfl
  have operated : operateFifo (fun _ => 0) 655360 run (.readFifo true 2) =
      some { fifo := after, written := [1, 2, 3], read := [1, 2] } := by
    change (ReadFifo _ _ run.fifo true 2).toOption.map _ = _
    rw [took, size, contents]
    change (some { fifo := after, written := run.written, read := run.read ++ [1, 2] } :
      Option FifoRun) = _
    rw [written, read, List.nil_append]
  have admitted : FifoOperation.Fits run (.readFifo true 2) := trivial
  have longer : FifoReached (fun _ => 0) 655360
      { fifo := after, written := [1, 2, 3], read := [1, 2] } :=
    .next reached admitted operated
  exact ⟨_, longer, rfl, rfl, fifo_isQueue (fun _ => 0) 655360 longer⟩

theorem fifoFits_half
    {p : List UInt8}
    (half : p.length = 2147483648) :
    FifoFits (NewFifo fresh) (.bytes p) := by
  refine ⟨?_, 12, by decide, ?_⟩
  · change 0 + 0 + p.length < 4294967296
    omega
  · change 0 + 0 + p.length ≤ tripleMemsize^[12] 4096
    rw [half]
    decide

/-- Two writes of 2147483648 bytes: the size wraps to zero, the memory does not grow, and the
second write copies its bytes outside of the block. -/
theorem writeFifo_leavesBlock :
    ∃ run p, FifoReached (fun _ => 0) 655360 run ∧
      run.fifo.contents.length = 2147483648 ∧ p.length = 2147483648 ∧
      ¬∃ after, WriteFifo (fun _ => 0) run.fifo (.bytes p) = .ok after ∧
        after.contents = run.fifo.contents ++ p := by
  have half : (List.replicate 2147483648 (0 : UInt8)).length = 2147483648 :=
    List.length_replicate
  obtain ⟨run, reached, contents, -, -⟩ :=
    fifoReached_write (fun _ => 0) 655360 (fifoFits_half (fun _ => 0) half)
  have length : run.fifo.contents.length = 2147483648 := by rw [contents, half]
  refine ⟨run, List.replicate 2147483648 0, reached, length, half, ?_⟩
  rintro ⟨after, wrote, -⟩
  have wellFormed := (reached.sound (fun _ => 0) 655360).wellFormed
  rw [wellFormed.length_contents] at length
  have wraps : 4294967296 ≤
      run.fifo.pos + run.fifo.size + (List.replicate 2147483648 (0 : UInt8)).length := by
    rw [half]
    omega
  obtain ⟨fault, faults⟩ := WriteFifo_of_wraps (fun _ => 0) wellFormed wraps
  rw [faults] at wrote
  cases wrote

/-! ## Writing at the front -/

/-- An operation on a FIFO to whose front bytes are written. -/
inductive FrontOperation
  | writeFifo (data : FifoData)
  | readFifo (stored : Bool) (size : UInt32)
  | writeFifoFront (p : List UInt8)

/-- Blocks have a `UINT` for their size.  A write without a block, which leaves the bytes as
the memory holds them, fits. -/
def FrontOperation.Possible (f : FIFO) : FrontOperation → Prop
  | .writeFifo (.bytes p) => p.length < 4294967296
  | .writeFifo (.null size) => FifoFits f (.null size)
  | .readFifo _ _ => True
  | .writeFifoFront p => p.length < 4294967296

end Memory
end SoftEther
