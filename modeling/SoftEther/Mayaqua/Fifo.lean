import SoftEther.Mayaqua.Memory
import SoftEther.Mayaqua.UInt

/-!
# FIFO buffers

A `FIFO` seen through its operations: the bytes between its read position and
its end, oldest first.  The element type is a parameter because
`WriteFifo(f, NULL, size)` appends memory that nobody has written yet; such a
FIFO holds `Option` values.
-/

namespace SoftEther

/-- The contents of a FIFO, oldest element first. -/
structure Fifo (α : Type) where
  /-- The elements from the read position on. -/
  contents : List α
  deriving DecidableEq

namespace Fifo

def newFifo : Fifo α :=
  ⟨[]⟩

def fifoSize (fifo : Fifo α) : Nat :=
  fifo.contents.length

/-- `WriteFifo` with a data pointer. -/
def writeFifo (fifo : Fifo α) (data : List α) : Fifo α :=
  ⟨fifo.contents ++ data⟩

/-- `WriteFifo` with a `NULL` data pointer: the new elements are unwritten
memory. -/
def writeFifoNull (fifo : Fifo (Option α)) (size : Nat) : Fifo (Option α) :=
  fifo.writeFifo (List.replicate size none)

/-- `ReadFifo`, which drops at most the elements that are there. -/
def readFifo (fifo : Fifo α) (size : Nat) : Fifo α :=
  ⟨fifo.contents.drop size⟩

/-- The elements that `ReadFifo` and `PeekFifo` copy out. -/
def peekFifo (fifo : Fifo α) (size : Nat) : List α :=
  fifo.contents.take size

/-- `Copy((UCHAR *)f->p + f->pos + offset, data, size)` into the elements a
FIFO holds. -/
def copyInto (fifo : Fifo α) (offset : Nat) (data : List α) : Fifo α :=
  ⟨copyAt fifo.contents offset data⟩

@[simp] theorem contents_newFifo : (newFifo : Fifo α).contents = [] := rfl

@[simp] theorem contents_writeFifo (fifo : Fifo α) (data : List α) :
    (fifo.writeFifo data).contents = fifo.contents ++ data := rfl

@[simp] theorem contents_writeFifoNull (fifo : Fifo (Option α)) (size : Nat) :
    (fifo.writeFifoNull size).contents =
      fifo.contents ++ List.replicate size none := rfl

@[simp] theorem contents_readFifo (fifo : Fifo α) (size : Nat) :
    (fifo.readFifo size).contents = fifo.contents.drop size := rfl

theorem fifoSize_eq (fifo : Fifo α) :
    fifo.fifoSize = fifo.contents.length := rfl

@[simp] theorem fifoSize_writeFifoNull (fifo : Fifo (Option α)) (size : Nat) :
    (fifo.writeFifoNull size).fifoSize = fifo.fifoSize + size := by
  simp [fifoSize]

theorem peekFifo_append_readFifo (fifo : Fifo α) (size : Nat) :
    fifo.peekFifo size ++ (fifo.readFifo size).contents = fifo.contents :=
  List.take_append_drop size fifo.contents

theorem getElem?_copyInto
    (fifo : Fifo α)
    (offset : Nat)
    (data : List α)
    (inside : offset + data.length ≤ fifo.fifoSize)
    (position : Nat) :
    (fifo.copyInto offset data).contents[position]? =
      if offset ≤ position ∧ position < offset + data.length then
        data[position - offset]?
      else
        fifo.contents[position]? :=
  getElem?_copyAt inside position

end Fifo

end SoftEther
