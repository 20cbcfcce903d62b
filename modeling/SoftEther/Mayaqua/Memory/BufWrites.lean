import SoftEther.Mayaqua.Memory.BufBlock

/-!
# What a write does to a buffer

`WriteBuf` grows the block only when the bytes reach behind the end of the buffer, but
sets the size to their end in every case.  A write inside the buffer drops what stands
behind it.
-/

namespace SoftEther
namespace Memory

open Library

variable (fresh : FreshMemory)

/-- The write puts the bytes at the cursor, over what stands there and behind the end,
moves the cursor behind them and leaves all other bytes. -/
def Overwrites (b : BUF) (buf : List UInt8) : Prop :=
  ∃ after, WriteBuf fresh b buf = .ok after ∧
    after.contents = copyAt b.contents b.current buf ∧
    after.current = b.current + buf.length ∧
    after.size = max b.size (b.current + buf.length)

/-- A write at the end of the buffer or over its end, up to the largest size. -/
def ReachesEnd (b : BUF) (buf : List UInt8) : Prop :=
  b.size ≤ b.current + buf.length ∧ b.current + buf.length ≤ maxBufSize

instance (b : BUF) (buf : List UInt8) : Decidable (ReachesEnd b buf) :=
  inferInstanceAs (Decidable (_ ∧ _))

section

variable {b : BUF}

/-- Nothing is written. -/
theorem overwrites_nil
    (wellFormed : b.WellFormed) :
    Overwrites fresh b [] := by
  have cursor := wellFormed.cursor
  refine ⟨b, ?_, ?_, rfl, ?_⟩
  · rw [WriteBuf, if_pos List.length_nil]
  · rw [copyAt, List.append_nil, List.length_nil, Nat.add_zero, List.take_append_drop]
  · rw [List.length_nil, Nat.add_zero, Nat.max_eq_left cursor]

theorem overwrites_of_reachesEnd
    (wellFormed : b.WellFormed)
    {buf : List UInt8}
    (nonempty : buf ≠ [])
    (reaches : ReachesEnd b buf) :
    Overwrites fresh b buf := by
  obtain ⟨atEnd, below⟩ := reaches
  obtain ⟨after, wrote, _, contents, size, current⟩ :=
    WriteBuf_of_le fresh wellFormed nonempty below
  refine ⟨after, wrote, ?_, current, ?_⟩
  · have nothing : b.contents.drop (b.current + buf.length) = [] := by
      apply List.drop_eq_nil_of_le
      rw [wellFormed.length_contents]
      exact atEnd
    rw [contents, copyAt, nothing, List.append_nil]
  · rw [size, Nat.max_eq_right atEnd]

theorem reachesEnd_of_overwrites
    (wellFormed : b.WellFormed)
    {buf : List UInt8}
    (nonempty : buf ≠ [])
    (small : buf.length < 4294967296)
    (overwrites : Overwrites fresh b buf) :
    ReachesEnd b buf := by
  obtain ⟨after, wrote, _, _, size⟩ := overwrites
  by_cases below : b.current + buf.length ≤ maxBufSize
  · obtain ⟨written, same, _, _, atEnd, _⟩ := WriteBuf_of_le fresh wellFormed nonempty below
    rw [wrote] at same
    rw [Except.ok.inj same, atEnd] at size
    exact ⟨by omega, below⟩
  · exfalso
    by_cases wraps : 4294967296 ≤ b.current + buf.length
    · rw [WriteBuf_of_wraps fresh wellFormed small wraps] at wrote
      cases wrote
    · rw [WriteBuf_of_gt fresh wellFormed (by omega) (by omega)] at wrote
      cases wrote

end

/-- In every buffer that is reached, a write overwrites what it should and keeps the rest
exactly when it is empty or reaches the end of the buffer. -/
theorem overwrites_iff
    {b : BUF}
    {buf : List UInt8}
    (reached : BufReached fresh b)
    (small : buf.length < 4294967296) :
    Overwrites fresh b buf ↔ buf = [] ∨ ReachesEnd b buf := by
  have wellFormed := reached.wellFormed
  by_cases empty : buf = []
  · subst empty
    exact iff_of_true (overwrites_nil fresh wellFormed) (.inl rfl)
  constructor
  · intro overwrites
    exact .inr (reachesEnd_of_overwrites fresh wellFormed empty small overwrites)
  · intro reaches
    exact overwrites_of_reachesEnd fresh wellFormed empty (reaches.resolve_left empty)

/-- A write over the end of a buffer of three bytes. -/
theorem overwrites_iff_example :
    ∃ b, BufReached (fun _ => 0) b ∧ b.contents = [1, 2, 3] ∧ b.current = 2 ∧
      (Overwrites (fun _ => 0) b [8, 9] ↔
        ([8, 9] : List UInt8) = [] ∨ ReachesEnd b [8, 9]) := by
  obtain ⟨b, reached, contents, current⟩ :=
    bufReached_contents (fun _ => 0) [1, 2, 3] 2 (by decide) (by decide)
  have small : [(8 : UInt8), 9].length < 4294967296 := by decide
  exact ⟨b, reached, contents, current, overwrites_iff (fun _ => 0) reached small⟩

/-- A write of one byte at the beginning of three bytes drops the other two. -/
theorem write_dropsTail :
    ∃ b, BufReached (fun _ => 0) b ∧ b.contents = [1, 2, 3] ∧ b.current = 0 ∧
      ¬Overwrites (fun _ => 0) b [9] := by
  obtain ⟨b, reached, contents, current⟩ :=
    bufReached_contents (fun _ => 0) [1, 2, 3] 0 (by decide) (by decide)
  refine ⟨b, reached, contents, current, ?_⟩
  intro overwrites
  have wellFormed := reached.wellFormed
  have size : b.size = 3 := by
    rw [← wellFormed.length_contents, contents]
    rfl
  have small : [(9 : UInt8)].length < 4294967296 := by decide
  obtain ⟨atEnd, _⟩ :=
    reachesEnd_of_overwrites (fun _ => 0) wellFormed (List.cons_ne_nil 9 []) small overwrites
  rw [size, current] at atEnd
  exact absurd atEnd (by decide)

end Memory
end SoftEther
