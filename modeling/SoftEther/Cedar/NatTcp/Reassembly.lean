import SoftEther.Cedar.NatTcp.Window

/-!
# Reassembly of the client's stream

Payloads are overlaid on `TcpRecvWindow`, the list `TcpRecvList` says which of
its bytes have been received, and what has become contiguous moves to
`RecvFifo`.  The parts stay disjoint and describe bytes of the stream at their
own positions; the bytes appended to `RecvFifo` are the longest prefix of the
stream that has been received.
-/

namespace SoftEther
namespace NatTcp

open Library

/-! ## Overlaps -/

/-- What the loop over `TcpRecvList` needs to know: nothing wraps, and what the
arriving part has lost at its end is not covered by the parts to come. -/
structure OverlapReady (size : Nat) (me : IpPart) (parts : List IpPart) :
    Prop where
  /-- The arriving part only shrinks. -/
  shrunk : me.size ≤ size
  bounded : me.offset + size ≤ NAT_TCP_RECV_WINDOW_SIZE
  inside : ∀ p ∈ parts, p.stop ≤ NAT_TCP_RECV_WINDOW_SIZE
  lost : ∀ position, me.offset + me.size ≤ position →
    position < me.offset + size → position ∉ covered parts

private theorem overlapStep_splits
    {size : Nat}
    {me p : IpPart}
    {parts : List IpPart}
    (ready : OverlapReady size me (p :: parts)) :
    Splits me p (overlapStep size me p).1 (overlapStep size me p).2 ∧
      (overlapStep size me p).1.offset = me.offset ∧
      (overlapStep size me p).1.size ≤ me.size := by
  obtain ⟨shrunk, bounded, inside, lost⟩ := ready
  have partInside : p.offset + p.size ≤ 64512 := inside p (List.mem_cons_self ..)
  have lostLast := lost (me.offset + size - 1)
  simp only [NAT_TCP_RECV_WINDOW_SIZE] at bounded
  have lostFirst := lost (me.offset + me.size)
  rw [mem_covered_cons, ByteRange.covers_iff] at lostLast lostFirst
  unfold overlapStep
  rw [addUINT_of_lt (by unfold X32; omega : me.offset + me.size < X32),
    addUINT_of_lt (by unfold X32; omega : me.offset + size < X32),
    addUINT_of_lt (by unfold X32; omega : p.offset + p.size < X32)]
  split
  · split
    · refine ⟨⟨?_, ?_, ?_, ?_⟩, rfl, Nat.le_refl _⟩ <;>
        simp only [ByteRange.Within, ByteRange.Apart, ByteRange.covers_iff] <;>
        omega
    · split
      · refine ⟨⟨?_, ?_, ?_, ?_⟩, rfl, Nat.zero_le _⟩ <;>
          simp only [ByteRange.Within, ByteRange.Apart, ByteRange.covers_iff] <;>
          omega
      · split
        · have overlap :
              subUINT (p.offset + p.size) me.offset =
                p.offset + p.size - me.offset :=
            subUINT_of_le (by omega) (by unfold X32; omega)
          rw [overlap, subUINT_of_le (by omega) (by unfold X32; omega)]
          refine ⟨⟨?_, ?_, ?_, ?_⟩, rfl, Nat.le_refl _⟩ <;>
            simp only [ByteRange.Within, ByteRange.Apart, ByteRange.covers_iff] <;>
            omega
        · split
          · have whole : me.size = size := by
              by_contra trimmed
              exact lostLast (by omega) (by omega) (.inl (by omega))
            have overlap :
                subUINT (me.offset + me.size) p.offset =
                  me.offset + me.size - p.offset :=
              subUINT_of_le (by omega) (by unfold X32; omega)
            rw [overlap, subUINT_of_le (by omega) (by unfold X32; omega)]
            refine ⟨⟨?_, ?_, ?_, ?_⟩, rfl, Nat.sub_le _ _⟩ <;>
              simp only [ByteRange.Within, ByteRange.Apart,
                ByteRange.covers_iff] <;>
              omega
          · have notInside : me.size ≠ size → ¬(me.offset + me.size < p.offset + p.size ∧
                p.offset ≤ me.offset + me.size) := by
              intro trimmed covered
              exact lostFirst (by omega) (by omega) (.inl (by omega))
            refine ⟨⟨?_, ?_, ?_, ?_⟩, rfl, Nat.le_refl _⟩ <;>
              simp only [ByteRange.Within, ByteRange.Apart,
                ByteRange.covers_iff] <;>
              omega
  · refine ⟨⟨?_, ?_, ?_, ?_⟩, rfl, Nat.le_refl _⟩ <;>
      simp only [ByteRange.Within, ByteRange.Apart, ByteRange.covers_iff] <;>
      omega

private theorem overlapStep_ready
    {size : Nat}
    {me p : IpPart}
    {parts : List IpPart}
    (apart : PairwiseApart (p :: parts))
    (ready : OverlapReady size me (p :: parts)) :
    OverlapReady size (overlapStep size me p).1 parts := by
  obtain ⟨turned, sameOffset, smaller⟩ := overlapStep_splits ready
  refine ⟨smaller.trans ready.shrunk, ?_, ?_, ?_⟩
  · rw [sameOffset]
    exact ready.bounded
  · exact fun other present => ready.inside other (List.mem_cons_of_mem p present)
  · rw [sameOffset]
    intro position afterMe beforeEnd covered
    by_cases lostBefore : me.offset + me.size ≤ position
    · exact ready.lost position lostBefore beforeEnd
        ((mem_covered_cons p parts position).mpr (.inr covered))
    · have inMe : me.Covers position := by
        rw [ByteRange.covers_iff]
        omega
      obtain inAfter | inPart := turned.keeps position (.inl inMe)
      · rw [ByteRange.covers_iff, sameOffset] at inAfter
        omega
      · obtain ⟨other, present, inOther⟩ := covered
        exact (List.pairwise_cons.mp apart).1 other present position
          (turned.within position inPart) inOther

theorem removeOverlaps_eq_scan
    (size : Nat)
    (me : IpPart)
    (parts : List IpPart) :
    removeOverlaps size me parts = scan (overlapStep size) me parts := by
  induction parts generalizing me with
  | nil => rfl
  | cons p parts inductionHypothesis =>
      simp only [removeOverlaps, scan, inductionHypothesis]

/-- A reception list: disjoint nonempty parts inside the window. -/
structure RecvParts (parts : List IpPart) : Prop where
  apart : PairwiseApart parts
  nonempty : ∀ p ∈ parts, p.size ≠ 0
  inside : ∀ p ∈ parts, p.stop ≤ NAT_TCP_RECV_WINDOW_SIZE

private theorem addPart_eq
    (offset size : Nat)
    (parts : List IpPart) :
    addPart offset size parts =
      ((scan (overlapStep size) ⟨offset, size⟩ parts).2 ++
        [(scan (overlapStep size) ⟨offset, size⟩ parts).1]).filter
          fun p => p.size ≠ 0 := by
  simp only [addPart, removeOverlaps_eq_scan]
  by_cases blank : (scan (overlapStep size) ⟨offset, size⟩ parts).1.size = 0
  · simp [blank]
  · rw [if_neg blank]

theorem addPart_recvParts
    {offset size : Nat}
    {parts : List IpPart}
    (good : RecvParts parts)
    (inside : offset + size ≤ NAT_TCP_RECV_WINDOW_SIZE) :
    RecvParts (addPart offset size parts) ∧
      ∀ position, position ∈ covered (addPart offset size parts) ↔
        (offset ≤ position ∧ position < offset + size) ∨
          position ∈ covered parts := by
  have ready : OverlapReady size ⟨offset, size⟩ parts :=
    ⟨Nat.le_refl size, inside, good.inside,
      fun position afterMe beforeEnd => absurd afterMe (by
        show ¬offset + size ≤ position
        exact Nat.not_le.mpr beforeEnd)⟩
  have scanned := scan_scanned (OverlapReady size)
    (fun me p rest apart ready =>
      ⟨(overlapStep_splits ready).1, overlapStep_ready apart ready⟩)
    good.apart ready
  have covers (position : Nat) :
      position ∈ covered (addPart offset size parts) ↔
        (offset ≤ position ∧ position < offset + size) ∨
          position ∈ covered parts := by
    rw [addPart_eq, covered_filter_nonempty, scanned.mem_covered position,
      ByteRange.covers_mk]
  have nonempty : ∀ p ∈ addPart offset size parts, p.size ≠ 0 := by
    intro p present
    rw [addPart_eq, List.mem_filter] at present
    exact of_decide_eq_true present.2
  refine ⟨⟨?_, nonempty, ?_⟩, covers⟩
  · rw [addPart_eq]
    exact scanned.pairwiseApart.filter _
  · intro p present
    have positive := Nat.pos_of_ne_zero (nonempty p present)
    have lastCovered :
        p.offset + p.size - 1 ∈ covered (addPart offset size parts) := by
      refine ⟨p, present, ?_⟩
      rw [ByteRange.covers_iff]
      omega
    unfold ByteRange.stop
    obtain inNew | ⟨other, otherPresent, inOther⟩ := (covers _).mp lastCovered
    · omega
    · have otherInside := good.inside other otherPresent
      rw [ByteRange.covers_iff] at inOther
      unfold ByteRange.stop at otherInside
      omega

/-! ## The window -/

theorem storeInWindow_eq
    {offset : Nat}
    (data : List UInt8)
    (window : Fifo (Option UInt8))
    (inside : offset + data.length ≤ NAT_TCP_RECV_WINDOW_SIZE) :
    ∃ expanded : Fifo (Option UInt8),
      storeInWindow offset data window =
        expanded.copyInto offset (data.map some) ∧
      offset + (data.map some).length ≤ expanded.fifoSize ∧
      ∀ (position : Nat) (byte : Option UInt8),
        window.contents[position]? = some byte →
          expanded.contents[position]? = some byte := by
  unfold NAT_TCP_RECV_WINDOW_SIZE at inside
  have stop : addUINT offset data.length = offset + data.length :=
    addUINT_of_lt (by unfold X32; omega)
  simp only [storeInWindow, stop, List.length_map]
  by_cases short : window.fifoSize < offset + data.length
  · rw [if_pos short]
    refine ⟨_, rfl, ?_, ?_⟩
    · rw [Fifo.fifoSize_writeFifoNull,
        subUINT_of_le (by omega) (by unfold X32; omega)]
      omega
    · intro position byte present
      obtain ⟨small, _⟩ := List.getElem?_eq_some_iff.mp present
      rw [Fifo.contents_writeFifoNull, List.getElem?_append_left small]
      exact present
  · rw [if_neg short]
    exact ⟨window, rfl, by omega, fun _ _ present => present⟩

theorem getElem?_storeInWindow_inside
    {offset : Nat}
    {data : List UInt8}
    (window : Fifo (Option UInt8))
    (inside : offset + data.length ≤ NAT_TCP_RECV_WINDOW_SIZE)
    {position : Nat}
    (afterStart : offset ≤ position)
    (beforeEnd : position < offset + data.length) :
    (storeInWindow offset data window).contents[position]? =
      some data[position - offset]? := by
  obtain ⟨expanded, same, fits, _⟩ := storeInWindow_eq data window inside
  have small : position - offset < data.length := by omega
  rw [same, Fifo.getElem?_copyInto expanded offset _ fits,
    if_pos ⟨afterStart, by rw [List.length_map]; exact beforeEnd⟩,
    List.getElem?_map, List.getElem?_eq_getElem small, Option.map_some]

theorem getElem?_storeInWindow_outside
    {offset : Nat}
    {data : List UInt8}
    {window : Fifo (Option UInt8)}
    (inside : offset + data.length ≤ NAT_TCP_RECV_WINDOW_SIZE)
    {position : Nat}
    (outside : ¬(offset ≤ position ∧ position < offset + data.length))
    {byte : Option UInt8}
    (before : window.contents[position]? = some byte) :
    (storeInWindow offset data window).contents[position]? = some byte := by
  obtain ⟨expanded, same, fits, kept⟩ := storeInWindow_eq data window inside
  rw [same, Fifo.getElem?_copyInto expanded offset _ fits,
    if_neg (by rw [List.length_map]; exact outside)]
  exact kept position byte before

def IsSlice (stream : List UInt8) (start : Nat) (data : List UInt8) : Prop :=
  start + data.length ≤ stream.length ∧
    data = (stream.drop start).take data.length

instance (stream : List UInt8) (start : Nat) (data : List UInt8) :
    Decidable (IsSlice stream start data) :=
  inferInstanceAs (Decidable (_ ∧ _))

/-- The parts describe received bytes: each is in the window at its own
position, counted from the byte `base` of the stream. -/
def Describes (stream : List UInt8) (base : Nat) (parts : List IpPart)
    (window : Fifo (Option UInt8)) : Prop :=
  ∀ position ∈ covered parts,
    base + position < stream.length ∧
      window.contents[position]? = some stream[base + position]?

/-- Where the reassembly of a stream stands: `handed` has gone to the socket,
`received` are the payload ranges stored so far. -/
structure Progress (stream : List UInt8) (handed : List (Option UInt8))
    (received : List ByteRange) (state : RecvState) : Prop where
  appended :
    handed ++ state.recvFifo.contents =
      (stream.take (handed ++ state.recvFifo.contents).length).map some
  /-- `RecvSeq` counts them, and the SYN. -/
  seq :
    state.recvSeq = (1 + (handed ++ state.recvFifo.contents).length) % X64
  parts : RecvParts state.parts
  bytes :
    Describes stream (handed ++ state.recvFifo.contents).length state.parts
      state.window
  complete : ∀ position, position ∈ covered received ↔
    position < (handed ++ state.recvFifo.contents).length ∨
      (handed ++ state.recvFifo.contents).length ≤ position ∧
        position - (handed ++ state.recvFifo.contents).length ∈
          covered state.parts

theorem describes_storeInWindow
    {stream : List UInt8}
    {base offset : Nat}
    {data : List UInt8}
    {parts : List IpPart}
    {window : Fifo (Option UInt8)}
    (good : RecvParts parts)
    (described : Describes stream base parts window)
    (inside : offset + data.length ≤ NAT_TCP_RECV_WINDOW_SIZE)
    (slice : IsSlice stream (base + offset) data) :
    Describes stream base (addPart offset data.length parts)
      (storeInWindow offset data window) := by
  intro position covered
  by_cases new : offset ≤ position ∧ position < offset + data.length
  · obtain ⟨fits, same⟩ := slice
    refine ⟨by omega, ?_⟩
    rw [getElem?_storeInWindow_inside window inside new.1 new.2, same,
      List.getElem?_take_of_lt (by omega), List.getElem?_drop]
    congr 2
    omega
  · have old := (((addPart_recvParts good inside).2 position).mp
      covered).resolve_left new
    obtain ⟨inStream, byte⟩ := described position old
    exact ⟨inStream, getElem?_storeInWindow_outside inside new byte⟩

theorem Progress.store
    {stream : List UInt8}
    {handed : List (Option UInt8)}
    {received : List ByteRange}
    {state : RecvState}
    {offset : Nat}
    {data : List UInt8}
    (progress : Progress stream handed received state)
    (inside : offset + data.length ≤ NAT_TCP_RECV_WINDOW_SIZE)
    (slice : IsSlice stream
      ((handed ++ state.recvFifo.contents).length + offset) data) :
    Progress stream handed
      (⟨(handed ++ state.recvFifo.contents).length + offset, data.length⟩ ::
        received)
      { state with
        window := storeInWindow offset data state.window
        parts := addPart offset data.length state.parts } := by
  obtain ⟨good, covers⟩ := addPart_recvParts progress.parts inside
  refine ⟨progress.appended, progress.seq, good,
    describes_storeInWindow progress.parts progress.bytes inside slice, ?_⟩
  intro position
  rw [mem_covered_cons, ByteRange.covers_mk, progress.complete position]
  generalize (handed ++ state.recvFifo.contents).length = base
  simp only [covers]
  constructor
  · rintro (new | appended | ⟨later, pending⟩)
    · exact .inr ⟨by omega, .inl (by omega)⟩
    · exact .inl appended
    · exact .inr ⟨later, .inr pending⟩
  · rintro (appended | ⟨later, new | pending⟩)
    · exact .inr (.inl appended)
    · exact .inl (by omega)
    · exact .inr (.inr ⟨later, pending⟩)

/-! ## Extraction -/

private theorem slidParts_eq
    {rest : List IpPart}
    {p : IpPart}
    (good : RecvParts (p :: rest))
    (behind : ∀ other ∈ rest, p.size ≤ other.offset) :
    (rest.map fun other => { other with offset := subUINT other.offset p.size }) =
      rest.map (ByteRange.shiftLeft p.size) := by
  apply List.map_congr_left
  intro other present
  have inside := good.inside other (List.mem_cons_of_mem p present)
  have later := behind other present
  unfold ByteRange.stop NAT_TCP_RECV_WINDOW_SIZE at inside
  rw [subUINT_of_le later (by unfold X32; omega)]
  rfl

private theorem front_eq
    {stream : List UInt8}
    {base : Nat}
    {p : IpPart}
    {rest : List IpPart}
    {window : Fifo (Option UInt8)}
    (atStart : p.offset = 0)
    (described : Describes stream base (p :: rest) window) :
    window.contents.take p.size =
      ((stream.drop base).take p.size).map some := by
  apply List.ext_getElem?
  intro position
  by_cases inside : position < p.size
  · have covered : position ∈ covered (p :: rest) := by
      rw [mem_covered_cons, ByteRange.covers_iff]
      omega
    obtain ⟨inStream, byte⟩ := described position covered
    rw [List.getElem?_take_of_lt inside, byte, List.getElem?_map,
      List.getElem?_take_of_lt inside, List.getElem?_drop,
      List.getElem?_eq_getElem inStream, Option.map_some]
  · rw [List.getElem?_eq_none (by rw [List.length_take]; omega),
      List.getElem?_eq_none (by
        rw [List.length_map, List.length_take]
        omega)]

theorem Progress.reorder
    {stream : List UInt8}
    {handed : List (Option UInt8)}
    {received : List ByteRange}
    {state : RecvState}
    {parts : List IpPart}
    (progress : Progress stream handed received state)
    (reordered : state.parts.Perm parts) :
    Progress stream handed received { state with parts } := by
  refine ⟨progress.appended, progress.seq, ⟨progress.parts.apart.perm reordered,
    ?_, ?_⟩, ?_, ?_⟩
  · exact fun p present =>
      progress.parts.nonempty p (reordered.mem_iff.mpr present)
  · exact fun p present =>
      progress.parts.inside p (reordered.mem_iff.mpr present)
  · exact fun position covered => progress.bytes position
      ((mem_covered_perm reordered position).mpr covered)
  · intro position
    rw [progress.complete position, mem_covered_perm reordered]

theorem Progress.slide
    {stream : List UInt8}
    {handed : List (Option UInt8)}
    {received : List ByteRange}
    {state : RecvState}
    {p : IpPart}
    {rest : List IpPart}
    (progress : Progress stream handed received { state with parts := p :: rest })
    (atStart : p.offset = 0) :
    Progress stream handed received
      { window := state.window.readFifo p.size
        parts := rest.map fun other =>
          { other with offset := subUINT other.offset p.size }
        recvFifo := state.recvFifo.writeFifo (state.window.peekFifo p.size)
        recvSeq := addUINT64 state.recvSeq p.size
        sendAckNext := true } := by
  obtain ⟨appended, seq, good, bytes, complete⟩ := progress
  dsimp only at appended seq good bytes complete
  have restApart : PairwiseApart rest := (List.pairwise_cons.mp good.apart).2
  have restNonempty : ∀ other ∈ rest, other.size ≠ 0 :=
    fun other present => good.nonempty other (List.mem_cons_of_mem p present)
  have behind : ∀ other ∈ rest, p.size ≤ other.offset :=
    fun other present => good.apart.le_offset atStart restNonempty present
  have front := front_eq atStart bytes
  have positive := Nat.pos_of_ne_zero (good.nonempty p (List.mem_cons_self ..))
  have lastInStream := (bytes (p.size - 1) (by
    rw [mem_covered_cons, ByteRange.covers_iff]
    omega)).1
  have grown :
      handed ++ (state.recvFifo.writeFifo
        (state.window.peekFifo p.size)).contents =
        (handed ++ state.recvFifo.contents) ++
          ((stream.drop (handed ++ state.recvFifo.contents).length).take
            p.size).map some := by
    rw [Fifo.contents_writeFifo, Fifo.peekFifo, front, List.append_assoc]
  have grownLength :
      (handed ++ (state.recvFifo.writeFifo
        (state.window.peekFifo p.size)).contents).length =
        (handed ++ state.recvFifo.contents).length + p.size := by
    rw [grown, List.length_append, List.length_map, List.length_take,
      List.length_drop]
    omega
  rw [slidParts_eq good behind]
  refine ⟨?_, ?_, ⟨?_, ?_, ?_⟩, ?_, ?_⟩
  · rw [grownLength, List.take_add, List.map_append, ← appended]
    exact grown
  · rw [grownLength]
    dsimp only
    rw [seq, addUINT64, X64]
    omega
  · exact restApart.shiftLeft behind
  · intro shifted present
    obtain ⟨other, otherPresent, rfl⟩ := List.mem_map.mp present
    exact restNonempty other otherPresent
  · intro shifted present
    obtain ⟨other, otherPresent, rfl⟩ := List.mem_map.mp present
    have inside := good.inside other (List.mem_cons_of_mem p otherPresent)
    unfold ByteRange.stop at inside ⊢
    unfold ByteRange.shiftLeft
    dsimp only
    omega
  · intro position covered
    rw [mem_covered_shiftLeft behind] at covered
    obtain ⟨inStream, byte⟩ := bytes (p.size + position)
      ((mem_covered_cons p rest _).mpr (.inr covered))
    rw [grownLength, Fifo.contents_readFifo, List.getElem?_drop, byte,
      Nat.add_assoc]
    exact ⟨by omega, rfl⟩
  · intro position
    rw [complete position, grownLength]
    simp only [mem_covered_cons, ByteRange.covers_iff, mem_covered_shiftLeft behind]
    generalize (handed ++ state.recvFifo.contents).length = base
    constructor
    · rintro (before | ⟨later, inFront | inRest⟩)
      · exact .inl (by omega)
      · exact .inl (by omega)
      · obtain ⟨other, present, inside⟩ := inRest
        have otherLater := behind other present
        rw [ByteRange.covers_iff] at inside
        refine .inr ⟨by omega, other, present, ?_⟩
        rw [ByteRange.covers_iff]
        omega
    · rintro (before | ⟨later, inRest⟩)
      · by_cases old : position < base
        · exact .inl old
        · exact .inr ⟨by omega, .inl (by omega)⟩
      · refine .inr ⟨by omega, .inr ?_⟩
        rwa [show p.size + (position - (base + p.size)) = position - base by
          omega] at inRest

theorem extractFirst_progress
    {stream : List UInt8}
    {handed : List (Option UInt8)}
    {received : List ByteRange}
    {state after : RecvState}
    (progress : Progress stream handed received state)
    (extracted : extractFirst state = some after) :
    Progress stream handed received after ∧
      after.parts.length + 1 = state.parts.length := by
  unfold extractFirst at extracted
  cases found : state.parts.find? fun p => p.offset = 0 with
  | none =>
      rw [found] at extracted
      cases extracted
  | some p =>
      rw [found] at extracted
      simp only [Option.some.injEq] at extracted
      subst extracted
      have present := List.mem_of_find?_eq_some found
      have atStart : p.offset = 0 := by
        simpa using List.find?_some found
      have reordered := List.perm_cons_erase present
      refine ⟨(progress.reorder reordered).slide atStart, ?_⟩
      rw [List.length_map, reordered.length_eq, List.length_cons]

theorem offset_ne_zero_of_extractFirst_eq_none
    {state : RecvState}
    (nothing : extractFirst state = none)
    {p : IpPart}
    (present : p ∈ state.parts) :
    p.offset ≠ 0 := by
  unfold extractFirst at nothing
  cases found : state.parts.find? fun p => p.offset = 0 with
  | none => simpa using List.find?_eq_none.mp found p present
  | some p =>
      rw [found] at nothing
      cases nothing

theorem scanFirst_progress
    {stream : List UInt8}
    {handed : List (Option UInt8)}
    {received : List ByteRange}
    {fuel : Nat}
    {state : RecvState}
    (progress : Progress stream handed received state)
    (enough : state.parts.length ≤ fuel) :
    Progress stream handed received (scanFirst fuel state) ∧
      ∀ p ∈ (scanFirst fuel state).parts, p.offset ≠ 0 := by
  induction fuel generalizing state with
  | zero =>
      have blank : state.parts = [] := List.length_eq_zero_iff.mp (by omega)
      refine ⟨progress, fun p present => ?_⟩
      simp only [scanFirst, blank] at present
      cases present
  | succ fuel inductionHypothesis =>
      simp only [scanFirst]
      cases extracted : extractFirst state with
      | none =>
          exact ⟨progress,
            fun p present =>
              offset_ne_zero_of_extractFirst_eq_none extracted present⟩
      | some after =>
          obtain ⟨kept, fewer⟩ := extractFirst_progress progress extracted
          exact inductionHypothesis kept (by omega)

/-! ## Runs -/

/-- The receiving side as extraction sees it. -/
def RecvSide.state (side : RecvSide) : RecvState :=
  { window := side.window
    parts := side.parts
    recvFifo := side.recvFifo
    recvSeq := side.recvSeq
    sendAckNext := false }

theorem storeData_progress
    {stream : List UInt8}
    {handed : List (Option UInt8)}
    {received : List ByteRange}
    {n : NatEntry}
    {offset : Nat}
    {data : List UInt8}
    (progress : Progress stream handed received n.tcb.recv.state)
    (inside : offset + data.length ≤ NAT_TCP_RECV_WINDOW_SIZE)
    (slice : IsSlice stream
      ((handed ++ n.recvFifo.contents).length + offset) data) :
    Progress stream handed
      (⟨(handed ++ n.recvFifo.contents).length + offset, data.length⟩ :: received)
      (storeData offset data n).tcb.recv.state ∧
    ∀ p ∈ (storeData offset data n).parts, p.offset ≠ 0 := by
  have stored : Progress stream handed
      (⟨(handed ++ n.recvFifo.contents).length + offset, data.length⟩ :: received)
      { window := storeInWindow offset data n.window
        parts := addPart offset data.length n.parts
        recvFifo := n.recvFifo
        recvSeq := n.recvSeq
        sendAckNext := n.sendAckNext } := by
    obtain ⟨appended, seq, parts, bytes, complete⟩ := progress.store inside slice
    exact ⟨appended, seq, parts, bytes, complete⟩
  obtain ⟨scanned, longest⟩ := scanFirst_progress stored (Nat.le_refl _)
  refine ⟨?_, longest⟩
  obtain ⟨appended, seq, parts, bytes, complete⟩ := scanned
  unfold storeData
  rw [tcb_mk]
  exact ⟨appended, seq, parts, bytes, complete⟩

/-- What holds of a session while it reassembles a stream. -/
structure Assembled (stream : List UInt8) (session : Session) : Prop where
  /-- Appended, pending and received bytes agree with the stream. -/
  progress :
    Progress stream session.handed session.received session.entry.tcb.recv.state
  /-- Nothing that could be appended is pending. -/
  longest : ∀ p ∈ session.entry.parts, p.offset ≠ 0

theorem Assembled.seq
    {stream : List UInt8}
    {session : Session}
    (assembled : Assembled stream session) :
    session.entry.recvSeq = (1 + session.appended.length) % X64 :=
  assembled.progress.seq

theorem Assembled.appended_eq
    {stream : List UInt8}
    {session : Session}
    (assembled : Assembled stream session) :
    session.appended = (stream.take session.appended.length).map some :=
  assembled.progress.appended

theorem Assembled.received_iff
    {stream : List UInt8}
    {session : Session}
    (assembled : Assembled stream session)
    (position : Nat) :
    position ∈ covered session.received ↔
      position < session.appended.length ∨
        session.appended.length ≤ position ∧
          position - session.appended.length ∈ covered session.entry.parts :=
  assembled.progress.complete position

theorem Assembled.next_not_received
    {stream : List UInt8}
    {session : Session}
    (assembled : Assembled stream session) :
    session.appended.length ∉ covered session.received := by
  intro next
  obtain before | ⟨_, p, present, inside⟩ := (assembled.received_iff _).mp next
  · exact absurd before (Nat.lt_irrefl _)
  · rw [Nat.sub_self, ByteRange.covers_iff] at inside
    exact assembled.longest p present (by omega)

/-- Every payload that a step stores is a slice of the stream at the position
where it is stored. -/
def AcceptsSlices (stream : List UInt8) (session : Session) : Event → Prop
  | .segment _ tcp data =>
      ∀ offset, acceptedOffset session.entry tcp data.length = some offset →
        offset + data.length ≤ NAT_TCP_RECV_WINDOW_SIZE ∧
          IsSlice stream (session.appended.length + offset) data
  | .poll _ => True
  | .transact _ _ _ => True

theorem Assembled.step
    {v : VirtualHost}
    {stream : List UInt8}
    {session after : Session}
    {event : Event}
    (assembled : Assembled stream session)
    (accepts : AcceptsSlices stream session event)
    (stepped : step v session event = some after) :
    Assembled stream after := by
  obtain ⟨fifo, side, sameAppended, sameReceived⟩ |
    ⟨now, tcp, data, offset, middle, rfl, accepted, same, side, handed, received⟩ :=
      step_recv stepped
  · have parts : after.entry.parts = session.entry.parts :=
      congrArg RecvSide.parts side
    have contents : after.entry.recvFifo = fifo :=
      congrArg RecvSide.recvFifo side
    obtain ⟨appended, seq, good, bytes, complete⟩ := assembled.progress
    unfold Session.appended at sameAppended
    rw [contents] at sameAppended
    refine ⟨?_, by rw [parts]; exact assembled.longest⟩
    rw [side, sameReceived]
    refine ⟨?_, ?_, good, ?_, ?_⟩
    all_goals
      simp only [RecvSide.state]
      rw [sameAppended]
    · exact appended
    · exact seq
    · exact bytes
    · exact complete
  · obtain ⟨inside, slice⟩ := accepts offset accepted
    have fifo : middle.recvFifo = session.entry.recvFifo :=
      congrArg RecvSide.recvFifo same
    have progress : Progress stream session.handed session.received
        middle.tcb.recv.state := by
      rw [same]
      exact assembled.progress
    unfold Session.appended at slice received
    rw [← fifo] at slice received
    obtain ⟨stored, longest⟩ := storeData_progress progress inside slice
    refine ⟨?_, ?_⟩
    · rw [handed, received, side]
      exact stored
    · have parts : after.entry.parts = (storeData offset data middle).parts :=
        congrArg RecvSide.parts side
      rw [parts]
      exact longest

theorem assembled_start
    (stream : List UInt8)
    (v : VirtualHost)
    (now rand : Nat)
    (srcIp srcPort destIp destPort : UInt32)
    (syn : TcpHeader) :
    Assembled stream
      (Session.start v now rand srcIp srcPort destIp destPort syn) := by
  refine ⟨?_, fun p present => nomatch present⟩
  rw [start_tcb]
  refine ⟨rfl, rfl, ⟨List.Pairwise.nil, ?_, ?_⟩, ?_, ?_⟩
  · exact fun p present => nomatch present
  · exact fun p present => nomatch present
  · exact fun position ⟨p, present, _⟩ => nomatch present
  · intro position
    constructor
    · exact fun ⟨p, present, _⟩ => nomatch present
    · rintro (before | ⟨_, p, present, _⟩)
      · exact absurd before (Nat.not_lt_zero position)
      · exact nomatch present

/-- A segment names the position `start` of the client's stream. -/
def NamesPosition (n : NatEntry) (tcp : TcpHeader) (start : Nat) : Prop :=
  tcp.seqNumber.toNat = (n.recvSeqInit + 1 + start) % X32

instance (n : NatEntry) (tcp : TcpHeader) (start : Nat) :
    Decidable (NamesPosition n tcp start) :=
  inferInstanceAs (Decidable (_ = _))

theorem recvNext_of_recvSeq
    {n : NatEntry}
    {base : Nat}
    (seq : n.recvSeq = (1 + base) % X64) :
    recvNext n = (n.recvSeqInit + 1 + base) % X32 := by
  unfold recvNext addUINT64
  rw [seq]
  unfold X64 X32
  omega

theorem recvWindowOffset_inside
    {n : NatEntry}
    {tcp : TcpHeader}
    {base start size offset : Nat}
    (bounded : n.tcb.recv.Bounded)
    (seq : n.recvSeq = (1 + base) % X64)
    (names : NamesPosition n tcp start)
    (afterBase : base ≤ start)
    (beforeEnd : start + size ≤ base + NAT_TCP_RECV_WINDOW_SIZE)
    (stored : recvWindowOffset n tcp.seqNumber.toNat size = some offset) :
    offset = start - base := by
  have next := recvNext_of_recvSeq seq
  have seqBound : n.recvSeq < X64 := bounded.seq
  unfold NamesPosition at names
  unfold NAT_TCP_RECV_WINDOW_SIZE at beforeEnd
  have distance : ahead n tcp.seqNumber.toNat = start - base := by
    unfold ahead subUINT
    rw [next, names]
    unfold X32
    omega
  have new : ¬IsOld n tcp.seqNumber.toNat := by
    unfold IsOld
    rw [next, names]
    unfold X32
    omega
  unfold recvWindowOffset at stored
  rw [seq64_of_not_old tcp.seqNumber.toNat_lt new, distance] at stored
  split at stored
  · rename_i inWindow
    split at stored
    · rw [Option.some.injEq] at stored
      rw [← stored]
      unfold subUINT64 X32 X64 at *
      omega
    · cases stored
  · cases stored

/-- A segment that carries a slice of the stream inside the window. -/
def InWindowSlice (stream : List UInt8) (session : Session) : Event → Prop
  | .segment _ tcp data =>
      ∃ start, NamesPosition session.entry tcp start ∧
        IsSlice stream start data ∧
        session.appended.length ≤ start ∧
        start + data.length ≤
          session.appended.length + NAT_TCP_RECV_WINDOW_SIZE
  | .poll _ => True
  | .transact _ _ _ => True

theorem InWindowSlice.acceptsSlices
    {stream : List UInt8}
    {session : Session}
    {event : Event}
    (assembled : Assembled stream session)
    (bounded : session.entry.tcb.recv.Bounded)
    (inWindow : InWindowSlice stream session event) :
    AcceptsSlices stream session event := by
  cases event with
  | segment now tcp data =>
      obtain ⟨start, names, slice, afterBase, beforeEnd⟩ := inWindow
      intro offset accepted
      unfold acceptedOffset at accepted
      split at accepted
      · have same := recvWindowOffset_inside bounded assembled.seq names
          afterBase beforeEnd accepted
        subst same
        refine ⟨by omega, ?_⟩
        rwa [Nat.add_sub_cancel' afterBase]
      · cases accepted
  | poll now => trivial
  | transact now connect socket => trivial

end NatTcp
end SoftEther
