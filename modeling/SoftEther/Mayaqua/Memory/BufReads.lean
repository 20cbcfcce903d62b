import SoftEther.Mayaqua.Memory.BufBlock

/-!
# What readers of a buffer rely on

A read takes the bytes between the cursor before and the cursor after it.  `ReadBuf`
and `ReadBufStr` add up cursor and sizes as `UINT`s, so that a size from the wire can
carry the sum over the largest one.
-/

namespace SoftEther
namespace Memory

open Library

variable (fresh : FreshMemory)

/-- A read from `b` leads to `after` and takes these bytes: the cursor stays in the bytes
in use, does not go back, and the bytes are those between the two cursors. -/
structure Takes (b after : BUF) (bytes : List UInt8) : Prop where
  buf : after.buf = b.buf
  size : after.size = b.size
  forward : b.current ≤ after.current
  inside : after.current ≤ after.size
  between : bytes = b.unread.take (after.current - b.current)

/-- `ReadBuf` takes what it says it has read, no more than there was and no more than was
asked for, and stores exactly these bytes; zeros fill the rest of the caller's memory. -/
def ReadsBlock (b : BUF) (stored : Bool) (size : Nat) : Prop :=
  ∃ read after bytes, ReadBuf b stored size = .ok (read, after) ∧
    Takes b after bytes ∧ bytes.length = read.sizeRead ∧
    read.sizeRead ≤ size ∧ read.sizeRead ≤ b.size - b.current ∧
    read.buf = if stored then bytes ++ List.replicate (size - bytes.length) 0 else []

/-- `ReadBufStr` takes a length field, the body of the string that it stores and what it
skips.  The caller's memory holds the body, with zeros behind it, and stays as it was
from there on. -/
def ReadsString (b : BUF) (str : List UInt8) (size : Nat) : Prop :=
  ∃ done after filled field body skipped zeros,
    ReadBufStr b str size = .ok (done, filled, after) ∧
    Takes b after (field ++ (body ++ skipped)) ∧
    (size ≠ 0 → field.length = min 4 (b.size - b.current)) ∧
    body.length + zeros ≤ size ∧
    filled = body ++ List.replicate zeros 0 ++ str.drop (body.length + zeros) ∧
    (done = true → zeros = 1)

/-- `SeekBuf` moves nothing but the cursor, and keeps it in the bytes in use. -/
def Seeks (b : BUF) (offset : Nat) (mode : Int) : Prop :=
  (SeekBuf b offset mode).buf = b.buf ∧ (SeekBuf b offset mode).size = b.size ∧
    (SeekBuf b offset mode).current ≤ b.size

/-! ## When it holds -/

/-- The number in front of a string; zero when there is none. -/
def lengthField (b : BUF) : Nat :=
  if 4 ≤ b.unread.length then fromBigEndian (b.unread.take 4) else 0

/-- The length of the string behind that number. -/
def stringLen (b : BUF) : Nat :=
  lengthField b - 1

/-- The part of the string for which the caller has room. -/
def bodySize (b : BUF) (size : Nat) : Nat :=
  min (stringLen b) (size - 1)

/-- The sums that `ReadBufStr` builds stay `UINT`s: the cursor behind the body that is
read and, when the buffer holds this body, the cursor behind the whole string. -/
def StringFits (b : BUF) (size : Nat) : Prop :=
  size = 0 ∨ lengthField b = 0 ∨
    (b.current + 4 + bodySize b size < 4294967296 ∧
      (b.current + 4 + bodySize b size ≤ b.size → b.current + 4 + stringLen b < 4294967296))

instance (b : BUF) (size : Nat) : Decidable (StringFits b size) :=
  inferInstanceAs (Decidable (_ ∨ _ ∨ (_ ∧ (_ → _))))

section

variable {b : BUF}

theorem takes_unread
    (wellFormed : b.WellFormed)
    (size : Nat) :
    Takes b (b.skip size) (b.unread.take size) where
  buf := rfl
  size := rfl
  forward := Nat.le_add_right _ _
  inside := by
    have cursor := wellFormed.cursor
    change b.current + min size (b.size - b.current) ≤ b.size
    omega
  between := by
    rw [BUF.skip, Nat.add_sub_cancel_left, ← wellFormed.length_unread, List.take_eq_take_iff]
    omega

theorem readsBlock_iff
    (wellFormed : b.WellFormed)
    (stored : Bool)
    (size : UInt32) :
    ReadsBlock b stored size.toNat ↔ b.current + size.toNat < 4294967296 := by
  have small : size.toNat < 4294967296 := size.toNat_lt
  have cursor := wellFormed.cursor
  have sizeLe := wellFormed.size_le
  constructor
  · rintro ⟨read, after, bytes, ran, takes, -⟩
    by_contra wraps
    obtain ⟨outside, back⟩ := ReadBuf_of_wraps wellFormed small (by omega)
    have forward := takes.forward
    cases stored with
    | true =>
        rw [outside] at ran
        cases ran
    | false =>
        rw [back] at ran
        injection ran with same
        rw [← (Prod.mk.inj same).2] at forward
        dsimp only at forward
        omega
  · intro fits
    have length : (b.unread.take size.toNat).length = min size.toNat (b.size - b.current) := by
      rw [List.length_take, wellFormed.length_unread]
    refine ⟨_, _, b.unread.take size.toNat, ReadBuf_of_lt wellFormed fits stored,
      takes_unread wellFormed size.toNat, length, Nat.min_le_left _ _, Nat.min_le_right _ _, ?_⟩
    have rest : size.toNat - min size.toNat (b.size - b.current) =
        size.toNat - (b.size - b.current) := by
      omega
    rw [length, rest]

/-- Two reads in a row take the bytes of both. -/
theorem Takes.append
    {middle after : BUF}
    {first second : List UInt8}
    (one : Takes b middle first)
    (other : Takes middle after second) :
    Takes b after (first ++ second) where
  buf := other.buf.trans one.buf
  size := other.size.trans one.size
  forward := one.forward.trans other.forward
  inside := other.inside
  between := by
    have forward := one.forward
    have further := other.forward
    have behind : middle.unread = b.unread.drop (middle.current - b.current) := by
      rw [BUF.unread, BUF.contents, one.buf, one.size, BUF.unread, List.drop_drop,
        Nat.add_sub_cancel' forward]
      rfl
    rw [one.between, other.between, behind, ← List.take_add]
    congr 1
    omega

theorem Takes.wellFormed
    {after : BUF}
    {bytes : List UInt8}
    (wellFormed : b.WellFormed)
    (takes : Takes b after bytes)
    (reserved : after.sizeReserved = b.sizeReserved) :
    after.WellFormed where
  block := by rw [takes.buf, reserved, wellFormed.block]
  doubled := by
    rw [reserved]
    exact wellFormed.doubled
  inside := by
    rw [takes.size, reserved]
    exact wellFormed.inside
  cursor := takes.inside

theorem ReadBufInt_eq
    (wellFormed : b.WellFormed) :
    ReadBufInt b = .ok (lengthField b, b.skip 4) := by
  have cursor := wellFormed.cursor
  have sizeLe := wellFormed.size_le
  have fits : b.current + 4 < 4294967296 := by omega
  rw [ReadBufInt, ReadBuf_of_lt wellFormed fits true]
  change Except.ok (ite _ _ _, _) = _
  unfold lengthField
  rw [wellFormed.length_unread]
  by_cases enough : 4 ≤ b.size - b.current
  · have whole : 4 - (b.size - b.current) = 0 := by omega
    rw [if_pos enough, if_pos (Nat.min_eq_left enough), if_pos rfl, whole,
      List.replicate_zero, List.append_nil]
  · have short : ¬min 4 (b.size - b.current) = 4 := by omega
    rw [if_neg enough, if_neg short]

/-- Behind the number in front of a string. -/
def behindLength (b : BUF) : BUF :=
  b.skip 4

theorem takes_length
    (wellFormed : b.WellFormed) :
    Takes b (behindLength b) (b.unread.take 4) :=
  takes_unread wellFormed 4

theorem behindLength_wellFormed
    (wellFormed : b.WellFormed) :
    (behindLength b).WellFormed :=
  (takes_length wellFormed).wellFormed wellFormed rfl

/-- A number in front of a string is in the buffer as a whole. -/
theorem behindLength_current
    (wellFormed : b.WellFormed)
    (announced : lengthField b ≠ 0) :
    (behindLength b).current = b.current + 4 ∧ b.current + 4 ≤ b.size := by
  have enough : 4 ≤ b.unread.length := by
    by_contra short
    exact announced (if_neg short)
  rw [wellFormed.length_unread] at enough
  constructor
  · rw [behindLength, BUF.skip, Nat.min_eq_left enough]
  · omega

variable {size : Nat}

theorem ReadBufStr_eq
    (wellFormed : b.WellFormed)
    (str : List UInt8)
    (nonzero : size ≠ 0)
    (announced : lengthField b ≠ 0) :
    ReadBufStr b str size =
      ReadBuf (behindLength b) true (bodySize b size) >>= fun result =>
        if result.1.sizeRead ≠ bodySize b size then
          .ok (false, copyAt str 0 result.1.buf, result.2)
        else
          (if bodySize b size < stringLen b then
            (ReadBuf result.2 false (stringLen b - bodySize b size)).map Prod.snd
          else .ok result.2) >>= fun after =>
            .ok (true, copyAt (copyAt str 0 result.1.buf) (bodySize b size) [0], after) := by
  have same :
      min (lengthField b - 1)
        ((if lengthField b - 1 ≤ size - 1 then lengthField b - 1 + 1 else size) - 1) =
      bodySize b size := by
    unfold bodySize stringLen
    split
    case isTrue => omega
    case isFalse => rfl
  rw [ReadBufStr, if_neg nonzero, ReadBufInt_eq wellFormed]
  change (if lengthField b = 0 then _ else _) = _
  rw [if_neg announced, same]
  rfl

theorem copyAt_zero (str data : List UInt8) :
    copyAt str 0 data = data ++ str.drop data.length := by
  rw [copyAt, List.take_zero, List.nil_append, Nat.zero_add]

theorem copyAt_terminate (body str : List UInt8) :
    copyAt (body ++ str.drop body.length) body.length [0] =
      body ++ List.replicate 1 0 ++ str.drop (body.length + 1) := by
  rw [copyAt, List.take_left, List.drop_append, List.drop_eq_nil_of_le (by simp),
    List.drop_drop]
  simp

theorem readsString_of_none
    (wellFormed : b.WellFormed)
    (str : List UInt8)
    (nonzero : size ≠ 0)
    (none : lengthField b = 0) :
    ReadsString b str size := by
  refine ⟨false, behindLength b, str, b.unread.take 4, [], [], 0, ?_, ?_, ?_, ?_, ?_, ?_⟩
  · rw [ReadBufStr, if_neg nonzero, ReadBufInt_eq wellFormed]
    change (if lengthField b = 0 then _ else _) = _
    rw [if_pos none]
    rfl
  · rw [List.append_nil, List.append_nil]
    exact takes_length wellFormed
  · intro _
    rw [List.length_take, wellFormed.length_unread]
  · exact Nat.zero_le _
  · rfl
  · intro impossible
    cases impossible

/-- A body of which the buffer holds only a part is stored with zeros behind it. -/
theorem readsString_of_short
    (wellFormed : b.WellFormed)
    (str : List UInt8)
    (nonzero : size ≠ 0)
    (announced : lengthField b ≠ 0)
    (fits : b.current + 4 + bodySize b size < 4294967296)
    (short : b.size < b.current + 4 + bodySize b size) :
    ReadsString b str size := by
  obtain ⟨current, enough⟩ := behindLength_current wellFormed announced
  have cut : (behindLength b).size - (behindLength b).current < bodySize b size := by
    rw [current]
    change b.size - (b.current + 4) < _
    omega
  have taken := takes_unread (behindLength_wellFormed wellFormed) (bodySize b size)
  have lengthBody : ((behindLength b).unread.take (bodySize b size)).length =
      (behindLength b).size - (behindLength b).current := by
    rw [List.length_take, (behindLength_wellFormed wellFormed).length_unread]
    omega
  have total : (behindLength b).size - (behindLength b).current +
      (bodySize b size - ((behindLength b).size - (behindLength b).current)) =
      bodySize b size := by
    omega
  have room : bodySize b size ≤ size := by
    unfold bodySize
    omega
  refine ⟨false, (behindLength b).skip (bodySize b size), _, b.unread.take 4,
    (behindLength b).unread.take (bodySize b size), [],
    bodySize b size - ((behindLength b).size - (behindLength b).current), ?_, ?_, ?_, ?_, rfl, ?_⟩
  · rw [ReadBufStr_eq wellFormed str nonzero announced,
      ReadBuf_of_lt (behindLength_wellFormed wellFormed) (by rw [current]; exact fits) true]
    change (if min (bodySize b size) _ ≠ _ then _ else _) = _
    rw [if_pos (by omega), copyAt_zero, if_pos rfl, List.length_append, List.length_replicate,
      lengthBody]
  · rw [List.append_nil]
    exact (takes_length wellFormed).append taken
  · intro _
    rw [List.length_take, wellFormed.length_unread]
  · rw [lengthBody, total]
    exact room
  · intro impossible
    cases impossible

/-- The buffer when the body was read as a whole. -/
def behindBody (b : BUF) (size : Nat) : BUF :=
  { b with current := b.current + 4 + bodySize b size }

theorem ReadBuf_body
    (wellFormed : b.WellFormed)
    (announced : lengthField b ≠ 0)
    (whole : b.current + 4 + bodySize b size ≤ b.size) :
    ReadBuf (behindLength b) true (bodySize b size) =
        .ok (⟨bodySize b size, (behindLength b).unread.take (bodySize b size)⟩,
          behindBody b size) ∧
      Takes (behindLength b) (behindBody b size)
        ((behindLength b).unread.take (bodySize b size)) ∧
      ((behindLength b).unread.take (bodySize b size)).length = bodySize b size ∧
      (behindBody b size).WellFormed := by
  have sizeLe := wellFormed.size_le
  obtain ⟨current, enough⟩ := behindLength_current wellFormed announced
  have held : bodySize b size ≤ (behindLength b).size - (behindLength b).current := by
    rw [current]
    change _ ≤ b.size - (b.current + 4)
    omega
  have moved : (behindLength b).skip (bodySize b size) = behindBody b size := by
    rw [BUF.skip, Nat.min_eq_left held, current]
    rfl
  have taken := takes_unread (behindLength_wellFormed wellFormed) (bodySize b size)
  rw [moved] at taken
  refine ⟨?_, taken, ?_, wellFormed.seek whole⟩
  · rw [ReadBuf_of_lt (behindLength_wellFormed wellFormed) (by rw [current]; omega) true, moved,
      Nat.min_eq_left held, if_pos rfl, Nat.sub_eq_zero_of_le held, List.replicate_zero,
      List.append_nil]
  · rw [List.length_take, (behindLength_wellFormed wellFormed).length_unread]
    exact Nat.min_eq_left held

theorem ReadBufStr_whole
    (wellFormed : b.WellFormed)
    (str : List UInt8)
    (nonzero : size ≠ 0)
    (announced : lengthField b ≠ 0)
    (whole : b.current + 4 + bodySize b size ≤ b.size) :
    ReadBufStr b str size =
      (if bodySize b size < stringLen b then
        (ReadBuf (behindBody b size) false (stringLen b - bodySize b size)).map Prod.snd
      else .ok (behindBody b size)) >>= fun after =>
        .ok (true,
          (behindLength b).unread.take (bodySize b size) ++ List.replicate 1 0 ++
            str.drop (bodySize b size + 1),
          after) := by
  obtain ⟨read, _, length, _⟩ := ReadBuf_body wellFormed announced whole
  have stored := copyAt_terminate ((behindLength b).unread.take (bodySize b size)) str
  rw [length] at stored
  rw [ReadBufStr_eq wellFormed str nonzero announced, read]
  change (if bodySize b size ≠ bodySize b size then _ else _) = _
  rw [if_neg (not_not_intro rfl), copyAt_zero, length, stored]

theorem readsString_of_whole
    (wellFormed : b.WellFormed)
    (str : List UInt8)
    (nonzero : size ≠ 0)
    (announced : lengthField b ≠ 0)
    (whole : b.current + 4 + bodySize b size ≤ b.size)
    (fits : b.current + 4 + stringLen b < 4294967296) :
    ReadsString b str size := by
  obtain ⟨_, taken, length, kept⟩ := ReadBuf_body wellFormed announced whole
  have less : bodySize b size ≤ stringLen b := Nat.min_le_left _ _
  have room : bodySize b size + 1 ≤ size := by
    unfold bodySize
    omega
  have field := takes_length wellFormed
  have lengthTaken : (b.unread.take 4).length = min 4 (b.size - b.current) := by
    rw [List.length_take, wellFormed.length_unread]
  -- what is behind the body is skipped
  obtain ⟨after, skipped, rest, ran⟩ : ∃ after skipped,
      Takes (behindBody b size) after skipped ∧
      (if bodySize b size < stringLen b then
        (ReadBuf (behindBody b size) false (stringLen b - bodySize b size)).map Prod.snd
      else .ok (behindBody b size)) = .ok after := by
    by_cases longer : bodySize b size < stringLen b
    · have sum : (behindBody b size).current + (stringLen b - bodySize b size) < 4294967296 := by
        change b.current + 4 + bodySize b size + _ < _
        omega
      rw [if_pos longer, ReadBuf_of_lt kept sum false]
      exact ⟨_, _, takes_unread kept _, rfl⟩
    · rw [if_neg longer]
      refine ⟨_, (behindBody b size).unread.take 0, ?_, rfl⟩
      have nothing := takes_unread kept 0
      rw [BUF.skip, Nat.zero_min] at nothing
      exact nothing
  refine ⟨true, after, _, b.unread.take 4, (behindLength b).unread.take (bodySize b size),
    skipped, 1, ?_, field.append (taken.append rest), fun _ => lengthTaken, ?_, rfl,
    fun _ => rfl⟩
  · rw [ReadBufStr_whole wellFormed str nonzero announced whole, ran, length]
    rfl
  · rw [length]
    exact room

theorem ReadBufStr_of_body_wraps
    (wellFormed : b.WellFormed)
    (str : List UInt8)
    (nonzero : size ≠ 0)
    (announced : lengthField b ≠ 0)
    (small : bodySize b size < 4294967296)
    (wraps : 4294967296 ≤ b.current + 4 + bodySize b size) :
    ReadBufStr b str size = .error .outside := by
  obtain ⟨current, _⟩ := behindLength_current wellFormed announced
  obtain ⟨outside, _⟩ := ReadBuf_of_wraps (behindLength_wellFormed wellFormed) small
    (by rw [current]; exact wraps)
  rw [ReadBufStr_eq wellFormed str nonzero announced, outside]
  rfl

theorem ReadBufStr_of_skip_wraps
    (wellFormed : b.WellFormed)
    (str : List UInt8)
    (nonzero : size ≠ 0)
    (announced : lengthField b ≠ 0)
    (whole : b.current + 4 + bodySize b size ≤ b.size)
    (small : stringLen b < 4294967296)
    (wraps : 4294967296 ≤ b.current + 4 + stringLen b) :
    ∃ filled,
      ReadBufStr b str size =
        .ok (true, filled, { b with current := b.current + 4 + stringLen b - 4294967296 }) := by
  have sizeLe := wellFormed.size_le
  obtain ⟨_, _, _, kept⟩ := ReadBuf_body wellFormed announced whole
  have longer : bodySize b size < stringLen b := by omega
  have sum : (behindBody b size).current + (stringLen b - bodySize b size) =
      b.current + 4 + stringLen b := by
    change b.current + 4 + bodySize b size + _ = _
    omega
  have skipSmall : stringLen b - bodySize b size < 4294967296 := by omega
  obtain ⟨_, back⟩ := ReadBuf_of_wraps kept skipSmall (by rw [sum]; exact wraps)
  rw [ReadBufStr_whole wellFormed str nonzero announced whole, if_pos longer, back, sum]
  exact ⟨_, rfl⟩

/-- The number in front of a string is a `UINT`. -/
theorem lengthField_lt (b : BUF) : lengthField b < 4294967296 := by
  unfold lengthField
  split
  case isTrue enough =>
    have number := fromBigEndian_lt (b.unread.take 4)
    rw [List.length_take, Nat.min_eq_left enough] at number
    exact number
  case isFalse => decide

theorem readsString_iff
    (wellFormed : b.WellFormed)
    (str : List UInt8)
    (size : UInt32) :
    ReadsString b str size.toNat ↔ StringFits b size.toNat := by
  have lengthSmall := lengthField_lt b
  have less : bodySize b size.toNat ≤ stringLen b := Nat.min_le_left _ _
  have lenSmall : stringLen b < 4294967296 := by
    unfold stringLen
    omega
  by_cases zero : size.toNat = 0
  · refine iff_of_true ?_ (.inl zero)
    rw [zero]
    refine ⟨false, b, str, [], [], [], 0, rfl, ?_, by simp, le_rfl, by simp, by simp⟩
    exact
      { buf := rfl, size := rfl, forward := le_rfl, inside := wellFormed.cursor
        between := by simp }
  by_cases none : lengthField b = 0
  · exact iff_of_true (readsString_of_none wellFormed str zero none) (.inr (.inl none))
  constructor
  · rintro ⟨done, after, filled, field, body, skipped, zeros, ran, takes, lengthOf, -⟩
    refine .inr (.inr ⟨?_, ?_⟩)
    · by_contra wraps
      rw [ReadBufStr_of_body_wraps wellFormed str zero none (by omega) (by omega)] at ran
      cases ran
    · intro whole
      by_contra wraps
      obtain ⟨_, back⟩ := ReadBufStr_of_skip_wraps wellFormed str zero none whole lenSmall
        (by omega)
      rw [back] at ran
      cases ran
      -- four bytes do not lie between the two cursors
      obtain ⟨_, enough⟩ := behindLength_current wellFormed none
      have between := congrArg List.length takes.between
      rw [List.length_append, lengthOf zero, List.length_take, wellFormed.length_unread] at between
      dsimp only at between
      omega
  · intro fits
    obtain ⟨bodyFits, skipFits⟩ := (fits.resolve_left zero).resolve_left none
    by_cases whole : b.current + 4 + bodySize b size.toNat ≤ b.size
    · exact readsString_of_whole wellFormed str zero none whole (skipFits whole)
    · exact readsString_of_short wellFormed str zero none bodyFits (by omega)

theorem seeks (b : BUF) (offset : Nat) (mode : Int) : Seeks b offset mode :=
  ⟨rfl, rfl, Nat.min_le_right _ _⟩

/-! ## Buffers as lists of bytes -/

/-- The bytes behind a cursor that moved on. -/
theorem unread_skip
    (wellFormed : b.WellFormed)
    (size : Nat) :
    (b.skip size).unread = b.unread.drop size := by
  change b.contents.drop (b.current + min size (b.size - b.current)) = _
  rw [BUF.unread, List.drop_drop, List.drop_eq_drop_iff, wellFormed.length_contents]
  omega

theorem ReadBuf_refines
    (wellFormed : b.WellFormed)
    (fits : b.current + size < 4294967296) :
    ReadBuf b true size =
        .ok (⟨(readBuf b.unread size).2.1, (readBuf b.unread size).1⟩, b.skip size) ∧
      (b.skip size).unread = (readBuf b.unread size).2.2 := by
  rw [ReadBuf_of_lt wellFormed fits true, readBuf, wellFormed.length_unread]
  exact ⟨rfl, unread_skip wellFormed size⟩

theorem readBufInt_unread
    (wellFormed : b.WellFormed) :
    readBufInt b.unread = (UInt32.ofNat (lengthField b), (behindLength b).unread) := by
  rw [behindLength, unread_skip wellFormed, readBufInt, readBuf, lengthField]
  dsimp only
  by_cases enough : 4 ≤ b.unread.length
  · have whole : 4 - b.unread.length = 0 := by omega
    rw [if_pos (Nat.min_eq_left enough), if_pos enough, whole, List.replicate_zero,
      List.append_nil]
  · have short : ¬min 4 b.unread.length = 4 := by omega
    rw [if_neg short, if_neg enough]
    rfl

/-- `ReadBufStr` on a buffer in memory fills the caller's array and leaves the cursor as the
reader of lists does. -/
theorem ReadBufStr_refines
    (wellFormed : b.WellFormed)
    (str : List UInt8)
    (nonzero : size ≠ 0)
    (fits : StringFits b size) :
    ∃ done after,
      ReadBufStr b str size = .ok (done, (readBufStr str size b.unread).1, after) ∧
        after.unread = (readBufStr str size b.unread).2 := by
  have number : (UInt32.ofNat (lengthField b)).toNat = lengthField b :=
    UInt32.toNat_ofNat_of_lt' (lengthField_lt b)
  rw [readBufStr, readBufInt_unread wellFormed]
  dsimp only
  by_cases none : lengthField b = 0
  · rw [if_pos (by rw [none]; rfl), ReadBufStr, if_neg nonzero, ReadBufInt_eq wellFormed]
    refine ⟨false, behindLength b, ?_, rfl⟩
    change (if lengthField b = 0 then _ else _) = _
    rw [if_pos none]
    rfl
  have announced : ¬UInt32.ofNat (lengthField b) = 0 := by
    intro zero
    rw [zero] at number
    exact none number.symm
  obtain ⟨bodyFits, skipFits⟩ := (fits.resolve_left nonzero).resolve_left none
  obtain ⟨current, enough⟩ := behindLength_current wellFormed none
  have kept := behindLength_wellFormed wellFormed
  have size_eq : min ((UInt32.ofNat (lengthField b)).toNat - 1) (size - 1) = bodySize b size := by
    rw [number]
    rfl
  rw [if_neg announced, size_eq]
  by_cases whole : b.current + 4 + bodySize b size ≤ b.size
  · obtain ⟨_, _, lengthBody, bodyKept⟩ := ReadBuf_body wellFormed none whole
    have all : (behindLength b).unread.length = b.size - (b.current + 4) := by
      rw [kept.length_unread, current]
      rfl
    have rest : bodySize b size - (behindLength b).unread.length = 0 := by omega
    have behind : (behindBody b size).unread =
        (behindLength b).unread.drop (bodySize b size) := by
      rw [← unread_skip kept]
      have held : bodySize b size ≤ (behindLength b).size - (b.current + 4) := by
        change _ ≤ b.size - _
        omega
      rw [BUF.skip, current, Nat.min_eq_left held]
      rfl
    have read : ¬min (bodySize b size) (behindLength b).unread.length ≠ bodySize b size := by
      omega
    rw [readBuf, ReadBufStr_whole wellFormed str nonzero none whole]
    dsimp only
    rw [if_neg read, rest, List.replicate_zero, List.append_nil, number]
    have filled : (behindLength b).unread.take (bodySize b size) ++ List.replicate 1 0 ++
        str.drop (bodySize b size + 1) =
        (behindLength b).unread.take (bodySize b size) ++
          0 :: str.drop (bodySize b size + 1) := by
      simp
    rw [filled]
    by_cases longer : bodySize b size < stringLen b
    · have sum : (behindBody b size).current + (stringLen b - bodySize b size) < 4294967296 := by
        have small := skipFits whole
        change b.current + 4 + bodySize b size + _ < _
        omega
      rw [if_pos longer, ReadBuf_of_lt bodyKept sum false]
      refine ⟨true, (behindBody b size).skip (stringLen b - bodySize b size), rfl, ?_⟩
      rw [unread_skip bodyKept, behind]
      rfl
    · rw [if_neg longer]
      refine ⟨true, behindBody b size, rfl, ?_⟩
      have nothing : lengthField b - 1 - bodySize b size = 0 := by
        unfold stringLen at longer
        omega
      rw [behind, nothing, List.drop_zero]
  · have all : (behindLength b).unread.length = b.size - (b.current + 4) := by
      rw [kept.length_unread, current]
      rfl
    have sum : (behindLength b).current + bodySize b size < 4294967296 := by
      rw [current]
      exact bodyFits
    obtain ⟨ran, left⟩ := ReadBuf_refines kept sum
    have read : min (bodySize b size) (behindLength b).unread.length ≠ bodySize b size := by
      omega
    have stored : (readBuf (behindLength b).unread (bodySize b size)).1.length =
        bodySize b size := by
      rw [readBuf, List.length_append, List.length_take, List.length_replicate]
      omega
    have cut : (readBuf (behindLength b).unread (bodySize b size)).2.1 ≠ bodySize b size := read
    rw [ReadBufStr_eq wellFormed str nonzero none, ran, if_pos cut]
    refine ⟨false, (behindLength b).skip (bodySize b size), ?_, left⟩
    change (if (readBuf _ _).2.1 ≠ _ then _ else _) = _
    rw [if_pos cut, copyAt_zero, stored]

end

/-- A string of two letters, cut to the one for which the caller has room. -/
theorem ReadBufStr_refines_cut :
    ∃ b, BufReached (fun _ => 0) b ∧ b.unread = [0, 0, 0, 3, 65, 66, 67] ∧
      ∃ done after,
        ReadBufStr b [9, 9, 9] 2 = .ok (done, (readBufStr [9, 9, 9] 2 b.unread).1, after) ∧
          after.unread = (readBufStr [9, 9, 9] 2 b.unread).2 := by
  obtain ⟨b, reached, contents, current⟩ :=
    bufReached_contents (fun _ => 0) [0, 0, 0, 3, 65, 66, 67] 0 (by decide) (by decide)
  have unread : b.unread = [0, 0, 0, 3, 65, 66, 67] := by
    rw [BUF.unread, contents, current]
    rfl
  have field : lengthField b = 3 := by
    rw [lengthField, unread]
    decide
  have fits : StringFits b 2 := by
    rw [StringFits, bodySize, stringLen, field, current]
    exact .inr (.inr ⟨by decide, fun _ => by decide⟩)
  exact ⟨b, reached, unread,
    ReadBufStr_refines reached.wellFormed [9, 9, 9] (by decide) fits⟩

/-- In every buffer that is reached `ReadBuf` and `ReadBufStr` keep the cursor and take what
is between its places exactly when their sums stay `UINT`s; `SeekBuf` always does. -/
theorem readers_iff
    {b : BUF}
    (reached : BufReached fresh b) :
    (∀ (stored : Bool) (size : UInt32),
      ReadsBlock b stored size.toNat ↔ b.current + size.toNat < 4294967296) ∧
    (∀ (str : List UInt8) (size : UInt32),
      ReadsString b str size.toNat ↔ StringFits b size.toNat) ∧
    ∀ (offset : UInt32) (mode : Int), Seeks b offset.toNat mode :=
  ⟨readsBlock_iff reached.wellFormed, readsString_iff reached.wellFormed,
    fun offset mode => seeks b offset.toNat mode⟩

/-- A packet whose string announces more bytes than a `UINT` can count behind the cursor. -/
def exampleContents : List UInt8 :=
  [1, 2, 3, 4, 255, 255, 255, 255] ++ List.replicate 63 65

/-- The law at the place where the string stands, for small sizes and for large ones. -/
theorem readers_iff_example :
    ∃ b, BufReached (fun _ => 0) b ∧ b.contents = exampleContents ∧ b.current = 4 ∧
      (∀ (stored : Bool) (size : UInt32),
        ReadsBlock b stored size.toNat ↔ b.current + size.toNat < 4294967296) ∧
      (∀ (str : List UInt8) (size : UInt32),
        ReadsString b str size.toNat ↔ StringFits b size.toNat) ∧
      ∀ (offset : UInt32) (mode : Int), Seeks b offset.toNat mode := by
  obtain ⟨b, reached, contents, current⟩ :=
    bufReached_contents (fun _ => 0) exampleContents 4 (by decide) (by decide)
  exact ⟨b, reached, contents, current, readers_iff (fun _ => 0) reached⟩

/-- Reading this string into an array of 64 bytes, and skipping as many bytes as it
announces, carries the cursor back. -/
theorem readers_goBack :
    ∃ b, BufReached (fun _ => 0) b ∧ b.contents = exampleContents ∧ b.current = 4 ∧
      ¬ReadsString b (List.replicate 64 0) 64 ∧ ¬ReadsBlock b false 4294967295 := by
  obtain ⟨b, reached, contents, current⟩ :=
    bufReached_contents (fun _ => 0) exampleContents 4 (by decide) (by decide)
  have wellFormed := reached.wellFormed
  have size : b.size = 71 := by
    rw [← wellFormed.length_contents, contents]
    rfl
  have announced : lengthField b = 4294967295 := by
    rw [lengthField, BUF.unread, contents, current]
    decide
  refine ⟨b, reached, contents, current, ?_, ?_⟩
  · intro reads
    have fits := (readsString_iff wellFormed (List.replicate 64 0) 64).mp reads
    have body : bodySize b 64 = 63 := by
      rw [bodySize, stringLen, announced]
      rfl
    obtain ⟨_, skip⟩ := (fits.resolve_left (by decide)).resolve_left (by rw [announced]; decide)
    have beyond := skip (by
      change b.current + 4 + bodySize b 64 ≤ b.size
      omega)
    rw [current, stringLen, announced] at beyond
    exact absurd beyond (by decide)
  · intro reads
    have fits := (readsBlock_iff wellFormed false 4294967295).mp reads
    rw [current] at fits
    exact absurd fits (by decide)

end Memory
end SoftEther
