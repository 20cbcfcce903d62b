import SoftEther.Library.Ranges
import SoftEther.Library.Runs
import SoftEther.Mayaqua.Memory
import SoftEther.Mayaqua.UInt

/-!
# Reassembly of IP fragments in the user-mode NAT

`CombineIp` of `Virtual.c` collects the fragments of one datagram in an
`IP_COMBINE` object: it copies each fragment into a buffer, records which part
of the datagram is new, and hands the datagram over when the sizes of the parts
add up to the size that the last fragment announced.  `NnCombineIp` of the
kernel-mode NAT is the same function over another owner.

The second overlap test of the loop computes the size to move from the end of
the part instead of its start.  The main theorem says what the object
guarantees as long as no fragment takes that branch with a nonzero size and no
last fragment ends before a part that is already there.
-/

namespace SoftEther

open Library

abbrev IpPart := ByteRange

def IP_COMBINE_INITIAL_BUF_SIZE : Nat := 1480

def IP_COMBINE_WAIT_QUEUE_SIZE_QUOTA : Nat := 52428800

def IP_COMBINE_TIMEOUT : Nat := 10000

/-- `sizeof(IPV4_HEADER)`. -/
def IPV4_HEADER_SIZE : Nat := 20

/-- What identifies the datagram that fragments belong to. -/
structure IpCombineKey where
  destIP : UInt32
  srcIP : UInt32
  id : UInt16
  protocol : UInt8
  deriving DecidableEq

/-- `IP_COMBINE`.  `DataReserved` is the length of `data`. -/
structure IpCombine where
  key : IpCombineKey
  ttl : UInt8
  macBroadcast : Bool
  srcIsLocalMacAddr : Bool
  expire : Nat
  data : List (Option UInt8)
  size : Nat := 0
  ipParts : List IpPart := []
  headIpHeaderData : Option (List UInt8) := none
  maxL3Size : Nat := 0
  deriving DecidableEq

/-- What `IpReceived` is called with. -/
structure IpDatagram where
  key : IpCombineKey
  data : List (Option UInt8)
  size : Nat
  macBroadcast : Bool
  ttl : UInt8
  headIpHeaderData : Option (List UInt8)
  srcIsLocalMacAddr : Bool
  maxL3Size : Nat
  deriving DecidableEq

/-- A fragment as `VirtualIpReceived` reads it from an IPv4 packet: the offset
field has 13 bits and counts units of eight bytes, the total length has 16
bits. -/
structure IpFragment where
  /-- `IPV4_GET_OFFSET`. -/
  offsetField : Nat
  moreFragments : Bool
  header : List UInt8
  /-- The bytes behind the header. -/
  data : List UInt8
  offsetField_lt : offsetField < 8192
  totalLength_lt : header.length + data.length < 65536
  deriving DecidableEq

namespace IpFragment

/-- The bytes of the datagram that a fragment carries. -/
def range (fragment : IpFragment) : ByteRange :=
  ⟨fragment.offsetField * 8, fragment.data.length⟩

/-- `last_packet`. -/
def last (fragment : IpFragment) : Bool :=
  !fragment.moreFragments

def headIpHeaderData (fragment : IpFragment) : Option (List UInt8) :=
  if fragment.offsetField * 8 = 0 then some fragment.header else none

def ipL3Size (fragment : IpFragment) : Nat :=
  fragment.header.length + fragment.data.length

theorem range_stop_lt (fragment : IpFragment) : fragment.range.stop < X32 := by
  have offset := fragment.offsetField_lt
  have length := fragment.totalLength_lt
  unfold range ByteRange.stop X32
  dsimp only
  omega

end IpFragment

namespace IpCombine

/-- `InsertIpCombine` without the list of objects: the new object and the new
value of `CurrentIpQuota`. -/
def insertIpCombine
    (currentIpQuota : Nat)
    (now : Nat)
    (key : IpCombineKey)
    (macBroadcast : Bool)
    (ttl : UInt8)
    (srcIsLocalMac : Bool) :
    Option (Nat × IpCombine) :=
  if addUINT currentIpQuota IP_COMBINE_INITIAL_BUF_SIZE >
      IP_COMBINE_WAIT_QUEUE_SIZE_QUOTA then
    none
  else
    some
      (addUINT currentIpQuota IP_COMBINE_INITIAL_BUF_SIZE,
        { key := key
          ttl := ttl
          macBroadcast := macBroadcast
          srcIsLocalMacAddr := srcIsLocalMac
          expire := addUINT64 now IP_COMBINE_TIMEOUT
          data := List.replicate IP_COMBINE_INITIAL_BUF_SIZE none })

/-- The loop that enlarges `DataReserved`: a `UINT` can be quadrupled at most
sixteen times. -/
def growReserved : Nat → Nat → Nat → Nat
  | 0, reserved, _ => reserved
  | fuel + 1, reserved, needSize =>
      if reserved < needSize then
        growReserved fuel (mulUINT reserved 4) needSize
      else
        reserved

/-- The first overlap test: what remains of the fragment when it begins inside
a part. -/
def trimHead (me p : IpPart) : IpPart :=
  if p.offset ≤ me.offset ∧ addUINT p.offset p.size > me.offset then
    if addUINT me.offset me.size ≤ addUINT p.offset p.size then
      ⟨me.offset, 0⟩
    else
      let movingSize := subUINT (addUINT p.offset p.size) me.offset
      ⟨addUINT me.offset movingSize, subUINT me.size movingSize⟩
  else me

/-- The second overlap test: what remains of the fragment when it ends inside
a part. -/
def trimTail (me p : IpPart) : IpPart :=
  if p.offset < addUINT me.offset me.size ∧
      addUINT p.offset p.size ≥ addUINT me.offset me.size then
    let movingSize :=
      subUINT (subUINT (addUINT p.offset p.size) me.offset) me.size
    ⟨me.offset, subUINT me.size movingSize⟩
  else me

/-- The third overlap test: a part that the fragment covers is blanked. -/
def blankPart (me p : IpPart) : IpPart :=
  if p.offset ≥ me.offset ∧
      addUINT p.offset p.size ≤ addUINT me.offset me.size then
    ⟨p.offset, 0⟩
  else p

/-- One turn of the loop over `IpParts`. -/
def combineTurn (me p : IpPart) : IpPart × IpPart :=
  let trimmed := trimTail (trimHead me p) p
  (trimmed, blankPart trimmed p)

/-- `IpParts` after a fragment has been registered. -/
def registerPart (fragment : IpPart) (parts : List IpPart) : List IpPart :=
  let scanned := scan combineTurn fragment parts
  if scanned.1.size ≠ 0 then scanned.2 ++ [scanned.1] else scanned.2

/-- `total_size`. -/
def totalPartSize (parts : List IpPart) : Nat :=
  parts.foldl (fun total p => addUINT total p.size) 0

/-- The two size checks at the start of `CombineIp`. -/
def accepts (c : IpCombine) (fragment : IpFragment) : Bool :=
  let stop := addUINT fragment.range.offset fragment.range.size
  if stop > 65535 then false
  else if fragment.last = false ∧ c.size ≠ 0 ∧ stop > c.size then false
  else true

/-- What `CombineIp` leaves behind.  An object that has been handed over is
freed; `combine` is then its last content. -/
structure Combined where
  currentIpQuota : Nat
  combine : IpCombine
  delivered : Option IpDatagram
  deriving DecidableEq

/-- The object with a fragment copied and registered. -/
def store (c : IpCombine) (fragment : IpFragment) : IpCombine :=
  let offset := fragment.range.offset
  let stop := addUINT offset fragment.range.size
  { c with
    headIpHeaderData :=
      match c.headIpHeaderData, fragment.headIpHeaderData with
      | none, some header =>
          if header.length ≥ IPV4_HEADER_SIZE then some header else none
      | kept, _ => kept
    data :=
      copyAt (reAlloc c.data (growReserved 16 c.data.length stop)) offset
        (fragment.data.map some)
    size := if fragment.last then stop else c.size
    ipParts := registerPart fragment.range c.ipParts }

def datagram (c : IpCombine) : IpDatagram where
  key := c.key
  data := c.data.take c.size
  size := c.size
  macBroadcast := c.macBroadcast
  ttl := c.ttl
  headIpHeaderData := c.headIpHeaderData
  srcIsLocalMacAddr := c.srcIsLocalMacAddr
  maxL3Size := c.maxL3Size

/-- All parts of the datagram are there, by their sizes. -/
def complete (c : IpCombine) : Bool :=
  c.size ≠ 0 ∧ totalPartSize c.ipParts = c.size

def combineIp
    (currentIpQuota : Nat)
    (c : IpCombine)
    (fragment : IpFragment) :
    Combined :=
  if c.accepts fragment then
    let stored := c.store fragment
    let delta := subUINT stored.data.length c.data.length
    if stored.complete then
      { currentIpQuota :=
          subUINT (addUINT currentIpQuota delta) stored.data.length
        combine := stored
        delivered := some stored.datagram }
    else
      { currentIpQuota := addUINT currentIpQuota delta
        combine := stored
        delivered := none }
  else
    { currentIpQuota := currentIpQuota
      combine := c
      delivered := none }

/-- `VirtualIpReceived` keeps the largest L3 size among the fragments. -/
def noteL3Size (c : IpCombine) (fragment : IpFragment) : IpCombine :=
  { c with maxL3Size := max c.maxL3Size fragment.ipL3Size }

theorem combineIp_rejected
    (currentIpQuota : Nat)
    (c : IpCombine)
    {fragment : IpFragment}
    (rejected : ¬c.accepts fragment = true) :
    combineIp currentIpQuota c fragment = ⟨currentIpQuota, c, none⟩ :=
  if_neg rejected

theorem combineIp_accepted
    (currentIpQuota : Nat)
    (c : IpCombine)
    {fragment : IpFragment}
    (accepted : c.accepts fragment = true) :
    (combineIp currentIpQuota c fragment).combine = c.store fragment ∧
      ∀ datagram,
        (combineIp currentIpQuota c fragment).delivered = some datagram →
        (c.store fragment).complete = true ∧
          datagram = (c.store fragment).datagram := by
  unfold combineIp
  rw [if_pos accepted]
  by_cases complete : (c.store fragment).complete = true
  · simp only [if_pos complete, true_and]
    refine fun datagram handed => ⟨complete, ?_⟩
    injection handed with handed
    exact handed.symm
  · simp only [if_neg complete, true_and]
    exact fun datagram handed => absurd handed (by simp)

/-- What `VirtualIpReceived` does with a fragment of a datagram that has an
object. -/
def receiveFragment
    (currentIpQuota : Nat)
    (c : IpCombine)
    (fragment : IpFragment) :
    Combined :=
  combineIp currentIpQuota (c.noteL3Size fragment) fragment

/-! ## One turn of the loop -/

/-- A fragment reaches past every part whose inside it touches: the tail test
has nothing to move. -/
def TailClear (fragment p : ByteRange) : Prop :=
  (p.offset < fragment.offset → fragment.offset < p.stop →
    p.stop < fragment.stop) ∧
  (fragment.offset < p.offset → p.offset < fragment.stop →
    p.stop ≤ fragment.stop)

instance (fragment p : ByteRange) : Decidable (TailClear fragment p) :=
  inferInstanceAs (Decidable (_ ∧ _))

/-- What one turn makes of the fragment when the tail test has nothing to
move. -/
private def remains (me p : ByteRange) : ByteRange :=
  if p.Covers me.offset then
    if me.stop ≤ p.stop then ⟨me.offset, 0⟩ else ⟨p.stop, me.stop - p.stop⟩
  else me

variable {me p : ByteRange} {parts : List ByteRange} {fragment : ByteRange}

private theorem trimHead_eq
    (meSmall : me.stop < X32)
    (pSmall : p.stop < X32) :
    trimHead me p = remains me p := by
  unfold ByteRange.stop at meSmall pSmall
  unfold trimHead remains ByteRange.stop
  rw [addUINT_of_lt meSmall, addUINT_of_lt pSmall]
  by_cases inside : p.offset ≤ me.offset ∧ me.offset < p.offset + p.size
  · rw [if_pos inside, if_pos (p.covers_iff me.offset |>.mpr inside)]
    by_cases buried : me.offset + me.size ≤ p.offset + p.size
    · rw [if_pos buried, if_pos buried]
    · rw [if_neg buried, if_neg buried, subUINT_of_le (by omega) pSmall]
      dsimp only
      rw [addUINT_of_lt (by omega), subUINT_of_le (by omega) (by omega)]
      congr 1 <;> omega
  · rw [if_neg inside, if_neg ((p.covers_iff me.offset).not.mpr inside)]

/-- The fragment that is left ends where it ended, or is empty at the start of
the part. -/
private theorem remains_cases
    (clear : TailClear me p) :
    (¬p.Covers me.offset ∧ remains me p = me) ∨
    (p.Covers me.offset ∧ p.stop < me.stop ∧
      remains me p = ⟨p.stop, me.stop - p.stop⟩) ∨
    (p.offset = me.offset ∧ 0 < p.size ∧ me.stop ≤ p.stop ∧
      remains me p = ⟨me.offset, 0⟩) := by
  unfold remains
  by_cases inside : p.Covers me.offset
  · rw [if_pos inside]
    obtain ⟨before, after⟩ := inside
    by_cases buried : me.stop ≤ p.stop
    · have same : p.offset = me.offset := by
        by_contra later
        have beyond := clear.1 (by omega) after
        omega
      refine .inr (.inr ⟨same, ?_, buried, if_pos buried⟩)
      unfold ByteRange.stop at after
      omega
    · exact .inr (.inl ⟨⟨before, after⟩, by omega, if_neg buried⟩)
  · exact .inl ⟨inside, if_neg inside⟩

private theorem trimTail_remains
    (meSmall : me.stop < X32)
    (pSmall : p.stop < X32)
    (clear : TailClear me p) :
    trimTail (remains me p) p = remains me p := by
  have tail := clear.2
  unfold ByteRange.stop at meSmall pSmall tail
  unfold trimTail
  rw [addUINT_of_lt pSmall]
  obtain ⟨outside, same⟩ | ⟨inside, beyond, same⟩ |
    ⟨same, nonempty, buried, empty⟩ := remains_cases clear
  · rw [same, addUINT_of_lt meSmall]
    rw [p.covers_iff] at outside
    by_cases reaches : p.offset < me.offset + me.size ∧
        p.offset + p.size ≥ me.offset + me.size
    · have ends : p.offset + p.size = me.offset + me.size := by omega
      rw [if_pos reaches, ends, subUINT_of_le (by omega) meSmall,
        subUINT_of_le (by omega) (by omega)]
      dsimp only
      rw [subUINT_of_le (by omega) (by omega)]
      congr 1
      omega
    · rw [if_neg reaches]
  · unfold ByteRange.stop at beyond
    rw [same]
    unfold ByteRange.stop
    rw [addUINT_of_lt (by dsimp only; omega), if_neg (by dsimp only; omega)]
  · rw [empty, addUINT_of_lt (by dsimp only; omega), if_neg (by dsimp only; omega)]

private theorem combineTurn_eq
    (meSmall : me.stop < X32)
    (pSmall : p.stop < X32)
    (clear : TailClear me p) :
    combineTurn me p = (remains me p, blankPart (remains me p) p) := by
  unfold combineTurn
  rw [trimHead_eq meSmall pSmall, trimTail_remains meSmall pSmall clear]

private theorem remains_stop_le
    (clear : TailClear me p) :
    (remains me p).stop ≤ me.stop := by
  obtain ⟨-, same⟩ | ⟨-, beyond, same⟩ | ⟨-, -, -, empty⟩ :=
    remains_cases clear
  · rw [same]
  · rw [same]
    unfold ByteRange.stop at beyond ⊢
    dsimp only
    omega
  · rw [empty]
    unfold ByteRange.stop
    dsimp only
    omega

private theorem blankPart_eq
    (meSmall : me.stop < X32)
    (pSmall : p.stop < X32) :
    blankPart me p =
      if me.offset ≤ p.offset ∧ p.stop ≤ me.stop then ⟨p.offset, 0⟩ else p := by
  unfold blankPart
  rw [addUINT_of_lt meSmall, addUINT_of_lt pSmall]
  rfl

private theorem combineTurn_splits
    (meSmall : me.stop < X32)
    (pSmall : p.stop < X32)
    (clear : TailClear me p) :
    Splits me p (combineTurn me p).1 (combineTurn me p).2 := by
  have leftSmall := Nat.lt_of_le_of_lt (remains_stop_le clear) meSmall
  rw [combineTurn_eq meSmall pSmall clear]
  dsimp only
  have blanked := blankPart_eq leftSmall pSmall
  obtain ⟨outside, same⟩ | ⟨inside, beyond, same⟩ |
    ⟨same, nonempty, buried, empty⟩ := remains_cases clear
  · have tail := clear.2
    rw [p.covers_iff] at outside
    rw [same] at blanked ⊢
    rw [blanked]
    unfold ByteRange.stop at tail ⊢
    split_ifs with covers
    · refine ⟨ByteRange.Within.refl me, ?_, ?_, ?_⟩
      · intro position inside
        exact absurd inside (ByteRange.not_covers_of_size_eq_zero rfl position)
      · intro position _ inside
        exact absurd inside (ByteRange.not_covers_of_size_eq_zero rfl position)
      · intro position inside
        left
        rw [ByteRange.covers_iff, ByteRange.covers_iff] at inside
        rw [ByteRange.covers_iff]
        omega
    · refine ⟨ByteRange.Within.refl me, ByteRange.Within.refl p, ?_,
        fun _ inside => inside⟩
      intro position inMe inPart
      rw [ByteRange.covers_iff] at inMe inPart
      omega
  · have kept : blankPart (remains me p) p = p := by
      rw [blanked, same, if_neg]
      have ordered := inside.2
      have first := inside.1
      unfold ByteRange.stop at ordered ⊢
      dsimp only
      omega
    rw [kept, same]
    obtain ⟨first, ordered⟩ := inside
    unfold ByteRange.stop at beyond ordered ⊢
    refine ⟨?_, ByteRange.Within.refl p, ?_, ?_⟩
    · intro position covers
      rw [ByteRange.covers_mk] at covers
      rw [ByteRange.covers_iff]
      omega
    · intro position covers inPart
      rw [ByteRange.covers_mk] at covers
      rw [ByteRange.covers_iff] at inPart
      omega
    · intro position covers
      rw [ByteRange.covers_iff, ByteRange.covers_iff] at covers
      rw [ByteRange.covers_mk, ByteRange.covers_iff]
      omega
  · have kept : blankPart (remains me p) p = p := by
      rw [blanked, empty, if_neg]
      unfold ByteRange.stop
      dsimp only
      omega
    rw [kept, empty]
    unfold ByteRange.stop at buried
    refine ⟨?_, ByteRange.Within.refl p, ?_, ?_⟩
    · intro position covers
      exact absurd covers (ByteRange.not_covers_of_size_eq_zero rfl position)
    · intro position covers
      exact absurd covers (ByteRange.not_covers_of_size_eq_zero rfl position)
    · intro position covers
      right
      rw [ByteRange.covers_iff, ByteRange.covers_iff] at covers
      rw [ByteRange.covers_iff]
      omega

/-- What is left of a fragment still reaches past every later part it
touches. -/
private theorem remains_tailClear
    {me p q : ByteRange}
    (clear : TailClear me p)
    (later : TailClear me q)
    (apart : p.Apart q) :
    TailClear (remains me p) q := by
  obtain ⟨-, same⟩ | ⟨inside, beyond, same⟩ |
    ⟨same, nonempty, buried, empty⟩ := remains_cases clear
  · rw [same]
    exact later
  · rw [same]
    obtain ⟨first, ordered⟩ := inside
    constructor
    · intro before after
      have inPart : p.Covers (p.stop - 1) := by
        unfold ByteRange.Covers
        omega
      have inLater : q.Covers (p.stop - 1) := by
        unfold ByteRange.Covers
        dsimp only at before after
        omega
      exact absurd inLater (apart _ inPart)
    · intro before after
      have reaches := later.2
      unfold ByteRange.stop at reaches before after beyond ordered ⊢
      dsimp only at before after ⊢
      omega
  · rw [empty]
    have inPart : p.Covers me.offset := by
      rw [ByteRange.covers_iff]
      omega
    constructor
    · intro before after
      exact absurd ⟨before.le, after⟩ (apart _ inPart)
    · intro before after
      unfold ByteRange.stop at after
      dsimp only at before after
      omega

/-- What the loop relies on. -/
private def Ready (me : ByteRange) (parts : List ByteRange) : Prop :=
  me.stop < X32 ∧ ∀ p ∈ parts, p.stop < X32 ∧ TailClear me p

private theorem combineTurn_ready
    (apart : PairwiseApart (p :: parts))
    (ready : Ready me (p :: parts)) :
    Splits me p (combineTurn me p).1 (combineTurn me p).2 ∧
      Ready (combineTurn me p).1 parts := by
  obtain ⟨meSmall, others⟩ := ready
  obtain ⟨pSmall, clear⟩ := others p (by simp)
  refine ⟨combineTurn_splits meSmall pSmall clear, ?_⟩
  rw [combineTurn_eq meSmall pSmall clear]
  refine ⟨Nat.lt_of_le_of_lt (remains_stop_le clear) meSmall, ?_⟩
  intro q present
  obtain ⟨qSmall, later⟩ := others q (by simp [present])
  exact ⟨qSmall,
    remains_tailClear clear later ((List.pairwise_cons.mp apart).1 q present)⟩

/-- The loop keeps the parts disjoint and loses no byte. -/
private theorem scan_combineTurn
    (apart : PairwiseApart parts)
    (ready : Ready fragment parts) :
    Scanned fragment parts (scan combineTurn fragment parts) :=
  scan_scanned Ready (fun _ _ _ => combineTurn_ready) apart ready

private theorem registerPart_apart
    (apart : PairwiseApart parts)
    (ready : Ready fragment parts) :
    PairwiseApart (registerPart fragment parts) := by
  have scanned := scan_combineTurn apart ready
  unfold registerPart
  dsimp only
  split_ifs with nonempty
  · exact scanned.pairwiseApart
  · exact scanned.apart

private theorem mem_covered_registerPart
    (apart : PairwiseApart parts)
    (ready : Ready fragment parts)
    {position : Nat}
    (inside : position ∈ covered (registerPart fragment parts)) :
    fragment.Covers position ∨ position ∈ covered parts := by
  have scanned := scan_combineTurn apart ready
  unfold registerPart at inside
  dsimp only at inside
  split_ifs at inside with nonempty
  · exact (scanned.mem_covered position).mp inside
  · exact .inr (scanned.within position inside)

private theorem mem_registerPart
    (apart : PairwiseApart parts)
    (ready : Ready fragment parts)
    {part : ByteRange}
    (present : part ∈ registerPart fragment parts) :
    part.stop ≤ fragment.stop ∨
      ∃ p ∈ parts, part = p ∨ part = ⟨p.offset, 0⟩ := by
  have scanned := scan_combineTurn apart ready
  have fromScan : ∀ part ∈ (scan combineTurn fragment parts).2,
      ∃ p ∈ parts, part = p ∨ part = ⟨p.offset, 0⟩ := by
    intro part kept
    obtain ⟨p, inParts, arriving, rfl⟩ := mem_scan kept
    refine ⟨p, inParts, ?_⟩
    unfold combineTurn blankPart
    dsimp only
    split_ifs
    · exact .inr rfl
    · exact .inl rfl
  unfold registerPart at present
  dsimp only at present
  split_ifs at present with nonempty
  · rw [List.mem_append, List.mem_singleton] at present
    obtain kept | rfl := present
    · exact .inr (fromScan part kept)
    · exact .inl (scanned.shrinks.stop_le nonempty)
  · exact .inr (fromScan part present)

/-! ## The buffer -/

/-- The enlarged buffer holds the fragment and stays far below the largest
`UINT`. -/
private theorem growReserved_spec
    (fuel reserved : Nat)
    {needSize : Nat}
    (reservedSmall : reserved < 262144)
    (needSmall : needSize ≤ 65535)
    (enough : needSize ≤ reserved * 4 ^ fuel) :
    needSize ≤ growReserved fuel reserved needSize ∧
      reserved ≤ growReserved fuel reserved needSize ∧
      growReserved fuel reserved needSize < 262144 := by
  induction fuel generalizing reserved with
  | zero =>
      simp only [growReserved]
      omega
  | succ fuel inductionHypothesis =>
      simp only [growReserved]
      split_ifs with short
      · have exact : mulUINT reserved 4 = reserved * 4 :=
          Nat.mod_eq_of_lt (by unfold X32; omega)
        rw [exact]
        have grown := inductionHypothesis (reserved * 4) (by omega)
          (by rw [Nat.mul_assoc, ← Nat.pow_succ']; exact enough)
        omega
      · omega

theorem accepts_iff (c : IpCombine) (fragment : IpFragment) :
    c.accepts fragment = true ↔
      fragment.range.stop ≤ 65535 ∧
        (fragment.last = false → c.size ≠ 0 → fragment.range.stop ≤ c.size) := by
  unfold accepts
  rw [addUINT_of_lt fragment.range_stop_lt]
  change (if fragment.range.stop > 65535 then false
    else if fragment.last = false ∧ c.size ≠ 0 ∧ fragment.range.stop > c.size
      then false else true) = true ↔ _
  split_ifs with long beyond
  · simp only [false_iff, not_and]
    omega
  · simp only [false_iff, not_and, not_forall]
    exact fun _ => ⟨beyond.1, beyond.2.1, by omega⟩
  · simp only [true_iff]
    refine ⟨by omega, fun more known => ?_⟩
    by_contra late
    exact beyond ⟨more, known, by omega⟩

theorem store_size (c : IpCombine) (fragment : IpFragment) :
    (c.store fragment).size =
      if fragment.last then fragment.range.stop else c.size := by
  have stop := addUINT_of_lt fragment.range_stop_lt
  unfold store ByteRange.stop
  dsimp only
  rw [stop]

/-- The bounds on the buffer that hold in every run. -/
def Reserved (c : IpCombine) : Prop :=
  1480 ≤ c.data.length ∧ c.data.length < 262144

theorem store_data
    (c : IpCombine)
    {fragment : IpFragment}
    (reserved : c.Reserved)
    (short : fragment.range.stop ≤ 65535) :
    (c.store fragment).Reserved ∧
      ∀ position, position < c.data.length ∨ fragment.range.Covers position →
        (c.store fragment).data[position]? =
          if fragment.range.Covers position then
            some fragment.data[position - fragment.range.offset]?
          else
            c.data[position]? := by
  obtain ⟨atLeast, atMost⟩ := reserved
  obtain ⟨holds, larger, bounded⟩ :=
    growReserved_spec 16 c.data.length atMost short (by omega)
  have stop :
      addUINT fragment.range.offset fragment.range.size = fragment.range.stop :=
    addUINT_of_lt fragment.range_stop_lt
  have dataLength : (fragment.data.map some).length = fragment.range.size :=
    List.length_map some
  have stored :
      (c.store fragment).data =
        copyAt
          (reAlloc c.data
            (growReserved 16 c.data.length fragment.range.stop))
          fragment.range.offset (fragment.data.map some) := by
    unfold store
    dsimp only
    rw [stop]
  have blockLength := length_reAlloc larger
  have inside :
      fragment.range.offset + (fragment.data.map some).length ≤
        (reAlloc c.data
          (growReserved 16 c.data.length fragment.range.stop)).length := by
    rw [blockLength, dataLength]
    exact holds
  refine ⟨?_, ?_⟩
  · unfold Reserved
    rw [stored, length_copyAt inside, blockLength]
    omega
  · intro position known
    have bounds := fragment.range.covers_iff position
    rw [stored, getElem?_copyAt inside, dataLength]
    by_cases covers : fragment.range.Covers position
    · rw [if_pos covers, if_pos (bounds.mp covers), List.getElem?_map]
      have within : position - fragment.range.offset < fragment.data.length := by
        have ordered := bounds.mp covers
        change _ < fragment.range.size
        omega
      rw [List.getElem?_eq_getElem within]
      rfl
    · rw [if_neg covers, if_neg (bounds.not.mp covers),
        getElem?_reAlloc (known.resolve_right covers)]

/-! ## Runs of one object -/

/-- One object, the fragments it has accepted and the datagram it has handed
over. -/
structure Assembly where
  currentIpQuota : Nat
  combine : IpCombine
  received : List IpFragment := []
  delivered : Option IpDatagram := none

namespace Assembly

/-- Another fragment of the datagram arrives; an object that has been handed
over no longer exists. -/
def step (assembly : Assembly) (fragment : IpFragment) : Option Assembly :=
  if assembly.delivered.isSome then none
  else
    let combined :=
      receiveFragment assembly.currentIpQuota assembly.combine fragment
    some
      { currentIpQuota := combined.currentIpQuota
        combine := combined.combine
        received :=
          if assembly.combine.accepts fragment then
            fragment :: assembly.received
          else assembly.received
        delivered := combined.delivered }

/-- A byte of the datagram has arrived in some fragment. -/
def Received (assembly : Assembly) (position : Nat) : Prop :=
  ∃ fragment ∈ assembly.received, fragment.range.Covers position

/-- What the object promises: its parts are disjoint and describe bytes that
have arrived, and a datagram is handed over only when each of its bytes has
arrived in some fragment, which is where the byte in the buffer comes from. -/
structure Safe (assembly : Assembly) : Prop where
  apart : PairwiseApart assembly.combine.ipParts
  within : ∀ position ∈ covered assembly.combine.ipParts,
    assembly.Received position
  delivered : ∀ datagram, assembly.delivered = some datagram →
    datagram.size = assembly.combine.size ∧
      ∀ position, position < datagram.size →
        ∃ fragment ∈ assembly.received, fragment.range.Covers position ∧
          datagram.data[position]? =
            some fragment.data[position - fragment.range.offset]?

/-- No part that holds bytes reaches past the end of an accepted fragment: not
when the fragment begins inside the part behind its first byte, not when it
ends inside the part, and not at all when the fragment is a last one. -/
def ReachesPast (assembly : Assembly) (fragment : IpFragment) : Prop :=
  assembly.combine.accepts fragment = true →
    ∀ p ∈ assembly.combine.ipParts, p.size ≠ 0 →
      TailClear fragment.range p ∧
        (fragment.last = true → p.stop ≤ fragment.range.stop)

/-- What holds in every state of a run. -/
private structure Assembling (assembly : Assembly) : Prop where
  safe : assembly.Safe
  reserved : assembly.combine.Reserved
  short : ∀ p ∈ assembly.combine.ipParts, p.stop ≤ 65535
  inSize : assembly.combine.size ≠ 0 →
    ∀ p ∈ assembly.combine.ipParts, p.size ≠ 0 →
      p.stop ≤ assembly.combine.size
  written : ∀ position, assembly.Received position →
    ∃ fragment ∈ assembly.received, fragment.range.Covers position ∧
      assembly.combine.data[position]? =
        some fragment.data[position - fragment.range.offset]?

variable {fragment : IpFragment} {assembly after : Assembly}

private theorem step_cases
    (stepped : assembly.step fragment = some after) :
    (after.combine = assembly.combine.noteL3Size fragment ∧
      after.received = assembly.received ∧ after.delivered = none) ∨
    (assembly.combine.accepts fragment = true ∧
      after.combine = (assembly.combine.noteL3Size fragment).store fragment ∧
      after.received = fragment :: assembly.received ∧
      ∀ datagram, after.delivered = some datagram →
        after.combine.complete = true ∧
          datagram = after.combine.datagram) := by
  unfold step at stepped
  split_ifs at stepped with gone accepted
  · injection stepped with stepped
    subst stepped
    obtain ⟨stored, delivered⟩ :=
      combineIp_accepted assembly.currentIpQuota
        (assembly.combine.noteL3Size fragment) accepted
    refine .inr ⟨accepted, stored, rfl, ?_⟩
    unfold receiveFragment
    rw [stored]
    exact delivered
  · injection stepped with stepped
    subst stepped
    unfold receiveFragment
    rw [combineIp_rejected assembly.currentIpQuota
      (assembly.combine.noteL3Size fragment) accepted]
    exact .inl ⟨rfl, rfl, rfl⟩

private theorem Assembling.ready
    {assembly : Assembly}
    (assembling : assembly.Assembling)
    (allowed : assembly.ReachesPast fragment)
    (accepted : assembly.combine.accepts fragment = true) :
    Ready fragment.range assembly.combine.ipParts := by
  refine ⟨fragment.range_stop_lt, ?_⟩
  intro p present
  have short := assembling.short p present
  refine ⟨by unfold X32; omega, ?_⟩
  by_cases empty : p.size = 0
  · constructor
    · intro before after
      unfold ByteRange.stop at after
      omega
    · intro _ before
      unfold ByteRange.stop at before ⊢
      omega
  · exact (allowed accepted p present empty).1

theorem totalPartSize_eq (parts : List IpPart) :
    totalPartSize parts = totalSize parts % X32 := by
  have general : ∀ total, parts.foldl (fun total p => addUINT total p.size)
      (total % X32) = (total + totalSize parts) % X32 := by
    induction parts with
    | nil =>
        intro total
        rfl
    | cons p parts inductionHypothesis =>
        intro total
        rw [List.foldl_cons, totalSize_cons, ← Nat.add_assoc,
          ← inductionHypothesis (total + p.size)]
        unfold addUINT
        rw [Nat.mod_add_mod]
  have fromZero := general 0
  rw [Nat.zero_add] at fromZero
  exact fromZero

private theorem covered_of_complete
    {c : IpCombine}
    (apart : PairwiseApart c.ipParts)
    (short : ∀ p ∈ c.ipParts, p.stop ≤ 65535)
    (inSize : c.size ≠ 0 → ∀ p ∈ c.ipParts, p.size ≠ 0 → p.stop ≤ c.size)
    (complete : c.complete = true)
    {position : Nat}
    (inside : position < c.size) :
    position ∈ covered c.ipParts := by
  have sizes : c.size ≠ 0 ∧ totalPartSize c.ipParts = c.size :=
    of_decide_eq_true complete
  have bounded : totalSize c.ipParts ≤ 65535 := by
    apply totalSize_le apart
    rintro position ⟨p, present, covers⟩
    exact Nat.lt_of_lt_of_le covers.2 (short p present)
  have full : totalSize c.ipParts = c.size := by
    rw [← sizes.2, totalPartSize_eq, Nat.mod_eq_of_lt (by unfold X32; omega)]
  apply covered_of_totalSize_eq apart _ full inside
  rintro position ⟨p, present, covers⟩
  have nonempty : p.size ≠ 0 := by
    intro empty
    exact ByteRange.not_covers_of_size_eq_zero empty position covers
  exact Nat.lt_of_lt_of_le covers.2 (inSize sizes.1 p present nonempty)

private theorem Assembling.store
    (assembling : assembly.Assembling)
    (allowed : assembly.ReachesPast fragment)
    (accepted : assembly.combine.accepts fragment = true)
    (combined :
      after.combine = (assembly.combine.noteL3Size fragment).store fragment)
    (received : after.received = fragment :: assembly.received)
    (delivered : ∀ datagram, after.delivered = some datagram →
      after.combine.complete = true ∧ datagram = after.combine.datagram) :
    after.Assembling := by
  have ready := assembling.ready allowed accepted
  have apart := assembling.safe.apart
  obtain ⟨fits, more⟩ := (accepts_iff _ _).mp accepted
  obtain ⟨reserved, stored⟩ :=
    store_data (assembly.combine.noteL3Size fragment) assembling.reserved fits
  have parts : after.combine.ipParts =
      registerPart fragment.range assembly.combine.ipParts := by
    rw [combined]
    rfl
  have size : after.combine.size =
      if fragment.last then fragment.range.stop else assembly.combine.size := by
    rw [combined, store_size]
    rfl
  have receivedNow : ∀ position, after.Received position ↔
      fragment.range.Covers position ∨ assembly.Received position := by
    intro position
    unfold Received
    rw [received]
    simp only [List.mem_cons, exists_eq_or_imp]
  have written : ∀ position, after.Received position →
      ∃ fragment ∈ after.received, fragment.range.Covers position ∧
        after.combine.data[position]? =
          some fragment.data[position - fragment.range.offset]? := by
    intro position arrived
    rw [received, combined]
    by_cases covers : fragment.range.Covers position
    · refine ⟨fragment, by simp, covers, ?_⟩
      rw [stored position (.inr covers), if_pos covers]
    · obtain ⟨earlier, present, carries, content⟩ :=
        assembling.written position
          (((receivedNow position).mp arrived).resolve_left covers)
      refine ⟨earlier, by simp [present], carries, ?_⟩
      have inBuffer : position < assembly.combine.data.length := by
        by_contra beyond
        rw [List.getElem?_eq_none (by omega)] at content
        exact absurd content (by simp)
      rw [stored position (.inl inBuffer), if_neg covers]
      exact content
  have short : ∀ p ∈ after.combine.ipParts, p.stop ≤ 65535 := by
    intro p present
    rw [parts] at present
    obtain early | ⟨q, earlier, rfl | rfl⟩ :=
      mem_registerPart apart ready present
    · omega
    · exact assembling.short _ earlier
    · have bound := assembling.short q earlier
      unfold ByteRange.stop at bound ⊢
      dsimp only
      omega
  have inSize : after.combine.size ≠ 0 →
      ∀ p ∈ after.combine.ipParts, p.size ≠ 0 → p.stop ≤ after.combine.size := by
    intro known p present nonempty
    rw [parts] at present
    rw [size] at known ⊢
    obtain early | ⟨q, earlier, rfl | rfl⟩ :=
      mem_registerPart apart ready present
    · split_ifs at known ⊢ with last
      · exact early
      · have bound := more (by simpa using last) known
        omega
    · split_ifs at known ⊢ with last
      · exact (allowed accepted _ earlier nonempty).2 last
      · exact assembling.inSize known _ earlier nonempty
    · exact absurd rfl nonempty
  have within : ∀ position ∈ covered after.combine.ipParts,
      after.Received position := by
    intro position inside
    rw [parts] at inside
    rw [receivedNow]
    exact (mem_covered_registerPart apart ready inside).imp id
      (assembling.safe.within position)
  have stillApart : PairwiseApart after.combine.ipParts := by
    rw [parts]
    exact registerPart_apart apart ready
  refine ⟨⟨stillApart, within, ?_⟩, ?_, short, inSize, written⟩
  · intro datagram handed
    obtain ⟨complete, rfl⟩ := delivered datagram handed
    refine ⟨rfl, fun position before => ?_⟩
    obtain ⟨source, present, carries, content⟩ :=
      written position (within position
        (covered_of_complete stillApart short inSize complete before))
    refine ⟨source, present, carries, ?_⟩
    rw [← content]
    exact List.getElem?_take_of_lt before
  · rw [combined]
    exact reserved

private theorem Assembling.step
    (assembling : assembly.Assembling)
    (allowed : assembly.ReachesPast fragment)
    (stepped : assembly.step fragment = some after) :
    after.Assembling := by
  obtain ⟨combined, received, delivered⟩ |
    ⟨accepted, combined, received, delivered⟩ := step_cases stepped
  · obtain ⟨⟨apart, within, -⟩, reserved, short, inSize, written⟩ := assembling
    have sameReceived : after.Received = assembly.Received := by
      unfold Received
      rw [received]
    refine ⟨⟨?_, ?_, ?_⟩, ?_, ?_, ?_, ?_⟩
    · rw [combined]
      exact apart
    · rw [combined, sameReceived]
      exact within
    · intro datagram handed
      rw [delivered] at handed
      exact absurd handed (by simp)
    · rw [combined]
      exact reserved
    · rw [combined]
      exact short
    · rw [combined]
      exact inSize
    · rw [combined, received, sameReceived]
      exact written
  · exact assembling.store allowed accepted combined received delivered

/-- A new object. -/
def start (created : Nat × IpCombine) : Assembly where
  currentIpQuota := created.1
  combine := created.2

private theorem assembling_start
    {currentIpQuota now : Nat}
    {key : IpCombineKey}
    {macBroadcast srcIsLocalMac : Bool}
    {ttl : UInt8}
    {created : Nat × IpCombine}
    (inserted :
      insertIpCombine currentIpQuota now key macBroadcast ttl srcIsLocalMac =
        some created) :
    (start created).Assembling := by
  unfold insertIpCombine at inserted
  split_ifs at inserted
  injection inserted with inserted
  subst inserted
  refine ⟨⟨List.Pairwise.nil, ?_, ?_⟩, ?_, ?_, ?_, ?_⟩
  · intro position inside
    exact absurd inside (by simp [start])
  · intro datagram handed
    exact absurd handed (by simp [start])
  · unfold Reserved start
    dsimp only
    rw [List.length_replicate]
    unfold IP_COMBINE_INITIAL_BUF_SIZE
    omega
  · intro p present
    exact absurd present (by simp [start])
  · intro known
    exact absurd rfl known
  · rintro position ⟨fragment, present, -⟩
    exact absurd present (by simp [start])

/-- As long as every accepted fragment reaches past the parts it touches, the
parts stay disjoint and describe bytes that have arrived, and a datagram is
handed over only when every byte of it has arrived. -/
theorem combineIp_safe
    {currentIpQuota now : Nat}
    {key : IpCombineKey}
    {macBroadcast srcIsLocalMac : Bool}
    {ttl : UInt8}
    {created : Nat × IpCombine}
    (inserted :
      insertIpCombine currentIpQuota now key macBroadcast ttl srcIsLocalMac =
        some created)
    {assembly : Assembly}
    (reached : Reaches step ReachesPast (start created) assembly) :
    assembly.Safe := by
  have assembling : assembly.Assembling :=
    reached.invariant Assembling (assembling_start inserted)
      fun _ _ _ holds allowed stepped => holds.step allowed stepped
  exact assembling.safe

/-- A UDP datagram from 10.0.0.2 to 10.0.0.1. -/
def exampleKey : IpCombineKey :=
  { destIP := 167772161, srcIP := 167772162, id := 7, protocol := 17 }

/-- The object of `exampleKey`. -/
def exampleCombine : IpCombine :=
  { key := exampleKey
    ttl := 64
    macBroadcast := false
    srcIsLocalMacAddr := false
    expire := 10000
    data := List.replicate IP_COMBINE_INITIAL_BUF_SIZE none }

def eightBytes (offsetField : Fin 4) (moreFragments : Bool) : IpFragment where
  offsetField := offsetField
  moreFragments := moreFragments
  header := List.replicate 20 69
  data := List.replicate 8 0
  offsetField_lt := by omega
  totalLength_lt := by decide

/-- The object of `exampleKey` before any fragment. -/
def exampleStart : Assembly :=
  start (IP_COMBINE_INITIAL_BUF_SIZE, exampleCombine)

/-- The object after one more fragment. -/
def feed (assembly : Assembly) (fragment : IpFragment) : Assembly :=
  (assembly.step fragment).getD assembly

theorem step_feed
    {assembly : Assembly}
    (open_ : assembly.delivered.isSome = false) :
    assembly.step fragment = some (assembly.feed fragment) := by
  unfold feed step
  rw [open_]
  rfl

/-- A last fragment that ends before an earlier one completes a datagram of 16
bytes whose first eight bytes never arrived. -/
theorem shortLast_delivered :
    ¬∀ assembly, Reaches step (fun _ _ => True) exampleStart assembly →
      assembly.Safe := by
  intro safe
  have reached : Reaches step (fun _ _ => True) exampleStart
      ((exampleStart.feed (eightBytes 2 true)).feed (eightBytes 1 false)) :=
    .next (.next .start trivial (step_feed rfl)) trivial (step_feed rfl)
  have delivered := (safe _ reached).delivered _ rfl
  obtain ⟨fragment, present, covers, -⟩ := delivered.2 0 (by decide)
  revert fragment
  decide

/-- Two fragments in order complete the datagram. -/
theorem inOrder_delivered :
    ((exampleStart.feed (eightBytes 0 true)).feed
        (eightBytes 1 false)).delivered.isSome = true ∧
      ((exampleStart.feed (eightBytes 0 true)).feed
        (eightBytes 1 false)).Safe := by
  have first : exampleStart.ReachesPast (eightBytes 0 true) :=
    fun _ p present => absurd present List.not_mem_nil
  have second :
      (exampleStart.feed (eightBytes 0 true)).ReachesPast
        (eightBytes 1 false) := by
    intro _
    decide
  have inserted :
      insertIpCombine 0 0 exampleKey false 64 false =
        some (IP_COMBINE_INITIAL_BUF_SIZE, exampleCombine) := by
    unfold insertIpCombine exampleCombine
    rw [if_neg (by decide)]
    rfl
  exact ⟨rfl, combineIp_safe inserted
    (.next (.next .start first (step_feed rfl)) second (step_feed rfl))⟩

end Assembly

end IpCombine
end SoftEther
