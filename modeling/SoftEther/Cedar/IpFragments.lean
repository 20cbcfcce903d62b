import Mathlib.Data.List.Perm.Basic
import SoftEther.Cedar.IpCombine

/-!
# Fragments of IP packets

`SendIpEx` of the user-mode NAT and `NnIpSendForInternet` of the kernel-mode NAT cut a payload into
fragments with the same loop.  They differ in the size of a fragment: the one rounds it down to a
multiple of eight bytes, the other takes it from the largest packet that was seen.
-/

namespace SoftEther

open Library

/-- The IPv4 packet of a fragment: the fields of its header that a reassembly reads, and the bytes
behind the header. -/
structure SentFragment where
  totalLength : UInt16
  /-- `IPV4_GET_OFFSET`, a field of 13 bits. -/
  offsetField : Fin 8192
  moreFragments : Bool
  data : List UInt8

/-- `SendFragmentedIp` and `NnIpSendFragmentedForInternet`. -/
def sendFragmentedIp (totalSize offset : Nat) (data : List UInt8) : SentFragment where
  totalLength := UInt16.ofNat (data.length + IPV4_HEADER_SIZE)
  offsetField := Fin.ofNat 8192 (offset / 8)
  moreFragments := offset + data.length < totalSize
  data := data

/-- The loop of `SendIpEx` and `NnIpSendForInternet` from an offset on; it returns nothing when it
does not end within `fuel` rounds. -/
def sendFragments (mss totalSize : Nat) (data : List UInt8) :
    (fuel offset : Nat) → Option (List SentFragment)
  | 0, _ => none
  | fuel + 1, offset =>
      let sizeOfThisPacket := min (mss % 65536) (totalSize - offset)
      let fragment :=
        sendFragmentedIp totalSize offset ((data.drop offset).take sizeOfThisPacket)
      if offset + sizeOfThisPacket = totalSize then some [fragment]
      else
        (sendFragments mss totalSize data fuel ((offset + sizeOfThisPacket) % 65536)).map
          (fragment :: ·)

/-- `Mtu` and from it `IpMss` as `SetVirtualHostOption` sets them. -/
def ipMssOf (mtu : Nat) : Nat :=
  let limited := min mtu 1500
  let given := if limited = 0 then 1500 else limited
  (max given (20 + 20 + 14 + 8) - 20) / 8 * 8

def sendIpEx (ipMss : Nat) (data : List UInt8) (fuel : Nat) : Option (List SentFragment) :=
  if data.length = 0 ∨ 65535 < data.length then some []
  else sendFragments ipMss (data.length % 65536) data fuel 0

/-- The size of a fragment of `NnIpSendForInternet`. -/
def nnMss (ipMss maxL3Size : Nat) : Nat :=
  let seen := if 20 < maxL3Size then maxL3Size - 20 else 0
  max (if seen = 0 then ipMss else seen) 1000

def nnIpSendForInternet
    (ipMss maxL3Size : Nat)
    (data : List UInt8)
    (fuel : Nat) :
    Option (List SentFragment) :=
  sendFragments (nnMss ipMss maxL3Size) (data.length % 65536) data fuel 0

structure SentFragment.Carries (f : SentFragment) (payload : List UInt8) (offset : Nat) : Prop where
  start : f.offsetField.val * 8 = offset
  bytes : f.data = (payload.drop offset).take f.data.length
  nonempty : 0 < f.data.length
  inside : offset + f.data.length ≤ payload.length
  length : f.totalLength.toNat = f.data.length + IPV4_HEADER_SIZE
  more : f.moreFragments = decide (offset + f.data.length < payload.length)
  units : f.moreFragments = true → f.data.length % 8 = 0

/-- The fragments carry the payload from the offset on, one behind the other. -/
def Tiles (payload : List UInt8) : (offset : Nat) → List SentFragment → Prop
  | offset, [] => offset = payload.length
  | offset, f :: rest =>
      f.Carries payload offset ∧ Tiles payload (offset + f.data.length) rest

theorem sendFragments_tiles
    {mss fuel offset : Nat}
    {payload : List UInt8}
    (short : payload.length ≤ 65535)
    (positive : mss % 65536 ≠ 0)
    (fits : min (mss % 65536) payload.length ≤ 65515)
    (units : mss % 65536 % 8 = 0 ∨ payload.length ≤ mss % 65536)
    (aligned : offset % 8 = 0)
    (inside : offset < payload.length)
    (enough : payload.length - offset ≤ fuel) :
    ∃ fragments, sendFragments mss payload.length payload fuel offset = some fragments ∧
      Tiles payload offset fragments := by
  induction fuel generalizing offset with
  | zero => omega
  | succ fuel inductionHypothesis =>
      have size : ((payload.drop offset).take
          (min (mss % 65536) (payload.length - offset))).length =
            min (mss % 65536) (payload.length - offset) := by
        rw [List.length_take, List.length_drop]
        omega
      have start : offset / 8 % 8192 * 8 = offset := by omega
      have carries : (sendFragmentedIp payload.length offset ((payload.drop offset).take
          (min (mss % 65536) (payload.length - offset)))).Carries payload offset := by
        refine ⟨start, ?_, ?_, ?_, ?_, ?_, ?_⟩
        all_goals simp only [sendFragmentedIp, size]
        · omega
        · omega
        · unfold IPV4_HEADER_SIZE
          rw [UInt16.toNat_ofNat_of_lt' (by change _ < 65536; omega)]
        · intro more
          have longer := of_decide_eq_true more
          omega
      unfold sendFragments
      dsimp only
      by_cases last : offset + min (mss % 65536) (payload.length - offset) = payload.length
      · rw [if_pos last]
        refine ⟨_, rfl, carries, ?_⟩
        change offset + _ = _
        simp only [sendFragmentedIp, size]
        exact last
      · rw [if_neg last]
        have wrapped : (offset + min (mss % 65536) (payload.length - offset)) % 65536 =
            offset + min (mss % 65536) (payload.length - offset) :=
          Nat.mod_eq_of_lt (by omega)
        rw [wrapped]
        obtain ⟨rest, sent, tiles⟩ :
            ∃ rest, sendFragments mss payload.length payload fuel
              (offset + min (mss % 65536) (payload.length - offset)) = some rest ∧
                Tiles payload (offset + min (mss % 65536) (payload.length - offset)) rest :=
          inductionHypothesis (by omega) (by omega) (by omega)
        rw [sent]
        refine ⟨_, rfl, carries, ?_⟩
        simp only [sendFragmentedIp, size]
        exact tiles

namespace Tiles

variable {payload : List UInt8} {offset : Nat} {fragments : List SentFragment}

theorem carries_getElem?
    {f : SentFragment}
    (carries : f.Carries payload offset)
    {i : Nat}
    (inside : i < f.data.length) :
    f.data[i]? = payload[offset + i]? := by
  rw [carries.bytes, List.getElem?_take_of_lt inside, List.getElem?_drop]

theorem exists_carries
    (tiles : Tiles payload offset fragments)
    {f : SentFragment}
    (listed : f ∈ fragments) :
    ∃ start, offset ≤ start ∧ f.Carries payload start := by
  induction fragments generalizing offset with
  | nil => exact absurd listed List.not_mem_nil
  | cons first rest inductionHypothesis =>
      obtain ⟨carries, others⟩ := tiles
      obtain rfl | inRest := List.mem_cons.mp listed
      · exact ⟨offset, le_rfl, carries⟩
      · obtain ⟨start, later, found⟩ := inductionHypothesis others inRest
        exact ⟨start, by omega, found⟩

theorem exists_covers
    (tiles : Tiles payload offset fragments)
    {position : Nat}
    (from_ : offset ≤ position)
    (inside : position < payload.length) :
    ∃ f ∈ fragments, ∃ start, f.Carries payload start ∧
      start ≤ position ∧ position < start + f.data.length := by
  induction fragments generalizing offset with
  | nil =>
      have ends : offset = payload.length := tiles
      omega
  | cons first rest inductionHypothesis =>
      obtain ⟨carries, others⟩ := tiles
      by_cases here : position < offset + first.data.length
      · exact ⟨first, List.mem_cons_self, offset, carries, from_, here⟩
      · obtain ⟨f, listed, found⟩ := inductionHypothesis others (by omega)
        exact ⟨f, List.mem_cons_of_mem _ listed, found⟩

end Tiles

/-- The fragments are IPv4 packets whose bytes, each at its offset times eight, are the payload; the
packet without more fragments ends it, and the others carry multiples of eight bytes. -/
structure Reassembles (fragments : List SentFragment) (payload : List UInt8) : Prop where
  lengths : ∀ f ∈ fragments, f.totalLength.toNat = f.data.length + IPV4_HEADER_SIZE
  bytes : ∀ position byte,
    (∃ f ∈ fragments, ∃ i, f.data[i]? = some byte ∧ f.offsetField.val * 8 + i = position) ↔
      payload[position]? = some byte
  ends : ∃ f ∈ fragments, f.moreFragments = false
  size : ∀ f ∈ fragments, f.moreFragments = false →
    f.offsetField.val * 8 + f.data.length = payload.length
  units : ∀ f ∈ fragments, f.moreFragments = true → f.data.length % 8 = 0

theorem Tiles.reassembles
    {payload : List UInt8}
    {fragments : List SentFragment}
    (tiles : Tiles payload 0 fragments)
    (nonempty : 0 < payload.length) :
    Reassembles fragments payload := by
  refine ⟨fun f listed => ?_, fun position byte => ⟨?_, fun present => ?_⟩, ?_, ?_, ?_⟩
  · obtain ⟨start, _, carries⟩ := tiles.exists_carries listed
    exact carries.length
  · rintro ⟨f, listed, i, content, rfl⟩
    obtain ⟨start, _, carries⟩ := tiles.exists_carries listed
    obtain ⟨inside, _⟩ := List.getElem?_eq_some_iff.mp content
    rw [carries.start, ← carries_getElem? carries inside, content]
  · obtain ⟨inside, _⟩ := List.getElem?_eq_some_iff.mp present
    obtain ⟨f, listed, start, carries, after, before⟩ :=
      tiles.exists_covers (Nat.zero_le position) inside
    refine ⟨f, listed, position - start, ?_, ?_⟩
    · rw [carries_getElem? carries (by omega), ← present]
      congr 1
      omega
    · rw [carries.start]
      omega
  · obtain ⟨f, listed, start, carries, after, before⟩ :=
      tiles.exists_covers (Nat.zero_le (payload.length - 1)) (by omega)
    refine ⟨f, listed, ?_⟩
    rw [carries.more, decide_eq_false_iff_not]
    omega
  · intro f listed last
    obtain ⟨start, _, carries⟩ := tiles.exists_carries listed
    have inside := carries.inside
    rw [carries.more, decide_eq_false_iff_not] at last
    rw [carries.start]
    omega
  · intro f listed more
    obtain ⟨start, _, carries⟩ := tiles.exists_carries listed
    exact carries.units more

theorem sendFragments_zero
    {mss fuel totalSize offset : Nat}
    {data : List UInt8}
    (zero : mss % 65536 = 0)
    (inside : offset < totalSize)
    (short : totalSize ≤ 65535) :
    sendFragments mss totalSize data fuel offset = none := by
  induction fuel with
  | zero => rfl
  | succ fuel inductionHypothesis =>
      unfold sendFragments
      dsimp only
      rw [zero, Nat.zero_min, Nat.add_zero, if_neg (by omega), Nat.mod_eq_of_lt (by omega),
        inductionHypothesis]
      rfl

theorem Reassembles.size_of_fragments
    {mss fuel : Nat}
    {payload : List UInt8}
    {fragments : List SentFragment}
    (reassembles : Reassembles fragments payload)
    (sent : sendFragments mss payload.length payload fuel 0 = some fragments)
    (nonempty : 0 < payload.length)
    (short : payload.length ≤ 65535) :
    mss % 65536 ≠ 0 ∧ (mss % 65536 % 8 = 0 ∨ payload.length ≤ mss % 65536) ∧
      min (mss % 65536) payload.length ≤ 65515 := by
  have positive : mss % 65536 ≠ 0 := by
    intro zero
    rw [sendFragments_zero zero nonempty short] at sent
    exact absurd sent (by simp)
  cases fuel with
  | zero => exact absurd sent (by simp [sendFragments])
  | succ fuel =>
      have first : sendFragmentedIp payload.length 0
          (payload.take (min (mss % 65536) payload.length)) ∈ fragments := by
        unfold sendFragments at sent
        dsimp only at sent
        rw [Nat.sub_zero, List.drop_zero] at sent
        split at sent
        · rw [← Option.some.inj sent]
          exact List.mem_singleton_self _
        · obtain ⟨rest, _, rfl⟩ := Option.map_eq_some_iff.mp sent
          exact List.mem_cons_self
      have size : (payload.take (min (mss % 65536) payload.length)).length =
          min (mss % 65536) payload.length := by
        rw [List.length_take]
        omega
      have length := reassembles.lengths _ first
      have units := reassembles.units _ first
      simp only [sendFragmentedIp, size, UInt16.toNat_ofNat', IPV4_HEADER_SIZE] at length units
      refine ⟨positive, ?_, by omega⟩
      by_cases whole : payload.length ≤ mss % 65536
      · exact .inr whole
      · have more := units (decide_eq_true (by omega))
        omega

/-- **Fragments of the kernel-mode NAT.**  The loop ends and its fragments reassemble to the payload
if and only if the size of a fragment is not 0 as a `USHORT`, it is a multiple of eight or there is
one fragment, and the first fragment fits a packet. -/
theorem nnIpSendForInternet_reassembles
    (ipMss maxL3Size : Nat)
    {payload : List UInt8}
    (nonempty : 0 < payload.length)
    (short : payload.length ≤ 65535) :
    (∃ fuel fragments, nnIpSendForInternet ipMss maxL3Size payload fuel = some fragments ∧
      Reassembles fragments payload) ↔
      nnMss ipMss maxL3Size % 65536 ≠ 0 ∧
        (nnMss ipMss maxL3Size % 65536 % 8 = 0 ∨
          payload.length ≤ nnMss ipMss maxL3Size % 65536) ∧
        min (nnMss ipMss maxL3Size % 65536) payload.length ≤ 65515 := by
  have total : payload.length % 65536 = payload.length := Nat.mod_eq_of_lt (by omega)
  unfold nnIpSendForInternet
  rw [total]
  constructor
  · rintro ⟨fuel, fragments, sent, reassembles⟩
    exact reassembles.size_of_fragments sent nonempty short
  · rintro ⟨positive, units, fits⟩
    obtain ⟨fragments, sent, tiles⟩ :=
      sendFragments_tiles short positive fits units (Nat.zero_mod 8) nonempty le_rfl
    exact ⟨_, fragments, sent, tiles.reassembles nonempty⟩

/-- A client with packets of 1500 bytes. -/
theorem nnIpSendForInternet_reassembles_1500 :
    ∃ fuel fragments, nnIpSendForInternet 1480 1500 (List.replicate 4000 7) fuel =
        some fragments ∧
      Reassembles fragments (List.replicate 4000 7) :=
  (nnIpSendForInternet_reassembles 1480 1500
    (by rw [List.length_replicate]; omega) (by rw [List.length_replicate]; omega)).mpr
      ⟨by decide, by decide, by rw [List.length_replicate]; decide⟩

/-- A client with packets of 1021 bytes: the second fragment is one byte too early. -/
theorem not_nnIpSendForInternet_reassembles :
    ¬∀ ipMss maxL3Size payload, 0 < payload.length → payload.length ≤ 65535 →
      ∃ fuel fragments, nnIpSendForInternet ipMss maxL3Size payload fuel = some fragments ∧
        Reassembles fragments payload := by
  intro always
  obtain ⟨fuel, fragments, sent, reassembles⟩ :=
    always 1480 1021 (List.replicate 2000 7)
      (by rw [List.length_replicate]; omega) (by rw [List.length_replicate]; omega)
  have cut : sendFragments 1001 (List.replicate 2000 (7 : UInt8)).length (List.replicate 2000 7)
      fuel 0 = some fragments := by
    rw [← sent]
    unfold nnIpSendForInternet
    rw [List.length_replicate]
    rfl
  have sizes := reassembles.size_of_fragments cut
    (by rw [List.length_replicate]; omega) (by rw [List.length_replicate]; omega)
  rw [List.length_replicate] at sizes
  omega

/-! ## Reassembly in the user-mode NAT -/

namespace IpCombine

theorem registerPart_of_apart
    {fragment : IpPart}
    {parts : List IpPart}
    (nonempty : fragment.size ≠ 0)
    (small : fragment.stop < X32)
    (apart : ∀ p ∈ parts, fragment.Apart p ∧ p.size ≠ 0 ∧ p.stop < X32) :
    registerPart fragment parts = parts ++ [fragment] := by
  have kept : scan combineTurn fragment parts = (fragment, parts) := by
    induction parts with
    | nil => rfl
    | cons p parts inductionHypothesis =>
        obtain ⟨disjoint, filled, short⟩ := apart p List.mem_cons_self
        have turn : combineTurn fragment p = (fragment, p) := by
          have first := disjoint fragment.offset
          have last := disjoint (fragment.stop - 1)
          have inside := disjoint p.offset
          unfold ByteRange.Covers ByteRange.stop at first last inside
          unfold ByteRange.stop at small short
          have head : trimHead fragment p = fragment := by
            unfold trimHead
            rw [addUINT_of_lt small, addUINT_of_lt short, if_neg (by omega)]
          have tail : trimTail fragment p = fragment := by
            unfold trimTail
            rw [addUINT_of_lt small, addUINT_of_lt short, if_neg (by omega)]
          have blank : blankPart fragment p = p := by
            unfold blankPart
            rw [addUINT_of_lt small, addUINT_of_lt short, if_neg (by omega)]
          simp only [combineTurn, head, tail, blank]
        unfold scan
        dsimp only
        rw [turn, inductionHypothesis fun q listed => apart q (List.mem_cons_of_mem p listed)]
  unfold registerPart
  rw [kept]
  exact if_pos nonempty

end IpCombine

/-- A fragment of a datagram whose bytes are the payload. -/
structure IpFragment.Of (fragment : IpFragment) (payload : List UInt8) : Prop where
  nonempty : fragment.range.size ≠ 0
  inside : fragment.range.stop ≤ payload.length
  last : fragment.last = decide (fragment.range.stop = payload.length)
  bytes : ∀ position, fragment.range.Covers position →
    fragment.data[position - fragment.range.offset]? = payload[position]?

/-- Disjoint fragments of a datagram. -/
structure Pieces (fragments : List IpFragment) (payload : List UInt8) : Prop where
  pieces : ∀ fragment ∈ fragments, fragment.Of payload
  apart : PairwiseApart (fragments.map IpFragment.range)

/-- The object after some fragments, none of them twice. -/
structure IpCombine.Gathered
    (c : IpCombine)
    (gathered : List IpFragment)
    (payload : List UInt8) : Prop where
  parts : c.ipParts = gathered.map IpFragment.range
  size : c.size = if gathered.any IpFragment.last then payload.length else 0
  reserved : c.Reserved
  written : ∀ position, position ∈ covered c.ipParts →
    c.data[position]? = some payload[position]?

section

variable {payload : List UInt8} {gathered : List IpFragment} {fragment : IpFragment}

theorem Pieces.sublist
    {some_ fragments : List IpFragment}
    (pieces : Pieces fragments payload)
    (among : some_.Sublist fragments) :
    Pieces some_ payload :=
  ⟨fun piece listed => pieces.pieces piece (among.subset listed),
    pieces.apart.sublist (among.map IpFragment.range)⟩

theorem Pieces.perm
    {order fragments : List IpFragment}
    (pieces : Pieces fragments payload)
    (perm : fragments.Perm order) :
    Pieces order payload :=
  ⟨fun piece listed => pieces.pieces piece (perm.mem_iff.mpr listed),
    PairwiseApart.perm pieces.apart (perm.map IpFragment.range)⟩

theorem Pieces.lt_length
    (pieces : Pieces gathered payload)
    {position : Nat}
    (inside : position ∈ covered (gathered.map IpFragment.range)) :
    position < payload.length := by
  obtain ⟨range, listed, covers⟩ := inside
  obtain ⟨piece, present, rfl⟩ := List.mem_map.mp listed
  exact Nat.lt_of_lt_of_le covers.2 (pieces.pieces piece present).inside

namespace IpCombine

variable {c : IpCombine}

theorem Gathered.noteL3Size
    (holds : c.Gathered gathered payload) :
    (c.noteL3Size fragment).Gathered gathered payload :=
  ⟨holds.parts, holds.size, holds.reserved, holds.written⟩

theorem Gathered.accepts
    (holds : c.Gathered gathered payload)
    (piece : fragment.Of payload)
    (short : payload.length ≤ 65535) :
    c.accepts fragment = true := by
  rw [accepts_iff, holds.size]
  have inside := piece.inside
  refine ⟨by omega, fun _ known => ?_⟩
  split at known
  case isTrue ends =>
    rw [if_pos ends]
    exact inside
  case isFalse => exact absurd rfl known

theorem Gathered.store
    (holds : c.Gathered gathered payload)
    (pieces : Pieces (gathered ++ [fragment]) payload)
    (short : payload.length ≤ 65535) :
    (c.store fragment).Gathered (gathered ++ [fragment]) payload := by
  have piece : fragment.Of payload := pieces.pieces fragment (by simp)
  have inside := piece.inside
  have apart := pieces.apart
  unfold PairwiseApart at apart
  rw [List.map_append, List.pairwise_append] at apart
  obtain ⟨_, _, disjoint⟩ := apart
  have parts : (c.store fragment).ipParts = c.ipParts ++ [fragment.range] := by
    apply registerPart_of_apart piece.nonempty fragment.range_stop_lt
    intro p listed
    rw [holds.parts] at listed
    have apartP := disjoint p listed fragment.range (by simp)
    obtain ⟨earlier, present, rfl⟩ := List.mem_map.mp listed
    exact ⟨apartP.symm, (pieces.pieces earlier (by simp [present])).nonempty,
      earlier.range_stop_lt⟩
  obtain ⟨reserved, stored⟩ := store_data c holds.reserved (by omega : fragment.range.stop ≤ 65535)
  refine ⟨?_, ?_, reserved, ?_⟩
  · rw [parts, holds.parts, List.map_append]
    rfl
  · have last := piece.last
    rw [store_size, holds.size, List.any_append]
    cases ends : fragment.last with
    | false => simp [ends]
    | true =>
        rw [ends] at last
        have whole := of_decide_eq_true last.symm
        simp [ends, whole]
  · intro position covers
    rw [parts, mem_covered_append] at covers
    by_cases here : fragment.range.Covers position
    · rw [stored position (.inr here), if_pos here, piece.bytes position here]
    · have earlier : position ∈ covered c.ipParts := by
        refine covers.resolve_right ?_
        simpa using here
      have content := holds.written position earlier
      have inBuffer : position < c.data.length := by
        by_contra beyond
        rw [List.getElem?_eq_none (by omega)] at content
        exact absurd content (by simp)
      rw [stored position (.inl inBuffer), if_neg here, content]

theorem Gathered.complete_iff
    (holds : c.Gathered gathered payload)
    (pieces : Pieces gathered payload)
    (nonempty : 0 < payload.length)
    (short : payload.length ≤ 65535) :
    c.complete = true ↔ gathered.any IpFragment.last = true ∧
      totalSize (gathered.map IpFragment.range) = payload.length := by
  have bound := totalSize_le pieces.apart fun position => pieces.lt_length
  unfold complete
  rw [decide_eq_true_iff, Assembly.totalPartSize_eq, holds.parts, holds.size,
    Nat.mod_eq_of_lt (by unfold X32; omega)]
  by_cases ends : gathered.any IpFragment.last = true
  · simp only [ends, if_true, true_and, and_iff_right_iff_imp]
    omega
  · simp [ends]

theorem Gathered.datagram
    (holds : c.Gathered gathered payload)
    (pieces : Pieces gathered payload)
    (ends : gathered.any IpFragment.last = true)
    (full : totalSize (gathered.map IpFragment.range) = payload.length) :
    c.datagram.size = payload.length ∧ c.datagram.data = payload.map some := by
  have size : c.size = payload.length := by rw [holds.size, if_pos ends]
  refine ⟨size, ?_⟩
  ext1 position
  change (c.data.take c.size)[position]? = _
  rw [List.getElem?_take, List.getElem?_map, size]
  split
  case isTrue inside =>
    have covers := covered_of_totalSize_eq pieces.apart (fun position => pieces.lt_length) full inside
    rw [← holds.parts] at covers
    rw [holds.written position covers, List.getElem?_eq_getElem inside]
    rfl
  case isFalse outside =>
    rw [List.getElem?_eq_none (by omega)]
    rfl

namespace Assembly

variable {assembly : Assembly}

theorem step_gathered
    (open_ : assembly.delivered = none)
    (holds : assembly.combine.Gathered gathered payload)
    (pieces : Pieces (gathered ++ [fragment]) payload)
    (short : payload.length ≤ 65535) :
    ∃ after, assembly.step fragment = some after ∧
      after.combine.Gathered (gathered ++ [fragment]) payload ∧
      after.delivered =
        if after.combine.complete then some after.combine.datagram else none := by
  have piece : fragment.Of payload := pieces.pieces fragment (by simp)
  have noted : (assembly.combine.noteL3Size fragment).Gathered gathered payload :=
    holds.noteL3Size
  have combined : receiveFragment assembly.currentIpQuota assembly.combine fragment =
      combineIp assembly.currentIpQuota (assembly.combine.noteL3Size fragment) fragment := rfl
  unfold step
  rw [open_, combined]
  refine ⟨_, rfl, ?_⟩
  unfold combineIp
  rw [if_pos (noted.accepts piece short)]
  have stored := noted.store pieces short
  dsimp only
  split
  case isTrue complete => exact ⟨stored, rfl⟩
  case isFalse incomplete => exact ⟨stored, rfl⟩

theorem run_gathered
    {rest : List IpFragment}
    (open_ : assembly.delivered = none)
    (holds : assembly.combine.Gathered gathered payload)
    (pieces : Pieces (gathered ++ rest) payload)
    (short : payload.length ≤ 65535)
    (before : totalSize ((gathered ++ rest).map IpFragment.range) < payload.length) :
    ∃ after, run step rest assembly = some after ∧
      after.combine.Gathered (gathered ++ rest) payload ∧ after.delivered = none := by
  induction rest generalizing gathered assembly with
  | nil => exact ⟨assembly, rfl, by rwa [List.append_nil], open_⟩
  | cons fragment rest inductionHypothesis =>
      have regrouped : gathered ++ fragment :: rest = (gathered ++ [fragment]) ++ rest := by simp
      rw [regrouped] at pieces before ⊢
      have first : Pieces (gathered ++ [fragment]) payload :=
        pieces.sublist (List.sublist_append_left _ rest)
      obtain ⟨after, stepped, stored, delivered⟩ := step_gathered open_ holds first short
      have incomplete : ¬after.combine.complete = true := by
        rw [stored.complete_iff first (by omega) short]
        rintro ⟨_, full⟩
        rw [List.map_append, totalSize_append, full] at before
        omega
      rw [if_neg incomplete] at delivered
      unfold run
      rw [stepped]
      exact inductionHypothesis delivered stored pieces before

theorem step_delivers
    (open_ : assembly.delivered = none)
    (holds : assembly.combine.Gathered gathered payload)
    (pieces : Pieces (gathered ++ [fragment]) payload)
    (short : payload.length ≤ 65535)
    (nonempty : 0 < payload.length)
    (ends : (gathered ++ [fragment]).any IpFragment.last = true)
    (full : totalSize ((gathered ++ [fragment]).map IpFragment.range) = payload.length) :
    ∃ after datagram, assembly.step fragment = some after ∧
      after.delivered = some datagram ∧
        datagram.size = payload.length ∧ datagram.data = payload.map some := by
  obtain ⟨after, stepped, stored, delivered⟩ := step_gathered open_ holds pieces short
  rw [if_pos ((stored.complete_iff pieces nonempty short).mpr ⟨ends, full⟩)] at delivered
  exact ⟨after, _, stepped, delivered, stored.datagram pieces ends full⟩

theorem start_gathered
    {currentIpQuota now : Nat}
    {key : IpCombineKey}
    {macBroadcast srcIsLocalMac : Bool}
    {ttl : UInt8}
    {created : Nat × IpCombine}
    (inserted :
      insertIpCombine currentIpQuota now key macBroadcast ttl srcIsLocalMac =
        some created) :
    (start created).combine.Gathered [] payload := by
  unfold insertIpCombine at inserted
  split at inserted
  case isTrue => exact absurd inserted (by simp)
  case isFalse =>
    rw [← Option.some.inj inserted]
    refine ⟨rfl, rfl, ?_, fun position covers => ?_⟩
    · unfold Reserved start
      dsimp only
      rw [List.length_replicate]
      unfold IP_COMBINE_INITIAL_BUF_SIZE
      omega
    · exact absurd covers (by simp [start])

end Assembly

end IpCombine

end

/-- The fragment as `VirtualIpReceived` reads it; the other fields of its header do not matter. -/
def SentFragment.received (f : SentFragment) (header : Fin 20 → UInt8) : IpFragment where
  offsetField := f.offsetField
  moreFragments := f.moreFragments
  header := List.ofFn header
  data := f.data.take (f.totalLength.toNat - IPV4_HEADER_SIZE)
  offsetField_lt := f.offsetField.isLt
  totalLength_lt := by
    have bound := f.totalLength.toNat_lt
    rw [List.length_ofFn, List.length_take]
    unfold IPV4_HEADER_SIZE
    omega

namespace SentFragment.Carries

variable {f : SentFragment} {payload : List UInt8} {offset : Nat} {header : Fin 20 → UInt8}

theorem received_data (carries : f.Carries payload offset) :
    (f.received header).data = f.data := by
  change f.data.take (f.totalLength.toNat - IPV4_HEADER_SIZE) = f.data
  rw [carries.length, Nat.add_sub_cancel]
  exact List.take_length

theorem received_range (carries : f.Carries payload offset) :
    (f.received header).range = ⟨offset, f.data.length⟩ := by
  unfold IpFragment.range
  rw [carries.received_data]
  congr 1
  exact carries.start

theorem received_of (carries : f.Carries payload offset) :
    (f.received header).Of payload := by
  have nonempty := carries.nonempty
  have inside := carries.inside
  have range : (f.received header).range = ⟨offset, f.data.length⟩ := carries.received_range
  refine ⟨?_, ?_, ?_, fun position covers => ?_⟩
  · rw [range]
    exact nonempty.ne'
  · rw [range]
    exact inside
  · rw [range]
    change (!f.moreFragments) = decide (offset + f.data.length = payload.length)
    rw [carries.more, ← decide_not, decide_eq_decide]
    omega
  · rw [range, ByteRange.covers_mk] at covers
    rw [range, carries.received_data, Tiles.carries_getElem? carries (by dsimp only; omega)]
    congr 1
    dsimp only
    omega

end SentFragment.Carries

theorem Tiles.pieces
    {payload : List UInt8}
    {fragments : List SentFragment}
    {offset : Nat}
    (tiles : Tiles payload offset fragments)
    (headers : SentFragment → Fin 20 → UInt8) :
    Pieces (fragments.map fun f => f.received (headers f)) payload ∧
      offset + totalSize ((fragments.map fun f => f.received (headers f)).map IpFragment.range) =
        payload.length := by
  induction fragments generalizing offset with
  | nil => exact ⟨⟨fun _ listed => absurd listed List.not_mem_nil, List.Pairwise.nil⟩, tiles⟩
  | cons f rest inductionHypothesis =>
      obtain ⟨carries, others⟩ := tiles
      obtain ⟨⟨pieces, apart⟩, total⟩ := inductionHypothesis others
      have range : (f.received (headers f)).range = ⟨offset, f.data.length⟩ :=
        carries.received_range
      refine ⟨⟨?_, ?_⟩, ?_⟩
      · rw [List.map_cons, List.forall_mem_cons]
        exact ⟨carries.received_of, pieces⟩
      · refine List.Pairwise.cons ?_ apart
        simp only [List.mem_map, forall_exists_index, and_imp, forall_apply_eq_imp_iff₂]
        intro later listed position here there
        obtain ⟨start, behind, carriesLater⟩ := others.exists_carries listed
        rw [range, ByteRange.covers_mk] at here
        rw [carriesLater.received_range, ByteRange.covers_mk] at there
        omega
      · rw [List.map_cons, List.map_cons, totalSize_cons, range]
        dsimp only
        omega

theorem Tiles.any_last
    {payload : List UInt8}
    {fragments : List SentFragment}
    (tiles : Tiles payload 0 fragments)
    (headers : SentFragment → Fin 20 → UInt8)
    (nonempty : 0 < payload.length) :
    (fragments.map fun f => f.received (headers f)).any IpFragment.last = true := by
  obtain ⟨f, listed, last⟩ := (tiles.reassembles nonempty).ends
  rw [List.any_map, List.any_eq_true]
  refine ⟨f, listed, ?_⟩
  change (!f.moreFragments) = true
  rw [last]
  rfl

/-- **Fragments of the user-mode NAT.**  For every MTU the payload is sent in fragments that a new
object turns into one datagram with the same bytes, in every order, when the last one arrives. -/
theorem sendIpEx_combineIp
    (mtu : Nat)
    {payload : List UInt8}
    (nonempty : 0 < payload.length)
    (short : payload.length ≤ 65535)
    (headers : SentFragment → Fin 20 → UInt8)
    {currentIpQuota now : Nat}
    {key : IpCombineKey}
    {macBroadcast srcIsLocalMac : Bool}
    {ttl : UInt8}
    {created : Nat × IpCombine}
    (inserted :
      IpCombine.insertIpCombine currentIpQuota now key macBroadcast ttl srcIsLocalMac =
        some created) :
    ∃ fuel fragments, sendIpEx (ipMssOf mtu) payload fuel = some fragments ∧
      ∀ order : List IpFragment,
        order.Perm (fragments.map fun f => f.received (headers f)) →
          (∀ earlier fragment later, order = earlier ++ fragment :: later →
            ∃ assembly, run IpCombine.Assembly.step earlier (.start created) = some assembly ∧
              assembly.delivered = none) ∧
          ∃ assembly datagram,
            run IpCombine.Assembly.step order (.start created) = some assembly ∧
              assembly.delivered = some datagram ∧
                datagram.size = payload.length ∧ datagram.data = payload.map some := by
  have bounds : 40 ≤ ipMssOf mtu ∧ ipMssOf mtu ≤ 1480 ∧ ipMssOf mtu % 8 = 0 := by
    unfold ipMssOf
    dsimp only
    split <;> omega
  have total : payload.length % 65536 = payload.length := Nat.mod_eq_of_lt (by omega)
  obtain ⟨fragments, sent, tiles⟩ :
      ∃ fragments, sendFragments (ipMssOf mtu) payload.length payload payload.length 0 =
        some fragments ∧ Tiles payload 0 fragments :=
    sendFragments_tiles short (by omega) (by omega) (.inl (by omega)) (Nat.zero_mod 8) nonempty
      le_rfl
  obtain ⟨inOrder, full⟩ := tiles.pieces headers
  refine ⟨payload.length, fragments, ?_, fun order perm => ⟨?_, ?_⟩⟩
  · unfold sendIpEx
    rw [if_neg (by omega), total]
    exact sent
  · rintro earlier fragment later rfl
    have pieces := inOrder.perm perm.symm
    have missing := (pieces.pieces fragment (by simp)).nonempty
    rw [← totalSize_perm (perm.map IpFragment.range), List.map_append, totalSize_append,
      List.map_cons, totalSize_cons] at full
    obtain ⟨assembly, ran, _, waiting⟩ :=
      IpCombine.Assembly.run_gathered rfl (IpCombine.Assembly.start_gathered inserted)
        (pieces.sublist (List.sublist_append_left earlier _)) short (by rw [List.nil_append]; omega)
    exact ⟨assembly, ran, waiting⟩
  · have pieces := inOrder.perm perm.symm
    have ends := tiles.any_last headers nonempty
    rw [← totalSize_perm (perm.map IpFragment.range), Nat.zero_add] at full
    rw [← perm.any_eq] at ends
    induction order using List.reverseRecOn with
    | nil => exact absurd ends (by simp)
    | append_singleton earlier fragment _ =>
        have missing := (pieces.pieces fragment (by simp)).nonempty
        have before : totalSize (earlier.map IpFragment.range) < payload.length := by
          rw [← full, List.map_append, totalSize_append, List.map_singleton, totalSize_cons]
          omega
        obtain ⟨assembly, ran, gathered, waiting⟩ :=
          IpCombine.Assembly.run_gathered rfl (IpCombine.Assembly.start_gathered inserted)
            (pieces.sublist (List.sublist_append_left earlier _)) short before
        obtain ⟨after, datagram, stepped, delivered, content⟩ :=
          IpCombine.Assembly.step_delivers waiting gathered pieces short nonempty ends full
        exact ⟨after, datagram, run_append_singleton ran stepped, delivered, content⟩

/-- Three fragments of 4000 bytes that arrive in reverse order. -/
theorem sendIpEx_combineIp_reversed :
    ∃ fuel fragments,
      sendIpEx (ipMssOf 1500) (List.replicate 4000 7) fuel = some fragments ∧
        ∃ assembly datagram,
          run IpCombine.Assembly.step (fragments.map fun f => f.received fun _ => 69).reverse
              IpCombine.Assembly.exampleStart = some assembly ∧
            assembly.delivered = some datagram ∧ datagram.size = 4000 := by
  have inserted : IpCombine.insertIpCombine 0 0 IpCombine.Assembly.exampleKey false 64 false =
      some (IP_COMBINE_INITIAL_BUF_SIZE, IpCombine.Assembly.exampleCombine) := by
    unfold IpCombine.insertIpCombine IpCombine.Assembly.exampleCombine
    rw [if_neg (by decide)]
    rfl
  obtain ⟨fuel, fragments, sent, always⟩ :=
    sendIpEx_combineIp 1500
      (by rw [List.length_replicate]; omega : 0 < (List.replicate 4000 (7 : UInt8)).length)
      (by rw [List.length_replicate]; omega)
      (fun _ _ => 69) inserted
  obtain ⟨_, assembly, datagram, ran, delivered, size, _⟩ :=
    always _ (List.reverse_perm _)
  rw [List.length_replicate] at size
  exact ⟨fuel, fragments, sent, assembly, datagram, ran, delivered, size⟩

end SoftEther
