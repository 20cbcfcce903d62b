import SoftEther.Library.Reading
import SoftEther.Mayaqua.TcpIp.DhcpModify

/-!
# DHCP options

What `BuildDhcpOptionsBuf` writes is read back by `ParseDhcpOptions`, options of more than
255 bytes included: their data goes on in options with the private number, which the
parser joins to the option before them.  An option area from elsewhere may hold pads of
one byte.
-/

namespace SoftEther
namespace TcpIp

open Library

/-- An option of at most 255 bytes as it lies in an option area. -/
def optionBytes (c : UInt8) (data : List UInt8) : List UInt8 :=
  c :: UInt8.ofNat data.length :: data

theorem toNat_ofNat_le
    {size : Nat}
    (fits : size ≤ 255) :
    (UInt8.ofNat size).toNat = size := by
  rw [UInt8.toNat_ofNat', Nat.mod_eq_of_lt (Nat.lt_succ_of_le fits)]

theorem hasEffect_optionBytes
    {c : UInt8}
    {data : List UInt8}
    (option : c ≠ 0xff)
    (fits : data.length ≤ 255) :
    HasEffect parseDhcpOptionsFrom (optionBytes c data) fun o => addDhcpOption o c data := by
  intro o rest
  have size := toNat_ofNat_le fits
  have inside : (UInt8.ofNat data.length).toNat ≤ data.length := size.le
  have whole : readPadded data data.length = data := by
    rw [readPadded, List.take_length, Nat.sub_self, List.replicate_zero, List.append_nil]
  rw [optionBytes, parseDhcpOptionsFrom_append option o inside, size, whole, List.drop_length,
    List.nil_append]

theorem addDhcpOption_new
    (o : List DhcpOption)
    {c : UInt8}
    (public_ : c ≠ DHCP_ID_PRIVATE)
    (data : List UInt8) :
    addDhcpOption o c data = o ++ [⟨c, data⟩] := by
  unfold addDhcpOption
  cases o.getLast? with
  | none => rfl
  | some last => exact if_neg public_

theorem addDhcpOption_private
    (o : List DhcpOption)
    (last : DhcpOption)
    (data : List UInt8) :
    addDhcpOption (o ++ [last]) DHCP_ID_PRIVATE data =
      o ++ [⟨last.id, last.data ++ data⟩] := by
  unfold addDhcpOption
  rw [List.getLast?_concat, List.dropLast_concat]
  exact if_pos rfl

theorem parseDhcpOptionsFrom_buildMore
    {rounds : Nat}
    {data : List UInt8}
    (enough : data.length ≤ rounds)
    (o : List DhcpOption)
    (last : DhcpOption)
    (rest : List UInt8) :
    parseDhcpOptionsFrom (o ++ [last]) (buildMore rounds data ++ rest) =
      parseDhcpOptionsFrom (o ++ [⟨last.id, last.data ++ data⟩]) rest := by
  induction rounds generalizing data last with
  | zero =>
      obtain rfl : data = [] := List.length_eq_zero_iff.mp (Nat.le_zero.mp enough)
      rw [List.append_nil]
      rfl
  | succ rounds inductionHypothesis =>
      by_cases nothing : data = []
      · rw [buildMore, if_pos nothing, nothing, List.append_nil]
        rfl
      · have some_ : data.length ≠ 0 := fun none => nothing (List.length_eq_zero_iff.mp none)
        have atMost : (data.take 255).length ≤ 255 := List.length_take_le 255 data
        have length : (data.take 255).length = min data.length 255 := by
          rw [List.length_take, Nat.min_comm]
        have fewer : (data.drop 255).length ≤ rounds := by
          rw [List.length_drop]
          omega
        have chunk : buildMore (rounds + 1) data ++ rest =
            optionBytes DHCP_ID_PRIVATE (data.take 255) ++
              (buildMore rounds (data.drop 255) ++ rest) := by
          rw [buildMore, if_neg nothing, optionBytes, length]
          simp
        have option : DHCP_ID_PRIVATE ≠ 0xff := by decide
        rw [chunk, hasEffect_optionBytes option atMost]
        dsimp only
        rw [addDhcpOption_private, inductionHypothesis fewer, List.append_assoc,
          List.take_append_drop]

theorem hasEffect_buildDhcpOption
    {d : DhcpOption}
    (option : d.id ≠ 0xff)
    (public_ : d.id ≠ DHCP_ID_PRIVATE) :
    HasEffect parseDhcpOptionsFrom (buildDhcpOption d) fun o => o ++ [d] := by
  intro o rest
  have atMost : (d.data.take 255).length ≤ 255 := List.length_take_le 255 d.data
  have length : (d.data.take 255).length = min d.data.length 255 := by
    rw [List.length_take, Nat.min_comm]
  have enough : (d.data.drop 255).length ≤ d.data.length := by
    rw [List.length_drop]
    omega
  have first : buildDhcpOption d ++ rest =
      optionBytes d.id (d.data.take 255) ++
        (buildMore d.data.length (d.data.drop 255) ++ rest) := by
    rw [buildDhcpOption, optionBytes, length]
    simp
  rw [first, hasEffect_optionBytes option atMost]
  dsimp only
  rw [addDhcpOption_new o public_, parseDhcpOptionsFrom_buildMore enough, List.take_append_drop]

theorem foldl_concat (o new : List DhcpOption) :
    new.foldl (fun o d => o ++ [d]) o = o ++ new := by
  induction new generalizing o with
  | nil => exact (List.append_nil o).symm
  | cons d new inductionHypothesis =>
      rw [List.foldl_cons, inductionHypothesis, List.append_assoc, List.singleton_append]

/-- An option whose number neither ends an option area nor carries on another option. -/
structure PublicOption extends DhcpOption where
  notEnd : id ≠ 0xff
  notPrivate : id ≠ DHCP_ID_PRIVATE

/-- `ParseDhcpOptions` reads back every list of options that `BuildDhcpOptionsBuf` wrote, with
data of any size. -/
theorem parseDhcpOptions_build (o : List PublicOption) :
    parseDhcpOptions (buildDhcpOptionsBuf (o.map PublicOption.toDhcpOption)) =
      o.map PublicOption.toDhcpOption := by
  have each : ∀ d ∈ o.map PublicOption.toDhcpOption,
      HasEffect parseDhcpOptionsFrom (buildDhcpOption d) fun o => o ++ [d] := by
    intro d listed
    obtain ⟨option, _, rfl⟩ := List.mem_map.mp listed
    exact hasEffect_buildDhcpOption option.notEnd option.notPrivate
  rw [parseDhcpOptions, buildDhcpOptionsBuf, HasEffect.flatMap each]
  dsimp only
  rw [foldl_concat, List.nil_append, parseDhcpOptionsFrom_end]

/-! ## Option areas -/

structure SizedOption extends DhcpOption where
  notPad : id ≠ 0
  notEnd : id ≠ 0xff
  fits : data.length ≤ 255

/-- An option with a length byte, when it is one. -/
def sizedOption? (d : DhcpOption) : Option SizedOption :=
  if sized : d.id ≠ 0 ∧ d.id ≠ 0xff ∧ d.data.length ≤ 255 then
    some ⟨d, sized.1, sized.2.1, sized.2.2⟩
  else none

/-- A member of an option area. -/
inductive OptionItem
  | pad
  | option (d : SizedOption)

inductive AreaEnd
  | buffer
  | mark (behind : List UInt8)

structure OptionArea where
  /-- Its members. -/
  items : List OptionItem
  ending : AreaEnd

def OptionItem.bytes : OptionItem → List UInt8
  | .pad => [0]
  | .option d => optionBytes d.id d.data

def AreaEnd.bytes : AreaEnd → List UInt8
  | .buffer => []
  | .mark behind => 0xff :: behind

def OptionArea.bytes (area : OptionArea) : List UInt8 :=
  area.items.flatMap OptionItem.bytes ++ area.ending.bytes

def OptionItem.option? : OptionItem → Option DhcpOption
  | .pad => none
  | .option d => some d.toDhcpOption

def OptionArea.options (area : OptionArea) : List DhcpOption :=
  area.items.filterMap OptionItem.option?

/-- Options of which the first one is carried on by private options. -/
def joinBehind (first : DhcpOption) : List DhcpOption → List DhcpOption
  | [] => [first]
  | next :: rest =>
      if next.id = DHCP_ID_PRIVATE then joinBehind ⟨first.id, first.data ++ next.data⟩ rest
      else first :: joinBehind next rest

/-- The options when the private ones carry on the option before them. -/
def joinPrivate : List DhcpOption → List DhcpOption
  | [] => []
  | first :: rest => joinBehind first rest

theorem foldl_addDhcpOption
    (o : List DhcpOption)
    (first : DhcpOption)
    (rest : List DhcpOption) :
    rest.foldl (fun o d => addDhcpOption o d.id d.data) (o ++ [first]) =
      o ++ joinBehind first rest := by
  induction rest generalizing o first with
  | nil => rfl
  | cons next rest inductionHypothesis =>
      rw [List.foldl_cons, joinBehind]
      by_cases private_ : next.id = DHCP_ID_PRIVATE
      · rw [if_pos private_, private_, addDhcpOption_private, inductionHypothesis]
      · rw [if_neg private_, addDhcpOption_new (o ++ [first]) private_, inductionHypothesis,
          List.append_assoc, List.singleton_append]

theorem foldl_addDhcpOption_nil (o : List DhcpOption) :
    o.foldl (fun o d => addDhcpOption o d.id d.data) [] = joinPrivate o := by
  cases o with
  | nil => rfl
  | cons first rest => exact foldl_addDhcpOption [] first rest

theorem hasEffect_options (ds : List SizedOption) :
    HasEffect parseDhcpOptionsFrom (ds.flatMap fun d => optionBytes d.id d.data) fun o =>
      ds.foldl (fun o d => addDhcpOption o d.id d.data) o :=
  HasEffect.flatMap fun d _ => hasEffect_optionBytes d.notEnd d.fits

theorem parseDhcpOptionsFrom_ending (o : List DhcpOption) (ending : AreaEnd) :
    parseDhcpOptionsFrom o ending.bytes = o := by
  cases ending with
  | buffer => exact parseDhcpOptionsFrom_nil o
  | mark behind => exact parseDhcpOptionsFrom_end o behind

/-- No pad is in the area, or a single one as its last byte. -/
def OptionArea.Unpadded (area : OptionArea) : Prop :=
  ∃ ds : List SizedOption,
    area.items = ds.map .option ∨ (area.items = ds.map .option ++ [.pad] ∧ area.ending = .buffer)

theorem options_bytes (ds : List SizedOption) :
    (ds.map OptionItem.option).flatMap OptionItem.bytes =
        ds.flatMap (fun d => optionBytes d.id d.data) ∧
      (ds.map OptionItem.option).filterMap OptionItem.option? =
        ds.map SizedOption.toDhcpOption := by
  constructor
  · rw [List.flatMap_map]
    rfl
  · rw [List.filterMap_map]
    change ds.filterMap (some ∘ SizedOption.toDhcpOption) = _
    rw [List.filterMap_eq_map]

/-- Options without a pad in front of something are returned in their order, with the data of
the private options behind the option that they carry on. -/
theorem parseDhcpOptions_unpadded
    {area : OptionArea}
    (unpadded : area.Unpadded) :
    parseDhcpOptions area.bytes = joinPrivate area.options := by
  obtain ⟨ds, items⟩ := unpadded
  obtain ⟨bytes, options⟩ := options_bytes ds
  have joined : ds.foldl (fun o d => addDhcpOption o d.id d.data) [] =
      joinPrivate (ds.map SizedOption.toDhcpOption) := by
    rw [← foldl_addDhcpOption_nil, List.foldl_map]
  obtain items | ⟨items, ending⟩ := items
  · rw [OptionArea.bytes, OptionArea.options, items, bytes, options, parseDhcpOptions,
      hasEffect_options, parseDhcpOptionsFrom_ending]
    exact joined
  · rw [OptionArea.bytes, OptionArea.options, items, ending, List.flatMap_append,
      List.filterMap_append, bytes, options, parseDhcpOptions, List.append_assoc,
      hasEffect_options]
    have last : parseDhcpOptionsFrom (ds.foldl (fun o d => addDhcpOption o d.id d.data) [])
        ([OptionItem.pad].flatMap OptionItem.bytes ++ AreaEnd.buffer.bytes) =
        ds.foldl (fun o d => addDhcpOption o d.id d.data) [] :=
      parseDhcpOptionsFrom_single _ 0
    dsimp only
    rw [last, joined]
    exact congrArg joinPrivate (List.append_nil _).symm

/-- The message type of an acknowledgment, with a byte that a private option carries on, and a
subnet mask. -/
def exampleOptions : List SizedOption :=
  [DhcpOption.mk DHCP_ID_MESSAGE_TYPE [5], ⟨DHCP_ID_PRIVATE, [7]⟩,
    ⟨1, [255, 255, 255, 0]⟩].filterMap sizedOption?

/-- These options with something behind the end mark. -/
def exampleArea : OptionArea where
  items := exampleOptions.map .option
  ending := .mark [0, 0]

/-- Two options are returned, the first one with two bytes. -/
theorem parseDhcpOptions_unpadded_example :
    parseDhcpOptions exampleArea.bytes = joinPrivate exampleArea.options ∧
      joinPrivate exampleArea.options =
        [⟨DHCP_ID_MESSAGE_TYPE, [5, 7]⟩, ⟨1, [255, 255, 255, 0]⟩] :=
  ⟨parseDhcpOptions_unpadded ⟨exampleOptions, .inl rfl⟩, by decide⟩

/-- The private option is not returned as an option. -/
theorem parseDhcpOptions_notSeparate :
    ¬∀ area : OptionArea, parseDhcpOptions area.bytes = area.options := by
  intro separate
  exact absurd (separate exampleArea) (by decide)

/-! ## Pads -/

def HoldsPad (o : List DhcpOption) : Prop :=
  ∃ d ∈ o, d.id = 0

/-- No round of the parser takes such an option away. -/
theorem HoldsPad.add
    {o : List DhcpOption}
    (holds : HoldsPad o)
    (c : UInt8)
    (data : List UInt8) :
    HoldsPad (addDhcpOption o c data) := by
  obtain ⟨d, listed, pad⟩ := holds
  by_cases private_ : c = DHCP_ID_PRIVATE
  · obtain ⟨before, last, rfl⟩ := List.eq_nil_or_concat' o |>.resolve_left
      (List.ne_nil_of_mem listed)
    rw [private_, addDhcpOption_private]
    obtain old | new := List.mem_append.mp listed
    · exact ⟨d, List.mem_append_left _ old, pad⟩
    · obtain rfl := List.mem_singleton.mp new
      exact ⟨_, List.mem_append_right _ (List.mem_singleton_self _), pad⟩
  · rw [addDhcpOption_new o private_]
    exact ⟨d, List.mem_append_left _ listed, pad⟩

theorem HoldsPad.parse
    {o : List DhcpOption}
    (holds : HoldsPad o)
    (b : List UInt8) :
    HoldsPad (parseDhcpOptionsFrom o b) := by
  induction b using options_induction generalizing o with
  | nil => exact holds
  | marked b =>
      rw [parseDhcpOptionsFrom_end]
      exact holds
  | single c option => exact holds
  | beyond c sz b option short =>
      rw [parseDhcpOptionsFrom_cons option, List.drop_eq_nil_of_le short.le]
      exact holds.add c _
  | option c sz b option inside inductionHypothesis =>
      rw [parseDhcpOptionsFrom_cons option]
      exact inductionHypothesis (holds.add c _)

theorem holdsPad_of_pad
    (o : List DhcpOption)
    {b : List UInt8}
    (more : b ≠ []) :
    HoldsPad (parseDhcpOptionsFrom o (0 :: b)) := by
  obtain ⟨sz, rest, rfl⟩ := List.exists_cons_of_ne_nil more
  have option : (0 : UInt8) ≠ 0xff := by decide
  have public_ : (0 : UInt8) ≠ DHCP_ID_PRIVATE := by decide
  have added : HoldsPad (addDhcpOption o 0 (readPadded rest sz.toNat)) := by
    rw [addDhcpOption_new o public_]
    exact ⟨_, List.mem_append_right _ (List.mem_singleton_self _), rfl⟩
  rw [parseDhcpOptionsFrom_cons option]
  exact added.parse _

theorem id_of_mem_joinBehind
    {first d : DhcpOption}
    {rest : List DhcpOption}
    (listed : d ∈ joinBehind first rest) :
    ∃ other ∈ first :: rest, other.id = d.id := by
  induction rest generalizing first with
  | nil => exact ⟨first, List.mem_cons_self, by rw [List.mem_singleton.mp listed]⟩
  | cons next rest inductionHypothesis =>
      rw [joinBehind] at listed
      split at listed
      case isTrue =>
        obtain ⟨other, among, same⟩ := inductionHypothesis listed
        obtain rfl | behind := List.mem_cons.mp among
        · exact ⟨first, List.mem_cons_self, same⟩
        · exact ⟨other, List.mem_cons_of_mem _ (List.mem_cons_of_mem _ behind), same⟩
      case isFalse =>
        obtain rfl | behind := List.mem_cons.mp listed
        · exact ⟨_, List.mem_cons_self, rfl⟩
        · obtain ⟨other, among, same⟩ := inductionHypothesis behind
          exact ⟨other, List.mem_cons_of_mem _ among, same⟩

theorem not_holdsPad_options (area : OptionArea) : ¬HoldsPad (joinPrivate area.options) := by
  have noPad : ∀ d ∈ area.options, d.id ≠ 0 := by
    intro d listed
    obtain ⟨item, _, same⟩ := List.mem_filterMap.mp listed
    cases item with
    | pad => cases same
    | option sized =>
        cases same
        exact sized.notPad
  rintro ⟨d, listed, pad⟩
  cases options : area.options with
  | nil =>
      rw [options] at listed
      cases listed
  | cons first rest =>
      rw [options] at listed noPad
      obtain ⟨other, among, same⟩ := id_of_mem_joinBehind listed
      exact noPad other among (same.trans pad)

theorem exists_firstPad (items : List OptionItem) :
    ∃ ds : List SizedOption, items = ds.map .option ∨
      ∃ rest, items = ds.map .option ++ .pad :: rest := by
  induction items with
  | nil => exact ⟨[], .inl rfl⟩
  | cons item items inductionHypothesis =>
      cases item with
      | pad => exact ⟨[], .inr ⟨items, rfl⟩⟩
      | option d =>
          obtain ⟨ds, all | ⟨rest, before⟩⟩ := inductionHypothesis
          · exact ⟨d :: ds, .inl (by rw [all]; rfl)⟩
          · exact ⟨d :: ds, .inr ⟨rest, by rw [before]; rfl⟩⟩

theorem parseDhcpOptions_eq_iff (area : OptionArea) :
    parseDhcpOptions area.bytes = joinPrivate area.options ↔ area.Unpadded := by
  constructor
  · intro returns
    obtain ⟨ds, all | ⟨rest, before⟩⟩ := exists_firstPad area.items
    · exact ⟨ds, .inl all⟩
    obtain ⟨bytes, _⟩ := options_bytes ds
    by_cases more : rest.flatMap OptionItem.bytes ++ area.ending.bytes = []
    · obtain ⟨nothing, end_⟩ := List.append_eq_nil_iff.mp more
      refine ⟨ds, .inr ⟨?_, ?_⟩⟩
      · cases rest with
        | nil => exact before
        | cons item items =>
            cases item with
            | pad => cases nothing
            | option d => cases nothing
      · cases ending : area.ending with
        | buffer => rfl
        | mark behind =>
            rw [ending] at end_
            cases end_
    · exfalso
      apply not_holdsPad_options area
      rw [← returns, OptionArea.bytes, before, List.flatMap_append, bytes, List.append_assoc,
        parseDhcpOptions, hasEffect_options]
      exact holdsPad_of_pad _ more
  · rintro ⟨ds, items⟩
    obtain ⟨bytes, options⟩ := options_bytes ds
    have joined : ds.foldl (fun o d => addDhcpOption o d.id d.data) [] =
        joinPrivate (ds.map SizedOption.toDhcpOption) := by
      rw [← foldl_addDhcpOption_nil, List.foldl_map]
    obtain items | ⟨items, ending⟩ := items
    · rw [OptionArea.bytes, OptionArea.options, items, bytes, options, parseDhcpOptions,
        hasEffect_options, parseDhcpOptionsFrom_ending]
      exact joined
    · rw [OptionArea.bytes, OptionArea.options, items, ending, List.flatMap_append,
        List.filterMap_append, bytes, options, parseDhcpOptions, List.append_assoc,
        hasEffect_options]
      have last : parseDhcpOptionsFrom (ds.foldl (fun o d => addDhcpOption o d.id d.data) [])
          ([OptionItem.pad].flatMap OptionItem.bytes ++ AreaEnd.buffer.bytes) =
          ds.foldl (fun o d => addDhcpOption o d.id d.data) [] :=
        parseDhcpOptionsFrom_single _ 0
      dsimp only
      rw [last, joined]
      exact congrArg joinPrivate (List.append_nil _).symm

end TcpIp
end SoftEther
