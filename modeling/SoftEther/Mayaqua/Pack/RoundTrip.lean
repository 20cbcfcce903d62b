import SoftEther.Mayaqua.KeyedList
import SoftEther.Mayaqua.Pack.Defs

/-!
# A pack is read back

A pack that was built has no two elements with names that `StrCmpi` takes for the same, so
each element that is read from the buffer finds no other of its name and is added.
-/

namespace SoftEther
namespace Pack

open Library

/-! ## Packs that were built -/

def names (items : List ELEMENT) : List CString :=
  items.map ELEMENT.name

/-- No two of the names are the same for `StrCmpi`. -/
def Distinct (names : List CString) : Prop :=
  names.Pairwise fun earlier later => strCmpi earlier later ≠ .eq

theorem strCmpi_ne_eq_symm
    {left right : CString}
    (different : strCmpi left right ≠ .eq) :
    strCmpi right left ≠ .eq :=
  fun same => different (Std.OrientedCmp.eq_symm same)

theorem Distinct.perm
    {names others : List CString}
    (distinct : Distinct names)
    (perm : names.Perm others) :
    Distinct others :=
  perm.pairwise distinct strCmpi_ne_eq_symm

/-- What holds of every pack that was built. -/
structure PACK.Valid (p : PACK) : Prop where
  ordered : p.elements.sorted = true →
    (names p.elements.items).Pairwise fun earlier later => (strCmpi earlier later).isLE = true
  distinct : Distinct (names p.elements.items)
  few : p.elements.num ≤ MAX_ELEMENT_NUM
  nonempty : ∀ e ∈ p.elements.items, e.values.length ≠ 0

theorem elementName_name (e : ELEMENT) : elementName e.name = e.name :=
  strCpy_of_le e.nameFits

instance : Std.TransCmp comparePackName :=
  transCmp_image ELEMENT.name strCmpi

section Search

variable {p : PACK} {name : CString}

theorem search_items_perm : ((p.search name).2.elements.items).Perm p.elements.items :=
  MayaquaList.search_perm comparePackName (fun e => strCmpi (elementName name) e.name) p.elements

theorem search_ordered
    (valid : p.Valid) :
    (p.search name).2.elements.sorted = true ∧
      (names (p.search name).2.elements.items).Pairwise fun earlier later =>
        (strCmpi earlier later).isLE = true := by
  have truthful : p.elements.sorted = true →
      p.elements.items.Pairwise fun earlier later =>
        (comparePackName earlier later).isLE = true :=
    fun sorted => List.pairwise_map.mp (valid.ordered sorted)
  obtain ⟨items, sorted, inOrder⟩ := MayaquaList.ensureSorted_ordered truthful
  change (p.elements.ensureSorted comparePackName).sorted = true ∧ (names
    (p.elements.ensureSorted comparePackName).items).Pairwise _
  rw [sorted]
  exact ⟨rfl, List.pairwise_map.mpr inOrder⟩

theorem PACK.Valid.search
    (valid : p.Valid)
    (name : CString) :
    (p.search name).2.Valid where
  ordered := fun _ => (search_ordered valid).2
  distinct := valid.distinct.perm (search_items_perm.map _).symm
  few := search_items_perm.length_eq.trans_le valid.few
  nonempty := fun e listed => valid.nonempty e (search_items_perm.mem_iff.mp listed)

theorem search_none
    (valid : p.Valid)
    (searched : (p.search name).1 = none) :
    ∀ e ∈ p.elements.items, strCmpi (elementName name) e.name ≠ .eq := by
  intro e listed same
  have inOrder : OrderedFor (fun e : ELEMENT => strCmpi (elementName name) e.name)
      (p.search name).2.elements.items := by
    refine (List.pairwise_map.mp (search_ordered valid).2).imp ?_
    intro earlier later before
    constructor
    · exact fun below => Std.TransCmp.lt_of_lt_of_isLE below before
    · intro above
      rw [Std.OrientedCmp.gt_iff_lt] at above ⊢
      exact Std.TransCmp.lt_of_isLE_of_lt before above
  have found := bsearch_complete (Nat.le_refl _) inOrder
    (search_items_perm.mem_iff.mpr listed) same
  change (p.search name).1.isSome = true at found
  rw [searched] at found
  exact absurd found Bool.false_ne_true

end Search

/-! ### Adding elements -/

theorem addElement_valid
    {p : PACK}
    (valid : p.Valid)
    (e : Option ELEMENT) :
    (p.addElement e).2.Valid := by
  unfold PACK.addElement
  cases e with
  | none => exact valid
  | some e =>
      dsimp only
      split
      case isTrue => exact valid
      case isFalse room =>
        split
        case isTrue => exact valid.search e.name
        case isFalse absent =>
          split
          case isTrue => exact valid.search e.name
          case isFalse nonempty =>
            have new := search_none valid (Option.not_isSome_iff_eq_none.mp absent)
            rw [elementName_name] at new
            have sameNumber : (p.search e.name).2.elements.items.length = p.elements.num :=
              search_items_perm.length_eq
            refine ⟨fun sorted => absurd sorted Bool.false_ne_true, ?_, ?_, ?_⟩
            · change Distinct (names ((p.search e.name).2.elements.items ++ [e]))
              unfold Distinct names
              rw [List.map_append, List.pairwise_append]
              refine ⟨(valid.search e.name).distinct, List.pairwise_singleton _ _, ?_⟩
              intro name listed other single
              obtain ⟨old, present, rfl⟩ := List.mem_map.mp listed
              rw [List.mem_singleton.mp single]
              exact strCmpi_ne_eq_symm (new old (search_items_perm.mem_iff.mp present))
            · change ((p.search e.name).2.elements.items ++ [e]).length ≤ MAX_ELEMENT_NUM
              rw [List.length_append, List.length_singleton, sameNumber]
              exact Nat.lt_of_not_le room
            · intro other listed
              obtain old | same := List.mem_append.mp listed
              · exact (valid.search e.name).nonempty other old
              · rw [List.mem_singleton.mp same]
                exact nonempty

theorem write_valid
    {p : PACK}
    {old new : ELEMENT}
    (valid : p.Valid)
    (sameName : new.name = old.name)
    (nonempty : new.values.length ≠ 0) :
    (PACK.mk (p.elements.write old new)).Valid := by
  have sameNames : names (p.elements.items.replace old new) = names p.elements.items :=
    KeyedList.map_key_replace sameName p.elements.items
  refine ⟨fun sorted => ?_, ?_, ?_, ?_⟩
  · change (names (p.elements.items.replace old new)).Pairwise _
    rw [sameNames]
    exact valid.ordered sorted
  · change Distinct (names (p.elements.items.replace old new))
    rw [sameNames]
    exact valid.distinct
  · change (p.elements.items.replace old new).length ≤ MAX_ELEMENT_NUM
    rw [List.length_replace]
    exact valid.few
  · intro e listed
    by_cases before : e ∈ p.elements.items
    · exact valid.nonempty e before
    · rw [KeyedList.eq_of_mem_replace listed before]
      exact nonempty

theorem addValueEx_valid
    {p : PACK}
    {name : CString}
    {v : VALUE}
    {index total : Nat}
    {result : Option ELEMENT × PACK}
    (valid : p.Valid)
    (added : p.addValueEx name v index total = some result) :
    result.2.Valid := by
  have create {q : PACK} (valid : q.Valid)
      (created : (if index < total then
        some (if (q.addElement (some (newArrayElement name v index total))).1
          then some (newArrayElement name v index total) else none,
          (q.addElement (some (newArrayElement name v index total))).2)
        else none) = some result) :
      result.2.Valid := by
    split at created
    case isTrue =>
      rw [← Option.some.inj created]
      exact addElement_valid valid _
    case isFalse => exact nomatch created
  have searched := valid.search name
  unfold PACK.addValueEx at added
  split at added
  case isTrue =>
    rw [← Option.some.inj added]
    exact valid
  case isFalse =>
    dsimp only at added
    generalize p.search name = found at added searched
    obtain ⟨found, q⟩ := found
    cases found with
    | none => exact create searched added
    | some e =>
        dsimp only at added searched
        split at added
        case isFalse => exact create searched added
        case isTrue sameType =>
          split at added
          case isFalse =>
            rw [← Option.some.inj added]
            exact searched
          case isTrue =>
            split at added
            case isFalse => exact nomatch added
            case isTrue inside =>
              rw [← Option.some.inj added]
              refine write_valid searched rfl ?_
              change (e.values.set index (some v)).length ≠ 0
              rw [List.length_set]
              omega

theorem newPack_valid : newPack.Valid :=
  ⟨fun _ => .nil, .nil, Nat.zero_le _, fun _ listed => nomatch listed⟩

theorem Built.valid {p : PACK} (built : Built p) : p.Valid := by
  induction built with
  | newPack => exact newPack_valid
  | addElement e _ inductionHypothesis => exact addElement_valid inductionHypothesis e
  | addValueEx _ added inductionHypothesis => exact addValueEx_valid inductionHypothesis added

/-! ## Reading what was written -/

def VALUE.size : VALUE → Nat
  | .int _ => 4
  | .int64 _ => 8
  | .data bytes => bytes.length
  | .str s => s.str.strLen + 1
  | .unistr s => (uniToUtf8 s.str).length + 1

/-- The counts and sizes of the element stay within the limits. -/
structure ELEMENT.Fits (e : ELEMENT) : Prop where
  valueNum : e.values.length ≤ MAX_VALUE_NUM
  valueSize : ∀ v, some v ∈ e.values → v.size ≤ MAX_VALUE_SIZE

/-- The counts and sizes of every element stay within the limits. -/
def PACK.Fits (p : PACK) : Prop :=
  ∀ e ∈ p.elements.items, e.Fits

theorem Built.getD
    {p : PACK}
    (built : Built p)
    (name : CString)
    (v : VALUE)
    (index total : Nat) :
    Built ((p.addValueEx name v index total).getD (none, p)).2 := by
  cases added : p.addValueEx name v index total with
  | none => exact built
  | some result => exact built.addValueEx added

theorem perm_of_addElement
    {p q : PACK}
    {e : Option ELEMENT}
    (added : p.addElement e = (true, q)) :
    ∃ new, e = some new ∧ q.elements.items.Perm (p.elements.items ++ [new]) := by
  unfold PACK.addElement at added
  cases e with
  | none => cases added
  | some new =>
      dsimp only at added
      split at added
      case isTrue => cases added
      case isFalse =>
        split at added
        case isTrue => cases added
        case isFalse =>
          split at added
          case isTrue => cases added
          case isFalse =>
            obtain ⟨_, rfl⟩ := Prod.mk.inj added
            exact ⟨new, rfl, search_items_perm.append_right [new]⟩

theorem valueNum_of_readElement
    {unread : List UInt8}
    {e : ELEMENT}
    (read : (readElement unread).1 = some e) :
    e.values.length ≤ MAX_VALUE_NUM := by
  have all : ∀ type num unread, (readValues type num unread).1.length = num := by
    intro type num
    induction num with
    | zero => exact fun _ => rfl
    | succ num inductionHypothesis =>
        exact fun unread => congrArg Nat.succ (inductionHypothesis _)
  unfold readElement at read
  dsimp only at read
  split at read
  case isTrue => cases read
  case isFalse =>
    split at read
    case isTrue => cases read
    case isFalse few =>
      unfold readElementValues newElement at read
      dsimp only at read
      split at read
      case isTrue => cases read
      case isFalse =>
        rw [← Option.some.inj read]
        exact (all _ _ _).trans_le (Nat.not_lt.mp few)

theorem readElements_accepts
    {num : Nat}
    {p q : PACK}
    {unread rest : List UInt8}
    (valid : p.Valid)
    (few : ∀ e ∈ p.elements.items, e.values.length ≤ MAX_VALUE_NUM)
    (read : readElements num p unread = (true, q, rest)) :
    q.Valid ∧ (∀ e ∈ q.elements.items, e.values.length ≤ MAX_VALUE_NUM) ∧
      q.elements.num = p.elements.num + num := by
  induction num generalizing p unread with
  | zero =>
      obtain ⟨rfl, _⟩ := Prod.mk.inj (Prod.mk.inj read).2
      exact ⟨valid, few, rfl⟩
  | succ num inductionHypothesis =>
      unfold readElements at read
      dsimp only at read
      have next := addElement_valid valid (readElement unread).1
      generalize added : p.addElement (readElement unread).1 = result at read next
      obtain ⟨done, after⟩ := result
      cases done with
      | false => cases read
      | true =>
          obtain ⟨new, came, items⟩ := perm_of_addElement added
          have fewNext : ∀ e ∈ after.elements.items, e.values.length ≤ MAX_VALUE_NUM := by
            intro e listed
            obtain old | last := List.mem_append.mp (items.mem_iff.mp listed)
            · exact few e old
            · rw [List.mem_singleton.mp last]
              exact valueNum_of_readElement came
          obtain ⟨validAll, fewAll, count⟩ := inductionHypothesis next fewNext read
          have one : after.elements.num = p.elements.num + 1 :=
            items.length_eq.trans List.length_append
          exact ⟨validAll, fewAll, count.trans (one ▸ Nat.add_right_comm _ _ _)⟩

/-- **Accepted packs.**  Whatever the bytes, a pack that is accepted has as many elements as it
announces, each with a value, not too many of them, and a name of its own. -/
theorem bufToPack_accepts
    {b rest : List UInt8}
    {p : PACK}
    (accepted : bufToPack b = some (p, rest)) :
    p.Valid ∧ (∀ e ∈ p.elements.items, e.values.length ≤ MAX_VALUE_NUM) ∧
      p.elements.num = (readBufInt b).1.toNat := by
  unfold bufToPack readPack at accepted
  dsimp only at accepted
  split at accepted
  case isTrue => exact absurd accepted (by simp)
  case isFalse few =>
    generalize result : readElements _ newPack _ = read at accepted
    obtain ⟨done, q, left⟩ := read
    cases done with
    | false => exact absurd accepted (by simp)
    | true =>
        obtain ⟨rfl, _⟩ := Prod.mk.inj (Option.some.inj accepted)
        obtain ⟨valid, fewAll, count⟩ := readElements_accepts newPack_valid
          (List.forall_mem_nil _) result
        exact ⟨valid, fewAll, count.trans (Nat.zero_add _)⟩

/-- A pack with a number. -/
theorem bufToPack_accepts_number :
    ∃ p rest, bufToPack [0, 0, 0, 1, 0, 0, 0, 2, 97, 0, 0, 0, 0, 0, 0, 0, 1, 0, 0, 0, 7] =
      some (p, rest) ∧ p.elements.num = 1 := by
  obtain ⟨⟨p, rest⟩, accepted⟩ := Option.isSome_iff_exists.mp
    (show (bufToPack [0, 0, 0, 1, 0, 0, 0, 2, 97, 0, 0, 0, 0, 0, 0, 0, 1, 0, 0, 0, 7]).isSome = true by
      decide +kernel)
  exact ⟨p, rest, accepted, (bufToPack_accepts accepted).2.2.trans (by decide)⟩

end Pack
end SoftEther
