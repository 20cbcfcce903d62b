import SoftEther.Mayaqua.Buf
import SoftEther.Mayaqua.Internat
import SoftEther.Mayaqua.List
import SoftEther.Mayaqua.StrCmpi

/-!
# Packs

`PACK` of `Pack.c`: a list of named elements, each with an array of values of one
type.  The limits are those of a 64 bit build.  The hints for JSON are left out;
they are not written into the buffer.
-/

namespace SoftEther
namespace Pack

def MAX_VALUE_SIZE : Nat := 384 * 1024 * 1024

def MAX_VALUE_NUM : Nat := 262144

def MAX_ELEMENT_NAME_LEN : Nat := 63

def MAX_ELEMENT_NUM : Nat := 262144

def VALUE_INT : UInt32 := 0

def VALUE_DATA : UInt32 := 1

def VALUE_STR : UInt32 := 2

def VALUE_UNISTR : UInt32 := 3

def VALUE_INT64 : UInt32 := 4

theorem trimEnds_idempotent
    {α : Type}
    (unwanted : α → Bool)
    (items : List α) :
    (((items.dropWhile unwanted).rdropWhile unwanted).dropWhile unwanted).rdropWhile unwanted =
      (items.dropWhile unwanted).rdropWhile unwanted := by
  have noneInFront : ((items.dropWhile unwanted).rdropWhile unwanted).dropWhile unwanted =
      (items.dropWhile unwanted).rdropWhile unwanted := by
    rw [List.dropWhile_eq_self_iff]
    intro nonempty
    have inFront := List.rdropWhile_prefix unwanted (items.dropWhile unwanted)
    rw [inFront.getElem nonempty]
    exact List.dropWhile_eq_self_iff.mp (List.dropWhile_idempotent unwanted items) _
  rw [noneInFront, List.rdropWhile_idempotent]

/-- A string without blanks at its ends. -/
structure TrimmedStr where
  str : CString
  /-- `Trim` leaves it alone. -/
  trimmed : trim str.bytes = str.bytes
  deriving DecidableEq

/-- A wide string without blanks at its ends. -/
structure TrimmedUniStr where
  str : UniString
  /-- `UniTrim` leaves it alone. -/
  trimmed : uniTrim str.chars = str.chars
  deriving DecidableEq

theorem mem_of_mem_trimEnds
    {α : Type}
    {unwanted : α → Bool}
    {items : List α}
    {item : α}
    (left : item ∈ (items.dropWhile unwanted).rdropWhile unwanted) :
    item ∈ items :=
  (List.dropWhile_suffix unwanted).mem ((List.rdropWhile_prefix unwanted _).mem left)

/-- `Trim` of a string. -/
def TrimmedStr.ofString (str : CString) : TrimmedStr where
  str := ⟨trim str.bytes, fun zero => str.noNul (mem_of_mem_trimEnds zero)⟩
  trimmed := trimEnds_idempotent isBlank str.bytes

/-- `UniTrim` of a string. -/
def TrimmedUniStr.ofString (str : UniString) : TrimmedUniStr where
  str := ⟨uniTrim str.chars, fun zero => str.noNul (mem_of_mem_trimEnds zero)⟩
  trimmed := trimEnds_idempotent isUniBlank str.chars

/-- `VALUE` with the field that its type uses. -/
inductive VALUE
  | int (IntValue : UInt32)
  | data (Data : List UInt8)
  | str (Str : TrimmedStr)
  | unistr (UniStr : TrimmedUniStr)
  | int64 (Int64Value : UInt64)
  deriving DecidableEq

def VALUE.type : VALUE → UInt32
  | .int _ => VALUE_INT
  | .data _ => VALUE_DATA
  | .str _ => VALUE_STR
  | .unistr _ => VALUE_UNISTR
  | .int64 _ => VALUE_INT64

def newIntValue (i : UInt32) : VALUE :=
  .int i

def newInt64Value (i : UInt64) : VALUE :=
  .int64 i

def newDataValue (data : List UInt8) : VALUE :=
  .data data

def newStrValue (str : CString) : VALUE :=
  .str (.ofString str)

def newUniStrValue (str : UniString) : VALUE :=
  .unistr (.ofString str)

structure ELEMENT where
  name : CString
  nameFits : name.strLen ≤ MAX_ELEMENT_NAME_LEN
  type : UInt32
  /-- `values`, with a `NULL` pointer in each slot that is not filled. -/
  values : List (Option VALUE)
  typed : ∀ v, some v ∈ values → v.type = type
  deriving DecidableEq

/-- The name that `StrCpy` puts into the array of an element. -/
def elementName (name : CString) : CString :=
  strCpy (MAX_ELEMENT_NAME_LEN + 1) name

theorem strLen_elementName_le (name : CString) :
    (elementName name).strLen ≤ MAX_ELEMENT_NAME_LEN :=
  List.length_take_le _ _

def newElement
    (name : CString)
    (type : UInt32)
    (values : List (Option VALUE))
    (typed : ∀ v, some v ∈ values → v.type = type) :
    Option ELEMENT :=
  if values.length = 0 then none
  else some ⟨elementName name, strLen_elementName_le name, type, values, typed⟩

theorem typed_singleton (value : VALUE) : ∀ v, some v ∈ [some value] → v.type = value.type := by
  intro v listed
  rw [Option.some.inj (List.mem_singleton.mp listed)]

/-- `NewElement` for an array with one value. -/
def newElementOf (name : CString) (value : VALUE) : Option ELEMENT :=
  newElement name value.type [some value] (typed_singleton value)

theorem typed_set
    {values : List (Option VALUE)}
    {type : UInt32}
    {value : VALUE}
    (typed : ∀ v, some v ∈ values → v.type = type)
    (sameType : value.type = type)
    (index : Nat) :
    ∀ v, some v ∈ values.set index (some value) → v.type = type := by
  intro v listed
  obtain old | new := List.mem_or_eq_of_mem_set listed
  · exact typed v old
  · rw [Option.some.inj new, sameType]

theorem typed_replicate_none (count : Nat) (type : UInt32) :
    ∀ v, some v ∈ List.replicate count (none : Option VALUE) → v.type = type :=
  fun _ listed => nomatch List.eq_of_mem_replicate listed

/-- `values[index] = v`. -/
def ELEMENT.setValue (e : ELEMENT) (index : Nat) (v : VALUE) (sameType : v.type = e.type) :
    ELEMENT :=
  { e with values := e.values.set index (some v), typed := typed_set e.typed sameType index }

/-- The element that the functions for arrays create: one slot of `total` is filled. -/
def newArrayElement (name : CString) (v : VALUE) (index total : Nat) : ELEMENT where
  name := elementName name
  nameFits := strLen_elementName_le name
  type := v.type
  values := (List.replicate total none).set index (some v)
  typed := typed_set (typed_replicate_none total v.type) rfl index

def comparePackName (o1 o2 : ELEMENT) : Ordering :=
  strCmpi o1.name o2.name

/-! ## Packs -/

structure PACK where
  elements : MayaquaList ELEMENT
  deriving DecidableEq

def newPack : PACK where
  elements := { }

namespace PACK

/-- The search of `GetElement`, which sorts the elements. -/
def search (p : PACK) (name : CString) : Option ELEMENT × PACK :=
  let (e, elements) := p.elements.search comparePackName fun e =>
    strCmpi (elementName name) e.name
  (e, ⟨elements⟩)

def addElement (p : PACK) (e : Option ELEMENT) : Bool × PACK :=
  match e with
  | none => (false, p)
  | some e =>
      if MAX_ELEMENT_NUM ≤ p.elements.num then (false, p)
      else
        let (exists_, p) := p.search e.name
        if exists_.isSome then (false, p)
        else if e.values.length = 0 then (false, p)
        else (true, ⟨p.elements.add e⟩)

/-- The body of `PackAddIntEx`, `PackAddInt64Ex`, `PackAddDataEx`, `PackAddStrEx` and
`PackAddUniStrEx`.  There is no result when the index is not in the array. -/
def addValueEx (p : PACK) (name : CString) (v : VALUE) (index total : Nat) :
    Option (Option ELEMENT × PACK) :=
  if total = 0 then some (none, p)
  else
    let create (p : PACK) : Option (Option ELEMENT × PACK) :=
      if index < total then
        let e := newArrayElement name v index total
        let (added, p) := p.addElement (some e)
        some (if added then some e else none, p)
      else none
    match p.search name with
    | (some e, p) =>
        if sameType : v.type = e.type then
          if total ≤ e.values.length then
            if index < e.values.length then
              let new := e.setValue index v sameType
              some (some new, ⟨p.elements.write e new⟩)
            else none
          else some (some e, p)
        else create p
    | (none, p) => create p

def packAddInt64 (p : PACK) (name : CString) (i : UInt64) : Bool × PACK :=
  p.addElement (newElementOf name (newInt64Value i))

def packAddData (p : PACK) (name : CString) (data : List UInt8) : Bool × PACK :=
  p.addElement (newElementOf name (newDataValue data))

def packAddStr (p : PACK) (name str : CString) : Bool × PACK :=
  p.addElement (newElementOf name (newStrValue str))

def packAddUniStr (p : PACK) (name : CString) (unistr : UniString) : Bool × PACK :=
  p.addElement (newElementOf name (newUniStrValue unistr))

def packAddIntEx (p : PACK) (name : CString) (i : UInt32) (index total : Nat) :
    Option (Option ELEMENT × PACK) :=
  p.addValueEx name (newIntValue i) index total

def packAddInt64Ex (p : PACK) (name : CString) (i : UInt64) (index total : Nat) :
    Option (Option ELEMENT × PACK) :=
  p.addValueEx name (newInt64Value i) index total

def packAddDataEx (p : PACK) (name : CString) (data : List UInt8) (index total : Nat) :
    Option (Option ELEMENT × PACK) :=
  p.addValueEx name (newDataValue data) index total

def packAddStrEx (p : PACK) (name str : CString) (index total : Nat) :
    Option (Option ELEMENT × PACK) :=
  p.addValueEx name (newStrValue str) index total

end PACK

/-- A pack that `NewPack` and any calls of `AddElement` and of the functions
`PackAddInt`, `PackAddIntEx` and so on make. -/
inductive Built : PACK → Prop
  | newPack : Built newPack
  | addElement {p : PACK} (e : Option ELEMENT) :
      Built p → Built (p.addElement e).2
  | addValueEx {p : PACK} {name : CString} {v : VALUE} {index total : Nat}
      {result : Option ELEMENT × PACK} :
      Built p → p.addValueEx name v index total = some result → Built result.2

/-- The cases of `ReadValue` that read a size and a block of that size. -/
def readBlockValue (maxSize : Nat) (newValue : List UInt8 → VALUE) (unread : List UInt8) :
    Option VALUE × List UInt8 :=
  let (size, unread) := readBufInt unread
  if maxSize < size.toNat then (none, unread)
  else
    let (data, read, unread) := readBuf unread size.toNat
    (if read ≠ size.toNat then none else some (newValue data), unread)

def readValue (type : UInt32) (unread : List UInt8) : Option VALUE × List UInt8 :=
  if type = VALUE_INT then
    let (i, unread) := readBufInt unread
    (some (newIntValue i), unread)
  else if type = VALUE_INT64 then
    let (i, unread) := readBufInt64 unread
    (some (newInt64Value i), unread)
  else if type = VALUE_DATA then readBlockValue MAX_VALUE_SIZE newDataValue unread
  else if type = VALUE_STR then
    readBlockValue (MAX_VALUE_SIZE - 1) (fun str => newStrValue (.ofBuffer str)) unread
  else if type = VALUE_UNISTR then
    readBlockValue MAX_VALUE_SIZE (fun u => newUniStrValue (.ofBuffer (utf8Chars u))) unread
  else (none, unread)

theorem readBlockValue_eq_some
    {maxSize : Nat}
    {newValue : List UInt8 → VALUE}
    {unread : List UInt8}
    {v : VALUE}
    (read : (readBlockValue maxSize newValue unread).1 = some v) :
    ∃ data, v = newValue data := by
  unfold readBlockValue at read
  dsimp only at read
  split at read
  case isTrue => exact nomatch read
  case isFalse =>
    dsimp only at read
    split at read
    case isTrue => exact nomatch read
    case isFalse => exact ⟨_, (Option.some.inj read).symm⟩

theorem type_of_readValue
    {type : UInt32}
    {unread : List UInt8}
    {v : VALUE}
    (read : (readValue type unread).1 = some v) :
    v.type = type := by
  unfold readValue at read
  split at read
  case isTrue int =>
    rw [← Option.some.inj read, int]
    rfl
  case isFalse =>
    split at read
    case isTrue int64 =>
      rw [← Option.some.inj read, int64]
      rfl
    case isFalse =>
      split at read
      case isTrue data =>
        obtain ⟨_, rfl⟩ := readBlockValue_eq_some read
        exact data.symm
      case isFalse =>
        split at read
        case isTrue str =>
          obtain ⟨_, rfl⟩ := readBlockValue_eq_some read
          exact str.symm
        case isFalse =>
          split at read
          case isTrue unistr =>
            obtain ⟨_, rfl⟩ := readBlockValue_eq_some read
            exact unistr.symm
          case isFalse => exact nomatch read

/-- The loop of `ReadElement` over the values. -/
def readValues (type : UInt32) : Nat → List UInt8 → List (Option VALUE) × List UInt8
  | 0, unread => ([], unread)
  | num + 1, unread =>
      let (v, unread) := readValue type unread
      let (values, unread) := readValues type num unread
      (v :: values, unread)

theorem typed_readValues (type : UInt32) (num : Nat) (unread : List UInt8) :
    ∀ v, some v ∈ (readValues type num unread).1 → v.type = type := by
  induction num generalizing unread with
  | zero => exact fun _ listed => nomatch listed
  | succ num inductionHypothesis =>
      intro v listed
      obtain first | later := List.mem_cons.mp listed
      · exact type_of_readValue first.symm
      · exact inductionHypothesis _ v later

/-- `ReadBufStr` into an array of `size` bytes reads a string. -/
def readsBufStr (size : Nat) (unread : List UInt8) : Bool :=
  let (len, unread) := readBufInt unread
  len ≠ 0 ∧ min (len.toNat - 1) (size - 1) ≤ unread.length

/-- The end of `ReadElement`: the values are read and put into an element. -/
def readElementValues
    (name : CString)
    (type : UInt32)
    (numValue : Nat)
    (unread : List UInt8) :
    Option ELEMENT × List UInt8 :=
  (newElement name type (readValues type numValue unread).1
    (typed_readValues type numValue unread),
    (readValues type numValue unread).2)

def readElement (unread : List UInt8) : Option ELEMENT × List UInt8 :=
  let read := readsBufStr (MAX_ELEMENT_NAME_LEN + 1) unread
  let (name, unread) := readBufStr [] (MAX_ELEMENT_NAME_LEN + 1) unread
  if ¬read then (none, unread)
  else
    let (type, unread) := readBufInt unread
    let (numValue, unread) := readBufInt unread
    if MAX_VALUE_NUM < numValue.toNat then (none, unread)
    else readElementValues (.ofBuffer name) type numValue.toNat unread

/-- The loop of `ReadPack`. -/
def readElements : Nat → PACK → List UInt8 → Bool × PACK × List UInt8
  | 0, p, unread => (true, p, unread)
  | num + 1, p, unread =>
      let (e, unread) := readElement unread
      let (added, p) := p.addElement e
      if added then readElements num p unread else (false, p, unread)

def readPack (unread : List UInt8) (p : PACK) : Bool × PACK × List UInt8 :=
  let (num, unread) := readBufInt unread
  if MAX_ELEMENT_NUM < num.toNat then (false, p, unread)
  else readElements num.toNat p unread

/-- `BufToPack`: the pack and what is left behind `Current`. -/
def bufToPack (b : List UInt8) : Option (PACK × List UInt8) :=
  let (read, p, unread) := readPack b newPack
  if read then some (p, unread) else none

end Pack
end SoftEther
