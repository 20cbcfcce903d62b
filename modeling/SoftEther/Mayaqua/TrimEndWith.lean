import SoftEther.Mayaqua.Memory
import SoftEther.Mayaqua.StrCmpi

/-!
# Removing the end of a string

`TrimEndWith` copies a string into a buffer, as much of it as fits, and ends it where the key begins
in the whole string.  `JsonTryParseValueAddToPack` takes the type of a JSON member from the end of
its name so.  A write outside of the buffer has no result.
-/

namespace SoftEther

def writeInside (dst : List UInt8) (offset : Nat) (data : List UInt8) : Option (List UInt8) :=
  if offset + data.length ≤ dst.length then some (copyAt dst offset data) else none

/-- `StrCpy` into a buffer of `dst.length` bytes. -/
def strCpyInto (dst : List UInt8) (src : CString) : Option (List UInt8) :=
  if dst.length = 1 then writeInside dst 0 [0]
  else
    -- A size of zero says that the length does not count.
    let size := if dst.length = 0 then 0x7fffffff else dst.length
    if src.strLen ≤ size - 1 ∨ size = 0x7fffffff then writeInside dst 0 (src.bytes ++ [0])
    else (writeInside dst 0 (src.bytes.take (size - 1))).bind fun dst => writeInside dst (size - 1) [0]

def endWith (str key : CString) : Bool :=
  if str.strLen < key.strLen then false
  else compareUpper (str.bytes.drop (str.strLen - key.strLen)) key.bytes = .eq

/-- `TrimEndWith`: what it returns and the buffer, or none when it writes outside. -/
def trimEndWith (dst : List UInt8) (str key : CString) : Option (Bool × List UInt8) :=
  (strCpyInto dst str).bind fun dst =>
    if endWith str key then
      (if key.strLen ≤ str.strLen then writeInside dst (str.strLen - key.strLen) [0]
        else some dst).map fun dst => (true, dst)
    else some (false, dst)

/-- The string with one key removed from its end. -/
def withoutEnd (str key : CString) : List UInt8 :=
  if endWith str key then str.bytes.take (str.strLen - key.strLen) else str.bytes

/-- All writes are inside the buffer, and a terminated string is in it: as much as fits of the
string without the key. -/
def Trims (dst : List UInt8) (str key : CString) : Prop :=
  ∃ after, trimEndWith dst str key = some (endWith str key, after) ∧ after.length = dst.length ∧
    0 ∈ after ∧ (CString.ofBuffer after).bytes = (withoutEnd str key).take (dst.length - 1)

/-- The buffer has room for `StrCpy`, and the place where the key begins is in it. -/
def RoomToTrim (size : Nat) (str key : CString) : Prop :=
  size ≠ 0 ∧ (size = 0x7fffffff → str.strLen < size) ∧
    (endWith str key = true → str.strLen - key.strLen < size)

variable {dst : List UInt8} {str key : CString}

theorem strCpyInto_nil (src : CString) : strCpyInto [] src = none := by
  simp [strCpyInto, writeInside]

theorem strCpyInto_eq
    (room : dst.length ≠ 0)
    (unlimited : dst.length = 0x7fffffff → str.strLen < dst.length) :
    ∃ rest, strCpyInto dst str = some (str.bytes.take (dst.length - 1) ++ 0 :: rest) ∧
      (str.bytes.take (dst.length - 1) ++ 0 :: rest).length = dst.length := by
  unfold strCpyInto
  by_cases one : dst.length = 1
  · refine ⟨[], ?_, by simp [one]⟩
    simp [one, writeInside, copyAt, List.drop_of_length_le]
  · rw [if_neg one]
    dsimp only
    rw [if_neg room]
    by_cases short : str.strLen ≤ dst.length - 1
    · have whole : str.bytes.take (dst.length - 1) = str.bytes := List.take_of_length_le short
      have fits : str.bytes.length + 1 ≤ dst.length := by
        unfold CString.strLen at short
        omega
      refine ⟨dst.drop (str.bytes.length + 1), ?_, ?_⟩
      · rw [if_pos (.inl short), whole]
        simp [writeInside, copyAt, fits]
      · rw [whole, List.length_append, List.length_cons, List.length_drop]
        omega
    · have long : ¬(str.strLen ≤ dst.length - 1 ∨ dst.length = 0x7fffffff) := by
        rintro (fits | all)
        · exact short fits
        · exact short (Nat.le_sub_one_of_lt (unlimited all))
      have taken : (str.bytes.take (dst.length - 1)).length = dst.length - 1 := by
        rw [List.length_take]
        unfold CString.strLen at short
        omega
      have last : (dst.drop (dst.length - 1)).length = 1 := by
        rw [List.length_drop]
        omega
      refine ⟨[], ?_, by rw [List.length_append, taken, List.length_singleton]; omega⟩
      rw [if_neg long, writeInside, if_pos (by omega), Option.bind_some, copyAt, List.take_zero,
        List.nil_append, taken, Nat.zero_add, writeInside, if_pos (by
          rw [List.length_append, taken, last, List.length_singleton]), copyAt,
        List.take_left' taken, List.drop_of_length_le (by
          rw [List.length_append, taken, last, List.length_singleton])]
      simp

theorem ofBuffer_append
    {bytes : List UInt8}
    (noNul : 0 ∉ bytes)
    (rest : List UInt8) :
    (CString.ofBuffer (bytes ++ 0 :: rest)).bytes = bytes :=
  congrArg CString.bytes (CString.ofBuffer_append_zero ⟨bytes, noNul⟩ rest)

theorem strCpyInto_unlimited
    (unlimited : dst.length = 0x7fffffff)
    (long : dst.length ≤ str.strLen) :
    strCpyInto dst str = none := by
  have outside : ¬0 + (str.bytes ++ [0]).length ≤ dst.length := by
    unfold CString.strLen at long
    rw [List.length_append, List.length_singleton]
    omega
  have several : ¬dst.length = 1 := by omega
  have nonempty : ¬dst.length = 0 := by omega
  unfold strCpyInto
  rw [if_neg several]
  dsimp only
  rw [if_neg nonempty, if_pos (.inr unlimited), writeInside, if_neg outside]

theorem le_of_endWith (ends : endWith str key = true) : key.strLen ≤ str.strLen := by
  by_contra short
  unfold endWith at ends
  rw [if_pos (Nat.not_le.mp short)] at ends
  cases ends

theorem RoomToTrim.trims
    (room : RoomToTrim dst.length str key) :
    Trims dst str key := by
  obtain ⟨nonempty, unlimited, place⟩ := room
  obtain ⟨rest, copied, size⟩ := strCpyInto_eq nonempty unlimited
  unfold Trims trimEndWith withoutEnd
  rw [copied, Option.bind_some]
  by_cases ends : endWith str key = true
  · have inside := place ends
    have shorter := le_of_endWith ends
    have fits : str.strLen - key.strLen + [(0 : UInt8)].length ≤
        (str.bytes.take (dst.length - 1) ++ 0 :: rest).length := by
      rw [size, List.length_singleton]
      exact inside
    have cut : copyAt (str.bytes.take (dst.length - 1) ++ 0 :: rest)
        (str.strLen - key.strLen) [0] =
        str.bytes.take (str.strLen - key.strLen) ++ 0 ::
          (str.bytes.take (dst.length - 1) ++ 0 :: rest).drop (str.strLen - key.strLen + 1) := by
      have long : str.strLen - key.strLen ≤ (str.bytes.take (dst.length - 1)).length := by
        rw [List.length_take]
        unfold CString.strLen at inside ⊢
        omega
      rw [copyAt, List.take_append_of_le_length long, List.take_take, Nat.min_eq_left (by omega),
        List.length_singleton, List.append_assoc, List.singleton_append]
    rw [if_pos ends, if_pos ends, if_pos shorter, ends, writeInside, if_pos fits]
    refine ⟨_, rfl, ?_⟩
    rw [length_copyAt fits, size, cut,
      ofBuffer_append fun listed => str.noNul (List.mem_of_mem_take listed), List.take_take,
      Nat.min_eq_right (by omega)]
    exact ⟨rfl, by simp, rfl⟩
  · rw [if_neg ends, if_neg ends, (Bool.not_eq_true _).mp ends]
    exact ⟨_, rfl, size, by simp,
      ofBuffer_append (fun listed => str.noNul (List.mem_of_mem_take listed)) rest⟩

theorem roomToTrim_of_isSome
    (done : (trimEndWith dst str key).isSome = true) :
    RoomToTrim dst.length str key := by
  unfold trimEndWith at done
  have nonempty : dst.length ≠ 0 := by
    intro empty
    rw [List.eq_nil_of_length_eq_zero empty, strCpyInto_nil] at done
    cases done
  have unlimited : dst.length = 0x7fffffff → str.strLen < dst.length := by
    intro all
    by_contra long
    rw [strCpyInto_unlimited all (Nat.not_lt.mp long)] at done
    cases done
  refine ⟨nonempty, unlimited, fun ends => ?_⟩
  obtain ⟨rest, copied, size⟩ := strCpyInto_eq nonempty unlimited
  by_contra outside
  have misses : ¬str.strLen - key.strLen + [(0 : UInt8)].length ≤
      (str.bytes.take (dst.length - 1) ++ 0 :: rest).length := by
    rw [size, List.length_singleton]
    omega
  rw [copied, Option.bind_some, if_pos ends, if_pos (le_of_endWith ends), writeInside,
    if_neg misses] at done
  cases done

/-! ## JSON members -/

namespace Json

def MAX_PATH : Nat := 260

/-- `JSON_VALUE`. -/
inductive Value
  | null
  | bool (value : Bool)
  | number (value : UInt64)
  | string (value : CString)
  | object (members : List (CString × Value))
  | array (items : List Value)

/-- The names that `JsonToPack` hands to `JsonTryParseValueAddToPack`. -/
def parsedNames (members : List (CString × Value)) : List CString :=
  members.flatMap fun (name, value) =>
    match value with
    | .array items =>
        items.flatMap fun item =>
          match item with
          | .object inner => inner.map Prod.fst
          | _ => [name]
    | _ => [name]

/-- The ends of names that say the type of a member, in the order in which they are tried. -/
def jsonTypes : List CString :=
  ["_bool", "_u32", "_u64", "_str", "_utf", "_bin", "_dt", "_ip"].map fun key =>
    CString.ofBuffer (ascii key)

/-- `name` of `JsonTryParseValueAddToPack`, behind the calls of `TrimEndWith`. -/
def trimType (vName : CString) : List CString → List UInt8 → Option (List UInt8)
  | [], name => some name
  | key :: keys, name =>
      (trimEndWith name vName key).bind fun (found, name) =>
        if found then some name else trimType vName keys name

/-- `JsonToPack` writes inside of the buffers for names, whatever lies in them. -/
def WritesInside (members : List (CString × Value)) : Prop :=
  ∀ vName ∈ parsedNames members, ∀ name : List UInt8, name.length = MAX_PATH →
    (trimType vName jsonTypes name).isSome = true

theorem isSome_trimType_iff
    {vName : CString}
    {keys : List CString}
    {name : List UInt8}
    (size : name.length = MAX_PATH) :
    (trimType vName keys name).isSome = true ↔
      ∀ key, keys.find? (endWith vName) = some key →
        vName.strLen - key.strLen < MAX_PATH := by
  induction keys generalizing name with
  | nil => simp [trimType]
  | cons key keys inductionHypothesis =>
      unfold trimType
      by_cases ends : endWith vName key = true
      · rw [List.find?_cons_of_pos ends]
        constructor
        · intro done key' same
          obtain rfl := Option.some.inj same
          rw [← size]
          apply (roomToTrim_of_isSome _).2.2 ends
          by_contra fails
          rw [Option.not_isSome_iff_eq_none] at fails
          rw [fails] at done
          cases done
        · intro short
          have room : RoomToTrim name.length vName key := by
            rw [size]
            exact ⟨by decide, fun all => absurd all (by decide), fun _ => short key rfl⟩
          obtain ⟨after, trimmed, _⟩ := room.trims
          rw [trimmed, ends]
          rfl
      · rw [List.find?_cons_of_neg ends]
        have room : RoomToTrim name.length vName key := by
          rw [size]
          exact ⟨by decide, fun all => absurd all (by decide), fun does => absurd does ends⟩
        obtain ⟨after, trimmed, same, _⟩ := room.trims
        rw [trimmed, (Bool.not_eq_true _).mp ends, Option.bind_some]
        exact inductionHypothesis (same.trans size)

/-- **Removing the end of a string.**  `TrimEndWith` writes inside its buffer, and what it should,
exactly if the buffer is not empty and the place where a key begins is in it; and `JsonToPack`
writes inside of its buffers exactly if no name has so many characters in front of its type. -/
theorem trimEndWith_inside_iff
    (dst : List UInt8)
    (str key : CString)
    (members : List (CString × Value)) :
    (Trims dst str key ↔ RoomToTrim dst.length str key) ∧
      (WritesInside members ↔
        ∀ vName ∈ parsedNames members, ∀ key, jsonTypes.find? (endWith vName) = some key →
          vName.strLen - key.strLen < MAX_PATH) := by
  refine ⟨⟨fun trims => ?_, RoomToTrim.trims⟩, ⟨fun inside vName listed => ?_, ?_⟩⟩
  · obtain ⟨_, trimmed, _⟩ := trims
    exact roomToTrim_of_isSome (by rw [trimmed]; rfl)
  · have buffer := List.length_replicate (n := MAX_PATH) (a := (0 : UInt8))
    exact (isSome_trimType_iff buffer).mp (inside vName listed _ buffer)
  · intro short vName listed name size
    exact (isSome_trimType_iff size).mpr (short vName listed)

/-- A name of 260 characters and a type. -/
def longName : CString :=
  ⟨List.replicate 260 97 ++ [95, 105, 112], by decide⟩

/-- The name ends one byte behind the buffer. -/
theorem not_trimEndWith_inside :
    ¬∀ members : List (CString × Value), WritesInside members := by
  intro always
  have inside := always [(longName, .null)] longName (by simp [parsedNames])
    (List.replicate MAX_PATH 0) List.length_replicate
  rw [isSome_trimType_iff List.length_replicate] at inside
  have found : jsonTypes.find? (endWith longName) = some (.ofBuffer (ascii "_ip")) := by
    decide +kernel
  exact absurd (inside _ found) (by decide +kernel)

end Json
end SoftEther
