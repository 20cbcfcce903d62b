import Mathlib.Data.List.DropRight
import Mathlib.Data.List.TakeWhile
import Mathlib.Order.Basic

/-!
# Strings

C strings as the bytes before the terminator, and the functions of `Str.c` on
them.  `char` is signed.
-/

namespace SoftEther

/-- The content of a C string. -/
structure CString where
  bytes : List UInt8
  /-- The terminator is the first zero byte. -/
  noNul : 0 ∉ bytes
  deriving DecidableEq

namespace CString

theorem noNul_nil : 0 ∉ ([] : List UInt8) :=
  List.not_mem_nil

/-- The string that a buffer holds: its bytes up to the first zero byte. -/
def ofBuffer (buffer : List UInt8) : CString where
  bytes := buffer.takeWhile fun byte => byte ≠ 0
  noNul := by
    intro present
    exact absurd (List.mem_takeWhile_imp present) (by decide)

def strLen (str : CString) : Nat :=
  str.bytes.length

@[ext] theorem ext
    {left right : CString}
    (same : left.bytes = right.bytes) :
    left = right := by
  cases left
  cases right
  cases same
  rfl

theorem bytes_ofBuffer
    {buffer : List UInt8}
    (noNul : 0 ∉ buffer) :
    (ofBuffer buffer).bytes = buffer := by
  unfold ofBuffer
  rw [List.takeWhile_eq_self_iff]
  intro byte listed
  have nonzero : byte ≠ 0 := fun zero => noNul (zero ▸ listed)
  exact decide_eq_true nonzero

theorem ofBuffer_append_zero
    (str : CString)
    (rest : List UInt8) :
    ofBuffer (str.bytes ++ 0 :: rest) = str := by
  apply ext
  change List.takeWhile _ (str.bytes ++ 0 :: rest) = str.bytes
  rw [List.takeWhile_append_of_pos]
  · simp
  · intro byte listed
    have nonzero : byte ≠ 0 := fun zero => str.noNul (zero ▸ listed)
    exact decide_eq_true nonzero

end CString

/-- The bytes of a string literal of ASCII characters. -/
def ascii (literal : String) : List UInt8 :=
  literal.toList.map fun character => UInt8.ofNat character.toNat

def MAX_SIZE : Nat := 512

/-- The string of a literal of ASCII characters. -/
def CString.ofAscii (literal : String) : CString :=
  .ofBuffer (ascii literal)

/-- `StrCpy` into a buffer of so many bytes. -/
def strCpy (size : Nat) (src : CString) : CString where
  bytes := src.bytes.take (size - 1)
  noNul := fun listed => src.noNul (List.mem_of_mem_take listed)

theorem strCpy_of_le
    {size : Nat}
    {src : CString}
    (fits : src.strLen ≤ size - 1) :
    strCpy size src = src :=
  CString.ext (List.take_of_length_le fits)

theorem forall_byte
    {property : UInt8 → Prop}
    (all : ∀ value < 256, property (UInt8.ofNat value))
    (byte : UInt8) :
    property byte := by
  have this := all byte.toNat byte.toNat_lt
  rwa [UInt8.ofNat_toNat] at this

/-- The value of a `char`. -/
def charValue (byte : UInt8) : Int :=
  if byte.toNat < 128 then byte.toNat else byte.toNat - 256

def toUpper (byte : UInt8) : UInt8 :=
  if 97 ≤ byte ∧ byte ≤ 122 then byte - 32 else byte

def toLower (byte : UInt8) : UInt8 :=
  if 65 ≤ byte ∧ byte ≤ 90 then byte + 32 else byte

/-- A blank for `Trim`. -/
def isBlank (byte : UInt8) : Bool :=
  byte = 32 ∨ byte = 9

def trimLeft (bytes : List UInt8) : List UInt8 :=
  bytes.dropWhile isBlank

def trimRight (bytes : List UInt8) : List UInt8 :=
  bytes.rdropWhile isBlank

def trim (bytes : List UInt8) : List UInt8 :=
  trimRight (trimLeft bytes)

/-- The loop of `StrCmpi`; both strings end in a zero byte. -/
def compareUpper : List UInt8 → List UInt8 → Ordering
  | [], [] => .eq
  | [], right :: _ => compare 0 (charValue (toUpper right))
  | left :: _, [] => compare (charValue (toUpper left)) 0
  | left :: lefts, right :: rights =>
      match compare (charValue (toUpper left)) (charValue (toUpper right)) with
      | .eq => compareUpper lefts rights
      | different => different

def strCmpi (left right : CString) : Ordering :=
  compareUpper left.bytes right.bytes

def startWith (str key : CString) : Bool :=
  if str.strLen < key.strLen then false
  else if str.strLen = 0 ∨ key.strLen = 0 then false
  else compareUpper (str.bytes.take key.strLen) key.bytes = .eq

end SoftEther
