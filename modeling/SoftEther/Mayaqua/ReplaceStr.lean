import SoftEther.Library.Replacing
import SoftEther.Mayaqua.Memory
import SoftEther.Mayaqua.Str

/-!
# Replacing in a string

`ReplaceStrEx` builds its result in a block of the size that `CalcReplaceStrEx` has computed from
the number of occurrences; both search on their own.  A write outside of the block has no result.
-/

namespace SoftEther
namespace ReplaceStr

open Library.Replacing

/-- The characters that are compared: upper case ones unless the case counts. -/
def compared (caseSensitive : Bool) (str : List UInt8) : List UInt8 :=
  if caseSensitive then str else str.map toUpper

def beginsWith (caseSensitive : Bool) (keyword list : List UInt8) : Bool :=
  (compared caseSensitive list).take keyword.length = compared caseSensitive keyword

variable {string keyword new : List UInt8} {start place : Nat} {caseSensitive : Bool}

/-- What `StrCpy` leaves in a buffer; two sizes say that the length does not count. -/
def copied (size : Nat) (src : List UInt8) : List UInt8 :=
  if size = 0 ∨ size = 0x7fffffff then src else src.take (size - 1)

/-- The number of these occurrences. -/
def places (keyword : List UInt8) (caseSensitive : Bool) (string : List UInt8) : Nat :=
  occurrences (beginsWith caseSensitive keyword) keyword.length string

end ReplaceStr
end SoftEther
