import SoftEther.Library.Reading
import SoftEther.Mayaqua.Buf
import SoftEther.Mayaqua.Cfg.Defs

/-!
# Configuration folders in binary

`CfgFolderToBufBin` writes a tree with counts and lengths in front of what they
count; `CfgBufBinToFolder` reads it back, a call of `CfgReadNextFolderBin` for each
folder.  The array that names are read into has `MAX_SIZE` bytes.
-/

namespace SoftEther
namespace Cfg

open Library

def maxSize : Nat := 512

def sha1Size : Nat := 20

/-- `Type`. -/
def itemType : ItemValue → UInt32
  | .int _ => 1
  | .int64 _ => 2
  | .byte _ => 3
  | .string _ => 4
  | .bool _ => 5

/-- What `CfgOutputFolderBin` writes behind the type of an item. -/
def valueBin : ItemValue → List UInt8
  | .int value => writeBufInt value
  | .int64 value => writeBufInt64 value
  | .byte data => writeBufInt (UInt32.ofNat data.length) ++ data
  | .string str =>
      let utf8 := CString.ofBuffer (uniToUtf8 str)
      writeBufInt (UInt32.ofNat utf8.strLen) ++ utf8.bytes
  | .bool value => writeBufInt (if value then 1 else 0)

/-- An item in `CfgOutputFolderBin`. -/
def itemBin (t : Item) : List UInt8 :=
  writeBufStr t.name ++ writeBufInt (itemType t.value) ++ valueBin t.value

mutual

/-- `CfgOutputFolderBin`. -/
def outputFolderBin : Folder → List UInt8
  | ⟨name, items, folders⟩ =>
      writeBufStr name ++
        writeBufInt (UInt32.ofNat folders.length) ++ outputFoldersBin folders ++
        writeBufInt (UInt32.ofNat items.length) ++ items.flatMap itemBin

/-- The loop over the subfolders in `CfgOutputFolderBin`. -/
def outputFoldersBin : List Folder → List UInt8
  | [] => []
  | f :: rest => outputFolderBin f ++ outputFoldersBin rest

end

/-- `CfgFolderToBufBin`, with the hash function that it uses. -/
def folderToBufBin
    (hash : List UInt8 → { digest : List UInt8 // digest.length = sha1Size })
    (f : Folder) :
    List UInt8 :=
  ascii "SEVPN_DB" ++ (hash (outputFolderBin f)).val ++ outputFolderBin f

/-- The value of an item of the given type. -/
def readValueBin (type : UInt32) (unread : List UInt8) : Option ItemValue × List UInt8 :=
  if type = 1 then
    let (value, unread) := readBufInt unread
    (some (.int value), unread)
  else if type = 2 then
    let (value, unread) := readBufInt64 unread
    (some (.int64 value), unread)
  else if type = 3 then
    let (size, unread) := readBufInt unread
    let (buf, _, unread) := readBuf unread size.toNat
    (some (.byte buf), unread)
  else if type = 4 then
    let (size, unread) := readBufInt unread
    let (buf, _, unread) := readBuf unread size.toNat
    (some (.string (utf8ToUni (.ofBuffer buf))), unread)
  else if type = 5 then
    let (value, unread) := readBufInt unread
    (some (.bool (value != 0)), unread)
  else (none, unread)

/-- An item in `CfgReadNextFolderBin`: the folder and the array of names change. -/
def readItemBin (state : Folder × List UInt8) (unread : List UInt8) :
    (Folder × List UInt8) × List UInt8 :=
  let (array, unread) := readBufStr state.2 maxSize unread
  let (type, unread) := readBufInt unread
  let (value, unread) := readValueBin type unread
  match value with
  | some value => ((state.1.createItem (.ofBuffer array) value, array), unread)
  | none => ((state.1, array), unread)

/-- The body of `CfgReadNextFolderBin`, with the call for a subfolder.  The array of
names holds `array` before anything is read into it. -/
def readFolderBody
    (array : List UInt8)
    (readSubfolder : Folder → List UInt8 → Folder × List UInt8)
    (parent : Folder)
    (unread : List UInt8) :
    Folder × List UInt8 :=
  let (array, unread) := readBufStr array maxSize unread
  let (n, unread) := readBufInt unread
  let (f, unread) :=
    readTimes readSubfolder n.toNat (createFolder (.ofBuffer array)) unread
  let (n, unread) := readBufInt unread
  let ((f, _), unread) := readTimes readItemBin n.toNat (f, array) unread
  (parent.addFolder f, unread)

/-- `CfgReadNextFolderBin`, with a bound on the depth of the folders. -/
def readNextFolderBin (array : List UInt8) :
    Nat → Folder → List UInt8 → Folder × List UInt8
  | 0, parent, unread => (parent, unread)
  | depth + 1, parent, unread =>
      readFolderBody array (readNextFolderBin array depth) parent unread

/-- `CfgReadNextFolderBin`; a folder with subfolders takes at least a character. -/
def readFolderBin (array : List UInt8) (parent : Folder) (unread : List UInt8) :
    Folder × List UInt8 :=
  readNextFolderBin array (unread.length + 1) parent unread

/-- `CfgBufBinToFolder` of a buffer at the given position. -/
def bufBinToFolder (array : List UInt8) (unread : List UInt8) : Option Folder :=
  (readFolderBin array (createFolder (.ofBuffer (ascii "tmp"))) unread).1.findFolder
    (.ofBuffer (ascii "root"))

/-! ## The recursion without a bound -/

theorem length_readValueBin (type : UInt32) (unread : List UInt8) :
    (readValueBin type unread).2.length ≤ unread.length := by
  have number := length_readBufInt unread
  have number64 : (readBufInt64 unread).2.length = unread.length - 8 := List.length_drop
  unfold readValueBin
  generalize readBufInt unread = result at number ⊢
  generalize readBufInt64 unread = result64 at number64 ⊢
  obtain ⟨value, left⟩ := result
  obtain ⟨value64, left64⟩ := result64
  simp only [readBuf, apply_ite Prod.snd, apply_ite List.length, List.length_drop]
  dsimp only at number number64
  grind

theorem length_readItemBin (state : Folder × List UInt8) (unread : List UInt8) :
    (readItemBin state unread).2.length ≤ unread.length := by
  have name := length_readBufStr state.2 maxSize unread
  unfold readItemBin
  generalize readBufStr state.2 maxSize unread = result at name ⊢
  obtain ⟨array, afterName⟩ := result
  have number := length_readBufInt afterName
  dsimp only at name ⊢
  generalize readBufInt afterName = result at number ⊢
  obtain ⟨type, afterType⟩ := result
  have value := length_readValueBin type afterType
  dsimp only at number ⊢
  generalize readValueBin type afterType = result at value ⊢
  obtain ⟨_ | _, left⟩ := result
  · dsimp only at value ⊢
    omega
  · dsimp only at value ⊢
    omega

variable {array : List UInt8}

theorem length_readFolderBody
    {readSubfolder : Folder → List UInt8 → Folder × List UInt8}
    (shrinks : ∀ f text, (readSubfolder f text).2.length ≤ text.length)
    (parent : Folder)
    (unread : List UInt8) :
    (readFolderBody array readSubfolder parent unread).2.length ≤ unread.length := by
  have name := length_readBufStr array maxSize unread
  unfold readFolderBody
  generalize readBufStr array maxSize unread = result at name ⊢
  obtain ⟨array, afterName⟩ := result
  have number := length_readBufInt afterName
  dsimp only at name ⊢
  generalize readBufInt afterName = result at number ⊢
  obtain ⟨n, afterNumber⟩ := result
  have folders := length_readTimes (fun state text _ => shrinks state text) n.toNat
    (createFolder (.ofBuffer array)) (Nat.le_refl afterNumber.length)
  dsimp only at number ⊢
  generalize readTimes readSubfolder n.toNat (createFolder (.ofBuffer array)) afterNumber =
    result at folders ⊢
  obtain ⟨f, afterFolders⟩ := result
  have number := length_readBufInt afterFolders
  dsimp only at folders ⊢
  generalize readBufInt afterFolders = result at number ⊢
  obtain ⟨m, afterCount⟩ := result
  have items := length_readTimes (fun state text _ => length_readItemBin state text)
    m.toNat (f, array) (Nat.le_refl afterCount.length)
  dsimp only at number ⊢
  generalize readTimes readItemBin m.toNat (f, array) afterCount = result at items ⊢
  obtain ⟨⟨f, array⟩, left⟩ := result
  dsimp only at items ⊢
  omega

theorem readFolderBody_congr
    {readSubfolder other : Folder → List UInt8 → Folder × List UInt8}
    {unread : List UInt8}
    (shrinks : ∀ f text, (other f text).2.length ≤ text.length)
    (agree : ∀ f text, text.length < unread.length →
      readSubfolder f text = other f text)
    (parent : Folder) :
    readFolderBody array readSubfolder parent unread =
      readFolderBody array other parent unread := by
  have name := length_readBufStr array maxSize unread
  unfold readFolderBody
  generalize readBufStr array maxSize unread = result at name ⊢
  obtain ⟨array, afterName⟩ := result
  have number := length_readBufInt afterName
  have counted := @length_of_readBufInt_ne_zero afterName
  dsimp only at name ⊢
  generalize readBufInt afterName = result at number counted ⊢
  obtain ⟨n, afterNumber⟩ := result
  dsimp only at number counted ⊢
  have folders : readTimes readSubfolder n.toNat (createFolder (.ofBuffer array))
      afterNumber = readTimes other n.toNat (createFolder (.ofBuffer array))
        afterNumber := by
    by_cases none_counted : n = 0
    · rw [none_counted]
      rfl
    · have long := counted none_counted
      exact readTimes_congr (fun state text _ => shrinks state text)
        (fun state text short => agree state text (by omega)) n.toNat _
        (Nat.le_refl afterNumber.length)
  rw [folders]

theorem length_readNextFolderBin
    (array : List UInt8)
    (depth : Nat)
    (parent : Folder)
    (unread : List UInt8) :
    (readNextFolderBin array depth parent unread).2.length ≤ unread.length := by
  induction depth generalizing parent unread with
  | zero => exact Nat.le_refl _
  | succ depth inductionHypothesis =>
      exact length_readFolderBody inductionHypothesis parent unread

theorem readNextFolderBin_bound
    {depth other : Nat}
    {unread : List UInt8}
    (enough : unread.length < depth)
    (otherEnough : unread.length < other)
    (parent : Folder) :
    readNextFolderBin array depth parent unread =
      readNextFolderBin array other parent unread := by
  induction depth generalizing other unread parent with
  | zero => omega
  | succ depth inductionHypothesis =>
      cases other with
      | zero => omega
      | succ other =>
          exact readFolderBody_congr (length_readNextFolderBin array other)
            (fun f text shorter => inductionHypothesis (by omega) (by omega) f) parent

theorem readFolderBin_eq
    (array : List UInt8)
    (parent : Folder)
    (unread : List UInt8) :
    readFolderBin array parent unread =
      readFolderBody array (readFolderBin array) parent unread := by
  change readFolderBody array (readNextFolderBin array unread.length) parent unread = _
  exact readFolderBody_congr
    (fun f text => length_readNextFolderBin array (text.length + 1) f text)
    (fun f text shorter => readNextFolderBin_bound shorter (Nat.lt_succ_self _) f) parent

end Cfg
end SoftEther
