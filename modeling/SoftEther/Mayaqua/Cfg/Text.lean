import SoftEther.Mayaqua.Base64
import SoftEther.Mayaqua.Cfg.Defs
import SoftEther.Mayaqua.Cfg.Escape
import SoftEther.Mayaqua.Token

/-!
# Configuration folders as text

`CfgFolderToBufText` writes a tree as lines of tokens, a folder between a
`declare` line with a brace and a closing brace.  `CfgBufTextToFolder` reads the
lines back, with one loop for each open folder.  Buffers grow as far as they are
needed.
-/

namespace SoftEther
namespace Cfg

/-- `CfgTypeToStr`. -/
def typeToStr : ItemValue → List UInt8
  | .int _ => ascii "uint"
  | .int64 _ => ascii "uint64"
  | .byte _ => ascii "byte"
  | .string _ => ascii "string"
  | .bool _ => ascii "bool"

/-- The `data` of `CfgAddItemText`. -/
def dataText : ItemValue → List UInt8
  | .int value => toStr value
  | .int64 value => toStr64 value
  | .byte data => b64Encode data
  | .string str => uniToUtf8 str
  | .bool value => if value then ascii "true" else ascii "false"

/-- `CfgAddLine`. -/
def addLine (str : List UInt8) (depth : Nat) : List UInt8 :=
  List.replicate depth 9 ++ str ++ [13, 10]

/-- `CfgAddItemText` and `CfgAddData`. -/
def addItemText (depth : Nat) (t : Item) : List UInt8 :=
  addLine
    (typeToStr t.value ++ 32 :: escape t.name ++
      32 :: escape (.ofBuffer (dataText t.value)))
    depth

/-- `CfgAddDeclare`. -/
def addDeclare (locale : Locale) (name : CString) (depth : Nat) : List UInt8 :=
  addLine
    (locale.formatPair (.ofBuffer (ascii "declare")) (.ofBuffer (escape name))).bytes
    depth ++
  addLine (ascii "\x7b") depth

/-- `CfgAddEnd`. -/
def addEnd (depth : Nat) : List UInt8 :=
  addLine (ascii "\x7d") depth

mutual

/-- `CfgOutputFolderText`. -/
def outputFolderText (locale : Locale) (depth : Nat) : Folder → List UInt8
  | ⟨name, items, folders⟩ =>
      addDeclare locale name depth ++
        items.flatMap (addItemText (depth + 1)) ++
        (if folders.length ≠ 0 ∧ items.length ≠ 0 then [13, 10] else []) ++
        outputFoldersText locale (depth + 1) folders ++
        addEnd depth

/-- `CfgEnumFolder` with `CfgEnumFolderProc`. -/
def outputFoldersText (locale : Locale) (depth : Nat) : List Folder → List UInt8
  | [] => []
  | f :: rest => outputFolderText locale depth f ++ outputFoldersText locale depth rest

end

/-- The lines of `TAG_CPYRIGHT`. -/
def bannerLines : List (List UInt8) :=
  [[0xef, 0xbb, 0xbf] ++ ascii "# Software Configuration File",
    ascii "# ---------------------------",
    ascii "# ",
    ascii "# You may edit this file when the VPN Server / Client / Bridge program is not running.",
    ascii "# ",
    ascii "# In prior to edit this file manually by your text editor,",
    ascii "# shutdown the VPN Server / Client / Bridge background service.",
    ascii "# Otherwise, all changes will be lost.",
    ascii "# "]

/-- `CfgFolderToBufTextEx`. -/
def folderToBufTextEx (locale : Locale) (f : Folder) (noBanner : Bool) : List UInt8 :=
  (if noBanner then [] else bannerLines.flatMap fun line => addLine line 0) ++
    outputFolderText locale 0 f

/-- `CfgFolderToBufText`. -/
def folderToBufText (locale : Locale) (f : Folder) : List UInt8 :=
  folderToBufTextEx locale f false

/-- The number of characters that `CfgReadNextLine` takes: up to the line end, with
a carriage return. -/
def lineLength (unread : List UInt8) : Nat :=
  let len := (unread.takeWhile fun char => char ≠ 13 ∧ char ≠ 10).length
  if unread[len]? = some 13 then len + 1 else len

/-- A carriage return at the end of a line goes. -/
def dropReturn (buf : CString) : CString :=
  if buf.bytes.getLast? = some 13 then .ofBuffer buf.bytes.dropLast else buf

/-- `CfgReadNextLine`: the line and what is left. -/
def readNextLine (unread : List UInt8) : Option (CString × List UInt8) :=
  if unread = [] then none
  else
    some (dropReturn (.ofBuffer (unread.take (lineLength unread))),
      unread.drop (lineLength unread + 1))

/-- `StrCmpi` of a token and a tag. -/
def isTag (token : List UInt8) (tag : String) : Bool :=
  compareUpper token (ascii tag) = .eq

/-- The item that a line with a type, a name and data adds. -/
def addItem (tag : List UInt8) (name : CString) (data : List UInt8) (current : Folder) :
    Folder :=
  let current :=
    if isTag tag "string" then
      current.createItem name (.string (utf8ToUni (unescape data)))
    else current
  let current :=
    if isTag tag "uint" then current.createItem name (.int (toInt data)) else current
  let current :=
    if isTag tag "uint64" then current.createItem name (.int64 (toInt64 data))
    else current
  let current :=
    if isTag tag "bool" then
      current.createItem name (.bool (isTag data "true" || toInt data != 0))
    else current
  if isTag tag "byte" then
    current.createItem name (.byte (b64Decode (unescape data).bytes))
  else current

/-- What `CfgReadNextTextBUF` does with the tokens of a line; `readFolder` is the
loop that reads the folder of a declaration. -/
def applyTokens
    (readFolder : Folder → List UInt8 → Folder × List UInt8)
    (token : List (List UInt8))
    (current : Folder)
    (unread : List UInt8) :
    Bool × Folder × List UInt8 :=
  match token with
  | [] => (true, current, unread)
  | tag :: operands =>
      let (current, unread) :=
        match operands with
        | name :: _ =>
            if isTag tag "declare" then
              let (f, unread) := readFolder (createFolder (unescape name)) unread
              (current.addFolder f, unread)
            else (current, unread)
        | [] => (current, unread)
      let ret := !isTag tag "\x7d"
      match operands with
      | name :: data :: _ => (ret, addItem tag (unescape name) data current, unread)
      | _ => (ret, current, unread)

/-- `CfgReadNextTextBUF`. -/
def readNextTextBUF
    (readFolder : Folder → List UInt8 → Folder × List UInt8)
    (current : Folder)
    (unread : List UInt8) :
    Bool × Folder × List UInt8 :=
  match readNextLine unread with
  | none => (false, current, unread)
  | some (buf, unread) => applyTokens readFolder (parseToken buf [9, 32]) current unread

/-- The loop over `CfgReadNextTextBUF`, with a bound on the lines that are left. -/
def readTextLoop : Nat → Folder → List UInt8 → Folder × List UInt8
  | 0, current, unread => (current, unread)
  | lines + 1, current, unread =>
      match readNextTextBUF (readTextLoop lines) current unread with
      | (true, current, unread) => readTextLoop lines current unread
      | (false, current, unread) => (current, unread)

/-- The loop over `CfgReadNextTextBUF`; every line takes at least a character. -/
def readText (current : Folder) (unread : List UInt8) : Folder × List UInt8 :=
  readTextLoop (unread.length + 1) current unread

/-- `CfgBufTextToFolder` of a buffer that is read from its start. -/
def bufTextToFolder (b : List UInt8) : Option Folder :=
  (readText (createFolder (.ofBuffer (ascii "tmp"))) b).1.findFolder
    (.ofBuffer (ascii "root"))

/-! ## The loop without a bound -/

theorem length_of_readNextLine
    {unread rest : List UInt8}
    {buf : CString}
    (read : readNextLine unread = some (buf, rest)) :
    rest.length < unread.length := by
  unfold readNextLine at read
  by_cases empty : unread = []
  · rw [if_pos empty] at read
    exact nomatch read
  · rw [if_neg empty] at read
    injection read with read
    injection read with _ same
    rw [← same, List.length_drop]
    have nonempty := List.length_pos_of_ne_nil empty
    omega

variable {unread : List UInt8}

theorem length_applyTokens
    {readFolder : Folder → List UInt8 → Folder × List UInt8}
    (shrinks : ∀ f, (readFolder f unread).2.length ≤ unread.length)
    (token : List (List UInt8))
    (current : Folder) :
    (applyTokens readFolder token current unread).2.2.length ≤ unread.length := by
  cases token with
  | nil => exact Nat.le_refl _
  | cons tag operands =>
      cases operands with
      | nil => exact Nat.le_refl _
      | cons name more =>
          have inner := shrinks (createFolder (unescape name))
          by_cases declares : isTag tag "declare"
          · cases more with
            | nil => simpa [applyTokens, declares] using inner
            | cons data others => simpa [applyTokens, declares] using inner
          · cases more with
            | nil => simp [applyTokens, declares]
            | cons data others => simp [applyTokens, declares]

theorem applyTokens_congr
    {readFolder other : Folder → List UInt8 → Folder × List UInt8}
    (agree : ∀ f, readFolder f unread = other f unread)
    (token : List (List UInt8))
    (current : Folder) :
    applyTokens readFolder token current unread =
      applyTokens other token current unread := by
  simp only [applyTokens, agree]

theorem length_readTextLoop
    (lines : Nat)
    (current : Folder)
    (unread : List UInt8) :
    (readTextLoop lines current unread).2.length ≤ unread.length := by
  induction lines generalizing current unread with
  | zero => exact Nat.le_refl _
  | succ lines inductionHypothesis =>
      unfold readTextLoop readNextTextBUF
      cases read : readNextLine unread with
      | none => exact Nat.le_refl _
      | some line =>
          obtain ⟨buf, rest⟩ := line
          have taken := length_of_readNextLine read
          have applied := length_applyTokens
            (fun f => inductionHypothesis f rest) (parseToken buf [9, 32]) current
          dsimp only
          generalize applyTokens (readTextLoop lines) (parseToken buf [9, 32]) current
            rest = result at applied ⊢
          obtain ⟨_ | _, after, left⟩ := result
          · dsimp only at applied ⊢
            omega
          · dsimp only at applied ⊢
            have remaining := inductionHypothesis after left
            omega

theorem readTextLoop_bound
    {lines others : Nat}
    (enough : unread.length < lines)
    (othersEnough : unread.length < others)
    (current : Folder) :
    readTextLoop lines current unread = readTextLoop others current unread := by
  induction lines generalizing others current unread with
  | zero => omega
  | succ lines inductionHypothesis =>
      cases others with
      | zero => omega
      | succ others =>
          unfold readTextLoop readNextTextBUF
          cases read : readNextLine unread with
          | none => rfl
          | some line =>
              obtain ⟨buf, rest⟩ := line
              have taken := length_of_readNextLine read
              have agree : ∀ f, readTextLoop lines f rest = readTextLoop others f rest :=
                fun f => inductionHypothesis (by omega) (by omega) f
              have applied := length_applyTokens
                (fun f => length_readTextLoop others f rest) (parseToken buf [9, 32])
                current
              dsimp only
              rw [applyTokens_congr agree]
              generalize applyTokens (readTextLoop others) (parseToken buf [9, 32])
                current rest = result at applied ⊢
              obtain ⟨_ | _, after, left⟩ := result
              · rfl
              · dsimp only at applied ⊢
                exact inductionHypothesis (by omega) (by omega) after

theorem readText_eq (current : Folder) (unread : List UInt8) :
    readText current unread =
      match readNextTextBUF readText current unread with
      | (true, current, unread) => readText current unread
      | (false, current, unread) => (current, unread) := by
  conv_lhs => unfold readText readTextLoop
  unfold readNextTextBUF
  cases read : readNextLine unread with
  | none => rfl
  | some line =>
      obtain ⟨buf, rest⟩ := line
      have taken := length_of_readNextLine read
      have agree : ∀ f, readTextLoop unread.length f rest = readText f rest :=
        fun f => readTextLoop_bound taken (Nat.lt_succ_self _) f
      have applied := length_applyTokens
        (fun f => length_readTextLoop (rest.length + 1) f rest)
        (parseToken buf [9, 32]) current
      dsimp only
      rw [applyTokens_congr agree]
      change (applyTokens readText _ _ _).2.2.length ≤ _ at applied
      generalize applyTokens readText (parseToken buf [9, 32]) current rest = result
        at applied ⊢
      obtain ⟨_ | _, after, left⟩ := result
      · rfl
      · dsimp only at applied ⊢
        exact readTextLoop_bound (by omega) (Nat.lt_succ_self _) after

end Cfg
end SoftEther
