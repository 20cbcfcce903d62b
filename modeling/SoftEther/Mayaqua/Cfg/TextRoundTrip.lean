import SoftEther.Library.Reading
import SoftEther.Mayaqua.Cfg.Text

/-!
# The text of a tree is read back

Each line that the writer makes has one effect on the loop of the reader: an item
line creates the item, a folder with all its lines adds the folder.  The effect of
a folder follows from those of its lines and of its subfolders.
-/

namespace SoftEther
namespace Cfg

open Library

/-! ## Lines -/

/-- A line without a terminator or a line end in it. -/
def CleanLine (line : List UInt8) : Prop :=
  ∀ char ∈ line, char ≠ 0 ∧ char ≠ 13 ∧ char ≠ 10

instance : DecidablePred CleanLine := fun line =>
  List.decidableBAll (fun char => char ≠ 0 ∧ char ≠ 13 ∧ char ≠ 10) line

theorem CleanLine.append
    {first second : List UInt8}
    (left : CleanLine first)
    (right : CleanLine second) :
    CleanLine (first ++ second) :=
  fun char listed => (List.mem_append.mp listed).elim (left char) (right char)

variable {line : List UInt8} {locale : Locale} {f : Folder}

theorem CleanLine.of_visible
    (visible : ∀ char ∈ line, 32 < char.toNat) :
    CleanLine line := by
  intro char listed
  have large := visible char listed
  refine ⟨?_, ?_, ?_⟩
  · intro same
    rw [same] at large
    exact absurd large (by decide)
  · intro same
    rw [same] at large
    exact absurd large (by decide)
  · intro same
    rw [same] at large
    exact absurd large (by decide)

theorem CleanLine.noNul
    (clean : CleanLine line) :
    0 ∉ line :=
  fun listed => (clean 0 listed).1 rfl

theorem lineLength_append
    (clean : CleanLine line)
    (rest : List UInt8) :
    lineLength (line ++ 13 :: 10 :: rest) = line.length + 1 := by
  have taken : (line ++ 13 :: 10 :: rest).takeWhile
      (fun char => decide (char ≠ 13 ∧ char ≠ 10)) = line := by
    rw [List.takeWhile_append_of_pos]
    · simp
    · exact fun char listed => decide_eq_true (clean char listed).2
  have ended : (line ++ 13 :: 10 :: rest)[line.length]? = some 13 := by
    simp
  unfold lineLength
  rw [taken]
  exact if_pos ended

theorem readNextLine_append
    (clean : CleanLine line)
    (rest : List UInt8) :
    readNextLine (line ++ 13 :: 10 :: rest) = some (.ofBuffer line, rest) := by
  have noNul : 0 ∉ line ++ [13] := by
    simpa using clean.noNul
  have split : line ++ 13 :: 10 :: rest = (line ++ [13]) ++ 10 :: rest := by simp
  have length : (line ++ [13]).length = line.length + 1 := by simp
  unfold readNextLine
  rw [if_neg (by simp), lineLength_append clean, split, ← length, List.take_left,
    List.drop_append, List.drop_eq_nil_of_le (Nat.le_succ _)]
  unfold dropReturn
  rw [CString.bytes_ofBuffer noNul, List.getLast?_concat, if_pos rfl,
    List.dropLast_concat]
  simp

/-- A separator of tokens in a line. -/
abbrev isSeparator (char : UInt8) : Bool :=
  decide (char ∈ ([9, 32] : List UInt8))

theorem readText_addLine
    (clean : CleanLine line)
    (depth : Nat)
    (current : Folder)
    (rest : List UInt8) :
    readText current (addLine line depth ++ rest) =
      match applyTokens readText (tokens isSeparator line) current rest with
      | (true, current, unread) => readText current unread
      | (false, current, unread) => (current, unread) := by
  have tabs : CleanLine (List.replicate depth 9) := by
    intro char listed
    rw [List.eq_of_mem_replicate listed]
    decide
  have written : addLine line depth ++ rest =
      (List.replicate depth 9 ++ line) ++ 13 :: 10 :: rest := by
    simp [addLine]
  have separators : ∀ separator ∈ List.replicate depth (9 : UInt8),
      isSeparator separator = true := by
    intro separator listed
    rw [List.eq_of_mem_replicate listed]
    decide
  have clean' := tabs.append clean
  rw [readText_eq, written]
  unfold readNextTextBUF
  rw [readNextLine_append clean']
  dsimp only
  rewrite [parseToken_eq_tokens, CString.bytes_ofBuffer clean'.noNul,
    tokens_separators separators]
  rfl

theorem hasEffect_addLine_id
    (clean : CleanLine line)
    (depth : Nat)
    (idle : ∀ current rest, applyTokens readText (tokens isSeparator line) current rest =
      (true, current, rest)) :
    HasEffect readText (addLine line depth) id := by
  intro current rest
  rw [readText_addLine clean, idle]
  rfl

theorem isWord_of_visible
    {word : List UInt8}
    (nonempty : word ≠ [])
    (visible : ∀ char ∈ word, 32 < char.toNat) :
    IsWord isSeparator word where
  nonempty := nonempty
  clean := by
    intro char listed
    have large := visible char listed
    apply decide_eq_false
    intro separates
    simp only [List.mem_cons, List.not_mem_nil, or_false] at separates
    obtain same | same := separates
    · rw [same] at large
      exact absurd large (by decide)
    · rw [same] at large
      exact absurd large (by decide)

theorem isWord_escape (str : CString) : IsWord isSeparator (escape str) :=
  isWord_of_visible (escape_ne_nil str) fun _ => mem_escape

/-- **Escaped strings.**  `CfgUnescape` gives back what `CfgEscape` was given, and what it makes is
one token of one line: characters behind the blank, at none of which a line or a token ends. -/
theorem escape_token (str : CString) (rest : List UInt8) :
    unescape (escape str) = str ∧ escape str ≠ [] ∧
      (∀ char ∈ escape str, 32 < char.toNat ∧ isSeparator char = false ∧
        char ≠ 0 ∧ char ≠ 13 ∧ char ≠ 10) ∧
      readNextLine (escape str ++ 13 :: 10 :: rest) = some (.ofBuffer (escape str), rest) ∧
      parseToken (.ofBuffer (escape str)) [9, 32] = [escape str] := by
  have clean : CleanLine (escape str) := CleanLine.of_visible fun _ => mem_escape
  have isWord := isWord_escape str
  refine ⟨unescape_escape str, isWord.nonempty, fun char listed => ?_,
    readNextLine_append clean rest, ?_⟩
  · exact ⟨mem_escape listed, isWord.clean char listed, clean char listed⟩
  · rw [parseToken_eq_tokens, CString.bytes_ofBuffer clean.noNul]
    exact tokens_word isWord

/-- The names of the types. -/
theorem typeToStr_mem (value : ItemValue) :
    typeToStr value ∈
      [ascii "uint", ascii "uint64", ascii "byte", ascii "string", ascii "bool"] := by
  cases value with
  | int value => exact .head _
  | int64 value => exact .tail _ (.head _)
  | byte data => exact .tail _ (.tail _ (.head _))
  | string str => exact .tail _ (.tail _ (.tail _ (.head _)))
  | bool value => exact .tail _ (.tail _ (.tail _ (.tail _ (.head _))))

theorem typeToStr_word (value : ItemValue) :
    typeToStr value ≠ [] ∧ (∀ char ∈ typeToStr value, 32 < char.toNat) ∧
      isTag (typeToStr value) "declare" = false ∧
      isTag (typeToStr value) "\x7d" = false := by
  have all : ∀ tag ∈
      [ascii "uint", ascii "uint64", ascii "byte", ascii "string", ascii "bool"],
      tag ≠ [] ∧ (∀ char ∈ tag, 32 < char.toNat) ∧
        isTag tag "declare" = false ∧ isTag tag "\x7d" = false := by
    decide +kernel
  exact all _ (typeToStr_mem value)

theorem escape_plain
    {str : CString}
    (nonempty : str.bytes ≠ [])
    (plain : ∀ char ∈ str.bytes, checkCharForName char = true) :
    escape str = str.bytes := by
  have some_char : str.strLen ≠ 0 := by
    unfold CString.strLen
    rwa [ne_eq, List.length_eq_zero_iff]
  unfold escape
  rw [if_neg some_char]
  generalize str.bytes = bytes at plain
  clear nonempty some_char
  induction bytes with
  | nil => rfl
  | cons char rest inductionHypothesis =>
      rw [List.flatMap_cons, escapeChar, if_pos (plain char List.mem_cons_self),
        inductionHypothesis fun other listed => plain other (List.mem_cons_of_mem _ listed),
        List.singleton_append]

theorem escape_decimal (value : Nat) : escape (.ofBuffer (decimal value)) = decimal value := by
  have digits : ∀ char : UInt8, 48 ≤ char ∧ char ≤ 57 → checkCharForName char = true ∧
      char ≠ 0 :=
    forall_byte (by decide +kernel)
  have noNul : 0 ∉ decimal value := fun listed => (digits 0 (mem_decimal listed)).2 rfl
  have bytes := CString.bytes_ofBuffer noNul
  rw [escape_plain, bytes]
  · rw [bytes]
    exact decimal_ne_nil value
  · rw [bytes]
    exact fun char listed => (digits char (mem_decimal listed)).1

theorem zero_notMem_b64Encode (data : List UInt8) : 0 ∉ b64Encode data :=
  fun listed => absurd (mem_b64Encode listed).1 (by decide)

theorem addItem_dataText
    (value : ItemValue)
    (name : CString)
    (current : Folder) :
    addItem (typeToStr value) name (escape (.ofBuffer (dataText value))) current =
      current.createItem name value := by
  cases value with
  | int value =>
      change current.createItem name
        (.int (toInt (escape (.ofBuffer (decimal value.toNat))))) = _
      rw [escape_decimal]
      exact congrArg (fun value => current.createItem name (.int value)) (toInt_toStr value)
  | int64 value =>
      change current.createItem name
        (.int64 (toInt64 (escape (.ofBuffer (decimal value.toNat))))) = _
      rw [escape_decimal]
      exact congrArg (fun value => current.createItem name (.int64 value))
        (toInt64_toStr64 value)
  | byte data =>
      change current.createItem name
        (.byte (b64Decode (unescape (escape (.ofBuffer (b64Encode data)))).bytes)) = _
      rw [unescape_escape, CString.bytes_ofBuffer (zero_notMem_b64Encode data),
        b64Decode_encode]
  | string str =>
      change current.createItem name
        (.string (utf8ToUni (unescape (escape (.ofBuffer (uniToUtf8 str)))))) = _
      rw [unescape_escape,
        utf8ToUni_uniToUtf8 (CString.bytes_ofBuffer (zero_notMem_uniToUtf8 str))]
  | bool value =>
      cases value with
      | false => rfl
      | true => rfl

theorem hasEffect_addItemText (depth : Nat) (t : Item) :
    HasEffect readText (addItemText depth t)
      fun folder => folder.createItem t.name t.value := by
  obtain ⟨nonempty, visible, noDeclare, noEnd⟩ := typeToStr_word t.value
  have blank : CleanLine [32] := by
    intro char listed
    rw [List.mem_singleton.mp listed]
    decide
  have name : CleanLine (escape t.name) := .of_visible fun _ => mem_escape
  have data : CleanLine (escape (.ofBuffer (dataText t.value))) :=
    .of_visible fun _ => mem_escape
  have clean : CleanLine (typeToStr t.value ++ 32 :: escape t.name ++
      32 :: escape (.ofBuffer (dataText t.value))) :=
    ((CleanLine.of_visible visible).append (blank.append name)).append
      (blank.append data)
  have words : tokens isSeparator (typeToStr t.value ++ 32 :: escape t.name ++
      32 :: escape (.ofBuffer (dataText t.value))) =
      [typeToStr t.value, escape t.name, escape (.ofBuffer (dataText t.value))] := by
    rw [List.append_assoc, List.cons_append,
      tokens_word_separator (isWord_of_visible nonempty visible) (by decide),
      tokens_word_separator (isWord_escape t.name) (by decide),
      tokens_word (isWord_escape _)]
  intro current rest
  unfold addItemText
  rw [readText_addLine clean, words]
  simp only [applyTokens, noDeclare, noEnd, Bool.false_eq_true, if_false, Bool.not_false,
    unescape_escape, addItem_dataText]

theorem hasEffect_openBrace (depth : Nat) :
    HasEffect readText (addLine (ascii "\x7b") depth) id :=
  hasEffect_addLine_id (by decide) depth fun _ _ => rfl

theorem hasEffect_blankLine : HasEffect readText [13, 10] id :=
  hasEffect_addLine_id (show CleanLine [] by decide) 0 fun _ _ => rfl

theorem readText_addEnd
    (depth : Nat)
    (current : Folder)
    (rest : List UInt8) :
    readText current (addEnd depth ++ rest) = (current, rest) := by
  unfold addEnd
  rw [readText_addLine (by decide)]
  rfl

theorem applyTokens_of_noTag
    {token : List (List UInt8)}
    (noTag : ∀ tag ∈ token.head?, ∀ known ∈
      ["declare", "\x7d", "string", "uint", "uint64", "bool", "byte"],
      isTag tag known = false)
    (current : Folder)
    (rest : List UInt8) :
    applyTokens readText token current rest = (true, current, rest) := by
  cases token with
  | nil => rfl
  | cons tag operands =>
      have others := noTag tag rfl
      simp only [List.forall_mem_cons] at others
      obtain ⟨declare, brace, string, uint, uint64, bool, byte, _⟩ := others
      cases operands with
      | nil => simp [applyTokens, brace]
      | cons name more =>
          cases more with
          | nil => simp [applyTokens, declare, brace]
          | cons data others =>
              simp [applyTokens, addItem, declare, brace, string, uint, uint64, bool, byte]

theorem hasEffect_banner :
    HasEffect readText (bannerLines.flatMap fun line => addLine line 0) id := by
  have lines : ∀ line ∈ bannerLines, CleanLine line ∧
      ∀ tag ∈ (tokens isSeparator line).head?, ∀ known ∈
        ["declare", "\x7d", "string", "uint", "uint64", "bool", "byte"],
        isTag tag known = false := by
    decide +kernel
  have each : ∀ line ∈ bannerLines,
      HasEffect readText (addLine line 0) fun folder => folder := by
    intro line listed
    obtain ⟨clean, noTag⟩ := lines line listed
    exact hasEffect_addLine_id clean 0 fun current rest =>
      applyTokens_of_noTag noTag current rest
  exact HasEffect.flatMap each

/-! ## Folders -/

/-- The name of a folder passes the conversion that its `declare` line goes
through. -/
def PassesDeclare (locale : Locale) (name : CString) : Prop :=
  (locale.formatPair (.ofBuffer (ascii "declare")) (.ofBuffer (escape name))).bytes =
    ascii "declare" ++ 32 :: escape name

/-- The subfolders are written one after the other. -/
theorem outputFoldersText_eq_flatMap
    (locale : Locale)
    (depth : Nat)
    (folders : List Folder) :
    outputFoldersText locale depth folders =
      folders.flatMap (outputFolderText locale depth) := by
  induction folders with
  | nil => rfl
  | cons f rest inductionHypothesis =>
      rw [outputFoldersText, inductionHypothesis, List.flatMap_cons]

/-- What stands between the `declare` line and the closing brace of a folder. -/
def folderBody (locale : Locale) (depth : Nat) (f : Folder) : List UInt8 :=
  addLine (ascii "\x7b") depth ++
    f.items.flatMap (addItemText (depth + 1)) ++
    (if f.folders.length ≠ 0 ∧ f.items.length ≠ 0 then [13, 10] else []) ++
    f.folders.flatMap (outputFolderText locale (depth + 1))

theorem outputFolderText_eq
    (passes : PassesDeclare locale f.name)
    (depth : Nat) :
    outputFolderText locale depth f =
      addLine (ascii "declare" ++ 32 :: escape f.name) depth ++
        (folderBody locale depth f ++ addEnd depth) := by
  cases f with
  | mk name items folders =>
      have line : addDeclare locale name depth =
          addLine (ascii "declare" ++ 32 :: escape name) depth ++
            addLine (ascii "\x7b") depth :=
        congrArg (fun line => addLine line depth ++ addLine (ascii "\x7b") depth) passes
      simp only [outputFolderText, folderBody, line, outputFoldersText_eq_flatMap,
        List.append_assoc]

theorem hasEffect_folderBody
    {depth : Nat}
    (below : ∀ sub ∈ f.folders, HasEffect readText
      (outputFolderText locale (depth + 1) sub) fun folder => folder.addFolder sub) :
    HasEffect readText (folderBody locale depth f) fun folder =>
      f.folders.foldl Folder.addFolder
        (f.items.foldl (fun folder item => folder.createItem item.name item.value)
          folder) := by
  have items : HasEffect readText (f.items.flatMap (addItemText (depth + 1)))
      fun folder => f.items.foldl
        (fun folder item => folder.createItem item.name item.value) folder :=
    HasEffect.flatMap fun item _ => hasEffect_addItemText (depth + 1) item
  have blank : HasEffect readText
      (if f.folders.length ≠ 0 ∧ f.items.length ≠ 0 then [13, 10] else []) id := by
    split
    · exact hasEffect_blankLine
    · exact HasEffect.nil readText
  have folders : HasEffect readText
      (f.folders.flatMap (outputFolderText locale (depth + 1)))
      fun folder => f.folders.foldl Folder.addFolder folder :=
    HasEffect.flatMap below
  exact (((hasEffect_openBrace depth).append items).append blank).append folders

theorem hasEffect_outputFolderText
    (each : f.Everywhere fun f => f.SortedHere ∧ PassesDeclare locale f.name)
    (depth : Nat) :
    HasEffect readText (outputFolderText locale depth f)
      fun folder => folder.addFolder f := by
  induction each generalizing depth with
  | @intro f here _ inductionHypothesis =>
      obtain ⟨sorted, passes⟩ := here
      have body := hasEffect_folderBody fun sub listed =>
        inductionHypothesis sub listed (depth + 1)
      have word : IsWord isSeparator (ascii "declare") :=
        isWord_of_visible (by decide) (by decide +kernel)
      have words : tokens isSeparator (ascii "declare" ++ 32 :: escape f.name) =
          [ascii "declare", escape f.name] := by
        rw [tokens_word_separator word (by decide), tokens_word (isWord_escape f.name)]
      have name : CleanLine (escape f.name) := .of_visible fun _ => mem_escape
      have clean : CleanLine (ascii "declare" ++ 32 :: escape f.name) :=
        (show CleanLine (ascii "declare" ++ [32]) by decide).append name
      intro current rest
      have inside : readText (createFolder f.name)
          (folderBody locale depth f ++ (addEnd depth ++ rest)) = (f, rest) := by
        rw [body, readText_addEnd]
        exact congrArg (fun folder => (folder, rest)) (f.rebuild sorted)
      rw [outputFolderText_eq passes, List.append_assoc, List.append_assoc,
        readText_addLine clean, words]
      simp only [applyTokens, unescape_escape, inside]
      rfl

theorem findFolder_single (name folderName : CString) (f : Folder) :
    ((createFolder name).addFolder f).findFolder folderName =
      if strCmpi folderName f.name = .eq then some f else none := by
  have single : ((createFolder name).addFolder f).folders = [f] :=
    foldl_insertByName (List.pairwise_singleton _ f)
  unfold Folder.findFolder
  rw [single]
  cases compared : strCmpi folderName f.name with
  | lt => simp [bsearch, compared]
  | eq => simp [bsearch, compared]
  | gt => simp [bsearch, compared]

theorem bufTextToFolder_folderToBufTextEx
    (each : f.Everywhere fun f => f.SortedHere ∧ PassesDeclare locale f.name)
    (noBanner : Bool) :
    bufTextToFolder (folderToBufTextEx locale f noBanner) =
      if strCmpi (.ofBuffer (ascii "root")) f.name = .eq then some f else none := by
  have banner : HasEffect readText
      (if noBanner then [] else bannerLines.flatMap fun line => addLine line 0) id := by
    cases noBanner with
    | true => exact HasEffect.nil readText
    | false => exact hasEffect_banner
  have read := (banner.append (hasEffect_outputFolderText each 0))
    (createFolder (.ofBuffer (ascii "tmp"))) []
  have ended (folder : Folder) : readText folder [] = (folder, []) := rfl
  rw [List.append_nil, ended] at read
  unfold bufTextToFolder folderToBufTextEx
  rw [read]
  exact findFolder_single _ _ f

def folderNamed (name : List UInt8) (folders : List Folder) : Folder where
  name := .ofBuffer name
  items := []
  folders := folders

/-- A tree comes back from its text when the top folder is the root and the names
of its folders pass the conversion of the `declare` lines. -/
theorem bufTextToFolder_restores
    {locale : Locale}
    {f : Folder}
    (wellFormed : f.WellFormed)
    (root : strCmpi f.name (.ofBuffer (ascii "root")) = .eq)
    (passes : f.Everywhere fun f => PassesDeclare locale f.name) :
    bufTextToFolder (folderToBufText locale f) = some f := by
  unfold folderToBufText
  rw [bufTextToFolder_folderToBufTextEx (wellFormed.and passes)]
  exact if_pos (Std.OrientedCmp.eq_comm.mp root)

/-- A root with an item of each type and a subfolder, in ASCII. -/
theorem bufTextToFolder_restores_sample :
    let sub : Folder := ⟨.ofBuffer (ascii "Virtual HUB"),
      [⟨.ofBuffer [], .string ⟨[36, 0x3042], by decide⟩⟩,
        ⟨.ofBuffer (ascii "a b"), .bool true⟩], []⟩
    let f : Folder := ⟨.ofBuffer (ascii "root"),
      [⟨.ofBuffer (ascii "big"), .int64 18446744073709551615⟩,
        ⟨.ofBuffer (ascii "data"), .byte [0, 255, 13]⟩,
        ⟨.ofBuffer (ascii "number"), .int 7⟩], [sub]⟩
    bufTextToFolder (folderToBufText usAscii f) = some f := by
  intro sub f
  have subSorted : sub.SortedHere :=
    ⟨by unfold Sorted; decide, by unfold Sorted; decide⟩
  have sorted : f.SortedHere :=
    ⟨by unfold Sorted; decide, List.pairwise_singleton _ _⟩
  refine bufTextToFolder_restores ?_ (by decide) ?_
  · refine .intro sorted fun other listed => ?_
    rw [List.mem_singleton.mp listed]
    exact .intro subSorted fun _ absurd => nomatch absurd
  · refine .intro (show PassesDeclare usAscii f.name from rfl) fun other listed => ?_
    rw [List.mem_singleton.mp listed]
    exact .intro (show PassesDeclare usAscii sub.name from rfl)
      fun _ absurd => nomatch absurd

/-- The `declare` line of a name that the locale does not have is empty. -/
theorem bufTextToFolder_nonAscii :
    bufTextToFolder
      (folderToBufText usAscii
        (folderNamed (ascii "root") [folderNamed [0xc3, 0xa9] []])) =
      some (folderNamed (ascii "root") []) := by
  have banner := hasEffect_banner (createFolder (.ofBuffer (ascii "tmp")))
  unfold bufTextToFolder folderToBufText folderToBufTextEx
  rw [if_neg (by decide), banner]
  rfl

/-- A top folder of another name is not found, and a subfolder whose name is not
ASCII is lost in a locale that has only ASCII. -/
theorem bufTextToFolder_loses :
    (folderNamed (ascii "config") []).WellFormed ∧
    bufTextToFolder (folderToBufText usAscii (folderNamed (ascii "config") [])) = none ∧
    (folderNamed (ascii "root") [folderNamed [0xc3, 0xa9] []]).WellFormed ∧
    bufTextToFolder
      (folderToBufText usAscii
        (folderNamed (ascii "root") [folderNamed [0xc3, 0xa9] []])) =
      some (folderNamed (ascii "root") []) := by
  have leaf (name : List UInt8) : (folderNamed name []).WellFormed :=
    .intro ⟨.nil, .nil⟩ fun _ listed => nomatch listed
  refine ⟨leaf _, ?_, .intro ⟨.nil, List.pairwise_singleton _ _⟩ ?_, ?_⟩
  · have passes : (folderNamed (ascii "config") []).Everywhere
        fun f => PassesDeclare usAscii f.name :=
      .intro (show PassesDeclare usAscii (folderNamed (ascii "config") []).name from rfl)
        fun _ listed => nomatch listed
    unfold folderToBufText
    rw [bufTextToFolder_folderToBufTextEx ((leaf _).and passes)]
    rfl
  · intro sub listed
    rw [List.mem_singleton.mp listed]
    exact leaf _
  · exact bufTextToFolder_nonAscii

end Cfg
end SoftEther
