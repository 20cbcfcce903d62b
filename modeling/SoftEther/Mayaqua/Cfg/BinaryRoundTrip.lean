import SoftEther.Mayaqua.Cfg.Binary
import SoftEther.Mayaqua.Cfg.TextRoundTrip

/-!
# The binary form of a tree is read back

A folder in binary adds the folder when its names fit the array that they are read
into and its counts and sizes fit 32 bits, in which the program keeps them.  The
binary form and the text of a tree then stand for the same tree.
-/

namespace SoftEther
namespace Cfg

open Library

def ItemValue.Fits : ItemValue → Prop
  | .byte data => data.length < 2 ^ 32
  | .string str => (uniToUtf8 str).length < 2 ^ 32
  | _ => True

/-- The names of a folder and of its items fit an array of `MAX_SIZE` bytes, and its
counts and sizes fit 32 bits. -/
structure Folder.FitsHere (f : Folder) : Prop where
  name : f.name.strLen < maxSize
  /-- `LIST_NUM` of the items. -/
  itemCount : f.items.length < 2 ^ 32
  /-- `LIST_NUM` of the subfolders. -/
  folderCount : f.folders.length < 2 ^ 32
  itemNames : ∀ t ∈ f.items, t.name.strLen < maxSize
  values : ∀ t ∈ f.items, t.value.Fits

theorem readValueBin_valueBin
    {value : ItemValue}
    (fits : value.Fits)
    (rest : List UInt8) :
    readValueBin (itemType value) (valueBin value ++ rest) = (some value, rest) := by
  cases value with
  | int value =>
      change (some (ItemValue.int (readBufInt (writeBufInt value ++ rest)).1),
        (readBufInt (writeBufInt value ++ rest)).2) = _
      rw [readBufInt_write]
  | int64 value =>
      change (some (ItemValue.int64 (readBufInt64 (writeBufInt64 value ++ rest)).1),
        (readBufInt64 (writeBufInt64 value ++ rest)).2) = _
      rw [readBufInt64_write]
  | byte data =>
      have size : (UInt32.ofNat data.length).toNat = data.length :=
        UInt32.toNat_ofNat_of_lt' fits
      have block := readBuf_append data rest
      simp [readValueBin, itemType, valueBin, readBufInt_write, size, block]
  | string str =>
      have bytes := CString.bytes_ofBuffer (zero_notMem_uniToUtf8 str)
      have size : (UInt32.ofNat (uniToUtf8 str).length).toNat = (uniToUtf8 str).length :=
        UInt32.toNat_ofNat_of_lt' fits
      have block := readBuf_append (uniToUtf8 str) rest
      have back : utf8ToUni (.ofBuffer (uniToUtf8 str)) = str := utf8ToUni_uniToUtf8 bytes
      simp [readValueBin, itemType, valueBin, CString.strLen, bytes, readBufInt_write,
        size, block, back]
  | bool value =>
      cases value with
      | false =>
          change (some (ItemValue.bool ((readBufInt (writeBufInt 0 ++ rest)).1 != 0)),
            (readBufInt (writeBufInt 0 ++ rest)).2) = _
          rw [readBufInt_write]
          rfl
      | true =>
          change (some (ItemValue.bool ((readBufInt (writeBufInt 1 ++ rest)).1 != 0)),
            (readBufInt (writeBufInt 1 ++ rest)).2) = _
          rw [readBufInt_write]
          rfl

/-- The array of names after a name was read into it. -/
def arrayAfter (array : List UInt8) (name : CString) : List UInt8 :=
  name.bytes ++ 0 :: array.drop (name.strLen + 1)

theorem readsOne_itemBin
    {t : Item}
    (name : t.name.strLen < maxSize)
    (fits : t.value.Fits) :
    ReadsOne readItemBin (itemBin t) fun state =>
      (state.1.createItem t.name t.value, arrayAfter state.2 t.name) := by
  intro state rest
  unfold itemBin readItemBin
  rw [List.append_assoc, List.append_assoc, readBufStr_write name (by decide)]
  dsimp only
  rw [readBufInt_write]
  dsimp only
  rw [readValueBin_valueBin fits]
  dsimp only
  rw [CString.ofBuffer_append_zero]
  rfl

theorem folder_of_foldl (items : List Item) (folder : Folder) (array : List UInt8) :
    (items.foldl (fun (state : Folder × List UInt8) t =>
      (state.1.createItem t.name t.value, arrayAfter state.2 t.name))
      (folder, array)).1 =
      items.foldl (fun folder t => folder.createItem t.name t.value) folder :=
  (List.foldl_hom Prod.fst fun _ _ => rfl).symm

/-- The subfolders are written one after the other. -/
theorem outputFoldersBin_eq_flatMap (folders : List Folder) :
    outputFoldersBin folders = folders.flatMap outputFolderBin := by
  induction folders with
  | nil => rfl
  | cons f rest inductionHypothesis =>
      rw [outputFoldersBin, inductionHypothesis, List.flatMap_cons]

theorem outputFolderBin_eq (f : Folder) :
    outputFolderBin f =
      writeBufStr f.name ++
        (writeBufInt (UInt32.ofNat f.folders.length) ++
          (f.folders.flatMap outputFolderBin ++
            (writeBufInt (UInt32.ofNat f.items.length) ++ f.items.flatMap itemBin))) := by
  cases f with
  | mk name items folders =>
      simp only [outputFolderBin, outputFoldersBin_eq_flatMap, List.append_assoc]

theorem readsOne_outputFolderBin
    {f : Folder}
    (each : f.Everywhere fun f => f.SortedHere ∧ f.FitsHere)
    (array : List UInt8) :
    ReadsOne (readFolderBin array) (outputFolderBin f) fun parent =>
      parent.addFolder f := by
  induction each with
  | @intro f here _ inductionHypothesis =>
      obtain ⟨sorted, fits⟩ := here
      have folders : ReadsOne (readTimes (readFolderBin array) f.folders.length)
          (f.folders.flatMap outputFolderBin)
          fun folder => f.folders.foldl Folder.addFolder folder :=
        ReadsOne.readTimes inductionHypothesis
      have items : ReadsOne (readTimes readItemBin f.items.length)
          (f.items.flatMap itemBin)
          fun state => f.items.foldl (fun state t =>
            (state.1.createItem t.name t.value, arrayAfter state.2 t.name)) state :=
        ReadsOne.readTimes fun t listed =>
          readsOne_itemBin (fits.itemNames t listed) (fits.values t listed)
      have folderCount : (UInt32.ofNat f.folders.length).toNat = f.folders.length :=
        UInt32.toNat_ofNat_of_lt' fits.folderCount
      have itemCount : (UInt32.ofNat f.items.length).toNat = f.items.length :=
        UInt32.toNat_ofNat_of_lt' fits.itemCount
      intro parent rest
      rw [readFolderBin_eq, outputFolderBin_eq]
      simp only [List.append_assoc]
      unfold readFolderBody
      rw [readBufStr_write fits.name (by decide)]
      dsimp only
      rw [readBufInt_write, CString.ofBuffer_append_zero]
      dsimp only
      rw [folderCount, folders]
      dsimp only
      rw [readBufInt_write]
      dsimp only
      rw [itemCount, items]
      dsimp only
      rw [folder_of_foldl, f.rebuild_foldersFirst sorted]

theorem bufBinToFolder_outputFolderBin
    {f : Folder}
    (each : f.Everywhere fun f => f.SortedHere ∧ f.FitsHere)
    (array : List UInt8) :
    bufBinToFolder array (outputFolderBin f) =
      if strCmpi (.ofBuffer (ascii "root")) f.name = .eq then some f else none := by
  have read := readsOne_outputFolderBin each array
    (createFolder (.ofBuffer (ascii "tmp"))) []
  rw [List.append_nil] at read
  unfold bufBinToFolder
  rw [read]
  exact findFolder_single _ _ f

theorem drop_folderToBufBin
    (hash : List UInt8 → { digest : List UInt8 // digest.length = sha1Size })
    (f : Folder) :
    (folderToBufBin hash f).drop (8 + sha1Size) = outputFolderBin f := by
  have header : (ascii "SEVPN_DB" ++ (hash (outputFolderBin f)).val).length =
      8 + sha1Size := by
    rw [List.length_append, (hash (outputFolderBin f)).property]
    rfl
  unfold folderToBufBin
  rw [← header, List.drop_left]

/-- The binary form of a tree, read behind its header, and the text of the tree both
give the tree back, when the top folder is the root. -/
theorem bufBinToFolder_agrees
    {locale : Locale}
    {f : Folder}
    (hash : List UInt8 → { digest : List UInt8 // digest.length = sha1Size })
    (array : List UInt8)
    (wellFormed : f.WellFormed)
    (fits : f.Everywhere Folder.FitsHere)
    (root : strCmpi f.name (.ofBuffer (ascii "root")) = .eq)
    (passes : f.Everywhere fun f => PassesDeclare locale f.name) :
    bufBinToFolder array ((folderToBufBin hash f).drop (8 + sha1Size)) = some f ∧
    bufTextToFolder (folderToBufText locale f) = some f := by
  have same := Std.OrientedCmp.eq_comm.mp root
  constructor
  · rw [drop_folderToBufBin, bufBinToFolder_outputFolderBin (wellFormed.and fits)]
    exact if_pos same
  · unfold folderToBufText
    rw [bufTextToFolder_folderToBufTextEx (wellFormed.and passes)]
    exact if_pos same

/-- A root with an item of each type and a subfolder, in ASCII. -/
theorem bufBinToFolder_agrees_sample :
    let sub : Folder := ⟨.ofBuffer (ascii "Virtual HUB"),
      [⟨.ofBuffer (ascii "comment"), .string ⟨[36, 0x3042], by decide⟩⟩], []⟩
    let f : Folder := ⟨.ofBuffer (ascii "root"),
      [⟨.ofBuffer (ascii "big"), .int64 18446744073709551615⟩,
        ⟨.ofBuffer (ascii "data"), .byte [0, 255, 13]⟩,
        ⟨.ofBuffer (ascii "number"), .int 7⟩,
        ⟨.ofBuffer (ascii "on"), .bool true⟩], [sub]⟩
    bufBinToFolder []
      ((folderToBufBin (fun _ => ⟨List.replicate sha1Size 0, rfl⟩) f).drop
        (8 + sha1Size)) = some f ∧
    bufTextToFolder (folderToBufText usAscii f) = some f := by
  intro sub f
  have subSorted : sub.SortedHere :=
    ⟨by unfold Sorted; decide, by unfold Sorted; decide⟩
  have sorted : f.SortedHere :=
    ⟨by unfold Sorted; decide, List.pairwise_singleton _ _⟩
  have subFits : sub.FitsHere := by
    refine ⟨by decide, by decide, by decide, by decide, fun t listed => ?_⟩
    rw [List.mem_singleton.mp listed]
    change (uniToUtf8 _).length < _
    decide
  have fits : f.FitsHere := by
    refine ⟨by decide, by decide, by decide, by decide, fun t listed => ?_⟩
    simp only [f, List.mem_cons, List.not_mem_nil, or_false] at listed
    obtain rfl | rfl | rfl | rfl := listed
    · trivial
    · exact (by decide : [0, 255, 13].length < 2 ^ 32)
    · trivial
    · trivial
  have below {property : Folder → Prop} (here : property sub) :
      ∀ other ∈ f.folders, Folder.Everywhere property other := by
    intro other listed
    rw [List.mem_singleton.mp listed]
    exact .intro here fun _ absurd => nomatch absurd
  exact bufBinToFolder_agrees (fun _ => ⟨List.replicate sha1Size 0, rfl⟩) []
    (.intro sorted (below subSorted)) (.intro fits (below subFits)) (by decide)
    (.intro (show PassesDeclare usAscii f.name from rfl)
      (below (show PassesDeclare usAscii sub.name from rfl)))

/-- Neither form of a top folder with another name is read back, and the two forms
disagree about a subfolder whose name is not ASCII in a locale that has only ASCII. -/
theorem bufBinToFolder_disagrees :
    let hash : List UInt8 → { digest : List UInt8 // digest.length = sha1Size } :=
      fun _ => ⟨List.replicate sha1Size 0, rfl⟩
    let other := folderNamed (ascii "config") []
    let f := folderNamed (ascii "root") [folderNamed [0xc3, 0xa9] []]
    other.WellFormed ∧
    bufBinToFolder [] ((folderToBufBin hash other).drop (8 + sha1Size)) = none ∧
    f.WellFormed ∧
    bufBinToFolder [] ((folderToBufBin hash f).drop (8 + sha1Size)) = some f ∧
    bufTextToFolder (folderToBufText usAscii f) =
      some (folderNamed (ascii "root") []) := by
  intro hash other f
  have otherRead : bufBinToFolder [] (outputFolderBin (folderNamed (ascii "config") [])) =
      none := rfl
  have read : bufBinToFolder [] (outputFolderBin
      (folderNamed (ascii "root") [folderNamed [0xc3, 0xa9] []])) =
      some (folderNamed (ascii "root") [folderNamed [0xc3, 0xa9] []]) := rfl
  have leaf (name : List UInt8) : (folderNamed name []).WellFormed :=
    .intro ⟨.nil, .nil⟩ fun _ listed => nomatch listed
  refine ⟨leaf _, ?_, .intro ⟨.nil, List.pairwise_singleton _ _⟩ ?_, ?_, ?_⟩
  · rw [drop_folderToBufBin]
    exact otherRead
  · intro sub listed
    rw [List.mem_singleton.mp listed]
    exact leaf _
  · rw [drop_folderToBufBin]
    exact read
  · exact bufTextToFolder_nonAscii

end Cfg
end SoftEther
