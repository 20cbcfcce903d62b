import Mathlib.Logic.Relation
import SoftEther.Mayaqua.Cfg.TextRoundTrip

/-!
# Trees that the program builds

The names of siblings are compared only in a build with `CHECK_CFG_NAME_EXISTS`, which is off.
A program that does not use a name twice has a tree that comes back from its text.
-/

namespace SoftEther
namespace Cfg

/-- A call that changes a tree, at one of its folders.  What comes in has a name that none of
its siblings has, and the name of a folder is admitted. -/
inductive Edit (admitted : CString → Prop) : Folder → Folder → Prop
  /-- `CfgCreateItem`. -/
  | createItem
      {parent : Folder}
      {itemName : CString}
      (new : ∀ item ∈ parent.items, strCmpi item.name itemName ≠ .eq)
      (value : ItemValue) :
      Edit admitted parent (parent.createItem itemName value)
  /-- `CfgCreateFolder`. -/
  | createFolder
      {parent : Folder}
      {folderName : CString}
      (new : ∀ sub ∈ parent.folders, strCmpi sub.name folderName ≠ .eq)
      (admits : admitted folderName) :
      Edit admitted parent (parent.addFolder (createFolder folderName))
  /-- `CfgDeleteItem`. -/
  | deleteItem (name : CString) (before after : List Item) (t : Item) (folders : List Folder) :
      Edit admitted ⟨name, before ++ t :: after, folders⟩ ⟨name, before ++ after, folders⟩
  /-- `CfgDeleteFolder`, which deletes what is below the folder as well. -/
  | deleteFolder (name : CString) (items : List Item) (before after : List Folder) (f : Folder) :
      Edit admitted ⟨name, items, before ++ f :: after⟩ ⟨name, items, before ++ after⟩
  /-- The call is made at a folder further down. -/
  | inside
      {sub edited : Folder}
      (edit : Edit admitted sub edited)
      (name : CString)
      (items : List Item)
      (before after : List Folder) :
      Edit admitted ⟨name, items, before ++ sub :: after⟩ ⟨name, items, before ++ edited :: after⟩

section

variable {admitted : CString → Prop}
variable {f edited : Folder}

theorem Edit.name_eq
    (edit : Edit admitted f edited) :
    edited.name = f.name := by
  cases edit with
  | createItem => rfl
  | createFolder => rfl
  | deleteItem => rfl
  | deleteFolder => rfl
  | inside => rfl

/-- Who takes the place of a sibling under its name does not disturb the order. -/
theorem Sorted.replace
    {before after : List Folder}
    (sorted : Sorted Folder.name (before ++ f :: after))
    (name : edited.name = f.name) :
    Sorted Folder.name (before ++ edited :: after) := by
  unfold Sorted at sorted ⊢
  have names : (before ++ edited :: after).map Folder.name =
      (before ++ f :: after).map Folder.name := by
    simp [name]
  rw [← List.pairwise_map (f := Folder.name)
    (R := fun left right => strCmpi left right = .lt)] at sorted ⊢
  rw [names]
  exact sorted

theorem addFolder_folders
    {parent : Folder}
    (sorted : Sorted Folder.name parent.folders)
    (new : ∀ sub ∈ parent.folders, strCmpi sub.name f.name ≠ .eq) :
    ∃ before after, parent.folders = before ++ after ∧
      (parent.addFolder f).folders = before ++ f :: after := by
  obtain ⟨before, after, split, smaller, greater⟩ := exists_split sorted new
  refine ⟨before, after, split, ?_⟩
  change insertByName Folder.name parent.folders f = _
  rw [split]
  exact MayaquaList.insert_items_of_split smaller greater

/-- The siblings are sorted and the folder has an admitted name. -/
def Tidy (admitted : CString → Prop) (f : Folder) : Prop :=
  f.SortedHere ∧ admitted f.name

theorem everywhere_createFolder
    {folderName : CString}
    (admits : admitted folderName) :
    (createFolder folderName).Everywhere (Tidy admitted) :=
  .intro ⟨⟨.nil, .nil⟩, admits⟩ (List.forall_mem_nil _)

theorem Edit.everywhere
    (edit : Edit admitted f edited)
    (tidy : f.Everywhere (Tidy admitted)) :
    edited.Everywhere (Tidy admitted) := by
  induction edit with
  | createItem new value =>
      cases tidy with
      | intro here below =>
          exact .intro ⟨⟨insertByName_sorted here.1.items new, here.1.folders⟩, here.2⟩ below
  | @createFolder parent folderName new admits =>
      cases tidy with
      | intro here below =>
          refine .intro ⟨⟨here.1.items, insertByName_sorted here.1.folders new⟩, here.2⟩ ?_
          obtain ⟨before, after, split, inserted⟩ :=
            @addFolder_folders (Cfg.createFolder folderName) parent here.1.folders new
          rw [split, List.forall_mem_append] at below
          rw [inserted, List.forall_mem_append, List.forall_mem_cons]
          exact ⟨below.1, everywhere_createFolder admits, below.2⟩
  | deleteItem name before after t folders =>
      cases tidy with
      | intro here below =>
          have fewer : (before ++ after).Sublist (before ++ t :: after) :=
            (List.sublist_cons_self t after).append_left before
          exact .intro ⟨⟨here.1.items.sublist fewer, here.1.folders⟩, here.2⟩ below
  | deleteFolder name items before after sub =>
      cases tidy with
      | intro here below =>
          have fewer : (before ++ after).Sublist (before ++ sub :: after) :=
            (List.sublist_cons_self sub after).append_left before
          exact .intro ⟨⟨here.1.items, here.1.folders.sublist fewer⟩, here.2⟩
            fun other listed => below other (fewer.subset listed)
  | inside edit name items before after inductionHypothesis =>
      cases tidy with
      | intro here below =>
          refine .intro ⟨⟨here.1.items, here.1.folders.replace edit.name_eq⟩, here.2⟩ ?_
          rw [List.forall_mem_append, List.forall_mem_cons] at below ⊢
          exact ⟨below.1, inductionHypothesis below.2.1, below.2.2⟩

end

/-- Whatever items and folders come into a tree and are taken out of it, in whatever order
and at whatever folders: as long as no name is used twice, the tree comes back from its
text. -/
theorem bufTextToFolder_of_edits
    {locale : Locale}
    {f : Folder}
    (root : PassesDeclare locale (.ofBuffer (ascii "root")))
    (edits : Relation.ReflTransGen (Edit (PassesDeclare locale))
      (createFolder (.ofBuffer (ascii "root"))) f) :
    bufTextToFolder (folderToBufText locale f) = some f := by
  have tidy : f.Everywhere (Tidy (PassesDeclare locale)) ∧
      f.name = .ofBuffer (ascii "root") := by
    induction edits with
    | refl => exact ⟨everywhere_createFolder root, rfl⟩
    | tail _ edit inductionHypothesis =>
        exact ⟨edit.everywhere inductionHypothesis.1, edit.name_eq.trans inductionHypothesis.2⟩
  unfold folderToBufText
  rw [bufTextToFolder_folderToBufTextEx tidy.1, tidy.2]
  exact if_pos (by decide)

/-- A folder comes into the root, an item into the folder, and another item into the root. -/
theorem bufTextToFolder_of_edits_three :
    let sub : Folder := ⟨.ofBuffer (ascii "b"), [⟨.ofBuffer (ascii "x"), .bool true⟩], []⟩
    let f : Folder :=
      ⟨.ofBuffer (ascii "root"), [⟨.ofBuffer (ascii "y"), .int 7⟩], [sub]⟩
    bufTextToFolder (folderToBufText usAscii f) = some f := by
  intro sub f
  have first : Edit (PassesDeclare usAscii) (createFolder (.ofBuffer (ascii "root")))
      ⟨.ofBuffer (ascii "root"), [], [createFolder (.ofBuffer (ascii "b"))]⟩ :=
    .createFolder (fun _ listed => nomatch listed)
      (show PassesDeclare usAscii (.ofBuffer (ascii "b")) from rfl)
  have second : Edit (PassesDeclare usAscii) (createFolder (.ofBuffer (ascii "b"))) sub :=
    .createItem (fun _ (listed : _ ∈ []) => nomatch listed) (.bool true)
  have third : Edit (PassesDeclare usAscii) ⟨.ofBuffer (ascii "root"), [], [sub]⟩ f :=
    .createItem (fun _ (listed : _ ∈ []) => nomatch listed) (.int 7)
  exact bufTextToFolder_of_edits
    (show PassesDeclare usAscii (.ofBuffer (ascii "root")) from rfl)
    (((Relation.ReflTransGen.single first).tail (second.inside _ [] [] [])).tail third)

end Cfg
end SoftEther
