import SoftEther.Mayaqua.Internat
import SoftEther.Mayaqua.List
import SoftEther.Mayaqua.StrCmpi

/-!
# Configuration folders

The tree of `Cfg.c`: folders with a name, items and subfolders.  The lists of a
folder are sorted by `StrCmpi`, because items and folders come in through `Insert`.
-/

namespace SoftEther
namespace Cfg

/-- `Type` and `Buf` of an item. -/
inductive ItemValue
  /-- `ITEM_TYPE_INT`. -/
  | int (value : UInt32)
  /-- `ITEM_TYPE_INT64`. -/
  | int64 (value : UInt64)
  /-- `ITEM_TYPE_BYTE`. -/
  | byte (data : List UInt8)
  /-- `ITEM_TYPE_STRING`. -/
  | string (str : UniString)
  /-- `ITEM_TYPE_BOOL`. -/
  | bool (value : Bool)
  deriving DecidableEq

structure Item where
  name : CString
  /-- `Type`, `Buf` and `size`. -/
  value : ItemValue
  deriving DecidableEq

structure Folder where
  name : CString
  items : List Item
  folders : List Folder

/-- `Insert` into a list that is sorted by the names of its members. -/
def insertByName {α : Type} (name : α → CString) (members : List α) (p : α) : List α :=
  (MayaquaList.insert (fun left right => strCmpi (name left) (name right))
    ⟨members, true⟩ p).items

/-- `CfgCreateFolder` without a parent. -/
def createFolder (name : CString) : Folder where
  name := name
  items := []
  folders := []

namespace Folder

/-- `CfgCreateFolder` with a parent: the new folder comes into the list of the
parent. -/
def addFolder (parent f : Folder) : Folder :=
  { parent with folders := insertByName name parent.folders f }

/-- `CfgCreateItem`. -/
def createItem (parent : Folder) (itemName : CString) (value : ItemValue) : Folder :=
  { parent with items := insertByName Item.name parent.items ⟨itemName, value⟩ }

/-- `CfgFindFolder`, which is `CfgGetFolder`. -/
def findFolder (parent : Folder) (folderName : CString) : Option Folder :=
  Library.bsearch (fun f => strCmpi folderName f.name) parent.folders.length
    parent.folders

end Folder

/-- The names of the members are distinct under `StrCmpi`, and the members stand
in the order in which `Insert` keeps them. -/
def Sorted {α : Type} (name : α → CString) (members : List α) : Prop :=
  members.Pairwise fun left right => strCmpi (name left) (name right) = .lt

section

variable {α : Type}
variable {name : α → CString}

theorem insertByName_of_last
    {members : List α}
    {p : α}
    (last : ∀ member ∈ members, strCmpi (name member) (name p) = .lt) :
    insertByName name members p = members ++ [p] := by
  have inserted := @MayaquaList.insert_items_of_split α
    (fun left right => strCmpi (name left) (name right)) members [] p last
    (fun _ listed => nomatch listed)
  rw [List.append_nil] at inserted
  exact inserted

theorem foldl_insertByName_append
    {done members : List α}
    (sorted : Sorted name (done ++ members)) :
    members.foldl (insertByName name) done = done ++ members := by
  induction members generalizing done with
  | nil => exact (List.append_nil done).symm
  | cons member rest inductionHypothesis =>
      have last : ∀ other ∈ done, strCmpi (name other) (name member) = .lt :=
        fun other listed => (List.pairwise_append.mp sorted).2.2 other listed member
          List.mem_cons_self
      have next : Sorted name ((done ++ [member]) ++ rest) := by
        rw [List.append_assoc]
        exact sorted
      rw [List.foldl_cons, insertByName_of_last last, inductionHypothesis next,
        List.append_assoc, List.singleton_append]

theorem foldl_insertByName
    {members : List α}
    (sorted : Sorted name members) :
    members.foldl (insertByName name) [] = members :=
  foldl_insertByName_append sorted

theorem exists_split
    {members : List α}
    {p : α}
    (sorted : Sorted name members)
    (new : ∀ member ∈ members, strCmpi (name member) (name p) ≠ .eq) :
    ∃ before after, members = before ++ after ∧
      (∀ member ∈ before, strCmpi (name member) (name p) = .lt) ∧
      ∀ member ∈ after, strCmpi (name member) (name p) = .gt := by
  induction members with
  | nil => exact ⟨[], [], rfl, by simp, by simp⟩
  | cons member rest inductionHypothesis =>
      obtain ⟨first, restSorted⟩ := List.pairwise_cons.mp sorted
      cases compared : strCmpi (name member) (name p) with
      | eq => exact absurd compared (new member List.mem_cons_self)
      | lt =>
          obtain ⟨before, after, split, smaller, greater⟩ :=
            inductionHypothesis restSorted fun other listed =>
              new other (List.mem_cons_of_mem _ listed)
          refine ⟨member :: before, after, by rw [split, List.cons_append], ?_, greater⟩
          exact List.forall_mem_cons.mpr ⟨compared, smaller⟩
      | gt =>
          refine ⟨[], member :: rest, rfl, by simp, ?_⟩
          refine List.forall_mem_cons.mpr ⟨compared, ?_⟩
          intro other listed
          rw [Std.OrientedCmp.gt_iff_lt] at compared ⊢
          exact Std.TransCmp.lt_trans compared (first other listed)

theorem insertByName_sorted
    {members : List α}
    {p : α}
    (sorted : Sorted name members)
    (new : ∀ member ∈ members, strCmpi (name member) (name p) ≠ .eq) :
    Sorted name (insertByName name members p) := by
  obtain ⟨before, after, split, smaller, greater⟩ := exists_split sorted new
  have inserted : insertByName name members p = before ++ p :: after := by
    rw [split]
    exact MayaquaList.insert_items_of_split smaller greater
  rw [split] at sorted
  obtain ⟨beforeSorted, afterSorted, across⟩ := List.pairwise_append.mp sorted
  rw [inserted]
  refine List.pairwise_append.mpr ⟨beforeSorted, ?_, ?_⟩
  · refine List.pairwise_cons.mpr ⟨?_, afterSorted⟩
    intro other listed
    exact Std.OrientedCmp.gt_iff_lt.mp (greater other listed)
  · intro left inBefore
    refine List.forall_mem_cons.mpr ⟨smaller left inBefore, ?_⟩
    exact fun right inAfter => across left inBefore right inAfter

end

/-! ## Properties of a whole tree -/

inductive Folder.Everywhere (property : Folder → Prop) : Folder → Prop
  | intro
      {f : Folder}
      (here : property f)
      (below : ∀ sub ∈ f.folders, Everywhere property sub) :
      Everywhere property f

namespace Folder

variable {f : Folder}

theorem Everywhere.and
    {first second : Folder → Prop}
    (left : Everywhere first f)
    (right : Everywhere second f) :
    Everywhere (fun f => first f ∧ second f) f := by
  induction left with
  | intro here _ inductionHypothesis =>
      cases right with
      | intro also below =>
          exact .intro ⟨here, also⟩ fun sub listed =>
            inductionHypothesis sub listed (below sub listed)

/-- The siblings below a folder have distinct names under `StrCmpi` and stand in
the order of `Insert`. -/
structure SortedHere (f : Folder) : Prop where
  items : Sorted Item.name f.items
  /-- The subfolders. -/
  folders : Sorted Folder.name f.folders

/-- A tree with distinct sibling names. -/
abbrev WellFormed : Folder → Prop :=
  Everywhere SortedHere

theorem foldl_createItem (items : List Item) (folder : Folder) :
    items.foldl (fun folder item => folder.createItem item.name item.value) folder =
      { folder with items := items.foldl (insertByName Item.name) folder.items } := by
  induction items generalizing folder with
  | nil => cases folder with | mk => rfl
  | cons item rest inductionHypothesis =>
      exact inductionHypothesis (folder.createItem item.name item.value)

theorem foldl_addFolder (folders : List Folder) (folder : Folder) :
    folders.foldl addFolder folder =
      { folder with folders := folders.foldl (insertByName name) folder.folders } := by
  induction folders generalizing folder with
  | nil => cases folder with | mk => rfl
  | cons sub rest inductionHypothesis =>
      exact inductionHypothesis (folder.addFolder sub)

theorem rebuild
    (sorted : f.SortedHere) :
    f.folders.foldl addFolder
      (f.items.foldl (fun folder item => folder.createItem item.name item.value)
        (createFolder f.name)) = f := by
  rw [foldl_createItem, foldl_addFolder]
  simp only [createFolder, foldl_insertByName sorted.items,
    foldl_insertByName sorted.folders]
  cases f with | mk => rfl

theorem rebuild_foldersFirst
    (sorted : f.SortedHere) :
    f.items.foldl (fun folder item => folder.createItem item.name item.value)
      (f.folders.foldl addFolder (createFolder f.name)) = f := by
  rw [foldl_addFolder, foldl_createItem]
  simp only [createFolder, foldl_insertByName sorted.items,
    foldl_insertByName sorted.folders]
  cases f with | mk => rfl

end Folder

end Cfg
end SoftEther
