/-
Module: StaticSite.Proofs.Files.Comparison
Purpose: Comparing file systems: which files they list below a directory depends on their files
  only, and what paths lead to only on the bytes and directories that stand in them.
Trusted boundary: none
Main exports:
  listLe_iff, sortBy_eq_insertionSort, FileTree.WellFormed.filter_filesBelow_eq,
  Entry.bytes?, FileTree.SameBytes, FileTree.SameBytes.contents_eq
-/
import Mathlib.Data.List.Lex
import Mathlib.Data.List.Sort
import Mathlib.Data.String.Basic
import StaticSite.Proofs.Files.Trees

namespace StaticSite

/-! ### The order of places -/

theorem listLe_iff {first second : List String} :
    listLe first second = true ↔ first ≤ second := by
  rw [← not_lt]
  induction first generalizing second with
  | nil => simp [listLe]
  | cons name first inductionHypothesis =>
      cases second with
      | nil => simp [listLe]
      | cons other second =>
          rw [listLe, List.cons_lt_cons_iff]
          split
          case isTrue same => simp [inductionHypothesis, same]
          case isFalse apart =>
            rw [stringLe, decide_eq_true_eq, or_iff_left fun both => apart both.1.symm, not_lt]

theorem insertSorted_eq_orderedInsert {α : Type} (le : α → α → Bool) (a : α) (items : List α) :
    insertSorted le a items = items.orderedInsert (fun a b => le a b = true) a := by
  induction items with
  | nil => rfl
  | cons first rest inductionHypothesis =>
      simp only [insertSorted, List.orderedInsert_cons, inductionHypothesis]

theorem sortBy_eq_insertionSort {α : Type} (le : α → α → Bool) (items : List α) :
    sortBy le items = items.insertionSort fun a b => le a b = true := by
  induction items with
  | nil => rfl
  | cons first rest inductionHypothesis =>
      rw [sortBy, insertSorted_eq_orderedInsert, inductionHypothesis, List.insertionSort_cons]

namespace FileTree

variable {tree other : FileTree} {directory location : Location} {path : Path}

/-! ### The files below a directory -/

/-- Files are listed in the order of their places. -/
theorem WellFormed.pairwise_filesBelow (wellFormed : tree.WellFormed) (directory : Location) :
    (tree.filesBelow directory).Pairwise fun first second => first.1 < second.1 := by
  have sorted : (tree.filesBelow directory).Pairwise
      fun first second => listLe first.1 second.1 = true := by
    have total : Std.Total fun first second : Location × ByteArray =>
        listLe first.1 second.1 = true :=
      ⟨fun first second => by simpa only [listLe_iff] using le_total first.1 second.1⟩
    have transitive : IsTrans (Location × ByteArray) fun first second =>
        listLe first.1 second.1 = true :=
      ⟨fun first second third => by simpa only [listLe_iff] using le_trans⟩
    rw [filesBelow, sortBy_eq_insertionSort]
    exact List.pairwise_insertionSort _ _
  have distinct := List.pairwise_map.mp (wellFormed.nodup_filesBelow directory)
  refine (sorted.and distinct).imp ?_
  rintro first second ⟨before, apart⟩
  exact lt_of_le_of_ne (listLe_iff.mp before) apart

/-- Two file systems list the same of those files that stand in both of them. -/
theorem WellFormed.filter_filesBelow_eq (wellFormed : tree.WellFormed)
    (otherWellFormed : other.WellFormed) (keeps : Location → Bool)
    (same : ∀ location, keeps location = true → ∀ bytes modified,
      (tree.get? location = some (.file bytes modified) ↔
        other.get? location = some (.file bytes modified)))
    (directory : Location) :
    (tree.filesBelow directory).filter (fun file => keeps file.1) =
      (other.filesBelow directory).filter fun file => keeps file.1 := by
  have irreflexive : Std.Irrefl fun first second : Location × ByteArray => first.1 < second.1 :=
    ⟨fun first => lt_irrefl first.1⟩
  have antisymmetric :
      Std.Antisymm fun first second : Location × ByteArray => first.1 < second.1 :=
    ⟨fun first second before after => absurd after before.asymm⟩
  apply List.Pairwise.eq_of_mem_iff ((wellFormed.pairwise_filesBelow directory).filter _)
    ((otherWellFormed.pairwise_filesBelow directory).filter _)
  rintro ⟨location, bytes⟩
  rw [List.mem_filter, List.mem_filter, wellFormed.mem_filesBelow, otherWellFormed.mem_filesBelow]
  refine and_congr_left fun kept => exists_congr fun modified => exists_congr fun rest => ?_
  rw [same location kept bytes modified]

end FileTree

/-! ### Bytes and directories -/

/-- The bytes of a file; a directory has none. -/
def Entry.bytes? : Entry → Option ByteArray
  | .directory => none
  | .file bytes _ => some bytes

namespace FileTree

variable {tree other : FileTree} {path : Path}

/-- The same stands everywhere, apart from the times of files. -/
def SameBytes (tree other : FileTree) : Prop :=
  ∀ location, (tree.get? location).map Entry.bytes? = (other.get? location).map Entry.bytes?

namespace SameBytes

variable (same : tree.SameBytes other)

include same

/-- At each place there is the same, or there are two files with the same bytes. -/
theorem cases (location : Location) :
    tree.get? location = other.get? location ∨
      ∃ bytes modified otherModified, tree.get? location = some (.file bytes modified) ∧
        other.get? location = some (.file bytes otherModified) := by
  have here := same location
  rcases seen : tree.get? location with _ | _ | ⟨bytes, modified⟩ <;>
    rcases seenOther : other.get? location with _ | _ | ⟨otherBytes, otherModified⟩ <;>
      simp_all [Entry.bytes?]

theorem follow_eq (path : Path) (current : Location) (parts : List String) :
    tree.follow path current parts = other.follow path current parts := by
  induction parts generalizing current with
  | nil => rfl
  | cons part parts inductionHypothesis =>
      rw [follow, follow]
      split
      case isTrue => exact inductionHypothesis _
      case isFalse =>
        simp only [inductionHypothesis]
        rcases same.cases (current ++ [part]) with equal | ⟨_, _, _, isFile, isOtherFile⟩
        · rw [equal]
        · rw [isFile, isOtherFile]
          cases parts <;> rfl

/-- What is read through any path is the same. -/
theorem contents_eq (path : Path) : tree.contents path = other.contents path := by
  rw [contents, contents, locate, locate, same.follow_eq]
  cases other.follow path [] path.parts with
  | error => rfl
  | ok location =>
      simp only [bind, Except.bind]
      rcases same.cases location with equal | ⟨_, _, _, isFile, isOtherFile⟩
      · rw [equal]
      · rw [isFile, isOtherFile]

end SameBytes

end FileTree

end StaticSite
