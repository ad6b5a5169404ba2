/-
Module: StaticSite.Proofs.Files.Names
Purpose: Strings as paths: what the name of a component says as a path, and where a name goes
  that is put behind the start of a path.
Trusted boundary: none
Main exports:
  Text.slash_not_mem_toLower, slash_not_mem_componentName, componentName_ne_empty,
  Path.ofString_name, Path.directoryParts, Path.parts_ofString_append
-/
import Mathlib.Data.String.Basic
import StaticSite.Component
import StaticSite.Proofs.Text.LowerCase
import StaticSite.Proofs.Text.Search

namespace StaticSite

open Text

/-! ### Lower case -/

namespace Text

theorem slash_not_mem_toLower {s : String} (free : '/' ∉ s.toList) : '/' ∉ (toLower s).toList := by
  rw [toLower, String.toList_ofList]
  intro member
  rcases (mem_lowerFrom member).2 with old | beyond
  · exact free old
  · exact absurd beyond.1 (by decide)

end Text

/-! ### Names of components -/

namespace Path

theorem beforeLastDot?_eq_some {backwards rest : List Char}
    (found : beforeLastDot? backwards = some rest) : rest ⊆ backwards := by
  induction backwards with
  | nil => cases found
  | cons c backwards inductionHypothesis =>
      rw [beforeLastDot?] at found
      split at found
      case isTrue =>
        obtain rfl := Option.some.inj found
        exact List.subset_cons_self _ _
      case isFalse =>
        exact List.Subset.trans (inductionHypothesis found) (List.subset_cons_self _ _)

theorem stemOf_subset (name : String) : (stemOf name).toList ⊆ name.toList := by
  rw [stemOf]
  split
  case h_1 => exact List.Subset.refl _
  case h_2 =>
    split
    case h_1 c rest found =>
      rw [String.toList_ofList]
      intro d member
      exact List.mem_reverse.mp (beforeLastDot?_eq_some found (List.mem_reverse.mp member))
    case h_2 => exact List.Subset.refl _

theorem stemOf_ne_empty {name : String} (nonempty : name ≠ "") : stemOf name ≠ "" := by
  rw [stemOf]
  split
  case h_1 => exact nonempty
  case h_2 =>
    split
    case h_1 c rest _ =>
      intro empty
      have none := congrArg String.toList empty
      simp at none
    case h_2 => exact nonempty

end Path

theorem slash_not_mem_componentName {path : Path} (free : '/' ∉ path.name.toList) :
    '/' ∉ (componentName path).toList :=
  slash_not_mem_toLower fun member => free (Path.stemOf_subset path.name member)

theorem componentName_ne_empty {path : Path} (nonempty : path.name ≠ "") :
    componentName path ≠ "" :=
  toLower_ne_empty (Path.stemOf_ne_empty nonempty)

/-! ### Strings as paths -/

namespace Path

/-- A piece between slashes says something in a path. -/
def isPart (part : String) : Bool :=
  part != "" && part != "."

/-- The directories that a text names before its last slash. -/
def directoryParts (start : String) : List String :=
  ((splitOnChar '/' start.toList).dropLast.map String.ofList).filter isPart

/-- What a text has behind its last slash. -/
def lastPiece (start : String) : String :=
  String.ofList ((splitOnChar '/' start.toList).getLastD [])

theorem anchorOf_of_head {cs : List Char} (other : cs.head? ≠ some '/') :
    anchorOf cs = .relative := by
  cases cs with
  | nil => rfl
  | cons c cs =>
      have apart : c ≠ '/' := by simpa using other
      rw [anchorOf]
      all_goals simp_all

/-- A name without a slash goes behind the last piece of the text it is put to. -/
theorem parts_ofString_append {start name : String} (free : '/' ∉ name.toList) :
    (ofString (start ++ name)).parts =
      directoryParts start ++ [lastPiece start ++ name].filter isPart := by
  obtain ⟨pieces, last, split, extended⟩ := splitOnChar_append '/' start.toList
  rw [ofString, String.toList_append, extended _ free, directoryParts, lastPiece, split,
    List.dropLast_concat, List.getLastD_concat, List.map_append, List.filter_append]
  simp only [List.map_cons, List.map_nil, String.ofList_append, String.ofList_toList]
  rfl

/-- Slashes at the start name no directories. -/
theorem directoryParts_dropWhile (start : String) :
    directoryParts (String.ofList (start.toList.dropWhile (· == '/'))) = directoryParts start := by
  rw [directoryParts, directoryParts, String.toList_ofList]
  induction start.toList with
  | nil => rfl
  | cons c rest inductionHypothesis =>
      by_cases slash : c = '/'
      · obtain ⟨pieces, last, split, -⟩ := splitOnChar_append '/' rest
        rw [List.dropWhile_cons_of_pos (by simpa using slash), inductionHypothesis, splitOnChar,
          if_pos slash, split, ← List.cons_append, List.dropLast_concat, List.dropLast_concat]
        rfl
      · rw [List.dropWhile_cons_of_neg (by simpa using slash)]

/-- The name of a component as a path. -/
theorem ofString_name {name : String} (free : '/' ∉ name.toList) (nonempty : name ≠ "") :
    ofString name = ⟨.relative, if name = "." then [] else [name]⟩ := by
  have anchor : anchorOf name.toList = .relative :=
    anchorOf_of_head fun slash => free (List.mem_of_head? slash)
  rw [ofString, anchor, splitOnChar_of_not_mem free]
  by_cases dot : name = "." <;> simp [dot, nonempty]

end Path

end StaticSite
