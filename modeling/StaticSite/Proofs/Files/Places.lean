/-
Module: StaticSite.Proofs.Files.Places
Purpose: Where a path leads: what its dots come to, and which directories have to be there for
  a file system to follow it.
Trusted boundary: none
Main exports:
  Path.dropParts?_eq_some_iff, Path.walk_append, Path.walk_of_straight, Path.straight_walk,
  FileTree.locate_eq_walk, FileTree.directory_of_follow, FileTree.follow_straight_iff,
  FileTree.locate_straight_iff
-/
import Mathlib.Data.List.Infix
import StaticSite.FileTree

namespace StaticSite

/-! ### Parts of a path -/

namespace Path

theorem dropParts?_eq_some_iff {directory parts rest : List String} :
    dropParts? directory parts = some rest ↔ parts = directory ++ rest := by
  induction directory generalizing parts with
  | nil => simp [dropParts?]
  | cons d directory inductionHypothesis =>
      cases parts with
      | nil => simp [dropParts?]
      | cons part parts =>
          rw [dropParts?]
          split
          case isTrue same => simp [same, inductionHypothesis]
          case isFalse differs => simp [Ne.symm differs]

/-- Walking goes on from where it has come to. -/
theorem walk_append (walked first second : List String) :
    walk walked (first ++ second) = walk (walk walked first).reverse second := by
  induction first generalizing walked with
  | nil => simp [walk]
  | cons part first inductionHypothesis =>
      rw [List.cons_append, walk, walk]
      split <;> exact inductionHypothesis _

/-- Parts without dots are walked one after the other. -/
theorem walk_of_straight {parts : List String} (straight : ".." ∉ parts) (walked : List String) :
    walk walked parts = walked.reverse ++ parts := by
  induction parts generalizing walked with
  | nil => simp [walk]
  | cons part parts inductionHypothesis =>
      rw [List.mem_cons, not_or] at straight
      obtain ⟨here, later⟩ := straight
      rw [walk, if_neg (Ne.symm here), inductionHypothesis later]
      simp

/-- Walking leaves no dots. -/
theorem straight_walk {walked : List String} (straight : ".." ∉ walked) (parts : List String) :
    ".." ∉ walk walked parts := by
  induction parts generalizing walked with
  | nil => simpa [walk] using straight
  | cons part parts inductionHypothesis =>
      rw [walk]
      split
      case isTrue =>
        exact inductionHypothesis fun member => straight (List.mem_of_mem_tail member)
      case isFalse name =>
        exact inductionHypothesis (by simpa using ⟨Ne.symm name, straight⟩)

/-- A path seen from the root is where walking along its parts ends. -/
theorem resolveParts_root (path : Path) : path.resolveParts [] = walk [] path.parts := by
  rw [resolveParts]
  split <;> rfl

theorem straight_resolveParts (current : List String) (path : Path) :
    ".." ∉ path.resolveParts current := by
  rw [resolveParts]
  split <;> exact straight_walk List.not_mem_nil _

/-- A name at the end stays at the end. -/
theorem walk_append_singleton {name : String} (isName : name ≠ "..") (walked parts : List String) :
    walk walked (parts ++ [name]) = walk walked parts ++ [name] := by
  rw [walk_append, walk_of_straight (by simpa using Ne.symm isName), List.reverse_reverse]

/-- The last of some parts without dots is taken back by two dots. -/
theorem walk_append_dots {parts : List String} (straight : ".." ∉ parts) :
    walk [] (parts ++ [".."]) = parts.dropLast := by
  rw [walk_append, walk_of_straight straight, walk, if_pos rfl, walk, List.reverse_nil,
    List.nil_append, List.tail_reverse, List.reverse_reverse]

end Path

/-! ### Following a path -/

namespace FileTree

variable {tree : FileTree} {path : Path} {part : String}
  {current initial rest parts location : List String}

/-- The last part of a path may name anything. -/
theorem follow_name (isName : part ≠ "..") :
    tree.follow path current [part] = .ok (current ++ [part]) := by
  cases seen : tree.get? (current ++ [part]) with
  | none => simp [follow, isName, seen]
  | some entry => cases entry <;> simp [follow, isName, seen]

/-- Any other part that is followed leads to a directory. -/
theorem follow_onwards_iff (isName : part ≠ "..") (onwards : rest ≠ []) :
    tree.follow path current (part :: rest) = .ok location ↔
      tree.get? (current ++ [part]) = some .directory ∧
        tree.follow path (current ++ [part]) rest = .ok location := by
  obtain ⟨next, rest, rfl⟩ := List.exists_cons_of_ne_nil onwards
  cases seen : tree.get? (current ++ [part]) with
  | none => simp [follow, isName, seen]
  | some entry => cases entry <;> simp [follow, isName, seen]

/-- Following a path ends where walking along its parts does. -/
theorem follow_eq_walk (found : tree.follow path current parts = .ok location) :
    location = Path.walk current.reverse parts := by
  induction parts generalizing current with
  | nil => simpa [follow, Path.walk, eq_comm] using found
  | cons part parts inductionHypothesis =>
      rw [Path.walk]
      split
      case isTrue up =>
        rw [follow, if_pos up] at found
        rw [List.tail_reverse]
        exact inductionHypothesis found
      case isFalse name =>
        have reversed : part :: current.reverse = (current ++ [part]).reverse := by simp
        rw [reversed]
        cases parts with
        | nil =>
            rw [follow_name name] at found
            rw [Path.walk, List.reverse_reverse]
            exact (Except.ok.inj found).symm
        | cons next parts =>
            exact inductionHypothesis ((follow_onwards_iff name (by simp)).mp found).2

theorem locate_eq_walk (found : tree.locate path = .ok location) :
    location = Path.walk [] path.parts :=
  follow_eq_walk found

/-- What is passed on the way, before any dots, is a directory. -/
theorem directory_of_follow (straight : ".." ∉ initial) (nonempty : initial ≠ [])
    (onwards : rest ≠ []) (found : tree.follow path current (initial ++ rest) = .ok location) :
    tree.get? (current ++ initial) = some .directory := by
  induction initial generalizing current with
  | nil => exact absurd rfl nonempty
  | cons part initial inductionHypothesis =>
      rw [List.mem_cons, not_or] at straight
      have further : initial ++ rest ≠ [] := List.append_ne_nil_of_right_ne_nil initial onwards
      obtain ⟨isDirectory, found⟩ := (follow_onwards_iff (Ne.symm straight.1) further).mp found
      by_cases last : initial = []
      · rwa [last]
      · have passed := inductionHypothesis straight.2 last found
        rwa [List.append_assoc, List.singleton_append] at passed

/-- A path without dots can be followed if and only if all that it passes are directories. -/
theorem follow_straight_iff (straight : ".." ∉ parts) :
    tree.follow path current parts = .ok location ↔
      location = current ++ parts ∧
        ∀ initial rest, initial ++ rest = parts → initial ≠ [] → rest ≠ [] →
          tree.get? (current ++ initial) = some .directory := by
  constructor
  · intro found
    constructor
    · rw [follow_eq_walk found, Path.walk_of_straight straight, List.reverse_reverse]
    · rintro initial rest rfl nonempty onwards
      exact directory_of_follow (fun member => straight (List.mem_append_left _ member)) nonempty
        onwards found
  · rintro ⟨rfl, passed⟩
    induction parts generalizing current with
    | nil => simp [follow]
    | cons part parts inductionHypothesis =>
        rw [List.mem_cons, not_or] at straight
        by_cases last : parts = []
        · rw [last, follow_name (Ne.symm straight.1)]
        · rw [follow_onwards_iff (Ne.symm straight.1) last]
          refine ⟨passed [part] parts rfl (by simp) last, ?_⟩
          rw [List.append_cons current part parts]
          apply inductionHypothesis straight.2
          rintro initial rest rfl _ onwards
          rw [List.append_assoc, List.singleton_append]
          exact passed (part :: initial) rest rfl (by simp) onwards

/-- An absolute path without dots leads to the place of its parts, if and only if all that it
passes are directories. -/
theorem locate_straight_iff (straight : ".." ∉ path.parts) :
    tree.locate path = .ok location ↔
      location = path.parts ∧
        ∀ initial rest, initial ++ rest = path.parts → rest ≠ [] →
          tree.get? initial = some .directory := by
  rw [locate, follow_straight_iff straight]
  simp only [List.nil_append]
  refine and_congr_right fun _ => forall₂_congr fun initial rest => forall_congr' fun _ => ?_
  constructor
  · intro passed onwards
    cases initial with
    | nil => rfl
    | cons first initial => exact passed (by simp) onwards
  · intro passed _ onwards
    exact passed onwards

end FileTree

end StaticSite
