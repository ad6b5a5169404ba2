/-
Module: StaticSite.Proofs.Files.Changes
Purpose: What operations on files do to a file system, said once for each of them: when they
  succeed, and that every place they do not name stays as it is.
Trusted boundary: none
Main exports:
  FileTree.Change, FileTree.Change.directory_before, FileTree.Change.file_before,
  FileTree.Becomes, FileTree.Becomes.trans, FileTree.Becomes.file_iff,
  FileTree.Becomes.locate_after, Path.Passes,
  FileTree.makeDirectories_becomes, FileTree.write_becomes, FileTree.write_eq_ok_iff,
  FileTree.copy_eq_ok_iff, FileTree.delete_eq_ok_iff, FileTree.contents_eq_ok_iff,
  FileTree.modified?_eq_some_iff
-/
import StaticSite.Proofs.Files.Trees

namespace StaticSite

namespace FileTree

/-! ### What may become of a place -/

/-- What may become of what stands at a place: it stays, a directory is made where there was
nothing, or a file is written where there was no directory.  `made` and `written` tell where
this may happen, and what may be written. -/
inductive Change (made : Location → Prop) (written : Location → Entry → Prop)
    (location : Location) : (before after : Option Entry) → Prop where
  | kept (entry : Option Entry) : Change made written location entry entry
  | directory (allowed : made location) :
      Change made written location none (some .directory)
  | file {before : Option Entry} {bytes : ByteArray} {modified : Int}
      (free : before ≠ some .directory) (allowed : written location (.file bytes modified)) :
      Change made written location before (some (.file bytes modified))

/-- One file system becomes another by changes that are allowed. -/
def Becomes (made : Location → Prop) (written : Location → Entry → Prop)
    (before after : FileTree) : Prop :=
  ∀ location, Change made written location (before.get? location) (after.get? location)

/-- No file is written. -/
def Nothing : Location → Entry → Prop :=
  fun _ _ => False

section

variable {made more : Location → Prop} {written writtenMore : Location → Entry → Prop}
  {location : Location} {bytes : ByteArray} {modified : Int}

namespace Change

variable {before middle after : Option Entry}

theorem trans (first : Change made written location before middle)
    (second : Change made written location middle after) :
    Change made written location before after := by
  cases second with
  | kept => exact first
  | directory allowed =>
      cases first with
      | kept => exact .directory allowed
  | file free allowed =>
      cases first with
      | kept => exact .file free allowed
      | directory => exact absurd rfl free
      | file freeBefore => exact .file freeBefore allowed

theorem mono (change : Change made written location before after)
    (moreMade : made location → more location)
    (moreWritten : ∀ entry, written location entry → writtenMore location entry) :
    Change more writtenMore location before after := by
  cases change with
  | kept => exact .kept _
  | directory allowed => exact .directory (moreMade allowed)
  | file free allowed => exact .file free (moreWritten _ allowed)

/-- A directory stays. -/
theorem directory_after (change : Change made written location before after)
    (isDirectory : before = some .directory) : after = some .directory := by
  cases change with
  | kept => exact isDirectory
  | directory => rfl
  | file free => exact absurd isDirectory free

/-- A directory has been there, or has been made where there was nothing. -/
theorem directory_before (change : Change made written location before after)
    (isDirectory : after = some .directory) :
    before = some .directory ∨ before = none ∧ made location := by
  cases change with
  | kept => exact .inl isDirectory
  | directory allowed => exact .inr ⟨rfl, allowed⟩
  | file => cases isDirectory

/-- A file has been there, or has been written. -/
theorem file_before (change : Change made written location before after)
    (isFile : after = some (.file bytes modified)) :
    before = some (.file bytes modified) ∨
      before ≠ some .directory ∧ written location (.file bytes modified) := by
  cases change with
  | kept => exact .inl isFile
  | directory => cases isFile
  | file free allowed =>
      cases isFile
      exact .inr ⟨free, allowed⟩

/-- A file stays, or another one is written in its place. -/
theorem file_after (change : Change made written location before after)
    (isFile : before = some (.file bytes modified)) :
    after = some (.file bytes modified) ∨ ∃ entry, after = some entry ∧ written location entry := by
  cases change with
  | kept => exact .inl isFile
  | directory => cases isFile
  | file _ allowed => exact .inr ⟨_, rfl, allowed⟩

/-- Where nothing is made or written it stays as it is. -/
theorem eq_of_untouched (change : Change made written location before after)
    (unmade : ¬ made location) (unwritten : ∀ entry, ¬ written location entry) :
    after = before := by
  cases change with
  | kept => rfl
  | directory allowed => exact absurd allowed unmade
  | file _ allowed => exact absurd allowed (unwritten _)

/-- Where there has been a file there is one. -/
theorem isFile_after (change : Change made written location before after)
    (isFile : before = some (.file bytes modified)) :
    ∃ bytes modified, after = some (.file bytes modified) := by
  cases change with
  | kept => exact ⟨bytes, modified, isFile⟩
  | directory => cases isFile
  | file => exact ⟨_, _, rfl⟩

end Change

namespace Becomes

variable {before middle after : FileTree}

theorem refl (made : Location → Prop) (written : Location → Entry → Prop) (tree : FileTree) :
    Becomes made written tree tree :=
  fun _ => .kept _

theorem trans (first : Becomes made written before middle)
    (second : Becomes made written middle after) : Becomes made written before after :=
  fun location => (first location).trans (second location)

theorem mono (becomes : Becomes made written before after)
    (moreMade : ∀ location, made location → more location)
    (moreWritten : ∀ location entry, written location entry → writtenMore location entry) :
    Becomes more writtenMore before after :=
  fun location => (becomes location).mono (moreMade location) (moreWritten location)

/-- Nothing is made but a directory at a place where there is nothing. -/
theorem of_directory (absent : before.get? location = none) (allowed : made location) :
    Becomes made written before (before.insert location .directory) := by
  have below : location ≠ [] := by
    rintro rfl
    cases absent
  intro other
  rw [get?_insert _ below]
  split
  case isTrue same =>
    rw [same, absent]
    exact .directory allowed
  case isFalse => exact .kept _

/-- Nothing is written but a file at a place where there is no directory. -/
theorem of_file (free : before.get? location ≠ some .directory)
    (allowed : written location (.file bytes modified)) :
    Becomes made written before (before.insert location (.file bytes modified)) := by
  have below : location ≠ [] := by
    rintro rfl
    exact free rfl
  intro other
  rw [get?_insert _ below]
  split
  case isTrue same =>
    rw [same]
    exact .file free allowed
  case isFalse => exact .kept _

/-- Where nothing is written files stay, and no others come about. -/
theorem file_iff (becomes : Becomes made written before after)
    (unwritten : ∀ entry, ¬ written location entry) :
    after.get? location = some (.file bytes modified) ↔
      before.get? location = some (.file bytes modified) := by
  constructor
  · intro isFile
    rcases (becomes location).file_before isFile with earlier | ⟨-, isWritten⟩
    · exact earlier
    · exact absurd isWritten (unwritten _)
  · intro isFile
    rcases (becomes location).file_after isFile with kept | ⟨entry, -, isWritten⟩
    · exact kept
    · exact absurd isWritten (unwritten entry)

theorem follow_after {path : Path} {current : Location} {parts : List String}
    (becomes : Becomes made written before after)
    (found : before.follow path current parts = .ok location) :
    after.follow path current parts = .ok location := by
  induction parts generalizing current with
  | nil => exact found
  | cons part parts inductionHypothesis =>
      by_cases up : part = ".."
      · rw [follow, if_pos up] at found ⊢
        exact inductionHypothesis found
      · by_cases last : parts = []
        · rw [last, follow_name up] at found ⊢
          exact found
        · rw [follow_onwards_iff up last] at found ⊢
          exact ⟨(becomes _).directory_after found.1, inductionHypothesis found.2⟩

/-- What a path leads to is found later as well. -/
theorem locate_after {path : Path} (becomes : Becomes made written before after)
    (found : before.locate path = .ok location) : after.locate path = .ok location :=
  becomes.follow_after found

end Becomes

end

/-! ### When operations succeed -/

section

variable {tree after : FileTree} {path source target : Path} {bytes : ByteArray} {modified : Int}

theorem makeDirectory_eq_ok_iff :
    tree.makeDirectory path = .ok after ↔
      ∃ location, tree.locate path = .ok location ∧ tree.get? location = none ∧
        after = tree.insert location .directory := by
  rw [makeDirectory]
  cases tree.locate path with
  | error => simp [bind, Except.bind]
  | ok location =>
      cases seen : tree.get? location <;> simp [bind, Except.bind, seen, eq_comm]

theorem write_eq_ok_iff :
    tree.write path bytes modified = .ok after ↔
      ∃ location, tree.locate path = .ok location ∧ tree.get? location ≠ some .directory ∧
        after = tree.insert location (.file bytes modified) := by
  rw [write]
  cases tree.locate path with
  | error => simp [bind, Except.bind]
  | ok location =>
      cases seen : tree.get? location with
      | none => simp [bind, Except.bind, seen, eq_comm]
      | some entry => cases entry <;> simp [bind, Except.bind, seen, eq_comm]

theorem contents_eq_ok_iff :
    tree.contents path = .ok bytes ↔
      ∃ location modified, tree.locate path = .ok location ∧
        tree.get? location = some (.file bytes modified) := by
  rw [contents]
  cases tree.locate path with
  | error => simp [bind, Except.bind]
  | ok location =>
      cases seen : tree.get? location with
      | none => simp [bind, Except.bind, seen]
      | some entry => cases entry <;> simp [bind, Except.bind, seen]

theorem modified?_eq_some_iff :
    tree.modified? path = some modified ↔
      ∃ location bytes, tree.locate path = .ok location ∧
        tree.get? location = some (.file bytes modified) := by
  rw [modified?, entryAt?]
  cases tree.locate path with
  | error => simp
  | ok location =>
      cases seen : tree.get? location with
      | none => simp [seen]
      | some entry => cases entry <;> simp [seen]

theorem WellFormed.contents_eq (wellFormed : tree.WellFormed)
    (isFile : tree.get? path.parts = some (.file bytes modified)) :
    tree.contents path = .ok bytes :=
  contents_eq_ok_iff.mpr ⟨_, _, wellFormed.locate_eq isFile, isFile⟩

theorem WellFormed.modified?_eq (wellFormed : tree.WellFormed)
    (isFile : tree.get? path.parts = some (.file bytes modified)) :
    tree.modified? path = some modified :=
  modified?_eq_some_iff.mpr ⟨_, _, wellFormed.locate_eq isFile, isFile⟩

theorem delete_eq_ok_iff :
    tree.delete path = .ok after ↔
      ∃ location bytes modified, tree.locate path = .ok location ∧
        tree.get? location = some (.file bytes modified) ∧ after = tree.erase location := by
  rw [delete]
  cases tree.locate path with
  | error => simp [bind, Except.bind]
  | ok location =>
      cases seen : tree.get? location with
      | none => simp [bind, Except.bind, seen]
      | some entry => cases entry <;> simp [bind, Except.bind, seen, eq_comm]

theorem isDirectory_iff :
    tree.isDirectory path = true ↔
      ∃ location, tree.locate path = .ok location ∧ tree.get? location = some .directory := by
  rw [isDirectory, entryAt?]
  cases tree.locate path with
  | error => simp
  | ok location =>
      cases seen : tree.get? location with
      | none => simp [seen]
      | some entry => cases entry <;> simp [seen]

/-- Where a copy goes: to the target, or below it if that is a directory. -/
def copyTarget (tree : FileTree) (source target : Path) : Path :=
  if tree.isDirectory target then target.append [source.name] else target

theorem copy_eq_ok_iff :
    tree.copy source target = .ok after ↔
      ∃ location bytes modified, tree.locate source = .ok location ∧
        tree.get? location = some (.file bytes modified) ∧
          tree.write (tree.copyTarget source target) bytes modified = .ok after := by
  rw [copy]
  cases tree.locate source with
  | error => simp [bind, Except.bind]
  | ok location =>
      cases seen : tree.get? location with
      | none => simp [bind, Except.bind, seen]
      | some entry => cases entry <;> simp [bind, Except.bind, seen, copyTarget]

end

/-- A path to a file leads to a file later as well. -/
theorem Becomes.contents_after {before later : FileTree} {path : Path} {bytes : ByteArray}
    {made : Location → Prop} {written : Location → Entry → Prop}
    (becomes : Becomes made written before later) (isFile : before.contents path = .ok bytes) :
    ∃ bytes, later.contents path = .ok bytes := by
  obtain ⟨location, modified, found, isFile⟩ := contents_eq_ok_iff.mp isFile
  obtain ⟨bytes, modified, isLater⟩ := (becomes location).isFile_after isFile
  exact ⟨bytes, contents_eq_ok_iff.mpr ⟨location, modified, becomes.locate_after found, isLater⟩⟩

/-! ### What operations do -/

end FileTree

/-- Following the path passes this place, or ends there. -/
def Path.Passes (path : Path) (location : Location) : Prop :=
  ∃ initial, initial <+: path.parts ∧ location = Path.walk [] initial

namespace FileTree

variable {tree after : FileTree} {path : Path} {bytes : ByteArray} {modified : Int}

theorem makeDirectory_becomes (made : tree.makeDirectory path = .ok after) :
    Becomes path.Passes Nothing tree after := by
  obtain ⟨location, found, absent, rfl⟩ := makeDirectory_eq_ok_iff.mp made
  exact .of_directory absent ⟨path.parts, List.prefix_rfl, locate_eq_walk found⟩

theorem ensureDirectory_becomes (made : tree.ensureDirectory path = .ok after) :
    Becomes path.Passes Nothing tree after := by
  rw [ensureDirectory] at made
  split at made
  case h_1 isMade =>
    obtain rfl := Except.ok.inj made
    exact makeDirectory_becomes isMade
  case h_2 =>
    split at made
    · obtain rfl := Except.ok.inj made
      exact .refl _ _ _
    · cases made

theorem ensureBelow_becomes (tree : FileTree) (base : Path) (parts : List String) :
    Becomes (base.append parts).Passes Nothing tree (tree.ensureBelow base parts).1 := by
  induction parts generalizing tree base with
  | nil => exact .refl _ _ _
  | cons part parts inductionHypothesis =>
      have longer : (base.append [part]).append parts = base.append (part :: parts) := by
        simp [Path.append]
      rw [ensureBelow]
      split
      case h_1 made =>
        have first : Becomes (base.append (part :: parts)).Passes Nothing tree _ :=
          (ensureDirectory_becomes made).mono
            (fun _ ⟨initial, start, place⟩ =>
              ⟨initial, start.trans ⟨parts, by simp [Path.append]⟩, place⟩)
            fun _ _ impossible => impossible
        rw [← longer] at first ⊢
        exact first.trans (inductionHypothesis _ _)
      case h_2 => exact .refl _ _ _

/-- Only directories that the path passes are made, whether all of them can be or not. -/
theorem makeDirectories_becomes (tree : FileTree) (path : Path) :
    Becomes path.Passes Nothing tree (tree.makeDirectories path).1 := by
  rw [makeDirectories]
  split
  case h_1 made => exact ensureDirectory_becomes made
  case h_2 => exact ensureBelow_becomes tree { path with parts := [] } path.parts
  case h_3 => exact .refl _ _ _

/-- Only the file at the end of the path is written. -/
theorem write_becomes {written : Location → Entry → Prop}
    (isWritten : tree.write path bytes modified = .ok after)
    (allowed : written (Path.walk [] path.parts) (.file bytes modified)) (made : Location → Prop) :
    Becomes made written tree after := by
  obtain ⟨location, found, free, rfl⟩ := write_eq_ok_iff.mp isWritten
  rw [← locate_eq_walk found] at allowed
  exact .of_file free allowed

/-- What has been written is there. -/
theorem get?_of_write (isWritten : tree.write path bytes modified = .ok after) :
    after.get? (Path.walk [] path.parts) = some (.file bytes modified) := by
  obtain ⟨location, found, free, rfl⟩ := write_eq_ok_iff.mp isWritten
  have below : location ≠ [] := by
    rintro rfl
    exact free rfl
  rw [← locate_eq_walk found, get?_insert _ below, if_pos rfl]

/-- What has been written is read by the same path. -/
theorem contents_of_write (isWritten : tree.write path bytes modified = .ok after) :
    after.contents path = .ok bytes := by
  obtain ⟨location, found, -, -⟩ := write_eq_ok_iff.mp isWritten
  have becomes : Becomes (fun _ => False) (fun _ _ => True) tree after :=
    write_becomes isWritten trivial _
  have stored := get?_of_write isWritten
  rw [← locate_eq_walk found] at stored
  exact contents_eq_ok_iff.mpr ⟨location, modified, becomes.locate_after found, stored⟩

/-- What has been written by a path without dots is found by it. -/
theorem locate_of_write (straight : ".." ∉ path.parts)
    (isWritten : tree.write path bytes modified = .ok after) :
    after.locate path = .ok path.parts := by
  obtain ⟨location, found, -, -⟩ := write_eq_ok_iff.mp isWritten
  have becomes : Becomes (fun _ => False) (fun _ _ => True) tree after :=
    write_becomes isWritten trivial _
  obtain ⟨rfl, -⟩ := (locate_straight_iff straight).mp found
  exact becomes.locate_after found

end FileTree

end StaticSite
