/-
Module: StaticSite.Proofs.Files.Preservation
Purpose: Operations on files keep a file system well-formed, as long as the paths they are given
  are made of names that files can have; and what has a place in a well-formed file system has a
  directory to be in.
Trusted boundary: none
Main exports:
  Path.IsNamed, Path.isNamed_ofString, Path.IsNamed.walk, FileTree.get?_erase,
  FileTree.WellFormed.insert, FileTree.WellFormed.erase, FileTree.WellFormed.makeDirectories,
  FileTree.WellFormed.write, FileTree.WellFormed.copy, FileTree.WellFormed.delete,
  FileTree.WellFormed.isDirectory_parent, FileTree.makeDirectories_of_isDirectory
-/
import StaticSite.Proofs.Files.Changes
import StaticSite.Proofs.Files.Names

namespace StaticSite

open Text

/-! ### Paths made of names -/

namespace Path

/-- The parts of the path are names that files can have, and two dots. -/
def IsNamed (path : Path) : Prop :=
  ∀ part ∈ path.parts, part ≠ ".." → IsFileName part

variable {path other : Path} {location : Location} {parts walked : List String}

theorem isNamed_ofString (s : String) : (ofString s).IsNamed := by
  intro part member noDots
  obtain ⟨isPiece, kept⟩ := List.mem_filter.mp member
  obtain ⟨piece, split, rfl⟩ := List.mem_map.mp isPiece
  simp only [Bool.and_eq_true, bne_iff_ne] at kept
  refine ⟨kept.1, kept.2, noDots, ?_⟩
  rw [String.toList_ofList]
  exact separator_not_mem_piece split

theorem isNamed_ofLocation (names : ∀ name ∈ location, IsFileName name) :
    (ofLocation location).IsNamed :=
  fun name member _ => names name member

namespace IsNamed

theorem parent (named : path.IsNamed) : path.parent.IsNamed :=
  fun part member => named part (List.dropLast_subset _ member)

theorem append (named : path.IsNamed) (more : ∀ part ∈ parts, part ≠ ".." → IsFileName part) :
    (path.append parts).IsNamed :=
  fun part member => (List.mem_append.mp member).elim (named part) (more part)

theorem join (named : path.IsNamed) (otherNamed : other.IsNamed) : (path.join other).IsNamed := by
  rw [Path.join]
  split
  case isTrue => exact otherNamed
  case isFalse => exact named.append otherNamed

end IsNamed

/-- Walking along names comes to a place that is made of names. -/
theorem isFileName_of_walk (walkedNames : ∀ name ∈ walked, IsFileName name)
    (names : ∀ part ∈ parts, part ≠ ".." → IsFileName part) :
    ∀ name ∈ walk walked parts, IsFileName name := by
  induction parts generalizing walked with
  | nil => simpa [walk] using walkedNames
  | cons part parts inductionHypothesis =>
      rw [List.forall_mem_cons] at names
      rw [walk]
      split
      case isTrue =>
        have above : ∀ name ∈ walked.tail, IsFileName name := fun name member =>
          walkedNames name (List.mem_of_mem_tail member)
        exact inductionHypothesis above names.2
      case isFalse noDots =>
        exact inductionHypothesis (List.forall_mem_cons.mpr ⟨names.1 noDots, walkedNames⟩) names.2

theorem IsNamed.walk (named : path.IsNamed) :
    ∀ name ∈ Path.walk [] path.parts, IsFileName name :=
  isFileName_of_walk (List.forall_mem_nil _) named

end Path

namespace FileTree

variable {tree after : FileTree} {path target source base : Path} {entry : Entry}
  {entries : List (Location × Entry)} {location other current : Location} {parts : List String}
  {bytes : ByteArray} {modified : Int}

/-! ### Putting in and taking away -/

theorem mem_of_mem_insertEntry {stored : Location × Entry}
    (member : stored ∈ insertEntry entries location entry) :
    stored = (location, entry) ∨ stored ∈ entries := by
  induction entries with
  | nil => exact .inl (List.mem_singleton.mp member)
  | cons first rest inductionHypothesis =>
      rw [insertEntry] at member
      split at member
      case isTrue same =>
        rcases List.mem_cons.mp member with rfl | later
        · exact .inl (congrArg (·, entry) same)
        · exact .inr (List.mem_cons_of_mem _ later)
      case isFalse =>
        rcases List.mem_cons.mp member with rfl | later
        · exact .inr List.mem_cons_self
        · exact (inductionHypothesis later).imp_right (List.mem_cons_of_mem _)

theorem nodup_insertEntry (distinct : (entries.map (·.1)).Nodup) :
    ((insertEntry entries location entry).map (·.1)).Nodup := by
  induction entries with
  | nil => exact List.nodup_singleton _
  | cons first rest inductionHypothesis =>
      rw [insertEntry]
      split
      case isTrue => exact distinct
      case isFalse apart =>
        rw [List.map_cons, List.nodup_cons] at distinct ⊢
        refine ⟨fun member => ?_, inductionHypothesis distinct.2⟩
        obtain ⟨stored, isStored, key⟩ := List.mem_map.mp member
        rcases mem_of_mem_insertEntry isStored with rfl | earlier
        · exact apart key.symm
        · exact distinct.1 (List.mem_map.mpr ⟨stored, earlier, key⟩)

/-- What has been taken away is gone, and everything else is as before. -/
theorem get?_erase (tree : FileTree) (below : location ≠ []) (other : Location) :
    (tree.erase location).get? other = if other = location then none else tree.get? other := by
  by_cases root : other = []
  · rw [root, if_neg (Ne.symm below), get?_root, get?_root]
  · rw [get?_eq_lookup root, get?_eq_lookup root, erase]
    induction tree.entries with
    | nil => simp
    | cons first rest inductionHypothesis =>
        obtain ⟨key, stored⟩ := first
        by_cases erased : key = location
        · rw [List.filter_cons_of_neg (by simp [erased]), inductionHypothesis, erased]
          split
          case isTrue => rfl
          case isFalse apart => rw [List.lookup_cons, beq_eq_false_iff_ne.mpr apart]
        · rw [List.filter_cons_of_pos (by simpa using erased)]
          by_cases here : other = key
          · rw [here, List.lookup_cons_self, List.lookup_cons_self, if_neg erased]
          · rw [List.lookup_cons, beq_eq_false_iff_ne.mpr here, List.lookup_cons,
              beq_eq_false_iff_ne.mpr here, inductionHypothesis]

namespace WellFormed

variable (wellFormed : tree.WellFormed)

include wellFormed

/-- A file system stays one when something is put in a directory, in place of a file or where
nothing has been. -/
protected theorem insert (names : ∀ name ∈ location, IsFileName name)
    (inside : tree.get? location.dropLast = some .directory)
    (free : tree.get? location ≠ some .directory) (entry : Entry) :
    (tree.insert location entry).WellFormed := by
  have below : location ≠ [] := by
    rintro rfl
    exact free rfl
  refine ⟨nodup_insertEntry wellFormed.distinct, ?_, ?_⟩
  · intro stored member
    rcases mem_of_mem_insertEntry member with rfl | earlier
    · exact ⟨below, names⟩
    · exact wellFormed.named stored earlier
  · intro stored member
    rw [get?_insert _ below]
    rcases mem_of_mem_insertEntry member with rfl | earlier
    · have shorter : location.dropLast ≠ location := by
        intro same
        have lengths := congrArg List.length same
        have positive := List.length_pos_of_ne_nil below
        rw [List.length_dropLast] at lengths
        omega
      rwa [if_neg shorter]
    -- Nothing has been below the place, for there has been no directory.
    · have rooted := wellFormed.rooted stored earlier
      rw [if_neg, rooted]
      rintro same
      exact free (same ▸ rooted)

/-- A file system stays one when a file is replaced by another one. -/
theorem replace (isFile : tree.get? location = some (.file bytes modified)) (entry : Entry) :
    (tree.insert location entry).WellFormed := by
  have below : location ≠ [] := by
    rintro rfl
    cases isFile
  have stored := mem_of_get? below isFile
  exact wellFormed.insert (wellFormed.named _ stored).2 (wellFormed.rooted _ stored)
    (by simp [isFile]) entry

/-- A file system stays one when a file is taken away. -/
protected theorem erase (isFile : tree.get? location = some (.file bytes modified)) :
    (tree.erase location).WellFormed := by
  have below : location ≠ [] := by
    rintro rfl
    cases isFile
  refine ⟨wellFormed.distinct.sublist (List.filter_sublist.map _), ?_, ?_⟩
  · exact fun stored member => wellFormed.named stored (List.mem_filter.mp member).1
  · intro stored member
    have rooted := wellFormed.rooted stored (List.mem_filter.mp member).1
    rw [get?_erase _ below, if_neg, rooted]
    intro same
    rw [same, isFile] at rooted
    cases rooted

/-! ### Where paths lead -/

/-- A directory is in a directory. -/
theorem directory_dropLast (isDirectory : tree.get? current = some .directory) :
    tree.get? current.dropLast = some .directory := by
  by_cases root : current = []
  · rw [root]
    rfl
  · exact wellFormed.rooted _ (mem_of_get? root isDirectory)

theorem directory_above_followed (isDirectory : tree.get? current = some .directory)
    (found : tree.follow path current parts = .ok location) :
    tree.get? location.dropLast = some .directory := by
  induction parts generalizing current with
  | nil =>
      obtain rfl := Except.ok.inj found
      exact wellFormed.directory_dropLast isDirectory
  | cons part parts inductionHypothesis =>
      by_cases up : part = ".."
      · rw [follow, if_pos up] at found
        exact inductionHypothesis (wellFormed.directory_dropLast isDirectory) found
      · by_cases last : parts = []
        · rw [last, follow_name up] at found
          obtain rfl := Except.ok.inj found
          rwa [List.dropLast_concat]
        · obtain ⟨next, found⟩ := (follow_onwards_iff up last).mp found
          exact inductionHypothesis next found

/-- Following a path without its last part ends in a directory.  The whole path is only named in
errors, so that it may be another one. -/
theorem follow_initial {path other : Path} {part : String}
    (isDirectory : tree.get? current = some .directory)
    (found : tree.follow path current (parts ++ [part]) = .ok location) :
    ∃ above, tree.follow other current parts = .ok above ∧ tree.get? above = some .directory := by
  induction parts generalizing current with
  | nil => exact ⟨current, rfl, isDirectory⟩
  | cons first parts inductionHypothesis =>
      rw [List.cons_append] at found
      by_cases up : first = ".."
      · rw [follow, if_pos up] at found ⊢
        exact inductionHypothesis (wellFormed.directory_dropLast isDirectory) found
      · obtain ⟨next, found⟩ := (follow_onwards_iff up (by simp)).mp found
        have onwards : tree.follow other current (first :: parts) =
            tree.follow other (current ++ [first]) parts := by
          simp [follow, up, next]
        rw [onwards]
        exact inductionHypothesis next found

/-- What a path leads to is in a directory, which the path leads to without its last part. -/
theorem isDirectory_parent (found : tree.locate path = .ok location) (below : location ≠ []) :
    tree.isDirectory path.parent = true := by
  have nonempty : path.parts ≠ [] := by
    intro none
    rw [locate, none] at found
    exact below (Except.ok.inj found).symm
  rw [locate, ← List.dropLast_concat_getLast nonempty] at found
  exact isDirectory_iff.mpr (wellFormed.follow_initial (get?_root tree) found)

/-! ### Operations -/

/-- What is put where a path leads is put in a directory. -/
theorem insert_located (named : path.IsNamed) (found : tree.locate path = .ok location)
    (free : tree.get? location ≠ some .directory) (entry : Entry) :
    (tree.insert location entry).WellFormed := by
  have inside := wellFormed.directory_above_followed (get?_root tree) found
  refine wellFormed.insert ?_ inside free entry
  rw [locate_eq_walk found]
  exact named.walk

protected theorem makeDirectory (named : path.IsNamed)
    (made : tree.makeDirectory path = .ok after) : after.WellFormed := by
  obtain ⟨location, found, absent, rfl⟩ := makeDirectory_eq_ok_iff.mp made
  exact wellFormed.insert_located named found (by simp [absent]) _

protected theorem ensureDirectory (named : path.IsNamed)
    (made : tree.ensureDirectory path = .ok after) : after.WellFormed := by
  rw [FileTree.ensureDirectory] at made
  split at made
  case h_1 isMade =>
    obtain rfl := Except.ok.inj made
    exact wellFormed.makeDirectory named isMade
  case h_2 =>
    split at made
    · obtain rfl := Except.ok.inj made
      exact wellFormed
    · cases made

protected theorem ensureBelow (named : (base.append parts).IsNamed) :
    (tree.ensureBelow base parts).1.WellFormed := by
  induction parts generalizing tree base with
  | nil => exact wellFormed
  | cons part parts inductionHypothesis =>
      have longer : (base.append [part]).append parts = base.append (part :: parts) := by
        simp [Path.append]
      rw [FileTree.ensureBelow]
      split
      case h_1 made =>
        refine inductionHypothesis (wellFormed.ensureDirectory ?_ made) (longer ▸ named)
        intro name member
        refine named name ?_
        rw [← longer]
        exact List.mem_append_left _ member
      case h_2 => exact wellFormed

/-- Directories are made in directories, whether all of them can be or not. -/
protected theorem makeDirectories (named : path.IsNamed) :
    (tree.makeDirectories path).1.WellFormed := by
  rw [FileTree.makeDirectories]
  split
  case h_1 made => exact wellFormed.ensureDirectory named made
  case h_2 => exact wellFormed.ensureBelow named
  case h_3 => exact wellFormed

protected theorem write (named : path.IsNamed)
    (written : tree.write path bytes modified = .ok after) : after.WellFormed := by
  obtain ⟨location, found, free, rfl⟩ := write_eq_ok_iff.mp written
  exact wellFormed.insert_located named found free _

protected theorem copy (named : target.IsNamed) (isName : IsFileName source.name)
    (copied : tree.copy source target = .ok after) : after.WellFormed := by
  obtain ⟨_, bytes, modified, -, -, written⟩ := copy_eq_ok_iff.mp copied
  refine wellFormed.write ?_ written
  rw [copyTarget]
  split
  case isTrue => exact named.append (by simpa using fun _ => isName)
  case isFalse => exact named

protected theorem delete (deleted : tree.delete path = .ok after) : after.WellFormed := by
  obtain ⟨location, bytes, modified, -, isFile, rfl⟩ := delete_eq_ok_iff.mp deleted
  exact wellFormed.erase isFile

end WellFormed

/-- Nothing is made of a directory that is there. -/
theorem makeDirectories_of_isDirectory (present : tree.isDirectory path = true) :
    tree.makeDirectories path = (tree, none) := by
  obtain ⟨location, found, isDirectory⟩ := isDirectory_iff.mp present
  have taken : tree.makeDirectory path = .error (.alreadyExists path) := by
    simp [makeDirectory, found, isDirectory, bind, Except.bind]
  simp [makeDirectories, ensureDirectory, taken, present]

end FileTree

end StaticSite
