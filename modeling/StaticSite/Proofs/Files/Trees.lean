/-
Module: StaticSite.Proofs.Files.Trees
Purpose: The values that a file system can have, and what can be read off one: what stands
  where, what has been put in, and which files lie below a directory.
Trusted boundary: none
Main exports:
  IsFileName, FileTree.WellFormed, FileTree.get?_insert, FileTree.WellFormed.get?_of_mem,
  FileTree.WellFormed.directory_of_prefix, FileTree.WellFormed.isFileName_of_get?,
  FileTree.WellFormed.locate_eq,
  FileTree.WellFormed.mem_filesBelow, FileTree.WellFormed.nodup_filesBelow
-/
import Mathlib.Data.List.Nodup
import StaticSite.Proofs.Files.Places

namespace StaticSite

/-- Some file can have this name. -/
def IsFileName (name : String) : Prop :=
  name ≠ "" ∧ name ≠ "." ∧ name ≠ ".." ∧ '/' ∉ name.toList

instance : DecidablePred IsFileName :=
  fun name => inferInstanceAs
    (Decidable (name ≠ "" ∧ name ≠ "." ∧ name ≠ ".." ∧ '/' ∉ name.toList))

/-- A list of entries is a file system: nothing stands in two ways at one place, places are
made of names, and whatever there is stands in a directory. -/
structure FileTree.WellFormed (tree : FileTree) : Prop where
  distinct : (tree.entries.map (·.1)).Nodup
  named : ∀ entry ∈ tree.entries, entry.1 ≠ [] ∧ ∀ name ∈ entry.1, IsFileName name
  rooted : ∀ entry ∈ tree.entries, tree.get? entry.1.dropLast = some .directory

instance (tree : FileTree) : Decidable tree.WellFormed :=
  decidable_of_iff
    ((tree.entries.map (·.1)).Nodup ∧
      (∀ entry ∈ tree.entries, entry.1 ≠ [] ∧ ∀ name ∈ entry.1, IsFileName name) ∧
      ∀ entry ∈ tree.entries, tree.get? entry.1.dropLast = some .directory)
    ⟨fun ⟨distinct, named, rooted⟩ => ⟨distinct, named, rooted⟩,
      fun ⟨distinct, named, rooted⟩ => ⟨distinct, named, rooted⟩⟩

/-! ### Sorting -/

theorem insertSorted_perm {α : Type} (le : α → α → Bool) (a : α) (items : List α) :
    (insertSorted le a items).Perm (a :: items) := by
  induction items with
  | nil => exact .refl _
  | cons first rest inductionHypothesis =>
      rw [insertSorted]
      split
      · exact .refl _
      · exact (inductionHypothesis.cons first).trans (.swap a first rest)

theorem sortBy_perm {α : Type} (le : α → α → Bool) (items : List α) :
    (sortBy le items).Perm items := by
  induction items with
  | nil => exact .refl _
  | cons first rest inductionHypothesis =>
      exact (insertSorted_perm le first _).trans (inductionHypothesis.cons first)

namespace FileTree

variable {tree : FileTree} {location other directory : Location} {entry : Entry}
  {bytes : ByteArray}

/-! ### What stands where -/

@[simp] theorem get?_root (tree : FileTree) : tree.get? [] = some .directory :=
  rfl

theorem get?_eq_lookup (below : location ≠ []) :
    tree.get? location = tree.entries.lookup location := by
  cases location with
  | nil => exact absurd rfl below
  | cons first rest => rfl

theorem lookup_insertEntry (entries : List (Location × Entry)) (location other : Location)
    (entry : Entry) :
    (insertEntry entries location entry).lookup other =
      if other = location then some entry else entries.lookup other := by
  induction entries with
  | nil =>
      by_cases same : other = location
      · rw [insertEntry, same, List.lookup_cons_self, if_pos rfl]
      · rw [insertEntry, List.lookup_cons, beq_eq_false_iff_ne.mpr same, if_neg same]
  | cons first rest inductionHypothesis =>
      obtain ⟨key, old⟩ := first
      rw [insertEntry]
      by_cases here : other = key
      · rw [here]
        split
        case isTrue => rw [List.lookup_cons_self]
        case isFalse => rw [List.lookup_cons_self, List.lookup_cons_self]
      · have apart : (other == key) = false := beq_eq_false_iff_ne.mpr here
        split
        case isTrue same =>
          rw [List.lookup_cons, apart, List.lookup_cons, apart, if_neg (same ▸ here)]
        case isFalse => simp only [List.lookup_cons, apart, inductionHypothesis]

/-- What has been put in is found at its place, and everything else as before. -/
theorem get?_insert (tree : FileTree) (below : location ≠ []) (entry : Entry) (other : Location) :
    (tree.insert location entry).get? other =
      if other = location then some entry else tree.get? other := by
  by_cases root : other = []
  · rw [root, if_neg (Ne.symm below), get?_root, get?_root]
  · rw [get?_eq_lookup root, get?_eq_lookup root, insert, lookup_insertEntry]

theorem mem_of_get? (below : location ≠ []) (found : tree.get? location = some entry) :
    (location, entry) ∈ tree.entries := by
  rw [get?_eq_lookup below, List.lookup_eq_some_iff] at found
  obtain ⟨before, after, shape, -⟩ := found
  simp [shape]

namespace WellFormed

theorem get?_of_mem (wellFormed : tree.WellFormed) (member : (location, entry) ∈ tree.entries) :
    tree.get? location = some entry := by
  rw [get?_eq_lookup (wellFormed.named _ member).1, List.lookup_eq_some_iff]
  obtain ⟨before, after, shape⟩ := List.append_of_mem member
  refine ⟨before, after, shape, ?_⟩
  have distinct := wellFormed.distinct
  rw [shape, List.map_append, List.map_cons, List.nodup_append] at distinct
  intro earlier inBefore
  have apart := distinct.2.2 _ (List.mem_map_of_mem inBefore) location List.mem_cons_self
  simpa using Ne.symm apart

/-- All that leads to something is a directory. -/
theorem directory_of_prefix (wellFormed : tree.WellFormed)
    (found : tree.get? (other ++ location) = some entry) (below : location ≠ []) :
    tree.get? other = some .directory := by
  induction location using List.reverseRecOn generalizing entry with
  | nil => exact absurd rfl below
  | append_singleton location name inductionHypothesis =>
      have nonempty : other ++ (location ++ [name]) ≠ [] := by simp
      have above := wellFormed.rooted _ (mem_of_get? nonempty found)
      rw [← List.append_assoc, List.dropLast_concat] at above
      by_cases last : location = []
      · rwa [last, List.append_nil] at above
      · exact inductionHypothesis above last

theorem straight_of_get? (wellFormed : tree.WellFormed)
    (found : tree.get? location = some entry) : ".." ∉ location := by
  by_cases root : location = []
  · simp [root]
  · exact fun member => ((wellFormed.named _ (mem_of_get? root found)).2 _ member).2.2.1 rfl

/-- What stands somewhere has a name. -/
theorem isFileName_of_get? (wellFormed : tree.WellFormed) (below : location ≠ [])
    (found : tree.get? location = some entry) : IsFileName (Path.ofLocation location).name := by
  have last : (Path.ofLocation location).name = location.getLast below := by
    rw [Path.name, Path.ofLocation, List.getLastD_eq_getLast?,
      List.getLast?_eq_some_getLast below, Option.getD_some]
  rw [last]
  exact (wellFormed.named _ (mem_of_get? below found)).2 _ (List.getLast_mem below)

/-- The path of what stands somewhere leads there. -/
theorem locate_eq {path : Path} (wellFormed : tree.WellFormed)
    (found : tree.get? path.parts = some entry) : tree.locate path = .ok path.parts := by
  rw [locate_straight_iff (wellFormed.straight_of_get? found)]
  refine ⟨rfl, ?_⟩
  intro initial rest shape onwards
  rw [← shape] at found
  exact wellFormed.directory_of_prefix found onwards

end WellFormed

/-! ### The files below a directory -/

theorem keys_filterMap_sublist {α β γ : Type} {f : α × β → Option (α × γ)}
    (keeps : ∀ entry kept, f entry = some kept → kept.1 = entry.1) (entries : List (α × β)) :
    ((entries.filterMap f).map (·.1)).Sublist (entries.map (·.1)) := by
  induction entries with
  | nil => exact .slnil
  | cons entry rest inductionHypothesis =>
      cases result : f entry with
      | none =>
          rw [List.filterMap_cons_none result]
          exact inductionHypothesis.cons _
      | some kept =>
          rw [List.filterMap_cons_some result, List.map_cons, List.map_cons,
            keeps entry kept result]
          exact inductionHypothesis.cons_cons _

theorem mem_filesBelow_iff :
    (location, bytes) ∈ tree.filesBelow directory ↔
      ∃ modified rest, (location, .file bytes modified) ∈ tree.entries ∧
        location = directory ++ rest ∧ rest ≠ [] := by
  rw [filesBelow, (sortBy_perm _ _).mem_iff, List.mem_filterMap]
  constructor
  · rintro ⟨⟨place, entry⟩, member, kept⟩
    dsimp only at kept
    split at kept
    case h_1 first rest below =>
      obtain ⟨rfl, rfl⟩ := Prod.mk.inj (Option.some.inj kept)
      exact ⟨_, _, member, Path.dropParts?_eq_some_iff.mp below, by simp⟩
    case h_2 => cases kept
  · rintro ⟨modified, rest, member, rfl, below⟩
    obtain ⟨first, rest, rfl⟩ := List.exists_cons_of_ne_nil below
    refine ⟨_, member, ?_⟩
    simp [Path.dropParts?_eq_some_iff.mpr rfl]

namespace WellFormed

theorem mem_filesBelow (wellFormed : tree.WellFormed) :
    (location, bytes) ∈ tree.filesBelow directory ↔
      ∃ modified rest, tree.get? location = some (.file bytes modified) ∧
        location = directory ++ rest ∧ rest ≠ [] := by
  rw [mem_filesBelow_iff]
  constructor
  · rintro ⟨modified, rest, member, shape, below⟩
    exact ⟨modified, rest, wellFormed.get?_of_mem member, shape, below⟩
  · rintro ⟨modified, rest, found, rfl, below⟩
    exact ⟨modified, rest, mem_of_get? (by simp [below]) found, rfl, below⟩

/-- No file is listed twice. -/
theorem nodup_filesBelow (wellFormed : tree.WellFormed) (directory : Location) :
    ((tree.filesBelow directory).map (·.1)).Nodup := by
  rw [filesBelow, ((sortBy_perm _ _).map _).nodup_iff]
  refine wellFormed.distinct.sublist (keys_filterMap_sublist ?_ _)
  rintro ⟨place, entry⟩ kept isKept
  dsimp only at isKept
  split at isKept
  case h_1 => exact (congrArg Prod.fst (Option.some.inj isKept)).symm
  case h_2 => cases isKept

end WellFormed

end FileTree

end StaticSite
