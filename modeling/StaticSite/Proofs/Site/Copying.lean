/-
Module: StaticSite.Proofs.Site.Copying
Purpose: What copying the assets of a site changes: below the output directory it puts files
  that are what their sources are, and nothing else but the directories that lead there.
Trusted boundary: none
Main exports:
  Directories.HoldsCopyOf, Directories.HoldsCopy, Directories.LeadsToAsset, put_copyOf_cases,
  put_copyOf_becomes_own, copying, copying_becomes, IsCopied, written_of_copying
-/
import StaticSite.Proofs.Site.Placing
import StaticSite.Proofs.Site.Reading
import StaticSite.Site.Build

namespace StaticSite.Site

open Text FileTree

namespace Directories

variable {directories : Directories} {tree : FileTree} {location rest : Location}

/-! ### The targets of assets -/

theorem assetTarget_parts (directories : Directories) (rest : List String) :
    (directories.assetTarget (directories.content ++ rest)).parts = directories.output ++ rest := by
  rw [assetTarget, relativeParts_append]
  rfl

theorem assetTarget_parent_parts (directories : Directories) (rest : List String) (name : String) :
    (directories.assetTarget (directories.content ++ (rest ++ [name]))).parent.parts =
      directories.output ++ rest := by
  have parts := directories.assetTarget_parts (rest ++ [name])
  rw [← List.append_assoc directories.output] at parts
  rw [Path.parent, parts, List.dropLast_concat]

/-- The copy of an asset. -/
def copyOf (directories : Directories) (asset : Location) : Artefact :=
  .asset (Path.ofLocation asset) (directories.assetTarget asset)

/-! ### What copying may change -/

/-- A file at this place would be the copy of this asset: it is at the asset's target, or below
it if that is a directory. -/
def HoldsCopyOf (directories : Directories) (tree : FileTree) (asset location : Location)
    (entry : Entry) : Prop :=
  tree.get? asset = some entry ∧
    (location = (directories.assetTarget asset).parts ∨
      tree.isDirectory (directories.assetTarget asset) = true ∧
        location = (directories.assetTarget asset).parts ++ [asset.getLastD ""])

/-- A file at this place would be the copy of an asset. -/
def HoldsCopy (directories : Directories) (tree : FileTree) (location : Location) (entry : Entry) :
    Prop :=
  ∃ asset ∈ directories.assets tree, directories.HoldsCopyOf tree asset location entry

/-- A directory at this place leads to the target of an asset. -/
def LeadsToAsset (directories : Directories) (tree : FileTree) (location : Location) : Prop :=
  ∃ asset ∈ directories.assets tree, location <+: (directories.assetTarget asset).parent.parts

/-- No asset is a directory that leads to another one, so no target is in the way of another. -/
theorem not_leadsToAsset (wellFormed : tree.WellFormed)
    (asset : location ∈ directories.assets tree) :
    ¬ directories.LeadsToAsset tree (directories.assetTarget location).parts := by
  rintro ⟨other, otherAsset, leads⟩
  obtain ⟨rest, bytes, modified, rfl, -, found, -⟩ := asset_cases wellFormed asset
  obtain ⟨otherRest, otherBytes, otherModified, rfl, below, otherFound, -⟩ :=
    asset_cases wellFormed otherAsset
  obtain ⟨onwards, name, rfl⟩ : ∃ onwards name, otherRest = onwards ++ [name] :=
    ⟨_, _, (List.dropLast_concat_getLast below).symm⟩
  rw [assetTarget_parts, assetTarget_parent_parts, List.prefix_append_right_inj] at leads
  obtain ⟨between, rfl⟩ := leads
  rw [List.append_assoc, ← List.append_assoc] at otherFound
  have isDirectory := wellFormed.directory_of_prefix otherFound (by simp)
  rw [found] at isDirectory
  cases isDirectory

/-- Only an asset's own copy can be at its target. -/
theorem eq_of_holdsCopyOf {other : Location} {entry : Entry} (wellFormed : tree.WellFormed)
    (asset : location ∈ directories.assets tree) (otherAsset : other ∈ directories.assets tree)
    (holds : directories.HoldsCopyOf tree other (directories.assetTarget location).parts entry) :
    other = location := by
  obtain ⟨-, place⟩ := holds
  obtain ⟨rest, bytes, modified, rfl, -, found, -⟩ := asset_cases wellFormed asset
  obtain ⟨otherRest, otherBytes, otherModified, rfl, -, otherFound, -⟩ :=
    asset_cases wellFormed otherAsset
  rw [assetTarget_parts, assetTarget_parts, List.append_assoc, List.append_cancel_left_eq,
    List.append_cancel_left_eq] at place
  obtain rfl | ⟨-, rfl⟩ := place
  · rfl
  -- Below the target of the other one: then that is a file with this one below it.
  · rw [← List.append_assoc] at found
    have isDirectory := wellFormed.directory_of_prefix found (by simp)
    rw [otherFound] at isDirectory
    cases isDirectory

theorem eq_of_holdsCopy {entry : Entry} (wellFormed : tree.WellFormed)
    (asset : location ∈ directories.assets tree)
    (holds : directories.HoldsCopy tree (directories.assetTarget location).parts entry) :
    tree.get? location = some entry := by
  obtain ⟨other, otherAsset, holdsOther⟩ := holds
  rw [← eq_of_holdsCopyOf wellFormed asset otherAsset holdsOther]
  exact holdsOther.1

/-- Copies lie below the output directory. -/
theorem below_of_holdsCopy {entry : Entry} (wellFormed : tree.WellFormed)
    (holds : directories.HoldsCopy tree location entry) :
    ∃ rest, rest ≠ [] ∧ location = directories.output ++ rest := by
  obtain ⟨asset, isAsset, -, place⟩ := holds
  obtain ⟨rest, bytes, modified, rfl, below, -⟩ := asset_cases wellFormed isAsset
  rw [assetTarget_parts] at place
  obtain rfl | ⟨-, rfl⟩ := place
  · exact ⟨rest, below, rfl⟩
  · exact ⟨_, List.append_ne_nil_of_left_ne_nil below _, List.append_assoc _ _ _⟩

end Directories

/-! ### One copy -/

section

variable {directories : Directories} {tree current after : FileTree} {location : Location}
  {now : Int}

/-- What a path without dots passes are the beginnings of its parts. -/
theorem prefix_of_passes {path : Path} (straight : ".." ∉ path.parts)
    (passes : path.Passes location) : location <+: path.parts := by
  obtain ⟨initial, start, rfl⟩ := passes
  rw [Path.walk_of_straight fun member => straight (start.subset member)]
  exact start

variable (wellFormed : tree.WellFormed) (straight : ".." ∉ directories.output)
  (asset : location ∈ directories.assets tree)
  (sofar : Becomes (directories.LeadsToAsset tree) (directories.HoldsCopy tree) tree current)

include wellFormed straight asset

theorem straight_assetTarget : ".." ∉ (directories.assetTarget location).parts := by
  obtain ⟨rest, bytes, modified, rfl, -, found, -⟩ := Directories.asset_cases wellFormed asset
  rw [Directories.assetTarget_parts, List.mem_append, not_or]
  exact ⟨straight, fun member =>
    wellFormed.straight_of_get? found (List.mem_append_right _ member)⟩

omit straight in
theorem name_ne_dots : (Path.ofLocation location).name ≠ ".." := by
  obtain ⟨rest, _, _, rfl, below, inTree, -⟩ := Directories.asset_cases wellFormed asset
  exact (wellFormed.isFileName_of_get? (List.append_ne_nil_of_right_ne_nil _ below) inTree).2.2.1

include sofar

omit straight in
/-- Copying does not touch the assets themselves. -/
theorem source_kept : current.get? location = tree.get? location := by
  obtain ⟨rest, bytes, modified, -, -, found, outside⟩ := Directories.asset_cases wellFormed asset
  rcases (sofar location).file_after found with kept | ⟨entry, -, holds⟩
  · rw [kept, found]
  · obtain ⟨rest, -, shape⟩ := Directories.below_of_holdsCopy wellFormed holds
    exact absurd ⟨rest, shape.symm⟩ outside

/-- Copying does not turn the target of an asset into a directory. -/
theorem isDirectory_assetTarget :
    current.isDirectory (directories.assetTarget location) =
      tree.isDirectory (directories.assetTarget location) := by
  have straightTarget := straight_assetTarget wellFormed straight asset
  rw [Bool.eq_iff_iff, isDirectory_iff, isDirectory_iff]
  constructor
  · rintro ⟨place, found, isDirectory⟩
    obtain ⟨rfl, -⟩ := (locate_straight_iff straightTarget).mp found
    rcases (sofar _).directory_before isDirectory with before | ⟨-, leads⟩
    · exact ⟨_, wellFormed.locate_eq before, before⟩
    · exact absurd leads (Directories.not_leadsToAsset wellFormed asset)
  · rintro ⟨place, found, isDirectory⟩
    exact ⟨place, sofar.locate_after found,
      (sofar place).directory_after isDirectory⟩

/-- First the directories on the way to the target are made; then the asset is copied as it
is, or nothing else happens. -/
theorem put_copyOf_cases (now : Int) :
    ∃ middle, Becomes (directories.LeadsToAsset tree) (fun _ _ => False) current middle ∧
      ((∃ cause, (directories.copyOf location).put now current = (middle, some cause)) ∨
        ∃ after bytes modified, tree.get? location = some (.file bytes modified) ∧
          middle.write (tree.copyTarget (Path.ofLocation location)
            (directories.assetTarget location)) bytes modified = .ok after ∧
          (directories.copyOf location).put now current = (after, none)) := by
  obtain ⟨middle, made, run⟩ := Artefact.put_cases now current (directories.copyOf location)
  have straightTarget := straight_assetTarget wellFormed straight asset
  have leads : Becomes (directories.LeadsToAsset tree) (fun _ _ => False) current middle := by
    refine made.mono (fun place passes => ⟨location, asset, ?_⟩) fun _ _ => id
    exact prefix_of_passes (fun member => straightTarget (List.dropLast_subset _ member)) passes
  have reached := sofar.trans (leads.mono (fun _ => id) fun _ _ => False.elim)
  refine ⟨middle, leads, run.imp_right ?_⟩
  rintro ⟨after, copied, isPut⟩
  obtain ⟨place, bytes, modified, found, isFile, written⟩ := copy_eq_ok_iff.mp copied
  obtain ⟨_, _, _, -, -, inTree, -⟩ := Directories.asset_cases wellFormed asset
  have here : place = location :=
    ((locate_straight_iff (wellFormed.straight_of_get? inTree)).mp found).1
  rw [here, source_kept wellFormed asset reached] at isFile
  refine ⟨after, bytes, modified, isFile, ?_, isPut⟩
  rwa [copyTarget, isDirectory_assetTarget wellFormed straight asset reached] at written

/-- Of an asset only its own copy is written. -/
theorem put_copyOf_becomes_own (now : Int) :
    Becomes (directories.LeadsToAsset tree) (directories.HoldsCopyOf tree location) current
      ((directories.copyOf location).put now current).1 := by
  obtain ⟨middle, leads, run⟩ := put_copyOf_cases wellFormed straight asset sofar now
  have made : Becomes (directories.LeadsToAsset tree) (directories.HoldsCopyOf tree location)
      current middle :=
    leads.mono (fun _ => id) fun _ _ => False.elim
  rcases run with ⟨cause, failed⟩ | ⟨after, bytes, modified, isFile, written, succeeded⟩
  · rw [failed]
    exact made
  · rw [succeeded]
    have straightTarget := straight_assetTarget wellFormed straight asset
    refine made.trans (write_becomes written ⟨isFile, ?_⟩ _)
    rw [copyTarget]
    split
    case isTrue isDirectory =>
      refine .inr ⟨isDirectory, Path.walk_of_straight ?_ _⟩
      simp only [Path.append, List.mem_append, List.mem_singleton, not_or]
      exact ⟨straightTarget, Ne.symm (name_ne_dots wellFormed asset)⟩
    case isFalse => exact .inl (Path.walk_of_straight straightTarget _)

theorem put_copyOf_becomes (now : Int) :
    Becomes (directories.LeadsToAsset tree) (directories.HoldsCopy tree) current
      ((directories.copyOf location).put now current).1 :=
  (put_copyOf_becomes_own wellFormed straight asset sofar now).mono (fun _ => id)
    fun _ _ holds => ⟨location, asset, holds⟩

/-- A copy that does not go to a directory is found at its target, as it is in the source. -/
theorem found_of_put_copyOf (free : tree.isDirectory (directories.assetTarget location) = false)
    (succeeded : (directories.copyOf location).put now current = (after, none)) :
    after.locate (directories.assetTarget location) =
        .ok (directories.assetTarget location).parts ∧
      after.get? (directories.assetTarget location).parts = tree.get? location := by
  obtain ⟨middle, -, ⟨cause, failed⟩ | ⟨after', bytes, modified, isFile, written, isPut⟩⟩ :=
    put_copyOf_cases wellFormed straight asset sofar now
  · cases succeeded.symm.trans failed
  · cases succeeded.symm.trans isPut
    have straightTarget := straight_assetTarget wellFormed straight asset
    rw [copyTarget, free, if_neg (by simp)] at written
    have stored := get?_of_write written
    rw [Path.walk_of_straight straightTarget, List.reverse_nil, List.nil_append] at stored
    exact ⟨locate_of_write straightTarget written, by rw [stored, isFile]⟩

end

/-! ### All copies -/

variable {directories : Directories} {tree current : FileTree} {now : Int}

/-- What has come of copying the assets, the first phase in which anything is written. -/
def copying (directories : Directories) (tree : FileTree) (now : Int) : Placement :=
  putAll now tree (assetArtefacts directories tree)

/-- From any moment of copying on, copies are all that changes. -/
theorem putAll_copies_becomes {locations : List Location} (wellFormed : tree.WellFormed)
    (straight : ".." ∉ directories.output)
    (assets : ∀ location ∈ locations, location ∈ directories.assets tree)
    (sofar : Becomes (directories.LeadsToAsset tree) (directories.HoldsCopy tree) tree current)
    (now : Int) :
    Becomes (directories.LeadsToAsset tree) (directories.HoldsCopy tree) current
      (putAll now current (locations.map directories.copyOf)).tree := by
  apply putAll_becomes _ (.refl _ _ current)
  intro artefact member reached becomes
  obtain ⟨location, listed, rfl⟩ := List.mem_map.mp member
  exact put_copyOf_becomes wellFormed straight (assets location listed) (sofar.trans becomes) now

/-- Whether it succeeds or not, copying only makes directories that lead to targets, and
writes copies. -/
theorem copying_becomes (wellFormed : tree.WellFormed) (straight : ".." ∉ directories.output)
    (now : Int) :
    Becomes (directories.LeadsToAsset tree) (directories.HoldsCopy tree) tree
      (copying directories tree now).tree :=
  putAll_copies_becomes wellFormed straight (fun _ member => member) (.refl _ _ tree) now

/-- The asset is found at its target as it has been before the build. -/
def IsCopied (directories : Directories) (tree after : FileTree) (location : Location) : Prop :=
  after.locate (directories.assetTarget location) =
      .ok (directories.assetTarget location).parts ∧
    after.get? (directories.assetTarget location).parts = tree.get? location

/-- A copy stays: whatever is written to its target later is the same. -/
theorem IsCopied.later {after later : FileTree} {location : Location} (wellFormed : tree.WellFormed)
    (asset : location ∈ directories.assets tree)
    (copied : IsCopied directories tree after location)
    (becomes : Becomes (directories.LeadsToAsset tree) (directories.HoldsCopy tree) after later) :
    IsCopied directories tree later location := by
  obtain ⟨found, same⟩ := copied
  refine ⟨becomes.locate_after found, ?_⟩
  obtain ⟨_, bytes, modified, -, -, isFile, -⟩ := Directories.asset_cases wellFormed asset
  rcases (becomes _).file_after (same.trans isFile) with kept | ⟨entry, written, holds⟩
  · rw [kept, isFile]
  · rw [written, Directories.eq_of_holdsCopy wellFormed asset holds]

theorem written_copies {locations : List Location} {artefact : Artefact}
    (wellFormed : tree.WellFormed) (straight : ".." ∉ directories.output)
    (assets : ∀ location ∈ locations, location ∈ directories.assets tree)
    (sofar : Becomes (directories.LeadsToAsset tree) (directories.HoldsCopy tree) tree current)
    (succeeded : (putAll now current (locations.map directories.copyOf)).error = none)
    (written : artefact ∈ (putAll now current (locations.map directories.copyOf)).written) :
    ∃ location ∈ directories.assets tree, artefact = directories.copyOf location ∧
      (tree.isDirectory (directories.assetTarget location) = false →
        IsCopied directories tree
          (putAll now current (locations.map directories.copyOf)).tree location) := by
  induction locations generalizing current with
  | nil => cases written
  | cons location rest inductionHypothesis =>
      obtain ⟨asset, others⟩ := List.forall_mem_cons.mp assets
      rw [List.map_cons] at succeeded written ⊢
      rcases putAll_of_ok succeeded with ⟨-, run⟩ | ⟨after, -, isPut, run⟩
      · rw [run] at succeeded written ⊢
        exact inductionHypothesis others sofar succeeded written
      · rw [run] at succeeded written ⊢
        have step := put_copyOf_becomes wellFormed straight asset sofar now
        rw [isPut] at step
        rcases List.mem_cons.mp written with rfl | later
        · refine ⟨location, asset, rfl, fun free => ?_⟩
          exact IsCopied.later wellFormed asset
            (found_of_put_copyOf wellFormed straight asset sofar free isPut)
            (putAll_copies_becomes wellFormed straight others (sofar.trans step) now)
        · exact inductionHypothesis others (sofar.trans step) succeeded later

/-- After copying has succeeded, each asset that was copied is found at its target, unless a
directory has been there from the start. -/
theorem written_of_copying {artefact : Artefact} (wellFormed : tree.WellFormed)
    (straight : ".." ∉ directories.output)
    (succeeded : (copying directories tree now).error = none)
    (written : artefact ∈ (copying directories tree now).written) :
    ∃ location ∈ directories.assets tree, artefact = directories.copyOf location ∧
      (tree.isDirectory (directories.assetTarget location) = false →
        IsCopied directories tree (copying directories tree now).tree location) :=
  written_copies wellFormed straight (fun _ member => member) (.refl _ _ tree) succeeded written

end StaticSite.Site
