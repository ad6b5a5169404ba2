/-
Module: StaticSite.Proofs.Site.Histories
Purpose: What has happened to a site over many builds.  Between builds assets are written and
  removed; a build may fail before its end.  At each moment it is known what has stood at the
  places of assets, and that what is at their targets has once stood there.
Trusted boundary: none
Main exports:
  Event, History, Undisturbed, HasNothingIn, Version, Traced, Traced.step, build_becomes,
  source_of_build, copy_of_build, Traced.of_history, Traced.copy_cases
-/
import StaticSite.Proofs.Site.CopiesKept
import StaticSite.Proofs.Site.Freshness
import StaticSite.Proofs.Site.Phases

namespace StaticSite.Site

open Text FileTree

/-! ### Histories -/

/-- What happens to a site: an asset is written or removed, or the site is built. -/
inductive Event where
  | saved (location : Location) (bytes : ByteArray) (modified : Int)
  | removed (location : Location)
  | built (now : Int)
deriving Inhabited

/-- The file systems there have been, the present one first. -/
def treesOf (past : List (FileTree × Event)) (tree : FileTree) : List FileTree :=
  tree :: past.map Prod.fst

/-- The builds there have been, each with the file system that it found and its time. -/
def buildsOf (past : List (FileTree × Event)) : List (FileTree × Int) :=
  past.filterMap fun
    | (tree, .built now) => some (tree, now)
    | _ => none

/-- What can have happened before there is this file system: the last event comes first, each
with the file system that it found.  When an asset is written, its time is later than that of
any file that has been at its place. -/
inductive History (current : Location) (config : BuildConfig) (start : FileTree) :
    (past : List (FileTree × Event)) → (tree : FileTree) → Prop where
  | start : History current config start [] start
  | saved {past : List (FileTree × Event)} {tree middle after : FileTree} {location : Location}
      {bytes : ByteArray} {modified : Int} (history : History current config start past tree)
      (named : ∀ name ∈ location, IsFileName name)
      (ready : tree.makeDirectories (Path.ofLocation location).parent = (middle, none))
      (written : middle.write (Path.ofLocation location) bytes modified = .ok after)
      (asset : location ∈ (Directories.of current config).assets after)
      (newer : ∀ seen ∈ treesOf past tree,
        ∀ earlier ∈ seen.modified? (Path.ofLocation location), earlier < modified) :
      History current config start ((tree, .saved location bytes modified) :: past) after
  | removed {past : List (FileTree × Event)} {tree after : FileTree} {location : Location}
      (history : History current config start past tree)
      (asset : location ∈ (Directories.of current config).assets tree)
      (deleted : tree.delete (Path.ofLocation location) = .ok after) :
      History current config start ((tree, .removed location) :: past) after
  | built {past : List (FileTree × Event)} {tree : FileTree}
      (history : History current config start past tree) (now : Int) :
      History current config start ((tree, .built now) :: past)
        (build tree now current config).tree

/-- The artefact is a script file. -/
def Artefact.isScript : Artefact → Bool
  | .bundle _ _ => true
  | _ => false

/-- The builds keep out of the way of assets and their copies: the script files that they write
are inside of the output directory, no script file or page is written to the target of an asset
that one of them finds, and none of them finds a directory at the target of an asset. -/
structure Undisturbed (directories : Directories) (config : BuildConfig)
    (past : List (FileTree × Event)) : Prop where
  scripts : ∀ run ∈ buildsOf past, ∀ artefact ∈ (writing directories config run.1 run.2).written,
    artefact.isScript = true → directories.isOutput artefact.location = true
  targets : ∀ run ∈ buildsOf past, ∀ artefact ∈ (writing directories config run.1 run.2).written,
    ∀ other ∈ buildsOf past, ∀ asset ∈ directories.assets other.1,
      artefact.location ≠ (directories.assetTarget asset).parts
  free : ∀ run ∈ buildsOf past, ∀ asset ∈ directories.assets run.1,
    run.1.isDirectory (directories.assetTarget asset) = false

/-- There is nothing in the directory. -/
def HasNothingIn (tree : FileTree) (directory : Location) : Prop :=
  ∀ entry ∈ tree.entries, directory <+: entry.1 → entry.1 = directory

instance (directories : Directories) (config : BuildConfig) (past : List (FileTree × Event)) :
    Decidable (Undisturbed directories config past) :=
  decidable_of_iff (_ ∧ _ ∧ _)
    ⟨fun ⟨scripts, targets, free⟩ => ⟨scripts, targets, free⟩,
      fun ⟨scripts, targets, free⟩ => ⟨scripts, targets, free⟩⟩

instance (tree : FileTree) (directory : Location) : Decidable (HasNothingIn tree directory) :=
  inferInstanceAs (Decidable (∀ entry ∈ tree.entries, _ → _))

variable {directories : Directories} {config : BuildConfig} {current location rest : Location}
  {past earlier : List (FileTree × Event)} {start tree after middle : FileTree} {event : Event}
  {now : Int} {bytes other : ByteArray} {modified time : Int} {entry : Entry}

theorem mem_buildsOf {run : FileTree × Int} :
    run ∈ buildsOf past ↔ (run.1, .built run.2) ∈ past := by
  rw [buildsOf, List.mem_filterMap]
  constructor
  · rintro ⟨⟨tree, event⟩, member, isRun⟩
    cases event with
    | built now =>
        obtain rfl := Option.some.inj isRun
        exact member
    | saved => cases isRun
    | removed => cases isRun
  · intro member
    exact ⟨_, member, rfl⟩

theorem last_mem_buildsOf : (tree, now) ∈ buildsOf ((tree, .built now) :: past) :=
  mem_buildsOf.mpr List.mem_cons_self

theorem Undisturbed.mono (undisturbed : Undisturbed directories config past)
    (fewer : earlier ⊆ past) : Undisturbed directories config earlier := by
  have runs : buildsOf earlier ⊆ buildsOf past := fun run member =>
    mem_buildsOf.mpr (fewer (mem_buildsOf.mp member))
  refine ⟨?_, ?_, ?_⟩
  · exact fun run member => undisturbed.scripts run (runs member)
  · exact fun run member artefact written found isRun =>
      undisturbed.targets run (runs member) artefact written found (runs isRun)
  · exact fun run member => undisturbed.free run (runs member)

namespace History

variable {found : FileTree} {last : Event}

theorem before_of_cons (history : History current config start past tree)
    (before : (found, event) ∈ past → ∃ later earlier, past = later ++ (found, event) :: earlier ∧
      History current config start earlier found)
    (member : (found, event) ∈ (tree, last) :: past) :
    ∃ later earlier, (tree, last) :: past = later ++ (found, event) :: earlier ∧
      History current config start earlier found := by
  rcases List.mem_cons.mp member with here | inPast
  · obtain ⟨rfl, rfl⟩ := Prod.mk.inj here
    exact ⟨[], past, rfl, history⟩
  · obtain ⟨later, earlier, rfl, isHistory⟩ := before inPast
    exact ⟨(tree, last) :: later, earlier, rfl, isHistory⟩

/-- What has been before an event of a history is a history. -/
theorem before (history : History current config start past tree)
    (member : (found, event) ∈ past) :
    ∃ later earlier, past = later ++ (found, event) :: earlier ∧
      History current config start earlier found := by
  induction history with
  | start => cases member
  | saved history _ _ _ _ _ inductionHypothesis =>
      exact history.before_of_cons inductionHypothesis member
  | removed history _ _ inductionHypothesis =>
      exact history.before_of_cons inductionHypothesis member
  | built history _ inductionHypothesis =>
      exact history.before_of_cons inductionHypothesis member

end History

/-! ### What has stood at a place -/

/-- This has stood at the place at some moment. -/
def Version (past : List (FileTree × Event)) (tree : FileTree) (location : Location)
    (entry : Entry) : Prop :=
  ∃ seen ∈ treesOf past tree, seen.get? location = some entry

/-- No script file or page has been written to the place. -/
def Untouched (directories : Directories) (config : BuildConfig)
    (past : List (FileTree × Event)) (location : Location) : Prop :=
  ∀ run ∈ buildsOf past, ∀ artefact ∈ (writing directories config run.1 run.2).written,
    artefact.location ≠ location

/-- What is known at each moment of a history.  Files that have stood at the place of an asset
have the same bytes if they have the same time, and the present one is the latest of them; and
what is at the target of an asset has once been at its place. -/
structure Traced (directories : Directories) (config : BuildConfig)
    (past : List (FileTree × Event)) (tree : FileTree) : Prop where
  wellFormed : ∀ seen ∈ treesOf past tree, seen.WellFormed
  same : ∀ location, directories.IsAssetPlace location → ∀ bytes other modified,
    Version past tree location (.file bytes modified) →
      Version past tree location (.file other modified) → bytes = other
  latest : ∀ location, directories.IsAssetPlace location → ∀ bytes modified other time,
    tree.get? location = some (.file bytes modified) →
      Version past tree location (.file other time) → time ≤ modified
  copied : ∀ rest, directories.IsAssetPlace (directories.content ++ rest) →
    Untouched directories config past (directories.output ++ rest) → ∀ bytes modified,
      tree.get? (directories.output ++ rest) = some (.file bytes modified) →
        Version past tree (directories.content ++ rest) (.file bytes modified)

theorem version_now (found : tree.get? location = some entry) : Version past tree location entry :=
  ⟨tree, List.mem_cons_self, found⟩

theorem version_cons_iff :
    Version ((tree, event) :: past) after location entry ↔
      after.get? location = some entry ∨ Version past tree location entry := by
  simp [Version, treesOf]

theorem Untouched.mono (untouched : Untouched directories config past location)
    (fewer : earlier ⊆ past) : Untouched directories config earlier location :=
  fun run member => untouched run (mem_buildsOf.mpr (fewer (mem_buildsOf.mp member)))

/-- Nothing has been written to the target of an asset that the last build has found. -/
theorem Undisturbed.untouched
    (undisturbed : Undisturbed directories config ((tree, .built now) :: past))
    (asset : location ∈ directories.assets tree) :
    Untouched directories config ((tree, .built now) :: past)
      (directories.assetTarget location).parts :=
  fun run member artefact written =>
    undisturbed.targets run member artefact written (tree, now) last_mem_buildsOf location asset

namespace Traced

/-- At the start nothing is in the output directory. -/
theorem of_start (wellFormed : start.WellFormed) (empty : HasNothingIn start directories.output) :
    Traced directories config [] start where
  wellFormed := by simpa [treesOf] using wellFormed
  same location _ bytes other modified := by
    simp only [Version, treesOf, List.map_nil, List.mem_singleton, exists_eq_left]
    intro found foundToo
    rw [found] at foundToo
    exact (Entry.file.inj (Option.some.inj foundToo)).1
  latest location _ bytes modified other time := by
    simp only [Version, treesOf, List.map_nil, List.mem_singleton, exists_eq_left]
    intro found foundToo
    rw [found] at foundToo
    exact (Entry.file.inj (Option.some.inj foundToo)).2.ge
  copied rest isPlace _ bytes modified found := by
    obtain ⟨⟨_, below, shape⟩, -⟩ := isPlace
    obtain rfl := List.append_cancel_left shape
    have nonempty := List.append_ne_nil_of_right_ne_nil directories.output below
    have place := empty _ (mem_of_get? nonempty found) (List.prefix_append _ _)
    exact absurd (by simpa using place) below

/-- The invariant is kept by an event after which there are only the files at the places of assets
that have been there, or files newer than all earlier ones, and at the targets of assets, if no
text has been written there, only the files that have been there or copies. -/
theorem step (traced : Traced directories config past tree) (wellFormed : after.WellFormed)
    (assets : ∀ location, directories.IsAssetPlace location → ∀ bytes modified,
      after.get? location = some (.file bytes modified) →
        tree.get? location = some (.file bytes modified) ∨
          ∀ other time, Version past tree location (.file other time) → time < modified)
    (copies : ∀ rest, directories.IsAssetPlace (directories.content ++ rest) →
      Untouched directories config ((tree, event) :: past) (directories.output ++ rest) →
        ∀ bytes modified, after.get? (directories.output ++ rest) = some (.file bytes modified) →
          tree.get? (directories.output ++ rest) = some (.file bytes modified) ∨
            tree.get? (directories.content ++ rest) = some (.file bytes modified)) :
    Traced directories config ((tree, event) :: past) after where
  wellFormed := List.forall_mem_cons.mpr ⟨wellFormed, traced.wellFormed⟩
  same location isPlace bytes other modified first second := by
    -- A present file is an earlier one that has stayed, or it has a time of its own.
    have mixed : ∀ bytes other, after.get? location = some (.file bytes modified) →
        Version past tree location (.file other modified) → bytes = other := by
      intro bytes other found version
      rcases assets location isPlace bytes modified found with kept | newer
      · exact traced.same location isPlace bytes other modified (version_now kept) version
      · exact absurd (newer other modified version) (lt_irrefl _)
    rcases version_cons_iff.mp first with found | version <;>
      rcases version_cons_iff.mp second with foundToo | versionToo
    · rw [found] at foundToo
      exact (Entry.file.inj (Option.some.inj foundToo)).1
    · exact mixed bytes other found versionToo
    · exact (mixed other bytes foundToo version).symm
    · exact traced.same location isPlace bytes other modified version versionToo
  latest location isPlace bytes modified other time found version := by
    rcases version_cons_iff.mp version with foundToo | earlier
    · rw [found] at foundToo
      exact (Entry.file.inj (Option.some.inj foundToo)).2.ge
    · rcases assets location isPlace bytes modified found with kept | newer
      · exact traced.latest location isPlace bytes modified other time kept earlier
      · exact (newer other time earlier).le
  copied rest isPlace untouched bytes modified found := by
    refine version_cons_iff.mpr (.inr ?_)
    rcases copies rest isPlace untouched bytes modified found with kept | copied
    · exact traced.copied rest isPlace (untouched.mono (List.subset_cons_self _ _)) bytes modified
        kept
    · exact version_now copied

end Traced

/-! ### What events do -/

/-- A build only makes directories, and writes copies and what it reports as written. -/
theorem build_becomes (wellFormed : tree.WellFormed) (now : Int) (current : Location)
    (config : BuildConfig) :
    Becomes (fun _ => True)
      (fun location entry => (Directories.of current config).HoldsCopy tree location entry ∨
        ∃ artefact ∈ (writing (Directories.of current config) config tree now).written,
          artefact.Fills now location entry)
      tree (build tree now current config).tree := by
  rcases build_tree_cases tree now current config with unchanged | written
  · rw [unchanged]
    exact .refl _ _ _
  · have copied := copying_becomes wellFormed (Directories.straight_output current config) now
    have texts := writing_becomes (Directories.of current config) config wellFormed now
    rw [written]
    exact (copied.mono (fun _ _ => trivial) fun _ _ => .inl).trans
      (texts.mono (fun _ _ => trivial) fun _ _ => .inr)

/-- A build whose script files are inside of the output directory writes to no place of an
asset. -/
theorem unwritten_of_isAssetPlace (wellFormed : tree.WellFormed)
    (straight : ".." ∉ directories.output)
    (scripts : ∀ artefact ∈ (writing directories config tree now).written,
      artefact.isScript = true → directories.isOutput artefact.location = true)
    (isPlace : directories.IsAssetPlace location) (entry : Entry) :
    ¬ (directories.HoldsCopy tree location entry ∨
      ∃ artefact ∈ (writing directories config tree now).written,
        artefact.Fills now location entry) := by
  rintro (holds | ⟨artefact, written, rfl, -⟩)
  · obtain ⟨rest, -, rfl⟩ := Directories.below_of_holdsCopy wellFormed holds
    have outside := isPlace.2.2
    rw [isOutput_append] at outside
    cases outside
  · rcases mem_toWrite wellFormed (written_subset _ _ _ written) with
      ⟨_, _, -, rfl⟩ | ⟨page, isPage, _, rfl⟩
    · have outside := isPlace.2.2
      rw [scripts _ written rfl] at outside
      cases outside
    · rw [Artefact.location_eq] at isPlace
      exact Directories.not_isAssetPlace_of_page straight wellFormed isPage isPlace

/-- So a build leaves such a place as it is. -/
theorem source_of_build (wellFormed : tree.WellFormed)
    (scripts : ∀ artefact ∈ (writing (Directories.of current config) config tree now).written,
      artefact.isScript = true →
        (Directories.of current config).isOutput artefact.location = true)
    (isPlace : (Directories.of current config).IsAssetPlace location) :
    (build tree now current config).tree.get? location = some (.file bytes modified) ↔
      tree.get? location = some (.file bytes modified) :=
  (build_becomes wellFormed now current config).file_iff (unwritten_of_isAssetPlace wellFormed
    (Directories.straight_output current config) scripts isPlace)

/-- A file at the target of an asset to which no text is written has been there before the
build, or it is a copy of the asset. -/
theorem copy_of_build (wellFormed : tree.WellFormed)
    (isPlace : (Directories.of current config).IsAssetPlace location)
    (free : ∀ asset ∈ (Directories.of current config).assets tree,
      tree.isDirectory ((Directories.of current config).assetTarget asset) = false)
    (untouched : ∀ artefact ∈ (writing (Directories.of current config) config tree now).written,
      artefact.location ≠ ((Directories.of current config).assetTarget location).parts)
    (found : (build tree now current config).tree.get?
      ((Directories.of current config).assetTarget location).parts = some (.file bytes modified)) :
    tree.get? ((Directories.of current config).assetTarget location).parts =
        some (.file bytes modified) ∨
      tree.get? location = some (.file bytes modified) := by
  obtain ⟨rest, -, rfl⟩ := isPlace.1
  rw [Directories.assetTarget_parts] at untouched found ⊢
  rcases (build_becomes wellFormed now current config _).file_before found with
    kept | ⟨-, holds | ⟨artefact, written, place, -⟩⟩
  · exact .inl kept
  · exact .inr (Directories.source_of_holdsCopy wellFormed free holds)
  · exact absurd place.symm (untouched artefact written)

theorem straight_of_named (named : ∀ name ∈ location, IsFileName name) : ".." ∉ location :=
  fun member => (named _ member).2.2.1 rfl

/-- When an asset is written, no other file changes. -/
theorem get?_of_saved {place : Location} (straight : ".." ∉ location)
    (ready : tree.makeDirectories (Path.ofLocation location).parent = (middle, none))
    (written : middle.write (Path.ofLocation location) bytes modified = .ok after)
    (found : after.get? place = some (.file other time)) :
    place = location ∧ other = bytes ∧ time = modified ∨
      place ≠ location ∧ tree.get? place = some (.file other time) := by
  obtain ⟨target, located, free, rfl⟩ := write_eq_ok_iff.mp written
  have here : target = location := ((locate_straight_iff straight).mp located).1
  have below : target ≠ [] := by
    rintro rfl
    exact free rfl
  rw [get?_insert _ below, here] at found
  split at found
  case isTrue same =>
    obtain ⟨rfl, rfl⟩ := Entry.file.inj (Option.some.inj found)
    exact .inl ⟨same, rfl, rfl⟩
  case isFalse apart =>
    have made := makeDirectories_becomes tree (Path.ofLocation location).parent
    rw [ready] at made
    exact .inr ⟨apart, (made.file_iff fun _ => id).mp found⟩

namespace Traced

/-- A file that has stood at a place has been read there with its time. -/
theorem modified?_of_version (traced : Traced directories config past tree)
    (version : Version past tree location (.file bytes modified)) :
    ∃ seen ∈ treesOf past tree, seen.modified? (Path.ofLocation location) = some modified := by
  obtain ⟨seen, member, found⟩ := version
  exact ⟨seen, member, (traced.wellFormed seen member).modified?_eq found⟩

theorem saved (traced : Traced directories config past tree)
    (named : ∀ name ∈ location, IsFileName name)
    (ready : tree.makeDirectories (Path.ofLocation location).parent = (middle, none))
    (written : middle.write (Path.ofLocation location) bytes modified = .ok after)
    (asset : location ∈ directories.assets after)
    (newer : ∀ seen ∈ treesOf past tree,
      ∀ earlier ∈ seen.modified? (Path.ofLocation location), earlier < modified) :
    Traced directories config ((tree, .saved location bytes modified) :: past) after := by
  have isNamed := Path.isNamed_ofLocation named
  have straight := straight_of_named named
  have wellFormedMiddle :=
    (traced.wellFormed tree List.mem_cons_self).makeDirectories isNamed.parent
  rw [ready] at wellFormedMiddle
  have wellFormed := wellFormedMiddle.write isNamed written
  refine traced.step wellFormed ?_ ?_
  -- At the place itself there is now the file that is newer than all that has been there.
  · intro place _ other time found
    rcases get?_of_saved straight ready written found with ⟨rfl, rfl, rfl⟩ | ⟨-, kept⟩
    · refine .inr fun other earlier version => ?_
      obtain ⟨seen, member, isEarlier⟩ := traced.modified?_of_version version
      exact newer seen member earlier isEarlier
    · exact .inl kept
  · intro rest _ _ other time found
    rcases get?_of_saved straight ready written found with ⟨rfl, -⟩ | ⟨-, kept⟩
    · have outside :=
        ((Directories.mem_assets_iff_isAssetPlace wellFormed).mp asset).1.2.2
      rw [isOutput_append] at outside
      cases outside
    · exact .inl kept

theorem removed (traced : Traced directories config past tree)
    (deleted : tree.delete (Path.ofLocation location) = .ok after) :
    Traced directories config ((tree, .removed location) :: past) after := by
  have wellFormed := (traced.wellFormed tree List.mem_cons_self).delete deleted
  obtain ⟨place, _, _, -, isFile, rfl⟩ := delete_eq_ok_iff.mp deleted
  have below : place ≠ [] := by
    rintro rfl
    cases isFile
  have kept : ∀ (other : Location) (entry : Entry),
      (tree.erase place).get? other = some entry → tree.get? other = some entry := by
    intro other entry found
    rw [get?_erase _ below] at found
    split at found
    · cases found
    · exact found
  refine traced.step wellFormed ?_ ?_
  · exact fun location _ bytes modified found => .inl (kept location _ found)
  · exact fun rest _ _ bytes modified found => .inl (kept _ _ found)

theorem built (traced : Traced (Directories.of current config) config past tree)
    (outputNamed : ∀ name ∈ (Directories.of current config).output, IsFileName name)
    (undisturbed : Undisturbed (Directories.of current config) config
      ((tree, .built now) :: past)) :
    Traced (Directories.of current config) config ((tree, .built now) :: past)
      (build tree now current config).tree := by
  have wellFormed := traced.wellFormed tree List.mem_cons_self
  have run : (tree, now) ∈ buildsOf ((tree, .built now) :: past) := last_mem_buildsOf
  refine traced.step (wellFormed_build wellFormed outputNamed now) ?_ ?_
  -- Neither copies nor script files and pages come to the place of an asset.
  · intro location isPlace bytes modified found
    exact .inl ((source_of_build wellFormed (undisturbed.scripts _ run) isPlace).mp found)
  · intro rest isPlace untouched bytes modified found
    rw [← Directories.assetTarget_parts] at untouched found ⊢
    exact copy_of_build wellFormed isPlace (undisturbed.free _ run) (untouched _ run) found

/-- The invariant holds at each moment of a history. -/
theorem of_history (wellFormed : start.WellFormed)
    (outputNamed : ∀ name ∈ (Directories.of current config).output, IsFileName name)
    (empty : HasNothingIn start (Directories.of current config).output)
    (history : History current config start past tree)
    (undisturbed : Undisturbed (Directories.of current config) config past) :
    Traced (Directories.of current config) config past tree := by
  induction history with
  | start => exact .of_start wellFormed empty
  | saved _ named ready written asset newer inductionHypothesis =>
      have traced := inductionHypothesis (undisturbed.mono (List.subset_cons_self _ _))
      exact traced.saved named ready written asset newer
  | removed _ _ deleted inductionHypothesis =>
      exact (inductionHypothesis (undisturbed.mono (List.subset_cons_self _ _))).removed deleted
  | built _ now inductionHypothesis =>
      have traced := inductionHypothesis (undisturbed.mono (List.subset_cons_self _ _))
      exact traced.built outputNamed undisturbed

/-- A copy that no text has been written over has once been the asset.  It is not later than the
asset, and it is what the asset is if it has the same time. -/
theorem copy_cases (traced : Traced directories config past tree)
    (isPlace : directories.IsAssetPlace location)
    (untouched : Untouched directories config past (directories.assetTarget location).parts)
    (isSource : tree.get? location = some (.file bytes modified))
    (isHeld : tree.get? (directories.assetTarget location).parts = some (.file other time)) :
    Version past tree location (.file other time) ∧
      (time < modified ∨ time = modified ∧ other = bytes) := by
  obtain ⟨rest, below, rfl⟩ := isPlace.1
  rw [Directories.assetTarget_parts] at untouched isHeld
  have version := traced.copied rest isPlace untouched other time isHeld
  refine ⟨version, ?_⟩
  rcases (traced.latest _ isPlace bytes modified other time isSource version).lt_or_eq with
    earlier | rfl
  · exact .inl earlier
  · exact .inr ⟨rfl, traced.same _ isPlace other bytes time version (version_now isSource)⟩

end Traced

end StaticSite.Site
