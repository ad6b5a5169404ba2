/-
Module: StaticSite.Proofs.Site.CurrentCopies
Purpose: The copies of assets over many builds.  A build leaves a copy alone that does not count as
  older than its asset, by times that are rounded.  So after a build that succeeds a copy is what
  its asset is, unless the two have been written at times that cannot be told apart.
Trusted boundary: none
Main exports:
  isFresh_of_build, kept_of_build, HidesChange, hidesChange_of_outdated, current_of_build_iff,
  copies_current_iff, copies_current_of_sample, copy_outdated_of_sample,
  copies_current_of_microseconds
-/
import StaticSite.Proofs.FileTime
import StaticSite.Proofs.Site.Histories

namespace StaticSite.Site

open Text FileTree

variable {directories : Directories} {config : BuildConfig} {current location : Location}
  {past : List (FileTree × Event)} {start tree : FileTree} {event : Event} {now : Int}
  {bytes : ByteArray} {modified : Int} {entry : Entry}

/-! ### A build that succeeds -/

section

variable {result : BuildResult} (wellFormed : tree.WellFormed)
  (succeeded : (build tree now current config).outcome = .ok result)
  (undisturbed : Undisturbed (Directories.of current config) config ((tree, .built now) :: past))
  (asset : location ∈ (Directories.of current config).assets tree)

include wellFormed succeeded undisturbed asset

/-- What is at the target of an asset after copying stays there. -/
theorem target_of_build :
    (build tree now current config).tree.get?
        ((Directories.of current config).assetTarget location).parts =
          some (.file bytes modified) ↔
      (copying (Directories.of current config) tree now).tree.get?
        ((Directories.of current config).assetTarget location).parts =
          some (.file bytes modified) := by
  have becomes := writing_becomes (Directories.of current config) config wellFormed now
  rw [build_tree_of_ok succeeded]
  refine becomes.file_iff ?_
  rintro entry ⟨artefact, written, place, -⟩
  exact undisturbed.untouched asset _ last_mem_buildsOf artefact written place.symm

/-- A build that succeeds leaves a fresh copy of each asset that it finds, unless a script file
or a page has been written over it. -/
theorem isFresh_of_build :
    IsFresh (Directories.of current config) (build tree now current config).tree location := by
  have straight := Directories.straight_output current config
  have run : (tree, now) ∈ buildsOf ((tree, .built now) :: past) := last_mem_buildsOf
  have isPlace := ((Directories.mem_assets_iff_isAssetPlace wellFormed).mp asset).1
  obtain ⟨_, -, copied, -⟩ := build_eq_ok_iff.mp succeeded
  obtain ⟨bytes, modified, held, time, isSource, isHeld, newer⟩ :=
    isFresh_of_copying wellFormed straight (undisturbed.free _ run) copied location asset
  refine ⟨bytes, modified, held, time, ?_,
    (target_of_build wellFormed succeeded undisturbed asset).mpr isHeld, newer⟩
  have becomes := writing_becomes (Directories.of current config) config wellFormed now
  rw [build_tree_of_ok succeeded]
  refine (becomes.file_iff fun entry filled => ?_).mpr isSource
  exact unwritten_of_isAssetPlace wellFormed straight (undisturbed.scripts _ run) isPlace entry
    (.inr filled)

/-- A fresh copy that such a build finds is there afterwards. -/
theorem kept_of_build (fresh : IsFresh (Directories.of current config) tree location)
    (isHeld : tree.get? ((Directories.of current config).assetTarget location).parts =
      some (.file bytes modified)) :
    (build tree now current config).tree.get?
      ((Directories.of current config).assetTarget location).parts =
        some (.file bytes modified) := by
  obtain ⟨_, -, copied, -⟩ := build_eq_ok_iff.mp succeeded
  rw [target_of_build wellFormed succeeded undisturbed asset, ← isHeld]
  exact kept_of_copying wellFormed (Directories.straight_output current config) asset fresh copied

end

/-! ### Changes that are not seen -/

/-- A change of the asset that is not seen: at its target a file is found that has stood at its
place, with other bytes, and earlier, but at a time that is the same floating-point number. -/
def HidesChange (directories : Directories) (past : List (FileTree × Event))
    (tree found : FileTree) (asset : Location) : Prop :=
  ∃ bytes modified held copied, found.get? asset = some (.file bytes modified) ∧
    found.get? (directories.assetTarget asset).parts = some (.file held copied) ∧
    Version past tree asset (.file held copied) ∧ held ≠ bytes ∧
    copied < modified ∧ FileTime.seconds copied = FileTime.seconds modified

theorem HidesChange.isFresh {found : FileTree}
    (hides : HidesChange directories past tree found location) :
    IsFresh directories found location := by
  obtain ⟨bytes, modified, held, copied, isSource, isHeld, -, -, -, same⟩ := hides
  exact ⟨bytes, modified, held, copied, isSource, isHeld, same.ge⟩

theorem Version.later {later : List (FileTree × Event)} {final : FileTree}
    (version : Version past tree location entry) :
    Version (later ++ (tree, event) :: past) final location entry := by
  obtain ⟨seen, member, isSeen⟩ := version
  refine ⟨seen, ?_, isSeen⟩
  simp only [treesOf, List.mem_cons, List.map_append, List.map_cons, List.mem_append] at member ⊢
  exact .inr (.inr member)

section

variable (later : List (FileTree × Event)) (final : FileTree)
  (traced : Traced (Directories.of current config) config past tree)
  (undisturbed : Undisturbed (Directories.of current config) config ((tree, .built now) :: past))
  (asset : location ∈ (Directories.of current config).assets tree)

include traced undisturbed asset

/-- A fresh copy that is not what the asset is has been found by the build: it is an earlier state
of the asset, and its time does not show that. -/
theorem hidesChange_of_outdated {held : ByteArray} {copied : Int}
    (isFound : tree.get? location = some (.file bytes modified))
    (isHeld : (build tree now current config).tree.get?
      ((Directories.of current config).assetTarget location).parts = some (.file held copied))
    (fresh : FileTime.seconds modified ≤ FileTime.seconds copied) (differs : held ≠ bytes) :
    HidesChange (Directories.of current config) (later ++ (tree, .built now) :: past) final tree
      location := by
  have wellFormed := traced.wellFormed tree List.mem_cons_self
  have isPlace := ((Directories.mem_assets_iff_isAssetPlace wellFormed).mp asset).1
  have untouched := undisturbed.untouched asset
  rcases copy_of_build wellFormed isPlace (undisturbed.free _ last_mem_buildsOf)
    (untouched _ last_mem_buildsOf) isHeld with foundHeld | foundSource
  · obtain ⟨version, earlier | ⟨-, same⟩⟩ := traced.copy_cases isPlace
      (untouched.mono (List.subset_cons_self _ _)) isFound foundHeld
    · have sameSeconds := (FileTime.seconds_mono earlier.le).antisymm fresh
      exact ⟨bytes, modified, held, copied, isFound, foundHeld, version.later, differs, earlier,
        sameSeconds⟩
    · exact absurd same differs
  -- A copy that has just been made is what the asset is.
  · rw [isFound] at foundSource
    cases foundSource
    exact absurd rfl differs

/-- A build that succeeds leaves a copy of the asset as it is, unless it does not see that the
asset has changed. -/
theorem current_of_build_iff {result : BuildResult}
    (outputNamed : ∀ name ∈ (Directories.of current config).output, IsFileName name)
    (succeeded : (build tree now current config).outcome = .ok result) :
    ∃ bytes, tree.contents (Path.ofLocation location) = .ok bytes ∧
      (build tree now current config).tree.contents (Path.ofLocation location) = .ok bytes ∧
      ((build tree now current config).tree.contents
          ((Directories.of current config).assetTarget location) = .ok bytes ↔
        ¬ HidesChange (Directories.of current config) (later ++ (tree, .built now) :: past) final
          tree location) := by
  have wellFormed := traced.wellFormed tree List.mem_cons_self
  have wellFormedAfter := wellFormed_build wellFormed outputNamed now
  have isPlace := ((Directories.mem_assets_iff_isAssetPlace wellFormed).mp asset).1
  obtain ⟨bytes, modified, held, copied, isSource, isHeld, fresh⟩ :=
    isFresh_of_build wellFormed succeeded undisturbed asset
  have isFound :=
    (source_of_build wellFormed (undisturbed.scripts _ last_mem_buildsOf) isPlace).mp isSource
  refine ⟨bytes, wellFormed.contents_eq isFound, wellFormedAfter.contents_eq isSource, ?_⟩
  rw [wellFormedAfter.contents_eq isHeld]
  constructor
  · intro same hides
    have found := hides.isFresh
    obtain ⟨_, _, stale, _, foundSource, foundHeld, -, differs, -⟩ := hides
    have kept := kept_of_build wellFormed succeeded undisturbed asset found foundHeld
    rw [isHeld] at kept
    rw [isFound] at foundSource
    cases kept
    cases foundSource
    exact differs (Except.ok.inj same)
  · intro seen
    by_contra differs
    apply seen
    apply hidesChange_of_outdated later final traced undisturbed asset isFound isHeld fresh
    exact fun same => differs (congrArg _ same)

end

/-! ### All builds of a history -/

/-- Before each build of a history, what is known of it holds. -/
theorem traced_of_run {run : FileTree × Int} (wellFormed : start.WellFormed)
    (outputNamed : ∀ name ∈ (Directories.of current config).output, IsFileName name)
    (empty : HasNothingIn start (Directories.of current config).output)
    (history : History current config start past tree)
    (undisturbed : Undisturbed (Directories.of current config) config past)
    (member : run ∈ buildsOf past) :
    ∃ later earlier, past = later ++ (run.1, .built run.2) :: earlier ∧
      Traced (Directories.of current config) config earlier run.1 ∧
      Undisturbed (Directories.of current config) config ((run.1, .built run.2) :: earlier) := by
  obtain ⟨later, earlier, rfl, before⟩ := history.before (mem_buildsOf.mp member)
  have sofar := undisturbed.mono (List.subset_append_right later _)
  have traced := Traced.of_history wellFormed outputNamed empty before
    (sofar.mono (List.subset_cons_self _ _))
  exact ⟨later, earlier, rfl, traced, sofar⟩

/-- Whatever has happened to the assets of a site between its builds, after each build that
succeeds the target of an asset that it has found is a file with the bytes of the asset, unless
the build has found an earlier state of the asset there whose time is the same floating-point number
of seconds. -/
theorem copies_current_iff (wellFormed : start.WellFormed)
    (outputNamed : ∀ name ∈ (Directories.of current config).output, IsFileName name)
    (empty : HasNothingIn start (Directories.of current config).output)
    (history : History current config start past tree)
    (undisturbed : Undisturbed (Directories.of current config) config past) :
    ∀ run ∈ buildsOf past, ∀ result, (build run.1 run.2 current config).outcome = .ok result →
      ∀ asset ∈ (Directories.of current config).assets run.1, ∃ bytes,
        run.1.contents (Path.ofLocation asset) = .ok bytes ∧
        (build run.1 run.2 current config).tree.contents (Path.ofLocation asset) = .ok bytes ∧
        ((build run.1 run.2 current config).tree.contents
            ((Directories.of current config).assetTarget asset) = .ok bytes ↔
          ¬ HidesChange (Directories.of current config) past tree run.1 asset) := by
  intro run member result succeeded asset isAsset
  obtain ⟨later, earlier, rfl, traced, sofar⟩ :=
    traced_of_run wellFormed outputNamed empty history undisturbed member
  exact current_of_build_iff later tree traced sofar isAsset outputNamed succeeded

/-- A page and an asset that was last changed at a whole second. -/
def datedPage : FileTree :=
  styledPage.insert ["site", "style.css"] (.file (encode "p {}") 1700000000000000000)

/-- That site with another text for its asset. -/
def restyled (tree : FileTree) (text : String) (modified : Int) : FileTree :=
  tree.insert ["site", "style.css"] (.file (encode text) modified)

/-- That site after a build. -/
def rebuilt (tree : FileTree) (now : Int) : FileTree :=
  (build tree now [] (siteConfig "/scripts/")).tree

/-- That site as its second build finds it: the asset has been written a hundred nanoseconds
later. -/
def secondFound : FileTree :=
  restyled (rebuilt datedPage 1700000000000000050) "b {}" 1700000000000000100

/-- That site as its third build finds it: the asset has been written two seconds later. -/
def thirdFound : FileTree :=
  restyled (rebuilt secondFound 1700000001000000000) "c {}" 1700000002000000000

/-- What has happened to that site. -/
def restyledPast : List (FileTree × Event) :=
  [ (thirdFound, .built 1700000003000000000),
    (rebuilt secondFound 1700000001000000000,
      .saved ["site", "style.css"] (encode "c {}") 1700000002000000000),
    (secondFound, .built 1700000001000000000),
    (rebuilt datedPage 1700000000000000050,
      .saved ["site", "style.css"] (encode "b {}") 1700000000000000100),
    (datedPage, .built 1700000000000000050) ]

theorem restyledPast_history :
    History [] (siteConfig "/scripts/") datedPage restyledPast
      (rebuilt thirdFound 1700000003000000000) := by
  have first : History [] (siteConfig "/scripts/") datedPage (restyledPast.drop 4)
      (rebuilt datedPage 1700000000000000050) :=
    History.start.built _
  have second : History [] (siteConfig "/scripts/") datedPage (restyledPast.drop 3) secondFound :=
    first.saved (by decide)
      (by decide +kernel : _ = (rebuilt datedPage 1700000000000000050, none))
      (by decide +kernel) (by decide +kernel) (by decide +kernel)
  have third : History [] (siteConfig "/scripts/") datedPage (restyledPast.drop 1) thirdFound :=
    (second.built _).saved (by decide)
      (by decide +kernel : _ = (rebuilt secondFound 1700000001000000000, none))
      (by decide +kernel) (by decide +kernel) (by decide +kernel)
  exact third.built _

theorem restyledPast_undisturbed :
    Undisturbed (Directories.of [] (siteConfig "/scripts/")) (siteConfig "/scripts/")
      restyledPast := by
  decide +kernel

/-- The third build copies the asset as it is now, although the copy that it finds is outdated. -/
theorem copies_current_of_sample :
    datedPage.WellFormed ∧
    (∀ name ∈ (Directories.of [] (siteConfig "/scripts/")).output, IsFileName name) ∧
    HasNothingIn datedPage (Directories.of [] (siteConfig "/scripts/")).output ∧
    History [] (siteConfig "/scripts/") datedPage restyledPast
      (rebuilt thirdFound 1700000003000000000) ∧
    Undisturbed (Directories.of [] (siteConfig "/scripts/")) (siteConfig "/scripts/")
      restyledPast ∧
    (build thirdFound 1700000003000000000 [] (siteConfig "/scripts/")).outcome =
      .ok styledResult ∧
    (rebuilt thirdFound 1700000003000000000).contents
      (Path.ofLocation ["site", "out", "style.css"]) = .ok (encode "c {}") := by
  have wellFormed : datedPage.WellFormed := by decide
  have outputNamed : ∀ name ∈ (Directories.of [] (siteConfig "/scripts/")).output,
      IsFileName name := by
    decide
  have empty : HasNothingIn datedPage (Directories.of [] (siteConfig "/scripts/")).output := by
    decide
  have succeeded : (build thirdFound 1700000003000000000 [] (siteConfig "/scripts/")).outcome =
      .ok styledResult := by
    decide +kernel
  have isAsset : ["site", "style.css"] ∈
      (Directories.of [] (siteConfig "/scripts/")).assets thirdFound := by
    decide +kernel
  have saved : thirdFound.contents (Path.ofLocation ["site", "style.css"]) =
      .ok (encode "c {}") := by
    decide +kernel
  obtain ⟨bytes, isSource, -, current⟩ := copies_current_iff wellFormed outputNamed empty
    restyledPast_history restyledPast_undisturbed (thirdFound, 1700000003000000000)
    List.mem_cons_self styledResult succeeded _ isAsset
  obtain rfl := Except.ok.inj (isSource.symm.trans saved)
  refine ⟨wellFormed, outputNamed, empty, restyledPast_history, restyledPast_undisturbed, succeeded,
    current.mpr ?_⟩
  rintro ⟨_, modified, _, copied, foundSource, foundHeld, -, -, -, same⟩
  have sourceTime : thirdFound.get? ["site", "style.css"] =
      some (.file (encode "c {}") 1700000002000000000) := by
    decide +kernel
  have copyTime : thirdFound.get? ["site", "out", "style.css"] =
      some (.file (encode "p {}") 1700000000000000000) := by
    decide +kernel
  cases foundSource.symm.trans sourceTime
  cases foundHeld.symm.trans copyTime
  exact absurd same (by decide +kernel)

/-- The second build succeeds and copies nothing: the asset is newer than its copy, but by less
than a floating-point number of seconds shows. -/
theorem copy_outdated_of_sample :
    datedPage.WellFormed ∧
    (∀ name ∈ (Directories.of [] (siteConfig "/scripts/")).output, IsFileName name) ∧
    HasNothingIn datedPage (Directories.of [] (siteConfig "/scripts/")).output ∧
    History [] (siteConfig "/scripts/") datedPage restyledPast
      (rebuilt thirdFound 1700000003000000000) ∧
    Undisturbed (Directories.of [] (siteConfig "/scripts/")) (siteConfig "/scripts/")
      restyledPast ∧
    (secondFound, 1700000001000000000) ∈ buildsOf restyledPast ∧
    (build secondFound 1700000001000000000 [] (siteConfig "/scripts/")).outcome.toOption.map
      BuildResult.assets = some [] ∧
    ["site", "style.css"] ∈ (Directories.of [] (siteConfig "/scripts/")).assets secondFound ∧
    (rebuilt secondFound 1700000001000000000).contents (Path.ofLocation ["site", "style.css"]) =
      .ok (encode "b {}") ∧
    (rebuilt secondFound 1700000001000000000).contents
      (Path.ofLocation ["site", "out", "style.css"]) = .ok (encode "p {}") := by
  refine ⟨by decide, by decide, by decide, restyledPast_history, restyledPast_undisturbed,
    by simp [buildsOf, restyledPast], ?_⟩
  decide +kernel

/-- If the times of the files that have stood at the place of an asset are, from 1970 up to the
year 2242, at least a microsecond apart, then all copies are what the assets are. -/
theorem copies_current_of_microseconds (wellFormed : start.WellFormed)
    (outputNamed : ∀ name ∈ (Directories.of current config).output, IsFileName name)
    (empty : HasNothingIn start (Directories.of current config).output)
    (history : History current config start past tree)
    (undisturbed : Undisturbed (Directories.of current config) config past)
    (apart : ∀ location, (Directories.of current config).IsAssetPlace location →
      ∀ bytes modified other time, Version past tree location (.file bytes modified) →
        Version past tree location (.file other time) → modified < time →
          0 ≤ modified ∧ modified + 1000 ≤ time ∧ time < 2 ^ 33 * FileTime.perSecond) :
    ∀ run ∈ buildsOf past, ∀ result, (build run.1 run.2 current config).outcome = .ok result →
      ∀ asset ∈ (Directories.of current config).assets run.1, ∃ bytes,
        run.1.contents (Path.ofLocation asset) = .ok bytes ∧
        (build run.1 run.2 current config).tree.contents
          ((Directories.of current config).assetTarget asset) = .ok bytes := by
  intro run member result succeeded asset isAsset
  obtain ⟨later, earlier, rfl, traced, sofar⟩ :=
    traced_of_run wellFormed outputNamed empty history undisturbed member
  obtain ⟨bytes, isFound, -, current⟩ :=
    current_of_build_iff later tree traced sofar isAsset outputNamed succeeded
  refine ⟨bytes, isFound, current.mpr ?_⟩
  rintro ⟨_, modified, _, copied, isSource, -, version, -, earlierTime, same⟩
  have wellFormedFound := traced.wellFormed run.1 List.mem_cons_self
  have isPlace := ((Directories.mem_assets_iff_isAssetPlace wellFormedFound).mp isAsset).1
  obtain ⟨positive, order, bounded⟩ :=
    apart asset isPlace _ copied _ modified version (version_now isSource).later earlierTime
  exact (FileTime.seconds_lt_of_microsecond positive order bounded).ne same

end StaticSite.Site
