/-
Module: StaticSite.Proofs.Site.Rebuilding
Purpose: Building a site twice.  What the first build has put into the output directory is no
  source of the second one, all copies are up to date, and every script file and page is written
  over itself.
Trusted boundary: none
Main exports:
  Directories.sources_eq, Directories.assets_eq, putAll_of_upToDate, putAll_of_standing,
  sameBytes_of_written_twice, Completed.isFresh, Completed.again, build_again,
  build_again_of_sample
-/
import StaticSite.Proofs.FileTime
import StaticSite.Proofs.Files.Comparison
import StaticSite.Proofs.Site.CopiesKept
import StaticSite.Proofs.Site.Freshness
import StaticSite.Proofs.Site.Phases

namespace StaticSite.Site

open Text FileTree

variable {tree other after : FileTree} {now : Int} {current location : Location}
  {config : BuildConfig} {directories : Directories} {result : BuildResult}
  {products : Products} {artefact : Artefact} {artefacts rest : List Artefact}
  {bytes : ByteArray} {text : String}

/-! ### Sources and assets -/

namespace Directories

/-- The sources depend on nothing in the output directory. -/
theorem sources_eq (wellFormed : tree.WellFormed) (otherWellFormed : other.WellFormed)
    (same : ∀ location, directories.isOutput location = false → ∀ bytes modified,
      (tree.get? location = some (.file bytes modified) ↔
        other.get? location = some (.file bytes modified))) :
    directories.sources tree = directories.sources other := by
  apply wellFormed.filter_filesBelow_eq otherWellFormed
    (fun location => directories.isSource location && !directories.isOutput location)
  intro location kept
  simp only [Bool.and_eq_true, Bool.not_eq_true'] at kept
  exact same location kept.2

/-- Nor do the assets. -/
theorem assets_eq (wellFormed : tree.WellFormed) (otherWellFormed : other.WellFormed)
    (same : ∀ location, directories.isOutput location = false → ∀ bytes modified,
      (tree.get? location = some (.file bytes modified) ↔
        other.get? location = some (.file bytes modified))) :
    directories.assets tree = directories.assets other := by
  rw [assets, assets, List.filter_map, List.filter_map]
  apply congrArg (List.map Prod.fst)
  apply wellFormed.filter_filesBelow_eq otherWellFormed
    (fun location => !directories.isSource location && !directories.isOutput location)
  intro location kept
  simp only [Bool.and_eq_true, Bool.not_eq_true'] at kept
  exact same location kept.2

end Directories

/-! ### Putting artefacts where they are already -/

/-- Nothing is done for artefacts that are up to date. -/
theorem putAll_of_upToDate (now : Int)
    (upToDate : ∀ artefact ∈ artefacts, artefact.isUpToDate tree = true) :
    putAll now tree artefacts = ⟨tree, [], none⟩ := by
  induction artefacts with
  | nil => rfl
  | cons artefact rest inductionHypothesis =>
      rw [List.forall_mem_cons] at upToDate
      rw [putAll, if_pos upToDate.1]
      exact inductionHypothesis upToDate.2

/-- When artefacts with texts have been put in place, there are files at all of their paths. -/
theorem contents_of_placed (texts : AreTexts artefacts)
    (succeeded : (putAll now tree artefacts).error = none) :
    ∀ artefact ∈ artefacts, ∃ bytes,
      (putAll now tree artefacts).tree.contents artefact.target = .ok bytes := by
  induction artefacts generalizing tree with
  | nil => exact List.forall_mem_nil _
  | cons artefact rest inductionHypothesis =>
      obtain ⟨text, isText⟩ := texts artefact List.mem_cons_self
      have others : AreTexts rest := fun other member => texts other (List.mem_cons_of_mem _ member)
      obtain ⟨after, isPut, run⟩ := put_of_texts texts succeeded
      rw [run] at succeeded ⊢
      refine List.forall_mem_cons.mpr ⟨?_, inductionHypothesis others succeeded⟩
      obtain ⟨middle, -, ⟨cause, failed⟩ | ⟨after', placed, isPut'⟩⟩ :=
        Artefact.put_cases now tree artefact
      · cases isPut.symm.trans failed
      · cases isPut.symm.trans isPut'
        rw [Artefact.place_of_text isText] at placed
        exact (putAll_texts_becomes now after others).contents_after (contents_of_write placed)

/-- An artefact is put over the file that is at its path: no directory has to be made. -/
theorem put_of_standing (now : Int) (wellFormed : tree.WellFormed)
    (isText : artefact.text? = some text)
    (standing : tree.contents artefact.target = .ok bytes) :
    ∃ modified, tree.get? artefact.location = some (.file bytes modified) ∧
      artefact.put now tree = (tree.insert artefact.location (.file (encode text) now), none) := by
  obtain ⟨place, modified, found, isFile⟩ := contents_eq_ok_iff.mp standing
  have here : place = artefact.location := by
    rw [locate_eq_walk found, Artefact.location_eq]
  have below : place ≠ [] := by
    rintro rfl
    cases isFile
  have made := makeDirectories_of_isDirectory (wellFormed.isDirectory_parent found below)
  have written : tree.write artefact.target (encode text) now =
      .ok (tree.insert place (.file (encode text) now)) :=
    write_eq_ok_iff.mpr ⟨place, found, by simp [isFile], rfl⟩
  refine ⟨modified, here ▸ isFile, ?_⟩
  rw [Artefact.put, made]
  dsimp only
  rw [Artefact.place_of_text isText, written, here]

/-- Artefacts whose paths all lead to files can be put in place again, and nothing but these
files changes. -/
theorem putAll_of_standing (now : Int) (texts : AreTexts artefacts) (wellFormed : tree.WellFormed)
    (standing : ∀ artefact ∈ artefacts, ∃ bytes, tree.contents artefact.target = .ok bytes) :
    (putAll now tree artefacts).error = none ∧
      Becomes (fun _ => False)
        (fun location entry => ∃ artefact ∈ artefacts, artefact.Fills now location entry)
        tree (putAll now tree artefacts).tree := by
  induction artefacts generalizing tree with
  | nil => exact ⟨rfl, .refl _ _ tree⟩
  | cons artefact rest inductionHypothesis =>
      obtain ⟨text, isText⟩ := texts artefact List.mem_cons_self
      have others : AreTexts rest := fun other member => texts other (List.mem_cons_of_mem _ member)
      obtain ⟨bytes, here⟩ := standing artefact List.mem_cons_self
      obtain ⟨modified, isFile, isPut⟩ := put_of_standing now wellFormed isText here
      have step : Becomes (fun _ => False) (artefact.Fills now) tree
          (tree.insert artefact.location (.file (encode text) now)) :=
        .of_file (by simp [isFile]) ⟨rfl, text, isText, rfl⟩
      obtain ⟨succeeded, becomes⟩ := inductionHypothesis others (wellFormed.replace isFile _)
        fun other member => by
          obtain ⟨bytes, standing⟩ := standing other (List.mem_cons_of_mem _ member)
          exact step.contents_after standing
      rw [putAll, Artefact.not_isUpToDate_of_text isText, if_neg Bool.false_ne_true, isPut]
      refine ⟨succeeded, (step.mono (fun _ => id) ?_).trans (becomes.mono (fun _ => id) ?_)⟩
      · exact fun _ _ filled => ⟨artefact, List.mem_cons_self, filled⟩
      · rintro _ _ ⟨other, member, filled⟩
        exact ⟨other, List.mem_cons_of_mem _ member, filled⟩

/-- Writing the same texts again changes no bytes. -/
theorem sameBytes_of_written_twice (later : Int) (texts : AreTexts artefacts)
    (succeeded : (putAll now tree artefacts).error = none)
    (wellFormed : (putAll now tree artefacts).tree.WellFormed) :
    (putAll later (putAll now tree artefacts).tree artefacts).error = none ∧
      SameBytes (putAll later (putAll now tree artefacts).tree artefacts).tree
        (putAll now tree artefacts).tree := by
  obtain ⟨again, becomes⟩ :=
    putAll_of_standing later texts wellFormed (contents_of_placed texts succeeded)
  refine ⟨again, fun location => ?_⟩
  -- Both times the last text for a place is what comes to be there; other places are not touched.
  cases last : lastText? artefacts location with
  | some text =>
      rw [get?_of_lastText? texts succeeded last, get?_of_lastText? texts again last]
      rfl
  | none =>
      have unwritten : ∀ entry, ¬ ∃ artefact ∈ artefacts, artefact.Fills later location entry := by
        rintro entry ⟨artefact, member, filled⟩
        exact not_fills_of_no_text last member filled
      rw [(becomes location).eq_of_untouched id unwritten]

/-! ### What is reported -/

theorem filterMap_append_of_copies {f : Artefact → Option Path}
    (skips : ∀ source target, f (.asset source target) = none)
    (areCopies : ∀ artefact ∈ artefacts, artefact.text? = none) :
    (artefacts ++ rest).filterMap f = rest.filterMap f := by
  have nothing : artefacts.filterMap f = [] := by
    refine List.filterMap_eq_nil_iff.mpr fun artefact member => ?_
    cases artefact with
    | asset source target => exact skips source target
    | bundle => cases areCopies _ member
    | page => cases areCopies _ member
  rw [List.filterMap_append, nothing, List.nil_append]

theorem assets_of_texts (texts : AreTexts artefacts) (skipped : List Path) :
    (BuildResult.mk artefacts skipped).assets = [] := by
  refine List.filterMap_eq_nil_iff.mpr fun artefact member => ?_
  obtain ⟨text, isText⟩ := texts artefact member
  cases artefact with
  | asset => cases isText
  | bundle => rfl
  | page => rfl

theorem target_mem_of_text (isText : artefact.text? = some text)
    (reported : artefact ∈ result.artefacts) :
    artefact.target ∈ result.bundles ++ result.pages := by
  rw [List.mem_append, BuildResult.bundles, BuildResult.pages, List.mem_filterMap,
    List.mem_filterMap]
  cases artefact with
  | asset => cases isText
  | bundle => exact .inl ⟨_, reported, rfl⟩
  | page => exact .inr ⟨_, reported, rfl⟩

/-! ### After a build that succeeds -/

namespace Completed

variable (completed : Completed tree now directories config result products after)

include completed

theorem text?_of_copied : ∀ artefact ∈ (copying directories tree now).written,
    artefact.text? = none := by
  intro artefact written
  obtain ⟨location, -, rfl, -⟩ := completed.copies written
  rfl

theorem bundles_eq (skipped : List Path) :
    (BuildResult.mk products.artefacts skipped).bundles = result.bundles := by
  rw [BuildResult.bundles, BuildResult.bundles, completed.reported,
    filterMap_append_of_copies (fun _ _ => rfl) completed.text?_of_copied]

theorem pages_eq (skipped : List Path) :
    (BuildResult.mk products.artefacts skipped).pages = result.pages := by
  rw [BuildResult.pages, BuildResult.pages, completed.reported,
    filterMap_append_of_copies (fun _ _ => rfl) completed.text?_of_copied]

/-- What is reported to be inside has been written there. -/
theorem inside_of_reported
    (inside : ∀ path ∈ result.bundles ++ result.pages,
      directories.isOutput (path.resolveParts []) = true) :
    ∀ artefact ∈ products.artefacts, directories.isOutput artefact.location = true := by
  intro artefact member
  obtain ⟨text, isText⟩ := completed.texts artefact member
  refine inside _ (target_mem_of_text isText ?_)
  rw [completed.reported]
  exact List.mem_append_right _ member

variable
  (inside : ∀ artefact ∈ products.artefacts, directories.isOutput artefact.location = true)

include inside

/-- A build that stays inside leaves the files outside alone. -/
theorem file_kept_outside (outside : directories.isOutput location = false) (bytes : ByteArray)
    (modified : Int) :
    after.get? location = some (.file bytes modified) ↔
      tree.get? location = some (.file bytes modified) := by
  refine completed.file_outside_iff outside ?_
  rintro path written rfl
  rw [completed.forall_written_iff.mpr inside path written] at outside
  cases outside

/-- The copies of assets that are not from the future are fresh: scripts and pages are written
later than assets. -/
theorem isFresh (free : ∀ asset ∈ directories.assets tree,
      tree.isDirectory (directories.assetTarget asset) = false)
    (past : ∀ asset ∈ directories.assets tree,
      ∀ modified ∈ tree.modified? (Path.ofLocation asset), modified ≤ now) :
    ∀ asset ∈ directories.assets tree, IsFresh directories after asset := by
  intro asset isAsset
  obtain ⟨bytes, modified, held, copied, isSource, isHeld, newer⟩ :=
    isFresh_of_copying completed.wellFormed completed.straight free completed.copied asset isAsset
  have kept := source_kept completed.wellFormed isAsset
    (copying_becomes completed.wellFormed completed.straight now)
  rw [isSource] at kept
  have outside :=
    ((Directories.mem_assets_iff_isAssetPlace completed.wellFormed).mp isAsset).1.2.2
  have sourceAfter := (completed.file_kept_outside inside outside bytes modified).mpr kept.symm
  -- What is written over a copy has the time of the build, and assets are not newer than that.
  rcases (completed.becomes _).file_after isHeld with same | ⟨entry, written, _, -, -, _, -, rfl⟩
  · exact ⟨bytes, modified, held, copied, sourceAfter, same, newer⟩
  · have time : tree.modified? (Path.ofLocation asset) = some modified :=
      completed.wellFormed.modified?_eq kept.symm
    exact ⟨bytes, modified, _, now, sourceAfter, written,
      FileTime.seconds_mono (past asset isAsset modified time)⟩

end Completed

/-! ### Building again -/

/-- A second build finds what the first one has found, has nothing to copy, and writes all that
is there over itself. -/
theorem Completed.again
    (completed : Completed tree now (Directories.of current config) config result products after)
    (wellFormed : after.WellFormed)
    (read : (Sources.read (Directories.of current config) tree).2 = none)
    (sameSources : (Directories.of current config).sources after =
      (Directories.of current config).sources tree)
    (sameAssets : (Directories.of current config).assets after =
      (Directories.of current config).assets tree)
    (fresh : ∀ asset ∈ (Directories.of current config).assets tree,
      IsFresh (Directories.of current config) after asset)
    (later : Int) :
    (build after later current config).outcome =
        .ok
          { artefacts := products.artefacts
            skipped :=
              (Sources.read (Directories.of current config) tree).1.skipped.map (·.path) } ∧
      SameBytes (build after later current config).tree after := by
  have readAgain : Sources.read (Directories.of current config) after =
      Sources.read (Directories.of current config) tree := by
    rw [Sources.read, Sources.read, sameSources]
  have copied : copying (Directories.of current config) after later = ⟨after, [], none⟩ := by
    refine putAll_of_upToDate later fun artefact member => ?_
    obtain ⟨asset, isAsset, rfl⟩ := List.mem_map.mp member
    rw [sameAssets] at isAsset
    exact isUpToDate_of_isFresh wellFormed (fresh asset isAsset)
  have produced : produce (Directories.of current config) config
      (Sources.read (Directories.of current config) after).1 = .ok products := by
    rw [readAgain, completed.produced]
  obtain ⟨placed, same⟩ := sameBytes_of_written_twice later completed.texts completed.placed
    (completed.left ▸ wellFormed)
  rw [← completed.left] at placed same
  have succeeded : (build after later current config).outcome =
      .ok
        { artefacts := products.artefacts
          skipped :=
            (Sources.read (Directories.of current config) tree).1.skipped.map (·.path) } := by
    refine build_eq_ok_iff.mpr ⟨products, ?_, ?_, produced, ?_, ?_⟩
    · rw [readAgain, read]
    · rw [copied]
    · rw [copied, placed]
    · rw [copied, readAgain, written_of_texts completed.texts placed, List.nil_append]
  refine ⟨succeeded, ?_⟩
  rw [build_tree_of_ok succeeded, writing, toWrite_of_ok (by rw [readAgain, read])
    (by rw [copied]) produced, copied]
  exact same

/-- When a build has succeeded, with no asset from the future, no directory at the target of an
asset, and all script files and pages inside of the output directory, then another build
succeeds at any later time.  It finds the same sources and assets, copies nothing, reports the
same script files and pages and skips the same pages; and nothing that can be read changes. -/
theorem build_again (wellFormed : tree.WellFormed)
    (outputNamed : ∀ name ∈ (Directories.of current config).output, IsFileName name)
    (succeeded : (build tree now current config).outcome = .ok result)
    (past : ∀ asset ∈ (Directories.of current config).assets tree,
      ∀ modified ∈ tree.modified? (Path.ofLocation asset), modified ≤ now)
    (free : ∀ asset ∈ (Directories.of current config).assets tree,
      tree.isDirectory ((Directories.of current config).assetTarget asset) = false)
    (inside : ∀ path ∈ result.bundles ++ result.pages,
      (Directories.of current config).isOutput (path.resolveParts []) = true)
    (later : Int) :
    (Directories.of current config).sources (build tree now current config).tree =
        (Directories.of current config).sources tree ∧
      (Directories.of current config).assets (build tree now current config).tree =
        (Directories.of current config).assets tree ∧
      ∃ again,
        (build (build tree now current config).tree later current config).outcome = .ok again ∧
        again.assets = [] ∧ again.bundles = result.bundles ∧ again.pages = result.pages ∧
        again.skipped = result.skipped ∧
        ∀ path,
          (build (build tree now current config).tree later current config).tree.contents path =
            (build tree now current config).tree.contents path := by
  have wellFormedAfter := wellFormed_build wellFormed outputNamed now
  obtain ⟨products, completed⟩ := completed_of_ok wellFormed succeeded
  obtain ⟨_, read, -, -, -, shape⟩ := build_eq_ok_iff.mp succeeded
  have insideAll := completed.inside_of_reported inside
  have kept : ∀ location, (Directories.of current config).isOutput location = false →
      ∀ bytes modified, (_ ↔ tree.get? location = some (.file bytes modified)) :=
    fun location outside => completed.file_kept_outside insideAll outside
  have sameSources := Directories.sources_eq wellFormedAfter wellFormed kept
  have sameAssets := Directories.assets_eq wellFormedAfter wellFormed kept
  obtain ⟨again, same⟩ := completed.again wellFormedAfter read sameSources sameAssets
    (completed.isFresh insideAll free past) later
  refine ⟨sameSources, sameAssets, _, again, assets_of_texts completed.texts _,
    completed.bundles_eq _, completed.pages_eq _, ?_, same.contents_eq⟩
  rw [shape]

/-- A page that uses a fragment with a script, and an asset.  All of this is in the directory
that the output directory is in as well. -/
def wholeSite : FileTree :=
  siteOf []
    [ (["index.html"], "<!DOCTYPE html><x-card></x-card>"),
      (["x-card.html"], "<p>Card</p><script>card()</script>"), (["style.css"], "p {}") ]

/-- What the build of that site reports. -/
def wholeResult : BuildResult where
  artefacts :=
    .asset (Path.ofLocation ["site", "style.css"]) (Path.ofLocation ["site", "out", "style.css"])
      :: scriptedResult.artefacts
  skipped := []

/-- When that site is built again, nothing is copied, and everything stays. -/
theorem build_again_of_sample :
    wholeSite.WellFormed ∧
    (build wholeSite 9 [] (siteConfig "/scripts/")).outcome = .ok wholeResult ∧
    wholeResult.assets = [Path.ofLocation ["site", "out", "style.css"]] ∧
    ∃ again,
      (build (build wholeSite 9 [] (siteConfig "/scripts/")).tree 10 []
          (siteConfig "/scripts/")).outcome = .ok again ∧
      again.assets = [] ∧ again.pages = wholeResult.pages ∧
      ∀ path,
        (build (build wholeSite 9 [] (siteConfig "/scripts/")).tree 10 []
            (siteConfig "/scripts/")).tree.contents path =
          (build wholeSite 9 [] (siteConfig "/scripts/")).tree.contents path := by
  have wellFormed : wholeSite.WellFormed := by decide
  have outputNamed : ∀ name ∈ (Directories.of [] (siteConfig "/scripts/")).output,
      IsFileName name := by
    decide
  have succeeded :
      (build wholeSite 9 [] (siteConfig "/scripts/")).outcome = .ok wholeResult := by
    decide +kernel
  have past : ∀ asset ∈ (Directories.of [] (siteConfig "/scripts/")).assets wholeSite,
      ∀ modified ∈ wholeSite.modified? (Path.ofLocation asset), modified ≤ 9 := by
    decide +kernel
  have free : ∀ asset ∈ (Directories.of [] (siteConfig "/scripts/")).assets wholeSite,
      wholeSite.isDirectory
        ((Directories.of [] (siteConfig "/scripts/")).assetTarget asset) = false := by
    decide +kernel
  have inside : ∀ path ∈ wholeResult.bundles ++ wholeResult.pages,
      (Directories.of [] (siteConfig "/scripts/")).isOutput (path.resolveParts []) = true := by
    decide +kernel
  obtain ⟨-, -, again, isAgain, noAssets, -, samePages, -, same⟩ :=
    build_again wellFormed outputNamed succeeded past free inside 10
  exact ⟨wellFormed, succeeded, by decide +kernel, again, isAgain, noAssets, samePages, same⟩

end StaticSite.Site
