/-
Module: StaticSite.Proofs.Site.CopiesKept
Purpose: What is left of the copies of assets when a build has succeeded.  A copy is as its
  source is, unless a directory has been at its target, which took it in, or a script file or a
  page has been written over it.
Trusted boundary: none
Main exports:
  copies_kept_iff, copies_kept_of_sample, copies_lost_of_sample
-/
import StaticSite.Proofs.Site.Endings

namespace StaticSite.Site

open Text FileTree

variable {tree after : FileTree} {now : Int} {current : Location} {config : BuildConfig}
  {directories : Directories} {result : BuildResult} {products : Products}
  {artefacts : List Artefact} {location : Location} {target : Path}

/-! ### Copies among the artefacts -/

theorem mem_reportedAssets_iff :
    target ∈ result.assets ↔ ∃ source, Artefact.asset source target ∈ result.artefacts := by
  rw [BuildResult.assets, List.mem_filterMap]
  constructor
  · rintro ⟨artefact, member, isTarget⟩
    cases artefact with
    | asset source path =>
        cases isTarget
        exact ⟨source, member⟩
    | bundle => cases isTarget
    | page => cases isTarget
  · rintro ⟨source, member⟩
    exact ⟨_, member, rfl⟩

/-- Copies have no text. -/
theorem lastText?_copies (areCopies : ∀ artefact ∈ artefacts, artefact.text? = none) :
    lastText? artefacts location = none := by
  rw [lastText?, List.findSome?_eq_none_iff]
  intro artefact member
  simp [areCopies artefact (List.mem_reverse.mp member)]

namespace Completed

variable (completed : Completed tree now directories config result products after)

include completed

/-- What is reported as an asset has been copied. -/
theorem copy_of_mem_assets (reported : target ∈ result.assets) :
    ∃ location ∈ directories.assets tree, target = directories.assetTarget location ∧
      (tree.isDirectory target = false →
        IsCopied directories tree (copying directories tree now).tree location) := by
  obtain ⟨source, member⟩ := mem_reportedAssets_iff.mp reported
  rw [completed.reported] at member
  rcases List.mem_append.mp member with isCopy | isText
  · obtain ⟨location, asset, isCopyOf, kept⟩ := completed.copies isCopy
    obtain rfl : target = directories.assetTarget location := (Artefact.asset.inj isCopyOf).2
    exact ⟨location, asset, rfl, kept⟩
  · obtain ⟨text, hasText⟩ := completed.texts _ isText
    cases hasText

/-- Among all that is reported, texts are those of script files and pages. -/
theorem lastText?_artefacts (location : Location) :
    lastText? result.artefacts location = lastText? products.artefacts location := by
  have none : lastText? (copying directories tree now).written location = none := by
    refine lastText?_copies fun artefact member => ?_
    obtain ⟨_, -, rfl, -⟩ := completed.copies member
    rfl
  rw [completed.reported, lastText?_append, none, Option.or_none]

/-! ### What is left of one copy -/

variable (asset : location ∈ directories.assets tree)

include asset

/-- A directory at the target is still there. -/
theorem contents_of_directory
    (isDirectory : tree.isDirectory (directories.assetTarget location) = true)
    (bytes : ByteArray) : after.contents (directories.assetTarget location) ≠ .ok bytes := by
  intro isFile
  have straightTarget := straight_assetTarget completed.wellFormed completed.straight asset
  obtain ⟨place, found, before⟩ := isDirectory_iff.mp isDirectory
  obtain ⟨place', modified, found', isFileAfter⟩ := contents_eq_ok_iff.mp isFile
  obtain ⟨rfl, -⟩ := (locate_straight_iff straightTarget).mp found
  obtain ⟨rfl, -⟩ := (locate_straight_iff straightTarget).mp found'
  have copied :=
    (copying_becomes completed.wellFormed completed.straight now _).directory_after before
  have written := (completed.becomes _).directory_after copied
  rw [isFileAfter] at written
  cases written

omit asset in
/-- A file at the target is the copy, or the text that has been written there last. -/
theorem contents_of_copied {bytes : ByteArray} {modified : Int}
    (isSource : tree.get? location = some (.file bytes modified))
    (copied : IsCopied directories tree (copying directories tree now).tree location) :
    after.contents (directories.assetTarget location) = .ok bytes ↔
      ∀ text, lastText? products.artefacts (directories.assetTarget location).parts = some text →
        encode text = bytes := by
  obtain ⟨found, same⟩ := copied
  rw [isSource] at same
  have foundAfter := completed.becomes.locate_after found
  cases last : lastText? products.artefacts (directories.assetTarget location).parts with
  | none =>
      have kept := file_of_no_text now completed.texts same last
      rw [← completed.left] at kept
      exact iff_of_true (contents_eq_ok_iff.mpr ⟨_, _, foundAfter, kept⟩) (by simp)
  | some text =>
      have written := get?_of_lastText? completed.texts completed.placed last
      rw [← completed.left] at written
      rw [contents_eq_ok_iff.mpr ⟨_, _, foundAfter, written⟩]
      simp

end Completed

/-! ### What is left of all copies -/

/-- When a build has succeeded, each path reported for an asset belongs to an asset, and leads
to a file that is as the asset exactly if there has been no directory before, and no text that
differs has been written there since. -/
theorem copies_kept_iff (wellFormed : tree.WellFormed)
    (succeeded : (build tree now current config).outcome = .ok result) :
    ∀ target ∈ result.assets, ∃ location ∈ (Directories.of current config).assets tree,
      target = (Directories.of current config).assetTarget location ∧
      ∃ bytes, tree.contents (Path.ofLocation location) = .ok bytes ∧
        ((build tree now current config).tree.contents target = .ok bytes ↔
          tree.isDirectory target = false ∧
            ∀ text, lastText? result.artefacts (target.resolveParts []) = some text →
              encode text = bytes) := by
  obtain ⟨products, completed⟩ := completed_of_ok wellFormed succeeded
  intro target reported
  obtain ⟨location, asset, rfl, kept⟩ := completed.copy_of_mem_assets reported
  obtain ⟨_, bytes, modified, -, -, isSource, -⟩ := Directories.asset_cases wellFormed asset
  have straightTarget := straight_assetTarget wellFormed completed.straight asset
  refine ⟨location, asset, rfl, bytes,
    contents_eq_ok_iff.mpr ⟨_, _, wellFormed.locate_eq isSource, isSource⟩, ?_⟩
  rw [completed.lastText?_artefacts, Path.resolveParts_root, Path.walk_of_straight straightTarget,
    List.reverse_nil, List.nil_append]
  cases before : tree.isDirectory ((Directories.of current config).assetTarget location) with
  | true => exact iff_of_false (completed.contents_of_directory asset before bytes) (by simp)
  | false =>
      rw [completed.contents_of_copied isSource (kept before)]
      simp

/-- A page and an asset. -/
def styledPage : FileTree :=
  siteOf [] [(["index.html"], "<!DOCTYPE html>Home"), (["style.css"], "p {}")]

/-- What the build of that site reports. -/
def styledResult : BuildResult where
  artefacts :=
    [ .asset (Path.ofLocation ["site", "style.css"]) (Path.ofLocation ["site", "out", "style.css"]),
      .page (Path.ofLocation ["site", "index.html"]) (Path.ofLocation ["site", "out", "index.html"])
        "<!DOCTYPE html>\nHome\n" ]
  skipped := []

/-- The asset of that site is copied, and its copy stays. -/
theorem copies_kept_of_sample :
    styledPage.WellFormed ∧
    (build styledPage 9 [] (siteConfig "/scripts/")).outcome = .ok styledResult ∧
    ∀ target ∈ styledResult.assets, ∃ location ∈
        (Directories.of [] (siteConfig "/scripts/")).assets styledPage,
      target = (Directories.of [] (siteConfig "/scripts/")).assetTarget location ∧
      ∃ bytes, styledPage.contents (Path.ofLocation location) = .ok bytes ∧
        (build styledPage 9 [] (siteConfig "/scripts/")).tree.contents target = .ok bytes := by
  have wellFormed : styledPage.WellFormed := by decide
  have succeeded : (build styledPage 9 [] (siteConfig "/scripts/")).outcome = .ok styledResult := by
    decide +kernel
  refine ⟨wellFormed, succeeded, fun target reported => ?_⟩
  obtain ⟨location, asset, isTarget, bytes, isSource, kept⟩ :=
    copies_kept_iff wellFormed succeeded target reported
  obtain rfl : target = Path.ofLocation ["site", "out", "style.css"] := by
    simpa [BuildResult.assets, styledResult] using reported
  refine ⟨location, asset, isTarget, bytes, isSource, kept.mpr ⟨by decide, ?_⟩⟩
  have none : lastText? styledResult.artefacts
      ((Path.ofLocation ["site", "out", "style.css"]).resolveParts []) = none := by
    decide +kernel
  rw [none]
  simp

/-- A fragment with a script, an asset where the file of that script goes, and an asset where
there is a directory. -/
def clashingAssets : FileTree :=
  siteOf [["scripts"], ["out"], ["out", "style.css"]]
    [ (["index.html"], "<!DOCTYPE html><x-card></x-card>"),
      (["x-card.html"], "<p>Card</p><script>card()</script>"),
      (["scripts", "x-card.js"], "old()"), (["style.css"], "p {}") ]

/-- That site is built, and both assets are reported as copied.  But one copy has been written
over by the script file, and in place of the other there is still the directory. -/
theorem copies_lost_of_sample :
    clashingAssets.WellFormed ∧
    (build clashingAssets 9 [] (siteConfig "/scripts/")).outcome.toOption.map BuildResult.assets =
      some [ Path.ofLocation ["site", "out", "scripts", "x-card.js"],
        Path.ofLocation ["site", "out", "style.css"] ] ∧
    clashingAssets.contents (Path.ofLocation ["site", "scripts", "x-card.js"]) =
      .ok (encode "old()") ∧
    (build clashingAssets 9 [] (siteConfig "/scripts/")).tree.contents
        (Path.ofLocation ["site", "out", "scripts", "x-card.js"]) =
      .ok (encode "card()") ∧
    (build clashingAssets 9 [] (siteConfig "/scripts/")).tree.contents
        (Path.ofLocation ["site", "out", "style.css"]) =
      .error (.isDirectory (Path.ofLocation ["site", "out", "style.css"])) := by
  decide +kernel

end StaticSite.Site
