/-
Module: StaticSite.Proofs.Site.Containment
Purpose: When a build stays inside its output directory.  Copies always do; pages do unless two
  dots are the name of one; script files do unless the start of their URLs leads out.
Trusted boundary: none
Main exports:
  Directories.KeepsScripts, Directories.KeepsPage, isOutput_scriptFile_iff, isOutput_page_iff,
  written_inside_iff, written_inside_of_sample, written_outside_of_sample
-/
import Mathlib.Data.List.TakeWhile
import StaticSite.Proofs.Site.PageAddresses

namespace StaticSite.Site

open Text FileTree Bundling

namespace Directories

/-- What URLs start with leads to a directory inside of the output directory. -/
def KeepsScripts (directories : Directories) (srcStart : String) : Prop :=
  directories.isOutput
    (Path.walk [] (directories.output ++ Path.directoryParts srcStart)) = true

/-- The page is not named by two dots, or they lead back from a directory that is inside of the
output directory, or there is nothing outside of it. -/
def KeepsPage (directories : Directories) (page : Component) : Prop :=
  page.name = ".." → (directories.relativeParts page.path.parts).length ≤ 1 →
    directories.output = []

instance (directories : Directories) (srcStart : String) :
    Decidable (directories.KeepsScripts srcStart) :=
  inferInstanceAs (Decidable (_ = true))

instance (directories : Directories) (page : Component) :
    Decidable (directories.KeepsPage page) :=
  inferInstanceAs (Decidable (_ → _ → _))

end Directories

open Directories

variable {directories : Directories} {tree before after : FileTree} {now : Int}
  {current : Location} {config : BuildConfig} {result : BuildResult} {products : Products}
  {artefact : Artefact} {page : Component} {path : Path} {rest above location : Location}
  {bytes : ByteArray} {modified : Int} {name srcStart file : String}

/-! ### Files and the output directory itself -/

/-- A file whose path passes the output directory is not written in its place. -/
theorem walk_ne_output (straight : ".." ∉ directories.output)
    (parts : path.parts = directories.output ++ rest) (onwards : rest ≠ [])
    (written : before.write path bytes modified = .ok after) :
    Path.walk [] path.parts ≠ directories.output := by
  obtain ⟨location, found, free, -⟩ := write_eq_ok_iff.mp written
  rw [← locate_eq_walk found]
  rintro rfl
  by_cases root : directories.output = []
  · rw [root] at free
    exact free rfl
  · rw [locate, parts] at found
    exact free (directory_of_follow straight root onwards found)

/-- A file is inside if its directory is. -/
theorem isOutput_file_iff (apart : above ++ [file] ≠ directories.output) :
    directories.isOutput (above ++ [file]) = true ↔ directories.isOutput above = true := by
  rw [isOutput_iff, isOutput_iff, List.prefix_concat_iff]
  exact or_iff_right (Ne.symm apart)

theorem isOutput_append (directories : Directories) (rest : List String) :
    directories.isOutput (directories.output ++ rest) = true :=
  isOutput_iff.mpr (List.prefix_append _ _)

/-! ### Script files -/

theorem slash_not_mem_scriptName (free : '/' ∉ name.toList) : '/' ∉ (name ++ ".js").toList := by
  rw [String.toList_append, List.mem_append, not_or]
  exact ⟨free, by decide⟩

/-- Slashes are taken off the start of a URL only, for its end is the name of a file. -/
theorem scriptPath_eq (srcStart : String) (free : '/' ∉ name.toList) :
    scriptPath srcStart name =
      String.ofList (srcStart.toList.dropWhile (· == '/')) ++ (name ++ ".js") := by
  have kept : (name ++ ".js").toList.dropWhile (· == '/') = (name ++ ".js").toList := by
    rw [List.dropWhile_eq_self_iff]
    intro nonempty slash
    refine slash_not_mem_scriptName free ?_
    rw [← beq_iff_eq.mp slash]
    exact List.getElem_mem nonempty
  rw [scriptPath, Bundle.srcOf, String.append_assoc, String.toList_append,
    List.dropWhile_append, kept]
  split
  case isTrue none =>
    rw [List.isEmpty_iff.mp none]
    simp
  case isFalse => rw [String.ofList_append, String.ofList_toList]

/-- A script file is named by what the URLs start with, and its own name at the end. -/
theorem parts_scriptTarget (directories : Directories) (srcStart : String)
    (free : '/' ∉ name.toList) :
    ∃ file, file ≠ ".." ∧
      (directories.scriptTarget (scriptPath srcStart name)).parts =
        directories.output ++ (Path.directoryParts srcStart ++ [file]) := by
  have last (word : String) (ending : word.toList.getLast? ≠ some 's') (start : String) :
      start ++ (name ++ ".js") ≠ word := by
    rintro rfl
    refine ending ?_
    simp [String.toList_append]
  have relative : (Path.ofString (scriptPath srcStart name)).anchor = .relative := by
    rw [Path.ofString, scriptPath, String.toList_ofList]
    apply Path.anchorOf_of_head
    intro slash
    have head := List.head?_dropWhile_not (· == '/') (Bundle.srcOf srcStart name).toList
    simp [slash] at head
  rw [scriptTarget, Path.join, Path.isAbsolute, relative, scriptPath_eq srcStart free,
    Path.parts_ofString_append (slash_not_mem_scriptName free), Path.directoryParts_dropWhile,
    List.filter_cons_of_pos]
  · exact ⟨_, last ".." (by decide) _, rfl⟩
  · simp [Path.isPart, last "" (by decide), last "." (by decide)]

/-- A script file is inside exactly if the start of its URL leads there. -/
theorem isOutput_scriptFile_iff (straight : ".." ∉ directories.output)
    (isScript : IsScriptFile directories srcStart artefact)
    (written : before.write artefact.target bytes modified = .ok after) :
    directories.isOutput artefact.location = true ↔ directories.KeepsScripts srcStart := by
  obtain ⟨name, code, free, rfl⟩ := isScript
  rw [Artefact.location_eq]
  simp only [Artefact.target] at written ⊢
  obtain ⟨file, isName, parts⟩ := parts_scriptTarget directories srcStart free
  have apart := walk_ne_output straight parts (by simp) written
  rw [parts, ← List.append_assoc, Path.walk_append_singleton isName] at apart ⊢
  rw [isOutput_file_iff apart, KeepsScripts]

/-! ### Pages -/

/-- Two dots lead back from a directory, and out of the output directory if that is the one. -/
theorem prefix_back_iff (output rest : List String) :
    output <+: (output ++ rest.dropLast).dropLast ↔ (rest.length ≤ 1 → output = []) := by
  by_cases short : rest.length ≤ 1
  · have none : rest.dropLast = [] := List.eq_nil_of_length_eq_zero (by simp; omega)
    rw [none, List.append_nil, forall_prop_of_true short]
    constructor
    · intro isPrefix
      have shorter := isPrefix.length_le
      rw [List.length_dropLast] at shorter
      exact List.eq_nil_of_length_eq_zero (by omega)
    · rintro rfl
      exact List.prefix_rfl
  · have some : rest.dropLast ≠ [] := List.ne_nil_of_length_pos (by simp; omega)
    rw [List.dropLast_append_of_ne_nil some]
    exact iff_of_true (List.prefix_append _ _) fun few => absurd few short

/-- Where a page goes that is named by two dots. -/
theorem walk_outputPath_of_dots (straight : ".." ∉ directories.output)
    (wellFormed : tree.WellFormed) (isPage : page ∈ (Sources.read directories tree).1.pages)
    (dots : page.name = "..") :
    Path.walk [] (directories.outputPath page).parts =
      (directories.output ++ (directories.relativeParts page.path.parts).dropLast).dropLast ++
        [indexName ++ sourceEnding] := by
  obtain ⟨free, nonempty⟩ := name_of_page wellFormed isPage
  have named : page.name ≠ indexName := by
    rw [dots]
    decide
  have single : page.name ≠ "." := by
    rw [dots]
    decide
  have file : indexName ++ sourceEnding ≠ ".." := by decide
  rw [outputPath_of_name directories named free nonempty, ownDirectory, if_neg single, dots]
  simp only [Path.ofLocation]
  rw [← List.append_assoc, ← List.append_assoc, Path.walk_append_singleton file,
    Path.walk_append_dots]
  rw [List.mem_append, not_or]
  exact ⟨straight, fun member =>
    straight_relativeParts wellFormed isPage (List.dropLast_subset _ member)⟩

/-- Any other page goes inside. -/
theorem isOutput_outputPath (straight : ".." ∉ directories.output) (wellFormed : tree.WellFormed)
    (isPage : page ∈ (Sources.read directories tree).1.pages) (noDots : page.name ≠ "..") :
    directories.isOutput (Path.walk [] (directories.outputPath page).parts) = true := by
  obtain ⟨free, nonempty⟩ := name_of_page wellFormed isPage
  rw [Path.walk_of_straight (straight_outputPath straight wellFormed isPage noDots),
    List.reverse_nil, List.nil_append]
  by_cases index : page.name = indexName
  · rw [outputPath_of_index directories index]
    exact isOutput_append _ _
  · rw [outputPath_of_name directories index free nonempty]
    exact isOutput_append _ _

/-- A page is inside unless two dots lead back from the output directory itself. -/
theorem isOutput_page_iff (straight : ".." ∉ directories.output) (wellFormed : tree.WellFormed)
    (isPage : page ∈ (Sources.read directories tree).1.pages)
    (written : before.write (directories.outputPath page) bytes modified = .ok after) :
    directories.isOutput (Path.walk [] (directories.outputPath page).parts) = true ↔
      directories.KeepsPage page := by
  by_cases dots : page.name = ".."
  · obtain ⟨free, nonempty⟩ := name_of_page wellFormed isPage
    have named : page.name ≠ indexName := by
      rw [dots]
      decide
    have parts := congrArg Path.parts (outputPath_of_name directories named free nonempty)
    have apart := walk_ne_output straight parts (by simp) written
    rw [walk_outputPath_of_dots straight wellFormed isPage dots] at apart ⊢
    rw [isOutput_file_iff apart, KeepsPage, forall_prop_of_true dots, isOutput_iff,
      prefix_back_iff]
  · exact iff_of_true (isOutput_outputPath straight wellFormed isPage dots) fun isDots =>
      absurd isDots dots

/-! ### All that is written -/

theorem bundles_ne_nil_iff :
    result.bundles ≠ [] ↔ ∃ target code, Artefact.bundle target code ∈ result.artefacts := by
  constructor
  · intro some
    obtain ⟨target, reported⟩ := List.exists_mem_of_ne_nil _ some
    obtain ⟨artefact, member, isTarget⟩ := List.mem_filterMap.mp reported
    cases artefact with
    | asset => cases isTarget
    | bundle path code => exact ⟨path, code, member⟩
    | page => cases isTarget
  · rintro ⟨target, code, member⟩
    exact List.ne_nil_of_mem (List.mem_filterMap.mpr ⟨_, member, rfl⟩)

/-- The copies of assets are inside. -/
theorem isOutput_copyOf (wellFormed : tree.WellFormed) (straight : ".." ∉ directories.output)
    (asset : location ∈ directories.assets tree) :
    directories.isOutput (directories.copyOf location).location = true := by
  have straightTarget := straight_assetTarget wellFormed straight asset
  obtain ⟨rest, _, _, rfl, -⟩ := asset_cases wellFormed asset
  rw [Artefact.location_eq, copyOf, Artefact.target, Path.walk_of_straight straightTarget,
    assetTarget_parts]
  exact isOutput_append _ _

/-- Script files are all inside, or all outside. -/
theorem scripts_inside_iff {scripts : List Artefact} (straight : ".." ∉ directories.output)
    (areScripts : ∀ artefact ∈ scripts, IsScriptFile directories srcStart artefact)
    (written : ∀ artefact ∈ scripts, ∃ (before after : FileTree) (bytes : ByteArray),
      before.write artefact.target bytes now = .ok after) :
    (∀ artefact ∈ scripts, directories.isOutput artefact.location = true) ↔
      (scripts ≠ [] → directories.KeepsScripts srcStart) := by
  have inside_iff : ∀ artefact ∈ scripts, (directories.isOutput artefact.location = true ↔
      directories.KeepsScripts srcStart) := by
    intro artefact member
    obtain ⟨_, _, _, isWritten⟩ := written artefact member
    exact isOutput_scriptFile_iff straight (areScripts artefact member) isWritten
  constructor
  · intro inside some
    obtain ⟨artefact, member⟩ := List.exists_mem_of_ne_nil _ some
    exact (inside_iff artefact member).mp (inside artefact member)
  · intro keeps artefact member
    exact (inside_iff artefact member).mpr (keeps (List.ne_nil_of_mem member))

/-- The files of pages are inside if the pages are kept there. -/
theorem pages_inside_iff {files : List Artefact} (straight : ".." ∉ directories.output)
    (wellFormed : tree.WellFormed)
    (targets : files.map Artefact.target =
      (Sources.read directories tree).1.pages.map directories.outputPath)
    (written : ∀ artefact ∈ files, ∃ (before after : FileTree) (bytes : ByteArray),
      before.write artefact.target bytes now = .ok after) :
    (∀ artefact ∈ files, directories.isOutput artefact.location = true) ↔
      ∀ page ∈ (Sources.read directories tree).1.pages, directories.KeepsPage page := by
  have writtenAt : ∀ target ∈ files.map Artefact.target, ∃ (before after : FileTree)
      (bytes : ByteArray), before.write target bytes now = .ok after :=
    List.forall_mem_map.mpr written
  have places : (∀ artefact ∈ files, directories.isOutput artefact.location = true) ↔
      ∀ target ∈ files.map Artefact.target,
        directories.isOutput (Path.walk [] target.parts) = true := by
    simp only [List.forall_mem_map, Artefact.location_eq]
  rw [targets, List.forall_mem_map] at writtenAt
  rw [places, targets, List.forall_mem_map]
  refine forall₂_congr fun page isPage => ?_
  obtain ⟨_, _, _, isWritten⟩ := writtenAt page isPage
  exact isOutput_page_iff straight wellFormed isPage isWritten

/-- What rendering and extraction yield is inside if script files and pages are kept there, and
otherwise something is not. -/
theorem produced_inside_iff (straight : ".." ∉ directories.output) (wellFormed : tree.WellFormed)
    (produced : produce directories config (Sources.read directories tree).1 = .ok products)
    (placed : (putAll now before products.artefacts).error = none) :
    (∀ artefact ∈ products.artefacts, directories.isOutput artefact.location = true) ↔
      ((∃ target code, Artefact.bundle target code ∈ products.artefacts) →
          directories.KeepsScripts config.scriptSrcStart) ∧
        ∀ page ∈ (Sources.read directories tree).1.pages, directories.KeepsPage page := by
  have named : ∀ fragment ∈ (Sources.read directories tree).1.table.entries,
      '/' ∉ fragment.name.toList := fun _ member => (name_of_fragment wellFormed member).1
  have written : ∀ artefact ∈ products.artefacts, ∃ (before after : FileTree) (bytes : ByteArray),
      before.write artefact.target bytes now = .ok after := fun _ member =>
    write_of_texts (areTexts_of_produced named produced) placed member
  obtain ⟨scripts, pages, artefacts, areScripts, arePages, targets⟩ := produce_ok named produced
  have some_iff : (∃ target code, Artefact.bundle target code ∈ scripts ++ pages) ↔
      scripts ≠ [] := by
    constructor
    · rintro ⟨target, code, member⟩
      rcases List.mem_append.mp member with isScript | isPage
      · exact List.ne_nil_of_mem isScript
      · obtain ⟨page, -, html, shape⟩ := arePages _ isPage
        cases shape
    · intro some
      obtain ⟨artefact, member⟩ := List.exists_mem_of_ne_nil _ some
      obtain ⟨name, code, -, rfl⟩ := areScripts artefact member
      exact ⟨_, _, List.mem_append_left _ member⟩
  rw [artefacts, List.forall_mem_append] at written
  rw [artefacts, List.forall_mem_append, some_iff, scripts_inside_iff straight areScripts written.1,
    pages_inside_iff straight wellFormed targets written.2]

namespace Completed

variable (completed : Completed tree now directories config result products after)

include completed

/-- All that is reported is inside if script files and pages are. -/
theorem forall_written_iff :
    (∀ path ∈ result.written, directories.isOutput (path.resolveParts []) = true) ↔
      ∀ artefact ∈ products.artefacts, directories.isOutput artefact.location = true := by
  rw [BuildResult.written, completed.reported, List.forall_mem_map, List.forall_mem_append]
  refine and_iff_right fun artefact isCopy => ?_
  obtain ⟨location, asset, rfl, -⟩ := completed.copies isCopy
  exact isOutput_copyOf completed.wellFormed completed.straight asset

/-- Script files are reported if extraction yields any. -/
theorem bundles_ne_nil_iff :
    result.bundles ≠ [] ↔ ∃ target code, Artefact.bundle target code ∈ products.artefacts := by
  rw [Site.bundles_ne_nil_iff, completed.reported]
  refine exists_congr fun target => exists_congr fun code => ?_
  rw [List.mem_append]
  refine or_iff_right fun isCopy => ?_
  obtain ⟨location, -, shape, -⟩ := completed.copies isCopy
  cases shape

/-- A file outside is as it has been unless it is reported. -/
theorem file_outside_iff (outside : directories.isOutput location = false)
    (apart : ∀ path ∈ result.written, path.resolveParts [] ≠ location) :
    after.get? location = some (.file bytes modified) ↔
      tree.get? location = some (.file bytes modified) := by
  rw [completed.becomes.file_iff,
    (copying_becomes completed.wellFormed completed.straight now).file_iff]
  · intro entry holds
    obtain ⟨rest, -, rfl⟩ := below_of_holdsCopy completed.wellFormed holds
    rw [isOutput_append] at outside
    cases outside
  · rintro entry ⟨artefact, member, rfl, -⟩
    refine apart artefact.target ?_ rfl
    rw [BuildResult.written, completed.reported]
    exact List.mem_map_of_mem (List.mem_append_right _ member)

end Completed

/-- A build that succeeds writes inside of its output directory if and only if script files, if
there are any, and pages are kept there.  Any file outside that is not among what is reported
as written is as it has been. -/
theorem written_inside_iff (wellFormed : tree.WellFormed)
    (succeeded : (build tree now current config).outcome = .ok result) :
    ((∀ path ∈ result.written,
        (Directories.of current config).isOutput (path.resolveParts []) = true) ↔
      (result.bundles ≠ [] → (Directories.of current config).KeepsScripts config.scriptSrcStart) ∧
        ∀ page ∈ pagesOf current config tree,
          (Directories.of current config).KeepsPage page) ∧
    ∀ location, (Directories.of current config).isOutput location = false →
      (∀ path ∈ result.written, path.resolveParts [] ≠ location) → ∀ bytes modified,
        ((build tree now current config).tree.get? location = some (.file bytes modified) ↔
          tree.get? location = some (.file bytes modified)) := by
  obtain ⟨products, completed⟩ := completed_of_ok wellFormed succeeded
  constructor
  · rw [completed.forall_written_iff, completed.bundles_ne_nil_iff, pagesOf]
    exact produced_inside_iff completed.straight wellFormed completed.produced completed.placed
  · intro location outside apart bytes modified
    exact completed.file_outside_iff outside apart

/-- A page that uses a fragment with a script. -/
def scriptedPage : FileTree :=
  siteOf []
    [ (["index.html"], "<!DOCTYPE html><x-card></x-card>"),
      (["x-card.html"], "<p>Card</p><script>card()</script>") ]

/-- What the build of that site reports. -/
def scriptedResult : BuildResult where
  artefacts :=
    [ .bundle ⟨.root, ["site", "out", "scripts", "x-card.js"]⟩ "card()",
      .page (Path.ofLocation ["site", "index.html"]) (Path.ofLocation ["site", "out", "index.html"])
        "<!DOCTYPE html>\n<p>Card</p><script src=\"/scripts/x-card.js\"></script>\n" ]
  skipped := []

/-- With URLs that start in a directory, all of that site is written inside. -/
theorem written_inside_of_sample :
    scriptedPage.WellFormed ∧
    (build scriptedPage 9 [] (siteConfig "/scripts/")).outcome = .ok scriptedResult ∧
    ∀ path ∈ scriptedResult.written,
      (Directories.of [] (siteConfig "/scripts/")).isOutput (path.resolveParts []) = true := by
  have wellFormed : scriptedPage.WellFormed := by decide
  have succeeded :
      (build scriptedPage 9 [] (siteConfig "/scripts/")).outcome = .ok scriptedResult := by
    decide +kernel
  have keeps : (scriptedResult.bundles ≠ [] →
        (Directories.of [] (siteConfig "/scripts/")).KeepsScripts "/scripts/") ∧
      ∀ page ∈ pagesOf [] (siteConfig "/scripts/") scriptedPage,
        (Directories.of [] (siteConfig "/scripts/")).KeepsPage page := by
    decide +kernel
  exact ⟨wellFormed, succeeded, (written_inside_iff wellFormed succeeded).1.mpr keeps⟩

/-- With URLs that start above the output directory, the script file of that site is written
next to it, among the sources, where nothing has been before. -/
theorem written_outside_of_sample :
    scriptedPage.WellFormed ∧
    (build scriptedPage 9 [] (siteConfig "/../")).outcome.toOption.map BuildResult.bundles =
      some [⟨.root, ["site", "out", "..", "x-card.js"]⟩] ∧
    (⟨.root, ["site", "out", "..", "x-card.js"]⟩ : Path).resolveParts [] = ["site", "x-card.js"] ∧
    (Directories.of [] (siteConfig "/../")).isOutput ["site", "x-card.js"] = false ∧
    scriptedPage.get? ["site", "x-card.js"] = none ∧
    (build scriptedPage 9 [] (siteConfig "/../")).tree.get? ["site", "x-card.js"] =
      some (.file (encode "card()") 9) := by
  decide +kernel

end StaticSite.Site
