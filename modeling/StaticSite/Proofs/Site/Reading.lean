/-
Module: StaticSite.Proofs.Site.Reading
Purpose: Where the assets, pages and fragments of a site come from: each from a file of its own
  outside the output directory, whose place gives a component its path and its name.
Trusted boundary: none
Main exports:
  Directories.isOutput_iff, Directories.asset_cases, Directories.nodup_sources,
  compileSource_eq_ok, Sources.Added, CompiledFrom, compiledFrom_read, page_cases,
  nodup_page_paths, name_of_page, name_of_fragment
-/
import StaticSite.Proofs.Expansion.References
import StaticSite.Proofs.Files.Names
import StaticSite.Proofs.Files.Trees
import StaticSite.Proofs.Outcomes
import StaticSite.Site.Sources

namespace StaticSite.Site

open Text FileTree

/-! ### Directories and the files in them -/

namespace Directories

variable {directories : Directories} {tree : FileTree} {location : Location}

/-- The output directory of a build is known without dots. -/
theorem straight_output (current : Location) (config : BuildConfig) :
    ".." ∉ (Directories.of current config).output :=
  Path.straight_resolveParts current config.outputDir

theorem isWithin_iff {directory : Location} :
    isWithin directory location = true ↔ directory <+: location := by
  rw [isWithin, Option.isSome_iff_exists]
  exact exists_congr fun rest => Path.dropParts?_eq_some_iff.trans eq_comm

theorem isOutput_iff : directories.isOutput location = true ↔ directories.output <+: location :=
  isWithin_iff

@[simp] theorem relativeParts_append (directories : Directories) (rest : List String) :
    directories.relativeParts (directories.content ++ rest) = rest := by
  rw [relativeParts, Path.dropParts?_eq_some_iff.mpr rfl, Option.getD_some]

/-- An asset is a file below the content directory and outside the output directory. -/
theorem asset_cases (wellFormed : tree.WellFormed) (asset : location ∈ directories.assets tree) :
    ∃ rest bytes modified, location = directories.content ++ rest ∧ rest ≠ [] ∧
      tree.get? location = some (.file bytes modified) ∧
        ¬ directories.output <+: location := by
  rw [assets, List.mem_filter, List.mem_map] at asset
  obtain ⟨⟨⟨place, bytes⟩, listed, rfl⟩, kept⟩ := asset
  obtain ⟨modified, rest, found, shape, below⟩ := wellFormed.mem_filesBelow.mp listed
  refine ⟨rest, bytes, modified, shape, below, found, ?_⟩
  rw [← isOutput_iff]
  simp only [Bool.and_eq_true, Bool.not_eq_true'] at kept
  simp [kept.2]

/-- No source is listed twice. -/
theorem nodup_sources (wellFormed : tree.WellFormed) (directories : Directories) :
    ((directories.sources tree).map (·.1)).Nodup :=
  (wellFormed.nodup_filesBelow directories.input).sublist (List.filter_sublist.map _)

end Directories

theorem ofLocation_injective : Function.Injective Path.ofLocation :=
  fun _ _ same => congrArg Path.parts same

variable {content : Location} {file : Location × ByteArray}
  {files rest : List (Location × ByteArray)} {component : Component}
  {before after sources : Sources}

/-! ### Components and their files -/

/-- A component has the path of its file, and is named after it. -/
theorem compileSource_eq_ok (compiled : compileSource file = .ok component) :
    component.path = Path.ofLocation file.1 ∧ component.name = componentName component.path := by
  rw [compileSource] at compiled
  split at compiled
  case h_1 => cases compiled
  case h_2 source _ =>
    rw [compileFile, compile] at compiled
    split at compiled
    case h_1 => cases compiled
    case h_2 =>
      dsimp only at compiled
      split at compiled
      case isTrue => cases compiled
      case isFalse =>
        obtain rfl := Except.ok.inj compiled
        exact ⟨rfl, rfl⟩

namespace Sources

/-- Where a component goes when it is added: with the pages that are in the directory `content` or
with those that are not, or into the table. -/
inductive Added (content : Location) (before : Sources) (component : Component) :
    Sources → Prop where
  | page (isPage : component.isPage = true)
      (within : Directories.isWithin content component.path.parts = true) :
      Added content before component { before with pages := before.pages ++ [component] }
  | skipped (isPage : component.isPage = true)
      (beyond : Directories.isWithin content component.path.parts = false) :
      Added content before component { before with skipped := before.skipped ++ [component] }
  | fragment {table : ComponentTable} (isFragment : component.isPage = false)
      (entries : table.entries = before.table.entries ++ [component]) :
      Added content before component { before with table := table }

theorem added_of_add (added : before.add content component = .ok after) :
    Added content before component after := by
  rw [add] at added
  split at added
  case isTrue isPage =>
    split at added
    case isTrue within =>
      obtain rfl := Except.ok.inj added
      exact .page isPage within
    case isFalse beyond =>
      obtain rfl := Except.ok.inj added
      exact .skipped isPage (by simpa using beyond)
  case isFalse =>
    obtain ⟨table, registered, packed⟩ := bind_eq_ok_iff.mp added
    obtain rfl := Except.ok.inj packed
    obtain ⟨entries, isFragment⟩ := ComponentTable.register_entries registered
    exact .fragment isFragment entries

/-- Of a file that can be used, the component is added. -/
theorem added_of_addFile (added : before.addFile content file = .ok after) :
    ∃ component, compileSource file = .ok component ∧ Added content before component after := by
  obtain ⟨component, compiled, sorted⟩ := bind_eq_ok_iff.mp added
  exact ⟨component, compiled, added_of_add (mapError_eq_ok_iff.mp sorted)⟩

end Sources

/-- What has been read from these files: pages in the order of their files, each in the
directory `content`, and fragments. -/
structure CompiledFrom (content : Location) (files : List (Location × ByteArray))
    (sources : Sources) : Prop where
  ordered : (sources.pages.map (·.path)).Sublist (files.map fun file => Path.ofLocation file.1)
  within : ∀ page ∈ sources.pages, Directories.isWithin content page.path.parts = true
  pageFile : ∀ page ∈ sources.pages, ∃ file ∈ files, compileSource file = .ok page
  fragmentFile : ∀ fragment ∈ sources.table.entries, ∃ file ∈ files,
    compileSource file = .ok fragment

namespace CompiledFrom

theorem of_empty (content : Location) : CompiledFrom content [] .empty where
  ordered := .slnil
  within := by simp [Sources.empty]
  pageFile := by simp [Sources.empty]
  fragmentFile := by simp [Sources.empty, ComponentTable.empty]

theorem more (read : CompiledFrom content files sources) (rest : List (Location × ByteArray)) :
    CompiledFrom content (files ++ rest) sources where
  ordered := read.ordered.trans ((List.sublist_append_left files rest).map _)
  within := read.within
  pageFile page isPage :=
    (read.pageFile page isPage).imp fun _ found => ⟨List.mem_append_left _ found.1, found.2⟩
  fragmentFile fragment isFragment :=
    (read.fragmentFile fragment isFragment).imp fun _ found =>
      ⟨List.mem_append_left _ found.1, found.2⟩

theorem addFile (read : CompiledFrom content files before)
    (added : before.addFile content file = .ok after) :
    CompiledFrom content (files ++ [file]) after := by
  have kept := read.more [file]
  obtain ⟨component, compiled, sorted⟩ := Sources.added_of_addFile added
  have here : ∃ source ∈ files ++ [file], compileSource source = .ok component :=
    ⟨file, List.mem_append_right files List.mem_cons_self, compiled⟩
  cases sorted with
  | page isPage within =>
      refine ⟨?_, ?_, ?_, kept.fragmentFile⟩
      · simp only [List.map_append, List.map_cons, List.map_nil, (compileSource_eq_ok compiled).1]
        exact read.ordered.append (.refl _)
      · simpa [or_imp, forall_and] using ⟨read.within, within⟩
      · intro page isPage
        rcases List.mem_append.mp isPage with earlier | now
        · exact kept.pageFile page earlier
        · rwa [List.mem_singleton.mp now]
  | skipped isPage beyond => exact ⟨kept.ordered, kept.within, kept.pageFile, kept.fragmentFile⟩
  | fragment isFragment entries =>
      refine ⟨kept.ordered, kept.within, kept.pageFile, ?_⟩
      intro fragment isEntry
      rw [entries] at isEntry
      rcases List.mem_append.mp isEntry with earlier | now
      · exact kept.fragmentFile fragment earlier
      · rwa [List.mem_singleton.mp now]

/-- Reading goes on from any moment, up to the first file that cannot be used. -/
theorem addAll (read : CompiledFrom content files sources) (rest : List (Location × ByteArray)) :
    CompiledFrom content (files ++ rest) (Sources.addAll content sources rest).1 := by
  induction rest generalizing files sources with
  | nil => exact read.more []
  | cons file rest inductionHypothesis =>
      rw [Sources.addAll]
      split
      case h_1 added =>
        rw [List.append_cons]
        exact inductionHypothesis (read.addFile added)
      case h_2 => exact read.more _

end CompiledFrom

theorem compiledFrom_read (directories : Directories) (tree : FileTree) :
    CompiledFrom directories.content (directories.sources tree) (Sources.read directories tree).1 :=
  (CompiledFrom.of_empty directories.content).addAll (directories.sources tree)

/-! ### Sources in a file system -/

variable {directories : Directories} {tree : FileTree} {location : Location} {bytes : ByteArray}
  {page fragment : Component}

/-- A source is a file outside the output directory. -/
theorem source_cases (wellFormed : tree.WellFormed)
    (source : (location, bytes) ∈ directories.sources tree) :
    location ≠ [] ∧ (∃ modified, tree.get? location = some (.file bytes modified)) ∧
      ¬ directories.output <+: location := by
  rw [Directories.sources, List.mem_filter] at source
  obtain ⟨modified, rest, found, shape, below⟩ := wellFormed.mem_filesBelow.mp source.1
  refine ⟨by simp [shape, below], ⟨modified, found⟩, ?_⟩
  have outside := source.2
  simp only [Bool.and_eq_true, Bool.not_eq_true'] at outside
  rw [← Directories.isOutput_iff]
  simp [outside.2]

/-- The name of a component is one name in a path. -/
theorem name_of_compiled (wellFormed : tree.WellFormed)
    (source : (location, bytes) ∈ directories.sources tree)
    (compiled : compileSource (location, bytes) = .ok component) :
    '/' ∉ component.name.toList ∧ component.name ≠ "" := by
  obtain ⟨path, name⟩ := compileSource_eq_ok compiled
  obtain ⟨below, ⟨modified, found⟩, -⟩ := source_cases wellFormed source
  have isName := wellFormed.isFileName_of_get? below found
  rw [name, path]
  exact ⟨slash_not_mem_componentName isName.2.2.2, componentName_ne_empty isName.1⟩

/-- A page comes from a file below the content directory, or from one that is in its place, and
not from the output directory. -/
theorem page_cases (wellFormed : tree.WellFormed)
    (isPage : page ∈ (Sources.read directories tree).1.pages) :
    ∃ rest bytes modified, page.path = Path.ofLocation (directories.content ++ rest) ∧
      tree.get? (directories.content ++ rest) = some (.file bytes modified) ∧
        page.name = componentName page.path := by
  have read := compiledFrom_read directories tree
  obtain ⟨⟨location, bytes⟩, source, compiled⟩ := read.pageFile page isPage
  obtain ⟨path, name⟩ := compileSource_eq_ok compiled
  have within := Directories.isWithin_iff.mp (read.within page isPage)
  rw [path] at within
  obtain ⟨rest, shape⟩ := within
  obtain ⟨-, ⟨modified, found⟩, -⟩ := source_cases wellFormed source
  have place : location = directories.content ++ rest := shape.symm
  rw [place] at path found
  exact ⟨rest, bytes, modified, path, found, name⟩

/-- No two pages come from one file. -/
theorem nodup_page_paths (wellFormed : tree.WellFormed) (directories : Directories) :
    ((Sources.read directories tree).1.pages.map (·.path)).Nodup := by
  refine List.Nodup.sublist (compiledFrom_read directories tree).ordered ?_
  have images := (Directories.nodup_sources wellFormed directories).map ofLocation_injective
  rwa [List.map_map] at images

theorem name_of_page (wellFormed : tree.WellFormed)
    (isPage : page ∈ (Sources.read directories tree).1.pages) :
    '/' ∉ page.name.toList ∧ page.name ≠ "" := by
  obtain ⟨file, source, compiled⟩ := (compiledFrom_read directories tree).pageFile page isPage
  exact name_of_compiled wellFormed source compiled

theorem name_of_fragment (wellFormed : tree.WellFormed)
    (isFragment : fragment ∈ (Sources.read directories tree).1.table.entries) :
    '/' ∉ fragment.name.toList ∧ fragment.name ≠ "" := by
  obtain ⟨file, source, compiled⟩ :=
    (compiledFrom_read directories tree).fragmentFile fragment isFragment
  exact name_of_compiled wellFormed source compiled

end StaticSite.Site
