/-
Module: StaticSite.Proofs.Site.Accounting
Purpose: Every file of a site is handled once: a source is a fragment, a page or a skipped page, any
  other file of the content is an asset, and fragments that share a name are refused.
Trusted boundary: none
Main exports:
  Directories.Offers, Directories.mem_sources_iff, Directories.nodup_handled, Sources.components,
  Sources.SortedInto, Sources.addAll_sorted, Sources.addAll_eq_error, SharedName,
  files_handled_once
-/
import Mathlib.Data.List.Forall2
import StaticSite.Proofs.Outcomes
import StaticSite.Proofs.Site.Endings
import StaticSite.Proofs.Site.Freshness

namespace StaticSite.Site

open Text FileTree

variable {directories : Directories} {tree : FileTree} {content location : Location}

/-! ### Sources and assets -/

namespace Directories

/-- There is a regular file below the directory, and not in the output directory. -/
structure Offers (directories : Directories) (tree : FileTree) (directory location : Location) :
    Prop where
  file : ∃ bytes modified, tree.get? location = some (.file bytes modified)
  below : ∃ rest, rest ≠ [] ∧ location = directory ++ rest
  outside : ¬ directories.output <+: location

theorem isSource_iff :
    directories.isSource location = true ↔
      (∃ rest, rest ≠ [] ∧ location = directories.input ++ rest) ∧
        ∃ start, (Path.ofLocation location).name = start ++ sourceEnding := by
  rw [isSource, Bool.and_eq_true, Bool.and_eq_true, isWithin_iff, bne_iff_ne, endsWith_iff]
  refine and_congr_left fun _ => ?_
  constructor
  · rintro ⟨⟨rest, rfl⟩, apart⟩
    exact ⟨rest, by simpa using apart, rfl⟩
  · rintro ⟨rest, below, rfl⟩
    exact ⟨List.prefix_append _ _, by simpa using below⟩

/-- The sources are the files below the input directory with the name of a source. -/
theorem mem_sources_iff (wellFormed : tree.WellFormed) :
    location ∈ (directories.sources tree).map (·.1) ↔
      directories.Offers tree directories.input location ∧
        ∃ start, (Path.ofLocation location).name = start ++ sourceEnding := by
  rw [sources, List.mem_map]
  constructor
  · rintro ⟨⟨place, bytes⟩, source, rfl⟩
    obtain ⟨listed, kept⟩ := List.mem_filter.mp source
    obtain ⟨modified, rest, found, shape, below⟩ := wellFormed.mem_filesBelow.mp listed
    rw [Bool.and_eq_true, isSource_iff, Bool.not_eq_true', ← Bool.not_eq_true, isOutput_iff] at kept
    exact ⟨⟨⟨bytes, modified, found⟩, ⟨rest, below, shape⟩, kept.2⟩, kept.1.2⟩
  · rintro ⟨⟨⟨bytes, modified, found⟩, ⟨rest, below, shape⟩, outside⟩, named⟩
    have listed := wellFormed.mem_filesBelow.mpr ⟨modified, rest, found, shape, below⟩
    refine ⟨(location, bytes), List.mem_filter.mpr ⟨listed, ?_⟩, rfl⟩
    rw [Bool.and_eq_true, isSource_iff, Bool.not_eq_true', ← Bool.not_eq_true, isOutput_iff]
    exact ⟨⟨⟨rest, below, shape⟩, named⟩, outside⟩

/-- The assets are the other files below the content directory. -/
theorem mem_assets_iff (wellFormed : tree.WellFormed) :
    location ∈ directories.assets tree ↔
      directories.Offers tree directories.content location ∧
        directories.isSource location = false := by
  rw [mem_assets_iff_isAssetPlace wellFormed, IsAssetPlace, ← Bool.not_eq_true (isOutput _ _),
    isOutput_iff]
  constructor
  · rintro ⟨⟨below, other, outside⟩, file⟩
    exact ⟨⟨file, below, outside⟩, other⟩
  · rintro ⟨⟨file, below, outside⟩, other⟩
    exact ⟨⟨below, other, outside⟩, file⟩

/-- No file is a source and an asset, and none is listed twice. -/
theorem nodup_handled (wellFormed : tree.WellFormed) (directories : Directories) :
    ((directories.sources tree).map (·.1) ++ directories.assets tree).Nodup := by
  apply (nodup_sources wellFormed directories).append
  · exact (wellFormed.nodup_filesBelow directories.content).filter _
  · intro location source asset
    obtain ⟨offered, named⟩ := (mem_sources_iff wellFormed).mp source
    have isSource := isSource_iff.mpr ⟨offered.below, named⟩
    rw [((mem_assets_iff wellFormed).mp asset).2] at isSource
    cases isSource

end Directories

/-! ### Sorting compiled sources -/

namespace Sources

variable {before middle after stopped : Sources} {component : Component}
  {compiled others : List Component} {file : Location × ByteArray}
  {files : List (Location × ByteArray)} {cause : SourceError}

/-- All that has been read: the fragments, then the pages, then the pages that are skipped. -/
def components (sources : Sources) : List Component :=
  sources.table.entries ++ sources.pages ++ sources.skipped

/-- Adding some components has put each of them where it belongs: the fragments into the table, and
the pages with those that are in the content directory or with those that are not. -/
structure SortedInto (content : Location) (before : Sources) (compiled : List Component)
    (after : Sources) : Prop where
  fragments : after.table.entries =
    before.table.entries ++ compiled.filter fun component => !component.isPage
  pages : after.pages = before.pages ++ (compiled.filter Component.isPage).filter
    fun page => Directories.isWithin content page.path.parts
  skipped : after.skipped = before.skipped ++ (compiled.filter Component.isPage).filter
    fun page => !Directories.isWithin content page.path.parts

theorem SortedInto.refl (content : Location) (sources : Sources) :
    SortedInto content sources [] sources where
  fragments := (List.append_nil _).symm
  pages := (List.append_nil _).symm
  skipped := (List.append_nil _).symm

theorem SortedInto.trans (first : SortedInto content before compiled middle)
    (second : SortedInto content middle others after) :
    SortedInto content before (compiled ++ others) after where
  fragments := by rw [second.fragments, first.fragments, List.filter_append, List.append_assoc]
  pages := by
    rw [second.pages, first.pages, List.filter_append, List.filter_append, List.append_assoc]
  skipped := by
    rw [second.skipped, first.skipped, List.filter_append, List.filter_append, List.append_assoc]

/-- One component is sorted. -/
theorem SortedInto.of_added (added : Added content before component after) :
    SortedInto content before [component] after := by
  cases added with
  | page isPage within => constructor <;> simp [isPage, within]
  | skipped isPage beyond => constructor <;> simp [isPage, beyond]
  | fragment isFragment entries => constructor <;> simp [isFragment, entries]

/-- The components of all files are sorted, if all of them can be used. -/
theorem addAll_sorted (read : addAll content before files = (after, none)) :
    ∃ compiled,
      List.Forall₂ (fun file component => compileSource file = .ok component) files compiled ∧
        SortedInto content before compiled after := by
  induction files generalizing before with
  | nil =>
      obtain rfl := (Prod.mk.inj read).1
      exact ⟨[], .nil, .refl content before⟩
  | cons file files inductionHypothesis =>
      rw [addAll] at read
      split at read
      case h_1 middle done =>
        obtain ⟨component, here, added⟩ := added_of_addFile done
        obtain ⟨compiled, later, sorted⟩ := inductionHypothesis read
        exact ⟨component :: compiled, .cons here later, (SortedInto.of_added added).trans sorted⟩
      case h_2 => cases (Prod.mk.inj read).2

/-- Sorting loses no component and repeats none. -/
theorem SortedInto.perm (sorted : SortedInto content .empty compiled after) :
    after.components.Perm compiled := by
  have places := List.filter_append_perm
    (fun page => Directories.isWithin content page.path.parts) (compiled.filter Component.isPage)
  rw [components, sorted.fragments, sorted.pages, sorted.skipped]
  simp only [empty, ComponentTable.empty, List.nil_append, List.append_assoc]
  exact ((places.append_left _).trans List.perm_append_comm).trans
    (List.filter_append_perm Component.isPage compiled)

/-! ### Sources that cannot be used -/

theorem register_eq_error {table : ComponentTable} {cause : RegisterError}
    (fragment : component.isPage = false) (refused : table.register component = .error cause) :
    ∃ old ∈ table.entries, old.name = component.name ∧
      cause = .duplicate component.name old.path component.path := by
  rw [ComponentTable.register, dif_neg (by simp [fragment])] at refused
  split at refused
  case h_1 old found =>
    refine ⟨old, ComponentTable.get?_mem found, ?_, (Except.error.inj refused).symm⟩
    simpa using List.find?_some found
  case h_2 => cases refused

/-- A file is refused if it does not compile, or if it is a fragment under a name in use. -/
theorem addFile_eq_error (refused : before.addFile content file = .error cause) :
    compileSource file = .error cause ∨
      ∃ component old, compileSource file = .ok component ∧ component.isPage = false ∧
        old ∈ before.table.entries ∧ old.name = component.name ∧
          cause = .register (.duplicate component.name old.path component.path) := by
  rcases bind_eq_error_iff.mp refused with failed | ⟨component, here, unsorted⟩
  · exact .inl failed
  · obtain ⟨reason, unregistered, rfl⟩ := mapError_eq_error_iff.mp unsorted
    rw [add] at unregistered
    split at unregistered
    case isTrue => split at unregistered <;> cases unregistered
    case isFalse fragment =>
      rcases bind_eq_error_iff.mp unregistered with inUse | ⟨_, _, impossible⟩
      · obtain ⟨old, entry, sameName, rfl⟩ := register_eq_error (by simpa using fragment) inUse
        exact .inr ⟨component, old, here, by simpa using fragment, entry, sameName, rfl⟩
      · cases impossible

/-- Reading stops at the first file that is refused. -/
theorem addAll_eq_error (failed : addAll content before files = (stopped, some cause)) :
    ∃ done file rest, files = done ++ file :: rest ∧
      addAll content before done = (stopped, none) ∧
        stopped.addFile content file = .error cause := by
  induction files generalizing before with
  | nil => cases (Prod.mk.inj failed).2
  | cons file files inductionHypothesis =>
      rw [addAll] at failed
      split at failed
      case h_1 middle added =>
        obtain ⟨done, last, rest, rfl, read, refused⟩ := inductionHypothesis failed
        refine ⟨file :: done, last, rest, rfl, ?_, refused⟩
        rw [addAll, added]
        exact read
      case h_2 refused =>
        obtain ⟨rfl, same⟩ := Prod.mk.inj failed
        obtain rfl := Option.some.inj same
        exact ⟨[], file, files, rfl, rfl, refused⟩

end Sources

/-! ### The sources of a build -/

variable {sources : Sources} {file : Location × ByteArray} {component : Component}
  {files : List (Location × ByteArray)} {compiled : List Component}

theorem paths_of_compiled
    (all : List.Forall₂ (fun file component => compileSource file = .ok component) files compiled) :
    compiled.map (·.path) = (files.map (·.1)).map Path.ofLocation := by
  induction all with
  | nil => rfl
  | cons here _ inductionHypothesis =>
      rw [List.map_cons, List.map_cons, List.map_cons, (compileSource_eq_ok here).1,
        inductionHypothesis]

theorem mem_of_compiled
    (all : List.Forall₂ (fun file component => compileSource file = .ok component) files compiled)
    (member : file ∈ files) (here : compileSource file = .ok component) : component ∈ compiled := by
  induction all with
  | nil => cases member
  | cons first _ inductionHypothesis =>
      rcases List.mem_cons.mp member with rfl | later
      · rw [here] at first
        rw [Except.ok.inj first]
        exact List.mem_cons_self
      · exact List.mem_cons_of_mem _ (inductionHypothesis later)

/-- If all sources can be used, what has been read are the components of all of them. -/
theorem read_paths (read : Sources.read directories tree = (sources, none)) :
    (sources.components.map (·.path)).Perm
      (((directories.sources tree).map (·.1)).map Path.ofLocation) := by
  obtain ⟨compiled, all, sorted⟩ := Sources.addAll_sorted read
  rw [← paths_of_compiled all]
  exact sorted.perm.map _

/-- If all sources can be used, each fragment is in the table. -/
theorem fragment_mem_table (read : Sources.read directories tree = (sources, none))
    (member : file ∈ directories.sources tree) (here : compileSource file = .ok component)
    (fragment : component.isPage = false) : component ∈ sources.table.entries := by
  obtain ⟨compiled, all, sorted⟩ := Sources.addAll_sorted read
  rw [sorted.fragments]
  apply List.mem_append_right
  exact List.mem_filter.mpr ⟨mem_of_compiled all member here, by rw [fragment]; rfl⟩

/-- Two different sources are fragments with the same name: the stems of their files agree up to
case. -/
def SharedName (directories : Directories) (tree : FileTree) : Prop :=
  ∃ first ∈ directories.sources tree, ∃ second ∈ directories.sources tree, first.1 ≠ second.1 ∧
    (∃ fragment, compileSource first = .ok fragment ∧ fragment.isPage = false) ∧
    (∃ fragment, compileSource second = .ok fragment ∧ fragment.isPage = false) ∧
    componentName (Path.ofLocation first.1) = componentName (Path.ofLocation second.1)

theorem not_sharedName_of_read (read : Sources.read directories tree = (sources, none)) :
    ¬ SharedName directories tree := by
  rintro ⟨first, isFirst, second, isSecond, apart, ⟨fragment, here, isFragment⟩,
    ⟨other, there, isOther⟩, sameName⟩
  obtain ⟨path, name⟩ := compileSource_eq_ok here
  obtain ⟨otherPath, otherName⟩ := compileSource_eq_ok there
  rw [← path, ← otherPath, ← name, ← otherName] at sameName
  have same := List.inj_on_of_nodup_map sources.table.distinct
    (fragment_mem_table read isFirst here isFragment)
    (fragment_mem_table read isSecond there isOther) sameName
  rw [same, otherPath] at path
  exact apart (congrArg Path.parts path).symm

/-- If all sources compile, reading them fails over a name that two of them share. -/
theorem sharedName_of_refused (wellFormed : tree.WellFormed)
    (compile : ∀ file ∈ directories.sources tree, Succeeds (compileSource file))
    {stopped : Sources} {cause : SourceError}
    (refused : Sources.read directories tree = (stopped, some cause)) :
    SharedName directories tree ∧
      ∃ name old new, cause = .register (.duplicate name old new) := by
  obtain ⟨done, file, rest, split, read, failed⟩ := Sources.addAll_eq_error refused
  have isFile : file ∈ directories.sources tree := by
    rw [split]
    exact List.mem_append_right done List.mem_cons_self
  rcases Sources.addFile_eq_error failed with broken | ⟨component, old, here, fragment, entry,
    sameName, rfl⟩
  · have compiles := compile file isFile
    rw [broken] at compiles
    exact absurd compiles (not_succeeds_error cause)
  -- The entry in its way comes from one of the files before it.
  · have earlier := ((CompiledFrom.of_empty directories.content).addAll done).fragmentFile
    rw [read] at earlier
    obtain ⟨first, isDone, there⟩ := earlier old entry
    have isFirst : first ∈ directories.sources tree := by
      rw [split]
      exact List.mem_append_left _ isDone
    have distinct := Directories.nodup_sources wellFormed directories
    rw [split, List.map_append, List.map_cons] at distinct
    have apart : first.1 ≠ file.1 :=
      (List.nodup_append.mp distinct).2.2 _ (List.mem_map_of_mem isDone) _ List.mem_cons_self
    obtain ⟨path, name⟩ := compileSource_eq_ok here
    obtain ⟨oldPath, oldName⟩ := compileSource_eq_ok there
    rw [oldName, name, oldPath, path] at sameName
    exact ⟨⟨first, isFirst, file, isFile, apart,
      ⟨old, there, stopped.table.fragments old entry⟩, ⟨component, here, fragment⟩, sameName⟩,
      component.name, old.path, component.path, rfl⟩

/-- If all sources compile, a name is refused exactly if two of them share it. -/
theorem refused_iff_sharedName (wellFormed : tree.WellFormed)
    (compile : ∀ file ∈ directories.sources tree, Succeeds (compileSource file)) :
    (∃ stopped name old new, Sources.read directories tree =
        (stopped, some (.register (.duplicate name old new)))) ↔
      SharedName directories tree := by
  constructor
  · rintro ⟨stopped, name, old, new, refused⟩
    exact (sharedName_of_refused wellFormed compile refused).1
  · intro shared
    cases reading : Sources.read directories tree with
    | mk stopped outcome =>
        cases outcome with
        | none => exact absurd shared (not_sharedName_of_read reading)
        | some cause =>
            obtain ⟨-, name, old, new, rfl⟩ := sharedName_of_refused wellFormed compile reading
            exact ⟨stopped, name, old, new, rfl⟩

/-! ### Every file once -/

section

variable {places : List Location}

/-- Paths that are those of some places, in any order, have each of them once. -/
theorem count_eq_one_of_perm {paths : List Path} (same : paths.Perm (places.map Path.ofLocation))
    (distinct : places.Nodup) (member : location ∈ places) :
    paths.count (Path.ofLocation location) = 1 := by
  rw [same.count_eq]
  apply List.count_eq_one_of_mem (distinct.map ofLocation_injective)
  exact List.mem_map_of_mem member

end

/-- Every source is read once. -/
theorem count_source (wellFormed : tree.WellFormed)
    (read : Sources.read directories tree = (sources, none))
    (offered : directories.Offers tree directories.input location)
    (named : ∃ start, (Path.ofLocation location).name = start ++ Directories.sourceEnding) :
    (sources.components.map (·.path)).count (Path.ofLocation location) = 1 := by
  apply count_eq_one_of_perm (read_paths read) (Directories.nodup_sources wellFormed directories)
  exact (Directories.mem_sources_iff wellFormed).mpr ⟨offered, named⟩

/-- Every file of the content is read once or is an asset once. -/
theorem count_handled (wellFormed : tree.WellFormed)
    (read : Sources.read directories tree = (sources, none))
    (offered : directories.Offers tree directories.content location) :
    (sources.components.map (·.path) ++ (directories.assets tree).map Path.ofLocation).count
      (Path.ofLocation location) = 1 := by
  have handled := (read_paths read).append_right ((directories.assets tree).map Path.ofLocation)
  rw [← List.map_append] at handled
  apply count_eq_one_of_perm handled (Directories.nodup_handled wellFormed directories)
  apply List.mem_append.mpr
  cases kind : directories.isSource location with
  | true =>
      obtain ⟨below, named⟩ := Directories.isSource_iff.mp kind
      exact .inl ((Directories.mem_sources_iff wellFormed).mpr
        ⟨⟨offered.file, below, offered.outside⟩, named⟩)
  | false => exact .inr ((Directories.mem_assets_iff wellFormed).mpr ⟨offered, kind⟩)

/-- No source is lost or handled twice.  If the sources can be read, every source below the input
directory is once among the fragments, the pages and the skipped pages, and every file below the
content directory is once among these and the assets.  If all sources compile, reading them fails
over a name exactly if two fragments share it. -/
theorem files_handled_once (wellFormed : tree.WellFormed) (directories : Directories) :
    (∀ sources, Sources.read directories tree = (sources, none) →
      (∀ location, directories.Offers tree directories.input location →
        (∃ start, (Path.ofLocation location).name = start ++ ".html") →
        (sources.components.map (·.path)).count (Path.ofLocation location) = 1) ∧
      (∀ location, directories.Offers tree directories.content location →
        (sources.components.map (·.path) ++
          (directories.assets tree).map Path.ofLocation).count (Path.ofLocation location) = 1)) ∧
    ((∀ file ∈ directories.sources tree, Succeeds (compileSource file)) →
      ((∃ stopped name old new, Sources.read directories tree =
          (stopped, some (.register (.duplicate name old new)))) ↔
        SharedName directories tree)) := by
  refine ⟨fun sources read => ⟨?_, ?_⟩, ?_⟩
  · intro location offered named
    exact count_source wellFormed read offered named
  · intro location offered
    exact count_handled wellFormed read offered
  · exact refused_iff_sharedName wellFormed

/-- Pages are built in a directory of their own, next to what they are written to. -/
def pagesDirectories : Directories :=
  ⟨["site"], ["site", "out"], ["site", "pages"]⟩

/-- A fragment and a page outside of that directory, a page and an asset in it, and what an earlier
build has written. -/
def sortedSite : FileTree :=
  siteOf [["out"], ["pages"]]
    [ (["index.html"], "<!DOCTYPE html>Home"), (["x-card.html"], "<p>Card</p>"),
      (["out", "about.html"], "<!DOCTYPE html>About"),
      (["pages", "about.html"], "<!DOCTYPE html>About"), (["pages", "style.css"], "p \x7b\x7d") ]

/-- Two fragments whose names differ in case only. -/
def cardTwice : FileTree :=
  siteOf [["more"]] [(["x-card.html"], "One"), (["more", "X-Card.html"], "Two")]

/-- The fragment that such a file compiles to. -/
def cardOf (place : Location) (text : String) : Component :=
  ⟨"x-card", Path.ofLocation place, [.string .text text], text⟩

/-- In the first site every file is handled once; in the second one the name is refused. -/
theorem handled_once_of_samples :
    sortedSite.WellFormed ∧
    (∃ sources, Sources.read pagesDirectories sortedSite = (sources, none) ∧
      sources.table.names = ["x-card"] ∧ sources.pages.map (·.name) = ["about"] ∧
      sources.skipped.map (·.name) = ["index"] ∧
      (sources.components.map (·.path)).count (Path.ofLocation ["site", "x-card.html"]) = 1 ∧
      (sources.components.map (·.path) ++
        (pagesDirectories.assets sortedSite).map Path.ofLocation).count
          (Path.ofLocation ["site", "pages", "style.css"]) = 1) ∧
    cardTwice.WellFormed ∧
    (∀ file ∈ pagesDirectories.sources cardTwice, Succeeds (compileSource file)) ∧
    SharedName pagesDirectories cardTwice ∧
    (∃ stopped name old new, Sources.read pagesDirectories cardTwice =
      (stopped, some (.register (.duplicate name old new)))) := by
  have sorted : sortedSite.WellFormed := by decide
  have twice : cardTwice.WellFormed := by decide
  have files : pagesDirectories.sources cardTwice =
      [ (["site", "more", "X-Card.html"], encode "Two"),
        (["site", "x-card.html"], encode "One") ] := by
    decide +kernel
  have one : compileSource (["site", "x-card.html"], encode "One") =
      .ok (cardOf ["site", "x-card.html"] "One") := by
    decide +kernel
  have two : compileSource (["site", "more", "X-Card.html"], encode "Two") =
      .ok (cardOf ["site", "more", "X-Card.html"] "Two") := by
    decide +kernel
  have compile : ∀ file ∈ pagesDirectories.sources cardTwice, Succeeds (compileSource file) := by
    rw [files]
    intro file isFile
    rcases List.mem_pair.mp isFile with rfl | rfl
    · exact ⟨_, two⟩
    · exact ⟨_, one⟩
  have shared : SharedName pagesDirectories cardTwice := by
    refine ⟨(["site", "x-card.html"], encode "One"), ?_,
      (["site", "more", "X-Card.html"], encode "Two"), ?_, by decide, ⟨_, one, by decide⟩,
      ⟨_, two, by decide⟩, by decide +kernel⟩
    · rw [files]
      exact List.mem_cons_of_mem _ List.mem_cons_self
    · rw [files]
      exact List.mem_cons_self
  have read : (Sources.read pagesDirectories sortedSite).2 = none := by decide +kernel
  have handled := (files_handled_once sorted pagesDirectories).1 _ (Prod.ext rfl read)
  refine ⟨sorted, ⟨_, Prod.ext rfl read, by decide +kernel, by decide +kernel, by decide +kernel,
    handled.1 _ ?_ ⟨"x-card", by decide +kernel⟩, handled.2 _ ?_⟩, twice, compile, shared,
    ((files_handled_once twice pagesDirectories).2 compile).mpr shared⟩
  · exact ⟨⟨_, _, rfl⟩, ⟨["x-card.html"], by decide, rfl⟩, by decide⟩
  · exact ⟨⟨_, _, rfl⟩, ⟨["style.css"], by decide, rfl⟩, by decide⟩

end StaticSite.Site
