/-
Module: StaticSite.Proofs.Site.PageAddresses
Purpose: When two pages of a site are written to one path.  A page that is no index page gets a
  directory of its own name, and there may be pages in that directory, or other pages that come
  to have that name once its letters are lower-case ones.
Trusted boundary: none
Main exports:
  Directories.ownDirectory, Directories.Collide, outputPath_eq_iff, outputPaths_apart_iff,
  outputPaths_of_page_and_directory
-/
import StaticSite.Proofs.Site.Endings

namespace StaticSite.Site

open Text FileTree

namespace Directories

/-- The directory that a page gets for itself, seen from the output directory.  A name that is
a single dot says nothing in a path. -/
def ownDirectory (directories : Directories) (page : Component) : List String :=
  (directories.relativeParts page.path.parts).dropLast ++
    if page.name = "." then [] else [page.name]

/-- Two pages want one file: they get the same directory, or one of them is the file
`index.html` in the directory that the other one gets. -/
def Collide (directories : Directories) (page other : Component) : Prop :=
  (page.name ≠ indexName ∧ other.name ≠ indexName ∧
      directories.ownDirectory page = directories.ownDirectory other) ∨
    (page.name ≠ indexName ∧ directories.relativeParts other.path.parts =
      directories.ownDirectory page ++ [indexName ++ sourceEnding]) ∨
    (other.name ≠ indexName ∧ directories.relativeParts page.path.parts =
      directories.ownDirectory other ++ [indexName ++ sourceEnding])

instance (directories : Directories) (page other : Component) :
    Decidable (directories.Collide page other) :=
  inferInstanceAs (Decidable (_ ∨ _ ∨ _))

end Directories

open Directories

variable {directories : Directories} {tree : FileTree} {page other : Component}

/-! ### Where a page goes -/

theorem outputPath_of_index (directories : Directories) (index : page.name = indexName) :
    directories.outputPath page =
      Path.ofLocation (directories.output ++ directories.relativeParts page.path.parts) := by
  rw [outputPath, if_pos index]
  rfl

theorem outputPath_of_name (directories : Directories) (named : page.name ≠ indexName)
    (free : '/' ∉ page.name.toList) (nonempty : page.name ≠ "") :
    directories.outputPath page =
      Path.ofLocation (directories.output ++
        (directories.ownDirectory page ++ [indexName ++ sourceEnding])) := by
  rw [outputPath, if_neg named, Path.ofString_name free nonempty, ownDirectory]
  simp [Path.join, Path.isAbsolute, Path.append, outputRoot, Path.ofLocation]

/-- Pages go to absolute paths. -/
theorem outputPath_eq_ofLocation (wellFormed : tree.WellFormed)
    (isPage : page ∈ (Sources.read directories tree).1.pages) :
    directories.outputPath page = Path.ofLocation (directories.outputPath page).parts := by
  obtain ⟨free, nonempty⟩ := name_of_page wellFormed isPage
  by_cases index : page.name = indexName
  · rw [outputPath_of_index directories index]
    rfl
  · rw [outputPath_of_name directories index free nonempty]
    rfl

theorem ofLocation_append_inj {output first second : Location} :
    Path.ofLocation (output ++ first) = Path.ofLocation (output ++ second) ↔ first = second :=
  ⟨fun same => List.append_cancel_left (congrArg Path.parts same), fun same => by rw [same]⟩

theorem straight_relativeParts (wellFormed : tree.WellFormed)
    (isPage : page ∈ (Sources.read directories tree).1.pages) :
    ".." ∉ directories.relativeParts page.path.parts := by
  obtain ⟨rest, bytes, modified, path, found, -⟩ := page_cases wellFormed isPage
  have relative : directories.relativeParts page.path.parts = rest := by
    rw [path]
    exact relativeParts_append directories rest
  rw [relative]
  exact fun member => wellFormed.straight_of_get? found (List.mem_append_right _ member)

/-- Nothing but two dots for a name leads out of the directory of a page. -/
theorem straight_outputPath (straight : ".." ∉ directories.output) (wellFormed : tree.WellFormed)
    (isPage : page ∈ (Sources.read directories tree).1.pages) (noDots : page.name ≠ "..") :
    ".." ∉ (directories.outputPath page).parts := by
  obtain ⟨free, nonempty⟩ := name_of_page wellFormed isPage
  have straightRest := straight_relativeParts wellFormed isPage
  by_cases index : page.name = indexName
  · rw [outputPath_of_index directories index]
    simpa [Path.ofLocation] using ⟨straight, straightRest⟩
  · rw [outputPath_of_name directories index free nonempty, ownDirectory]
    have above : ".." ∉ (directories.relativeParts page.path.parts).dropLast := fun member =>
      straightRest (List.dropLast_subset _ member)
    have file : ".." ≠ indexName ++ sourceEnding := by decide
    split <;> simp [Path.ofLocation, straight, above, file, Ne.symm noDots]

/-- A file `index.html` is an index page. -/
theorem isIndex_of_file (wellFormed : tree.WellFormed)
    (isPage : page ∈ (Sources.read directories tree).1.pages) {above : List String}
    (isFile : directories.relativeParts page.path.parts =
      above ++ [indexName ++ sourceEnding]) : page.name = indexName := by
  obtain ⟨rest, bytes, modified, path, -, name⟩ := page_cases wellFormed isPage
  rw [path] at isFile
  have shape : rest = above ++ [indexName ++ sourceEnding] := by
    simpa [Path.ofLocation] using isFile
  have last : page.path.name = indexName ++ sourceEnding := by
    rw [path, Path.name, Path.ofLocation, shape, ← List.append_assoc, List.getLastD_concat]
  rw [name, componentName, Path.stem, last]
  decide

/-! ### When two pages go to one path -/

/-- Pages at the same place below the content directory are one page. -/
theorem eq_of_relativeParts (wellFormed : tree.WellFormed)
    (isPage : page ∈ (Sources.read directories tree).1.pages)
    (isOther : other ∈ (Sources.read directories tree).1.pages)
    (same : directories.relativeParts page.path.parts =
      directories.relativeParts other.path.parts) : page = other := by
  obtain ⟨rest, _, _, path, -⟩ := page_cases wellFormed isPage
  obtain ⟨otherRest, _, _, otherPath, -⟩ := page_cases wellFormed isOther
  apply List.inj_on_of_nodup_map (nodup_page_paths wellFormed directories) isPage isOther
  rw [path, otherPath] at same ⊢
  have rests : rest = otherRest := by simpa [Path.ofLocation] using same
  rw [rests]

/-- The pages of a build. -/
def pagesOf (current : Location) (config : BuildConfig) (tree : FileTree) : List Component :=
  (Sources.read (Directories.of current config) tree).1.pages

/-- Different pages go to one path exactly when they want one file. -/
theorem outputPath_eq_iff (wellFormed : tree.WellFormed)
    (isPage : page ∈ (Sources.read directories tree).1.pages)
    (isOther : other ∈ (Sources.read directories tree).1.pages) (different : page ≠ other) :
    directories.outputPath page = directories.outputPath other ↔
      directories.Collide page other := by
  obtain ⟨free, nonempty⟩ := name_of_page wellFormed isPage
  obtain ⟨otherFree, otherNonempty⟩ := name_of_page wellFormed isOther
  by_cases index : page.name = indexName <;> by_cases otherIndex : other.name = indexName
  · rw [outputPath_of_index directories index, outputPath_of_index directories otherIndex,
      ofLocation_append_inj]
    refine iff_of_false (fun same => ?_) (by simp [Collide, index, otherIndex])
    exact different (eq_of_relativeParts wellFormed isPage isOther same)
  · rw [outputPath_of_index directories index,
      outputPath_of_name directories otherIndex otherFree otherNonempty, ofLocation_append_inj]
    simp [Collide, index, otherIndex]
  · rw [outputPath_of_name directories index free nonempty,
      outputPath_of_index directories otherIndex, ofLocation_append_inj, eq_comm]
    simp [Collide, index, otherIndex]
  · rw [outputPath_of_name directories index free nonempty,
      outputPath_of_name directories otherIndex otherFree otherNonempty, ofLocation_append_inj,
      List.append_cancel_right_eq]
    -- Neither page is an index page, so neither is the file in the directory of the other.
    refine ⟨fun same => .inl ⟨index, otherIndex, same⟩, ?_⟩
    rintro (⟨-, -, same⟩ | ⟨-, isFile⟩ | ⟨-, isFile⟩)
    · exact same
    · exact absurd (isIndex_of_file wellFormed isOther isFile) otherIndex
    · exact absurd (isIndex_of_file wellFormed isPage isFile) index

/-- The pages of a build have paths of their own exactly when no two of them want one file:
two different pages that do are written to one path, and others are not.  What is said of paths
holds of the places they lead to as well, as long as no page is named by two dots. -/
theorem outputPaths_apart_iff (wellFormed : tree.WellFormed) (current : Location)
    (config : BuildConfig) :
    (∀ page ∈ pagesOf current config tree, ∀ other ∈ pagesOf current config tree, page ≠ other →
      ((Directories.of current config).outputPath page =
          (Directories.of current config).outputPath other ↔
        (Directories.of current config).Collide page other)) ∧
    (∀ page ∈ pagesOf current config tree, ∀ other ∈ pagesOf current config tree, page ≠ other →
      page.name ≠ ".." → other.name ≠ ".." →
      (((Directories.of current config).outputPath page).resolveParts [] =
          ((Directories.of current config).outputPath other).resolveParts [] ↔
        (Directories.of current config).Collide page other)) ∧
    (((pagesOf current config tree).map (Directories.of current config).outputPath).Nodup ↔
      ∀ page ∈ pagesOf current config tree, ∀ other ∈ pagesOf current config tree,
        page ≠ other → ¬ (Directories.of current config).Collide page other) := by
  refine ⟨?_, ?_, ?_⟩
  · intro page isPage other isOther different
    exact outputPath_eq_iff wellFormed isPage isOther different
  · intro page isPage other isOther different noDots otherNoDots
    have straight := Path.straight_resolveParts current config.outputDir
    rw [← outputPath_eq_iff wellFormed isPage isOther different, Path.resolveParts_root,
      Path.resolveParts_root,
      Path.walk_of_straight (straight_outputPath straight wellFormed isPage noDots),
      Path.walk_of_straight (straight_outputPath straight wellFormed isOther otherNoDots),
      outputPath_eq_ofLocation wellFormed isPage, outputPath_eq_ofLocation wellFormed isOther]
    exact ⟨fun same => congrArg Path.ofLocation same, fun same => congrArg Path.parts same⟩
  · have distinct : (pagesOf current config tree).Nodup :=
      .of_map _ (nodup_page_paths wellFormed (Directories.of current config))
    rw [List.nodup_map_iff_inj_on distinct]
    constructor
    · intro injective page isPage other isOther different collide
      exact different (injective page isPage other isOther
        ((outputPath_eq_iff wellFormed isPage isOther different).mpr collide))
    · intro apart page isPage other isOther same
      by_contra different
      exact apart page isPage other isOther different
        ((outputPath_eq_iff wellFormed isPage isOther different).mp same)

/-- A page, and the index page of a directory. -/
def pagesApart : FileTree :=
  siteOf [["news"]]
    [(["about.html"], "<!DOCTYPE html>About"), (["news", "index.html"], "<!DOCTYPE html>News")]

/-- The pages of that site have paths of their own. -/
theorem outputPaths_apart_of_sample :
    pagesApart.WellFormed ∧
    (pagesOf [] (siteConfig "/scripts/") pagesApart).map (·.name) = ["about", "index"] ∧
    ((pagesOf [] (siteConfig "/scripts/") pagesApart).map
      (Directories.of [] (siteConfig "/scripts/")).outputPath).Nodup := by
  have wellFormed : pagesApart.WellFormed := by decide
  refine ⟨wellFormed, by decide +kernel, ?_⟩
  apply (outputPaths_apart_iff wellFormed [] (siteConfig "/scripts/")).2.2.mpr
  decide +kernel

/-- A page, and the index page of the directory of its name. -/
def pageAndDirectory : FileTree :=
  siteOf [["about"]]
    [(["about.html"], "<!DOCTYPE html>One"), (["about", "index.html"], "<!DOCTYPE html>Two")]

/-- Both pages of that site go to one path: of two pages that are built, and reported as
written, only one is left. -/
theorem outputPaths_of_page_and_directory :
    pageAndDirectory.WellFormed ∧
    (pagesOf [] (siteConfig "/scripts/") pageAndDirectory).map (·.path) =
      [ Path.ofLocation ["site", "about", "index.html"], Path.ofLocation ["site", "about.html"] ] ∧
    (pagesOf [] (siteConfig "/scripts/") pageAndDirectory).map
        (Directories.of [] (siteConfig "/scripts/")).outputPath =
      [ Path.ofLocation ["site", "out", "about", "index.html"],
        Path.ofLocation ["site", "out", "about", "index.html"] ] ∧
    (build pageAndDirectory 9 [] (siteConfig "/scripts/")).outcome.toOption.map BuildResult.pages =
      some [ Path.ofLocation ["site", "out", "about", "index.html"],
        Path.ofLocation ["site", "out", "about", "index.html"] ] ∧
    (build pageAndDirectory 9 [] (siteConfig "/scripts/")).tree.contents
        (Path.ofLocation ["site", "out", "about", "index.html"]) =
      .ok (encode "<!DOCTYPE html>\nOne\n") := by
  decide +kernel

end StaticSite.Site
