/-
Module: StaticSite.Proofs.Site.Freshness
Purpose: Assets and the times of their copies.  Once copying has succeeded, each asset has a file
  at its target that does not count as older, and a file that did not before is as it was; neither
  copying nor the writing of pages touches a place where an asset could be.
Trusted boundary: none
Main exports:
  Directories.IsAssetPlace, Directories.mem_assets_iff_isAssetPlace, IsFresh, isFresh_of_isUpToDate,
  isUpToDate_of_isFresh, isFresh_of_copying, kept_of_copying, Directories.source_of_holdsCopy,
  not_isAssetPlace_of_page
-/
import StaticSite.Proofs.Site.Containment

namespace StaticSite.Site

open Text FileTree

variable {directories : Directories} {tree current after : FileTree} {now : Int}
  {location rest : Location} {page : Component} {entry : Entry} {bytes : ByteArray}
  {modified : Int}

/-! ### Places of assets -/

namespace Directories

/-- A file at this place is an asset. -/
def IsAssetPlace (directories : Directories) (location : Location) : Prop :=
  (∃ rest, rest ≠ [] ∧ location = directories.content ++ rest) ∧
    directories.isSource location = false ∧ directories.isOutput location = false

theorem mem_assets_iff_isAssetPlace (wellFormed : tree.WellFormed) :
    location ∈ directories.assets tree ↔
      directories.IsAssetPlace location ∧
        ∃ bytes modified, tree.get? location = some (.file bytes modified) := by
  rw [assets, List.mem_filter, List.mem_map, IsAssetPlace]
  simp only [Bool.and_eq_true, Bool.not_eq_true']
  constructor
  · rintro ⟨⟨⟨place, bytes⟩, listed, rfl⟩, kept⟩
    obtain ⟨modified, rest, found, shape, below⟩ := wellFormed.mem_filesBelow.mp listed
    exact ⟨⟨⟨rest, below, shape⟩, kept⟩, bytes, modified, found⟩
  · rintro ⟨⟨⟨rest, below, shape⟩, kept⟩, bytes, modified, found⟩
    exact ⟨⟨⟨location, bytes⟩, wellFormed.mem_filesBelow.mpr
      ⟨modified, rest, found, shape, below⟩, rfl⟩, kept⟩

/-- Below no directory that is the target of an asset, a copy is of the asset that has the
place for its target. -/
theorem source_of_holdsCopy (wellFormed : tree.WellFormed)
    (free : ∀ asset ∈ directories.assets tree,
      tree.isDirectory (directories.assetTarget asset) = false)
    (holds : directories.HoldsCopy tree (directories.output ++ rest) entry) :
    tree.get? (directories.content ++ rest) = some entry := by
  obtain ⟨asset, isAsset, isEntry, place⟩ := holds
  obtain ⟨others, _, _, rfl, -⟩ := asset_cases wellFormed isAsset
  rcases place with here | ⟨isDirectory, -⟩
  · rw [assetTarget_parts, List.append_cancel_left_eq] at here
    rwa [here]
  · rw [free _ isAsset] at isDirectory
    cases isDirectory

/-- A page that is in the content directory itself is a source, so that the content directory is
inside of the input directory. -/
theorem input_prefix_content (wellFormed : tree.WellFormed)
    (isPage : page ∈ (Sources.read directories tree).1.pages)
    (short : (directories.relativeParts page.path.parts).length ≤ 1) :
    directories.input <+: directories.content := by
  obtain ⟨⟨place, bytes⟩, source, compiled⟩ :=
    (compiledFrom_read directories tree).pageFile page isPage
  obtain ⟨rest, _, _, path, -, -⟩ := page_cases wellFormed isPage
  obtain rfl : place = directories.content ++ rest := by
    rw [(compileSource_eq_ok compiled).1] at path
    exact congrArg Path.parts path
  have few : rest.length ≤ 1 := by
    rw [path] at short
    simpa [Path.ofLocation] using short
  have kept := (List.mem_filter.mp source).2
  simp only [isSource, Bool.and_eq_true, bne_iff_ne, isWithin_iff] at kept
  obtain ⟨⟨⟨inside, apart⟩, -⟩, -⟩ := kept
  rcases rest with _ | ⟨name, _ | _⟩
  · simpa using inside
  · exact (List.prefix_concat_iff.mp inside).resolve_left (Ne.symm apart)
  · simp at few

theorem endsWith_indexFile : endsWith (indexName ++ sourceEnding) sourceEnding = true := by
  decide

/-- A page is written inside, or where a file would be a source. -/
theorem not_isAssetPlace_of_page (straight : ".." ∉ directories.output)
    (wellFormed : tree.WellFormed) (isPage : page ∈ (Sources.read directories tree).1.pages) :
    ¬ directories.IsAssetPlace (Path.walk [] (directories.outputPath page).parts) := by
  rintro ⟨⟨onwards, below, place⟩, notSource, outside⟩
  by_cases dots : page.name = ".."
  case neg =>
    rw [isOutput_outputPath straight wellFormed isPage dots] at outside
    cases outside
  case pos =>
    have walked := walk_outputPath_of_dots straight wellFormed isPage dots
    rw [walked] at place notSource outside
    -- Two dots lead out only if the page is in the content directory itself; that is then inside
    -- of the input directory, and so is the place.
    by_cases short : (directories.relativeParts page.path.parts).length ≤ 1
    case neg =>
      have inside := isOutput_iff.mpr (((prefix_back_iff directories.output _).mpr
        fun few => absurd few short).trans (List.prefix_append _ [indexName ++ sourceEnding]))
      rw [outside] at inside
      cases inside
    case pos =>
      have contentInside := input_prefix_content wellFormed isPage short
      rw [place] at notSource
      have file : (directories.content ++ onwards).getLastD "" = indexName ++ sourceEnding := by
        rw [← place, List.getLastD_concat]
      have within : isWithin directories.input (directories.content ++ onwards) = true :=
        isWithin_iff.mpr (contentInside.trans (List.prefix_append _ _))
      have apart : directories.content ++ onwards ≠ directories.input := by
        intro same
        have shorter := contentInside.length_le
        have positive := List.length_pos_of_ne_nil below
        rw [← same, List.length_append] at shorter
        omega
      rw [isSource, within, file, endsWith_indexFile] at notSource
      simp [apart] at notSource

end Directories

/-! ### Fresh copies -/

/-- There is a file at the target of the asset, and it does not count as older than the asset. -/
def IsFresh (directories : Directories) (tree : FileTree) (location : Location) : Prop :=
  ∃ bytes modified held copied, tree.get? location = some (.file bytes modified) ∧
    tree.get? (directories.assetTarget location).parts = some (.file held copied) ∧
      FileTime.seconds modified ≤ FileTime.seconds copied

theorem isFresh_of_isUpToDate (straightSource : ".." ∉ location)
    (straightTarget : ".." ∉ (directories.assetTarget location).parts)
    (upToDate : (directories.copyOf location).isUpToDate current = true) :
    IsFresh directories current location := by
  rw [Directories.copyOf, Artefact.isUpToDate] at upToDate
  split at upToDate
  case h_1 copied changed isCopied isChanged =>
    obtain ⟨place, held, found, isHeld⟩ := modified?_eq_some_iff.mp isCopied
    obtain ⟨source, bytes, foundSource, isSource⟩ := modified?_eq_some_iff.mp isChanged
    obtain ⟨rfl, -⟩ := (locate_straight_iff straightTarget).mp found
    obtain ⟨rfl, -⟩ := (locate_straight_iff straightSource).mp foundSource
    exact ⟨bytes, changed, held, copied, isSource, isHeld, of_decide_eq_true upToDate⟩
  case h_2 => cases upToDate

theorem isUpToDate_of_times {changed copied : Int}
    (sourceTime : current.modified? (Path.ofLocation location) = some changed)
    (targetTime : current.modified? (directories.assetTarget location) = some copied)
    (newer : FileTime.seconds changed ≤ FileTime.seconds copied) :
    (directories.copyOf location).isUpToDate current = true := by
  simp [Directories.copyOf, Artefact.isUpToDate, sourceTime, targetTime, newer]

theorem isUpToDate_of_isFresh (wellFormed : current.WellFormed)
    (fresh : IsFresh directories current location) :
    (directories.copyOf location).isUpToDate current = true := by
  obtain ⟨bytes, changed, held, copied, isSource, isHeld, newer⟩ := fresh
  exact isUpToDate_of_times (wellFormed.modified?_eq isSource) (wellFormed.modified?_eq isHeld)
    newer

section

variable (wellFormed : tree.WellFormed) (straight : ".." ∉ directories.output)

include wellFormed

/-- A fresh copy stays fresh while assets are copied. -/
theorem IsFresh.later {later : FileTree} (asset : location ∈ directories.assets tree)
    (fresh : IsFresh directories current location)
    (sofar : Becomes (directories.LeadsToAsset tree) (directories.HoldsCopy tree) tree current)
    (becomes : Becomes (directories.LeadsToAsset tree) (directories.HoldsCopy tree) current later) :
    IsFresh directories later location := by
  obtain ⟨bytes, modified, held, copied, isSource, isHeld, newer⟩ := fresh
  have sourceLater : later.get? location = some (.file bytes modified) := by
    rw [source_kept wellFormed asset (sofar.trans becomes), ← source_kept wellFormed asset sofar,
      isSource]
  rcases (becomes _).file_after isHeld with kept | ⟨entry, written, holds⟩
  · exact ⟨bytes, modified, held, copied, sourceLater, kept, newer⟩
  · have own := Directories.eq_of_holdsCopy wellFormed asset holds
    rw [← source_kept wellFormed asset sofar, isSource] at own
    exact ⟨bytes, modified, bytes, modified, sourceLater, written.trans own.symm, le_rfl⟩

include straight

/-- An asset that has just been copied has a fresh copy. -/
theorem isFresh_of_put (asset : location ∈ directories.assets tree)
    (sofar : Becomes (directories.LeadsToAsset tree) (directories.HoldsCopy tree) tree current)
    (free : tree.isDirectory (directories.assetTarget location) = false)
    (succeeded : (directories.copyOf location).put now current = (after, none)) :
    IsFresh directories after location := by
  have step := put_copyOf_becomes wellFormed straight asset sofar now
  rw [succeeded] at step
  obtain ⟨-, same⟩ := found_of_put_copyOf wellFormed straight asset sofar free succeeded
  obtain ⟨_, bytes, modified, -, -, isSource, -⟩ := Directories.asset_cases wellFormed asset
  refine ⟨bytes, modified, bytes, modified, ?_, by rw [same, isSource], le_rfl⟩
  rw [source_kept wellFormed asset (sofar.trans step), isSource]

theorem isFresh_of_copies {locations : List Location}
    (assets : ∀ location ∈ locations, location ∈ directories.assets tree)
    (free : ∀ asset ∈ directories.assets tree,
      tree.isDirectory (directories.assetTarget asset) = false)
    (sofar : Becomes (directories.LeadsToAsset tree) (directories.HoldsCopy tree) tree current)
    (succeeded : (putAll now current (locations.map directories.copyOf)).error = none) :
    ∀ location ∈ locations, IsFresh directories
      (putAll now current (locations.map directories.copyOf)).tree location := by
  induction locations generalizing current with
  | nil => exact List.forall_mem_nil _
  | cons first rest inductionHypothesis =>
      obtain ⟨asset, others⟩ := List.forall_mem_cons.mp assets
      rw [List.map_cons] at succeeded ⊢
      rw [List.forall_mem_cons]
      rcases putAll_of_ok succeeded with ⟨upToDate, run⟩ | ⟨after, -, isPut, run⟩
      -- An asset is passed over because its copy is fresh already.
      · rw [run] at succeeded ⊢
        obtain ⟨_, _, _, -, -, isSource, -⟩ := Directories.asset_cases wellFormed asset
        have fresh := isFresh_of_isUpToDate (wellFormed.straight_of_get? isSource)
          (straight_assetTarget wellFormed straight asset) upToDate
        exact ⟨fresh.later wellFormed asset sofar
            (putAll_copies_becomes wellFormed straight others sofar now),
          inductionHypothesis others sofar succeeded⟩
      · rw [run] at succeeded ⊢
        have step := put_copyOf_becomes wellFormed straight asset sofar now
        rw [isPut] at step
        have reached := sofar.trans step
        have fresh := isFresh_of_put wellFormed straight asset sofar (free first asset) isPut
        exact ⟨fresh.later wellFormed asset reached
            (putAll_copies_becomes wellFormed straight others reached now),
          inductionHypothesis others reached succeeded⟩

/-- After copying has succeeded, every asset has a fresh copy, whether it was made now or left
as it was. -/
theorem isFresh_of_copying
    (free : ∀ asset ∈ directories.assets tree,
      tree.isDirectory (directories.assetTarget asset) = false)
    (succeeded : (copying directories tree now).error = none) :
    ∀ asset ∈ directories.assets tree,
      IsFresh directories (copying directories tree now).tree asset :=
  isFresh_of_copies wellFormed straight (fun _ member => member) free (.refl _ _ tree) succeeded

/-! ### Fresh copies are left alone -/

omit straight in
/-- While its copy is as it has been, an asset with a fresh copy counts as up to date. -/
theorem isUpToDate_of_kept (asset : location ∈ directories.assets tree)
    (fresh : IsFresh directories tree location)
    (sofar : Becomes (directories.LeadsToAsset tree) (directories.HoldsCopy tree) tree current)
    (kept : current.get? (directories.assetTarget location).parts =
      tree.get? (directories.assetTarget location).parts) :
    (directories.copyOf location).isUpToDate current = true := by
  obtain ⟨bytes, changed, held, copied, isSource, isHeld, newer⟩ := fresh
  have sourceTime : current.modified? (Path.ofLocation location) = some changed :=
    modified?_eq_some_iff.mpr ⟨_, bytes, sofar.locate_after (wellFormed.locate_eq isSource),
      (source_kept wellFormed asset sofar).trans isSource⟩
  have targetTime : current.modified? (directories.assetTarget location) = some copied :=
    modified?_eq_some_iff.mpr ⟨_, held, sofar.locate_after (wellFormed.locate_eq isHeld),
      kept.trans isHeld⟩
  exact isUpToDate_of_times sourceTime targetTime newer

theorem kept_of_copies {locations : List Location}
    (assets : ∀ location ∈ locations, location ∈ directories.assets tree)
    (asset : location ∈ directories.assets tree) (fresh : IsFresh directories tree location)
    (sofar : Becomes (directories.LeadsToAsset tree) (directories.HoldsCopy tree) tree current)
    (kept : current.get? (directories.assetTarget location).parts =
      tree.get? (directories.assetTarget location).parts)
    (succeeded : (putAll now current (locations.map directories.copyOf)).error = none) :
    (putAll now current (locations.map directories.copyOf)).tree.get?
        (directories.assetTarget location).parts =
      tree.get? (directories.assetTarget location).parts := by
  induction locations generalizing current with
  | nil => exact kept
  | cons first rest inductionHypothesis =>
      obtain ⟨firstAsset, others⟩ := List.forall_mem_cons.mp assets
      rw [List.map_cons] at succeeded ⊢
      rcases putAll_of_ok succeeded with ⟨-, run⟩ | ⟨after, outdated, isPut, run⟩
      · rw [run] at succeeded ⊢
        exact inductionHypothesis others sofar kept succeeded
      · rw [run] at succeeded ⊢
        have own := put_copyOf_becomes_own wellFormed straight firstAsset sofar now
        have step := put_copyOf_becomes wellFormed straight firstAsset sofar now
        rw [isPut] at own step
        refine inductionHypothesis others (sofar.trans step) ?_ succeeded
        have ⟨_, _, held, copied, _, isHeld, _⟩ := fresh
        rcases (own _).file_after (kept.trans isHeld) with same | ⟨entry, -, holds⟩
        · exact same.trans isHeld.symm
        -- Only its own copy could be written there, and the asset is not copied.
        · obtain rfl := Directories.eq_of_holdsCopyOf wellFormed asset firstAsset holds
          rw [isUpToDate_of_kept wellFormed asset fresh sofar kept] at outdated
          cases outdated

/-- A fresh copy stays as it is, whatever its bytes. -/
theorem kept_of_copying (asset : location ∈ directories.assets tree)
    (fresh : IsFresh directories tree location)
    (succeeded : (copying directories tree now).error = none) :
    (copying directories tree now).tree.get? (directories.assetTarget location).parts =
      tree.get? (directories.assetTarget location).parts :=
  kept_of_copies wellFormed straight (fun _ member => member) asset fresh (.refl _ _ tree) rfl
    succeeded

end

end StaticSite.Site
