/-
Module: StaticSite.Proofs.Site.Endings
Purpose: The ways a build can end, each with what is left in the file system, and what a build
  that succeeds has put there: copies of assets, script files, and one file for each page.
Trusted boundary: none
Main exports:
  Ending, build_ending, build_ok, IsScriptFile, IsPageFile, produce_eq,
  produce_error, produce_ok, areTexts_of_produced, Completed, completed_of_ok, siteOf, siteConfig
-/
import StaticSite.Proofs.Bundling.Extraction
import StaticSite.Proofs.Site.Copying

namespace StaticSite.Site

open Text FileTree Bundling

/-! ### The phases of a build -/

/-- The ways a build can end: in which phase, with which file system, and with what outcome. -/
inductive Ending (tree : FileTree) (now : Int) (directories : Directories) (config : BuildConfig) :
    (after : FileTree) → (outcome : Except BuildError BuildResult) → Prop where
  | unread {cause : SourceError} (failed : (Sources.read directories tree).2 = some cause) :
      Ending tree now directories config tree (.error (.source cause))
  | uncopied {cause : FileError} (failed : (copying directories tree now).error = some cause) :
      Ending tree now directories config (copying directories tree now).tree (.error (.file cause))
  | unproduced {cause : BuildError}
      (failed : produce directories config (Sources.read directories tree).1 = .error cause) :
      Ending tree now directories config (copying directories tree now).tree (.error cause)
  | unwritten {after : FileTree} {cause : FileError} :
      Ending tree now directories config after (.error (.file cause))
  | complete {products : Products} {skipped : List Path}
      (read : (Sources.read directories tree).2 = none)
      (copied : (copying directories tree now).error = none)
      (produced : produce directories config (Sources.read directories tree).1 = .ok products)
      (written : (putAll now (copying directories tree now).tree products.artefacts).error = none) :
      Ending tree now directories config
        (putAll now (copying directories tree now).tree products.artefacts).tree
        (.ok {
          artefacts := (copying directories tree now).written ++
            (putAll now (copying directories tree now).tree products.artefacts).written
          skipped := skipped })

variable {tree : FileTree} {now : Int} {current : Location} {config : BuildConfig}
  {directories : Directories} {sources : Sources} {products : Products} {result : BuildResult}
  {artefact : Artefact}

theorem build_ending (tree : FileTree) (now : Int) (current : Location) (config : BuildConfig) :
    Ending tree now (Directories.of current config) config (build tree now current config).tree
      (build tree now current config).outcome := by
  unfold build
  dsimp only
  split
  case h_1 sources cause reading => exact .unread (by rw [reading])
  case h_2 sources reading =>
    split
    case h_1 cause failed => exact .uncopied failed
    case h_2 copied =>
      have sources_eq : (Sources.read (Directories.of current config) tree).1 = sources := by
        rw [reading]
      split
      case h_1 cause failed => exact .unproduced (by rw [sources_eq, failed])
      case h_2 products produced =>
        split
        case h_1 => exact .unwritten
        case h_2 written =>
          exact .complete (by rw [reading]) copied (by rw [sources_eq, produced]) written

/-- A build that succeeds has gone through all of its phases, and reports what each of them
has written. -/
theorem build_ok (succeeded : (build tree now current config).outcome = .ok result) :
    ∃ products, produce (Directories.of current config) config
        (Sources.read (Directories.of current config) tree).1 = .ok products ∧
      (copying (Directories.of current config) tree now).error = none ∧
      (putAll now (copying (Directories.of current config) tree now).tree
        products.artefacts).error = none ∧
      (build tree now current config).tree =
        (putAll now (copying (Directories.of current config) tree now).tree
          products.artefacts).tree ∧
      result.artefacts = (copying (Directories.of current config) tree now).written ++
        (putAll now (copying (Directories.of current config) tree now).tree
          products.artefacts).written := by
  have ending := build_ending tree now current config
  rw [succeeded] at ending
  generalize (build tree now current config).tree = after at ending
  cases ending with
  | complete read copied produced written => exact ⟨_, produced, copied, written, rfl, rfl⟩

/-! ### What rendering and extraction yield -/

/-- The path of the script file of a bundle, seen from the output directory: its URL without the
slashes that it starts with. -/
def scriptPath (srcStart name : String) : String :=
  String.ofList ((Bundle.srcOf srcStart name).toList.dropWhile (· == '/'))

/-- The file of a bundle of some name. -/
def IsScriptFile (directories : Directories) (srcStart : String) (artefact : Artefact) : Prop :=
  ∃ name code, '/' ∉ name.toList ∧
    artefact = .bundle (directories.scriptTarget (scriptPath srcStart name)) code

/-- The file of one of some pages. -/
def IsPageFile (directories : Directories) (pages : List Component) (artefact : Artefact) : Prop :=
  ∃ page ∈ pages, ∃ html, artefact = .page page.path (directories.outputPath page) html

section

variable {components : List Component} {rendered : List Page} {signature : Signature}
  {minPageUsage : Int} {group : List Signature} {srcStart : String}

/-- Every extracted script has an owner. -/
theorem exists_owner (member : signature ∈ extracted rendered components minPageUsage) :
    ∃ component ∈ components, ownerName components signature = component.name := by
  have declared := (Bool.and_eq_true_iff.mp (mem_extracted.mp member).2).1
  rw [← lastDeclaring?_isSome] at declared
  obtain ⟨owner, isOwner⟩ := Option.isSome_iff_exists.mp declared
  refine ⟨owner, List.mem_reverse.mp (List.mem_of_find?_eq_some isOwner), ?_⟩
  rw [ownerName, isOwner]
  rfl

/-- The name of a bundle has no slash if the names of components have none. -/
theorem slash_not_mem_bundleName (named : ∀ component ∈ components, '/' ∉ component.name.toList)
    (isGroup : group ∈ groups rendered components minPageUsage) :
    '/' ∉ (openBundle components group).name.toList := by
  obtain ⟨signature, -, rfl⟩ := exists_groupOf isGroup
  refine not_mem_joinWith (by decide) ?_
  intro name isName
  obtain ⟨member, grouped, rfl⟩ := List.mem_map.mp isName
  obtain ⟨component, isComponent, owned⟩ := exists_owner (List.mem_filter.mp grouped).1
  rw [owned]
  exact named component isComponent

/-- The file of the bundle of a group. -/
def scriptFile (directories : Directories) (components : List Component) (srcStart : String)
    (group : List Signature) : Artefact :=
  .bundle (directories.scriptTarget (scriptPath srcStart (openBundle components group).name))
    (openBundle components group).code

theorem mapM_bundleArtefact (directories : Directories) (components : List Component)
    (srcStart : String) (groups : List (List Signature)) :
    (groups.map (groupBundle components srcStart)).mapM (bundleArtefact directories) =
      .ok (groups.map (scriptFile directories components srcStart)) := by
  induction groups with
  | nil => rfl
  | cons group groups inductionHypothesis =>
      have first : bundleArtefact directories (groupBundle components srcStart group) =
          .ok (scriptFile directories components srcStart group) := rfl
      rw [List.map_cons, List.mapM_cons, first, inductionHypothesis]
      rfl

end

/-- Pages that can be rendered are written with the bundles of their groups. -/
theorem produce_eq {rendered : List Page}
    (rendering : renderPages directories sources.table sources.pages = .ok rendered)
    (enough : 1 ≤ config.minPageUsage) :
    produce directories config sources =
      .ok
        { artefacts :=
            (groups rendered sources.table.entries config.minPageUsage).map
                (scriptFile directories sources.table.entries config.scriptSrcStart) ++
              pageArtefacts directories config.beautify sources.pages
                (rendered.map (linkPage (linkOf rendered sources.table.entries
                  config.minPageUsage config.scriptSrcStart)))
          log :=
            rendered.filterMap (linkLog? (linkOf rendered sources.table.entries
              config.minPageUsage config.scriptSrcStart)) } := by
  rw [produce, rendering]
  simp only [Except.mapError, bind, Except.bind,
    extract_eq rendered sources.table.entries config.scriptSrcStart enough, mapM_bundleArtefact,
    pure, Except.pure]

/-- What can go wrong is rendering or extraction: nothing is read or written. -/
theorem produce_error {cause : BuildError}
    (failed : produce directories config sources = .error cause) :
    (∃ reason, cause = .expansion reason) ∨ ∃ reason, cause = .extraction reason := by
  cases rendering : renderPages directories sources.table sources.pages with
  | error reason =>
      simp only [produce, rendering, Except.mapError, bind, Except.bind] at failed
      exact .inl ⟨reason, (Except.error.inj failed).symm⟩
  | ok rendered =>
      by_cases enough : 1 ≤ config.minPageUsage
      · rw [produce_eq rendering enough] at failed
        cases failed
      · have tooFew : config.minPageUsage < 1 := by omega
        simp only [produce, rendering, extract, tooFew, Except.mapError, bind, Except.bind,
          if_true] at failed
        exact .inr ⟨_, (Except.error.inj failed).symm⟩

theorem length_renderPages {table : ComponentTable} {pages : List Component} {rendered : List Page}
    (succeeded : renderPages directories table pages = .ok rendered) :
    rendered.length = pages.length := by
  induction pages generalizing rendered with
  | nil =>
      obtain rfl := Except.ok.inj succeeded
      rfl
  | cons page pages inductionHypothesis =>
      rw [renderPages] at succeeded
      cases first : render table ⟨page, false⟩ [] with
      | error => simp [first, bind, Except.bind] at succeeded
      | ok nodes =>
          cases others : renderPages directories table pages with
          | error => simp [first, others, bind, Except.bind] at succeeded
          | ok more =>
              simp only [first, others, bind, Except.bind, pure, Except.pure] at succeeded
              obtain rfl := Except.ok.inj succeeded
              rw [List.length_cons, List.length_cons, inductionHypothesis others]

/-- There is one file for each page, in the order of the pages. -/
theorem targets_of_pageArtefacts {pages : List Component} {rendered : List Page}
    (directories : Directories) (config : BeautifyConfig) (same : rendered.length = pages.length) :
    (pageArtefacts directories config pages rendered).map Artefact.target =
      pages.map directories.outputPath := by
  induction pages generalizing rendered with
  | nil => rfl
  | cons page pages inductionHypothesis =>
      cases rendered with
      | nil => cases same
      | cons first rendered =>
          exact congrArg (directories.outputPath page :: ·)
            (inductionHypothesis (Nat.succ.inj same))

theorem isPageFile_of_mem {pages : List Component} {rendered : List Page}
    {config : BeautifyConfig}
    (member : artefact ∈ pageArtefacts directories config pages rendered) :
    IsPageFile directories pages artefact := by
  induction pages generalizing rendered with
  | nil => cases member
  | cons page pages inductionHypothesis =>
      cases rendered with
      | nil => cases member
      | cons first rendered =>
          rcases List.mem_cons.mp member with rfl | later
          · exact ⟨page, List.mem_cons_self, _, rfl⟩
          · obtain ⟨other, isOther, shape⟩ := inductionHypothesis later
            exact ⟨other, List.mem_cons_of_mem _ isOther, shape⟩

/-- Rendering and extraction yield script files, and then one file for each page. -/
theorem produce_ok (named : ∀ fragment ∈ sources.table.entries, '/' ∉ fragment.name.toList)
    (produced : produce directories config sources = .ok products) :
    ∃ scripts pages, products.artefacts = scripts ++ pages ∧
      (∀ artefact ∈ scripts, IsScriptFile directories config.scriptSrcStart artefact) ∧
      (∀ artefact ∈ pages, IsPageFile directories sources.pages artefact) ∧
      pages.map Artefact.target = sources.pages.map directories.outputPath := by
  cases rendering : renderPages directories sources.table sources.pages with
  | error => simp [produce, rendering, Except.mapError, bind, Except.bind] at produced
  | ok rendered =>
      by_cases enough : 1 ≤ config.minPageUsage
      · rw [produce_eq rendering enough] at produced
        obtain rfl := Except.ok.inj produced
        refine ⟨_, _, rfl, ?_, fun artefact => isPageFile_of_mem, ?_⟩
        · intro artefact member
          obtain ⟨group, isGroup, rfl⟩ := List.mem_map.mp member
          exact ⟨_, _, slash_not_mem_bundleName named isGroup, rfl⟩
        · apply targets_of_pageArtefacts
          rw [List.length_map, length_renderPages rendering]
      · have tooFew : config.minPageUsage < 1 := by omega
        simp [produce, rendering, extract, tooFew, Except.mapError, bind, Except.bind] at produced

/-- None of this is a copy. -/
theorem areTexts_of_produced
    (named : ∀ fragment ∈ sources.table.entries, '/' ∉ fragment.name.toList)
    (produced : produce directories config sources = .ok products) :
    AreTexts products.artefacts := by
  obtain ⟨scripts, pages, shape, areScripts, arePages, -⟩ := produce_ok named produced
  intro artefact member
  rw [shape] at member
  rcases List.mem_append.mp member with isScript | isPage
  · obtain ⟨name, code, -, rfl⟩ := areScripts artefact isScript
    exact ⟨code, rfl⟩
  · obtain ⟨page, -, html, rfl⟩ := arePages artefact isPage
    exact ⟨html, rfl⟩

/-! ### Builds that succeed -/

/-- What is known of a build that has succeeded: assets have been copied, and after them all
that rendering and extraction yield has been written. -/
structure Completed (tree : FileTree) (now : Int) (directories : Directories)
    (config : BuildConfig) (result : BuildResult) (products : Products) (after : FileTree) :
    Prop where
  wellFormed : tree.WellFormed
  straight : ".." ∉ directories.output
  copied : (copying directories tree now).error = none
  produced : produce directories config (Sources.read directories tree).1 = .ok products
  texts : AreTexts products.artefacts
  placed : (putAll now (copying directories tree now).tree products.artefacts).error = none
  left : after = (putAll now (copying directories tree now).tree products.artefacts).tree
  reported : result.artefacts = (copying directories tree now).written ++ products.artefacts

theorem completed_of_ok (wellFormed : tree.WellFormed)
    (succeeded : (build tree now current config).outcome = .ok result) :
    ∃ products, Completed tree now (Directories.of current config) config result products
      (build tree now current config).tree := by
  obtain ⟨products, produced, copied, placed, left, reported⟩ := build_ok succeeded
  have texts : AreTexts products.artefacts :=
    areTexts_of_produced (fun _ member => (name_of_fragment wellFormed member).1) produced
  rw [written_of_texts texts placed] at reported
  exact ⟨products, wellFormed, Directories.straight_output current config, copied,
    produced, texts, placed, left, reported⟩

namespace Completed

variable {after : FileTree} {location : Location}
  (completed : Completed tree now directories config result products after)

include completed

/-- What has been copied is reported first. -/
theorem copies (written : artefact ∈ (copying directories tree now).written) :
    ∃ location ∈ directories.assets tree, artefact = directories.copyOf location ∧
      (tree.isDirectory (directories.assetTarget location) = false →
        IsCopied directories tree (copying directories tree now).tree location) :=
  written_of_copying completed.wellFormed completed.straight completed.copied written

/-- From copying to the end, only the texts of script files and pages are written. -/
theorem becomes :
    Becomes (fun location => ∃ artefact ∈ products.artefacts,
        artefact.target.parent.Passes location)
      (fun location entry => ∃ artefact ∈ products.artefacts, artefact.Fills now location entry)
      (copying directories tree now).tree after := by
  rw [completed.left]
  exact putAll_texts_becomes now _ completed.texts

end Completed

/-! ### Small sites -/

/-- A small site: some directories and some files, all of them in `site`. -/
def siteOf (directories : List Location) (files : List (Location × String)) : FileTree where
  entries :=
    (["site"], .directory) :: directories.map (fun directory => ("site" :: directory, .directory))
      ++ files.map fun (file, text) => ("site" :: file, .file (encode text) 5)

/-- Its configuration: it is built in a directory of its own, and scripts go to files of their
own even if only one page uses them. -/
def siteConfig (srcStart : String) : BuildConfig where
  inputDir := Path.ofLocation ["site"]
  outputDir := Path.ofLocation ["site", "out"]
  rootDir := none
  minPageUsage := 1
  scriptSrcStart := srcStart
  beautify := { enabled := false }

end StaticSite.Site
