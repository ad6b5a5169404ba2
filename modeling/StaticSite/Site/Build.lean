/-
Module: StaticSite.Site.Build
Purpose: Building a site: reading its sources and writing what becomes of them.
Trusted boundary: none
Main exports:
  BuildError, renderPages, pageText, Products, produce, BuildResult, BuildRun, build
-/
import StaticSite.Bundling.Extraction
import StaticSite.Expansion
import StaticSite.Layout
import StaticSite.Site.Artefact
import StaticSite.Site.Sources

namespace StaticSite.Site

open Text Markup Bundling

/-!
A build works in phases that never mix.  All sources are read and compiled before
anything is written; then assets are copied; then all pages are rendered and
their scripts extracted, before the first script file or page is written.
-/

/-- Why a build fails. -/
inductive BuildError where
  | source (cause : SourceError)
  | expansion (cause : ExpansionError)
  | extraction (cause : ExtractionError)
  | file (cause : FileError)
deriving DecidableEq, Repr, Inhabited

/-- What to tell the author of the site. -/
def BuildError.message : BuildError → String
  | .source cause => cause.message
  | .expansion cause => cause.message
  | .extraction cause => cause.message
  | .file cause => cause.message

/-! ### Pages -/

/-- Render pages.  A page keeps the path that it has seen from the content directory. -/
def renderPages (directories : Directories) (table : ComponentTable) :
    List Component → Except ExpansionError (List Page)
  | [] => .ok []
  | component :: rest => do
      let nodes ← render table ⟨component, false⟩ []
      let path : Path := ⟨.relative, directories.relativeParts component.path.parts⟩
      return ⟨path.toString, nodes⟩ :: (← renderPages directories table rest)

/-- The text that is written for a page.  Without an indentation to use, the one
of the page's source is kept; a page that is not laid out anew only gets a line
feed at its end if there is none. -/
def pageText (config : BeautifyConfig) (component : Component) (page : Page) : String :=
  if config.enabled then
    beautify page.nodes (config.indent.getD (detectIndent component.source Indent.standard))
  else
    let html := toHtml page.nodes
    if endsWith html "\n" then html else html ++ "\n"

/-- The artefacts of pages, each given with the component that it comes from. -/
def pageArtefacts (directories : Directories) (config : BeautifyConfig) :
    List Component → List Page → List Artefact
  | component :: components, page :: pages =>
      .page component.path (directories.outputPath component) (pageText config component page)
        :: pageArtefacts directories config components pages
  | _, _ => []

/-! ### Script files -/

/-- The artefact of a script file. -/
def bundleArtefact (directories : Directories) (bundle : Bundle) :
    Except ExtractionError Artefact := do
  let relative ← bundle.relativePath.mapError .bundle
  return .bundle (directories.scriptTarget relative) bundle.code

/-- What rendering the pages of a site yields. -/
structure Products where
  /-- The script files, and then the pages. -/
  artefacts : List Artefact
  log : List LogEntry
deriving DecidableEq, Inhabited

/-- Render the pages of a site and extract the scripts that they share. -/
def produce (directories : Directories) (config : BuildConfig) (sources : Sources) :
    Except BuildError Products := do
  let pages ← (renderPages directories sources.table sources.pages).mapError .expansion
  let extraction ← (extract pages sources.table.entries config.minPageUsage
    config.scriptSrcStart).mapError .extraction
  let bundles ← (extraction.bundles.mapM (bundleArtefact directories)).mapError .extraction
  return {
    artefacts := bundles ++ pageArtefacts directories config.beautify sources.pages extraction.pages
    log := extraction.log }

/-! ### The whole build -/

/-- What a build that succeeds reports. -/
structure BuildResult where
  /-- The artefacts that have been written, in that order. -/
  artefacts : List Artefact
  /-- The files of the pages that have been skipped. -/
  skipped : List Path
deriving DecidableEq, Inhabited

namespace BuildResult

/-- Where everything is that has been written: assets, then script files, then pages. -/
def written (result : BuildResult) : List Path :=
  result.artefacts.map Artefact.target

/-- Where the assets are that have been copied. -/
def assets (result : BuildResult) : List Path :=
  result.artefacts.filterMap fun
    | .asset _ target => some target
    | _ => none

/-- Where the script files are. -/
def bundles (result : BuildResult) : List Path :=
  result.artefacts.filterMap fun
    | .bundle target _ => some target
    | _ => none

/-- Where the pages are. -/
def pages (result : BuildResult) : List Path :=
  result.artefacts.filterMap fun
    | .page _ target _ => some target
    | _ => none

end BuildResult

/-- What a build leaves behind.  What was written before it failed stays. -/
structure BuildRun where
  tree : FileTree
  log : List LogEntry
  outcome : Except BuildError BuildResult
deriving Inhabited

/-- What is logged at the start of a build. -/
def openingEntries (directories : Directories) (tree : FileTree) : List LogEntry :=
  [ ⟨.info, "Working directories\n   input: " ++ (Path.ofLocation directories.input).toString
      ++ "\n  output: " ++ directories.outputRoot.toString
      ++ "\n    root: " ++ (Path.ofLocation directories.content).toString⟩,
    ⟨.info, toString (directories.sources tree).length ++ " html files"⟩,
    ⟨.info, toString (directories.assets tree).length ++ " non-html files"⟩ ]

/-- The artefacts of the assets of a site. -/
def assetArtefacts (directories : Directories) (tree : FileTree) : List Artefact :=
  (directories.assets tree).map fun location =>
    .asset (Path.ofLocation location) (directories.assetTarget location)

/-- Build a site.  Files that are written get the time `now`. -/
def build (tree : FileTree) (now : Int) (current : Location) (config : BuildConfig) : BuildRun :=
  let directories := Directories.of current config
  let opening := openingEntries directories tree
  match Sources.read directories tree with
  | (sources, some e) => ⟨tree, opening ++ sources.warnings, .error (.source e)⟩
  | (sources, none) =>
      let copying := putAll now tree (assetArtefacts directories tree)
      let log := opening ++ sources.warnings ++ [sources.loadedEntry]
        ++ copying.written.map Artefact.entry
      match copying.error with
      | some e => ⟨copying.tree, log, .error (.file e)⟩
      | none =>
          match produce directories config sources with
          | .error e => ⟨copying.tree, log, .error e⟩
          | .ok products =>
              let writing := putAll now copying.tree products.artefacts
              let log := log ++ products.log ++ writing.written.map Artefact.entry
              match writing.error with
              | some e => ⟨writing.tree, log, .error (.file e)⟩
              | none =>
                  ⟨writing.tree, log, .ok {
                    artefacts := copying.written ++ writing.written
                    skipped := sources.skipped.map (·.path) }⟩

end StaticSite.Site
