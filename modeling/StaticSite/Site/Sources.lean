/-
Module: StaticSite.Site.Sources
Purpose: The sources of a site, compiled and sorted into fragments and pages.
Trusted boundary: none
Main exports:
  SourceError, compileSource, Sources, Sources.add, Sources.addAll, Sources.read
-/
import StaticSite.ComponentTable
import StaticSite.Log
import StaticSite.Site.Directories

namespace StaticSite.Site

open Text

/-- Why a source cannot be used. -/
inductive SourceError where
  /-- The file is not UTF-8. -/
  | notText (path : Path)
  | compile (cause : CompileError)
  | register (cause : RegisterError)
deriving DecidableEq, Repr, Inhabited

/-- What to tell the author of the source. -/
def SourceError.message : SourceError → String
  | .notText path => "Source '" ++ path.toString ++ "' is not UTF-8."
  | .compile cause => cause.message
  | .register cause => cause.message

/-- Compile a source file. -/
def compileSource (file : Location × ByteArray) : Except SourceError Component :=
  let path := Path.ofLocation file.1
  match decode? file.2 with
  | none => .error (.notText path)
  | some source => (compileFile path source).mapError .compile

/-- The compiled sources of a site. -/
structure Sources where
  table : ComponentTable
  pages : List Component
  /-- The pages outside the content directory, which have no place in the output. -/
  skipped : List Component
deriving Inhabited

namespace Sources

/-- No sources. -/
def empty : Sources :=
  ⟨.empty, [], []⟩

/-- Add a component: a fragment goes to the table, and a page is kept if it is in
the directory `content`. -/
def add (content : Location) (sources : Sources) (component : Component) :
    Except RegisterError Sources :=
  if component.isPage then
    if Directories.isWithin content component.path.parts then
      .ok { sources with pages := sources.pages ++ [component] }
    else
      .ok { sources with skipped := sources.skipped ++ [component] }
  else do
    return { sources with table := ← sources.table.register component }

/-- Compile a file and add it. -/
def addFile (content : Location) (sources : Sources) (file : Location × ByteArray) :
    Except SourceError Sources := do
  let component ← compileSource file
  (sources.add content component).mapError .register

/-- Compile and add files up to the first one that cannot be used. -/
def addAll (content : Location) : Sources → List (Location × ByteArray) →
    Sources × Option SourceError
  | sources, [] => (sources, none)
  | sources, file :: rest =>
      match sources.addFile content file with
      | .ok sources => addAll content sources rest
      | .error e => (sources, some e)

/-- Compile the sources of a build, up to the first one that cannot be used. -/
def read (directories : Directories) (tree : FileTree) : Sources × Option SourceError :=
  addAll directories.content empty (directories.sources tree)

/-- What is logged about the pages that are skipped. -/
def warnings (sources : Sources) : List LogEntry :=
  sources.skipped.map fun page =>
    ⟨.warning, "Page component found outside root dir: " ++ page.path.toString⟩

/-- What is logged about the fragments. -/
def loadedEntry (sources : Sources) : LogEntry :=
  ⟨.debug, "Loaded components: " ++ joinWith ", " sources.table.names⟩

end Sources

end StaticSite.Site
