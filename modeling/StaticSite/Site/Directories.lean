/-
Module: StaticSite.Site.Directories
Purpose: Where a build finds its sources and assets, and where it puts its pages.
Trusted boundary: none
Main exports:
  Directories, Directories.of, Directories.isSource, Directories.isOutput,
  Directories.sources, Directories.assets, Directories.outputPath
-/
import StaticSite.Component
import StaticSite.Config

namespace StaticSite.Site

open Text

/-- The directories of a build, without any dots. -/
structure Directories where
  /-- Sources are looked for below this directory. -/
  input : Location
  /-- Everything that is written goes below this directory, and nothing below it
  is a source or an asset. -/
  output : Location
  /-- Pages and assets keep the paths that they have seen from this directory. -/
  content : Location
deriving DecidableEq, Repr, Inhabited

namespace Directories

/-- The directories that a configuration names, seen from the directory `current`. -/
def of (current : Location) (config : BuildConfig) : Directories :=
  { input := config.inputDir.resolveParts current
    output := config.outputDir.resolveParts current
    content := config.contentRoot.resolveParts current }

/-! ### What a file is to a build -/

/-- A place is a directory or lies below it. -/
def isWithin (directory location : Location) : Bool :=
  (Path.dropParts? directory location).isSome

/-- What lies in the output directory is left alone. -/
def isOutput (directories : Directories) (location : Location) : Bool :=
  isWithin directories.output location

/-- How the names of sources end. -/
def sourceEnding : String :=
  ".html"

/-- A file is a source if its name says so and it lies below the input directory. -/
def isSource (directories : Directories) (location : Location) : Bool :=
  isWithin directories.input location && location != directories.input
    && endsWith (location.getLastD "") sourceEnding

/-- The sources, in the order of their places. -/
def sources (directories : Directories) (tree : FileTree) : List (Location × ByteArray) :=
  (tree.filesBelow directories.input).filter fun file =>
    directories.isSource file.1 && !directories.isOutput file.1

/-- The assets: the files of the content that are not sources, in the order of
their places. -/
def assets (directories : Directories) (tree : FileTree) : List Location :=
  ((tree.filesBelow directories.content).map (·.1)).filter fun location =>
    !directories.isSource location && !directories.isOutput location

/-! ### Where a file goes -/

/-- The parts of a place seen from the content directory. -/
def relativeParts (directories : Directories) (location : Location) : List String :=
  (Path.dropParts? directories.content location).getD []

/-- The output directory as a path. -/
def outputRoot (directories : Directories) : Path :=
  Path.ofLocation directories.output

/-- Where an asset is copied to. -/
def assetTarget (directories : Directories) (location : Location) : Path :=
  directories.outputRoot.append (directories.relativeParts location)

/-- The name of the page that is served for its directory. -/
def indexName : String :=
  "index"

/-- Where the page that a component is goes.  An index page keeps its place; any
other page gets a directory of its own name, so that it is served from there. -/
def outputPath (directories : Directories) (component : Component) : Path :=
  let parts := directories.relativeParts component.path.parts
  if component.name = indexName then
    directories.outputRoot.append parts
  else
    ((directories.outputRoot.append parts.dropLast).join (Path.ofString component.name)).append
      [indexName ++ sourceEnding]

/-- Where a script file goes, given its path seen from the output directory. -/
def scriptTarget (directories : Directories) (relative : String) : Path :=
  directories.outputRoot.join (Path.ofString relative)

end Directories

end StaticSite.Site
