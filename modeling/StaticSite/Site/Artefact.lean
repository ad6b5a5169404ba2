/-
Module: StaticSite.Site.Artefact
Purpose: The files a build puts into the output directory.
Trusted boundary: none
Main exports:
  Artefact, Artefact.target, Artefact.isUpToDate, Artefact.put, Placement, putAll
-/
import StaticSite.FileTime
import StaticSite.FileTree
import StaticSite.Log
import StaticSite.Text.Decode

namespace StaticSite.Site

open Text

/-- A file that a build puts into the output directory. -/
inductive Artefact where
  /-- A copy of another file. -/
  | asset (source target : Path)
  /-- The scripts that pages share. -/
  | bundle (target : Path) (code : String)
  /-- A rendered page, with the file that it comes from. -/
  | page (source target : Path) (html : String)
deriving DecidableEq, Repr, Inhabited

namespace Artefact

/-- Where the artefact goes. -/
def target : Artefact → Path
  | .asset _ target => target
  | .bundle target _ => target
  | .page _ target _ => target

/-- What is logged once the artefact is in place. -/
def entry : Artefact → LogEntry
  | .asset source target => ⟨.info, "Copied " ++ source.toString ++ " -> " ++ target.toString⟩
  | .bundle target _ => ⟨.info, "Bundled script -> " ++ target.toString⟩
  | .page source target _ => ⟨.info, "Rendered " ++ source.toString ++ " -> " ++ target.toString⟩

/-- The artefact is a copy that does not count as older than its source.  Times are compared as
floating-point numbers of seconds. -/
def isUpToDate (tree : FileTree) : Artefact → Bool
  | .asset source target =>
      match tree.modified? target, tree.modified? source with
      | some copied, some changed => FileTime.seconds changed ≤ FileTime.seconds copied
      | _, _ => false
  | _ => false

/-- Put the artefact into its directory, which is there.  What is written has the
time `now`; a copy keeps the time of its source. -/
def place (now : Int) (tree : FileTree) : Artefact → Except FileError FileTree
  | .asset source target => tree.copy source target
  | .bundle target code => tree.write target (encode code) now
  | .page _ target html => tree.write target (encode html) now

/-- Put the artefact in place, with the directories that lead to it. -/
def put (now : Int) (tree : FileTree) (artefact : Artefact) : FileTree × Option FileError :=
  match tree.makeDirectories artefact.target.parent with
  | (tree, some e) => (tree, some e)
  | (tree, none) =>
      match artefact.place now tree with
      | .ok tree => (tree, none)
      | .error e => (tree, some e)

end Artefact

/-- What has come of putting artefacts in place. -/
structure Placement where
  tree : FileTree
  /-- The artefacts that have been written. -/
  written : List Artefact
  /-- Why the others have not been looked at. -/
  error : Option FileError
deriving DecidableEq, Inhabited

/-- Put artefacts in place one after the other, without those that are up to
date, up to the first one that cannot be written. -/
def putAll (now : Int) : FileTree → List Artefact → Placement
  | tree, [] => ⟨tree, [], none⟩
  | tree, artefact :: rest =>
      if artefact.isUpToDate tree then
        putAll now tree rest
      else
        match artefact.put now tree with
        | (tree, some e) => ⟨tree, [], some e⟩
        | (tree, none) =>
            let placement := putAll now tree rest
            { placement with written := artefact :: placement.written }

end StaticSite.Site
