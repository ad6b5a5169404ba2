/-
Module: StaticSite.CommandLine.Listing
Purpose: Lists of files and directories, one a line, and what changes between two file trees.
Trusted boundary: none
Main exports:
  Listed, nanoseconds?, Listed.ofLine?, FileTree.withDirectory, FileTree.withFile,
  FileTree.changes
-/
import StaticSite.FileTime
import StaticSite.FileTree
import StaticSite.Text.Digits

namespace StaticSite

open Text

namespace CommandLine

/-- A line of a list of files: a letter that tells what the path leads to, the time
of the last change in seconds, and the path, with single blanks between them. -/
structure Listed where
  isDirectory : Bool
  /-- The time in nanoseconds. -/
  modified : Int
  path : Path
deriving DecidableEq, Repr, Inhabited

/-- A time in nanoseconds, written in seconds: whole seconds, and behind a point the nanoseconds
that are to be added to them, in nine digits of which zeros at the end may be missing. -/
def nanoseconds? (time : List Char) : Option Int := do
  let (negative, digits) := signed (time.takeWhile (· != '.'))
  let seconds ← digitsIn? 10 digits
  let fraction := ((time.dropWhile (· != '.')).drop 1 ++ List.replicate 9 '0').take 9
  some (withSign negative seconds * FileTime.perSecond + decimalNumber fraction)

/-- Read a line of a list of files.  Lines about anything but files and directories
are no entries. -/
def Listed.ofLine? (line : String) : Option Listed := do
  let (kind, rest) ← splitAtFirst? (· == ' ') line.toList
  let (time, path) ← splitAtFirst? (· == ' ') rest
  let modified ← nanoseconds? time
  if kind = ['f'] || kind = ['d'] then
    some ⟨kind = ['d'], modified, Path.ofString (String.ofList path)⟩
  else
    none

end CommandLine

namespace FileTree

/-- The file system with a directory at a place, and the directories that lead to it. -/
def withDirectory (tree : FileTree) (location : Location) : FileTree :=
  (tree.makeDirectories (Path.ofLocation location)).1

/-- The file system with a file at a place, and the directories that lead to it. -/
def withFile (tree : FileTree) (location : Location) (bytes : ByteArray) (modified : Int) :
    FileTree :=
  (tree.withDirectory location.dropLast).insert location (.file bytes modified)

/-- What stands in a file system and did not in an earlier one, directories
before what they hold. -/
def changes (earlier tree : FileTree) : List (Location × Entry) :=
  tree.entries.filter fun entry => earlier.get? entry.1 != some entry.2

end FileTree

end StaticSite
