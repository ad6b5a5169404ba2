/-
Module: StaticSite.Path
Purpose: Slash-separated file paths, as written and with their dots resolved.
Trusted boundary: none
Main exports:
  Anchor, Path, Path.ofString, Path.toString, Path.join, Path.resolve, Path.stem, Path.under?
-/
import StaticSite.Text.Search

namespace StaticSite

open Text

/-- Where a path starts: at the current directory, at the root, or at the root
written with two slashes. -/
inductive Anchor where
  | relative
  | root
  | doubleRoot
deriving DecidableEq, Repr, Inhabited

/-- A path in normal form: its parts are never empty and never a single dot. -/
structure Path where
  anchor : Anchor
  parts : List String
deriving DecidableEq, Repr, Inhabited

namespace Path

/-- The anchor that some characters begin with.  Exactly two slashes are kept
apart from one; three or more count as one. -/
def anchorOf : List Char → Anchor
  | '/' :: '/' :: '/' :: _ => .root
  | '/' :: '/' :: _ => .doubleRoot
  | '/' :: _ => .root
  | _ => .relative

/-- Read a path.  Repeated slashes, single dots and a slash at the end make no
difference; two dots are kept. -/
def ofString (s : String) : Path :=
  { anchor := anchorOf s.toList
    parts := ((splitOnChar '/' s.toList).map String.ofList).filter fun part =>
      part != "" && part != "." }

/-- The path as it is written.  The empty relative path is a single dot. -/
def toString (path : Path) : String :=
  match path.anchor, path.parts with
  | .relative, [] => "."
  | .relative, parts => joinWith "/" parts
  | .root, parts => "/" ++ joinWith "/" parts
  | .doubleRoot, parts => "//" ++ joinWith "/" parts

/-- The path does not depend on the current directory. -/
def isAbsolute (path : Path) : Bool :=
  path.anchor != .relative

/-- The second path seen from the first one; an absolute path stays as it is. -/
def join (base path : Path) : Path :=
  if path.isAbsolute then path else { base with parts := base.parts ++ path.parts }

/-- The path with some more parts at its end. -/
def append (path : Path) (parts : List String) : Path :=
  { path with parts := path.parts ++ parts }

/-- The path without its last part; the root and the empty path are their own parents. -/
def parent (path : Path) : Path :=
  { path with parts := path.parts.dropLast }

/-- The last part, empty if there is none. -/
def name (path : Path) : String :=
  path.parts.getLastD ""

/-- What comes before the last dot of a name, given backwards; `none` if there is no dot. -/
def beforeLastDot? : List Char → Option (List Char)
  | [] => none
  | c :: rest => if c = '.' then some rest else beforeLastDot? rest

/-- A name without its extension.  A dot at the start or at the end of the name
starts no extension. -/
def stemOf (name : String) : String :=
  let backwards := name.toList.reverse
  match backwards with
  | '.' :: _ => name
  | _ =>
      match beforeLastDot? backwards with
      | some (c :: rest) => String.ofList (c :: rest).reverse
      | _ => name

/-- The last part without its extension. -/
def stem (path : Path) : String :=
  stemOf path.name

/-- Walk along parts from the root: two dots go back to the directory above, and
stay at the root when they are there already.  `walked` is innermost first. -/
def walk (walked : List String) : List String → List String
  | [] => walked.reverse
  | part :: rest =>
      if part = ".." then walk walked.tail rest else walk (part :: walked) rest

/-- The parts from the root, without any dots, of a path seen from the directory
`current`. -/
def resolveParts (current : List String) (path : Path) : List String :=
  if path.isAbsolute then walk [] path.parts else walk [] (current ++ path.parts)

/-- The absolute path, without any dots, of a path seen from the directory `current`. -/
def resolve (current : List String) (path : Path) : Path :=
  ⟨.root, resolveParts current path⟩

/-- What remains of a list of parts after the parts of a directory. -/
def dropParts? : (directory parts : List String) → Option (List String)
  | [], parts => some parts
  | _ :: _, [] => none
  | d :: directory, part :: parts => if d = part then dropParts? directory parts else none

/-- The parts of `path` below `directory`, when it lies there. -/
def under? (directory path : Path) : Option (List String) :=
  if directory.anchor = path.anchor then dropParts? directory.parts path.parts else none

end Path

instance : ToString Path := ⟨Path.toString⟩

end StaticSite
