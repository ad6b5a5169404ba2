/-
Module: StaticSite.FileTree
Purpose: A file system as a value, with the operations a build needs.
Trusted boundary: none
Main exports:
  Location, Path.ofLocation, Entry, FileTree, FileError, FileTree.locate, FileTree.makeDirectories,
  FileTree.write, FileTree.copy, FileTree.filesBelow
-/
import StaticSite.Path
import StaticSite.Sort

namespace StaticSite

/-!
A file system here has directories and regular files, and no symbolic links.  An operation on a
file succeeds as a whole or changes nothing: disks that are full and permissions are left out, and
so is a copy that stops half-way.
-/

/-- A place in the file system: the names of the directories that lead to it
from the root, and its own name. -/
abbrev Location := List String

/-- The absolute path that leads straight to a place. -/
def Path.ofLocation (location : Location) : Path :=
  ⟨.root, location⟩

/-- What stands at a place.  The time of the last change is in nanoseconds. -/
inductive Entry where
  | directory
  | file (bytes : ByteArray) (modified : Int)
deriving Inhabited

instance : DecidableEq Entry
  | .directory, .directory => .isTrue rfl
  | .directory, .file _ _ => .isFalse nofun
  | .file _ _, .directory => .isFalse nofun
  | .file bytes modified, .file bytes' modified' =>
      match ByteArray.instDecidableEq bytes bytes', Int.instDecidableEq modified modified' with
      | .isTrue same, .isTrue same' => .isTrue (by rw [same, same'])
      | .isFalse different, _ => .isFalse fun h => different (Entry.file.inj h).1
      | _, .isFalse different => .isFalse fun h => different (Entry.file.inj h).2

/-- A file system: what stands where.  The root is always a directory. -/
structure FileTree where
  entries : List (Location × Entry)
deriving DecidableEq, Inhabited

/-- Why an operation on files fails. -/
inductive FileError where
  | notFound (path : Path)
  | alreadyExists (path : Path)
  | isDirectory (path : Path)
  | notDirectory (path : Path)
deriving DecidableEq, Repr, Inhabited

/-- What went wrong, for a message. -/
def FileError.message : FileError → String
  | .notFound path => "No such file or directory: " ++ path.toString
  | .alreadyExists path => "File exists: " ++ path.toString
  | .isDirectory path => "Is a directory: " ++ path.toString
  | .notDirectory path => "Not a directory: " ++ path.toString

namespace FileTree

/-- The file system in which there is nothing but the root. -/
def empty : FileTree :=
  ⟨[]⟩

/-- What stands at a place. -/
def get? (tree : FileTree) (location : Location) : Option Entry :=
  match location with
  | [] => some .directory
  | _ => tree.entries.lookup location

/-- Put an entry in a list, in place of one at the same place. -/
def insertEntry : List (Location × Entry) → Location → Entry → List (Location × Entry)
  | [], location, entry => [(location, entry)]
  | (key, old) :: rest, location, entry =>
      if key = location then (key, entry) :: rest
      else (key, old) :: insertEntry rest location entry

/-- Put an entry at a place. -/
def insert (tree : FileTree) (location : Location) (entry : Entry) : FileTree :=
  ⟨insertEntry tree.entries location entry⟩

/-- Take away what stands at a place. -/
def erase (tree : FileTree) (location : Location) : FileTree :=
  ⟨tree.entries.filter fun entry => entry.1 != location⟩

/-! ### Following a path -/

/-- Follow the parts of a path from a directory.  Every part but the last one has
to lead to a directory; the last one may name something that does not exist. -/
def follow (tree : FileTree) (path : Path) : (current : Location) → (parts : List String) →
    Except FileError Location
  | current, [] => .ok current
  | current, part :: rest =>
      if part = ".." then
        follow tree path current.dropLast rest
      else
        let next := current ++ [part]
        match tree.get? next, rest with
        | some .directory, _ => follow tree path next rest
        | some (.file _ _), [] => .ok next
        | some (.file _ _), _ :: _ => .error (.notDirectory path)
        | none, [] => .ok next
        | none, _ :: _ => .error (.notFound path)

/-- The place an absolute path leads to. -/
def locate (tree : FileTree) (path : Path) : Except FileError Location :=
  tree.follow path [] path.parts

/-- What an absolute path leads to. -/
def entryAt? (tree : FileTree) (path : Path) : Option Entry :=
  match tree.locate path with
  | .ok location => tree.get? location
  | .error _ => none

/-- An absolute path leads to something. -/
def pathExists (tree : FileTree) (path : Path) : Bool :=
  (tree.entryAt? path).isSome

/-- An absolute path leads to a directory. -/
def isDirectory (tree : FileTree) (path : Path) : Bool :=
  match tree.entryAt? path with
  | some .directory => true
  | _ => false

/-- The time of the last change of the file that an absolute path leads to. -/
def modified? (tree : FileTree) (path : Path) : Option Int :=
  match tree.entryAt? path with
  | some (.file _ modified) => some modified
  | _ => none

/-! ### Operations -/

/-- The bytes of a file. -/
def contents (tree : FileTree) (path : Path) : Except FileError ByteArray := do
  let location ← tree.locate path
  match tree.get? location with
  | some (.file bytes _) => .ok bytes
  | some .directory => .error (.isDirectory path)
  | none => .error (.notFound path)

/-- Make a directory in one that exists. -/
def makeDirectory (tree : FileTree) (path : Path) : Except FileError FileTree := do
  let location ← tree.locate path
  match tree.get? location with
  | some _ => .error (.alreadyExists path)
  | none => .ok (tree.insert location .directory)

/-- Make a directory; it may be there already. -/
def ensureDirectory (tree : FileTree) (path : Path) : Except FileError FileTree :=
  match tree.makeDirectory path with
  | .ok tree => .ok tree
  | .error e => if tree.isDirectory path then .ok tree else .error e

/-- Make a directory that may be there already, and the directories that lead to
it.  The parts of its path are those of `base` and then `parts`.  Directories
that were made before something went wrong stay. -/
def ensureBelow (tree : FileTree) (base : Path) : (parts : List String) →
    FileTree × Option FileError
  | [] => (tree, none)
  | part :: rest =>
      let path := base.append [part]
      match tree.ensureDirectory path with
      | .ok tree => ensureBelow tree path rest
      | .error e => (tree, some e)

/-- Make a directory that may be there already; the ones that lead to it are made
only if one of them is missing. -/
def makeDirectories (tree : FileTree) (path : Path) : FileTree × Option FileError :=
  match tree.ensureDirectory path with
  | .ok tree => (tree, none)
  | .error (.notFound _) => tree.ensureBelow { path with parts := [] } path.parts
  | .error e => (tree, some e)

/-- Write a file whose directory exists. -/
def write (tree : FileTree) (path : Path) (bytes : ByteArray) (modified : Int) :
    Except FileError FileTree := do
  let location ← tree.locate path
  match tree.get? location with
  | some .directory => .error (.isDirectory path)
  | _ => .ok (tree.insert location (.file bytes modified))

/-- Copy a file, all of its bytes and the time of its last change.  A target that is a directory
takes the copy in, under the name of the source. -/
def copy (tree : FileTree) (source target : Path) : Except FileError FileTree := do
  let location ← tree.locate source
  let target := if tree.isDirectory target then target.append [source.name] else target
  match tree.get? location with
  | some (.file bytes modified) => tree.write target bytes modified
  | some .directory => .error (.isDirectory source)
  | none => .error (.notFound source)

/-- Take away the file that a path leads to. -/
def delete (tree : FileTree) (path : Path) : Except FileError FileTree := do
  let location ← tree.locate path
  match tree.get? location with
  | some (.file _ _) => .ok (tree.erase location)
  | some .directory => .error (.isDirectory path)
  | none => .error (.notFound path)

/-- The files below a directory, in the order of their places. -/
def filesBelow (tree : FileTree) (directory : Location) : List (Location × ByteArray) :=
  sortBy (fun a b => listLe a.1 b.1) (tree.entries.filterMap fun (location, entry) =>
    match entry, Path.dropParts? directory location with
    | .file bytes _, some (_ :: _) => some (location, bytes)
    | _, _ => none)

end FileTree

end StaticSite
