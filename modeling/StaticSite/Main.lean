/-
Module: StaticSite.Main
Purpose: The command line: a run on real files, listed on standard input.
Trusted boundary: reading and writing files, and the list of files given on standard input
Main exports:
  main
-/
import StaticSite.CommandLine.Listing
import StaticSite.CommandLine.Run

/-!
The program works on the files and directories that standard input lists, one a
line, as `find . -printf '%y %T@ %p\n'` does.  It reads them all, runs the command
line on them, and writes what the run has changed.
-/

namespace StaticSite.CommandLine

/-- The lines of a stream. -/
partial def readLines (input : IO.FS.Stream) (lines : Array String) : IO (Array String) := do
  let line ← input.getLine
  if line.isEmpty then
    return lines
  else
    readLines input (lines.push (Text.removeEnd line "\n"))

/-- Add a listed file or directory, seen from the directory `current`. -/
def readListed (current : Location) (tree : FileTree) (listed : Listed) : IO FileTree := do
  let location := listed.path.resolveParts current
  if listed.isDirectory then
    return tree.withDirectory location
  else
    let bytes ← IO.FS.readBinFile (Path.ofLocation location).toString
    return tree.withFile location bytes listed.modified

/-- Carry out a change. -/
def writeChange (change : Location × Entry) : IO Unit := do
  let path := (Path.ofLocation change.1).toString
  match change.2 with
  | .directory => IO.FS.createDirAll path
  | .file bytes _ => IO.FS.writeBinFile path bytes

/-- The variables of the environment that a run looks at. -/
def readEnvironment : IO Environment := do
  let entries ← runVariables.mapM fun name => do
    return (← IO.getEnv name).map fun value => (name, value)
  return entries.filterMap id

end StaticSite.CommandLine

section

open StaticSite StaticSite.CommandLine

/-- Run the command line.  The time that a run notes for what it writes plays no
part within the run. -/
def main (words : List String) : IO UInt32 := do
  let current := (Path.ofString (toString (← IO.currentDir))).parts
  let lines ← readLines (← IO.getStdin) #[]
  let start := FileTree.empty.withDirectory current
  let tree ← (lines.toList.filterMap Listed.ofLine?).foldlM (readListed current) start
  let finished := run tree 0 current (← readEnvironment) words
  for change in tree.changes finished.tree do
    writeChange change
  for entry in finished.log do
    IO.eprintln entry.toString
  match finished.outcome with
  | .ok (_, lines) =>
      for line in lines do
        IO.println line
      return 0
  | .error e =>
      IO.eprintln e.message
      return 1

end
