/-
Module: StaticSite.CommandLine.Run
Purpose: What the command line does: building the site of a configuration and reporting on it.
Trusted boundary: none
Main exports:
  LogSetup, logSetup, runVariables, shownPath, CommandError, CommandRun, run
-/
import StaticSite.CommandLine.Options
import StaticSite.Site.Build

namespace StaticSite.CommandLine

open Text Site

/-! ### Messages -/

/-- Where the messages about a build go. -/
structure LogSetup where
  /-- Less important messages are not shown. -/
  level : LogLevel
  /-- The number of places where a message is shown. -/
  handlers : Nat
  /-- Messages also go to whoever listens to the whole program. -/
  propagate : Bool
deriving DecidableEq, Repr, Inhabited

/-- The variable of the environment that asks for every message, unless it is empty. -/
def debugVariable : String :=
  "COMPOSE_HTML_DEBUG"

/-- The variables of the environment that a run looks at. -/
def runVariables : List String :=
  variableNames ++ [debugVariable]

/-- Messages go to one place only.  Warnings are always shown, progress if the
run is `verbose`, and everything if the debug variable has the value `debug`. -/
def logSetup (verbose : Bool) (debug : Option String) : LogSetup :=
  { level := if debug.getD "" != "" then .debug else if verbose then .info else .warning
    handlers := 1
    propagate := false }

/-- The message is shown. -/
def LogSetup.shows (setup : LogSetup) (entry : LogEntry) : Bool :=
  setup.level.rank ≤ entry.level.rank

/-- A path as it is shown to the user: seen from the current directory, if it
lies there. -/
def shownPath (current : Location) (path : Path) : String :=
  match Path.under? (Path.ofLocation current) path with
  | some parts => (Path.mk .relative parts).toString
  | none => path.toString

/-! ### The command -/

/-- Why a run fails. -/
inductive CommandError where
  | usage (cause : UsageError)
  | config (cause : ConfigFailure)
  | build (cause : BuildError)
deriving DecidableEq, Repr, Inhabited

/-- What to tell the user. -/
def CommandError.message : CommandError → String
  | .usage cause => cause.message
  | .config cause => cause.message
  | .build cause => cause.message

/-- The configuration file that is read, if there is one, when none is named. -/
def standardConfig : Path :=
  Path.ofString "compose.yaml"

/-- The settings that options put in place of those of the configuration file. -/
def Options.overrides (options : Options) : Overrides :=
  [ ("input_dir", options.inputDir.map Setting.path),
    ("output_dir", options.outputDir.map Setting.path),
    ("root_dir", options.rootDir.map Setting.path),
    ("min_page_usage", options.minPageUsage.map fun n => .value (.int n)),
    ("script_src_prefix", options.scriptSrcStart.map fun s => .value (.string s)),
    ("beautify", options.beautify.map fun on => .value (.bool on)) ].filterMap
      fun (key, setting?) => setting?.map fun setting => (key, setting)

/-- What a run leaves behind. -/
structure CommandRun where
  tree : FileTree
  log : List LogEntry
  /-- Where messages go, and the lines that are printed when all is done. -/
  outcome : Except CommandError (LogSetup × List String)
deriving Inhabited

/-- The lines that report a build. -/
def reportLines (current : Location) (result : BuildResult) : List String :=
  result.written.map (fun path => "wrote " ++ shownPath current path)
    ++ result.skipped.map fun path =>
        "skipped " ++ shownPath current path ++ " (outside root dir)"

/-- Run a command line.  Files that are written get the time `now`. -/
def run (tree : FileTree) (now : Int) (current : Location) (environment : Environment)
    (words : List String) : CommandRun :=
  match Options.read words environment with
  | .error e => ⟨tree, [], .error (.usage e)⟩
  | .ok options =>
      let setup := logSetup options.verbose (environment.lookup debugVariable)
      let loaded := loadConfig tree current (some (options.config.getD standardConfig))
        options.overrides options.config.isSome
      match loaded with
      | .error e => ⟨tree, [], .error (.config (e.raised messageRoom))⟩
      | .ok config =>
          let building := build tree now current config
          let log := building.log.filter setup.shows
          match building.outcome with
          | .error e => ⟨building.tree, log, .error (.build e)⟩
          | .ok result => ⟨building.tree, log, .ok (setup, reportLines current result)⟩

end StaticSite.CommandLine
