/-
Module: StaticSite.Config
Purpose: The configuration of a build, and how it is put together and checked.
Trusted boundary: none
Main exports:
  BeautifyConfig, BuildConfig, Setting, ConfigError, ConfigError.isRefusal, ConfigFailure,
  ConfigError.raised, BuildConfig.check, Overrides, Settings, configure, loadConfig,
  BuildConfig.given
-/
import StaticSite.FileTree
import StaticSite.Layout
import StaticSite.Text.Decode
import StaticSite.Yaml.Equality
import StaticSite.Yaml.Read

namespace StaticSite

open Text Yaml

/-! ### The configuration -/

/-- How pages are laid out.  Without an indentation, the one a page's own source
uses is kept. -/
structure BeautifyConfig where
  enabled : Bool := true
  indent : Option Indent := none
deriving DecidableEq, Repr, Inhabited

/-- Everything a build needs to know. -/
structure BuildConfig where
  inputDir : Path
  outputDir : Path
  /-- The directory that the paths of pages and other files are taken from, if it
  is not the input directory. -/
  rootDir : Option Path
  minPageUsage : Int
  scriptSrcStart : String
  beautify : BeautifyConfig
deriving DecidableEq, Repr, Inhabited

namespace BuildConfig

/-- The directory that the paths of pages and other files are taken from. -/
def contentRoot (config : BuildConfig) : Path :=
  config.rootDir.getD config.inputDir

/-- The output directory, seen from the input directory, if none is given. -/
def standardOutput : String :=
  "out"

/-- The number of pages that have to share a script, if none is given. -/
def standardMinPageUsage : Int :=
  2

/-- What the URLs of script files start with, if nothing is given. -/
def standardSrcStart : String :=
  "/scripts/"

end BuildConfig

/-! ### Settings -/

/-- A value given to a setting: one of the file, or one given in its place,
which may also be a path or a layout. -/
inductive Setting where
  | path (path : Path)
  | layout (config : BeautifyConfig)
  | value (value : Value)
deriving DecidableEq, Repr, Inhabited

/-- The indentation of a layout as a value. -/
def BeautifyConfig.indentValue (config : BeautifyConfig) : Value :=
  match config.indent with
  | none => .null
  | some (.spaces count) => .int count
  | some (.literal indent) => .string indent

/-- The setting as it is shown in a message. -/
def Setting.shown : Setting → String
  | .path given => "PosixPath(" ++ quoted given.toString ++ ")"
  | .layout config =>
      "BeautifyConfig(enabled=" ++ (Value.bool config.enabled).shown ++ ", indent="
        ++ config.indentValue.shown ++ ")"
  | .value given => given.shown

/-- What comes up first that keeps the setting from being shown, if only `room` calls can be made
within each other.  For a path or a layout, which take a few, there is always room. -/
def Setting.obstacle? (room : Nat) : Setting → Option Obstacle
  | .path _ => none
  | .layout config => config.indentValue.obstacle? 1
  | .value given => given.obstacle? room

/-! ### Errors -/

/-- Why a configuration cannot be loaded. -/
inductive ConfigError where
  /-- A file that has to exist does not. -/
  | missingFile (path : Path)
  | file (cause : FileError)
  | notText (path : Path)
  | yaml (cause : YamlError)
  | notMapping
  | unknownKeys (keys : List String)
  /-- Some unknown keys are not strings. -/
  | strangeKeys
  | emptyPath (key : String)
  /-- No file can have a name that holds a null character. -/
  | nullCharacter (path : Path)
  /-- The value of `key` is not `expected`, but `given`. -/
  | wrongType (key expected : String) (given : Setting)
  | minPageUsage (given : Int)
deriving DecidableEq, Repr, Inhabited

/-- What went wrong, for a message. -/
def ConfigError.message : ConfigError → String
  | .missingFile path => "Configuration file '" ++ path.toString ++ "' not found."
  | .file cause => cause.message
  | .notText path => "Configuration file '" ++ path.toString ++ "' is not UTF-8."
  | .yaml cause => cause.message
  | .notMapping => "Top-level YAML structure must be a mapping."
  | .unknownKeys keys => "Unknown configuration keys: " ++ joinWith ", " keys
  | .strangeKeys => "Configuration keys must be strings."
  | .emptyPath key => "'" ++ key ++ "' must be a non-empty path."
  | .nullCharacter path => "Path '" ++ path.toString ++ "' holds a null character."
  | .wrongType key expected given =>
      "'" ++ key ++ "' must be " ++ expected ++ ", got " ++ given.shown ++ "."
  | .minPageUsage given => "min_page_usage must be at least 1, got " ++ toString given ++ "."

/-- The configuration itself is refused, and the message tells what is wrong with it.  Other
errors come from reading the file, or from looking at a key or a path. -/
def ConfigError.isRefusal : ConfigError → Bool
  | .notMapping | .unknownKeys _ | .emptyPath _ | .wrongType _ _ _ | .minPageUsage _ => true
  | _ => false

/-- The setting that the message of an error shows. -/
def ConfigError.subject? : ConfigError → Option Setting
  | .wrongType _ _ given => some given
  | .minPageUsage given => some (.value (.int given))
  | _ => none

/-- What becomes of an error: it is reported, or its message cannot be put together. -/
inductive ConfigFailure where
  | error (cause : ConfigError)
  | unshown (obstacle : Obstacle)
deriving DecidableEq, Repr, Inhabited

/-- What becomes of the error if only `room` calls can be made within each other for its
message. -/
def ConfigError.raised (room : Nat) (cause : ConfigError) : ConfigFailure :=
  match cause.subject?.bind (Setting.obstacle? room) with
  | some obstacle => .unshown obstacle
  | none => .error cause

/-- What went wrong, for a message. -/
def ConfigFailure.message : ConfigFailure → String
  | .error cause => cause.message
  | .unshown obstacle => obstacle.message

/-- About so many calls within each other are left for a message; in all there can be a
thousand. -/
def messageRoom : Nat :=
  900

/-- The configuration, unless its number of pages is too small. -/
def BuildConfig.check (config : BuildConfig) : Except ConfigError BuildConfig :=
  if config.minPageUsage < 1 then .error (.minPageUsage config.minPageUsage) else .ok config

/-! ### Single settings -/

/-- The settings that are given in place of those of the file. -/
abbrev Overrides := List (String × Setting)

/-- The keys of settings that are paths. -/
def pathKeys : List String :=
  ["input_dir", "output_dir", "root_dir"]

/-- The keys of the other settings. -/
def valueKeys : List String :=
  ["min_page_usage", "script_src_prefix", "beautify"]

/-- The path that a setting gives, as it is written. -/
def Setting.path? : Setting → Option Path
  | .path given => some given
  | .value (.string s) => if isBlank s then none else some (Path.ofString (trim s))
  | _ => none

/-- Some part of the path holds a null character. -/
def Path.holdsNull (path : Path) : Bool :=
  path.parts.any fun part => part.toList.contains '\x00'

/-- The path that a setting gives, seen from the directory `base` if it is relative. -/
def pathOf (base : Location) (key : String) (setting : Setting) : Except ConfigError Path :=
  match setting.path? with
  | none => .error (.emptyPath key)
  | some path =>
      if path.isAbsolute then .ok path
      else if path.holdsNull then .error (.nullCharacter path)
      else .ok (path.resolve base)

/-- The integer that a setting gives. -/
def intOf (key : String) (setting : Setting) : Except ConfigError Int :=
  match setting with
  | .value (.int n) => .ok n
  | _ => .error (.wrongType key "an integer" setting)

/-- The string that a setting gives. -/
def stringOf (key : String) (setting : Setting) : Except ConfigError String :=
  match setting with
  | .value (.string s) => .ok s
  | _ => .error (.wrongType key "a string" setting)

/-- The indentation that a value gives, or none for null. -/
def indentOf (value : Value) : Except ConfigError (Option Indent) :=
  match value with
  | .null => .ok none
  | .int n => .ok (some (.spaces n))
  | .string s => .ok (some (.literal s))
  | _ => .error (.wrongType "beautify.indent" "an integer or string" (.value value))

/-- The layout that a setting gives: a switch, or a mapping with a switch and an
indentation. -/
def beautifyOf (setting : Setting) : Except ConfigError BeautifyConfig :=
  match setting with
  | .layout config => .ok config
  | .value (.bool enabled) => .ok { enabled := enabled }
  | .value value =>
      match value.entries? with
      | some entries => do
          let indent ← indentOf ((entries.get? (.string "indent")).getD .null)
          let enabled := (entries.get? (.string "enabled")).getD (.bool true)
          return { enabled := enabled.isTruthy, indent := indent }
      | none => .error (.wrongType "beautify" "a boolean or mapping" setting)
  | .path _ => .error (.wrongType "beautify" "a boolean or mapping" setting)

/-- The value of a setting, checked, or the standard value if the setting is not given. -/
def givenOr {α : Type} (standard : α) (check : Setting → Except ConfigError α) :
    Option Setting → Except ConfigError α
  | some setting => check setting
  | none => .ok standard

/-- The settings of the file and those given in their place, together.  Paths
are absolute; the other values are not checked yet. -/
structure Settings where
  inputDir : Option Path := none
  outputDir : Option Path := none
  rootDir : Option Path := none
  minPageUsage : Option Setting := none
  scriptSrcStart : Option Setting := none
  beautify : Option Setting := none
deriving Repr, Inhabited

namespace Settings

/-- Set one of the paths. -/
def setPath (settings : Settings) (key : String) (path : Path) : Settings :=
  match key with
  | "input_dir" => { settings with inputDir := some path }
  | "output_dir" => { settings with outputDir := some path }
  | "root_dir" => { settings with rootDir := some path }
  | _ => settings

/-- Set one of the other values. -/
def setValue (settings : Settings) (key : String) (setting : Setting) : Settings :=
  match key with
  | "min_page_usage" => { settings with minPageUsage := some setting }
  | "script_src_prefix" => { settings with scriptSrcStart := some setting }
  | "beautify" => { settings with beautify := some setting }
  | _ => settings

/-- Take over the paths of a file in the directory `base`. -/
def readPaths (base : Location) (mapping : Mapping) : Settings → List String →
    Except ConfigError Settings
  | settings, [] => .ok settings
  | settings, key :: rest =>
      match mapping.get? (.string key) with
      | none => readPaths base mapping settings rest
      | some value => do
          let path ← pathOf base key (.value value)
          readPaths base mapping (settings.setPath key path) rest

/-- Take over the other values of a file. -/
def readValues (mapping : Mapping) (settings : Settings) : Settings :=
  valueKeys.foldl (fun settings key =>
    match mapping.get? (.string key) with
    | some value => settings.setValue key (.value value)
    | none => settings) settings

/-- Put a setting in place of the one of the file.  Null leaves the file's.  A
switch for the layout keeps the indentation of the file. -/
def override (current : Location) (settings : Settings) (key : String) (setting : Setting) :
    Except ConfigError Settings :=
  match setting with
  | .value .null => .ok settings
  | _ =>
      if pathKeys.contains key then do
        return settings.setPath key (← pathOf current key setting)
      else
        match key, setting with
        | "beautify", .value (.bool enabled) => do
            let configured ← beautifyOf (settings.beautify.getD (.value (.bool true)))
            return { settings with
              beautify := some (.layout { enabled := enabled, indent := configured.indent }) }
        | _, _ => .ok (settings.setValue key setting)

/-- Put settings in place of those of the file, one after the other. -/
def overrideAll (current : Location) (settings : Settings) (overrides : Overrides) :
    Except ConfigError Settings :=
  overrides.foldlM (fun settings entry => settings.override current entry.1 entry.2) settings

/-- Check the values, and fill in what is missing. -/
def finish (base : Location) (settings : Settings) : Except ConfigError BuildConfig := do
  let inputDir := settings.inputDir.getD (Path.ofLocation base)
  let minPageUsage ← givenOr BuildConfig.standardMinPageUsage (intOf "min_page_usage")
    settings.minPageUsage
  let srcStart ← givenOr BuildConfig.standardSrcStart (stringOf "script_src_prefix")
    settings.scriptSrcStart
  let beautify ← givenOr {} beautifyOf settings.beautify
  BuildConfig.check {
    inputDir := inputDir
    outputDir := settings.outputDir.getD (inputDir.append [BuildConfig.standardOutput])
    rootDir := settings.rootDir
    minPageUsage := minPageUsage
    scriptSrcStart := srcStart
    beautify := beautify }

end Settings

/-! ### Putting a configuration together -/

/-- The key is one of a setting. -/
def isKnownKey : Value → Bool
  | .string key => pathKeys.contains key || valueKeys.contains key
  | _ => false

/-- The keys that no setting has, in order. -/
def unknownKeys (mapping : Mapping) : List Value :=
  (mapping.map (·.1)).filter fun key => !isKnownKey key

/-- Every key has to be one of a setting. -/
def checkKeys (mapping : Mapping) : Except ConfigError Unit :=
  let unknown := unknownKeys mapping
  let names := unknown.filterMap Value.text?
  if unknown.isEmpty then .ok ()
  else if names.length != unknown.length then .error .strangeKeys
  else .error (.unknownKeys (sortBy stringLe names))

/-- The mapping a file holds.  A file that holds nothing, or an empty value,
counts as an empty mapping. -/
def topMapping (document : Value) : Except ConfigError Mapping :=
  if document.isTruthy then
    match document.entries? with
    | some entries => .ok entries
    | none => .error .notMapping
  else
    .ok []

/-- The configuration that the settings of a file in the directory `base`
describe, with others in their place, which are seen from the directory `current`. -/
def configureMapping (mapping : Mapping) (base current : Location) (overrides : Overrides) :
    Except ConfigError BuildConfig := do
  checkKeys mapping
  let settings ← Settings.readPaths base mapping {} pathKeys
  let settings ← (settings.readValues mapping).overrideAll current overrides
  settings.finish base

/-- The configuration that a document in the directory `base` describes, with
other settings in place of some of its own. -/
def configure (document : Value) (base current : Location) (overrides : Overrides) :
    Except ConfigError BuildConfig := do
  configureMapping (← topMapping document) base current overrides

/-- The value that the configuration file at an absolute path holds. -/
def readDocument (tree : FileTree) (path : Path) : Except ConfigError Value := do
  let bytes ← (tree.contents path).mapError .file
  match decode? bytes with
  | none => throw (.notText path)
  | some text => (Yaml.read text).mapError .yaml

/-- Load a configuration.  `current` is the current directory.  A file that does
not exist is an error if it is required, and counts as empty otherwise. -/
def loadConfig (tree : FileTree) (current : Location) (path : Option Path)
    (overrides : Overrides) (required : Bool) : Except ConfigError BuildConfig :=
  match path with
  | none => configureMapping [] current current overrides
  | some path =>
      let absolute := (Path.ofLocation current).join path
      if tree.pathExists absolute then do
        let document ← readDocument tree absolute
        configure document (Path.resolveParts current path).dropLast current overrides
      else if required then
        .error (.missingFile path)
      else
        configureMapping [] current current overrides

/-- A configuration given value by value, with the current directory in place of
missing directories. -/
def BuildConfig.given (current : Location) (inputDir outputDir rootDir : Option Path)
    (minPageUsage : Int) (scriptSrcStart : String) (beautify : BeautifyConfig) :
    Except ConfigError BuildConfig :=
  let here := Path.ofLocation current
  BuildConfig.check {
    inputDir := inputDir.getD here
    outputDir := outputDir.getD (here.append [standardOutput])
    rootDir := rootDir
    minPageUsage := minPageUsage
    scriptSrcStart := scriptSrcStart
    beautify := beautify }

end StaticSite
