/-
Module: StaticSite.CommandLine.Options
Purpose: The options of the command line, with the environment behind them.
Trusted boundary: none
Main exports:
  ValueOption, Switch, Flag, flag?, Environment, variableFlag?, variableNames, Given, readWords,
  UsageError, Options, Options.read
-/
import StaticSite.CommandLine.Number
import StaticSite.Path
import StaticSite.Text.Quote

namespace StaticSite.CommandLine

open Text

/-! ### The options there are -/

/-- The options that take a value. -/
inductive ValueOption where
  | config
  | inputDir
  | outputDir
  | rootDir
  | minPageUsage
  | scriptSrcStart
deriving DecidableEq, Repr, Inhabited

/-- The options that are on or off. -/
inductive Switch where
  | beautify
  | verbose
deriving DecidableEq, Repr, Inhabited

/-- The switch can be left open, so that the configuration decides. -/
def Switch.mayBeOpen : Switch → Bool
  | .beautify => true
  | .verbose => false

/-- What a word that names an option asks for. -/
inductive Flag where
  | value (option : ValueOption)
  | switch (option : Switch) (on : Bool)
deriving DecidableEq, Repr, Inhabited

/-- The words that name options. -/
def flags : List (String × Flag) :=
  [ ("--config", .value .config),
    ("--input-dir", .value .inputDir),
    ("--output-dir", .value .outputDir),
    ("--root-dir", .value .rootDir),
    ("--min-page-usage", .value .minPageUsage),
    ("--script-src-prefix", .value .scriptSrcStart),
    ("--beautify", .switch .beautify true),
    ("--no-beautify", .switch .beautify false),
    ("--verbose", .switch .verbose true),
    ("-v", .switch .verbose true),
    ("--no-verbose", .switch .verbose false) ]

/-- A word with hyphens in place of its underscores. -/
def hyphenated (word : String) : String :=
  replaceChar '_' "-" word

/-- The option that a word names; hyphens and underscores count as the same. -/
def flag? (word : String) : Option Flag :=
  flags.lookup (hyphenated word)

/-! ### The environment -/

/-- The variables of the environment with their values. -/
abbrev Environment := List (String × String)

/-- What the names of the variables that stand in for options start with. -/
def variableStart : String :=
  "INPUT_"

/-- The name of an option as variables of the environment have it: in capitals,
without the hyphens at its start. -/
def capitalName (word : String) : String :=
  String.ofList ((word.toList.dropWhile (· == '-')).map Char.toUpper)

/-- The option that a variable of the environment stands in for. -/
def variableFlag? (name : String) : Option Flag :=
  (dropStart? variableStart.toList name.toList).bind fun rest =>
    (flags.map fun (word, flag) => (capitalName word, flag)).lookup
      (hyphenated (String.ofList rest))

/-- The ways to write a name, each of its hyphens as a hyphen or an underscore. -/
def spellings : List Char → List (List Char)
  | [] => [[]]
  | c :: rest =>
      let more := spellings rest
      if c = '-' then more.map ('-' :: ·) ++ more.map ('_' :: ·) else more.map (c :: ·)

/-- The names of the variables that stand in for options. -/
def variableNames : List String :=
  flags.flatMap fun (word, _) =>
    (spellings (capitalName word).toList).map fun name => variableStart ++ String.ofList name

/-! ### Reading the words -/

/-- Why a command line cannot be understood. -/
inductive UsageError where
  | noCommand
  | unknownCommand (word : String)
  | unknownOption (word : String)
  | unexpectedWord (word : String)
  | missingValue (option : String)
  | repeated (option : String)
  | notBoolean (option value : String)
  | notInteger (option value : String)
deriving DecidableEq, Repr, Inhabited

/-- What to tell the user. -/
def UsageError.message : UsageError → String
  | .noCommand => "A command is missing: build."
  | .unknownCommand word => "Unknown command " ++ quoted word ++ "."
  | .unknownOption word => "Unknown option " ++ quoted word ++ "."
  | .unexpectedWord word => "Unexpected word " ++ quoted word ++ "."
  | .missingValue option => option ++ " requires a value."
  | .repeated option => option ++ " was given more than once."
  | .notBoolean option value => option ++ " must be a boolean, got " ++ quoted value ++ "."
  | .notInteger option value => option ++ " must be an integer, got " ++ quoted value ++ "."

/-- The options that a command line gives.  A switch may be given without saying
whether it is on or off. -/
structure Given where
  values : List (ValueOption × String)
  switches : List (Switch × Option Bool)
deriving DecidableEq, Repr, Inhabited

namespace Given

/-- No options. -/
def empty : Given :=
  ⟨[], []⟩

/-- Add an option with its value; `word` names it. -/
def addValue (given : Given) (word : String) (option : ValueOption) (value : String) :
    Except UsageError Given :=
  match given.values.lookup option with
  | some _ => .error (.repeated word)
  | none => .ok { given with values := given.values ++ [(option, value)] }

/-- Add a switch; `word` names it. -/
def addSwitch (given : Given) (word : String) (option : Switch) (on : Option Bool) :
    Except UsageError Given :=
  match given.switches.lookup option with
  | some _ => .error (.repeated word)
  | none => .ok { given with switches := given.switches ++ [(option, on)] }

/-- What a value says about a switch; only for some of them it may say nothing. -/
def switchValue (name : String) (option : Switch) (value : String) :
    Except UsageError (Option Bool) :=
  match boolean? value with
  | some on => .ok (some on)
  | none =>
      if option.mayBeOpen && isNothing value then .ok none else .error (.notBoolean name value)

/-- Add an option that is written with its value, behind an equals sign. -/
def addAssigned (given : Given) (word value : String) : Except UsageError Given :=
  match flag? word with
  | none => .error (.unknownOption word)
  | some (.value option) => given.addValue word option value
  | some (.switch option on) => do
      let same ← switchValue word option value
      given.addSwitch word option (same.map (on == ·))

end Given

/-- A word that starts with a hyphen is meant as an option, unless it is a number. -/
def looksLikeOption (word : String) : Bool :=
  startsWith word "-" && !isNumber word

/-- The word after which only arguments follow. -/
def endOfOptions : String :=
  "--"

/-- Read the words after the command, which takes options only. -/
def readWords : Given → List String → Except UsageError Given
  | given, [] => .ok given
  | given, word :: rest =>
      if word = endOfOptions then
        match rest with
        | [] => .ok given
        | extra :: _ => .error (.unexpectedWord extra)
      else if !looksLikeOption word then
        .error (.unexpectedWord word)
      else
        match splitAtFirst? (· == '=') word.toList with
        | some (name, value) => do
            let given ← given.addAssigned (String.ofList name) (String.ofList value)
            readWords given rest
        | none =>
            match flag? word with
            | none => .error (.unknownOption word)
            | some (.switch option on) => do
                let given ← given.addSwitch word option (some on)
                readWords given rest
            | some (.value option) =>
                match rest with
                | [] => .error (.missingValue word)
                | value :: rest =>
                    if looksLikeOption value then
                      .error (.missingValue word)
                    else do
                      let given ← given.addValue word option value
                      readWords given rest

/-- The command that builds a site. -/
def buildCommand : String :=
  "build"

/-- Read the words of a command line. -/
def readCommand (words : List String) : Except UsageError Given :=
  match words with
  | [] => .error .noCommand
  | command :: rest =>
      if command = buildCommand then readWords .empty rest else .error (.unknownCommand command)

/-! ### The options of a run -/

/-- The variables of an environment that stand in for an option of one kind. -/
def variablesOf (environment : Environment) (isMeant : Flag → Bool) : Environment :=
  environment.filter fun entry => (variableFlag? entry.1).any isMeant

/-- The only variable of a list, if there is one. -/
def onlyVariable? (found : Environment) : Except UsageError (Option (String × String)) :=
  match found with
  | [] => .ok none
  | [entry] => .ok (some entry)
  | entry :: _ => .error (.repeated entry.1)

/-- The value of an option: the one given, or else that of its variable. -/
def Given.value? (given : Given) (environment : Environment) (option : ValueOption) :
    Except UsageError (Option String) :=
  match given.values.lookup option with
  | some value => .ok (some value)
  | none => do
      let entry? ← onlyVariable? (variablesOf environment (· == .value option))
      return entry?.map (·.2)

/-- The state of a switch: the one given, or else that of its variable, which
says whether the switch is on, whatever the name of the variable. -/
def Given.switch? (given : Given) (environment : Environment) (option : Switch) :
    Except UsageError (Option Bool) :=
  match given.switches.lookup option with
  | some on => .ok on
  | none => do
      let isMeant (flag : Flag) : Bool :=
        flag == .switch option true || flag == .switch option false
      match ← onlyVariable? (variablesOf environment isMeant) with
      | none => return none
      | some (name, value) => switchValue name option value

/-- The options of a run; one that is missing leaves the choice to the configuration. -/
structure Options where
  config : Option Path
  inputDir : Option Path
  outputDir : Option Path
  rootDir : Option Path
  minPageUsage : Option Int
  scriptSrcStart : Option String
  beautify : Option Bool
  verbose : Bool
deriving DecidableEq, Repr, Inhabited

namespace Options

/-- The number of pages that an option gives, which may be left open. -/
def pageUsage (value : Option String) : Except UsageError (Option Int) :=
  match value with
  | none => .ok none
  | some value =>
      match integer? value with
      | some n => .ok (some n)
      | none =>
          if isNothing value then .ok none else .error (.notInteger "--min-page-usage" value)

/-- Read the options of a command line in an environment. -/
def read (words : List String) (environment : Environment) : Except UsageError Options := do
  let given ← readCommand words
  let path? (option : ValueOption) : Except UsageError (Option Path) := do
    return (← given.value? environment option).map Path.ofString
  let minPageUsage ← pageUsage (← given.value? environment .minPageUsage)
  let beautify ← given.switch? environment .beautify
  let verbose ← given.switch? environment .verbose
  return {
    config := ← path? .config
    inputDir := ← path? .inputDir
    outputDir := ← path? .outputDir
    rootDir := ← path? .rootDir
    minPageUsage := minPageUsage
    scriptSrcStart := ← given.value? environment .scriptSrcStart
    beautify := beautify
    verbose := verbose.getD false }

end Options

end StaticSite.CommandLine
