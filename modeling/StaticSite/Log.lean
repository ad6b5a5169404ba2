/-
Module: StaticSite.Log
Purpose: Messages about the progress of a build.
Trusted boundary: none
Main exports:
  LogLevel, LogLevel.rank, LogEntry, LogEntry.toString
-/
namespace StaticSite

/-- How important a message is. -/
inductive LogLevel where
  | debug
  | info
  | warning
deriving DecidableEq, Repr, Inhabited

/-- The level as it is written. -/
def LogLevel.toString : LogLevel → String
  | .debug => "DEBUG"
  | .info => "INFO"
  | .warning => "WARNING"

/-- The levels in order of importance. -/
def LogLevel.rank : LogLevel → Nat
  | .debug => 0
  | .info => 1
  | .warning => 2

/-- A message about the progress of a build. -/
structure LogEntry where
  level : LogLevel
  message : String
deriving DecidableEq, Repr, Inhabited

/-- The message with its level before it. -/
def LogEntry.toString (entry : LogEntry) : String :=
  entry.level.toString ++ " " ++ entry.message

end StaticSite
