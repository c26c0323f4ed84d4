import LiveLint.Text.Basic

/-!
# Log lines

What the parts of the library tell an operator, one line per event, each under the name of the part
that speaks.
-/

namespace LiveLint

/-- How important a log line is. -/
inductive LogLevel where
  | debug
  | warning
  | error
deriving DecidableEq

/-- The word for a level. -/
def LogLevel.name : LogLevel → Text
  | .debug => "DEBUG"
  | .warning => "WARNING"
  | .error => "ERROR"

/-- A line of the log. -/
structure LogLine where
  level : LogLevel
  source : Text
  message : Text
deriving DecidableEq

namespace LogLine

/-- A line for those who follow what happens; `part` is the part of the library that speaks. -/
def debug (part message : Text) : LogLine := ⟨.debug, Text.ofString "sqlqa." ++ part, message⟩

/-- A line about a failure. -/
def error (part message : Text) : LogLine := ⟨.error, Text.ofString "sqlqa." ++ part, message⟩

/-- Level, part and message in one line. -/
def text (l : LogLine) : Text := l.level.name ++ " " ++ l.source ++ ": " ++ l.message

end LogLine

/-- A handler shows log lines to an operator, in colours or without. -/
structure LogHandler where
  colour : Bool
deriving DecidableEq

/-- Which log lines are shown, and by what. -/
structure Logger where
  /-- Less important lines are not shown. -/
  level : LogLevel := .warning
  handlers : List LogHandler := []

/-- Has log lines shown by one handler, in place of the handlers so far. -/
def Logger.configure (_ : Logger) (verbose colour : Bool) : Logger :=
  { level := if verbose then .debug else .warning, handlers := [⟨colour⟩] }

/-- The number of a check in a log line. -/
def checkName : Option Int → Text
  | none => "None"
  | some n => Text.ofInt n

end LiveLint
