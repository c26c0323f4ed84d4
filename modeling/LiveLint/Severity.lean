import LiveLint.Console.Colour

/-!
# Severity

How serious a diagnostic is, and the colour in which its severity is shown.
-/

namespace LiveLint

/-- The levels of a diagnostic. -/
inductive Severity where
  | error
  | warning
  | notice
  | note
deriving DecidableEq

namespace Severity

/-- Every severity, the most serious first. -/
def all : List Severity := [.error, .warning, .notice, .note]

/-- The word for a severity. -/
def name : Severity → Text
  | .error => "error"
  | .warning => "warning"
  | .notice => "notice"
  | .note => "note"

/-- The severity of that name. -/
def ofName? (t : Text) : Option Severity := all.find? fun s => s.name == t

/-- Linters that report annotations do not tell severities apart; each issue gets this one. -/
def ofIssue : Severity := .warning

/-- The colour of a severity. -/
def colour : Severity → Colour
  | .error => .red
  | .warning => .yellow
  | .notice => .cyan
  | .note => .blue

end Severity

end LiveLint
