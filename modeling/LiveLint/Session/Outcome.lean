import LiveLint.LintError

/-!
# Outcomes of sessions

The life of a session from its creation to one of three ends, and what is known of it at the end.
-/

namespace LiveLint

/-- The states of a session. -/
inductive Status where
  | pending
  | running
  | completed
  | canceled
  | failed
deriving DecidableEq

namespace Status

/-- Every state, in the order of a session's life. -/
def all : List Status := [.pending, .running, .completed, .canceled, .failed]

/-- The word for a state. -/
def name : Status → Text
  | .pending => "pending"
  | .running => "running"
  | .completed => "completed"
  | .canceled => "canceled"
  | .failed => "failed"

/-- The state of that name. -/
def ofName? (t : Text) : Option Status := all.find? fun s => s.name == t

/-- The session is at its end. -/
def isTerminal : Status → Bool
  | .completed | .canceled | .failed => true
  | .pending | .running => false

end Status

/-- How a session ended. -/
structure Outcome where
  status : Status
  exitCode : Option Int := none
  stdout : Text := []
  stderr : Text := []
  error : Option LintError := none

namespace Outcome

/-- The linter ran to its end. -/
def ok (o : Outcome) : Bool := o.status = .completed

/-- The outcome without the linter's output. -/
def blank (o : Outcome) : Outcome := { o with stdout := [], stderr := [] }

end Outcome

end LiveLint
