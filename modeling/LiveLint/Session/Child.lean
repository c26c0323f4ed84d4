import LiveLint.Text.Utf8

/-!
# Linter processes

What a session knows of a process that was created for it. A process that has no exit status can be
killed; how it takes that is a property of the process.
-/

namespace LiveLint

/-- What is left of a process that has ended. -/
structure Exit where
  code : Int
  stdout : Bytes := []
  stderr : Bytes := []

/-- How a process takes being killed. -/
inductive KillResponse where
  /-- It ends at once, with these last words on standard error. -/
  | dies (stderr : Bytes)
  /-- It goes on until it ends by itself. -/
  | stubborn
  /-- It turns out to be gone already. -/
  | gone

/-- A process that was created for a session. -/
structure Child where
  pid : Int
  response : KillResponse := .dies []
  exit : Option Exit := none
  /-- How often it was killed. -/
  kills : Nat := 0
  /-- What was written to its standard input. -/
  stdin : Option Bytes := none

namespace Child

/-- Kills the process, unless it has ended. -/
def kill (c : Child) : Child :=
  match c.exit with
  | some _ => c
  | none =>
    { c with
      kills := c.kills + 1
      exit := match c.response with
        | .dies stderr => some ⟨-9, [], stderr⟩
        | .stubborn => none
        | .gone => some ⟨0, [], []⟩ }

/-- The process ends by itself, unless it has ended. -/
def finish (c : Child) (e : Exit) : Child :=
  match c.exit with
  | some _ => c
  | none => { c with exit := some e }

/-- Hands the process its standard input. -/
def write (c : Child) (input : Bytes) : Child := { c with stdin := some input }

end Child

end LiveLint
