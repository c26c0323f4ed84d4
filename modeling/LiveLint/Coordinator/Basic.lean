import LiveLint.Issue.Output
import LiveLint.Position.Mapper
import LiveLint.Session.Outcome
import LiveLint.Settings.Basic

/-!
# Coordination of checks

A coordinator runs the checks of one buffer. Its slot holds the number of the check that may speak;
a new request empties the slot and takes it, and an outcome that arrives for any other check is
discarded. Before a host is told anything the slot is emptied, so that every request is answered at
most once and the host finds the coordinator idle when it is told.

The machine here knows sessions by the number of their check only and assumes nothing of them: an
outcome may be delivered for any number at any time. Its effects are what the coordinator does with
sessions and tells hosts. Hosts are values of any type `η`.
-/

namespace LiveLint

/-- What a check has to know when its outcome arrives. -/
structure Request (η : Type) where
  /-- The text of the buffer as it was requested. -/
  text : Text
  /-- The unit of the ranges that are reported. -/
  unit : OffsetUnit
  /-- Who is told. -/
  host : η

/-- What a check ends with. -/
inductive Verdict where
  | found (ds : List Diagnostic)
  | failed (e : LintError)
  /-- The output cannot even be judged. -/
  | broken (f : Fault)

/-- The verdict on an outcome: the diagnostics of the linter's issues, placed in the requested
text. -/
def Request.judge {η : Type} (r : Request η) (parser : OutputParser) (o : Outcome) : Verdict :=
  if o.status = .completed then
    match ({ stdout := o.stdout, exitCode := o.exitCode, stderr := o.stderr } : LinterOutput).issues
        parser with
    | .ok issues => .found (({ unit := r.unit } : Mapper).toDiagnostics r.text issues).1
    | .error (.lint e) => .failed e
    | .error (.fault f) => .broken f
  else .failed (o.error.getD (.sessionFailed (.ended o.status.name) false none))

/-- The state of a buffer. -/
inductive CheckState where
  | idle
  | checking
deriving DecidableEq

namespace CheckState

/-- Both states. -/
def all : List CheckState := [.idle, .checking]

/-- The word for a state. -/
def name : CheckState → Text
  | .idle => "idle"
  | .checking => "checking"

end CheckState

/-- The coordinator of one buffer, whose hosts are of type `η`. -/
structure Coordinator (η : Type) where
  settings : Settings := {}
  /-- How the output of linters is understood. -/
  parser : OutputParser := {}
  /-- The check that may speak. -/
  slot : Option Nat := none
  nextId : Nat := 1
  /-- Every request, by the number of its check. -/
  requests : List (Nat × Request η) := []

namespace Coordinator

variable {η : Type}

/-- What happens to a coordinator. -/
inductive Event (η : Type) where
  /-- The check in the slot is given up. -/
  | supersede
  /-- A check of a text is accepted. -/
  | accept (text : Text) (host : η)
  /-- The session of a check delivers an outcome. -/
  | deliver (id : Nat) (o : Outcome)
  /-- The session of a check could not be started. -/
  | spawnFailed (id : Nat) (e : LintError)
  /-- The settings for later checks are changed. -/
  | configure (s : Settings)

/-- What a coordinator does. -/
inductive Effect (η : Type) where
  | log (line : LogLine)
  /-- Cancels and releases the session of a check that is given up. -/
  | dismiss (id : Nat)
  /-- Releases the session of a check. -/
  | release (id : Nat)
  /-- Creates and starts the session of a check. -/
  | start (id : Nat) (settings : Settings) (text : Text)
  /-- Tells the host of a check what was found. -/
  | report (id : Nat) (host : η) (ds : List Diagnostic)
  /-- Tells the host of a check that it failed. -/
  | failure (id : Nat) (host : η) (e : LintError)
  /-- The delivery ends with an error. -/
  | raise (f : Fault)

/-- Whether a check is under way. -/
def state (c : Coordinator η) : CheckState := if c.slot.isNone then .idle else .checking

/-- The request of a check. -/
def request? (c : Coordinator η) (id : Nat) : Option (Request η) :=
  (c.requests.find? fun r => r.1 == id).map Prod.snd

/-- A line of the coordinator's log. -/
def note (message : Text) : Effect η := .log (LogLine.debug "coordinator" message)

/-- The name of a check in log lines. -/
def checkText (id : Nat) : Text := Text.ofString "check " ++ Text.ofNat id

/-- The host is told that a check failed. -/
def fail (id : Nat) (host : η) (e : LintError) : List (Effect η) :=
  [note (checkText id ++ " failed with " ++ e.kindName), .failure id host e]

/-- What follows from the verdict on a check. -/
def announce (id : Nat) (host : η) : Verdict → List (Effect η)
  | .found ds =>
    [note (checkText id ++ " produced " ++ Text.ofNat ds.length ++ " diagnostic(s)"),
     .report id host ds]
  | .failed e => fail id host e
  | .broken f => [.raise f]

/-- What is logged while an outcome is judged. -/
def judgeLog (o : Outcome) : List (Effect η) :=
  if o.status = .completed then
    ({ stdout := o.stdout, exitCode := o.exitCode, stderr := o.stderr } : LinterOutput).log.map .log
  else []

/-- The session of a check delivers an outcome. -/
def deliver (c : Coordinator η) (id : Nat) (o : Outcome) : Coordinator η × List (Effect η) :=
  match c.request? id with
  | none => (c, [])
  | some r =>
    if c.slot = some id then
      ({ c with slot := none },
        .release id :: judgeLog o ++ announce id r.host (r.judge c.parser o))
    else
      (c, [note (Text.ofString "discarding output of superseded check " ++ Text.ofNat id),
        .release id])

/-- The session of a check could not be started. -/
def spawnFailed (c : Coordinator η) (id : Nat) (e : LintError) :
    Coordinator η × List (Effect η) :=
  match c.request? id with
  | none => (c, [])
  | some r =>
    if c.slot = some id then ({ c with slot := none }, .release id :: fail id r.host e)
    else
      (c, [note (Text.ofString "spawn failure for superseded check " ++ Text.ofNat id
        ++ " ignored")])

/-- One event. -/
def step (c : Coordinator η) : Event η → Coordinator η × List (Effect η)
  | .supersede =>
    match c.slot with
    | none => (c, [])
    | some id => ({ c with slot := none }, [.dismiss id])
  | .accept text host =>
    let id := c.nextId
    ({ c with
        slot := some id
        nextId := id + 1
        requests := (id, ⟨text, c.settings.offsetUnit, host⟩) :: c.requests },
      [.start id c.settings text])
  | .deliver id o => c.deliver id o
  | .spawnFailed id e => c.spawnFailed id e
  | .configure s => ({ c with settings := s }, [])

end Coordinator

end LiveLint
