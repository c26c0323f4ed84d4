import LiveLint.CommandLine.Program
import LiveLint.Simulation.Desks

/-!
# Commands in a simulated world

Runs a command line from its arguments to its exit code. Time goes on by itself while the linter is
waited for.
-/

namespace LiveLint

/-- What a command line did. -/
structure Performance where
  ending : Except Fault Ending
  /-- Everything that was printed. -/
  output : Text
  /-- The attempts to create a process. -/
  attempts : List Attempt := []
  children : List Child := []

namespace Performance

/-- The exit code. -/
def code (p : Performance) : Nat := Program.exitCode p.ending

/-- The fault that escaped. -/
def fault? (p : Performance) : Option Fault :=
  match p.ending with
  | .ok _ => none
  | .error f => some f

/-- What the user is told besides the output. -/
def complaint? (p : Performance) : Option Text :=
  match p.ending with
  | .ok (.exit _) => none
  | .ok (.usage e) => some e.message
  | .error f => some f.message

/-- The world in which the document of a job is linted, once the linter has ended or all time has
passed. -/
def lint (parser : OutputParser) (system : System) (mode : SpawnMode) (job : Check.Job) :
    World (Provider (Session Unit)) :=
  let w : World (Provider (Session Unit)) := { arena := { settings := job.settings, parser } }
  let w := w.act mode fun p =>
    Provider.seen (p.checkText Session.make system 0 job.text none)
  w.passTime w.timers.length

/-- What a call for diagnostics ended with. -/
def diagnosticsOf : Except Failure Answer → Except Failure (List Diagnostic)
  | .error f => .error f
  | .ok (.diagnostics ds) => .ok ds
  | .ok _ => .ok []

/-- Runs a command line; `mode` says how the system answers an attempt to create a process. -/
def ofCommandLine (s : Surroundings) (lookup : Lookup) (mode : SpawnMode) (arguments : List Text) :
    Performance :=
  match (Program.begin s arguments).run.run [] with
  | (.error f, output) => { ending := .error f, output }
  | (.ok (.over e), output) => { ending := .ok e, output }
  | (.ok (.lint job), output) =>
    let w := lint s.parser ⟨lookup, s.environment⟩ mode job
    let (ending, output) :=
      match w.trace.finished.head? with
      | some (_, result) => (job.finish (diagnosticsOf result)).run.run output
      | none => (.ok (.exit 1), output)
    { ending, output, attempts := w.trace.attempts, children := w.children }

end Performance

end LiveLint
