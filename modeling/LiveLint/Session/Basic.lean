import LiveLint.Fault
import LiveLint.Log
import LiveLint.Session.Child
import LiveLint.Session.Command
import LiveLint.Session.Outcome
import LiveLint.Text.Quoted

/-!
# Sessions

A session is one run of the linter on a fixed text. It goes from `pending` over `running` to
`completed` or `failed` by itself, or to `canceled` when it is told to stop. The outcome is kept and
passed, once, to every callback that was registered; a canceled session passes nothing on.

The session is a machine. What happens to it is an `Event`: calls of the host, answers of the system
to an attempt to create a process, the end of a process, the end of a time limit, and the steps of
the tasks that the session has begun. What it does is an `Effect`. A task is a `start` call that
waits for the system, or a reader that hands a process the text and collects its output; between two
events a task stands still, so that every order of events is a run of the machine. Callbacks are
values of any type `κ`, and calling one is an effect.
-/

namespace LiveLint

/-- What a session asks of the surrounding system. -/
structure System where
  /-- Where an executable is. -/
  find : Lookup
  /-- Our own variables. -/
  environment : Environment

/-- Why no process was created. -/
inductive SpawnFailure where
  /-- The system cannot run the program. -/
  | system (reason : Text)
  /-- The arguments are refused before the system is asked. -/
  | refused (reason : Text)

/-- Where a `start` call stands. -/
inductive StartPlace where
  /-- The system was asked for a process. -/
  | spawning
  /-- The process came too late and was killed; its end is waited for. -/
  | reaping (child : Nat)
deriving DecidableEq

/-- A `start` call that has not returned, known by its ticket. -/
structure StartCall where
  ticket : Nat
  /-- The path of the program. -/
  executable : Text
  place : StartPlace
deriving DecidableEq

/-- Why a reader waits for the end of a process that it has killed. -/
inductive ReapCause where
  | unencodable
  | timedOut
  | canceled
deriving DecidableEq

/-- Where a reader stands. -/
inductive ReaderPlace where
  | created
  /-- The text is written, and the end of the process is waited for. -/
  | collecting
  | reaping (cause : ReapCause)
  | ended
deriving DecidableEq

/-- A reader of the process with index `child`. -/
structure Reader where
  child : Nat
  place : ReaderPlace := .created
  /-- The reader was told to stop, and has not noticed it yet. -/
  stopping : Bool := false
deriving DecidableEq

/-- A session whose callbacks are of type `κ`. -/
structure Session (κ : Type) where
  command : List Text
  /-- The text that is linted. -/
  text : Text
  options : SessionOptions := {}
  /-- The number of the check that the session belongs to. -/
  checkId : Option Int := none
  status : Status := .pending
  outcome : Option Outcome := none
  /-- Those who wait for the end have been told. -/
  done : Bool := false
  released : Bool := false
  callbacks : List κ := []
  /-- Callbacks that are being called, with what they receive. -/
  calling : List (κ × Outcome) := []
  /-- The index of the process that the session holds. -/
  handle : Option Nat := none
  /-- The index of the reader that the session holds. -/
  reader : Option Nat := none
  starts : List StartCall := []
  readers : List Reader := []
  /-- Every process that was created for the session. -/
  children : List Child := []

namespace Session

variable {κ : Type}

/-- What happens to a session. -/
inductive Event (κ : Type) where
  /-- The host calls `start`; the ticket names the call. -/
  | start (ticket : Nat) (system : System)
  /-- The system has created a process for a `start` call. -/
  | spawned (ticket : Nat) (child : Child)
  /-- The system has not created a process for a `start` call. -/
  | spawnFailed (ticket : Nat) (failure : SpawnFailure)
  /-- A `start` call goes on. -/
  | resume (ticket : Nat)
  /-- A `start` call is given up by its caller. A process that is being created for it is disposed
  of by the system. -/
  | abandon (ticket : Nat)
  /-- A reader goes on. -/
  | read (reader : Nat)
  /-- The time limit of a reader is over. -/
  | timeUp (reader : Nat)
  /-- A process ends by itself. -/
  | exit (child : Nat) (e : Exit)
  /-- The next callback is called. -/
  | call
  /-- The host cancels the session. -/
  | cancel
  /-- The host releases the session. -/
  | release
  /-- The host registers a callback. -/
  | onComplete (callback : κ)

/-- What a session does. -/
inductive Effect (κ : Type) where
  | log (line : LogLine)
  /-- Asks the system for a process. -/
  | spawn (ticket : Nat) (arguments : List Text) (directory : Option Path)
      (environment : Option Environment)
  /-- Asks to be told when so many seconds are over. -/
  | arm (reader : Nat) (limit : Float)
  /-- Calls a callback. -/
  | called (callback : κ) (o : Outcome)
  /-- A `start` call returns. -/
  | returned (ticket : Nat) (result : Except Failure Unit)
  /-- The answer to `cancel`: whether this call canceled the session. -/
  | canceled (b : Bool)
  /-- A call of the host is refused. -/
  | refused (e : LintError)

/-- A new state and what was done on the way to it. -/
abbrev Step (κ : Type) := Session κ × List (Effect κ)

/-- A session that is yet to be started; there has to be a command. -/
def create (command : List Text) (text : Text) (options : SessionOptions) (checkId : Option Int) :
    Except Fault (Session κ) :=
  if command.isEmpty then .error .emptyCommand else .ok { command, text, options, checkId }

/-- The session in a line. -/
def describe (s : Session κ) : Text :=
  Text.ofString "ProcessSession(command=" ++ Text.quoted (s.command.headD [])
    ++ ", status=" ++ s.status.name ++ ", check=" ++ checkName s.checkId ++ ")"

/-- A line of the session's own log. -/
def note (message : Text) : Effect κ := .log (LogLine.debug "process" message)

/-- The log line of a callback that raised an error. -/
def raisedLine (s : Session κ) : LogLine :=
  LogLine.error "process" (Text.ofString "completion callback for check " ++ checkName s.checkId
    ++ " raised")

/-- The error of a session that was released. -/
def releasedError (s : Session κ) : LintError :=
  .sessionReleased (s.describe ++ " has been released")

/-- The process that the session holds. -/
def child? (s : Session κ) : Option Child := s.handle.bind fun i => s.children[i]?

/-- The standard output that was collected; a released session has none. -/
def output (s : Session κ) : Except LintError Text :=
  if s.released then .error s.releasedError
  else .ok ((s.outcome.map Outcome.stdout).getD [])

/-- The outcome, once those who wait for it have been told. -/
def awaited (s : Session κ) : Option Outcome := if s.done then s.outcome else none

/-- Changes a process. -/
def mapChild (s : Session κ) (i : Nat) (f : Child → Child) : Session κ :=
  { s with children := s.children.modify i f }

/-- Changes a reader. -/
def mapReader (s : Session κ) (j : Nat) (f : Reader → Reader) : Session κ :=
  { s with readers := s.readers.modify j f }

/-- The `start` call with a ticket. -/
def startCall? (s : Session κ) (ticket : Nat) : Option StartCall :=
  s.starts.find? fun c => c.ticket == ticket

/-- The session without a `start` call. -/
def endStart (s : Session κ) (ticket : Nat) : Session κ :=
  { s with starts := s.starts.filter fun c => c.ticket != ticket }

/-! ## Calls of the host -/

/-- Drops the process, the reader, the callbacks and the collected output. -/
def release (s : Session κ) : Session κ :=
  if s.released then s
  else
    { s with
      released := true
      handle := none
      reader := none
      callbacks := []
      outcome := s.outcome.map Outcome.blank }

/-- Kills the process that the session holds. -/
def killHeld (s : Session κ) : Session κ :=
  match s.handle with
  | some i => s.mapChild i Child.kill
  | none => s

/-- Tells the reader that the session holds to stop, unless it has ended. -/
def stopHeld (s : Session κ) : Session κ :=
  match s.reader with
  | some j =>
    s.mapReader j fun r => if r.place = .ended then r else { r with stopping := true }
  | none => s

/-- Ends the session without a result, unless it has ended. -/
def cancel (s : Session κ) : Step κ :=
  if s.status.isTerminal then (s, [.canceled false])
  else
    let s := { s with status := .canceled, outcome := some { status := .canceled }, done := true }
    let s := s.killHeld.stopHeld
    (s.release, [note (Text.ofString "canceled session for check " ++ checkName s.checkId),
      .canceled true])

/-- Registers a callback. A session that has ended calls it at once; a canceled one never does. -/
def onComplete (s : Session κ) (callback : κ) : Step κ :=
  if s.released then (s, [.refused s.releasedError])
  else if s.status = .canceled then (s, [])
  else
    match s.status.isTerminal, s.outcome with
    | true, some o => (s, [.called callback o])
    | _, _ => ({ s with callbacks := s.callbacks ++ [callback] }, [])

/-! ## Starting -/

/-- A `start` call for which the system cannot run the program. -/
def spawnError (s : Session κ) (ticket : Nat) (reason : Text) : Step κ :=
  let error : LintError := .spawn (s.command.headD []) reason
  let s :=
    if s.status = .pending then
      { s with
        status := .failed
        outcome := some { status := .failed, error := some error }
        done := true }
    else s
  (s, [.returned ticket (.error (.lint error))])

/-- The host calls `start`. -/
def start (s : Session κ) (ticket : Nat) (system : System) : Step κ :=
  if s.status = .canceled then (s, [.returned ticket (.ok ())])
  else if s.status ≠ .pending then
    (s, [.returned ticket (.error (.fault (.alreadyStarted s.describe)))])
  else
    match processArguments system.find s.command with
    | .error (.executableNotFound name) =>
      s.spawnError ticket (Fault.executableNotFound name).message
    | .error f => (s, [.returned ticket (.error (.fault f))])
    | .ok arguments =>
      ({ s with starts := s.starts ++ [⟨ticket, arguments.headD [], .spawning⟩] },
        [.spawn ticket arguments s.options.directory
          (s.options.childEnvironment system.environment)])

/-- The system has created a process for a `start` call. A session that was canceled meanwhile kills
it and waits for its end; any other one holds it from now on and reads its output. -/
def spawned (s : Session κ) (ticket : Nat) (child : Child) : Step κ :=
  match s.startCall? ticket with
  | some ⟨_, executable, .spawning⟩ =>
    let i := s.children.length
    if s.status = .canceled then
      let call : StartCall := ⟨ticket, executable, .reaping i⟩
      ({ s with
          children := s.children ++ [child.kill]
          starts := s.starts.map fun c => if c.ticket = ticket then call else c },
        [note (Text.ofString "session for check " ++ checkName s.checkId
          ++ " canceled while spawning; killing pid " ++ Text.ofInt child.pid)])
    else
      ({ s.endStart ticket with
          children := s.children ++ [child]
          handle := some i
          reader := some s.readers.length
          readers := s.readers ++ [{ child := i }]
          status := .running },
        [note (Text.ofString "spawned " ++ executable ++ " for check " ++ checkName s.checkId
          ++ " (pid " ++ Text.ofInt child.pid ++ ")"), .returned ticket (.ok ())])
  | _ => (s, [])

/-- The system has not created a process for a `start` call. -/
def spawnFailed (s : Session κ) (ticket : Nat) (failure : SpawnFailure) : Step κ :=
  match s.startCall? ticket with
  | some ⟨_, _, .spawning⟩ =>
    let s := s.endStart ticket
    match failure with
    | .system reason => s.spawnError ticket reason
    | .refused reason => (s, [.returned ticket (.error (.fault (.spawnRefused reason)))])
  | _ => (s, [])

/-- A `start` call that waits for the end of its process goes on. -/
def resume (s : Session κ) (ticket : Nat) : Step κ :=
  match s.startCall? ticket with
  | some ⟨_, _, .reaping i⟩ =>
    if (s.children[i]?.bind Child.exit).isSome then
      (s.endStart ticket, [.returned ticket (.ok ())])
    else (s, [])
  | _ => (s, [])

/-! ## Reading -/

/-- Ends the session with an outcome, unless it has ended; the callbacks are called next. -/
def finish (s : Session κ) (o : Outcome) : Step κ :=
  if s.status.isTerminal then (s, [])
  else
    ({ s with
        status := o.status
        outcome := some o
        done := true
        calling := s.calling ++ s.callbacks.map fun c => (c, o)
        callbacks := [] },
      [note (Text.ofString "session for check " ++ checkName s.checkId ++ " " ++ o.status.name
        ++ " (exit " ++ checkName o.exitCode ++ ")")])

/-- The outcome of a process that ended after its reader had killed it; none when the session was
canceled. -/
def reaped? (s : Session κ) (cause : ReapCause) (e : Exit) : Option Outcome :=
  match cause with
  | .canceled => none
  | .unencodable =>
    some { status := .failed, exitCode := some e.code,
           error := some (.sessionFailed (.unencodable s.options.encoding) false none) }
  | .timedOut =>
    let stderr := s.options.encoding.decode e.stderr
    some { status := .failed, exitCode := some e.code, stderr,
           error := some (.sessionFailed (.timedOut (s.options.timeout.getD 0)) true (some stderr)) }

/-- The outcome of a process that ended by itself. -/
def collected (s : Session κ) (e : Exit) : Outcome :=
  { status := .completed, exitCode := some e.code,
    stdout := s.options.encoding.decode e.stdout, stderr := s.options.encoding.decode e.stderr }

/-- Moves a reader to another place. -/
def moveReader (s : Session κ) (j : Nat) (place : ReaderPlace) : Session κ :=
  s.mapReader j fun r => { r with place, stopping := false }

/-- A reader kills its process and waits for its end. -/
def reap (s : Session κ) (j : Nat) (r : Reader) (cause : ReapCause) : Session κ :=
  (s.mapChild r.child Child.kill).moveReader j (.reaping cause)

/-- A reader goes on, as far as it gets without waiting. -/
def read (s : Session κ) (j : Nat) : Step κ :=
  match s.readers[j]? with
  | none => (s, [])
  | some r =>
    let exit := s.children[r.child]?.bind Child.exit
    match r.place, r.stopping with
    | .ended, _ => (s, [])
    | .created, true => (s.moveReader j .ended, [])
    | .created, false =>
      match s.options.encoding.encode? s.text with
      | none => (s.reap j r .unencodable, [])
      | some payload =>
        match s.options.timeout with
        | none => ((s.mapChild r.child (·.write payload)).moveReader j .collecting, [])
        | some limit =>
          if limit ≤ 0 then (s.reap j r .timedOut, [])
          else ((s.mapChild r.child (·.write payload)).moveReader j .collecting, [.arm j limit])
    | .collecting, true => (s.reap j r .canceled, [])
    | .collecting, false =>
      match exit with
      | none => (s, [])
      | some e => (s.moveReader j .ended).finish (s.collected e)
    | .reaping _, true => (s.moveReader j .ended, [])
    | .reaping cause, false =>
      match exit with
      | none => (s, [])
      | some e =>
        match s.reaped? cause e with
        | none => (s.moveReader j .ended, [])
        | some o => (s.moveReader j .ended).finish o

/-- The time limit of a reader is over. It has no meaning for a reader that does not collect output
any more, or whose process has ended. -/
def timeUp (s : Session κ) (j : Nat) : Session κ :=
  match s.readers[j]? with
  | none => s
  | some r =>
    if r.place = .collecting ∧ r.stopping = false
        ∧ (s.children[r.child]?.bind Child.exit).isNone then
      s.reap j r .timedOut
    else s

/-- The next callback is called. -/
def callNext (s : Session κ) : Step κ :=
  match s.calling with
  | [] => (s, [])
  | (c, o) :: rest => ({ s with calling := rest }, [.called c o])

/-! ## The machine -/

/-- One event. -/
def step (s : Session κ) : Event κ → Step κ
  | .start ticket system => s.start ticket system
  | .spawned ticket child => s.spawned ticket child
  | .spawnFailed ticket failure => s.spawnFailed ticket failure
  | .resume ticket => s.resume ticket
  | .abandon ticket => (s.endStart ticket, [])
  | .read j => s.read j
  | .timeUp j => (s.timeUp j, [])
  | .exit i e => (s.mapChild i fun c => c.finish e, [])
  | .call => s.callNext
  | .cancel => s.cancel
  | .release => (s.release, [])
  | .onComplete c => s.onComplete c

/-- The reader has something to do without waiting. -/
def canRead (s : Session κ) (r : Reader) : Bool :=
  match r.place with
  | .ended => false
  | .created => true
  | .collecting | .reaping _ => r.stopping || (s.children[r.child]?.bind Child.exit).isSome

/-- The call has something to do without waiting. -/
def canResume (s : Session κ) (c : StartCall) : Bool :=
  match c.place with
  | .spawning => false
  | .reaping i => (s.children[i]?.bind Child.exit).isSome

/-- A step that the session's own tasks can do now: a callback, a reader, or a `start` call. -/
def next? (s : Session κ) : Option (Event κ) :=
  if !s.calling.isEmpty then some .call
  else
    match s.readers.findIdx? s.canRead with
    | some j => some (.read j)
    | none => (s.starts.find? s.canResume).map fun c => .resume c.ticket

/-- How many steps a reader can do at most. -/
def Reader.rank (r : Reader) : Nat :=
  match r.place with
  | .created => 4
  | .collecting => 3
  | .reaping .canceled => 1
  | .reaping _ => 2
  | .ended => 0

/-- How many steps the session's own tasks can do at most. -/
def rank (s : Session κ) : Nat :=
  s.readers.foldr (fun r n => Reader.rank r + n) 0 + s.starts.length + s.callbacks.length + s.calling.length

/-- What a call of the host is answered: whether it canceled the session, or why it is refused. -/
def answerOf (effects : List (Effect κ)) : Option (Except LintError Bool) :=
  effects.findSome? fun
    | .canceled b => some (.ok b)
    | .refused e => some (.error e)
    | _ => none

end Session

end LiveLint
