import LiveLint.Provider.Basic

/-!
# A simulated world

Sessions, clocks and processes as far as a host can see them, without a real system: processes get
the numbers 1001, 1002, …, time stands still until it is advanced, and how the system answers an
attempt to create a process is arranged beforehand. What owns the sessions is an `Arena`.
-/

namespace LiveLint

/-- Where a session is: the number of a desk, and that of a session there. -/
structure Address where
  desk : Nat
  session : Nat
deriving DecidableEq

/-- What the world tells a session. -/
inductive Signal where
  | spawned (ticket : Nat) (child : Child)
  | spawnFailed (ticket : Nat) (failure : SpawnFailure)
  | exit (child : Nat) (e : Exit)
  | timeUp (reader : Nat)

/-- The event of a signal. -/
def Signal.event {κ : Type} : Signal → Session.Event κ
  | .spawned ticket child => .spawned ticket child
  | .spawnFailed ticket failure => .spawnFailed ticket failure
  | .exit child e => .exit child e
  | .timeUp reader => .timeUp reader

/-- What a host is told. -/
inductive HostEvent where
  | outcome (name : Text) (o : Outcome)
  | report (name : Text) (ds : List Diagnostic)
  | failure (channel : Text) (e : LintError)

/-- What a call that was waited for ends with. -/
inductive Answer where
  | nothing
  /-- A session, by the number of its check. -/
  | session (checkId : Option Int)
  | outcome (o : Outcome)
  | diagnostics (ds : List Diagnostic)

/-- What happens in an arena. -/
inductive Happening where
  | log (line : LogLine)
  | told (e : HostEvent)
  | finished (ticket : Nat) (result : Except Failure Answer)
  | escaped (f : Fault)
  | spawn (a : Address) (ticket : Nat) (arguments : List Text) (directory : Option Path)
      (environment : Option Environment)
  | arm (a : Address) (reader : Nat) (limit : Float)

/-- What owns sessions and lets their tasks go on. -/
class Arena (A : Type) where
  tell : A → Address → Signal → A × List Happening
  /-- Lets the tasks go on until all of them wait. -/
  settle : A → A × List Happening
  child? : A → Address → Nat → Option Child
  /-- The outcome of a session, once those who wait for it have been told. -/
  awaited : A → Address → Option Outcome

/-- How the system answers an attempt to create a process. -/
structure SpawnMode where
  failure : Option SpawnFailure := none
  /-- The answer is left open. -/
  deferred : Bool := false
  /-- The process has already ended. -/
  exit : Option Exit := none
  response : KillResponse := .dies []

/-- An attempt whose answer was left open. -/
structure OpenSpawn where
  address : Address
  ticket : Nat
  mode : SpawnMode
  resolved : Bool := false

/-- A reader that is to be told when a time has come. -/
structure Timer where
  deadline : Float
  address : Address
  reader : Nat

/-- An attempt to create a process. -/
structure Attempt where
  arguments : List Text
  directory : Option Path
  environment : Option Environment

/-- What was seen during a step. -/
structure Trace where
  log : List LogLine := []
  told : List HostEvent := []
  finished : List (Nat × Except Failure Answer) := []
  attempts : List Attempt := []
  escaped : Option Fault := none

/-- An arena and the world around it. -/
structure World (A : Type) where
  arena : A
  now : Float := 0
  /-- Every process, as the session that it was created for and its index there. -/
  processes : List (Address × Nat) := []
  openSpawns : List OpenSpawn := []
  timers : List Timer := []
  /-- Calls that wait for the end of a session. -/
  waits : List (Nat × Address) := []
  trace : Trace := {}

namespace World

variable {A : Type} [Arena A]

/-- Keeps what is seen of a happening. -/
def record (w : World A) : Happening → World A
  | .log line => { w with trace := { w.trace with log := w.trace.log ++ [line] } }
  | .told e => { w with trace := { w.trace with told := w.trace.told ++ [e] } }
  | .finished ticket result =>
    { w with trace := { w.trace with finished := w.trace.finished ++ [(ticket, result)] } }
  | .escaped f => { w with trace := { w.trace with escaped := w.trace.escaped.or (some f) } }
  | .arm a reader limit =>
    { w with timers := w.timers ++ [⟨w.now + limit, a, reader⟩] }
  | .spawn _ _ arguments directory environment =>
    { w with
      trace := { w.trace with
        attempts := w.trace.attempts ++ [⟨arguments, directory, environment⟩] } }

/-- Passes a signal to a session. -/
def tell (w : World A) (a : Address) (s : Signal) : World A :=
  let (arena, happenings) := Arena.tell w.arena a s
  happenings.foldl record { w with arena }

/-- Creates a process for a session. -/
def create (w : World A) (a : Address) (ticket : Nat) (mode : SpawnMode) : World A :=
  let index := (w.processes.filter fun p => p.1 == a).length
  let child : Child :=
    { pid := 1001 + w.processes.length, response := mode.response, exit := mode.exit }
  ({ w with processes := w.processes ++ [(a, index)] }).tell a (.spawned ticket child)

/-- Answers an attempt to create a process. -/
def answer (w : World A) (mode : SpawnMode) (a : Address) (ticket : Nat) : World A :=
  match mode.failure with
  | some failure => w.tell a (.spawnFailed ticket failure)
  | none =>
    if mode.deferred then { w with openSpawns := w.openSpawns ++ [⟨a, ticket, mode, false⟩] }
    else w.create a ticket mode

/-- Sees to a happening; `mode` says how the system answers. -/
def react (mode : SpawnMode) (w : World A) (h : Happening) : World A :=
  let w := w.record h
  match h with
  | .spawn a ticket _ _ _ => w.answer mode a ticket
  | _ => w

/-- Lets all tasks go on until they wait. -/
def settle (w : World A) : World A :=
  let (arena, happenings) := Arena.settle w.arena
  happenings.foldl (react {}) { w with arena }

/-- The first of the timers that are due, and the others. A timer is due unless its deadline lies
ahead: one without a definite deadline is due at once. -/
def nextDue (now : Float) (timers : List Timer) : Option (Timer × List Timer) :=
  let due := timers.zipIdx.filter fun t => !(now < t.1.deadline)
  let first := due.foldl (fun best t =>
    match best with
    | none => some t
    | some b => if t.1.deadline < b.1.deadline then some t else some b) none
  first.map fun t => (t.1, timers.eraseIdx t.2)

/-- Tells the readers whose time has come, the earliest first. -/
def fireDue (w : World A) : Nat → World A
  | 0 => w
  | fuel + 1 =>
    match nextDue w.now w.timers with
    | none => w
    | some (t, rest) =>
      (({ w with timers := rest }).tell t.address (.timeUp t.reader)).settle.fireDue fuel

/-- Ends the waiting calls whose session has ended. -/
def endWaits (w : World A) : World A :=
  let ready := w.waits.filterMap fun (ticket, a) =>
    (Arena.awaited w.arena a).map fun o => (ticket, Except.ok (.outcome o))
  { w with
    waits := w.waits.filter fun (_, a) => (Arena.awaited w.arena a).isNone
    trace := { w.trace with finished := w.trace.finished ++ ready } }

/-- Lets everything go on that can, at this time. -/
def quiesce (w : World A) : World A :=
  let w := w.settle
  (w.fireDue w.timers.length).endWaits

/-- A call of the host: what it did to the arena, and what happened. -/
def act (w : World A) (mode : SpawnMode) (f : A → A × List Happening) : World A :=
  let (arena, happenings) := f w.arena
  (happenings.foldl (react mode) { w with arena }).quiesce

/-- A call that waits for the end of a session. -/
def wait (w : World A) (ticket : Nat) (a : Address) : World A :=
  ({ w with waits := w.waits ++ [(ticket, a)] }).quiesce

/-- A place in a list, counted from the end when it is negative. -/
def place (length : Nat) (i : Int) : Option Nat :=
  let i := if i < 0 then i + length else i
  if 0 ≤ i ∧ i < length then some i.toNat else none

/-- A process ends by itself. -/
def exit (w : World A) (process : Int) (e : Exit) : Option (World A) := do
  let (a, index) ← w.processes[← place w.processes.length process]?
  let child ← Arena.child? w.arena a index
  match child.exit with
  | some _ => none
  | none => some (w.tell a (.exit index e)).quiesce

/-- The system answers an attempt that was left open. -/
def resolve (w : World A) (spawn : Int) (failure : Option SpawnFailure) : Option (World A) := do
  let i ← place w.openSpawns.length spawn
  let s ← w.openSpawns[i]?
  if s.resolved then none
  else
    let w := { w with openSpawns := w.openSpawns.set i { s with resolved := true } }
    match failure with
    | some failure => some (w.tell s.address (.spawnFailed s.ticket failure)).quiesce
    | none => some (w.create s.address s.ticket s.mode).quiesce

/-- Time goes by. -/
def advance (w : World A) (seconds : Float) : World A :=
  ({ w with now := w.now + seconds }).quiesce

/-- The earliest time that a reader waits for. -/
def nextDeadline? (w : World A) : Option Float :=
  w.timers.foldl (fun best t =>
    match best with
    | none => some t.deadline
    | some b => if t.deadline < b then some t.deadline else some b) none

/-- Lets time go on to one deadline after the other, `fuel` of them at most, until a call that was
waited for has ended. -/
def passTime (w : World A) : Nat → World A
  | 0 => w
  | fuel + 1 =>
    if !w.trace.finished.isEmpty then w
    else
      match w.nextDeadline? with
      | none => w
      | some d => ({ w with now := if w.now < d then d else w.now }).quiesce.passTime fuel

/-- The processes so far, in the order of their creation. -/
def children (w : World A) : List Child :=
  w.processes.filterMap fun (a, index) => Arena.child? w.arena a index

/-- Forgets what was seen so far. -/
def clearTrace (w : World A) : World A := { w with trace := {} }

end World

end LiveLint
