import LiveLint.Coordinator.Basic
import LiveLint.Session.StandIn

/-!
# Desks

A desk is a coordinator together with the sessions of its checks. A request becomes a session that
is started, what a session delivers goes to the coordinator, and what the coordinator asks for is
done with the sessions. All that leaves the desk is a list of notes: log lines, questions to the
system, and what hosts are told.
-/

namespace LiveLint

/-- Where errors of checks go. -/
inductive Channel where
  /-- To the host, under a name. -/
  | named (name : Text)
  /-- To the log. -/
  | log
deriving DecidableEq

/-- Who is told about a check. -/
inductive Host where
  /-- A host with a display that reports go to by name. Its own channel for errors, if it has one,
  is used instead of the desk's, and its display may raise an error. -/
  | display (name : Text) (channel : Option Text) (raises : Bool)
  /-- A caller that waits for the diagnostics, known by its ticket. -/
  | caller (ticket : Nat)
deriving DecidableEq

/-- What a host is told about its check. -/
inductive Telling where
  /-- A display shows the diagnostics. -/
  | report (name : Text) (ds : List Diagnostic)
  /-- A named channel receives the error. -/
  | failure (name : Text) (e : LintError)
  /-- The error goes to the log. -/
  | logged (e : LintError)
  /-- A caller receives the answer. -/
  | answer (ticket : Nat) (result : Except LintError (List Diagnostic))

/-- What leaves a desk. -/
inductive Note where
  | log (line : LogLine)
  /-- A session asks the system for a process. -/
  | spawn (id ticket : Nat) (arguments : List Text) (directory : Option Path)
      (environment : Option Environment)
  /-- A session asks to be told when so many seconds are over. -/
  | arm (id reader : Nat) (limit : Float)
  /-- The host of a check is told something, and finds the coordinator in a state. -/
  | told (id : Nat) (found : CheckState) (telling : Telling)
  /-- A request returns: the number of its check when its session was started and not canceled. -/
  | returned (ticket : Nat) (result : Except Fault (Option Nat))
  /-- An error escapes to whoever caused the event. -/
  | escaped (f : Fault)

/-- A coordinator and the sessions of its checks. -/
structure Desk (σ : Type) where
  coordinator : Coordinator Host := {}
  /-- Where errors go when the host has no channel of its own. -/
  channel : Channel := .log
  sessions : List (Nat × σ) := []

namespace Desk

variable {σ : Type} [LintSession σ]

/-- The session of a check. -/
def session? (d : Desk σ) (id : Nat) : Option σ :=
  (d.sessions.find? fun s => s.1 == id).map Prod.snd

/-- Puts a session in place of the one of the same check. -/
def put (d : Desk σ) (id : Nat) (s : σ) : Desk σ :=
  { d with sessions := d.sessions.map fun p => if p.1 = id then (id, s) else p }

/-- One event of a session, with its effects not yet seen to. -/
def raw (d : Desk σ) (id : Nat) (e : Session.Event Unit) :
    Desk σ × List (Session.Effect Unit) :=
  match d.session? id with
  | none => (d, [])
  | some s =>
    let (s, effects) := LintSession.step s e
    (d.put id s, effects)

/-- The lines that a session logs. -/
def logsOf (effects : List (Session.Effect Unit)) : List Note :=
  effects.filterMap fun
    | .log line => some (.log line)
    | _ => none

/-- Releases the session of a check. -/
def release (d : Desk σ) (id : Nat) : Desk σ := (d.raw id .release).1

/-- Cancels and releases the session of a check that is given up; tells whether this call canceled
it. -/
def dismiss (d : Desk σ) (id : Nat) : Desk σ × Bool × List Note :=
  let (d, effects) := d.raw id .cancel
  let canceled := effects.any fun
    | .canceled b => b
    | _ => false
  let line : Note := .log (LogLine.debug "coordinator" (Text.ofString "superseded check "
    ++ Text.ofNat id))
  (d.release id, canceled, logsOf effects ++ if canceled then [line] else [])

/-- Gives up the check that is under way, if there is one. -/
def cancel (d : Desk σ) : Desk σ × Bool × List Note :=
  match d.coordinator.step .supersede with
  | (c, .dismiss id :: _) => ({ d with coordinator := c }).dismiss id
  | (c, _) => ({ d with coordinator := c }, false, [])

/-- How a host is told the diagnostics of its check. -/
def tell (host : Host) (ds : List Diagnostic) : Telling :=
  match host with
  | .display name _ _ => .report name ds
  | .caller ticket => .answer ticket (.ok ds)

/-- The error that a host raises after it was shown diagnostics. -/
def raisedBy : Host → Option Fault
  | .display _ _ true => some (.host "host display failed")
  | _ => none

/-- How a host is told that its check failed: on its own channel or that of the desk. -/
def tellFailure (channel : Channel) (host : Host) (e : LintError) : Telling :=
  match host with
  | .caller ticket => .answer ticket (.error e)
  | .display _ (some name) _ => .failure name e
  | .display _ none _ =>
    match channel with
    | .named name => .failure name e
    | .log => .logged e

/-- Does one thing that the coordinator asks for. -/
def obeyOne (d : Desk σ) : Coordinator.Effect Host → Desk σ × List Note × Option Fault
  | .log line => (d, [.log line], none)
  | .release id => (d.release id, [], none)
  | .dismiss id => let (d, _, notes) := d.dismiss id; (d, notes, none)
  | .start .. => (d, [], none)
  | .report id host ds => (d, [.told id d.coordinator.state (tell host ds)], raisedBy host)
  | .failure id host e =>
    (d, [.told id d.coordinator.state (tellFailure d.channel host e)], none)
  | .raise f => (d, [], some f)

/-- Does what the coordinator asks for, up to an error that a host raises. -/
def obey (d : Desk σ) : List (Coordinator.Effect Host) → Desk σ × List Note × Option Fault
  | [] => (d, [], none)
  | effect :: rest =>
    match d.obeyOne effect with
    | (d, notes, some f) => (d, notes, some f)
    | (d, notes, none) =>
      let (d, more, raised) := d.obey rest
      (d, notes ++ more, raised)

/-- An event of the coordinator. -/
def coordinate (d : Desk σ) (e : Coordinator.Event Host) : Desk σ × List Note × Option Fault :=
  let (c, effects) := d.coordinator.step e
  ({ d with coordinator := c }).obey effects

/-- The session of a check has passed an outcome to the coordinator. An error that comes out of this
is logged by the session, or escapes. -/
def deliver (d : Desk σ) (id : Nat) (o : Outcome) : Desk σ × List Note :=
  let (d, notes, raised) := d.coordinate (.deliver id o)
  match raised with
  | none => (d, notes)
  | some f =>
    match (d.session? id).bind LintSession.raisedLine? with
    | some line => (d, notes ++ [.log line])
    | none => (d, notes ++ [.escaped f])

/-- The `start` call of a check's session has returned, and with it the request. -/
def startReturned (d : Desk σ) (id ticket : Nat) (result : Except Failure Unit) :
    Desk σ × List Note :=
  match result with
  | .ok () =>
    let canceled := ((d.session? id).map LintSession.status) == some .canceled
    (d, [.returned ticket (.ok (if canceled then none else some id))])
  | .error (.fault f) => (d, [.returned ticket (.error f)])
  | .error (.lint e) =>
    let (d, notes, _) := d.coordinate (.spawnFailed id e)
    (d, notes ++ [.returned ticket (.ok none)])

/-- Sees to one effect of a session. -/
def absorbOne (d : Desk σ) (id : Nat) : Session.Effect Unit → Desk σ × List Note
  | .log line => (d, [.log line])
  | .spawn ticket arguments directory environment =>
    (d, [.spawn id ticket arguments directory environment])
  | .arm reader limit => (d, [.arm id reader limit])
  | .called () o => d.deliver id o
  | .returned ticket result => d.startReturned id ticket result
  | .canceled _ | .refused _ => (d, [])

/-- Sees to the effects of a session. -/
def absorb (d : Desk σ) (id : Nat) : List (Session.Effect Unit) → Desk σ × List Note
  | [] => (d, [])
  | effect :: rest =>
    let (d, notes) := d.absorbOne id effect
    let (d, more) := d.absorb id rest
    (d, notes ++ more)

/-- An event of the session of a check. -/
def sessionStep (d : Desk σ) (id : Nat) (e : Session.Event Unit) : Desk σ × List Note :=
  let (d, effects) := d.raw id e
  d.absorb id effects

/-- How a session is made for a command, a text, options and the number of a check. -/
abbrev Factory (σ : Type) := List Text → Text → SessionOptions → Nat → σ

/-- Requests a check of a text, which gives up the one that is under way. -/
def request (d : Desk σ) (make : Factory σ) (system : System) (ticket : Nat) (text : Text)
    (host : Host) : Desk σ × List Note :=
  let (d, _, canceled) := d.cancel
  let id := d.coordinator.nextId
  let settings := d.coordinator.settings
  let session := make settings.command text (.ofSettings settings) id
  let d := { d with
    coordinator := (d.coordinator.step (.accept text host)).1
    sessions := d.sessions ++ [(id, session)] }
  let (d, registered) := d.sessionStep id (.onComplete ())
  let (d, started) := d.sessionStep id (.start ticket system)
  (d, canceled ++ registered ++ started)

/-- A step that the tasks of the sessions can do now. -/
def next? (d : Desk σ) : Option (Nat × Session.Event Unit) :=
  d.sessions.findSome? fun s => (LintSession.next? s.2).map fun e => (s.1, e)

/-- How many steps the tasks of the sessions can do at most. -/
def rank (d : Desk σ) : Nat := d.sessions.foldr (fun s n => LintSession.rank s.2 + n) 0

/-- Lets the tasks of the sessions go on until all of them wait; `fuel` bounds their steps. -/
def settleWithin (d : Desk σ) : Nat → Desk σ × List Note
  | 0 => (d, [])
  | fuel + 1 =>
    match d.next? with
    | none => (d, [])
    | some (id, e) =>
      let (d, notes) := d.sessionStep id e
      let (d, more) := d.settleWithin fuel
      (d, notes ++ more)

/-- Lets the tasks of the sessions go on until all of them wait. -/
def settle (d : Desk σ) : Desk σ × List Note := d.settleWithin d.rank

end Desk

/-- The session that runs a linter process. -/
def Session.make : Desk.Factory (Session Unit) := fun command text options id =>
  { command, text, options, checkId := some id }

end LiveLint
