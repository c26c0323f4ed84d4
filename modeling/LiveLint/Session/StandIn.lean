import LiveLint.Session.Basic

/-!
# Kinds of sessions

What a coordinator needs of a session, and two kinds of it: the session that runs a process, and a
stand-in whose end is decided by its owner. A stand-in may be made to deliver an outcome after its
end, which a real session never does.
-/

namespace LiveLint

/-- What a coordinator does with a session, whose one callback is the coordinator's. -/
class LintSession (σ : Type) where
  status : σ → Status
  released : σ → Bool
  /-- The outcome, once those who wait for it have been told. -/
  awaited : σ → Option Outcome
  step : σ → Session.Event Unit → σ × List (Session.Effect Unit)
  /-- A step that the session's own tasks can do now. -/
  next? : σ → Option (Session.Event Unit)
  /-- How many steps the session's own tasks can do at most. -/
  rank : σ → Nat
  /-- A process that was created for the session. -/
  child? : σ → Nat → Option Child
  /-- What is logged when a callback raises an error; without a line the error escapes. -/
  raisedLine? : σ → Option LogLine

instance : LintSession (Session Unit) where
  status := Session.status
  released := Session.released
  awaited := Session.awaited
  step := Session.step
  next? := Session.next?
  rank := Session.rank
  child? s i := s.children[i]?
  raisedLine? s := some s.raisedLine

/-- A session without a process. -/
structure StandIn where
  status : Status := .pending
  outcome : Option Outcome := none
  done : Bool := false
  released : Bool := false
  /-- How many callbacks were registered. -/
  callbacks : Nat := 0
  /-- The executable and reason of the error that `start` ends with. -/
  spawnError : Option (Text × Text) := none

namespace StandIn

/-- Starting succeeds at once, unless an error was arranged. -/
def start (s : StandIn) (ticket : Nat) : StandIn × List (Session.Effect Unit) :=
  match s.spawnError with
  | some (executable, reason) =>
    ({ s with status := .failed }, [.returned ticket (.error (.lint (.spawn executable reason)))])
  | none =>
    ({ s with status := if s.status = .pending then .running else s.status },
      [.returned ticket (.ok ())])

/-- Ends the session without a result, unless it has ended. -/
def cancel (s : StandIn) : StandIn × List (Session.Effect Unit) :=
  if s.status.isTerminal then (s, [.canceled false])
  else
    ({ s with status := .canceled, outcome := some { status := .canceled }, done := true },
      [.canceled true])

/-- One event; a stand-in has no tasks and no process. -/
def step (s : StandIn) : Session.Event Unit → StandIn × List (Session.Effect Unit)
  | .start ticket _ => s.start ticket
  | .cancel => s.cancel
  | .release => ({ s with released := true }, [])
  | .onComplete _ => ({ s with callbacks := s.callbacks + 1 }, [])
  | _ => (s, [])

/-- The owner delivers an outcome. After the end of the session this needs `force`. -/
def complete (s : StandIn) (o : Outcome) (force : Bool) : StandIn × List (Session.Effect Unit) :=
  if s.status.isTerminal && !force then (s, [])
  else
    ({ s with status := o.status, outcome := some o, done := true },
      List.replicate s.callbacks (.called () o))

instance : LintSession StandIn where
  status := StandIn.status
  released := StandIn.released
  awaited s := if s.done then s.outcome else none
  step := StandIn.step
  next? _ := none
  rank _ := 0
  child? _ _ := none
  raisedLine? _ := none

end StandIn

end LiveLint
