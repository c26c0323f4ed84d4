import LiveLint.Simulation.World

/-!
# Sessions on their own

An arena of sessions without a coordinator, whose callbacks note what they receive. One of the
sessions is the current one; a session that is created and started in one go becomes the current one
when its start succeeds.
-/

namespace LiveLint

/-- A callback of a host: it notes the outcome under a name, and may raise an error after that. -/
structure Recorder where
  name : Text
  raises : Bool
deriving DecidableEq

/-- Sessions by number. -/
structure SessionArena where
  sessions : List (Session Recorder)
  current : Nat := 0
  /-- The calls that create and start a session, with its number. -/
  opening : List (Nat × Nat) := []

namespace SessionArena

/-- The session with a number. -/
def session? (a : SessionArena) (i : Nat) : Option (Session Recorder) := a.sessions[i]?

/-- The current session. -/
def currentSession? (a : SessionArena) : Option (Session Recorder) := a.session? a.current

/-- Sees to the effects of a session. -/
def absorb (a : SessionArena) (i : Nat) :
    List (Session.Effect Recorder) → SessionArena × List Happening
  | [] => (a, [])
  | effect :: rest =>
    let (a, happenings) : SessionArena × List Happening :=
      match effect with
      | .log line => (a, [.log line])
      | .spawn ticket arguments directory environment =>
        (a, [.spawn ⟨0, i⟩ ticket arguments directory environment])
      | .arm reader limit => (a, [.arm ⟨0, i⟩ reader limit])
      | .called c o =>
        let raised : List Happening :=
          if c.raises then (a.session? i).toList.map fun s => .log s.raisedLine else []
        (a, .told (.outcome c.name o) :: raised)
      | .returned ticket (.ok ()) =>
        let a := if a.opening.contains (ticket, i) then { a with current := i } else a
        (a, [.finished ticket (.ok (.session ((a.session? i).bind Session.checkId)))])
      | .returned ticket (.error f) => (a, [.finished ticket (.error f)])
      | .canceled _ | .refused _ => (a, [])
    let (a, more) := a.absorb i rest
    (a, happenings ++ more)

/-- An event of a session. -/
def step (a : SessionArena) (i : Nat) (e : Session.Event Recorder) :
    SessionArena × List Happening :=
  match a.session? i with
  | none => (a, [])
  | some s =>
    let (s, effects) := s.step e
    ({ a with sessions := a.sessions.set i s }).absorb i effects

/-- An event of the current session. -/
def stepCurrent (a : SessionArena) (e : Session.Event Recorder) : SessionArena × List Happening :=
  a.step a.current e

/-- Creates a session like another one and starts it. -/
def openAndStart (a : SessionArena) (s : Session Recorder) (ticket : Nat) (system : System) :
    SessionArena × List Happening :=
  let i := a.sessions.length
  ({ a with sessions := a.sessions ++ [s], opening := (ticket, i) :: a.opening }).step i
    (.start ticket system)

/-- Lets the tasks of a session go on; `fuel` bounds their steps. -/
def settleWithin (a : SessionArena) (i : Nat) : Nat → SessionArena × List Happening
  | 0 => (a, [])
  | fuel + 1 =>
    match (a.session? i).bind Session.next? with
    | none => (a, [])
    | some e =>
      let (a, happenings) := a.step i e
      let (a, more) := a.settleWithin i fuel
      (a, happenings ++ more)

/-- Lets the tasks of some sessions go on until they wait. -/
def settleAll (a : SessionArena) : List Nat → SessionArena × List Happening
  | [] => (a, [])
  | i :: rest =>
    let (a, happenings) := a.settleWithin i (((a.session? i).map Session.rank).getD 0)
    let (a, more) := a.settleAll rest
    (a, happenings ++ more)

instance : Arena SessionArena where
  tell a address s := a.step address.session s.event
  settle a := a.settleAll (List.range a.sessions.length)
  child? a address i := (a.session? address.session).bind fun s => s.children[i]?
  awaited a address := (a.session? address.session).bind Session.awaited

end SessionArena

end LiveLint
