import LiveLint.Simulation.World

/-!
# A provider in a simulated world

The provider as an arena: what leaves it becomes what happens in the world.
-/

namespace LiveLint

namespace Provider

variable {σ : Type} [LintSession σ]

/-- What it means for the world that a host is told something. A caller's answer stays with the
provider. -/
def toldHappening : Telling → List Happening
  | .report name ds => [.told (.report name ds)]
  | .failure name e => [.told (.failure name e)]
  | .logged e =>
    [.log (LogLine.error "coordinator" (Text.ofString "sql lint check failed: " ++ e.message))]
  | .answer .. => []

/-- What a note of a desk means for the world. -/
def happening (k : Nat) : Note → List Happening
  | .log line => [.log line]
  | .spawn id ticket arguments directory environment =>
    [.spawn ⟨k, id⟩ ticket arguments directory environment]
  | .arm id reader limit => [.arm ⟨k, id⟩ reader limit]
  | .told _ _ telling => toldHappening telling
  | .returned ticket (.ok (some id)) => [.finished ticket (.ok (.session (some (id : Int))))]
  | .returned ticket (.ok none) => [.finished ticket (.ok .nothing)]
  | .returned ticket (.error f) => [.finished ticket (.error (.fault f))]
  | .escaped f => [.escaped f]

/-- What a note of the provider means for the world. -/
def happenings : List ProviderNote → List Happening
  | [] => []
  | .desk k n :: rest => happening k n ++ happenings rest
  | .checked ticket result :: rest =>
    .finished ticket (result.map .diagnostics) :: happenings rest

/-- A provider and what happens. -/
def seen (r : Provider σ × List ProviderNote) : Provider σ × List Happening :=
  (r.1, happenings r.2)

/-- The session at an address. -/
def session? (p : Provider σ) (a : Address) : Option σ :=
  p.desks[a.desk]?.bind fun d => d.session? a.session

/-- The sessions that are not among the known ones, in the order of their desks. -/
def unknownSessions (p : Provider σ) (known : List Address) : List Address :=
  (p.desks.zipIdx.flatMap fun (d, k) => d.sessions.map fun s => ⟨k, s.1⟩).filter fun a =>
    !known.contains a

instance : Arena (Provider σ) where
  tell p a s := seen (p.sessionStep a.desk a.session s.event)
  settle p := seen p.settle
  child? p a i := (p.session? a).bind fun s => LintSession.child? s i
  awaited p a := (p.session? a).bind LintSession.awaited

end Provider

namespace StandIn

/-- The owner of a stand-in at an address delivers an outcome. -/
def completeAt (p : Provider StandIn) (a : Address) (o : Outcome) (force : Bool) :
    Provider StandIn × List Happening :=
  Provider.seen <| p.atDesk a.desk fun d =>
    match d.session? a.session with
    | none => (d, [])
    | some s =>
      let (s, effects) := s.complete o force
      (d.put a.session s).absorb a.session effects

end StandIn

end LiveLint
