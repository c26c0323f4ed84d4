import LiveLint.Coordinator.Desk

/-!
# The provider

A host that works on several buffers talks to a provider, which keeps one desk per open buffer. A
buffer is opened by its first use and gets the settings of the provider; closing it gives up its
check and forgets the desk, whose sessions may still have to end. The provider also lints a text
once, at a desk of its own, for a caller that waits for the diagnostics.
-/

namespace LiveLint

/-- What a host calls a buffer. -/
inductive BufferId where
  | none
  | number (n : Int)
  | text (t : Text)
deriving DecidableEq

/-- A buffer in a log line. -/
def BufferId.shown : BufferId → Text
  | .none => "None"
  | .number n => Text.ofInt n
  | .text t => t.quoted

/-- A caller that waits for the diagnostics of a text. -/
structure OneShot where
  /-- The call. -/
  ticket : Nat
  /-- The desk at which the text is linted. -/
  desk : Nat
  /-- The request for the check has returned. -/
  requested : Bool := false
  /-- What the desk has told the caller first. -/
  answer : Option (Except LintError (List Diagnostic)) := none

/-- The desks of the open buffers, and those that are left to end. -/
structure Provider (σ : Type) where
  /-- The settings of newly opened buffers. -/
  settings : Settings := {}
  /-- How the output of linters is understood at every desk. -/
  parser : OutputParser := {}
  /-- Where errors go when a request has no channel of its own. -/
  channel : Channel := .log
  /-- The open buffers in the order of opening, with the numbers of their desks. -/
  registry : List (BufferId × Nat) := []
  /-- Every desk, by number. -/
  desks : List (Desk σ) := []
  oneShots : List OneShot := []

/-- What leaves a provider. -/
inductive ProviderNote where
  /-- What leaves one of the desks. -/
  | desk (number : Nat) (note : Note)
  /-- A call that lints a text once has ended. -/
  | checked (ticket : Nat) (result : Except Failure (List Diagnostic))

namespace Provider

variable {σ : Type} [LintSession σ]

/-- A line of the provider's log. -/
def note (message : Text) : LogLine := LogLine.debug "provider" message

/-- The number of a buffer's desk. -/
def deskOf? (p : Provider σ) (b : BufferId) : Option Nat :=
  (p.registry.find? fun r => r.1 == b).map Prod.snd

/-- The buffer is open. -/
def contains (p : Provider σ) (b : BufferId) : Bool := (p.deskOf? b).isSome

/-- The number of open buffers. -/
def size (p : Provider σ) : Nat := p.registry.length

/-- Puts a desk in place of the one with that number. -/
def put (p : Provider σ) (k : Nat) (d : Desk σ) : Provider σ := { p with desks := p.desks.set k d }

/-- A new desk. -/
def addDesk (p : Provider σ) (settings : Settings) (channel : Channel) : Provider σ × Nat :=
  ({ p with
      desks := p.desks ++ [{ coordinator := { settings, parser := p.parser }, channel }] },
    p.desks.length)

/-- Gives up the check at a desk. -/
def cancelAt (p : Provider σ) (k : Nat) : Provider σ × Bool × List Note :=
  match p.desks[k]? with
  | none => (p, false, [])
  | some d =>
    let (d, canceled, notes) := d.cancel
    (p.put k d, canceled, notes)

/-- Changes the settings of a desk. -/
def configureAt (p : Provider σ) (k : Nat) (s : Settings) : Provider σ :=
  match p.desks[k]? with
  | none => p
  | some d => p.put k { d with coordinator := (d.coordinator.step (.configure s)).1 }

/-! ## Callers that wait -/

/-- Ends a call: its check is given up, whatever has become of it. -/
def endOneShot (p : Provider σ) (s : OneShot) (result : Except Failure (List Diagnostic)) :
    Provider σ × List ProviderNote :=
  let p := { p with oneShots := p.oneShots.filter fun o => o.ticket != s.ticket }
  let (p, _, notes) := p.cancelAt s.desk
  (p, notes.map (.desk s.desk) ++ [.checked s.ticket result])

/-- Changes the call with a ticket. -/
def mapOneShot (p : Provider σ) (ticket : Nat) (f : OneShot → OneShot) : Provider σ :=
  { p with oneShots := p.oneShots.map fun o => if o.ticket = ticket then f o else o }

/-- The call with a ticket. -/
def oneShot? (p : Provider σ) (ticket : Nat) : Option OneShot :=
  p.oneShots.find? fun o => o.ticket == ticket

/-- Ends the call with a ticket, if it has its answer and its request has returned. -/
def tryEnd (p : Provider σ) (ticket : Nat) : Provider σ × List ProviderNote :=
  match p.oneShot? ticket with
  | none => (p, [])
  | some s =>
    match s.requested, s.answer with
    | true, some (.ok ds) => p.endOneShot s (.ok ds)
    | true, some (.error e) => p.endOneShot s (.error (.lint e))
    | _, _ => (p, [])

/-- Sees to what leaves a desk: what concerns a waiting caller is kept here. -/
def absorb (p : Provider σ) (k : Nat) : List Note → Provider σ × List ProviderNote
  | [] => (p, [])
  | n :: rest =>
    let (p, notes) : Provider σ × List ProviderNote :=
      match n with
      | .told _ _ (.answer ticket result) =>
        (p.mapOneShot ticket fun (o : OneShot) => { o with answer := o.answer.or (some result) }).tryEnd ticket
      | .returned ticket result =>
        match p.oneShot? ticket with
        | none => (p, [.desk k n])
        | some s =>
          match result with
          | .ok _ => (p.mapOneShot ticket fun (o : OneShot) => { o with requested := true }).tryEnd ticket
          | .error f => p.endOneShot s (.error (.fault f))
      | n => (p, [.desk k n])
    let (p, more) := p.absorb k rest
    (p, notes ++ more)

/-- Does something at a desk. -/
def atDesk (p : Provider σ) (k : Nat) (act : Desk σ → Desk σ × List Note) :
    Provider σ × List ProviderNote :=
  match p.desks[k]? with
  | none => (p, [])
  | some d =>
    let (d, notes) := act d
    (p.put k d).absorb k notes

/-- Requests a check at a desk. -/
def requestAt (p : Provider σ) (make : Desk.Factory σ) (system : System) (ticket k : Nat)
    (text : Text) (host : Host) : Provider σ × List ProviderNote :=
  p.atDesk k fun d => d.request make system ticket text host

/-- Lints a text once. -/
def checkText (p : Provider σ) (make : Desk.Factory σ) (system : System) (ticket : Nat)
    (text : Text) (settings : Option Settings) : Provider σ × List ProviderNote :=
  let (p, k) := p.addDesk (settings.getD p.settings) .log
  let p := { p with oneShots := p.oneShots ++ [({ ticket, desk := k } : OneShot)] }
  p.requestAt make system ticket k text (.caller ticket)

/-- The waiting caller gives up. -/
def abandon (p : Provider σ) (ticket : Nat) : Provider σ × List ProviderNote :=
  match p.oneShot? ticket with
  | none => (p, [])
  | some s =>
    let p := { p with oneShots := p.oneShots.filter fun o => o.ticket != ticket }
    let (p, left) := p.atDesk s.desk fun d =>
      match d.coordinator.slot with
      | none => (d, [])
      | some id => d.sessionStep id (.abandon ticket)
    let (p, _, notes) := p.cancelAt s.desk
    (p, left ++ notes.map (.desk s.desk))

/-! ## Buffers -/

/-- The desk of a buffer, opened on first use. Settings, if given, are those of its later checks. -/
def deskFor (p : Provider σ) (b : BufferId) (settings : Option Settings) :
    Provider σ × Nat × List LogLine :=
  match p.deskOf? b with
  | some k =>
    match settings with
    | some s => (p.configureAt k s, k, [])
    | none => (p, k, [])
  | none =>
    let (p, k) := p.addDesk (settings.getD p.settings) p.channel
    ({ p with registry := p.registry ++ [(b, k)] }, k,
      [note (Text.ofString "opened buffer " ++ b.shown)])

/-- Requests a check of a buffer's text. -/
def runCheck (p : Provider σ) (make : Desk.Factory σ) (system : System) (ticket : Nat)
    (b : BufferId) (text : Text) (host : Host) : Provider σ × List ProviderNote :=
  let (p, k, lines) := p.deskFor b none
  let (p, notes) := p.requestAt make system ticket k text host
  (p, lines.map (fun l => .desk k (.log l)) ++ notes)

/-- Changes the dialect of a buffer's later checks. -/
def setDialect (p : Provider σ) (b : BufferId) (dialect : Value) :
    Provider σ × Except Fault Settings × List LogLine :=
  let (p, k, lines) := p.deskFor b none
  let settings := (p.desks[k]?.map fun d => d.coordinator.settings).getD p.settings
  match settings.override [(Settings.Field.dialect.key, dialect)] with
  | .error f => (p, .error f, lines)
  | .ok s =>
    (p.configureAt k s, .ok s,
      lines ++ [note (Text.ofString "buffer " ++ b.shown ++ " now uses dialect " ++ s.dialect.name)])

/-- Gives up the check of a buffer and forgets the buffer; tells whether it was open. -/
def close (p : Provider σ) (b : BufferId) : Provider σ × Bool × List Note :=
  match p.deskOf? b with
  | none => (p, false, [])
  | some k =>
    let p := { p with registry := p.registry.filter fun r => r.1 != b }
    let (p, _, notes) := p.cancelAt k
    (p, true, notes ++ [.log (note (Text.ofString "closed buffer " ++ b.shown))])

/-- Closes some buffers, one after the other. -/
def closeAll (p : Provider σ) : List BufferId → Provider σ × List Note
  | [] => (p, [])
  | b :: rest =>
    let (p, _, notes) := p.close b
    let (p, more) := p.closeAll rest
    (p, notes ++ more)

/-- Closes every open buffer. -/
def shutdown (p : Provider σ) : Provider σ × List Note := p.closeAll (p.registry.map Prod.fst)

/-! ## Tasks -/

/-- An event of a session at a desk. -/
def sessionStep (p : Provider σ) (k id : Nat) (e : Session.Event Unit) :
    Provider σ × List ProviderNote :=
  p.atDesk k fun d => d.sessionStep id e

/-- Lets the sessions at some desks go on until all of them wait. -/
def settleAll (p : Provider σ) : List Nat → Provider σ × List ProviderNote
  | [] => (p, [])
  | k :: rest =>
    let (p, notes) := p.atDesk k Desk.settle
    let (p, more) := p.settleAll rest
    (p, notes ++ more)

/-- Lets the sessions at all desks go on until all of them wait. -/
def settle (p : Provider σ) : Provider σ × List ProviderNote :=
  p.settleAll (List.range p.desks.length)

end Provider

end LiveLint
