import LiveLint.Machine
import LiveLint.Provider.Basic

/-!
# Providers as machines

A provider is a machine whose events are the calls of its host and whatever happens at one of its
desks; what the latter is, `act` says. The machine holds for sessions of any kind.

A settings object that a host keeps and changes later is the settings of each desk that it was given
to: such a change is a change of the settings of these desks, one after the other.
-/

namespace LiveLint

namespace Provider

/-- What happens to a provider at whose desks events of type `ε` happen. -/
inductive Event (ε : Type) where
  /-- The desk of a buffer is asked for, and given settings if there are any. -/
  | deskFor (b : BufferId) (settings : Option Settings)
  | check (system : System) (ticket : Nat) (b : BufferId) (text : Text) (host : Host)
  | setDialect (b : BufferId) (dialect : Value)
  | close (b : BufferId)
  | shutdown
  | checkText (system : System) (ticket : Nat) (text : Text) (settings : Option Settings)
  /-- A caller that waits for the diagnostics of a text gives up. -/
  | abandon (ticket : Nat)
  /-- The settings of newly opened buffers are changed. -/
  | configure (s : Settings)
  /-- Something happens at a desk, whether it belongs to an open buffer or not. -/
  | desk (k : Nat) (e : ε)

/-- What is seen of a provider. -/
inductive Seen where
  | note (n : ProviderNote)
  /-- What a change of a buffer's dialect ends with. -/
  | dialect (b : BufferId) (result : Except Fault Settings)
  /-- A buffer was closed, or was not open. -/
  | closed (b : BufferId) (wasOpen : Bool)

/-- The lines that are logged for a desk. -/
def logged (k : Nat) (lines : List LogLine) : List Seen := lines.map fun l => .note (.desk k (.log l))

variable {σ ε : Type}

/-- A provider with which nothing was done yet. -/
def opened (settings : Settings) (parser : OutputParser) (channel : Channel) : Provider σ :=
  { settings, parser, channel }

/-! ## Desks and buffers -/

/-- The provider without a buffer. -/
def forget (p : Provider σ) (b : BufferId) : Provider σ :=
  { p with registry := p.registry.filter fun r => r.1 != b }

/-- The provider with one more buffer, at a desk of its own. -/
def openBuffer (p : Provider σ) (b : BufferId) (settings : Settings) : Provider σ :=
  { (p.addDesk settings p.channel).1 with registry := p.registry ++ [(b, p.desks.length)] }

section

variable {p : Provider σ} {b : BufferId} {k : Nat}

/-- Nothing is configured where there is no desk. -/
theorem configureAt_of_none (hd : p.desks[k]? = none) (s : Settings) : p.configureAt k s = p := by
  simp [configureAt, hd]

/-- Settings are those of the coordinator at the desk. -/
theorem configureAt_of_desk {d : Desk σ} (hd : p.desks[k]? = some d) (s : Settings) :
    p.configureAt k s
      = p.put k { d with coordinator := (d.coordinator.step (.configure s)).1 } := by
  simp [configureAt, hd]

/-- A desk can be put in its own place. -/
theorem put_self {d : Desk σ} (hd : p.desks[k]? = some d) : p.put k d = p := by
  obtain ⟨hk, rfl⟩ := List.getElem?_eq_some_iff.1 hd
  rw [put, List.set_getElem_self]

/-- A buffer that is open has its desk, which is given settings if there are any. -/
theorem deskFor_of_open (hb : p.deskOf? b = some k) (settings : Option Settings) :
    p.deskFor b settings = ((settings.map fun s => p.configureAt k s).getD p, k, []) := by
  cases settings <;> simp [deskFor, hb]

/-- A buffer that is not open gets a new desk. -/
theorem deskFor_of_closed (hb : p.deskOf? b = none) (settings : Option Settings) :
    p.deskFor b settings
      = (p.openBuffer b (settings.getD p.settings), p.desks.length,
          [note (Text.ofString "opened buffer " ++ b.shown)]) := by
  simp only [deskFor, hb]
  rfl

end

/-! ## One event -/

variable [LintSession σ]

/-- Closes a buffer. -/
def closeStep (p : Provider σ) (b : BufferId) : Provider σ × List Seen :=
  let (p', wasOpen, notes) := p.close b
  let notes := (p.deskOf? b).toList.flatMap fun k => notes.map fun n => .note (.desk k n)
  (p', notes ++ [.closed b wasOpen])

/-- One event. -/
def step (make : Desk.Factory σ) (act : Desk σ → ε → Desk σ × List Note) (p : Provider σ) :
    Event ε → Provider σ × List Seen
  | .deskFor b settings =>
    let (p, k, lines) := p.deskFor b settings
    (p, logged k lines)
  | .check system ticket b text host =>
    let (p, notes) := p.runCheck make system ticket b text host
    (p, notes.map .note)
  | .setDialect b dialect =>
    let k := (p.deskFor b none).2.1
    let (p, result, lines) := p.setDialect b dialect
    (p, logged k lines ++ [.dialect b result])
  | .close b => p.closeStep b
  | .shutdown => Machine.run closeStep p (p.registry.map Prod.fst)
  | .checkText system ticket text settings =>
    let (p, notes) := p.checkText make system ticket text settings
    (p, notes.map .note)
  | .abandon ticket =>
    let (p, notes) := p.abandon ticket
    (p, notes.map .note)
  | .configure s => ({ p with settings := s }, [])
  | .desk k e =>
    let (p, notes) := p.atDesk k fun d => act d e
    (p, notes.map .note)

section

variable {p : Provider σ} {b : BufferId} {k : Nat}

/-- Nothing is done where there is no desk. -/
theorem atDesk_of_none (hd : p.desks[k]? = none) (act : Desk σ → Desk σ × List Note) :
    p.atDesk k act = (p, []) := by
  simp [atDesk, hd]

/-- What is done at a desk puts the new desk in its place, and the provider takes in what leaves
it. -/
theorem atDesk_of_desk {d : Desk σ} (hd : p.desks[k]? = some d)
    (act : Desk σ → Desk σ × List Note) :
    p.atDesk k act = (p.put k (act d).1).absorb k (act d).2 := by
  simp [atDesk, hd]

/-- Nothing is canceled where there is no desk. -/
theorem cancelAt_of_none (hd : p.desks[k]? = none) : p.cancelAt k = (p, false, []) := by
  simp [cancelAt, hd]

/-- The check at a desk is canceled there. -/
theorem cancelAt_of_desk {d : Desk σ} (hd : p.desks[k]? = some d) :
    p.cancelAt k = (p.put k d.cancel.1, d.cancel.2.1, d.cancel.2.2) := by
  simp [cancelAt, hd]

/-- Closing a buffer forgets it and cancels what is under way at its desk. -/
theorem closeStep_of_open (hb : p.deskOf? b = some k) :
    p.closeStep b
      = (((p.forget b).cancelAt k).1,
          ((p.forget b).cancelAt k).2.2.map (fun n => .note (.desk k n))
            ++ logged k [note (Text.ofString "closed buffer " ++ b.shown)]
            ++ [.closed b true]) := by
  simp [closeStep, close, hb, forget, logged]

/-- Closing a buffer that is not open only tells so. -/
theorem closeStep_of_closed (hb : p.deskOf? b = none) :
    p.closeStep b = (p, [.closed b false]) := by
  simp [closeStep, close, hb]

end

/-! ## What is kept of what leaves a desk -/

/-- Sees to one thing that leaves a desk. -/
def absorbOne (p : Provider σ) (k : Nat) : Note → Provider σ × List ProviderNote
  | .told _ _ (.answer ticket result) =>
    (p.mapOneShot ticket fun (o : OneShot) => { o with answer := o.answer.or (some result) }).tryEnd
      ticket
  | .returned ticket result =>
    match p.oneShot? ticket with
    | none => (p, [.desk k (.returned ticket result)])
    | some s =>
      match result with
      | .ok _ =>
        (p.mapOneShot ticket fun (o : OneShot) => { o with requested := true }).tryEnd ticket
      | .error f => p.endOneShot s (.error (.fault f))
  | n => (p, [.desk k n])

/-- What leaves a desk is taken in one note after the other. -/
theorem absorb_cons (p : Provider σ) (k : Nat) (n : Note) (rest : List Note) :
    p.absorb k (n :: rest)
      = (((p.absorbOne k n).1.absorb k rest).1,
          (p.absorbOne k n).2 ++ ((p.absorbOne k n).1.absorb k rest).2) := by
  cases n with
  | told id found telling => cases telling <;> rfl
  | _ => rfl

/-! ## The end -/

/-- Closing one buffer after the other is what the provider does when it shuts down. -/
theorem run_closeStep (p : Provider σ) (bs : List BufferId) :
    (Machine.run closeStep p bs).1 = (p.closeAll bs).1 := by
  induction bs generalizing p with
  | nil => rfl
  | cons b bs ih => exact ih (p.close b).1

/-- A shutdown closes all buffers that are open. -/
theorem step_shutdown (make : Desk.Factory σ) (act : Desk σ → ε → Desk σ × List Note)
    (p : Provider σ) : (p.step make act .shutdown).1 = p.shutdown.1 :=
  p.run_closeStep (p.registry.map Prod.fst)

end Provider

end LiveLint
