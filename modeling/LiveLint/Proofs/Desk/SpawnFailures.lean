import LiveLint.Proofs.Coordinator.Reentrancy
import LiveLint.Proofs.Desk.Answers
import LiveLint.Proofs.Desk.Configured
import LiveLint.Proofs.Desk.Handles

/-!
# Checks that cannot be started

The system may be unable to run a linter at once, or long after it was asked, when the check has
been given up. Either way the request returns nothing and no error goes to its caller; a check that
is still in the slot has its host told, once in the whole run. Only where the system refuses the
arguments themselves does the request raise an error (`Refuses`), and leave behind a session that
waits for good.

What is shown of a deed has two parts: what the notes of one session can be (`Calm`), whatever its
coordinator and its host make of them, and that a host hears of a check for the last time when the
check leaves the slot (`Orderly`).
-/

namespace LiveLint

/-- The note is for the log. -/
def Note.isLog : Note → Bool
  | .log _ => true
  | _ => false

/-- Somebody gets an error instead of a result. -/
def Note.isRaise : Note → Bool
  | .returned _ (.error _) | .escaped _ => true
  | _ => false

/-- A line of the log is neither an error for anybody nor for a host. -/
theorem Note.of_isLog : ∀ {n : Note}, n.isLog → n.isRaise = false ∧ n.isTold = false
  | .log _, _ => ⟨rfl, rfl⟩

/-- What a host is told is not for the log. -/
theorem Note.not_isLog_of_isTold {n : Note} (h : n.isTold) : ¬ n.isLog := by
  intro hlog
  rw [(Note.of_isLog hlog).2] at h
  cases h

/-- Telling a host something raises no error. -/
theorem Note.isRaise_of_isTold : ∀ {n : Note}, n.isTold → n.isRaise = false
  | .told .., _ => rfl

/-- What a request returns by a note. -/
def Note.returned? : Note → Option (Nat × Except Fault (Option Nat))
  | .returned ticket result => some (ticket, result)
  | _ => none

/-- The requests that return, and with what. -/
def returns (notes : List Note) : List (Nat × Except Fault (Option Nat)) :=
  notes.filterMap Note.returned?

/-- The requests that return are those of both parts. -/
theorem returns_append (first rest : List Note) :
    returns (first ++ rest) = returns first ++ returns rest := List.filterMap_append

/-- A quiet effect is for no host. -/
theorem Coordinator.addressee?_of_isQuiet {η : Type} :
    ∀ {effect : Effect η}, effect.isQuiet → effect.addressee? = none
  | .log _, _ | .release _, _ => rfl

namespace Session

variable {κ : Type}

/-- A call of `start` waits for the system. -/
def Awaits (s : Session κ) (ticket : Nat) : Prop :=
  ∃ c, s.startCall? ticket = some c ∧ c.place = .spawning

/-- A call of `start` ends with an error that is not that of a check. -/
def Effect.isFault : Effect κ → Bool
  | .returned _ (.error (.fault _)) => true
  | _ => false

/-- A call that waits learns that the system cannot run the program. -/
theorem Awaits.spawnFailed_system {s : Session κ} {ticket : Nat} (h : s.Awaits ticket)
    (reason : Text) :
    s.spawnFailed ticket (.system reason) = (s.endStart ticket).spawnError ticket reason := by
  obtain ⟨⟨_, _, _⟩, hcall, hplace⟩ := h
  subst hplace
  simp only [Session.spawnFailed, hcall]

/-- A call that waits ends with a refusal, and the session stays as it is otherwise. -/
theorem Awaits.spawnFailed_refused {s : Session κ} {ticket : Nat} (h : s.Awaits ticket)
    (reason : Text) :
    s.spawnFailed ticket (.refused reason)
      = (s.endStart ticket, [.returned ticket (.error (.fault (.spawnRefused reason)))]) := by
  obtain ⟨⟨_, _, _⟩, hcall, hplace⟩ := h
  subst hplace
  simp only [Session.spawnFailed, hcall]

/-- A call that does not wait takes no notice of a failure. -/
theorem spawnFailed_of_not_awaits {s : Session κ} {ticket : Nat} (h : ¬ s.Awaits ticket)
    (failure : SpawnFailure) : s.spawnFailed ticket failure = (s, []) := by
  rcases s.spawnFailed_cases ticket failure with heq | ⟨c, hcall, hplace, -⟩
  · exact heq
  · exact absurd ⟨c, hcall, hplace⟩ h

/-- A session for which there is no program fails, unless it was canceled. -/
theorem exists_spawnError (s : Session κ) (ticket : Nat) (reason : Text) :
    ∃ s', s.spawnError ticket reason
        = (s', [.returned ticket (.error (.lint (.spawn (s.command.headD []) reason)))]) ∧
      s'.status = (if s.status = .pending then .failed else s.status) ∧ s'.calling = s.calling := by
  by_cases hpending : s.status = .pending
  · exact ⟨_, spawnError_of_pending hpending ticket reason, by rw [if_pos hpending], rfl⟩
  · exact ⟨s, spawnError_of_ne_pending hpending ticket reason, by rw [if_neg hpending], rfl⟩

/-- Nothing but a refusal makes a call of `start` that waits for the system end with an error. -/
theorem not_isFault_of_occurrence (s : Session κ) {oc : Occurrence}
    (h : ∀ ticket reason, oc = .spawnFailed ticket (.refused reason) → ¬ s.Awaits ticket)
    {f : Effect κ} (hf : f ∈ (s.step oc.event).2) : f.isFault = false := by
  cases oc with
  | spawned ticket child =>
    change f ∈ (s.spawned ticket child).2 at hf
    have hhears := spawned_cases s ticket child
    generalize s.spawned ticket child = p at hhears hf
    cases hhears with
    | ignored => cases hf
    | late line =>
      rw [List.mem_singleton.1 hf]
      rfl
    | spawned line =>
      simp only [List.mem_cons, List.not_mem_nil, or_false] at hf
      rcases hf with rfl | rfl <;> rfl
  | spawnFailed ticket failure =>
    change f ∈ (s.spawnFailed ticket failure).2 at hf
    cases failure with
    | refused reason =>
      rw [spawnFailed_of_not_awaits (h ticket reason rfl)] at hf
      cases hf
    | system reason =>
      rcases s.spawnFailed_system_cases ticket reason with heq | heq <;> rw [heq] at hf
      · cases hf
      · rw [List.mem_singleton.1 hf]
        rfl
  | resume ticket =>
    change f ∈ (s.resume ticket).2 at hf
    rcases s.resume_cases ticket with heq | ⟨_, _, -, -, -, heq⟩ <;> rw [heq] at hf
    · cases hf
    · rw [List.mem_singleton.1 hf]
      rfl
  | read j =>
    change f ∈ (s.read j).2 at hf
    -- The one effect of an end is the outcome, which is no fault.
    have hfinish (o : Outcome) (hf : f ∈ ((s.moveReader j .ended).finish o).2) :
        f.isFault = false := by
      unfold finish at hf
      split at hf
      · cases hf
      · rw [List.mem_singleton.1 hf]
        rfl
    have hreads := read_cases s j
    generalize s.read j = p at hreads hf
    cases hreads with
    | waits => cases hf
    | stops => cases hf
    | hands payload hreader hpayload heffects =>
      obtain ⟨limit, rfl, -⟩ := heffects f hf
      rfl
    | kills => cases hf
    | collects => exact hfinish _ hf
    | reaps => exact hfinish _ hf
  | abandon ticket => cases hf
  | timeUp j => cases hf
  | exit i x => cases hf

/-- Calling back does not make a call of `start` end with an error. -/
theorem not_isFault_of_call (s : Session κ) {f : Effect κ} (hf : f ∈ (s.step .call).2) :
    f.isFault = false := by
  change f ∈ s.callNext.2 at hf
  unfold callNext at hf
  split at hf
  · cases hf
  · rw [List.mem_singleton.1 hf]
    rfl

/-- Canceling does not make a call of `start` end with an error. -/
theorem not_isFault_of_cancel (s : Session κ) {f : Effect κ} (hf : f ∈ (s.step .cancel).2) :
    f.isFault = false := by
  change f ∈ s.cancel.2 at hf
  cases hterminal : s.status.isTerminal with
  | true =>
    rw [cancel_of_terminal hterminal, List.mem_singleton] at hf
    subst hf
    rfl
  | false =>
    rw [cancel_of_open hterminal] at hf
    simp only [List.mem_cons, List.not_mem_nil, or_false] at hf
    rcases hf with rfl | rfl <;> rfl

end Session

namespace Desk

variable {d : Desk (Session Unit)}

/-! ## Notes of a desk -/

/-- What a session logs is for the log. -/
theorem isLog_logsOf {effects : List (Session.Effect Unit)} {n : Note} (h : n ∈ logsOf effects) :
    n.isLog := by
  obtain ⟨f, -, hf⟩ := List.mem_filterMap.1 h
  split at hf
  · cases hf
    rfl
  · cases hf

/-- Dismissing a session leaves nothing but lines in the log. -/
theorem isLog_dismiss (d : Desk (Session Unit)) (id : Nat) {n : Note} (h : n ∈ (d.dismiss id).2.2) :
    n.isLog := by
  rw [dismiss] at h
  rcases List.mem_append.1 h with h | h
  · exact isLog_logsOf h
  · split at h
    · rw [List.mem_singleton.1 h]
      rfl
    · cases h

/-- Canceling a check leaves nothing but lines in the log. -/
theorem isLog_cancel (d : Desk (Session Unit)) {n : Note} (h : n ∈ d.cancel.2.2) : n.isLog := by
  cases hslot : d.coordinator.slot with
  | none =>
    rw [cancel_of_empty hslot] at h
    cases h
  | some id =>
    rw [cancel_of_slot hslot] at h
    exact isLog_dismiss _ id h

/-- What a coordinator asks for is for the log, or for the host that is addressed. -/
theorem note_of_obeyOne (d : Desk (Session Unit)) (effect : Coordinator.Effect Host) {n : Note}
    (h : n ∈ (d.obeyOne effect).2.1) :
    n.isLog ∨ ∃ a, effect.addressee? = some a ∧ n.isFor a.1 := by
  cases effect with
  | dismiss id => exact .inl (isLog_dismiss d id h)
  | log line =>
    rw [List.mem_singleton.1 h]
    exact .inl rfl
  | report id host ds =>
    rw [List.mem_singleton.1 h]
    exact .inr ⟨(id, host), rfl, beq_self_eq_true id⟩
  | failure id host e =>
    rw [List.mem_singleton.1 h]
    exact .inr ⟨(id, host), rfl, beq_self_eq_true id⟩
  | release id => cases h
  | start id settings text => cases h
  | raise f => cases h

/-- What comes of the coordinator's words is for the log or for a host that they name. -/
theorem note_of_obey (d : Desk (Session Unit)) (effects : List (Coordinator.Effect Host)) {n : Note}
    (h : n ∈ (d.obey effects).2.1) :
    n.isLog ∨ ∃ effect ∈ effects, ∃ a, effect.addressee? = some a ∧ n.isFor a.1 := by
  induction effects generalizing d with
  | nil => cases h
  | cons effect rest ih =>
    rw [obey] at h
    have hfirst := fun h => note_of_obeyOne d effect (n := n) h
    generalize d.obeyOne effect = p at h hfirst
    obtain ⟨d', notes, raised⟩ := p
    have hnow (hn : n ∈ notes) : n.isLog ∨
        ∃ effect' ∈ effect :: rest, ∃ a, effect'.addressee? = some a ∧ n.isFor a.1 :=
      (hfirst hn).imp_right fun ha => ⟨effect, List.mem_cons_self, ha⟩
    cases raised with
    | some f => exact hnow h
    | none =>
      refine (List.mem_append.1 h).elim hnow fun hmore => (ih d' hmore).imp_right ?_
      rintro ⟨later, hlater, ha⟩
      exact ⟨later, List.mem_cons_of_mem effect hlater, ha⟩

/-! ## Sessions are not forgotten -/

/-- A session stays at the desk when one of them does a step. -/
theorem exists_session?_raw (e : Session.Event Unit) (i : Nat) {id : Nat}
    (h : ∃ s, d.session? id = some s) : ∃ s, (d.raw i e).1.session? id = some s := by
  obtain ⟨s, hs⟩ := h
  cases hi : d.session? i with
  | none => simp [raw, hi, hs]
  | some t =>
    rw [raw_of_session hi]
    exact exists_session?_put _ hs

/-- A session stays at the desk, whatever the coordinator says. -/
theorem exists_session?_obeyOne (effect : Coordinator.Effect Host) {id : Nat}
    (h : ∃ s, d.session? id = some s) : ∃ s, (d.obeyOne effect).1.session? id = some s := by
  cases effect with
  | release i => exact exists_session?_raw .release i h
  | dismiss i => exact exists_session?_raw .release i (exists_session?_raw .cancel i h)
  | _ => exact h

/-- A session stays at the desk through all that the coordinator says. -/
theorem exists_session?_obey (effects : List (Coordinator.Effect Host)) {id : Nat}
    (h : ∃ s, d.session? id = some s) : ∃ s, (d.obey effects).1.session? id = some s := by
  induction effects generalizing d with
  | nil => exact h
  | cons effect rest ih =>
    rw [obey]
    have hfirst := exists_session?_obeyOne effect h
    generalize d.obeyOne effect = p at hfirst
    obtain ⟨d', notes, raised⟩ := p
    cases raised with
    | some f => exact hfirst
    | none => exact ih hfirst

/-! ## What becomes of the effects of a session -/

/-- Nobody gets an error by what the session of a check does, and its host is told something only
when the check leaves the slot. -/
structure Calm (before : Option Nat) (id : Nat) (p : Desk (Session Unit) × List Note) : Prop where
  there : ∃ s, p.1.session? id = some s
  slot : p.1.coordinator.slot = before ∨ p.1.coordinator.slot = none
  raises : ∀ n ∈ p.2, n.isRaise = false
  told : ∀ n ∈ p.2, n.isTold → n.isFor id ∧ before = some id ∧ p.1.coordinator.slot = none

/-- Notes that tell nobody anything and raise nothing are calm. -/
theorem calm_mute {id : Nat} (h : ∃ s, d.session? id = some s) {notes : List Note}
    (hraises : ∀ n ∈ notes, n.isRaise = false) (hsilent : Silent notes) :
    Calm d.coordinator.slot id (d, notes) :=
  ⟨h, .inl rfl, hraises, fun n hn htold => absurd htold (by simp [hsilent n hn])⟩

/-- Calm goes on through both parts, as the host is told something once at most. -/
theorem Calm.append {before : Option Nat} {id : Nat} {d' : Desk (Session Unit)}
    {notes more : List Note} (h : Calm before id (d', notes)) {d'' : Desk (Session Unit)}
    (hrest : Calm d'.coordinator.slot id (d'', more)) : Calm before id (d'', notes ++ more) where
  there := hrest.there
  slot := by
    rcases hrest.slot with heq | hnone
    · exact heq ▸ h.slot
    · exact .inr hnone
  raises n hn := (List.mem_append.1 hn).elim (h.raises n) (hrest.raises n)
  told n hn htold := by
    -- Nobody is told anything by the rest once the slot is empty.
    rcases List.mem_append.1 hn with hn | hn
    · obtain ⟨hfor, hslot, hnone⟩ := h.told n hn htold
      refine ⟨hfor, hslot, ?_⟩
      rcases hrest.slot with heq | hafter
      · exact heq.trans hnone
      · exact hafter
    · obtain ⟨hfor, hslot, hnone⟩ := hrest.told n hn htold
      refine ⟨hfor, ?_, hnone⟩
      rcases h.slot with heq | hempty
      · exact heq.symm.trans hslot
      · cases hempty.symm.trans hslot

/-- What a coordinator does about an outcome, or about a session that cannot be started. -/
theorem calm_coordinate {id : Nat} (h : ∃ s, d.session? id = some s) {e : Coordinator.Event Host}
    (hsettles : Coordinator.Settles d.coordinator id (d.coordinator.step e)) :
    Calm d.coordinator.slot id ((d.coordinate e).1, (d.coordinate e).2.1) := by
  rw [coordinate]
  generalize d.coordinator.step e = p at hsettles
  obtain ⟨c, effects⟩ := p
  have hthere := exists_session?_obey (d := { d with coordinator := c }) effects h
  have hcoordinator := coordinator_obey { d with coordinator := c } effects
  have hnotes := fun n => note_of_obey { d with coordinator := c } effects (n := n)
  have hraises : ∀ n ∈ (obey { d with coordinator := c } effects).2.1, n.isRaise = false := by
    intro n hn
    rcases hnotes n hn with hlog | ⟨_, -, a, -, hfor⟩
    · exact (Note.of_isLog hlog).1
    · exact Note.isRaise_of_isTold (isTold_of_isFor hfor)
  refine ⟨hthere, ?_, hraises, fun n hn htold => ?_⟩
  · change (obey _ _).1.coordinator.slot = _ ∨ (obey _ _).1.coordinator.slot = _
    rw [hcoordinator]
    cases hsettles with
    | ignored => exact .inl rfl
    | answered => exact .inr rfl
    | broken => exact .inr rfl
  · -- Only who is addressed last is told something.
    obtain ⟨effect, heffect, a, haddressee, hfor⟩ := (hnotes n hn).resolve_left
      (Note.not_isLog_of_isTold htold)
    change _ ∧ _ ∧ (obey _ _).1.coordinator.slot = _
    rw [hcoordinator]
    have hnone (hquiet : effect.isQuiet) : False := by
      rw [Coordinator.addressee?_of_isQuiet hquiet] at haddressee
      cases haddressee
    cases hsettles with
    | ignored hquiet => exact (hnone (hquiet effect heffect)).elim
    | answered hslot hrequest hquiet hlast =>
      rcases List.mem_append.1 heffect with hmem | hmem
      · exact (hnone (hquiet effect hmem)).elim
      · rw [List.mem_singleton.1 hmem, hlast] at haddressee
        cases haddressee
        exact ⟨hfor, hslot, rfl⟩
    | broken f hslot hquiet =>
      rcases List.mem_append.1 heffect with hmem | hmem
      · exact (hnone (hquiet effect hmem)).elim
      · rw [List.mem_singleton.1 hmem] at haddressee
        cases haddressee

/-- A delivered outcome is dealt with calmly. -/
theorem calm_deliver {id : Nat} (h : ∃ s, d.session? id = some s) (o : Outcome) :
    Calm d.coordinator.slot id (d.deliver id o) := by
  have hcalm := calm_coordinate h (e := .deliver id o) (d.coordinator.deliver_settles id o)
  unfold deliver
  generalize d.coordinate (.deliver id o) = p at hcalm
  obtain ⟨d', notes, raised⟩ := p
  cases raised with
  | none => exact hcalm
  | some f =>
    -- The session logs what its callback raises.
    obtain ⟨s, hs⟩ := hcalm.there
    have hline : (d'.session? id).bind LintSession.raisedLine? = some s.raisedLine := by
      rw [hs]
      rfl
    simp only [hline]
    exact hcalm.append (calm_mute ⟨s, hs⟩ (by simp [Note.isRaise]) (silent_logs [s.raisedLine]))

/-- An effect of a session is dealt with calmly unless it is an error for its caller. -/
theorem calm_absorbOne {id : Nat} (h : ∃ s, d.session? id = some s) {f : Session.Effect Unit}
    (hf : f.isFault = false) : Calm d.coordinator.slot id (d.absorbOne id f) := by
  cases f with
  | called c o => exact calm_deliver h o
  | returned ticket result =>
    rcases result with (e | f) | u
    · have hcalm := calm_coordinate h (e := .spawnFailed id e)
        (d.coordinator.spawnFailed_settles id e)
      exact hcalm.append
        (calm_mute hcalm.there (by simp [Note.isRaise]) (by simp [Silent, Note.isTold]))
    · cases hf
    · exact calm_mute h (by simp [Note.isRaise]) (by simp [Silent, Note.isTold])
  | _ => exact calm_mute h (by simp [Note.isRaise]) (by simp [Silent, Note.isTold])

/-- The effects of a session are dealt with calmly unless one is an error for its caller. -/
theorem calm_absorb {id : Nat} (h : ∃ s, d.session? id = some s)
    {effects : List (Session.Effect Unit)} (heffects : ∀ f ∈ effects, f.isFault = false) :
    Calm d.coordinator.slot id (d.absorb id effects) := by
  induction effects generalizing d with
  | nil => exact calm_mute h (by simp) silent_nil
  | cons f rest ih =>
    obtain ⟨hf, hrest⟩ := List.forall_mem_cons.1 heffects
    have hfirst := calm_absorbOne h hf
    rw [absorb_cons]
    exact hfirst.append (ih hfirst.there hrest)

/-- A step of a session is calm unless an error for its caller comes of it. -/
theorem calm_sessionStep {id : Nat} (h : ∃ s, d.session? id = some s) {e : Session.Event Unit}
    (heffects : ∀ s : Session Unit, d.session? id = some s →
      ∀ f ∈ (s.step e).2, f.isFault = false) :
    Calm d.coordinator.slot id (d.sessionStep id e) := by
  obtain ⟨s, hs⟩ := h
  rw [sessionStep, raw_of_session hs]
  exact calm_absorb (d := d.put id (s.step e).1) (exists_session?_put _ hs) (heffects s hs)

/-- Calling the callbacks that wait is calm. -/
theorem calm_calls {id : Nat} (h : ∃ s, d.session? id = some s) (waiting : Nat) :
    Calm d.coordinator.slot id
      (Machine.run (fun d => d.sessionStep id) d (List.replicate waiting .call)) := by
  -- A turn may change the desk, but the session is there for the next one.
  induction waiting generalizing d with
  | zero => exact calm_mute h (by simp) silent_nil
  | succ n ih =>
    have hfirst := calm_sessionStep h (e := .call) fun s _ f => s.not_isFault_of_call
    rw [List.replicate_succ, Machine.run_cons]
    exact hfirst.append (ih hfirst.there)

/-- Calling back is calm. -/
theorem calm_callBack {id : Nat} (h : ∃ s, d.session? id = some s) :
    Calm d.coordinator.slot id (d.callBack id) := calm_calls h _

/-! ## What becomes of a deed -/

/-- The deed is that the system refuses the arguments of a process, and a call waits for it. -/
def Refuses (d : Desk (Session Unit)) (deed : Deed) : Prop :=
  ∃ id ticket reason s, deed = .event (.session id (.spawnFailed ticket (.refused reason))) ∧
    d.session? id = some s ∧ s.Awaits ticket

/-- Nobody gets an error, and a host is told something for the last time when its check is past. -/
structure Orderly (d : Desk (Session Unit)) (p : Desk (Session Unit) × List Note) : Prop where
  raises : ∀ n ∈ p.2, n.isRaise = false
  told : ∀ id, ∀ n ∈ p.2, n.isFor id → ¬ Past d id ∧ Past p.1 id

/-- What is calm is orderly, as a check that was past is not in the slot. -/
theorem Calm.orderly {before : Option Nat} {id : Nat} {p : Desk (Session Unit) × List Note}
    (h : Calm before id p) (hfiled : Filed p.1) (hslot : Past d id → before ≠ some id) :
    Orderly d p where
  raises := h.raises
  told i n hn hfor := by
    obtain ⟨hmine, hthere, hnone⟩ := h.told n hn (isTold_of_isFor hfor)
    obtain rfl : id = i := by
      cases n with
      | told j found telling => exact (beq_iff_eq.1 hmine).symm.trans (beq_iff_eq.1 hfor)
      | _ => cases hfor
    obtain ⟨s, hs⟩ := h.there
    refine ⟨fun hpast => hslot hpast hthere, (hfiled id s hs).1, ?_⟩
    rw [hnone]
    exact (Option.some_ne_none _).symm

/-- A refusal goes to the caller of the request, and changes nothing but that. -/
theorem act_refused {id ticket : Nat} {s : Session Unit} (hs : d.session? id = some s)
    (hcalling : s.calling = []) (hawaits : s.Awaits ticket) (reason : Text) :
    d.act (.event (.session id (.spawnFailed ticket (.refused reason))))
      = (d.put id (s.endStart ticket), [.returned ticket (.error (.spawnRefused reason))]) := by
  have hstep : s.step (.spawnFailed ticket (.refused reason))
      = (s.endStart ticket, [.returned ticket (.error (.fault (.spawnRefused reason)))]) :=
    hawaits.spawnFailed_refused reason
  have hsession : d.sessionStep id (.spawnFailed ticket (.refused reason))
      = (d.put id (s.endStart ticket), [.returned ticket (.error (.spawnRefused reason))]) := by
    rw [sessionStep_of_session hs hstep]
    rfl
  have hs' : (d.put id (s.endStart ticket)).session? id = some (s.endStart ticket) :=
    session?_put_self hs
  rw [act, step_session, Session.Occurrence.event, hsession, callBack_of_calling_nil hs' hcalling]
  rfl

/-- Lines in the log are orderly. -/
theorem orderly_logs {d' : Desk (Session Unit)} {notes : List Note} (h : ∀ n ∈ notes, n.isLog) :
    Orderly d (d', notes) where
  raises n hn := (Note.of_isLog (h n hn)).1
  told _ n hn hfor := absurd (h n hn) (Note.not_isLog_of_isTold (isTold_of_isFor hfor))

/-- A request asks the system for a process, or learns that the executable is not there. -/
theorem start_newcomer (d : Desk (Session Unit)) (text : Text) (ticket : Nat) (system : System) :
    (∃ reason, (d.newcomer text).start ticket system
        = (d.newcomer text).spawnError ticket reason) ∨
      ∃ executable arguments directory environment,
        (d.newcomer text).start ticket system
          = ({ d.newcomer text with
                starts := (d.newcomer text).starts ++ [⟨ticket, executable, .spawning⟩] },
              [.spawn ticket arguments directory environment]) :=
  Session.start_of_pending (by simp [newcomer, Session.listening, Settings.command]) rfl ticket
    system

/-- A request is orderly: it cancels a check, and tells nobody. -/
theorem Steady.orderly_request (h : Steady d) (system : System) (ticket : Nat) (text : Text)
    (host : Host) : Orderly d (d.step (.request system ticket text host)) := by
  obtain ⟨hcanceled, hcoordinator⟩ := h.cancel_shifts
  have hidle := h.shifts hcanceled
  have hafter := h.act (.event (.request system ticket text host))
  rw [Desk.act, Desk.step, request_eq d hidle.filed system ticket text host] at hafter
  rw [Desk.step, request_eq d hidle.filed system ticket text host]
  have hs := session?_accepted_self hidle.filed text host (d.cancel.1.newcomer text)
  have hcalm := calm_sessionStep ⟨_, hs⟩ (e := .start ticket system) fun s hs' f hf => by
    obtain rfl := Option.some.inj (hs.symm.trans hs')
    change f ∈ ((d.cancel.1.newcomer text).start ticket system).2 at hf
    rcases d.cancel.1.start_newcomer text ticket system with ⟨reason, heq⟩ | ⟨_, _, _, _, heq⟩ <;>
      rw [heq] at hf
    all_goals
      rw [List.mem_singleton.1 hf]
      rfl
  have hstarted : Orderly d _ := hcalm.orderly hafter.filed fun hpast =>
    -- The number is new.
    absurd hpast.1 (by rw [hcoordinator]; exact Nat.lt_irrefl _)
  have hlogs : Orderly d (d.cancel.1, d.cancel.2.2) := orderly_logs fun n => isLog_cancel d
  refine ⟨fun n hn => ?_, fun id n hn hfor => ?_⟩
  · exact (List.mem_append.1 hn).elim (hlogs.raises n) (hstarted.raises n)
  · rcases List.mem_append.1 hn with hn | hn
    · exact absurd (isLog_cancel d hn) (Note.not_isLog_of_isTold (isTold_of_isFor hfor))
    · exact hstarted.told id n hn hfor

/-- What occurs at a session is orderly, unless the system refuses the arguments of a process. -/
theorem Steady.orderly_session (h : Steady d) (id : Nat) (oc : Session.Occurrence)
    (hrefuses : ¬ Refuses d (.event (.session id oc))) : Orderly d (d.step (.session id oc)) := by
  have hafter := h.act (.event (.session id oc))
  rw [Desk.act, step_session] at hafter
  rw [step_session]
  cases hs : d.session? id with
  | none =>
    rw [sessionStep_of_none hs, callBack_of_none hs]
    exact orderly_logs (by simp)
  | some s =>
    have hcalm := calm_sessionStep ⟨s, hs⟩ (e := oc.event) fun t ht f hf => by
      refine t.not_isFault_of_occurrence (fun ticket reason hoc hawaits => ?_) hf
      exact hrefuses ⟨id, ticket, reason, t, by rw [hoc], ht, hawaits⟩
    exact (hcalm.append (calm_callBack hcalm.there)).orderly hafter.filed And.right

/-- Whoever drops the session of a check by hand hears nothing by that. -/
theorem orderly_by_hand (id : Nat) {e : Session.Event Unit}
    (hfiled : Filed (d.sessionStep id e).1)
    (heffects : ∀ s : Session Unit, ∀ f ∈ (s.step e).2, f.isFault = false) :
    Orderly d (d.sessionStep id e) := by
  cases hs : d.session? id with
  | none =>
    rw [sessionStep_of_none hs]
    exact orderly_logs (by simp)
  | some s => exact (calm_sessionStep ⟨s, hs⟩ fun t _ => heffects t).orderly hfiled And.right

/-- A deed is orderly, unless the system refuses the arguments of a process. -/
theorem Steady.orderly_act (h : Steady d) {deed : Deed} (hrefuses : ¬ Refuses d deed) :
    Orderly d (d.act deed) := by
  cases deed with
  | event e =>
    cases e with
    | request system ticket text host => exact h.orderly_request system ticket text host
    | cancel => exact orderly_logs fun n => isLog_cancel d
    | configure s => exact orderly_logs (by simp)
    | session id oc => exact h.orderly_session id oc hrefuses
  | cancel id =>
    exact orderly_by_hand id (h.act (.cancel id)).filed fun s f => s.not_isFault_of_cancel
  | release id =>
    exact orderly_by_hand id (h.act (.release id)).filed fun s f hf => absurd hf List.not_mem_nil

/-- Somebody gets an error exactly if the system refuses arguments that a request waits for. -/
theorem Steady.raises_iff (h : Steady d) (deed : Deed) :
    (∃ n ∈ (d.act deed).2, n.isRaise) ↔ Refuses d deed := by
  constructor
  · rintro ⟨n, hn, hraise⟩
    by_contra hnot
    rw [(h.orderly_act hnot).raises n hn] at hraise
    cases hraise
  · rintro ⟨id, ticket, reason, s, rfl, hs, hawaits⟩
    rw [act_refused hs (h.lent id s hs).calling hawaits]
    exact ⟨_, List.mem_singleton_self _, rfl⟩

/-- A host is told something for the last time when its check is past. -/
theorem Steady.told_act (h : Steady d) (deed : Deed) {id : Nat} {n : Note}
    (hn : n ∈ (d.act deed).2) (hfor : n.isFor id) : ¬ Past d id ∧ Past (d.act deed).1 id := by
  by_cases hrefuses : Refuses d deed
  · obtain ⟨i, ticket, reason, s, rfl, hs, hawaits⟩ := hrefuses
    rw [act_refused hs (h.lent i s hs).calling hawaits, List.mem_singleton] at hn
    rw [hn] at hfor
    cases hfor
  · exact (h.orderly_act hrefuses).told id n hn hfor

/-! ## Runs -/

section

variable (settings : Settings) (parser : OutputParser) (channel : Channel)

/-- Who was told something is past. -/
theorem past_of_told_run (deeds : List Deed) {id : Nat} {n : Note}
    (hn : n ∈ (Machine.run act (opened settings parser channel) deeds).2) (hfor : n.isFor id) :
    Past (Machine.run act (opened settings parser channel) deeds).1 id := by
  obtain ⟨first, deed, rest, rfl, hdeed⟩ := Machine.mem_run_iff.1 hn
  have hsteady := steady_run settings parser channel first
  rw [Machine.run_append, Machine.run_cons]
  exact (hsteady.act deed).past_run (hsteady.told_act deed hdeed hfor).2 rest

/-- Who is past is told nothing. -/
theorem Steady.not_told_run (h : Steady d) {id : Nat} (hpast : Past d id) (deeds : List Deed)
    {n : Note} (hn : n ∈ (Machine.run Desk.act d deeds).2) : n.isFor id = false := by
  obtain ⟨first, deed, rest, -, hdeed⟩ := Machine.mem_run_iff.1 hn
  by_contra hfor
  exact ((h.run first).told_act deed hdeed (by simpa using hfor)).1 (h.past_run hpast first)

/-- What a host is told by a deed is all that it is told of its check in the whole run. -/
theorem told_once_of_act (first rest : List Deed) (deed : Deed) {id : Nat} {n : Note}
    (htold : ((Machine.run act (opened settings parser channel) first).1.act deed).2.filter
      Note.isTold = [n]) (hfor : n.isFor id) :
    (Machine.run act (opened settings parser channel) (first ++ deed :: rest)).2.filter
      (Note.isFor id) = [n] := by
  have hsteady := steady_run settings parser channel first
  have hpast {m : Note} (hm : m ∈ (Machine.run act (opened settings parser channel) first).2)
      (hmfor : m.isFor id) := past_of_told_run settings parser channel first hm hmfor
  rw [Machine.run_append, Machine.run_cons]
  generalize Machine.run act (opened settings parser channel) first = p at hsteady hpast htold ⊢
  have hn : n ∈ (p.1.act deed).2.filter Note.isTold := htold ▸ List.mem_singleton_self n
  -- The check was not past before the deed, and is past ever after.
  obtain ⟨hbefore, hafter⟩ := hsteady.told_act deed (List.mem_filter.1 hn).1 hfor
  have hfirst : p.2.filter (Note.isFor id) = [] :=
    List.filter_eq_nil_iff.2 fun m hm hmfor => hbefore (hpast hm hmfor)
  have hnow : (p.1.act deed).2.filter (Note.isFor id) = [n] := by
    rw [filter_isFor, htold, List.filter_singleton, hfor, cond_true]
  have hrest : (Machine.run act (p.1.act deed).1 rest).2.filter (Note.isFor id) = [] :=
    List.filter_eq_nil_iff.2 fun m hm => by
      simp [(hsteady.act deed).not_told_run hafter rest hm]
  rw [List.filter_append, List.filter_append, hfirst, hnow, hrest]
  rfl

/-- Somebody gets an error in a run exactly if the system refuses what a request waits for. -/
theorem raises_run_iff (deeds : List Deed) :
    (∃ n ∈ (Machine.run act (opened settings parser channel) deeds).2, n.isRaise) ↔
      ∃ first deed rest, deeds = first ++ deed :: rest ∧
        Refuses (Machine.run act (opened settings parser channel) first).1 deed := by
  have hsteady := steady_run settings parser channel
  constructor
  · rintro ⟨n, hn, hraise⟩
    obtain ⟨first, deed, rest, rfl, hdeed⟩ := Machine.mem_run_iff.1 hn
    exact ⟨first, deed, rest, rfl, ((hsteady first).raises_iff deed).1 ⟨n, hdeed, hraise⟩⟩
  · rintro ⟨first, deed, rest, rfl, hrefuses⟩
    obtain ⟨n, hdeed, hraise⟩ := ((hsteady first).raises_iff deed).2 hrefuses
    exact ⟨n, Machine.mem_run_iff.2 ⟨first, deed, rest, rfl, hdeed⟩, hraise⟩

end

/-! ## Checks that could not be started -/

/-- The check could not be started and is over: its host is told so, the request returns nothing. -/
structure Unstarted (id ticket : Nat) (status : Status) (telling : Telling)
    (p : Desk (Session Unit) × List Note) : Prop where
  returned : returns p.2 = [(ticket, .ok none)]
  told : p.2.filter Note.isTold = [.told id .idle telling]
  idle : p.1.coordinator.slot = none
  session : ∃ s, p.1.session? id = some s ∧ s.status = status ∧ s.released

/-- No request returns by lines in the log. -/
theorem returns_of_logs {notes : List Note} (h : ∀ n ∈ notes, n.isLog) : returns notes = [] := by
  refine List.filterMap_eq_nil_iff.2 fun n hn => ?_
  have hlog := h n hn
  cases n <;> first | rfl | cases hlog

/-- What a coordinator asks for makes no request return. -/
theorem returns_coordinate (d : Desk (Session Unit)) (e : Coordinator.Event Host) :
    returns (d.coordinate e).2.1 = [] := by
  refine List.filterMap_eq_nil_iff.2 fun n hn => ?_
  rcases note_of_obey _ _ hn with hlog | ⟨_, -, a, -, hfor⟩
  · cases n <;> first | rfl | cases hlog
  · cases n <;> first | rfl | cases hfor

/-- What was logged before makes no difference. -/
theorem Unstarted.after_logs {id ticket : Nat} {status : Status} {telling : Telling}
    {d' : Desk (Session Unit)} {notes : List Note}
    (h : Unstarted id ticket status telling (d', notes)) {logs : List Note}
    (hlogs : ∀ n ∈ logs, n.isLog) :
    Unstarted id ticket status telling (d', logs ++ notes) where
  returned := by
    rw [returns_append, returns_of_logs hlogs]
    exact h.returned
  told := by
    have hsilent : Silent logs := fun n hn => (Note.of_isLog (hlogs n hn)).2
    rw [List.filter_append, hsilent.filter_isTold]
    exact h.told
  idle := h.idle
  session := h.session

/-- A session for which there is no program leaves the slot. -/
theorem unstarted_sessionStep {id ticket : Nat} {s s' : Session Unit} {e : Session.Event Unit}
    {r : Request Host} {error : LintError} (hs : d.session? id = some s)
    (hrequest : d.coordinator.request? id = some r) (hslot : d.coordinator.slot = some id)
    (hstep : s.step e = (s', [.returned ticket (.error (.lint error))])) :
    (d.sessionStep id e).1 = d.retire id s'.release ∧
      Unstarted id ticket s'.status (tellFailure d.channel r.host error) (d.sessionStep id e) := by
  obtain ⟨heq, htold⟩ := sessionStep_fails_of_slot hs hrequest hslot hstep
  refine ⟨congrArg Prod.fst heq, ?_, htold, ?_, ?_⟩
  · rw [heq, returns_append, returns_coordinate]
    rfl
  · rw [heq]
    rfl
  · rw [heq]
    exact ⟨s'.release, session?_put_self hs, Session.release_status s', s'.released_release⟩

/-- A session that is not in the slot fails to start without a word to a host. -/
theorem unheard_sessionStep {id ticket : Nat} {s s' : Session Unit} {e : Session.Event Unit}
    {r : Request Host} {error : LintError} (hs : d.session? id = some s)
    (hrequest : d.coordinator.request? id = some r) (hslot : d.coordinator.slot ≠ some id)
    (hstep : s.step e = (s', [.returned ticket (.error (.lint error))])) :
    ∃ notes, d.sessionStep id e = (d.put id s', notes) ∧ returns notes = [(ticket, .ok none)] ∧
      Silent notes := by
  obtain ⟨heq, hsilent⟩ := sessionStep_fails_of_ne_slot hs hrequest hslot hstep
  rw [heq] at hsilent
  refine ⟨_, heq, ?_, hsilent⟩
  rw [returns_append, returns_coordinate]
  rfl

/-- A request for which there is no executable. -/
theorem Steady.unstarted_request (h : Steady d) {system : System} {name : Text}
    (hfind : processArguments system.find d.coordinator.settings.command
      = .error (.executableNotFound name)) (ticket : Nat) (text : Text) (host : Host) :
    Unstarted d.coordinator.nextId ticket .failed
      (tellFailure d.channel host (.spawn (d.coordinator.settings.command.headD [])
        (Fault.executableNotFound name).message))
      (d.step (.request system ticket text host)) := by
  obtain ⟨hcanceled, hcoordinator⟩ := h.cancel_shifts
  have hidle := h.shifts hcanceled
  have hlogs : ∀ n ∈ d.cancel.2.2, n.isLog := fun n => isLog_cancel d
  have hnext : d.coordinator.nextId = d.cancel.1.coordinator.nextId := by rw [hcoordinator]
  have hsettings : d.coordinator.settings = d.cancel.1.coordinator.settings := by rw [hcoordinator]
  rw [Desk.step, request_eq d hidle.filed, ← hcanceled.channel, hnext, hsettings]
  rw [hsettings] at hfind
  -- From here on only the desk that has given up its check matters.
  generalize d.cancel.1 = idle at hidle hfind ⊢
  refine Unstarted.after_logs ?_ hlogs
  have hs := session?_accepted_self hidle.filed text host (idle.newcomer text)
  have hrequest := request?_accepted_self (d := idle) text host (idle.newcomer text)
  obtain ⟨s', hspawnError, hstatus, -⟩ := (idle.newcomer text).exists_spawnError ticket
    (Fault.executableNotFound name).message
  have hstart : (idle.newcomer text).step (.start ticket system)
      = (idle.newcomer text).spawnError ticket (Fault.executableNotFound name).message := by
    change (idle.newcomer text).start ticket system = _
    have hcommand : (idle.newcomer text).command = idle.coordinator.settings.command := rfl
    simp only [Session.start, hcommand, hfind]
    rfl
  obtain ⟨-, hunstarted⟩ := unstarted_sessionStep hs hrequest rfl (hstart.trans hspawnError)
  rw [hstatus] at hunstarted
  exact hunstarted

/-- A check in the slot that waits for the system, which cannot run the program. -/
theorem Steady.unstarted_session (h : Steady d) {id ticket : Nat} {s : Session Unit}
    {r : Request Host} (hs : d.session? id = some s) (hrequest : d.coordinator.request? id = some r)
    (hawaits : s.Awaits ticket) (hslot : d.coordinator.slot = some id) (reason : Text) :
    Unstarted id ticket (if s.status = .canceled then .canceled else .failed)
      (tellFailure d.channel r.host (.spawn (s.command.headD []) reason))
      (d.act (.event (.session id (.spawnFailed ticket (.system reason))))) := by
  obtain ⟨s', hspawnError, hstatus, hcalling⟩ := (s.endStart ticket).exists_spawnError ticket reason
  have hstep : s.step (.spawnFailed ticket (.system reason)) = _ :=
    (hawaits.spawnFailed_system reason).trans hspawnError
  obtain ⟨hdesk, hunstarted⟩ := unstarted_sessionStep hs hrequest hslot hstep
  have hquiet : (d.sessionStep id (.spawnFailed ticket (.system reason))).1.callBack id
      = ((d.sessionStep id (.spawnFailed ticket (.system reason))).1, []) := by
    have hs' : (d.retire id s'.release).session? id = some s'.release := session?_put_self hs
    rw [hdesk, callBack_of_calling_nil hs']
    rw [Session.release_calling, hcalling]
    exact (h.lent id s hs).calling
  have hstatus' : s'.status = if s.status = .canceled then .canceled else .failed := by
    change _ = if s.status = _ then _ else s.status at hstatus
    -- Where a call waits, the session is in its first state still, or was canceled.
    obtain ⟨c, hcall, hplace⟩ := hawaits
    rcases (h.lent id s hs).sole.started.waiting (Nat.le_refl 1)
      (Session.waitingStarts_pos hcall hplace) with hpending | hcanceled
    · rw [hstatus, hpending]
      rfl
    · rw [hstatus, hcanceled]
      rfl
  rw [Desk.act, step_session, Session.Occurrence.event, hquiet, List.append_nil, ← hstatus']
  exact hunstarted

/-- A check that was overtaken and waits for the system, which cannot run the program. -/
theorem Steady.unheard_session (h : Steady d) {id ticket : Nat} {s : Session Unit}
    (hs : d.session? id = some s) (hawaits : s.Awaits ticket)
    (hslot : d.coordinator.slot ≠ some id) (reason : Text) :
    ∃ s' notes, d.act (.event (.session id (.spawnFailed ticket (.system reason))))
        = (d.put id s', notes) ∧
      returns notes = [(ticket, .ok none)] ∧ Silent notes := by
  obtain ⟨-, r, hrequest⟩ := h.filed id s hs
  obtain ⟨s', hspawnError, -, hcalling⟩ := (s.endStart ticket).exists_spawnError ticket reason
  have hstep : s.step (.spawnFailed ticket (.system reason)) = _ :=
    (hawaits.spawnFailed_system reason).trans hspawnError
  obtain ⟨notes, heq, hreturns, hsilent⟩ := unheard_sessionStep hs hrequest hslot hstep
  have hs' : (d.put id s').session? id = some s' := session?_put_self hs
  refine ⟨s', notes, ?_, hreturns, hsilent⟩
  rw [Desk.act, step_session, Session.Occurrence.event, heq,
    callBack_of_calling_nil hs' (hcalling.trans (h.lent id s hs).calling), List.append_nil]

/-- A check whose program cannot be run, at once or after a while, is over: the request returns
nothing, and the host is told the error once in the whole run and finds the coordinator idle. If the
check was overtaken or canceled in the meantime nobody is told anything, and the check in the slot
stays as it is. A request raises an error exactly if the system refuses the arguments of the
process. -/
theorem spawn_failures_told_once_unless_refused (settings : Settings) (parser : OutputParser)
    (channel : Channel) (first rest : List Deed) :
    let after := Machine.run act (opened settings parser channel)
    let d := (after first).1
    (∀ system name, processArguments system.find d.coordinator.settings.command
        = .error (.executableNotFound name) → ∀ ticket text host,
      let deed := .event (.request system ticket text host)
      let id := d.coordinator.nextId
      let telling := tellFailure d.channel host (.spawn (d.coordinator.settings.command.headD [])
        (Fault.executableNotFound name).message)
      Unstarted id ticket .failed telling (d.act deed) ∧
        (after (first ++ deed :: rest)).2.filter (Note.isFor id) = [.told id .idle telling]) ∧
    (∀ id s ticket, d.session? id = some s → s.Awaits ticket → ∀ reason,
      let deed := .event (.session id (.spawnFailed ticket (.system reason)))
      (d.coordinator.slot = some id → ∃ r, d.coordinator.request? id = some r ∧
        let telling := tellFailure d.channel r.host (.spawn (s.command.headD []) reason)
        Unstarted id ticket (if s.status = .canceled then .canceled else .failed) telling
          (d.act deed) ∧
        (after (first ++ deed :: rest)).2.filter (Note.isFor id) = [.told id .idle telling]) ∧
      (d.coordinator.slot ≠ some id → ∃ s' notes, d.act deed = (d.put id s', notes) ∧
        returns notes = [(ticket, .ok none)] ∧ Silent notes)) ∧
    ((∃ n ∈ (after first).2, n.isRaise) ↔
      ∃ past deed more, first = past ++ deed :: more ∧ Refuses (after past).1 deed) := by
  intro after d
  have h : Steady d := steady_run settings parser channel first
  refine ⟨fun system name hfind ticket text host => ?_, fun id s ticket hs hawaits reason => ?_,
    raises_run_iff settings parser channel first⟩
  · have hunstarted := h.unstarted_request hfind ticket text host
    exact ⟨hunstarted, told_once_of_act settings parser channel first rest _ hunstarted.told
      (beq_self_eq_true _)⟩
  · refine ⟨fun hslot => ?_, fun hslot => h.unheard_session hs hawaits hslot reason⟩
    obtain ⟨-, r, hrequest⟩ := h.filed id s hs
    have hunstarted := h.unstarted_session hs hrequest hawaits hslot reason
    exact ⟨r, hrequest, hunstarted, told_once_of_act settings parser channel first rest _
      hunstarted.told (beq_self_eq_true _)⟩

/-- A check that waits for the system is overtaken by one that waits as well. -/
def bothWaiting : List Deed :=
  let system : System := { find := fun _ => some "/bin/lint", environment := [] }
  [.event (.request system 1 [] (.display "r" none false)),
    .event (.request system 2 [] (.display "r" none false))]

/-- The failure of an overtaken check is not heard of, and that of the newer one is told. -/
theorem overtaken_failure_unheard_and_newer_told :
    let after := Machine.run act (opened {} {} (.named "default"))
    let d := (after bothWaiting).1
    let fails (id : Nat) : Deed := .event (.session id (.spawnFailed id (.system "denied")))
    (∃ s notes, d.act (fails 1) = (d.put 1 s, notes) ∧ returns notes = [(1, .ok none)] ∧
      Silent notes) ∧
    (after (bothWaiting ++ fails 2 :: [fails 1])).2.filter (Note.isFor 2)
      = [.told 2 .idle (.failure "default" (.spawn "sqlfluff" "denied"))] := by
  intro after d fails
  obtain ⟨-, hwaiting, -⟩ :=
    spawn_failures_told_once_unless_refused {} {} (.named "default") bothWaiting [fails 1]
  obtain ⟨-, hovertaken⟩ := hwaiting 1 _ 1 rfl ⟨_, rfl, rfl⟩ "denied"
  obtain ⟨hnewer, -⟩ := hwaiting 2 _ 2 rfl ⟨_, rfl, rfl⟩ "denied"
  obtain ⟨r, hrequest, -, htold⟩ := hnewer rfl
  cases hrequest
  exact ⟨hovertaken (by decide), htold⟩

/-- The arguments of a check hold a null character, and so the system refuses them. -/
def refusedRequest : List Deed :=
  [.event (.request { find := fun _ => some "/bin/lint", environment := [] } 1 []
      (.display "r" none false)),
    .event (.session 1 (.spawnFailed 1 (.refused "embedded null byte")))]

/-- The request raises an error, nobody is told anything, and the check waits in the slot. -/
theorem refused_request_raises_and_waits :
    let argument : Text := Text.ofString "a\x00b"
    let p := Machine.run act
      (opened { extraArguments := [argument] } {} (.named "default")) refusedRequest
    (p.2.any fun
      | .spawn 1 1 arguments _ _ => arguments.contains argument
      | _ => false) ∧
    p.2.any Note.isRaise ∧ p.2.any Note.isTold = false ∧
    p.1.coordinator.slot = some 1 ∧
    (p.1.session? 1).map Session.status = some .pending ∧
    (p.1.session? 1).map Session.released = some false := by
  decide +kernel

end Desk

end LiveLint
