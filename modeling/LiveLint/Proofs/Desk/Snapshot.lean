import LiveLint.Proofs.Desk.Turn
import LiveLint.Proofs.Session.Snapshot

/-!
# What a desk does to its sessions

All that a desk does to a session is to have it go through events of its own machine (`Worked`), and
so a session remains what it was made for, whatever happens at the desk (`Sound.run_check`). Only a
request makes a session, and only the sessions ask the system for anything.
-/

namespace LiveLint

/-- The system is asked something for a check. -/
def Note.Asks (id : Nat) : Note → Prop
  | .spawn i .. | .arm i .. => i = id
  | _ => False

/-- A question for a check is one that its session asks at an event. -/
def Note.Fits (id : Nat) (s : Session Unit) (e : Session.Event Unit) : Note → Prop
  | .spawn i ticket arguments directory environment =>
    i = id ∧ Session.Effect.Fits s e (.spawn ticket arguments directory environment)
  | .arm i reader limit => i = id ∧ Session.Effect.Fits s e (.arm reader limit)
  | _ => True

namespace Desk

variable {d d' : Desk (Session Unit)}

/-! ## What a desk does to its sessions -/

/-- Every session has gone through allowed events of its own. -/
def Worked (allowed : Nat → Session.Event Unit → Prop) (d d' : Desk (Session Unit)) : Prop :=
  ∀ id, ∃ es, (∀ e ∈ es, allowed id e) ∧
    d'.session? id = (d.session? id).map fun s => (Machine.run Session.step s es).1

/-- The calls of the coordinator on a session that it gives up or that is over. -/
def IsCall (_ : Nat) (e : Session.Event Unit) : Prop := e = .cancel ∨ e = .release

/-- Where all sessions are as they were, they have gone through no events. -/
theorem worked_of_session? {allowed : Nat → Session.Event Unit → Prop}
    (h : ∀ id, d'.session? id = d.session? id) : Worked allowed d d' := fun id =>
  ⟨[], by simp, by simp [h]⟩

/-- Events that are gone through in two parts are gone through. -/
theorem Worked.trans {allowed : Nat → Session.Event Unit → Prop} {d'' : Desk (Session Unit)}
    (h : Worked allowed d d') (hrest : Worked allowed d' d'') : Worked allowed d d'' := by
  intro id
  obtain ⟨es, hes, heq⟩ := h id
  obtain ⟨es', hes', heq'⟩ := hrest id
  refine ⟨es ++ es', fun e he => (List.mem_append.1 he).elim (hes e) (hes' e), ?_⟩
  rw [heq', heq, Option.map_map]
  congr 1
  funext s
  simp [Machine.run_append]

/-- Allowing more events is allowing what was gone through. -/
theorem Worked.mono {allowed allowed' : Nat → Session.Event Unit → Prop}
    (h : Worked allowed d d') (himp : ∀ id e, allowed id e → allowed' id e) :
    Worked allowed' d d' := by
  intro id
  obtain ⟨es, hes, heq⟩ := h id
  exact ⟨es, fun e he => himp id e (hes e he), heq⟩

/-- A session that does an allowed event has gone through it. -/
theorem worked_raw {allowed : Nat → Session.Event Unit → Prop} (d : Desk (Session Unit))
    {id : Nat} {e : Session.Event Unit} (h : allowed id e) : Worked allowed d (d.raw id e).1 := by
  cases hs : d.session? id with
  | none =>
    have hraw : (d.raw id e).1 = d := by simp [raw, hs]
    rw [hraw]
    exact worked_of_session? fun _ => rfl
  | some s =>
    intro i
    rw [raw_of_session hs]
    by_cases hid : i = id
    · refine ⟨[e], by simpa [hid] using h, ?_⟩
      rw [hid, session?_put_self hs, hs]
      rfl
    · refine ⟨[], by simp, ?_⟩
      rw [session?_put_ne hid]
      simp

/-- A step that has the desk's sessions canceled and released at most, and asks the system
nothing. -/
structure Minds (d : Desk (Session Unit)) (p : Desk (Session Unit) × List Note) : Prop where
  sessions : Worked IsCall d p.1
  notes : ∀ n ∈ p.2, ∀ id, ¬ n.Asks id

/-- Notes that ask the system nothing change no sessions. -/
theorem minds_notes {notes : List Note} (h : ∀ n ∈ notes, ∀ id, ¬ n.Asks id) :
    Minds d (d, notes) := ⟨worked_of_session? fun _ => rfl, h⟩

/-- Minding goes on through both parts. -/
theorem Minds.append {d'' : Desk (Session Unit)} {notes more : List Note}
    (h : Minds d (d', notes)) (hrest : Minds d' (d'', more)) : Minds d (d'', notes ++ more) :=
  ⟨h.sessions.trans hrest.sessions, fun n hn =>
    (List.mem_append.1 hn).elim (h.notes n) (hrest.notes n)⟩

/-- The coordinator's own state has no part in it. -/
theorem Minds.of_coordinator {p : Desk (Session Unit) × List Note} (c : Coordinator Host)
    (h : Minds { d with coordinator := c } p) : Minds d p := ⟨fun id => h.sessions id, h.notes⟩

/-- A release is a call of the coordinator. -/
theorem minds_release (d : Desk (Session Unit)) (id : Nat) : Minds d (d.release id, []) :=
  ⟨d.worked_raw (.inr rfl), by simp⟩

/-- The lines that a session logs ask the system nothing. -/
theorem not_asks_logsOf (effects : List (Session.Effect Unit)) :
    ∀ n ∈ logsOf effects, ∀ id, ¬ n.Asks id := by
  intro n hn id
  obtain ⟨f, -, hf⟩ := List.mem_filterMap.1 hn
  split at hf <;> cases hf
  exact not_false

/-- Dismissing a session takes two calls on it, and asks the system nothing. -/
theorem minds_dismiss (d : Desk (Session Unit)) (id : Nat) :
    Minds d ((d.dismiss id).1, (d.dismiss id).2.2) := by
  have hsessions : Worked IsCall d ((d.raw id .cancel).1.release id) :=
    (d.worked_raw (.inl rfl)).trans (minds_release _ id).sessions
  refine ⟨hsessions, fun n hn i => ?_⟩
  rcases List.mem_append.1 hn with hn | hn
  · exact not_asks_logsOf _ n hn i
  · rw [List.mem_singleton.1 (List.mem_ite_nil_right.1 hn).2]
    exact not_false

/-- Canceling the check under way takes calls on its session only. -/
theorem minds_cancel (d : Desk (Session Unit)) : Minds d (d.cancel.1, d.cancel.2.2) := by
  cases hslot : d.coordinator.slot with
  | none =>
    have hcancel : d.cancel = ({ d with coordinator := d.coordinator }, false, []) := by
      simp [cancel, Coordinator.step, hslot]
    rw [hcancel]
    exact minds_notes (by simp)
  | some id =>
    have hcancel : d.cancel
        = ({ d with coordinator := { d.coordinator with slot := none } } : Desk _).dismiss id := by
      simp [cancel, Coordinator.step, hslot]
    rw [hcancel]
    exact .of_coordinator _ (minds_dismiss _ id)

/-- Whatever the coordinator says takes calls on sessions only. -/
theorem minds_obeyOne (d : Desk (Session Unit)) (effect : Coordinator.Effect Host) :
    Minds d ((d.obeyOne effect).1, (d.obeyOne effect).2.1) := by
  cases effect with
  | dismiss id => exact d.minds_dismiss id
  | release id => exact d.minds_release id
  | _ => exact minds_notes (by simp [obeyOne, Note.Asks])

/-- All that the coordinator says takes calls on sessions only. -/
theorem minds_obey (d : Desk (Session Unit)) (effects : List (Coordinator.Effect Host)) :
    Minds d ((d.obey effects).1, (d.obey effects).2.1) := by
  induction effects generalizing d with
  | nil => exact minds_notes (by simp [obey])
  | cons effect rest ih =>
    have hone := d.minds_obeyOne effect
    unfold obey
    generalize d.obeyOne effect = p at hone
    obtain ⟨d', notes, raised⟩ := p
    -- An error that a host raises is the end of it.
    cases raised with
    | some f => exact hone
    | none => exact hone.append (ih d')

/-- An event of the coordinator takes calls on sessions only. -/
theorem minds_coordinate (d : Desk (Session Unit)) (e : Coordinator.Event Host) :
    Minds d ((d.coordinate e).1, (d.coordinate e).2.1) :=
  .of_coordinator _ (minds_obey _ _)

/-- A delivered outcome takes calls on sessions only. -/
theorem minds_deliver (d : Desk (Session Unit)) (id : Nat) (o : Outcome) :
    Minds d (d.deliver id o) := by
  have hcoordinate := d.minds_coordinate (.deliver id o)
  unfold deliver
  generalize d.coordinate (.deliver id o) = p at hcoordinate
  obtain ⟨d', notes, raised⟩ := p
  cases raised with
  | none => exact hcoordinate
  | some f =>
    have hline (n : Note) (h : ∀ i, ¬ n.Asks i) : Minds d (d', notes ++ [n]) :=
      hcoordinate.append (minds_notes (by simpa using h))
    dsimp only
    split
    · exact hline _ fun _ => not_false
    · exact hline _ fun _ => not_false

/-- A call of `start` that returns takes calls on sessions only. -/
theorem minds_startReturned (d : Desk (Session Unit)) (id ticket : Nat)
    (result : Except Failure Unit) : Minds d (d.startReturned id ticket result) := by
  rcases result with (e | f) | u
  · exact (d.minds_coordinate (.spawnFailed id e)).append (minds_notes (by simp [Note.Asks]))
  · exact minds_notes (by simp [Note.Asks])
  · exact minds_notes (by simp [Note.Asks])

/-- The question that a desk passes on for a session. -/
def passedOn (id : Nat) : Session.Effect Unit → Option Note
  | .spawn ticket arguments directory environment =>
    some (.spawn id ticket arguments directory environment)
  | .arm reader limit => some (.arm id reader limit)
  | _ => none

/-- Seeing to the effects of a session, the desk passes on its questions and asks none of its
own. -/
theorem absorb_worked (d : Desk (Session Unit)) (id : Nat) (effects : List (Session.Effect Unit)) :
    Worked IsCall d (d.absorb id effects).1 ∧
      ∀ n ∈ (d.absorb id effects).2, ∀ i, n.Asks i → ∃ f ∈ effects, passedOn id f = some n := by
  induction effects generalizing d with
  | nil => exact ⟨worked_of_session? fun _ => rfl, by simp [absorb]⟩
  | cons f rest ih =>
    have hone : Worked IsCall d (d.absorbOne id f).1 ∧
        ∀ n ∈ (d.absorbOne id f).2, ∀ i, n.Asks i → passedOn id f = some n := by
      have hminds (p : Desk (Session Unit) × List Note) (h : Minds d p) :
          Worked IsCall d p.1 ∧ ∀ n ∈ p.2, ∀ i, n.Asks i → passedOn id f = some n :=
        ⟨h.sessions, fun n hn i hasks => absurd hasks (h.notes n hn i)⟩
      cases f with
      | spawn ticket arguments directory environment =>
        exact ⟨worked_of_session? fun _ => rfl, by simp [absorbOne, passedOn]⟩
      | arm reader limit => exact ⟨worked_of_session? fun _ => rfl, by simp [absorbOne, passedOn]⟩
      | log line => exact hminds _ (minds_notes (by simp [Note.Asks]))
      | called c o => exact hminds _ (d.minds_deliver id o)
      | returned ticket result => exact hminds _ (d.minds_startReturned id ticket result)
      | canceled b => exact hminds _ (minds_notes (by simp))
      | refused e => exact hminds _ (minds_notes (by simp))
    obtain ⟨hrest, hasked⟩ := ih (d.absorbOne id f).1
    rw [absorb_cons]
    refine ⟨hone.1.trans hrest, fun n hn i hasks => ?_⟩
    rcases List.mem_append.1 hn with hn | hn
    · exact ⟨f, by simp, hone.2 n hn i hasks⟩
    · obtain ⟨g, hg, hpassed⟩ := hasked n hn i hasks
      exact ⟨g, List.mem_cons_of_mem f hg, hpassed⟩

/-- An event of a session is that event and calls of the coordinator, and what the session asks at
this event is all that the system is asked. -/
theorem sessionStep_worked (d : Desk (Session Unit)) (id : Nat) (e : Session.Event Unit) :
    Worked (fun i e' => IsCall i e' ∨ i = id ∧ e' = e) d (d.sessionStep id e).1 ∧
      ∀ n ∈ (d.sessionStep id e).2, ∀ i, n.Asks i →
        i = id ∧ ∃ s, d.session? id = some s ∧ n.Fits id s e := by
  cases hs : d.session? id with
  | none =>
    rw [sessionStep_of_none hs]
    exact ⟨worked_of_session? fun _ => rfl, by simp⟩
  | some s =>
    obtain ⟨hworked, hasked⟩ := absorb_worked (d.raw id e).1 id (s.step e).2
    have hstep : d.sessionStep id e = (d.raw id e).1.absorb id (s.step e).2 := by
      rw [sessionStep, raw_of_session hs]
      rfl
    rw [hstep]
    refine ⟨(d.worked_raw (.inr ⟨rfl, rfl⟩)).trans (hworked.mono fun i e' => .inl), ?_⟩
    intro n hn i hasks
    obtain ⟨f, hf, hpassed⟩ := hasked n hn i hasks
    have hfits : f.Fits s e := s.step_fits e f hf
    cases f <;> cases hpassed <;> exact ⟨hasks.symm, s, rfl, rfl, hfits⟩

/-! ## What an event at the desk does to the session of a check -/

/-- Only where it is started or reads does a session ask for anything. -/
theorem not_asks_of_fits {id : Nat} {s : Session Unit} {e : Session.Event Unit} {n : Note}
    (h : n.Fits id s e) (hstart : ∀ ticket system, e ≠ .start ticket system)
    (hread : ∀ reader, e ≠ .read reader) (i : Nat) : ¬ n.Asks i := by
  cases n with
  | spawn _ ticket arguments directory environment =>
    obtain ⟨-, system, he, -⟩ := h
    exact absurd he (hstart ticket system)
  | arm _ reader limit => exact absurd h.2.1 (hread reader)
  | _ => exact not_false

/-- Calling back is the session's own doing, besides the calls of the coordinator. -/
theorem callBack_worked (d : Desk (Session Unit)) (id : Nat) :
    Worked (fun i e => IsCall i e ∨ i = id ∧ e = .call) d (d.callBack id).1 ∧
      ∀ n ∈ (d.callBack id).2, ∀ i, ¬ n.Asks i := by
  unfold callBack
  dsimp only
  generalize ((d.session? id).map fun s => s.calling.length).getD 0 = waiting
  induction waiting generalizing d with
  | zero => exact ⟨worked_of_session? fun _ => rfl, by simp⟩
  | succ waiting ih =>
    obtain ⟨hworked, hasked⟩ := d.sessionStep_worked id .call
    obtain ⟨hrest, hasked'⟩ := ih (d.sessionStep id .call).1
    rw [List.replicate_succ, Machine.run_cons]
    refine ⟨hworked.trans hrest, fun n hn i hasks => ?_⟩
    rcases List.mem_append.1 hn with hn | hn
    · obtain ⟨-, s, -, hfits⟩ := hasked n hn i hasks
      exact not_asks_of_fits hfits (by simp) (by simp) i hasks
    · exact hasked' n hn i hasks

/-- An occurrence at a session is that event, its callback, and calls of the coordinator. -/
theorem step_session_worked (d : Desk (Session Unit)) (id : Nat) (oc : Session.Occurrence) :
    Worked (fun i e => (IsCall i e ∨ e = .call) ∨ i = id ∧ e = oc.event) d
        (d.step (.session id oc)).1 ∧
      ∀ n ∈ (d.step (.session id oc)).2, ∀ i, n.Asks i →
        i = id ∧ ∃ s, d.session? id = some s ∧ n.Fits id s oc.event := by
  obtain ⟨hworked, hasked⟩ := d.sessionStep_worked id oc.event
  obtain ⟨hcalled, hquiet⟩ := (d.sessionStep id oc.event).1.callBack_worked id
  rw [step_session]
  refine ⟨(hworked.mono ?_).trans (hcalled.mono ?_), fun n hn i hasks => ?_⟩
  · exact fun i e he => he.imp_left .inl
  · exact fun i e he => .inl (he.imp_right And.right)
  · rcases List.mem_append.1 hn with hn | hn
    · exact hasked n hn i hasks
    · exact absurd hasks (hquiet n hn i)

/-- A request leaves the sessions of other checks to the coordinator, and makes and starts its
own. -/
theorem Sound.request_worked (h : Sound d) (system : System) (ticket : Nat) (text : Text)
    (host : Host) :
    (∀ id, id ≠ d.coordinator.nextId → ∃ es, (∀ e ∈ es, IsCall id e) ∧
      (d.step (.request system ticket text host)).1.session? id
        = (d.session? id).map fun s => (Machine.run Session.step s es).1) ∧
    (∃ es, (∀ e ∈ es, IsCall d.coordinator.nextId e ∨ e = .start ticket system) ∧
      (d.step (.request system ticket text host)).1.session? d.coordinator.nextId
        = some (Machine.run Session.step (d.newcomer text) es).1) ∧
    ∀ n ∈ (d.step (.request system ticket text host)).2, ∀ i, n.Asks i →
      i = d.coordinator.nextId ∧ n.Fits i (d.newcomer text) (.start ticket system) := by
  -- A request cancels what is there, accepts the newcomer and starts it, in this order. Only the
  -- first may concern other sessions.
  obtain ⟨hturns, hcoordinator⟩ := h.cancel_turns
  have hsound : Sound d.cancel.1 := h.turns hturns
  have hcanceled : Minds d (d.cancel.1, d.cancel.2.2) := d.minds_cancel
  have hnext : d.cancel.1.coordinator.nextId = d.coordinator.nextId := by rw [hcoordinator]
  have hnewcomer : d.cancel.1.newcomer text = d.newcomer text := by
    rw [newcomer, newcomer, hcoordinator]
  have haccepted := session?_accepted hsound.requested text host (d.newcomer text)
  obtain ⟨hstarted, hasked⟩ := (d.cancel.1.accepted text host (d.newcomer text)).sessionStep_worked
    d.coordinator.nextId (.start ticket system)
  have hrequest := request_eq d hsound.requested system ticket text host
  rw [hnext, hnewcomer] at hrequest
  rw [hnext] at haccepted
  rw [Desk.step, hrequest]
  refine ⟨fun id hid => ?_, ?_, fun n hn i hasks => ?_⟩
  · obtain ⟨es, hes, hcancel⟩ := hcanceled.sessions id
    obtain ⟨es', hes', hstart⟩ := hstarted id
    refine ⟨es ++ es', fun e he => ?_, ?_⟩
    · rcases List.mem_append.1 he with he | he
      · exact hes e he
      · exact (hes' e he).resolve_right fun hown => hid hown.1
    · rw [hstart, haccepted, if_neg hid, hcancel, Option.map_map]
      congr 1
      funext s
      simp [Machine.run_append]
  · obtain ⟨es, hes, hstart⟩ := hstarted d.coordinator.nextId
    refine ⟨es, fun e he => (hes e he).imp_right And.right, ?_⟩
    rw [hstart, haccepted, if_pos rfl, Option.map_some]
  · rcases List.mem_append.1 hn with hn | hn
    · exact absurd hasks (hcanceled.notes n hn i)
    · obtain ⟨hi, s, hs, hfits⟩ := hasked n hn i hasks
      rw [haccepted, if_pos rfl] at hs
      obtain rfl : d.newcomer text = s := Option.some.inj hs
      exact ⟨hi, hi ▸ hfits⟩

/-- An event at the desk has the session of a check go on by itself. Processes come to it as the
desk is told, and it asks for what it was made for. -/
theorem Sound.step_check (h : Sound d) {id : Nat} {s : Session Unit} (hs : d.session? id = some s)
    (x : Event) :
    (∃ es, (d.step x).1.session? id = some (Machine.run Session.step s es).1 ∧
      ∀ ticket child, .spawned ticket child ∈ es → x = .session id (.spawned ticket child)) ∧
    ∀ n ∈ (d.step x).2, n.Asks id → ∃ oc : Session.Occurrence, n.Fits id s oc.event := by
  -- What is neither told of a process nor asks comes from the coordinator alone.
  have hcalls {d' : Desk (Session Unit)} {notes : List Note} (hminds : Minds d (d', notes)) :
      (∃ es, d'.session? id = some (Machine.run Session.step s es).1 ∧
        ∀ ticket child, .spawned ticket child ∈ es → x = .session id (.spawned ticket child)) ∧
      ∀ n ∈ notes, n.Asks id → ∃ oc : Session.Occurrence, n.Fits id s oc.event := by
    obtain ⟨es, hes, heq⟩ := hminds.sessions id
    refine ⟨⟨es, by rw [heq, hs]; rfl, fun ticket child hmem => ?_⟩, fun n hn hasks => ?_⟩
    · rcases hes _ hmem with he | he <;> cases he
    · exact absurd hasks (hminds.notes n hn id)
  cases x with
  | cancel => exact hcalls d.minds_cancel
  | configure settings =>
    exact hcalls (.of_coordinator { d.coordinator with settings }
      (minds_notes fun _ hn => absurd hn List.not_mem_nil))
  | request system ticket text host =>
    have hid : id ≠ d.coordinator.nextId := Nat.ne_of_lt (h.requested id s hs).1
    obtain ⟨hothers, -, hasked⟩ := h.request_worked system ticket text host
    obtain ⟨es, hes, heq⟩ := hothers id hid
    refine ⟨⟨es, by rw [heq, hs]; rfl, fun ticket child hmem => ?_⟩, fun n hn hasks => ?_⟩
    · rcases hes _ hmem with he | he <;> cases he
    · exact absurd (hasked n hn id hasks).1 hid
  | session i oc =>
    obtain ⟨hworked, hasked⟩ := d.step_session_worked i oc
    obtain ⟨es, hes, heq⟩ := hworked id
    refine ⟨⟨es, by rw [heq, hs]; rfl, fun ticket child hmem => ?_⟩, fun n hn hasks => ?_⟩
    · rcases hes _ hmem with ((he | he) | he) | ⟨rfl, he⟩
      · cases he
      · cases he
      · cases he
      · cases oc <;> cases he
        rfl
    · obtain ⟨rfl, s', hs', hfits⟩ := hasked n hn id hasks
      obtain rfl : s = s' := Option.some.inj (hs.symm.trans hs')
      exact ⟨oc, hfits⟩

/-- Sessions come by requests only. -/
theorem Sound.session_of_step (h : Sound d) (x : Event) {id : Nat} {s' : Session Unit}
    (hs : (d.step x).1.session? id = some s') :
    (∃ s, d.session? id = some s) ∨
      ∃ system ticket text host, x = .request system ticket text host ∧
        id = d.coordinator.nextId := by
  have hworked {allowed : Nat → Session.Event Unit → Prop} (h : Worked allowed d (d.step x).1) :
      ∃ s, d.session? id = some s := by
    obtain ⟨es, -, heq⟩ := h id
    rw [heq, Option.map_eq_some_iff] at hs
    obtain ⟨s, hs, -⟩ := hs
    exact ⟨s, hs⟩
  cases x with
  | cancel => exact .inl (hworked d.minds_cancel.sessions)
  | configure settings => exact .inl ⟨s', hs⟩
  | session i oc => exact .inl (hworked (d.step_session_worked i oc).1)
  | request system ticket text host =>
    by_cases hid : id = d.coordinator.nextId
    · exact .inr ⟨system, ticket, text, host, rfl, hid⟩
    · obtain ⟨hothers, -, -⟩ := h.request_worked system ticket text host
      obtain ⟨es, -, heq⟩ := hothers id hid
      rw [heq, Option.map_eq_some_iff] at hs
      obtain ⟨s, hs, -⟩ := hs
      exact .inl ⟨s, hs⟩

/-- Whoever asks has a session at the desk. -/
theorem Sound.step_known (h : Sound d) (x : Event) :
    ∀ n ∈ (d.step x).2, ∀ i, n.Asks i → ∃ s, (d.step x).1.session? i = some s := by
  intro n hn i hasks
  have hkept (hs : ∃ s, d.session? i = some s) : ∃ s, (d.step x).1.session? i = some s := by
    obtain ⟨s, hs⟩ := hs
    obtain ⟨⟨es, heq, -⟩, -⟩ := h.step_check hs x
    exact ⟨_, heq⟩
  cases x with
  | cancel => exact absurd hasks (d.minds_cancel.notes n hn i)
  | configure settings => exact absurd hn List.not_mem_nil
  | request system ticket text host =>
    obtain ⟨-, ⟨es, -, heq⟩, hasked⟩ := h.request_worked system ticket text host
    rw [(hasked n hn i hasks).1]
    exact ⟨_, heq⟩
  | session id oc =>
    obtain ⟨rfl, s, hs, -⟩ := (d.step_session_worked id oc).2 n hn i hasks
    exact hkept ⟨s, hs⟩

/-! ## Runs of a desk -/

/-- Through a run of the desk the session of a check goes on by itself. Processes come to it as the
desk was told, and it asks for what it was made for. -/
theorem Sound.run_check (h : Sound d) {id : Nat} {s : Session Unit} (hs : d.session? id = some s)
    (xs : List Event) :
    (∃ es, (Machine.run Desk.step d xs).1.session? id = some (Machine.run Session.step s es).1 ∧
      ∀ ticket child, .spawned ticket child ∈ es → .session id (.spawned ticket child) ∈ xs) ∧
    ∀ n ∈ (Machine.run Desk.step d xs).2, n.Asks id →
      ∃ s' : Session Unit, s.Kept s' ∧ ∃ oc : Session.Occurrence, n.Fits id s' oc.event := by
  induction xs generalizing d s with
  | nil => exact ⟨⟨[], hs, by simp⟩, by simp⟩
  | cons x xs ih =>
    obtain ⟨⟨es, hstep, hcame⟩, hasked⟩ := h.step_check hs x
    obtain ⟨⟨es', hrun, hcame'⟩, hasked'⟩ := ih (h.step x) hstep
    rw [Machine.run_cons]
    refine ⟨⟨es ++ es', by rw [hrun, Machine.run_append], fun ticket child hmem => ?_⟩,
      fun n hn hasks => ?_⟩
    · rcases List.mem_append.1 hmem with hmem | hmem
      · rw [hcame ticket child hmem]
        exact List.mem_cons_self
      · exact List.mem_cons_of_mem x (hcame' ticket child hmem)
    · rcases List.mem_append.1 hn with hn | hn
      · exact ⟨s, .refl s, hasked n hn hasks⟩
      · obtain ⟨s', hkept, hfits⟩ := hasked' n hn hasks
        exact ⟨s', (s.run_kept es).trans hkept, hfits⟩

/-- A session of a desk was made by a request. -/
theorem request_of_session (settings : Settings) (parser : OutputParser) (channel : Channel)
    (xs : List Event) {id : Nat} {s : Session Unit}
    (hs : (Machine.run step (opened settings parser channel) xs).1.session? id = some s) :
    ∃ first system ticket text host rest,
      xs = first ++ .request system ticket text host :: rest ∧
        id = (Machine.run step (opened settings parser channel) first).1.coordinator.nextId := by
  have hopened : ¬ ∃ s, (opened settings parser channel).session? id = some s := by
    rintro ⟨s, hs⟩
    cases hs
  obtain ⟨first, x, rest, rfl, hbefore, s', hs'⟩ :=
    Machine.exists_event_of_run (P := fun d : Desk (Session Unit) => ∃ s, d.session? id = some s)
      hopened ⟨s, hs⟩
  have hsound := sound_run settings parser channel first
  rcases hsound.session_of_step x hs' with hknown | ⟨system, ticket, text, host, rfl, hid⟩
  · exact absurd hknown hbefore
  · exact ⟨first, system, ticket, text, host, rest, rfl, hid⟩

/-- Nothing is asked for a check that is not requested yet. -/
theorem Sound.run_known (h : Sound d) (xs : List Event) :
    ∀ n ∈ (Machine.run Desk.step d xs).2, ∀ i, n.Asks i →
      i < (Machine.run Desk.step d xs).1.coordinator.nextId := by
  induction xs generalizing d with
  | nil => simp
  | cons x xs ih =>
    intro n hn i hasks
    rw [Machine.run_cons] at hn ⊢
    rcases List.mem_append.1 hn with hn | hn
    · obtain ⟨s, hs⟩ := h.step_known x n hn i hasks
      obtain ⟨⟨es, hrun, -⟩, -⟩ := (h.step x).run_check hs xs
      have hsound : Sound (Machine.run Desk.step (d.step x).1 xs).1 :=
        Machine.run_invariant (fun _ e h => h.step e) (h.step x) xs
      exact (hsound.requested i _ hrun).1
    · exact ih (h.step x) n hn i hasks

end Desk

end LiveLint
