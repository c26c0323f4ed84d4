import LiveLint.Coordinator.Desk
import LiveLint.Machine
import LiveLint.Proofs.Session.Driven

/-!
# Desks as machines

A desk whose sessions are driven by its coordinator, the system and their own tasks is a machine
(`Desk.step`). A session that ends calls its callback at once, as no task runs in between.

What the desk does for its coordinator and for its sessions is stated here once, in terms of the
session with a number: which session is put in its place, whether the slot is emptied, and what a
host is told.
-/

namespace LiveLint

/-- A host is told something. -/
def Note.isTold : Note → Bool
  | .told .. => true
  | _ => false

/-- A host is told something about a check. -/
def Note.isFor (id : Nat) : Note → Bool
  | .told i _ _ => i == id
  | _ => false

namespace Desk

/-- What happens at a desk. -/
inductive Event where
  | request (system : System) (ticket : Nat) (text : Text) (host : Host)
  | cancel
  | configure (s : Settings)
  | session (id : Nat) (oc : Session.Occurrence)

/-- A desk at which nothing was requested yet. -/
def opened (settings : Settings) (parser : OutputParser) (channel : Channel) :
    Desk (Session Unit) :=
  { coordinator := { settings, parser }, channel }

/-- The callbacks of a session that has ended are called. -/
def callBack (d : Desk (Session Unit)) (id : Nat) : Desk (Session Unit) × List Note :=
  let waiting := ((d.session? id).map fun s => s.calling.length).getD 0
  Machine.run (fun d => d.sessionStep id) d (List.replicate waiting .call)

/-- One event. -/
def step (d : Desk (Session Unit)) : Event → Desk (Session Unit) × List Note
  | .request system ticket text host => d.request Session.make system ticket text host
  | .cancel => (d.cancel.1, d.cancel.2.2)
  | .configure s => ({ d with coordinator := (d.coordinator.step (.configure s)).1 }, [])
  | .session id oc =>
    let (d, notes) := d.sessionStep id oc.event
    let (d, more) := d.callBack id
    (d, notes ++ more)

/-! ## Sessions by their numbers -/

section

variable {σ : Type}

/-- The session that is put in place is the one found under its number. -/
theorem session?_put_self {d : Desk σ} {id : Nat} {s s' : σ} (h : d.session? id = some s) :
    (d.put id s').session? id = some s' := by
  -- The search goes by the number alone, which a change leaves as it is.
  have hput (p : Nat × σ) :
      ((fun q : Nat × σ => q.1 == id) ∘ fun p => if p.1 = id then (id, s') else p) p
        = (p.1 == id) := by
    by_cases hid : p.1 = id <;> simp [hid]
  simp only [session?, Option.map_eq_some_iff] at h
  obtain ⟨p, hp, -⟩ := h
  have hid : p.1 = id := by simpa using List.find?_some hp
  simp only [session?, put, List.find?_map]
  rw [funext hput, hp]
  simp [hid]

/-- Other sessions are found as before. -/
theorem session?_put_ne {d : Desk σ} {id id' : Nat} {s' : σ} (h : id' ≠ id) :
    (d.put id s').session? id' = d.session? id' := by
  have hput (p : Nat × σ) :
      ((fun q : Nat × σ => q.1 == id') ∘ fun p => if p.1 = id then (id, s') else p) p
        = (p.1 == id') := by
    by_cases hid : p.1 = id <;> simp [hid]
  simp only [session?, put, List.find?_map]
  rw [funext hput]
  cases hfind : d.sessions.find? fun p => p.1 == id' with
  | none => rfl
  | some p =>
    have hid : p.1 = id' := by simpa using List.find?_some hfind
    simp [hid, h]

/-- A session that is found after a change is the changed one, or was there before. -/
theorem session?_put_cases {d : Desk σ} {id i : Nat} {s s' t : σ} (hs : d.session? id = some s)
    (ht : (d.put id s').session? i = some t) : i = id ∧ t = s' ∨ i ≠ id ∧ d.session? i = some t := by
  by_cases hid : i = id
  · rw [hid, session?_put_self hs] at ht
    exact .inl ⟨hid, (Option.some.inj ht).symm⟩
  · exact .inr ⟨hid, session?_put_ne hid ▸ ht⟩

/-- Changing a session takes none away. -/
theorem exists_session?_put {d : Desk σ} {id i : Nat} {t : σ} (s : σ) (ht : d.session? i = some t) :
    ∃ t', (d.put id s).session? i = some t' := by
  by_cases hid : i = id
  · subst hid
    exact ⟨s, session?_put_self ht⟩
  · exact ⟨t, (session?_put_ne hid).trans ht⟩

/-- Of two sessions put in one place the second stays. -/
theorem put_put (d : Desk σ) (id : Nat) (s s' : σ) : (d.put id s).put id s' = d.put id s' := by
  simp only [put, List.map_map]
  congr 1
  refine List.map_congr_left fun p _ => ?_
  by_cases hid : p.1 = id <;> simp [hid]

/-- Putting a session in place changes no numbers. -/
theorem ids_put (d : Desk σ) (id : Nat) (s : σ) :
    (d.put id s).sessions.map Prod.fst = d.sessions.map Prod.fst := by
  simp only [put, List.map_map]
  refine List.map_congr_left fun p _ => ?_
  by_cases hid : p.1 = id <;> simp [hid]

/-- A session with a new number comes last. -/
theorem session?_append {d : Desk σ} {id : Nat} (hnew : d.session? id = none) (s : σ) (id' : Nat) :
    ({ d with sessions := d.sessions ++ [(id, s)] } : Desk σ).session? id'
      = if id' = id then some s else d.session? id' := by
  by_cases hid : id' = id
  · subst hid
    have hnone : d.sessions.find? (fun p => p.1 == id') = none := by
      simpa [session?] using hnew
    simp [session?, List.find?_append, hnone]
  · have hne : (id == id') = false := by simpa using Ne.symm hid
    simp [session?, List.find?_append, hid, hne]

/-- A session that is found under a number is one of the sessions of the desk. -/
theorem mem_of_session? {d : Desk σ} {id : Nat} {s : σ} (h : d.session? id = some s) :
    (id, s) ∈ d.sessions := by
  simp only [session?, Option.map_eq_some_iff] at h
  obtain ⟨p, hp, rfl⟩ := h
  have hid : p.1 = id := by simpa using List.find?_some hp
  exact hid ▸ List.mem_of_find?_eq_some hp

/-- Under the number of a session a session is found, if perhaps an earlier one. -/
theorem exists_session?_of_mem {d : Desk σ} {p : Nat × σ} (h : p ∈ d.sessions) :
    ∃ s, d.session? p.1 = some s := by
  have hfound : (d.sessions.find? fun q => q.1 == p.1).isSome :=
    List.find?_isSome.2 ⟨p, h, beq_self_eq_true _⟩
  obtain ⟨q, hq⟩ := Option.isSome_iff_exists.1 hfound
  exact ⟨q.2, by rw [session?, hq]; rfl⟩

/-- With increasing numbers every session is the one of its number. -/
theorem session?_of_mem {d : Desk σ} (hincreasing : (d.sessions.map Prod.fst).Pairwise (· < ·))
    {id : Nat} {s : σ} (h : (id, s) ∈ d.sessions) : d.session? id = some s := by
  unfold session?
  induction hsessions : d.sessions generalizing d with
  | nil => simp [hsessions] at h
  | cons p rest ih =>
    rw [hsessions] at h hincreasing
    rw [List.map_cons, List.pairwise_cons] at hincreasing
    rcases List.mem_cons.1 h with rfl | hrest
    · simp
    · have hlt : p.1 < id := hincreasing.1 id (List.mem_map.2 ⟨_, hrest, rfl⟩)
      rw [List.find?_cons_of_neg (by simpa using Nat.ne_of_lt hlt)]
      exact ih (d := { d with sessions := rest }) hincreasing.2 hrest rfl

end

/-! ## What the desk does for the coordinator -/

/-- Nobody is told anything by these notes. -/
def Silent (notes : List Note) : Prop := ∀ n ∈ notes, n.isTold = false

theorem silent_nil : Silent [] := by simp [Silent]

/-- Silence goes on through both parts. -/
theorem Silent.append {first rest : List Note} (h : Silent first) (hrest : Silent rest) :
    Silent (first ++ rest) := fun n hn =>
  (List.mem_append.1 hn).elim (h n) (hrest n)

/-- Lines in the log tell no host anything. -/
theorem silent_logs (lines : List LogLine) : Silent (lines.map .log) := by
  simp [Silent, Note.isTold]

/-- Among silent notes nothing is told. -/
theorem Silent.filter_isTold {notes : List Note} (h : Silent notes) :
    notes.filter Note.isTold = [] :=
  List.filter_eq_nil_iff.2 fun n hn => by simp [h n hn]

/-- How the host of a check is told the verdict, when it finds the coordinator in a state. -/
def reply (found : CheckState) (channel : Channel) (id : Nat) (host : Host) : Verdict → List Note
  | .found ds => [.told id found (tell host ds)]
  | .failed e => [.told id found (tellFailure channel host e)]
  | .broken _ => []

/-- The session in the slot is over, and the slot is empty. -/
def retire {σ : Type} (d : Desk σ) (id : Nat) (s : σ) : Desk σ :=
  { d.put id s with coordinator := { d.coordinator with slot := none } }

/-- A session that is retired does not depend on what was in its place. -/
theorem retire_put {σ : Type} (d : Desk σ) (id : Nat) (s s' : σ) :
    (d.put id s).retire id s' = d.retire id s' := by
  rw [retire, put_put]
  rfl

section

variable {σ : Type} [LintSession σ]

/-- A step of a session that is there puts the new session in its place. -/
theorem raw_of_session {d : Desk σ} {id : Nat} {s : σ} (h : d.session? id = some s)
    (e : Session.Event Unit) :
    d.raw id e = (d.put id (LintSession.step s e).1, (LintSession.step s e).2) := by
  simp [raw, h]

/-- Nothing happens where there is no session. -/
theorem sessionStep_of_none {d : Desk σ} {id : Nat} (h : d.session? id = none)
    (e : Session.Event Unit) : d.sessionStep id e = (d, []) := by
  simp [sessionStep, raw, h, absorb]

/-- What the coordinator says is done one thing after the other, as long as nothing is raised. -/
theorem obey_cons {d d' : Desk σ} {effect : Coordinator.Effect Host} {notes : List Note}
    (h : d.obeyOne effect = (d', notes, none)) (rest : List (Coordinator.Effect Host)) :
    d.obey (effect :: rest)
      = ((d'.obey rest).1, notes ++ (d'.obey rest).2.1, (d'.obey rest).2.2) := by
  simp [obey, h]

/-- Lines in the log change nothing at the desk. -/
theorem obey_logs (d : Desk σ) (lines : List LogLine) (rest : List (Coordinator.Effect Host)) :
    d.obey (lines.map .log ++ rest)
      = ((d.obey rest).1, lines.map .log ++ (d.obey rest).2.1, (d.obey rest).2.2) := by
  induction lines with
  | nil => simp
  | cons line lines ih =>
    rw [List.map_cons, List.cons_append, obey_cons (by rfl), ih]
    rfl

/-- What follows from a verdict leaves the desk as it is, and tells the host once at most. -/
theorem obey_announce (d : Desk σ) (id : Nat) (host : Host) (v : Verdict) :
    (d.obey (Coordinator.announce id host v)).1 = d ∧
      (d.obey (Coordinator.announce id host v)).2.1.filter Note.isTold
        = reply d.coordinator.state d.channel id host v := by
  cases v with
  | found ds =>
    cases hraised : raisedBy host <;>
      simp [Coordinator.announce, Coordinator.note, obey, obeyOne, hraised, reply, Note.isTold]
  | failed e =>
    simp [Coordinator.announce, Coordinator.fail, Coordinator.note, obey, obeyOne, reply,
      Note.isTold]
  | broken f => simp [Coordinator.announce, obey, obeyOne, reply]

end

/-- Judging an outcome leaves lines in the log only. -/
theorem exists_judgeLog (o : Outcome) :
    ∃ lines : List LogLine,
      (Coordinator.judgeLog o : List (Coordinator.Effect Host)) = lines.map .log := by
  unfold Coordinator.judgeLog
  split
  · exact ⟨_, rfl⟩
  · exact ⟨[], rfl⟩

variable {d : Desk (Session Unit)}

/-- Releasing a session puts the released one in its place. -/
theorem release_of_session {id : Nat} {s : Session Unit} (h : d.session? id = some s) :
    d.release id = d.put id s.release := by
  rw [release, raw_of_session h]
  rfl

/-- With the slot emptied and the session released, the check is over. -/
theorem obeyOne_release {id : Nat} {s : Session Unit} (h : d.session? id = some s) :
    ({ d with coordinator := { d.coordinator with slot := none } } : Desk _).obeyOne (.release id)
      = (d.retire id s.release, [], none) := by
  have hs : ({ d with coordinator := { d.coordinator with slot := none } } : Desk _).session? id
      = some s := h
  rw [obeyOne, release_of_session hs]
  rfl

/-- A session that ends while it is in the slot has its host told the verdict, and the host finds
the coordinator idle. -/
theorem deliver_of_slot {id : Nat} {s : Session Unit} {r : Request Host}
    (hs : d.session? id = some s) (hrequest : d.coordinator.request? id = some r)
    (hslot : d.coordinator.slot = some id) (o : Outcome) :
    (d.deliver id o).1 = d.retire id s.release ∧
      (d.deliver id o).2.filter Note.isTold
        = reply .idle d.channel id r.host (r.judge d.coordinator.parser o) := by
  obtain ⟨lines, hlines⟩ := exists_judgeLog o
  have hcoordinate : (d.coordinate (.deliver id o)).1 = d.retire id s.release ∧
      (d.coordinate (.deliver id o)).2.1.filter Note.isTold
        = reply .idle d.channel id r.host (r.judge d.coordinator.parser o) := by
    obtain ⟨hdesk, htold⟩ := obey_announce (d.retire id s.release) id r.host
      (r.judge d.coordinator.parser o)
    simp only [coordinate, Coordinator.step, Coordinator.deliver, hrequest, hslot, if_true, hlines,
      List.cons_append]
    rw [obey_cons (obeyOne_release hs), obey_logs, hdesk]
    refine ⟨rfl, ?_⟩
    rw [List.nil_append, List.filter_append, (silent_logs lines).filter_isTold, htold]
    rfl
  unfold deliver
  generalize d.coordinate (.deliver id o) = p at hcoordinate
  obtain ⟨d', notes, raised⟩ := p
  obtain ⟨hdesk, htold⟩ := hcoordinate
  -- An error that the host raises is logged, and says nothing to a host.
  cases raised with
  | none => exact ⟨hdesk, htold⟩
  | some f =>
    cases hline : (d'.session? id).bind LintSession.raisedLine? <;>
      simpa [hline, Note.isTold] using And.intro hdesk htold

/-- So does a session that cannot be started. -/
theorem spawnFailed_of_slot {id : Nat} {s : Session Unit} {r : Request Host}
    (hs : d.session? id = some s) (hrequest : d.coordinator.request? id = some r)
    (hslot : d.coordinator.slot = some id) (e : LintError) :
    (d.coordinate (.spawnFailed id e)).1 = d.retire id s.release ∧
      (d.coordinate (.spawnFailed id e)).2.1.filter Note.isTold
        = reply .idle d.channel id r.host (.failed e) := by
  obtain ⟨hdesk, htold⟩ := obey_announce (d.retire id s.release) id r.host (.failed e)
  simp only [coordinate, Coordinator.step, Coordinator.spawnFailed, hrequest, hslot, if_true]
  rw [obey_cons (obeyOne_release hs)]
  exact ⟨hdesk, htold⟩

/-- The host of a check that was given up is not told that its session cannot be started. -/
theorem spawnFailed_of_ne_slot {id : Nat} {r : Request Host}
    (hrequest : d.coordinator.request? id = some r) (hslot : d.coordinator.slot ≠ some id)
    (e : LintError) :
    (d.coordinate (.spawnFailed id e)).1 = d ∧ Silent (d.coordinate (.spawnFailed id e)).2.1 := by
  simp [coordinate, Coordinator.step, Coordinator.spawnFailed, hrequest, hslot, Coordinator.note,
    obey, obeyOne, Silent, Note.isTold]

/-! ## What the desk does for a session -/

/-- A quiet effect of a session neither changes the desk nor tells anybody anything. -/
theorem absorbOne_quiet (d : Desk (Session Unit)) (id : Nat) {e : Session.Effect Unit}
    (h : e.isQuiet) : (d.absorbOne id e).1 = d ∧ Silent (d.absorbOne id e).2 := by
  cases e with
  | called c o => cases h
  | returned ticket result =>
    rcases result with (e | f) | u
    · cases h
    all_goals simp [absorbOne, startReturned, Silent, Note.isTold]
  | _ => simp [absorbOne, Silent, Note.isTold]

/-- The effects of a session are dealt with one after the other. -/
theorem absorb_cons (d : Desk (Session Unit)) (id : Nat) (e : Session.Effect Unit)
    (rest : List (Session.Effect Unit)) :
    d.absorb id (e :: rest)
      = (((d.absorbOne id e).1.absorb id rest).1,
          (d.absorbOne id e).2 ++ ((d.absorbOne id e).1.absorb id rest).2) := rfl

/-- Quiet effects of a session neither change the desk nor tell anybody anything. -/
theorem absorb_quiet (d : Desk (Session Unit)) (id : Nat) {effects : List (Session.Effect Unit)}
    (h : ∀ e ∈ effects, e.isQuiet) :
    (d.absorb id effects).1 = d ∧ Silent (d.absorb id effects).2 := by
  induction effects with
  | nil => exact ⟨rfl, silent_nil⟩
  | cons e rest ih =>
    obtain ⟨hdesk, hsilent⟩ := d.absorbOne_quiet id (h e (by simp))
    obtain ⟨hrest, hsilent'⟩ := ih fun e he => h e (by simp [he])
    rw [absorb_cons, hdesk]
    exact ⟨hrest, hsilent.append hsilent'⟩

/-- A step of a session changes the session first, and then its effects are dealt with. -/
theorem sessionStep_of_session {id : Nat} {s s' : Session Unit} {e : Session.Event Unit}
    {effects : List (Session.Effect Unit)} (hs : d.session? id = some s)
    (hstep : s.step e = (s', effects)) :
    d.sessionStep id e = (d.put id s').absorb id effects := by
  rw [sessionStep, raw_of_session hs]
  change (d.put id (s.step e).1).absorb id (s.step e).2 = _
  rw [hstep]

/-- Nobody is called back where there is no session. -/
theorem callBack_of_none {id : Nat} (h : d.session? id = none) : d.callBack id = (d, []) := by
  simp [callBack, h]

/-- Nobody is called back where no callback waits. -/
theorem callBack_of_calling_nil {id : Nat} {s : Session Unit} (hs : d.session? id = some s)
    (h : s.calling = []) : d.callBack id = (d, []) := by
  simp [callBack, hs, h]

/-- Where one callback waits, calling back is delivering once. -/
theorem callBack_of_calling {id : Nat} {s : Session Unit} {o : Outcome} (hs : d.session? id = some s)
    (h : s.calling = [((), o)]) :
    d.callBack id = (d.put id { s with calling := [] }).deliver id o := by
  have hstep : s.step .call = ({ s with calling := [] }, [.called () o]) := by
    simp [Session.step, Session.callNext, h]
  simp only [callBack, hs, h, Option.map_some, Option.getD_some, List.length_singleton,
    List.replicate_one, Machine.run, sessionStep_of_session hs hstep, absorbOne, absorb,
    List.append_nil]

/-- A session in the slot that has ended calls back, and its host is told the verdict. -/
theorem callBack_of_slot {id : Nat} {s : Session Unit} {r : Request Host} {o : Outcome}
    (hs : d.session? id = some s) (hrequest : d.coordinator.request? id = some r)
    (hslot : d.coordinator.slot = some id) (hcalling : s.calling = [((), o)]) :
    (d.callBack id).1 = d.retire id (Session.release { s with calling := [] }) ∧
      (d.callBack id).2.filter Note.isTold
        = reply .idle d.channel id r.host (r.judge d.coordinator.parser o) := by
  obtain ⟨hdesk, htold⟩ := deliver_of_slot (d := d.put id { s with calling := [] })
    (session?_put_self hs) hrequest hslot o
  rw [callBack_of_calling hs hcalling, hdesk, retire_put]
  exact ⟨rfl, htold⟩

/-- The lines that a session logs tell no host anything. -/
theorem silent_logsOf (effects : List (Session.Effect Unit)) : Silent (logsOf effects) := by
  intro n hn
  obtain ⟨e, -, he⟩ := List.mem_filterMap.1 hn
  split at he
  · cases he
    rfl
  · cases he

/-- There is nothing to cancel while the slot is empty. -/
theorem cancel_of_empty (hslot : d.coordinator.slot = none) : d.cancel = (d, false, []) := by
  simp [cancel, Coordinator.step, hslot]

/-- Canceling empties the slot and dismisses the session that was in it. -/
theorem cancel_of_slot {id : Nat} (hslot : d.coordinator.slot = some id) :
    d.cancel
      = ({ d with coordinator := { d.coordinator with slot := none } } : Desk _).dismiss id := by
  simp [cancel, Coordinator.step, hslot]

/-- A session that is dismissed is canceled and released, and nobody is told. -/
theorem dismiss_of_session {id : Nat} {s : Session Unit} (hs : d.session? id = some s) :
    (d.dismiss id).1 = d.put id s.cancel.1.release ∧ Silent (d.dismiss id).2.2 := by
  have hcanceled : (d.put id s.cancel.1).session? id = some s.cancel.1 := session?_put_self hs
  have hraw : d.raw id .cancel = (d.put id s.cancel.1, s.cancel.2) := raw_of_session hs .cancel
  simp only [dismiss, hraw, release_of_session hcanceled, put_put, true_and]
  refine (silent_logsOf _).append ?_
  split
  · simp [Silent, Note.isTold]
  · exact silent_nil

end Desk

end LiveLint
