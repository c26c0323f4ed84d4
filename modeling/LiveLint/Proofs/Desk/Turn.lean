import LiveLint.Proofs.Desk.Effects

/-!
# What an event does at a desk

An event does a few turns. In a turn a session goes on, or settles and has its host told, or is
given up, or a new one is accepted (`Turn`). The state of a desk between two turns is `Sound`: the
session in the slot is the newest and the only one that has not ended.
-/

namespace LiveLint

namespace Desk

variable {d : Desk (Session Unit)}

/-! ## Sound desks -/

/-- Every session is that of a request that was accepted. -/
def Filed (d : Desk (Session Unit)) : Prop :=
  ∀ id s, d.session? id = some s →
    id < d.coordinator.nextId ∧ ∃ r, d.coordinator.request? id = some r

/-- What holds of a desk between two events. -/
structure Sound (d : Desk (Session Unit)) : Prop where
  increasing : (d.sessions.map Prod.fst).Pairwise (· < ·)
  requested : Filed d
  newest : ∀ id, d.coordinator.slot = some id →
    id + 1 = d.coordinator.nextId ∧ ∃ s, d.session? id = some s
  driven : ∀ id s, d.session? id = some s → s.Driven ∧ s.checkId = some (id : Int)
  current : ∀ id s, d.session? id = some s →
    (s.status.isTerminal = false ↔ d.coordinator.slot = some id)

/-- A desk that has accepted a request, with the session of its check. -/
def accepted (d : Desk (Session Unit)) (text : Text) (host : Host) (s : Session Unit) :
    Desk (Session Unit) :=
  { d with
    coordinator := (d.coordinator.step (.accept text host)).1
    sessions := d.sessions ++ [(d.coordinator.nextId, s)] }

/-- What happens at a desk at once. -/
inductive Turn (d : Desk (Session Unit)) : Desk (Session Unit) × List Note → Prop
  | configures (s : Settings) :
    Turn d ({ d with coordinator := { d.coordinator with settings := s } }, [])
  | accepts (text : Text) (host : Host) {s : Session Unit} (hslot : d.coordinator.slot = none)
      (hdriven : s.Driven) (hcheck : s.checkId = some (d.coordinator.nextId : Int))
      (hpending : s.status = .pending) : Turn d (d.accepted text host s, [])
  | goes {id : Nat} {s s' : Session Unit} {notes : List Note} (hs : d.session? id = some s)
      (h : s.GoesOn s') (hsilent : Silent notes) : Turn d (d.put id s', notes)
  /-- The session in the slot is given up. -/
  | dismisses {id : Nat} {s s' : Session Unit} {notes : List Note} (hs : d.session? id = some s)
      (hslot : d.coordinator.slot = some id) (hdriven : s'.Driven)
      (hcheck : s'.checkId = s.checkId) (hcanceled : s'.status = .canceled)
      (hsilent : Silent notes) : Turn d (d.retire id s', notes)
  /-- The session in the slot is done, and its host is told the verdict. -/
  | settles {id : Nat} {s s' : Session Unit} {o : Outcome} {r : Request Host} {notes : List Note}
      (hs : d.session? id = some s) (hslot : d.coordinator.slot = some id)
      (hrequest : d.coordinator.request? id = some r) (h : s.IsDone s' o)
      (htold : notes.filter Note.isTold
        = reply .idle d.channel id r.host (r.judge d.coordinator.parser o)) :
    Turn d (d.retire id s', notes)

/-- What happens at a desk in several turns. -/
inductive Turns : Desk (Session Unit) → Desk (Session Unit) × List Note → Prop
  | done (d : Desk (Session Unit)) : Turns d (d, [])
  | next {d d' d'' : Desk (Session Unit)} {notes more : List Note} (h : Turn d (d', notes))
      (hrest : Turns d' (d'', more)) : Turns d (d'', notes ++ more)

/-- One turn is a way of several. -/
theorem Turn.turns {p : Desk (Session Unit) × List Note} (h : Turn d p) : Turns d p := by
  simpa using Turns.next h (.done _)

/-- Turns can be made one after the other. -/
theorem Turns.append {d' d'' : Desk (Session Unit)} {notes more : List Note}
    (h : Turns d (d', notes)) (hrest : Turns d' (d'', more)) : Turns d (d'', notes ++ more) := by
  -- The pair has to be a variable for the induction to go over the turns.
  generalize hp : (d', notes) = p at h
  induction h generalizing d' notes with
  | done d =>
    cases hp
    exact hrest
  | next hturn _ ih =>
    cases hp
    rw [List.append_assoc]
    exact .next hturn (ih hrest rfl)

/-- At a new desk there is nothing that could be out of order. -/
theorem sound_opened (settings : Settings) (parser : OutputParser) (channel : Channel) :
    Sound (opened settings parser channel) where
  increasing := .nil
  requested _ _ h := by cases h
  newest _ h := by cases h
  driven _ _ h := by cases h
  current _ _ h := by cases h

/-- The session in the slot has not ended. -/
theorem Sound.open_of_slot (h : Sound d) {id : Nat} {s : Session Unit}
    (hs : d.session? id = some s) (hslot : d.coordinator.slot = some id) :
    s.status.isTerminal = false := (h.current id s hs).2 hslot

/-- Putting a session in place keeps all sessions filed. -/
theorem Filed.put (h : Filed d) {id : Nat} {s : Session Unit} (hs : d.session? id = some s)
    (s' : Session Unit) : Filed (d.put id s') := by
  intro i t ht
  rcases session?_put_cases hs ht with ⟨rfl, -⟩ | ⟨-, ht⟩
  · exact h i s hs
  · exact h i t ht

/-- A session that goes on keeps the desk sound. -/
theorem Sound.put (h : Sound d) {id : Nat} {s s' : Session Unit} (hs : d.session? id = some s)
    (hon : s.GoesOn s') : Sound (d.put id s') := by
  refine ⟨by rw [ids_put]; exact h.increasing, h.requested.put hs s', fun i hslot => ?_,
    fun i t ht => ?_, fun i t ht => ?_⟩
  · obtain ⟨hnext, t, ht⟩ := h.newest i hslot
    exact ⟨hnext, exists_session?_put s' ht⟩
  · rcases session?_put_cases hs ht with ⟨rfl, rfl⟩ | ⟨-, ht⟩
    · exact ⟨hon.driven, hon.checkId.trans (h.driven i s hs).2⟩
    · exact h.driven i t ht
  · rcases session?_put_cases hs ht with ⟨rfl, rfl⟩ | ⟨-, ht⟩
    · rw [hon.terminal]
      exact h.current i s hs
    · exact h.current i t ht

/-- A session that leaves the slot has ended. -/
theorem Sound.retire (h : Sound d) {id : Nat} {s s' : Session Unit} (hs : d.session? id = some s)
    (hslot : d.coordinator.slot = some id) (hdriven : s'.Driven) (hcheck : s'.checkId = s.checkId)
    (hterminal : s'.status.isTerminal) : Sound (d.retire id s') := by
  refine ⟨by rw [Desk.retire, ids_put]; exact h.increasing, h.requested.put hs s', fun i hnone => ?_,
    fun i t ht => ?_, fun i t ht => ?_⟩
  · cases hnone
  · rcases session?_put_cases hs ht with ⟨rfl, rfl⟩ | ⟨-, ht⟩
    · exact ⟨hdriven, hcheck.trans (h.driven i s hs).2⟩
    · exact h.driven i t ht
  · rcases session?_put_cases hs ht with ⟨rfl, rfl⟩ | ⟨hid, ht⟩
    · simp [Desk.retire, hterminal]
    · -- Only the session in the slot has not ended, and this is another one.
      have hother : d.coordinator.slot ≠ some i := by
        rw [hslot]
        exact fun heq => hid (Option.some.inj heq).symm
      simp [Desk.retire, (h.current i t ht).not.2 hother]

/-- There is no session yet under the number that comes next. -/
theorem Filed.session?_nextId (h : Filed d) : d.session? d.coordinator.nextId = none := by
  cases hs : d.session? d.coordinator.nextId with
  | none => rfl
  | some s => exact absurd (h _ s hs).1 (Nat.lt_irrefl _)

/-- The numbers of sessions are below the one that comes next. -/
theorem Filed.lt_of_mem (h : Filed d) {p : Nat × Session Unit} (hmem : p ∈ d.sessions) :
    p.1 < d.coordinator.nextId := by
  obtain ⟨s, hs⟩ := exists_session?_of_mem hmem
  exact (h p.1 s hs).1

/-- An accepted request adds its own session to those that were there. -/
theorem session?_accepted (h : Filed d) (text : Text) (host : Host) (s : Session Unit) (id : Nat) :
    (d.accepted text host s).session? id
      = if id = d.coordinator.nextId then some s else d.session? id :=
  session?_append h.session?_nextId s id

/-- The session of an accepted request is found under its number. -/
theorem session?_accepted_self (h : Filed d) (text : Text) (host : Host) (s : Session Unit) :
    (d.accepted text host s).session? d.coordinator.nextId = some s := by
  rw [session?_accepted h, if_pos rfl]

/-- The session of an accepted request can be put in place at once. -/
theorem put_accepted (h : Filed d) (text : Text) (host : Host) (s s' : Session Unit) :
    (d.accepted text host s).put d.coordinator.nextId s' = d.accepted text host s' := by
  have hsame : d.sessions.map
      (fun p => if p.1 = d.coordinator.nextId then (d.coordinator.nextId, s') else p)
        = d.sessions := by
    rw [List.map_congr_left fun p hp => if_neg (Nat.ne_of_lt (h.lt_of_mem hp)), List.map_id']
  simp [accepted, Desk.put, hsame]

/-- An accepted request is added to those that were made. -/
theorem request?_accepted (text : Text) (host : Host) (s : Session Unit) (id : Nat) :
    (d.accepted text host s).coordinator.request? id
      = if id = d.coordinator.nextId then
          some ⟨text, d.coordinator.settings.offsetUnit, host⟩
        else d.coordinator.request? id := by
  by_cases hid : id = d.coordinator.nextId
  · simp [accepted, Coordinator.step, Coordinator.request?, hid]
  · have hne : (d.coordinator.nextId == id) = false := by simpa using Ne.symm hid
    simp [accepted, Coordinator.step, Coordinator.request?, hid, hne]

/-- An accepted request is found under its number. -/
theorem request?_accepted_self (text : Text) (host : Host) (s : Session Unit) :
    (d.accepted text host s).coordinator.request? d.coordinator.nextId
      = some ⟨text, d.coordinator.settings.offsetUnit, host⟩ := by
  rw [request?_accepted, if_pos rfl]

/-- An accepted request keeps all sessions filed. -/
theorem Filed.accepted (h : Filed d) (text : Text) (host : Host) (s : Session Unit) :
    Filed (d.accepted text host s) := by
  intro i t ht
  rw [session?_accepted h] at ht
  rw [request?_accepted]
  by_cases hid : i = d.coordinator.nextId
  · rw [if_pos hid]
    exact ⟨hid ▸ Nat.lt_succ_self _, _, rfl⟩
  · rw [if_neg hid] at ht ⊢
    obtain ⟨hlt, hrequest⟩ := h i t ht
    exact ⟨Nat.lt_succ_of_lt hlt, hrequest⟩

/-- The session of an accepted request is the newest, and the only one that has not ended. -/
theorem Sound.accepted (h : Sound d) (hslot : d.coordinator.slot = none) (text : Text) (host : Host)
    {s : Session Unit} (hdriven : s.Driven)
    (hcheck : s.checkId = some (d.coordinator.nextId : Int)) (hpending : s.status = .pending) :
    Sound (d.accepted text host s) := by
  -- A session of the desk is now the newcomer or one of before.
  have hcase {i : Nat} {t : Session Unit} (ht : (d.accepted text host s).session? i = some t) :
      i = d.coordinator.nextId ∧ t = s ∨ i ≠ d.coordinator.nextId ∧ d.session? i = some t := by
    rw [session?_accepted h.requested] at ht
    by_cases hid : i = d.coordinator.nextId
    · rw [if_pos hid] at ht
      exact .inl ⟨hid, (Option.some.inj ht).symm⟩
    · rw [if_neg hid] at ht
      exact .inr ⟨hid, ht⟩
  refine ⟨?_, h.requested.accepted text host s, fun i hnew => ?_, fun i t ht => ?_, fun i t ht => ?_⟩
  · rw [show (d.accepted text host s).sessions = d.sessions ++ [(d.coordinator.nextId, s)] from rfl,
      List.map_append, List.pairwise_append]
    refine ⟨h.increasing, List.pairwise_singleton _ _, fun a ha b hb => ?_⟩
    obtain ⟨p, hp, rfl⟩ := List.mem_map.1 ha
    rw [List.map_singleton, List.mem_singleton] at hb
    rw [hb]
    exact h.requested.lt_of_mem hp
  · obtain rfl : d.coordinator.nextId = i := Option.some.inj hnew
    exact ⟨rfl, s, session?_accepted_self h.requested text host s⟩
  · rcases hcase ht with ⟨rfl, rfl⟩ | ⟨-, ht⟩
    · exact ⟨hdriven, hcheck⟩
    · exact h.driven i t ht
  · change _ ↔ some d.coordinator.nextId = some i
    rcases hcase ht with ⟨rfl, rfl⟩ | ⟨hid, ht⟩
    · simp [hpending, Status.isTerminal]
    · have hended := (h.current i t ht).not.2 (by simp [hslot])
      simp [hended, Ne.symm hid]

/-- A turn keeps the desk sound. -/
theorem Sound.turn {p : Desk (Session Unit) × List Note} (h : Sound d) (hturn : Turn d p) :
    Sound p.1 := by
  cases hturn with
  | configures s => exact ⟨h.increasing, h.requested, h.newest, h.driven, h.current⟩
  | accepts text host hslot hdriven hcheck hpending =>
    exact h.accepted hslot text host hdriven hcheck hpending
  | goes hs hon hsilent => exact h.put hs hon
  | dismisses hs hslot hdriven hcheck hcanceled hsilent =>
    exact h.retire hs hslot hdriven hcheck (by rw [hcanceled]; rfl)
  | settles hs hslot hrequest hdone htold =>
    exact h.retire hs hslot hdone.driven hdone.checkId hdone.terminal

/-- Turns keep the desk sound. -/
theorem Sound.turns {p : Desk (Session Unit) × List Note} (h : Sound d) (hturns : Turns d p) :
    Sound p.1 := by
  induction hturns with
  | done d => exact h
  | next hturn _ ih => exact ih (h.turn hturn)

/-- A desk and what it is later: no check is forgotten, and hosts are told as ever. -/
structure Later (d d' : Desk (Session Unit)) : Prop where
  channel : d'.channel = d.channel
  parser : d'.coordinator.parser = d.coordinator.parser
  ids : d.sessions.map Prod.fst <+: d'.sessions.map Prod.fst
  check : ∀ id s r, d.session? id = some s → d.coordinator.request? id = some r →
    (∃ s', d'.session? id = some s') ∧ d'.coordinator.request? id = some r

/-- A desk has forgotten nothing of itself. -/
theorem Later.refl (d : Desk (Session Unit)) : Later d d :=
  ⟨rfl, rfl, List.prefix_rfl, fun _ s _ hs hrequest => ⟨⟨s, hs⟩, hrequest⟩⟩

/-- What is later than something later is later. -/
theorem Later.trans {d' d'' : Desk (Session Unit)} (h : Later d d') (hrest : Later d' d'') :
    Later d d'' where
  channel := hrest.channel.trans h.channel
  parser := hrest.parser.trans h.parser
  ids := h.ids.trans hrest.ids
  check id s r hs hrequest := by
    obtain ⟨⟨s', hs'⟩, hrequest'⟩ := h.check id s r hs hrequest
    exact hrest.check id s' r hs' hrequest'

/-- Putting a session in place forgets no check. -/
theorem later_put (d : Desk (Session Unit)) (id : Nat) (s : Session Unit) :
    Later d (d.put id s) where
  channel := rfl
  parser := rfl
  ids := by simp only [ids_put, List.prefix_rfl]
  check _ _ _ ht hrequest := ⟨exists_session?_put s ht, hrequest⟩

/-- Retiring a session forgets no check. -/
theorem later_retire (d : Desk (Session Unit)) (id : Nat) (s : Session Unit) :
    Later d (d.retire id s) :=
  ⟨rfl, rfl, (later_put d id s).ids, (later_put d id s).check⟩

/-- Accepting a request forgets no check. -/
theorem Sound.later_accepted (h : Sound d) (text : Text) (host : Host) (s : Session Unit) :
    Later d (d.accepted text host s) where
  channel := rfl
  parser := rfl
  ids := by
    rw [Desk.accepted, List.map_append]
    exact List.prefix_append _ _
  check id t r ht hrequest := by
    have hid : id ≠ d.coordinator.nextId := Nat.ne_of_lt (h.requested id t ht).1
    rw [session?_accepted h.requested, request?_accepted, if_neg hid, if_neg hid]
    exact ⟨⟨t, ht⟩, hrequest⟩

/-- No turn forgets a check. -/
theorem Turn.later (h : Sound d) {p : Desk (Session Unit) × List Note} (hturn : Turn d p) :
    Later d p.1 := by
  cases hturn with
  | configures s => exact ⟨rfl, rfl, List.prefix_rfl, (Later.refl d).check⟩
  | accepts text host hslot hdriven hcheck hpending => exact h.later_accepted text host _
  | goes hs hon hsilent => exact later_put d _ _
  | dismisses hs hslot hdriven hcheck hcanceled hsilent => exact later_retire d _ _
  | settles hs hslot hrequest hdone htold => exact later_retire d _ _

/-- Turns forget no check. -/
theorem Turns.later (h : Sound d) {p : Desk (Session Unit) × List Note} (hturns : Turns d p) :
    Later d p.1 := by
  induction hturns with
  | done d => exact .refl d
  | next hturn _ ih => exact (hturn.later h).trans (ih (h.turn hturn))

/-! ## The turns of an event -/

/-- What occurs at a session is a step of it, and then its callbacks are called. -/
theorem step_session (d : Desk (Session Unit)) (id : Nat) (oc : Session.Occurrence) :
    d.step (.session id oc)
      = (((d.sessionStep id oc.event).1.callBack id).1,
          (d.sessionStep id oc.event).2 ++ ((d.sessionStep id oc.event).1.callBack id).2) := rfl

/-- The coordinator hears of a session that could not be started, and the request returns
nothing. -/
theorem absorb_failure (d : Desk (Session Unit)) (id ticket : Nat) (e : LintError) :
    d.absorb id [.returned ticket (.error (.lint e))]
      = ((d.coordinate (.spawnFailed id e)).1,
          (d.coordinate (.spawnFailed id e)).2.1 ++ [.returned ticket (.ok none)]) := by
  simp [absorb, absorbOne, startReturned]

/-- A session in the slot that cannot be started leaves it, and its host is told. -/
theorem sessionStep_fails_of_slot {id ticket : Nat} {s s' : Session Unit}
    {e : Session.Event Unit} {r : Request Host} {error : LintError} (hs : d.session? id = some s)
    (hrequest : d.coordinator.request? id = some r) (hslot : d.coordinator.slot = some id)
    (hstep : s.step e = (s', [.returned ticket (.error (.lint error))])) :
    d.sessionStep id e
        = (d.retire id s'.release,
            ((d.put id s').coordinate (.spawnFailed id error)).2.1
              ++ [.returned ticket (.ok none)]) ∧
      (d.sessionStep id e).2.filter Note.isTold
        = reply .idle d.channel id r.host (.failed error) := by
  obtain ⟨hdesk, htold⟩ := spawnFailed_of_slot (d := d.put id s') (session?_put_self hs) hrequest
    hslot error
  rw [sessionStep_of_session hs hstep, absorb_failure, hdesk, retire_put]
  refine ⟨rfl, ?_⟩
  rw [List.filter_append, htold]
  exact List.append_nil _

/-- One that is not in the slot fails to start without a word to a host. -/
theorem sessionStep_fails_of_ne_slot {id ticket : Nat} {s s' : Session Unit}
    {e : Session.Event Unit} {r : Request Host} {error : LintError} (hs : d.session? id = some s)
    (hrequest : d.coordinator.request? id = some r) (hslot : d.coordinator.slot ≠ some id)
    (hstep : s.step e = (s', [.returned ticket (.error (.lint error))])) :
    d.sessionStep id e
        = (d.put id s', ((d.put id s').coordinate (.spawnFailed id error)).2.1
            ++ [.returned ticket (.ok none)]) ∧
      Silent (d.sessionStep id e).2 := by
  obtain ⟨hdesk, hsilent⟩ := spawnFailed_of_ne_slot (d := d.put id s') hrequest hslot error
  rw [sessionStep_of_session hs hstep, absorb_failure, hdesk]
  exact ⟨rfl, hsilent.append (by simp [Silent, Note.isTold])⟩

/-- A session goes on without a word to a host. -/
theorem sessionStep_goes {id : Nat} {s s' : Session Unit} {e : Session.Event Unit}
    {effects : List (Session.Effect Unit)} (hs : d.session? id = some s)
    (hstep : s.step e = (s', effects)) (hquiet : ∀ e ∈ effects, e.isQuiet) :
    ∃ notes, d.sessionStep id e = (d.put id s', notes) ∧ Silent notes := by
  obtain ⟨hdesk, hsilent⟩ := (d.put id s').absorb_quiet id hquiet
  rw [sessionStep_of_session hs hstep]
  exact ⟨_, Prod.ext hdesk rfl, hsilent⟩

/-- So does one that was given up and cannot be started. -/
theorem Sound.sessionStep_failsLate (h : Sound d) {id ticket : Nat} {s s' : Session Unit}
    {e : Session.Event Unit} {error : LintError} (hs : d.session? id = some s)
    (hstep : s.step e = (s', [.returned ticket (.error (.lint error))]))
    (hcanceled : s.status = .canceled) :
    ∃ notes, d.sessionStep id e = (d.put id s', notes) ∧ Silent notes := by
  obtain ⟨-, r, hrequest⟩ := h.requested id s hs
  have hslot : d.coordinator.slot ≠ some id :=
    (h.current id s hs).not.1 (by simp [hcanceled, Status.isTerminal])
  obtain ⟨heq, hsilent⟩ := sessionStep_fails_of_ne_slot hs hrequest hslot hstep
  rw [heq] at hsilent
  exact ⟨_, heq, hsilent⟩

/-- A session that cannot be started settles. -/
theorem Sound.sessionStep_fails (h : Sound d) {id ticket : Nat} {s s' : Session Unit}
    {e : Session.Event Unit} {error : LintError} (hs : d.session? id = some s)
    (hstep : s.step e = (s', [.returned ticket (.error (.lint error))]))
    (hopen : s.status.isTerminal = false)
    (hdone : s.IsDone s'.release { status := .failed, error := some error }) :
    ∃ notes, d.sessionStep id e = (d.retire id s'.release, notes) ∧
      Turn d (d.retire id s'.release, notes) := by
  obtain ⟨-, r, hrequest⟩ := h.requested id s hs
  have hslot : d.coordinator.slot = some id := (h.current id s hs).1 hopen
  obtain ⟨heq, htold⟩ := sessionStep_fails_of_slot hs hrequest hslot hstep
  rw [heq] at htold
  exact ⟨_, heq, .settles hs hslot hrequest hdone htold⟩

/-- What a failed session does not keep has no part in the verdict. -/
theorem judge_blank {r : Request Host} {parser : OutputParser} {o : Outcome}
    (h : o.status ≠ .completed) : r.judge parser o.blank = r.judge parser o := by
  simp [Request.judge, Outcome.blank, h]

/-- A session that has ended calls back, and settles. -/
theorem Sound.callBack_settles (h : Sound d) {id : Nat} {s s' : Session Unit} {o kept : Outcome}
    (hs : d.session? id = some s) (hopen : s.status.isTerminal = false)
    (hcalling : s'.calling = [((), o)])
    (hkept : kept = o ∨ o.status = .failed ∧ kept = o.blank)
    (hdone : s.IsDone (Session.release { s' with calling := [] }) kept) {notes : List Note}
    (hsilent : Silent notes) :
    Turn d (((d.put id s').callBack id).1, notes ++ ((d.put id s').callBack id).2) := by
  obtain ⟨-, r, hrequest⟩ := h.requested id s hs
  have hslot : d.coordinator.slot = some id := (h.current id s hs).1 hopen
  obtain ⟨hdesk, htold⟩ := callBack_of_slot (d := d.put id s') (session?_put_self hs) hrequest hslot
    hcalling
  -- The coordinator judges the outcome it was given, not the one that the session keeps.
  have hverdict : r.judge d.coordinator.parser kept = r.judge d.coordinator.parser o := by
    rcases hkept with rfl | ⟨hfailed, rfl⟩
    · rfl
    · exact judge_blank (by simp [hfailed])
  rw [hdesk, retire_put]
  refine .settles hs hslot hrequest hdone ?_
  rw [List.filter_append, hsilent.filter_isTold, htold, hverdict]
  rfl

/-- What occurs at a session happens in turns. -/
theorem Sound.session_turns (h : Sound d) (id : Nat) (oc : Session.Occurrence) :
    Turns d (d.step (.session id oc)) := by
  rw [step_session]
  cases hs : d.session? id with
  | none =>
    rw [sessionStep_of_none hs, callBack_of_none hs]
    exact .done d
  | some s =>
    have hsilently {s' : Session Unit} (hon : s.GoesOn s')
        (hnotes : ∃ notes, d.sessionStep id oc.event = (d.put id s', notes) ∧ Silent notes) :
        Turns d (((d.sessionStep id oc.event).1.callBack id).1,
          (d.sessionStep id oc.event).2 ++ ((d.sessionStep id oc.event).1.callBack id).2) := by
      obtain ⟨notes, heq, hsilent⟩ := hnotes
      rw [heq, callBack_of_calling_nil (session?_put_self hs) hon.driven.calling, List.append_nil]
      exact (Turn.goes hs hon hsilent).turns
    -- Only an open session can fail or end, and an open session is the one in the slot.
    have hadvances := (h.driven id s hs).1.advances oc
    generalize hstep : s.step oc.event = p at hadvances
    cases hadvances with
    | goes hon hquiet => exact hsilently hon (sessionStep_goes hs hstep hquiet)
    | failsLate ticket e hcanceled hon =>
      exact hsilently hon (h.sessionStep_failsLate hs hstep hcanceled)
    | @fails s' ticket e hopen hdone =>
      obtain ⟨notes, heq, hturn⟩ := h.sessionStep_fails hs hstep hopen hdone
      have hs' : (d.retire id s'.release).session? id = some s'.release := session?_put_self hs
      rw [heq, callBack_of_calling_nil hs' hdone.driven.calling, List.append_nil]
      exact hturn.turns
    | ends line hopen hcalling hkept hdone =>
      rw [sessionStep_of_session hs hstep]
      exact (h.callBack_settles hs hopen hcalling hkept hdone (silent_logs [line])).turns

/-- Giving up the check under way leaves the slot empty, and the coordinator as it is otherwise. -/
theorem Sound.cancel_turns (h : Sound d) :
    Turns d (d.cancel.1, d.cancel.2.2) ∧
      d.cancel.1.coordinator = { d.coordinator with slot := none } := by
  cases hslot : d.coordinator.slot with
  | none =>
    rw [cancel_of_empty hslot, ← hslot]
    exact ⟨.done d, rfl⟩
  | some id =>
    obtain ⟨-, s, hs⟩ := h.newest id hslot
    have hopen := h.open_of_slot hs hslot
    obtain ⟨hdriven, hcanceled, hcheck⟩ := (h.driven id s hs).1.cancel hopen
    have hterminal : s.cancel.1.status.isTerminal := by rw [hcanceled]; rfl
    obtain ⟨hdesk, hsilent⟩ := dismiss_of_session
      (d := { d with coordinator := { d.coordinator with slot := none } }) hs
    rw [cancel_of_slot hslot, hdesk]
    refine ⟨Turn.turns (.dismisses hs hslot (hdriven.release hterminal) ?_ ?_ hsilent), rfl⟩
    · rw [Session.release_checkId, hcheck]
    · rw [Session.release_status, hcanceled]

/-- The session that listens for the next check. -/
def newcomer (d : Desk (Session Unit)) (text : Text) : Session Unit :=
  .listening d.coordinator.settings.command text (.ofSettings d.coordinator.settings)
    d.coordinator.nextId

/-- The callback is registered with the new session. -/
theorem sessionStep_onComplete (h : Filed d) (text : Text) (host : Host) :
    (d.accepted text host (Session.make d.coordinator.settings.command text
        (.ofSettings d.coordinator.settings) d.coordinator.nextId)).sessionStep
          d.coordinator.nextId (.onComplete ()) = (d.accepted text host (d.newcomer text), []) := by
  generalize hmade : Session.make d.coordinator.settings.command text
    (.ofSettings d.coordinator.settings) d.coordinator.nextId = made
  have hs := session?_accepted_self h text host made
  have hstep : made.step (.onComplete ()) = (d.newcomer text, []) := by
    rw [← hmade]
    rfl
  rw [sessionStep_of_session hs hstep, put_accepted h]
  rfl

/-- A request gives up the check under way, begins its own and starts the session. -/
theorem request_eq (d : Desk (Session Unit)) (h : Filed d.cancel.1) (system : System) (ticket : Nat)
    (text : Text) (host : Host) :
    let started := (d.cancel.1.accepted text host (d.cancel.1.newcomer text)).sessionStep
      d.cancel.1.coordinator.nextId (.start ticket system)
    d.request Session.make system ticket text host = (started.1, d.cancel.2.2 ++ started.2) := by
  intro started
  have hrequest : d.request Session.make system ticket text host
      = (let registered := (d.cancel.1.accepted text host
            (Session.make d.cancel.1.coordinator.settings.command text
              (.ofSettings d.cancel.1.coordinator.settings) d.cancel.1.coordinator.nextId)).sessionStep
                d.cancel.1.coordinator.nextId (.onComplete ())
          let started := registered.1.sessionStep d.cancel.1.coordinator.nextId
            (.start ticket system)
          (started.1, d.cancel.2.2 ++ registered.2 ++ started.2)) := rfl
  rw [hrequest, sessionStep_onComplete h]
  simp only [List.append_nil, started]

/-- A request gets the next number, and a session. -/
theorem Sound.request_turns (h : Sound d) (system : System) (ticket : Nat) (text : Text)
    (host : Host) :
    Turns d (d.step (.request system ticket text host)) ∧
      (d.step (.request system ticket text host)).1.coordinator.request? d.coordinator.nextId
        = some ⟨text, d.coordinator.settings.offsetUnit, host⟩ ∧
      ∃ s, (d.step (.request system ticket text host)).1.session? d.coordinator.nextId = some s := by
  obtain ⟨hcanceled, hcoordinator⟩ := h.cancel_turns
  have hstarted := request_eq d (h.turns hcanceled).requested system ticket text host
  have hnext : d.coordinator.nextId = d.cancel.1.coordinator.nextId := by rw [hcoordinator]
  have hunit : d.coordinator.settings = d.cancel.1.coordinator.settings := by rw [hcoordinator]
  have hslot : d.cancel.1.coordinator.slot = none := by rw [hcoordinator]
  -- From here on only the desk that has given up its check matters.
  rw [hnext, hunit, Desk.step, hstarted]
  have hsound : Sound d.cancel.1 := h.turns hcanceled
  generalize d.cancel.1 = idle at hcanceled hslot hsound
  have hdriven : (idle.newcomer text).Driven := Session.driven_listening _ _ _ _
  have haccepts : Turn idle (idle.accepted text host (idle.newcomer text), []) :=
    .accepts text host hslot hdriven rfl rfl
  have hrequest := request?_accepted_self (d := idle) text host (idle.newcomer text)
  have hs := session?_accepted_self hsound.requested text host (idle.newcomer text)
  rcases hdriven.start_cases (Session.started_listening 0 _ _ _ _) ticket system with
    ⟨s', effects, hstep, hon, hquiet⟩ | ⟨s', e, hstep, hopen, hdone⟩
  · obtain ⟨notes, heq, hsilent⟩ := sessionStep_goes hs hstep hquiet
    rw [heq]
    exact ⟨hcanceled.append (.next haccepts (Turn.goes hs hon hsilent).turns), hrequest, s',
      session?_put_self hs⟩
  · obtain ⟨notes, heq, hturn⟩ := (hsound.turn haccepts).sessionStep_fails hs hstep hopen hdone
    rw [heq]
    exact ⟨hcanceled.append (.next haccepts hturn.turns), hrequest, s'.release,
      session?_put_self hs⟩

/-- Every event at a sound desk is a few turns. -/
theorem Sound.step_turns (h : Sound d) (e : Event) : Turns d (d.step e) := by
  cases e with
  | request system ticket text host => exact (h.request_turns system ticket text host).1
  | cancel => exact h.cancel_turns.1
  | configure s => exact (Turn.configures s).turns
  | session id oc => exact h.session_turns id oc

/-- An event keeps the desk sound. -/
theorem Sound.step (h : Sound d) (e : Event) : Sound (d.step e).1 := h.turns (h.step_turns e)

/-- Whatever happens forgets no check. -/
theorem Sound.later_run (h : Sound d) (es : List Event) :
    Later d (Machine.run Desk.step d es).1 := by
  induction es generalizing d with
  | nil => exact .refl d
  | cons e es ih => exact ((h.step_turns e).later h).trans (ih (h.step e))

/-- A desk is sound, whatever has happened since it was opened. -/
theorem sound_run (settings : Settings) (parser : OutputParser) (channel : Channel)
    (es : List Event) : Sound (Machine.run step (opened settings parser channel) es).1 :=
  Machine.run_invariant (fun _ e h => h.step e) (sound_opened settings parser channel) es

end Desk

end LiveLint
