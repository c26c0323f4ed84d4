import Mathlib.Logic.Relation
import LiveLint.Proofs.Desk.Turn
import LiveLint.Proofs.Session.Release

/-!
# Sessions that hosts hold

A request returns the session of its check, and whoever holds it may cancel or release it without
asking the coordinator. A session is then no longer `Driven`; what remains true of it is that it is
alive, with the coordinator waiting for its end, or dropped (`Lent`). The coordinator empties the
slot whenever it drops a session itself, but is not told when a host does (`Shift`). So the slot
holds a dropped session exactly if a host has dropped it there
(`checking_iff_alive_unless_meddled`).
-/

namespace LiveLint

namespace Session

/-- The session has not ended, and its coordinator waits to be told of its end. -/
structure Alive (s : Session Unit) : Prop where
  underway : s.status.isTerminal = false
  listens : s.callbacks = [()]
  unreleased : s.released = false

/-- What holds, between two events, of a session that a coordinator has started and hosts hold. -/
structure Lent (s : Session Unit) : Prop where
  sole : Sole s
  calling : s.calling = []
  fate : Alive s ∨ Dropped s

/-- A session that is alive was not dropped. -/
theorem Alive.not_dropped {s : Session Unit} (h : Alive s) : ¬ Dropped s := by
  rintro ⟨hreleased, -⟩
  rw [h.unreleased] at hreleased
  cases hreleased

/-- What becomes of a lent session that does not end. -/
inductive Fares (s : Session Unit) : Step Unit → Prop
  | goes {s' : Session Unit} {effects : List (Effect Unit)} (hlent : Lent s')
      (hreleased : s'.released = s.released) (hquiet : ∀ f ∈ effects, f.isQuiet) :
    Fares s (s', effects)
  /-- There is no process for it; its coordinator releases it if it is alive. -/
  | fails {s' : Session Unit} (ticket : Nat) (e : LintError) (hlent : Lent s'.release)
      (hdropped : Dropped s → Lent s') (hreleased : s'.released = s.released) :
    Fares s (s', [.returned ticket (.error (.lint e))])

/-- A session that is alive ends, and its coordinator is told and releases it. -/
inductive Closes (s : Session Unit) : Step Unit → Prop
  | ends {s' : Session Unit} {o : Outcome} (line : LogLine) (halive : Alive s)
      (hcalling : s'.calling = [((), o)]) (hlent : Lent (release { s' with calling := [] })) :
    Closes s (s', [.log line])

/-! ## Lent sessions -/

/-- A release by its coordinator, or by anybody else, leaves a session lent. -/
theorem lent_release {s : Session Unit} (hsole : Sole s) (hcalling : s.calling = [])
    (hcallbacks : s.released → s.callbacks = []) : Lent s.release where
  sole := hsole.step .release id
  calling := by rw [release_calling, hcalling]
  fate := .inr (dropped_release hcallbacks)

/-- A lent session that was released calls nobody back. -/
theorem Lent.callbacks_of_released {s : Session Unit} (h : Lent s) (hreleased : s.released) :
    s.callbacks = [] := by
  rcases h.fate with halive | hdropped
  · rw [halive.unreleased] at hreleased
    cases hreleased
  · exact hdropped.callbacks

/-- A lent session that was released is dropped. -/
theorem Lent.dropped_of_released {s : Session Unit} (h : Lent s) (hreleased : s.released) :
    Dropped s := ⟨hreleased, h.callbacks_of_released hreleased⟩

/-- Releasing a lent session drops it, and it can go on being held. -/
theorem Lent.release {s : Session Unit} (h : Lent s) : Lent s.release ∧ Dropped s.release :=
  ⟨lent_release h.sole h.calling h.callbacks_of_released, dropped_release h.callbacks_of_released⟩

/-- Canceling a lent session drops it, and it can go on being held. -/
theorem Lent.cancel {s : Session Unit} (h : Lent s) : Lent s.cancel.1 ∧ Dropped s.cancel.1 := by
  have hsole : Sole s.cancel.1 := h.sole.step .cancel id
  suffices hdropped : Dropped s.cancel.1 ∧ s.cancel.1.calling = [] from
    ⟨⟨hsole, hdropped.2, .inr hdropped.1⟩, hdropped.1⟩
  rcases h.fate with halive | hdropped
  · rw [cancel_of_open halive.underway]
    exact ⟨dropped_release h.callbacks_of_released, by rw [release_calling]; exact h.calling⟩
  · obtain ⟨hkept, htold⟩ := hdropped.step .cancel
    rw [h.calling] at htold
    exact ⟨hkept, (List.append_eq_nil_iff.1 htold).2⟩

/-- What occurs at a session does not release it. -/
theorem released_of_occurrence (s : Session Unit) (oc : Occurrence) :
    (s.step oc.event).1.released = s.released := by
  have hturnover := s.step_turnover oc.event
  generalize s.step oc.event = p at hturnover
  cases hturnover with
  | keeps haudience => exact haudience.released
  | late child haudience => exact haudience.released
  | begins child hgets haudience => exact haudience.released
  | fails error hpending haudience => exact haudience.released
  | ends he hopen hfits hself hgrip hreleased => exact hreleased
  | registers => rfl
  | answers => rfl
  | calls => rfl
  | cancels he => cases oc <;> cases he
  | releases he => cases oc <;> cases he

/-- What an occurrence does to a lent session. -/
theorem Lent.occurs {s : Session Unit} (h : Lent s) (oc : Occurrence) :
    Fares s (s.step oc.event) ∨ Closes s (s.step oc.event) := by
  have hoccurs := Session.occurs s oc
  have hreleased := s.released_of_occurrence oc
  have hsole : Sole (s.step oc.event).1 := h.sole.step oc.event (by cases oc <;> exact id)
  rcases h.fate with halive | hdropped
  · -- The one callback of a session that is alive is kept until the session ends.
    generalize s.step oc.event = p at hoccurs hreleased hsole
    cases hoccurs with
    | tended htended hquiet =>
      refine .inl (.goes ⟨hsole, htended.calling.trans h.calling, .inl ⟨?_, ?_, ?_⟩⟩ hreleased
        hquiet)
      · rw [htended.status, halive.underway]
      · rw [htended.callbacks, halive.listens]
      · rw [hreleased, halive.unreleased]
    | late child line hcanceled =>
      exact absurd halive.underway (not_terminal_of_canceled hcanceled)
    | begins ticket child line hopen hwaiting hframe hstatus =>
      refine .inl (.goes ⟨hsole, hframe.calling.trans h.calling, .inl ⟨?_, ?_, ?_⟩⟩ hreleased
        (by simp [Effect.isQuiet]))
      · rw [hstatus]
        rfl
      · rw [hframe.callbacks, halive.listens]
      · rw [hreleased, halive.unreleased]
    | fails ticket e hpending hframe =>
      refine .inl (.fails ticket e (lent_release hsole (hframe.calling.trans h.calling) ?_)
        (fun hdropped => absurd hdropped halive.not_dropped) hreleased)
      rw [hreleased, halive.unreleased]
      exact fun hnot => absurd hnot Bool.false_ne_true
    | failsLate ticket e hgone hwaiting =>
      -- Only a session in its first state, or a canceled one, has a call that waits.
      rcases h.sole.started.waiting (Nat.le_refl 1) hwaiting with hpending | hcanceled
      · exact absurd hpending hgone
      · exact absurd halive.underway (not_terminal_of_canceled hcanceled)
    | ends line hopen hexit houtcome hconcluded =>
      rename_i s' o _ _
      have hcalling : s'.calling = [((), o)] := by
        rw [hconcluded.calling, h.calling, halive.listens]
        rfl
      have hcalled : Sole { s' with calling := [] } := by
        have := hsole.step .call id
        simpa [Session.step, callNext, hcalling] using this
      refine .inr (.ends line halive hcalling (lent_release hcalled rfl ?_))
      change s'.released = _ at hreleased
      rw [hreleased, halive.unreleased]
      exact fun hnot => absurd hnot Bool.false_ne_true
  · -- A session that was dropped has nobody to call, even if its process ends.
    obtain ⟨hstays, htold⟩ := hdropped.step oc.event
    rw [h.calling] at htold
    have hlent : Lent (s.step oc.event).1 :=
      ⟨hsole, (List.append_eq_nil_iff.1 htold).2, .inr hstays⟩
    refine .inl ?_
    generalize s.step oc.event = p at hoccurs hreleased hlent
    cases hoccurs with
    | tended htended hquiet => exact .goes hlent hreleased hquiet
    | late child line => exact .goes hlent hreleased (by simp [Effect.isQuiet])
    | begins ticket child line => exact .goes hlent hreleased (by simp [Effect.isQuiet])
    | fails ticket e => exact .fails ticket e hlent.release.1 (fun _ => hlent) hreleased
    | failsLate ticket e => exact .fails ticket e hlent.release.1 (fun _ => hlent) hreleased
    | ends line => exact .goes hlent hreleased (by simp [Effect.isQuiet])

/-- A session that a coordinator has just set up is alive. -/
theorem lent_listening (command : List Text) (text : Text) (options : SessionOptions) (id : Nat) :
    Lent (listening command text options id) where
  sole :=
    ⟨started_listening 1 command text options id, (driven_listening command text options id).told⟩
  calling := rfl
  fate := .inl ⟨rfl, rfl, rfl⟩

/-- What the only call of `start` does to a lent session. -/
theorem Lent.start {s : Session Unit} (h : Lent s) (halive : Alive s) (ticket : Nat)
    (system : System) (hsingle : ¬ Overlaps s (.start ticket system)) :
    Fares s (s.step (.start ticket system)) := by
  have hsole : Sole (s.start ticket system).1 := h.sole.step _ hsingle
  change Fares s (s.start ticket system)
  rcases s.start_cases ticket system with ⟨result, heq, hresult⟩ | ⟨hpending, reason, heq⟩ |
    ⟨hpending, _, _, _, _, heq⟩ <;> rw [heq] at hsole ⊢
  · refine .goes h rfl fun f hf => ?_
    rw [List.mem_singleton.1 hf]
    rcases result with (e | f) | u
    · exact absurd rfl (hresult e)
    all_goals rfl
  · rw [spawnError_of_pending hpending] at hsole ⊢
    refine .fails ticket _ (lent_release hsole h.calling ?_)
      (fun hdropped => absurd hdropped halive.not_dropped) rfl
    exact fun hnot => absurd halive.unreleased (by simpa using hnot)
  · exact .goes ⟨hsole, h.calling, .inl ⟨halive.underway, halive.listens, halive.unreleased⟩⟩ rfl
      (by simp [Effect.isQuiet])

end Session

namespace Desk

variable {d : Desk (Session Unit)}

/-! ## Deeds -/

/-- What happens at a desk whose sessions are held by hosts. -/
inductive Deed where
  | event (e : Event)
  /-- Somebody cancels the session of a check. -/
  | cancel (id : Nat)
  /-- Somebody releases the session of a check. -/
  | release (id : Nat)

/-- One deed. -/
def act (d : Desk (Session Unit)) : Deed → Desk (Session Unit) × List Note
  | .event e => d.step e
  | .cancel id => d.sessionStep id .cancel
  | .release id => d.sessionStep id .release

/-- The deed drops the session of a check without asking the coordinator. -/
def Deed.meddles (id : Nat) : Deed → Bool
  | .event _ => false
  | .cancel i | .release i => decide (i = id)

/-- A deed meddles with one check at most. -/
theorem meddles_inj {deed : Deed} {i j : Nat} (hi : deed.meddles i) (hj : deed.meddles j) :
    i = j := by
  cases deed with
  | event e => cases hi
  | cancel id => exact (of_decide_eq_true hi).symm.trans (of_decide_eq_true hj)
  | release id => exact (of_decide_eq_true hi).symm.trans (of_decide_eq_true hj)

/-- What holds of a desk between two deeds. -/
structure Steady (d : Desk (Session Unit)) : Prop where
  filed : Filed d
  slotted : ∀ id, d.coordinator.slot = some id → ∃ s, d.session? id = some s
  lent : ∀ id s, d.session? id = some s → s.Lent
  held : ∀ id s, d.session? id = some s → s.Alive → d.coordinator.slot = some id

/-- What a coordinator and its sessions do at once. -/
inductive Shift (d : Desk (Session Unit)) : Desk (Session Unit) → Prop
  | configures (s : Settings) :
    Shift d { d with coordinator := { d.coordinator with settings := s } }
  | accepts (text : Text) (host : Host) {s : Session Unit} (hslot : d.coordinator.slot = none)
      (hlent : s.Lent) (halive : s.Alive) : Shift d (d.accepted text host s)
  | goes {id : Nat} {s s' : Session Unit} (hs : d.session? id = some s) (hlent : s'.Lent)
      (hreleased : s'.released = s.released) : Shift d (d.put id s')
  /-- The session in the slot is dropped, and the slot is empty. -/
  | retires {id : Nat} {s s' : Session Unit} (hs : d.session? id = some s)
      (hslot : d.coordinator.slot = some id) (hlent : s'.Lent) (hdropped : s'.Dropped) :
    Shift d (d.retire id s')

/-- In several shifts. -/
abbrev Shifts : Desk (Session Unit) → Desk (Session Unit) → Prop := Relation.ReflTransGen Shift

/-- At a new desk there is no session that could be out of place. -/
theorem steady_opened (settings : Settings) (parser : OutputParser) (channel : Channel) :
    Steady (opened settings parser channel) where
  filed _ _ h := by cases h
  slotted _ h := by cases h
  lent _ _ h := by cases h
  held _ _ h := by cases h

/-- A session that is alive later was alive before. -/
theorem Steady.put (h : Steady d) {id : Nat} {s s' : Session Unit} (hs : d.session? id = some s)
    (hlent : s'.Lent) (halive : s'.Alive → s.Alive) : Steady (d.put id s') where
  filed := h.filed.put hs s'
  slotted i hslot := by
    obtain ⟨t, ht⟩ := h.slotted i hslot
    exact exists_session?_put s' ht
  lent i t ht := by
    rcases session?_put_cases hs ht with ⟨-, rfl⟩ | ⟨-, ht⟩
    · exact hlent
    · exact h.lent i t ht
  held i t ht hnow := by
    rcases session?_put_cases hs ht with ⟨rfl, rfl⟩ | ⟨-, ht⟩
    · exact h.held i s hs (halive hnow)
    · exact h.held i t ht hnow

/-- A session that leaves the slot was the only one alive. -/
theorem Steady.retire (h : Steady d) {id : Nat} {s s' : Session Unit} (hs : d.session? id = some s)
    (hslot : d.coordinator.slot = some id) (hlent : s'.Lent) (hdropped : s'.Dropped) :
    Steady (d.retire id s') where
  filed := h.filed.put hs s'
  slotted _ hnone := by cases hnone
  lent := (h.put hs hlent fun halive => absurd hdropped halive.not_dropped).lent
  held i t ht hnow := by
    rcases session?_put_cases hs ht with ⟨-, rfl⟩ | ⟨hid, ht⟩
    · exact absurd hdropped hnow.not_dropped
    · have hother := h.held i t ht hnow
      rw [hslot] at hother
      exact absurd (Option.some.inj hother).symm hid

/-- An accepted check is the only one alive, as the slot was empty. -/
theorem Steady.accepted (h : Steady d) (hslot : d.coordinator.slot = none) (text : Text)
    (host : Host) {s : Session Unit} (hlent : s.Lent) : Steady (d.accepted text host s) := by
  have hcase {i : Nat} {t : Session Unit} (ht : (d.accepted text host s).session? i = some t) :
      i = d.coordinator.nextId ∧ t = s ∨ d.session? i = some t := by
    rw [session?_accepted h.filed] at ht
    split_ifs at ht with hid
    · exact .inl ⟨hid, (Option.some.inj ht).symm⟩
    · exact .inr ht
  refine ⟨h.filed.accepted text host s, fun i hnew => ?_, fun i t ht => ?_, fun i t ht hnow => ?_⟩
  · obtain rfl : d.coordinator.nextId = i := Option.some.inj hnew
    exact ⟨s, session?_accepted_self h.filed text host s⟩
  · rcases hcase ht with ⟨-, rfl⟩ | ht
    · exact hlent
    · exact h.lent i t ht
  · rcases hcase ht with ⟨rfl, -⟩ | ht
    · rfl
    · -- The slot is empty, and so nobody else is alive.
      have hother := h.held i t ht hnow
      rw [hslot] at hother
      cases hother

/-- A shift leaves a desk steady. -/
theorem Steady.shift (h : Steady d) {d' : Desk (Session Unit)} (hshift : Shift d d') :
    Steady d' := by
  cases hshift with
  | configures s => exact ⟨h.filed, h.slotted, h.lent, h.held⟩
  | accepts text host hslot hlent => exact h.accepted hslot text host hlent
  | goes hs hlent hreleased =>
    refine h.put hs hlent fun halive => (h.lent _ _ hs).fate.resolve_right fun hdropped => ?_
    have hkept := hdropped.released
    rw [← hreleased, halive.unreleased] at hkept
    cases hkept
  | retires hs hslot hlent hdropped => exact h.retire hs hslot hlent hdropped

/-- Several shifts leave a desk steady. -/
theorem Steady.shifts (h : Steady d) {d' : Desk (Session Unit)} (hshifts : Shifts d d') :
    Steady d' := by
  induction hshifts with
  | refl => exact h
  | tail _ hshift ih => exact ih.shift hshift

/-- Shifts do not change where failures are told. -/
theorem Shifts.channel {d' : Desk (Session Unit)} (h : Shifts d d') : d'.channel = d.channel := by
  induction h with
  | refl => rfl
  | tail _ hshift ih => cases hshift <;> exact ih

/-! ## The shifts of an event -/

/-- A session that is lent goes on, or leaves the slot because there is no process for it. -/
theorem Steady.sessionStep_fares (h : Steady d) {id : Nat} {s : Session Unit}
    {e : Session.Event Unit} (hs : d.session? id = some s) (hfares : s.Fares (s.step e)) :
    Shift d (d.sessionStep id e).1 ∧
      (d.sessionStep id e).1.callBack id = ((d.sessionStep id e).1, []) := by
  generalize hstep : s.step e = p at hfares
  cases hfares with
  | goes hlent hreleased hquiet =>
    obtain ⟨notes, heq, -⟩ := sessionStep_goes hs hstep hquiet
    rw [heq]
    exact ⟨.goes hs hlent hreleased, callBack_of_calling_nil (session?_put_self hs) hlent.calling⟩
  | @fails s' ticket error hlent hdropped hreleased =>
    obtain ⟨-, r, hrequest⟩ := h.filed id s hs
    -- A session that is not in the slot is not alive, and is left as it is.
    by_cases hslot : d.coordinator.slot = some id
    · obtain ⟨heq, -⟩ := sessionStep_fails_of_slot hs hrequest hslot hstep
      rw [heq]
      exact ⟨.retires hs hslot hlent (hlent.dropped_of_released s'.released_release),
        callBack_of_calling_nil (session?_put_self hs) hlent.calling⟩
    · obtain ⟨heq, -⟩ := sessionStep_fails_of_ne_slot hs hrequest hslot hstep
      have hkept := hdropped ((h.lent id s hs).fate.resolve_left fun halive =>
        hslot (h.held id s hs halive))
      rw [heq]
      exact ⟨.goes hs hkept hreleased,
        callBack_of_calling_nil (session?_put_self hs) hkept.calling⟩

/-- A session that is alive and ends leaves the slot, with its coordinator told. -/
theorem Steady.sessionStep_closes (h : Steady d) {id : Nat} {s : Session Unit}
    {e : Session.Event Unit} (hs : d.session? id = some s) (hcloses : s.Closes (s.step e)) :
    Shift d ((d.sessionStep id e).1.callBack id).1 := by
  generalize hstep : s.step e = p at hcloses
  cases hcloses with
  | @ends s' o line halive hcalling hlent =>
    obtain ⟨-, r, hrequest⟩ := h.filed id s hs
    have hslot := h.held id s hs halive
    rw [sessionStep_of_session hs hstep]
    change Shift d ((d.put id s').callBack id).1
    obtain ⟨hdesk, -⟩ := callBack_of_slot (d := d.put id s') (session?_put_self hs) hrequest hslot
      hcalling
    rw [hdesk, retire_put]
    exact .retires hs hslot hlent (hlent.dropped_of_released (Session.released_release _))

/-- What occurs at a session moves the desk by shifts. -/
theorem Steady.session_shifts (h : Steady d) (id : Nat) (oc : Session.Occurrence) :
    Shifts d (d.step (.session id oc)).1 := by
  rw [step_session]
  cases hs : d.session? id with
  | none =>
    rw [sessionStep_of_none hs, callBack_of_none hs]
  | some s =>
    rcases (h.lent id s hs).occurs oc with hfares | hcloses
    · obtain ⟨hshift, hcallBack⟩ := h.sessionStep_fares hs hfares
      rw [hcallBack]
      exact .single hshift
    · exact .single (h.sessionStep_closes hs hcloses)

/-- Giving up the check under way leaves the slot empty, and the coordinator as it is otherwise. -/
theorem Steady.cancel_shifts (h : Steady d) :
    Shifts d d.cancel.1 ∧ d.cancel.1.coordinator = { d.coordinator with slot := none } := by
  cases hslot : d.coordinator.slot with
  | none =>
    rw [cancel_of_empty hslot, ← hslot]
    exact ⟨.refl, rfl⟩
  | some id =>
    obtain ⟨s, hs⟩ := h.slotted id hslot
    obtain ⟨hdesk, -⟩ := dismiss_of_session
      (d := { d with coordinator := { d.coordinator with slot := none } }) hs
    obtain ⟨hlent, hdropped⟩ := (h.lent id s hs).cancel.1.release
    rw [cancel_of_slot hslot, hdesk]
    exact ⟨.single (.retires hs hslot hlent hdropped), rfl⟩

/-- A request moves the desk by shifts. -/
theorem Steady.request_shifts (h : Steady d) (system : System) (ticket : Nat) (text : Text)
    (host : Host) : Shifts d (d.step (.request system ticket text host)).1 := by
  obtain ⟨hcanceled, hcoordinator⟩ := h.cancel_shifts
  have hidle := h.shifts hcanceled
  have hslot : d.cancel.1.coordinator.slot = none := by rw [hcoordinator]
  rw [Desk.step, request_eq d hidle.filed system ticket text host]
  have hlent : (d.cancel.1.newcomer text).Lent := Session.lent_listening _ _ _ _
  have halive : (d.cancel.1.newcomer text).Alive := ⟨rfl, rfl, rfl⟩
  have haccepts := Shift.accepts text host hslot hlent halive
  have hs := session?_accepted_self hidle.filed text host (d.cancel.1.newcomer text)
  obtain ⟨hstarts, -⟩ := (hidle.shift haccepts).sessionStep_fares hs
    (hlent.start halive ticket system fun h => absurd h.2 (Nat.lt_irrefl 0))
  exact (hcanceled.tail haccepts).tail hstarts

/-- What a coordinator does by any event, it does by a few shifts. -/
theorem Steady.step_shifts (h : Steady d) (e : Event) : Shifts d (d.step e).1 := by
  cases e with
  | request system ticket text host => exact h.request_shifts system ticket text host
  | cancel => exact h.cancel_shifts.1
  | configure s => exact .single (.configures s)
  | session id oc => exact h.session_shifts id oc

/-! ## What a deed leaves behind -/

/-- A deed leaves what the coordinator's shifts leave, or a session that was dropped behind the
coordinator's back. -/
inductive Deals (d : Desk (Session Unit)) (deed : Deed) : Desk (Session Unit) → Prop
  | shifts {d' : Desk (Session Unit)} (h : Shifts d d')
      (hnone : ∀ id, deed.meddles id → d.session? id = none) : Deals d deed d'
  | drops {id : Nat} {s s' : Session Unit} (hmeddles : deed.meddles id)
      (hs : d.session? id = some s) (hlent : s'.Lent) (hdropped : s'.Dropped) :
    Deals d deed (d.put id s')

/-- A deed is a matter of shifts, or it drops one session behind the coordinator's back. -/
theorem Steady.deals (h : Steady d) (deed : Deed) : Deals d deed (d.act deed).1 := by
  cases deed with
  | event e => exact .shifts (h.step_shifts e) fun _ hmeddles => absurd hmeddles Bool.false_ne_true
  | cancel id =>
    rw [act]
    cases hs : d.session? id with
    | none =>
      rw [sessionStep_of_none hs]
      exact .shifts .refl fun i hmeddles => by rwa [← of_decide_eq_true hmeddles]
    | some s =>
      obtain ⟨hlent, hdropped⟩ := (h.lent id s hs).cancel
      have hquiet : ∀ f ∈ s.cancel.2, f.isQuiet := by
        by_cases hterminal : s.status.isTerminal
        · simp [Session.cancel_of_terminal hterminal, Session.Effect.isQuiet]
        · rw [Session.cancel_of_open (by simpa using hterminal)]
          simp [Session.note, Session.Effect.isQuiet]
      obtain ⟨notes, heq, -⟩ := sessionStep_goes hs (e := .cancel) rfl hquiet
      rw [heq]
      exact .drops (decide_eq_true rfl) hs hlent hdropped
  | release id =>
    rw [act]
    cases hs : d.session? id with
    | none =>
      rw [sessionStep_of_none hs]
      exact .shifts .refl fun i hmeddles => by rwa [← of_decide_eq_true hmeddles]
    | some s =>
      obtain ⟨hlent, hdropped⟩ := (h.lent id s hs).release
      obtain ⟨notes, heq, -⟩ := sessionStep_goes hs (e := .release) rfl (by simp)
      rw [heq]
      exact .drops (decide_eq_true rfl) hs hlent hdropped

/-- A deed leaves a desk steady. -/
theorem Steady.act (h : Steady d) (deed : Deed) : Steady (d.act deed).1 := by
  have hdeals := h.deals deed
  generalize (d.act deed).1 = d' at hdeals ⊢
  cases hdeals with
  | shifts hshifts => exact h.shifts hshifts
  | drops hmeddles hs hlent hdropped =>
    exact h.put hs hlent fun halive => absurd hdropped halive.not_dropped

/-- Deeds leave a desk steady. -/
theorem Steady.run (h : Steady d) (deeds : List Deed) : Steady (Machine.run Desk.act d deeds).1 :=
  Machine.run_invariant (fun _ deed h => h.act deed) h deeds

/-- A desk is steady, whatever was done to it since it was opened. -/
theorem steady_run (settings : Settings) (parser : OutputParser) (channel : Channel)
    (deeds : List Deed) :
    Steady (Machine.run Desk.act (opened settings parser channel) deeds).1 :=
  (steady_opened settings parser channel).run deeds

/-! ## Sessions that were dropped -/

/-- The session of a check is there, and was dropped. -/
def HasDropped (d : Desk (Session Unit)) (id : Nat) : Prop :=
  ∃ s, d.session? id = some s ∧ s.Dropped

/-- The check was requested, and is not in the slot. -/
def Past (d : Desk (Session Unit)) (id : Nat) : Prop :=
  id < d.coordinator.nextId ∧ d.coordinator.slot ≠ some id

/-- No number returns to the slot. -/
theorem Past.shift {d' : Desk (Session Unit)} {id : Nat} (h : Past d id) (hshift : Shift d d') :
    Past d' id := by
  obtain ⟨hlt, hslot⟩ := h
  cases hshift with
  | configures s => exact ⟨hlt, hslot⟩
  | accepts text host =>
    refine ⟨Nat.lt_succ_of_lt hlt, fun hnew => ?_⟩
    exact absurd (Option.some.inj hnew) (Nat.ne_of_gt hlt)
  | goes => exact ⟨hlt, hslot⟩
  | retires => exact ⟨hlt, (Option.some_ne_none id).symm⟩

/-- A coordinator that drops the session in its slot empties the slot. -/
theorem Steady.past_of_shift (h : Steady d) {d' : Desk (Session Unit)} {id : Nat}
    (hshift : Shift d d') (hdropped : HasDropped d' id) : HasDropped d id ∨ Past d' id := by
  obtain ⟨t, ht, hdropped⟩ := hdropped
  cases hshift with
  | configures s => exact .inl ⟨t, ht, hdropped⟩
  | accepts text host hslot hlent halive =>
    rw [session?_accepted h.filed] at ht
    split_ifs at ht
    · cases ht
      exact absurd hdropped halive.not_dropped
    · exact .inl ⟨t, ht, hdropped⟩
  | goes hs hlent hreleased =>
    rcases session?_put_cases hs ht with ⟨rfl, rfl⟩ | ⟨-, ht⟩
    · exact .inl ⟨_, hs, (h.lent _ _ hs).dropped_of_released (hreleased ▸ hdropped.released)⟩
    · exact .inl ⟨t, ht, hdropped⟩
  | retires hs hslot =>
    rcases session?_put_cases hs ht with ⟨rfl, -⟩ | ⟨-, ht⟩
    · exact .inr ⟨(h.filed _ _ hs).1, (Option.some_ne_none id).symm⟩
    · exact .inl ⟨t, ht, hdropped⟩

/-- A session that shifts have dropped is that of a past check, or was dropped before. -/
theorem Steady.past_of_shifts (h : Steady d) {d' : Desk (Session Unit)} {id : Nat}
    (hshifts : Shifts d d') (hdropped : HasDropped d' id) : HasDropped d id ∨ Past d' id := by
  induction hshifts with
  | refl => exact .inl hdropped
  | tail hfirst hshift ih =>
    rcases (h.shifts hfirst).past_of_shift hshift hdropped with hbefore | hpast
    · exact (ih hbefore).imp_right fun hpast => hpast.shift hshift
    · exact .inr hpast

/-- Putting a session in place takes no dropped session away. -/
theorem HasDropped.put {id i : Nat} (h : HasDropped d id) {s s' : Session Unit}
    (hs : d.session? i = some s) (hdropped : s.Dropped → s'.Dropped) :
    HasDropped (d.put i s') id := by
  obtain ⟨t, ht, htd⟩ := h
  by_cases hid : id = i
  · subst hid
    obtain rfl : s = t := Option.some.inj (hs.symm.trans ht)
    exact ⟨s', session?_put_self hs, hdropped htd⟩
  · exact ⟨t, (session?_put_ne hid).trans ht, htd⟩

/-- A session that was dropped stays dropped. -/
theorem Steady.hasDropped_shift (h : Steady d) {d' : Desk (Session Unit)} {id : Nat}
    (hdropped : HasDropped d id) (hshift : Shift d d') : HasDropped d' id := by
  cases hshift with
  | configures s => exact hdropped
  | accepts text host =>
    obtain ⟨s, hs, hdropped⟩ := hdropped
    refine ⟨s, ?_, hdropped⟩
    rw [session?_accepted h.filed, if_neg (Nat.ne_of_lt (h.filed id s hs).1), hs]
  | goes hs hlent hreleased =>
    exact hdropped.put hs fun hbefore => hlent.dropped_of_released (hreleased ▸ hbefore.released)
  | retires hs hslot hlent hafter => exact hdropped.put hs fun _ => hafter

/-- What shifts find dropped stays dropped. -/
theorem Steady.hasDropped_shifts (h : Steady d) {d' : Desk (Session Unit)} {id : Nat}
    (hdropped : HasDropped d id) (hshifts : Shifts d d') : HasDropped d' id := by
  induction hshifts with
  | refl => exact hdropped
  | tail hfirst hshift ih => exact (h.shifts hfirst).hasDropped_shift ih hshift

/-- A past check stays one through several shifts. -/
theorem Past.shifts {d' : Desk (Session Unit)} {id : Nat} (h : Past d id) (hshifts : Shifts d d') :
    Past d' id := by
  induction hshifts with
  | refl => exact h
  | tail _ hshift ih => exact ih.shift hshift

/-- A past check stays one through every deed. -/
theorem Steady.past_act (h : Steady d) {id : Nat} (hpast : Past d id) (deed : Deed) :
    Past (d.act deed).1 id := by
  have hdeals := h.deals deed
  generalize (d.act deed).1 = d' at hdeals ⊢
  cases hdeals with
  | shifts hshifts => exact hpast.shifts hshifts
  | drops => exact hpast

/-- A past check stays one, whatever is done. -/
theorem Steady.past_run (h : Steady d) {id : Nat} (hpast : Past d id) (deeds : List Deed) :
    Past (Machine.run Desk.act d deeds).1 id :=
  (Machine.run_invariant (P := fun d => Steady d ∧ Past d id)
    (fun _ deed h => ⟨h.1.act deed, h.1.past_act h.2 deed⟩) ⟨h, hpast⟩ deeds).2

/-- What a deed finds dropped stays dropped. -/
theorem Steady.hasDropped_act (h : Steady d) {id : Nat} (hdropped : HasDropped d id) (deed : Deed) :
    HasDropped (d.act deed).1 id := by
  have hdeals := h.deals deed
  generalize (d.act deed).1 = d' at hdeals ⊢
  cases hdeals with
  | shifts hshifts => exact h.hasDropped_shifts hdropped hshifts
  | drops hmeddles hs hlent hafter => exact hdropped.put hs fun _ => hafter

/-- The session of the check in the slot is dropped by a deed that meddles with it. -/
theorem Steady.hasDropped_of_meddles (h : Steady d) {id : Nat} {deed : Deed}
    (hmeddles : deed.meddles id) (hslot : d.coordinator.slot = some id) :
    HasDropped (d.act deed).1 id := by
  obtain ⟨s, hs⟩ := h.slotted id hslot
  have hdeals := h.deals deed
  generalize (d.act deed).1 = d' at hdeals ⊢
  cases hdeals with
  | shifts hshifts hnone =>
    rw [hnone id hmeddles] at hs
    cases hs
  | drops hother ht hlent hdropped =>
    obtain rfl := meddles_inj hmeddles hother
    exact ⟨_, session?_put_self ht, hdropped⟩

/-- A session that is dropped leaves the slot with that, or somebody has dropped it in the slot. -/
theorem Steady.drops_act (h : Steady d) {id : Nat} {deed : Deed} (hbefore : ¬ HasDropped d id)
    (hdropped : HasDropped (d.act deed).1 id) :
    Past (d.act deed).1 id ∨ deed.meddles id ∧ d.coordinator.slot = some id := by
  have hdeals := h.deals deed
  generalize (d.act deed).1 = d' at hdropped hdeals
  cases hdeals with
  | shifts hshifts => exact .inl ((h.past_of_shifts hshifts hdropped).resolve_left hbefore)
  | drops hmeddles hs =>
    obtain ⟨t, ht, hdropped⟩ := hdropped
    rcases session?_put_cases hs ht with ⟨rfl, -⟩ | ⟨-, ht⟩
    · refine .inr ⟨hmeddles, h.held _ _ hs ((h.lent _ _ hs).fate.resolve_right fun hgone => ?_)⟩
      exact hbefore ⟨_, hs, hgone⟩
    · exact absurd ⟨t, ht, hdropped⟩ hbefore

/-- The session in the slot was dropped exactly if somebody dropped it there. -/
theorem hasDropped_iff_meddled (settings : Settings) (parser : OutputParser) (channel : Channel)
    (deeds : List Deed) {id : Nat} :
    let after := fun deeds => (Machine.run act (opened settings parser channel) deeds).1
    (after deeds).coordinator.slot = some id →
      (HasDropped (after deeds) id ↔ ∃ first deed rest, deeds = first ++ deed :: rest ∧
        deed.meddles id ∧ (after first).coordinator.slot = some id) := by
  intro after hslot
  have hsteady := steady_run settings parser channel
  constructor
  · -- The session was dropped by one event of the run.
    intro hdropped
    have hnot : ¬ HasDropped (opened settings parser channel) id := by
      rintro ⟨_, hs, -⟩
      cases hs
    obtain ⟨first, deed, rest, rfl, hbefore, hafter⟩ :=
      Machine.exists_event_of_run (P := (HasDropped · id)) hnot hdropped
    refine ⟨first, deed, rest, rfl, ((hsteady first).drops_act hbefore hafter).resolve_left ?_⟩
    -- What left the slot would not be in it now.
    intro hpast
    refine (((hsteady first).act deed).past_run hpast rest).2 ?_
    simpa only [after, Machine.run_append, Machine.run_cons] using hslot
  · rintro ⟨first, deed, rest, rfl, hmeddles, hthere⟩
    have hrun := Machine.run_invariant (P := fun d => Steady d ∧ HasDropped d id)
      (fun _ deed h => ⟨h.1.act deed, h.1.hasDropped_act h.2 deed⟩)
      ⟨(hsteady first).act deed, (hsteady first).hasDropped_of_meddles hmeddles hthere⟩ rest
    simpa only [after, Machine.run_append, Machine.run_cons] using hrun.2

/-- Whatever the coordinator, the system and whoever holds a session do: between two deeds no
callback is due, a session that is alive is in the slot, and the coordinator is checking exactly
while the session in its slot is alive, unless somebody has canceled or released that session while
it was there. -/
theorem checking_iff_alive_unless_meddled (settings : Settings) (parser : OutputParser)
    (channel : Channel) (deeds : List Deed) :
    let after := fun deeds => (Machine.run act (opened settings parser channel) deeds).1
    let d := after deeds
    (∀ id s, d.session? id = some s → s.calling = []) ∧
    (∀ id s, d.session? id = some s → s.Alive → d.coordinator.slot = some id) ∧
    ((d.coordinator.state = .checking ↔
        ∃ id s, d.coordinator.slot = some id ∧ d.session? id = some s ∧ s.Alive) ↔
      ¬ ∃ id first deed rest, d.coordinator.slot = some id ∧ deeds = first ++ deed :: rest ∧
        deed.meddles id ∧ (after first).coordinator.slot = some id) := by
  intro after d
  have h : Steady d := steady_run settings parser channel deeds
  refine ⟨fun id s hs => (h.lent id s hs).calling, h.held, ?_⟩
  cases hslot : d.coordinator.slot with
  | none => simp [Coordinator.state, hslot]
  | some id =>
    obtain ⟨s, hs⟩ := h.slotted id hslot
    have hchecking : d.coordinator.state = .checking := by simp [Coordinator.state, hslot]
    -- The session in the slot is alive or has been dropped, and it is dropped exactly if it was
    -- meddled with.
    have halive :
        (∃ i t, some id = some i ∧ d.session? i = some t ∧ t.Alive) ↔ ¬ HasDropped d id := by
      constructor
      · rintro ⟨i, t, hi, ht, halive⟩ ⟨u, hu, hdropped⟩
        cases hi
        obtain rfl : t = u := Option.some.inj (ht.symm.trans hu)
        exact halive.not_dropped hdropped
      · intro hnot
        refine ⟨id, s, rfl, hs, (h.lent id s hs).fate.resolve_right fun hdropped => ?_⟩
        exact hnot ⟨s, hs, hdropped⟩
    have hmeddled := hasDropped_iff_meddled settings parser channel deeds hslot
    rw [iff_true_left hchecking, halive, not_iff_not, hmeddled]
    constructor
    · rintro ⟨first, deed, rest, hdeeds, hmeddles, hthere⟩
      exact ⟨id, first, deed, rest, rfl, hdeeds, hmeddles, hthere⟩
    · rintro ⟨i, first, deed, rest, hi, hdeeds, hmeddles, hthere⟩
      cases hi
      exact ⟨first, deed, rest, hdeeds, hmeddles, hthere⟩

/-- The host of an overtaken check cancels its session, which the coordinator has dropped before. -/
def meddledLate : List Deed :=
  let system : System := { find := fun _ => some "/bin/lint", environment := [] }
  [.event (.request system 1 [] (.caller 1)), .event (.session 1 (.spawned 1 { pid := 7 })),
    .event (.request system 2 [] (.caller 2)), .cancel 1]

/-- To cancel the session of an overtaken check does nothing to the one that has overtaken it. -/
theorem newer_check_alive_after_late_cancel :
    let d := (Machine.run act (opened {} {} .log) meddledLate).1
    d.coordinator.state = .checking ∧
      ∃ id s, d.coordinator.slot = some id ∧ d.session? id = some s ∧ s.Alive := by
  intro d
  obtain ⟨-, -, hiff⟩ := checking_iff_alive_unless_meddled {} {} .log meddledLate
  have hchecking : d.coordinator.state = .checking := by decide
  refine ⟨hchecking, (hiff.2 ?_).1 hchecking⟩
  rintro ⟨id, first, deed, rest, hslot, hdeeds, hmeddles, -⟩
  have hmem : deed ∈ meddledLate := hdeeds ▸ List.mem_append_right _ List.mem_cons_self
  obtain rfl : 2 = id := Option.some.inj hslot
  simp only [meddledLate, List.mem_cons, List.not_mem_nil, or_false] at hmem
  rcases hmem with rfl | rfl | rfl | rfl <;> exact absurd hmeddles (by decide)

/-- The host of a check cancels the session that the request has returned. -/
def meddledNow : List Deed :=
  let system : System := { find := fun _ => some "/bin/lint", environment := [] }
  [.event (.request system 1 [] (.caller 1)), .event (.session 1 (.spawned 1 { pid := 7 })),
    .event (.session 1 (.read 0)), .cancel 1]

/-- The coordinator is checking, with a session that has ended and will not tell it. -/
theorem checking_with_canceled_session :
    let d := (Machine.run act (opened {} {} .log) meddledNow).1
    d.coordinator.state = .checking ∧ d.coordinator.slot = some 1 ∧
      (d.session? 1).map Session.status = some .canceled ∧
      (d.session? 1).map Session.released = some true ∧
      (d.session? 1).map Session.callbacks = some [] := by
  decide +kernel

end Desk

end LiveLint
