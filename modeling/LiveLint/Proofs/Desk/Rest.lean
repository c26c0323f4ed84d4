import LiveLint.Proofs.Desk.Answers
import LiveLint.Proofs.Desk.Snapshot
import LiveLint.Proofs.Desk.SpawnFailures

/-!
# Checks that are past

A check leaves the slot of its coordinator when it is answered or given up, and never returns to it.
From then on its session is over: it has ended and is released, and each of its processes has ended
or was killed, those that come later too (`Regular.over`). Nobody is told anything of the check any
more (`Regular.not_told`).

A desk without a check under way stays so as long as nothing is requested there
(`Regular.idle_step`), and it has no answer for a caller of whom it has no check
(`Regular.not_answered`).
-/

namespace LiveLint

/-- The session has ended, holds nothing, and leaves no process behind that was not stopped. -/
structure Session.Over (s : Session Unit) : Prop where
  terminal : s.status.isTerminal
  released : s.released
  stopped : ∀ c ∈ s.children, c.Stopped

namespace Desk

variable {d : Desk (Session Unit)} {id : Nat}

/-- What holds of a desk at which nothing but events happen. -/
structure Regular (d : Desk (Session Unit)) : Prop where
  sound : Sound d
  steady : Steady d

/-- A new desk is regular. -/
theorem regular_opened (settings : Settings) (parser : OutputParser) (channel : Channel) :
    Regular (opened settings parser channel) :=
  ⟨sound_opened settings parser channel, steady_opened settings parser channel⟩

/-- An event leaves a desk regular. -/
theorem Regular.step (h : Regular d) (x : Event) : Regular (d.step x).1 :=
  ⟨h.sound.step x, h.steady.shifts (h.steady.step_shifts x)⟩

/-- Canceling leaves a desk regular. -/
theorem Regular.cancel (h : Regular d) : Regular d.cancel.1 := h.step .cancel

/-! ## Past checks -/

/-- Only the session in the slot goes on. -/
theorem Regular.over (h : Regular d) {s : Session Unit} (hs : d.session? id = some s)
    (hslot : d.coordinator.slot ≠ some id) : s.Over := by
  have hterminal : s.status.isTerminal := by
    by_contra hopen
    exact hslot ((h.sound.current id s hs).1 (by simpa using hopen))
  refine ⟨hterminal, ?_, (h.sound.driven id s hs).1.stopped hterminal⟩
  rcases (h.steady.lent id s hs).fate with halive | hdropped
  · exact absurd hterminal (by simp [halive.underway])
  · exact hdropped.released

/-- A past check stays past through every event. -/
theorem Regular.past_step (h : Regular d) (hpast : Past d id) (x : Event) :
    Past (d.step x).1 id := h.steady.past_act hpast (.event x)

/-- A past check stays past, whatever happens. -/
theorem Regular.past_run (h : Regular d) (hpast : Past d id) (xs : List Event) :
    Past (Machine.run Desk.step d xs).1 id :=
  (Machine.run_invariant (P := fun d => Regular d ∧ Past d id)
    (fun _ x h => ⟨h.1.step x, h.1.past_step h.2 x⟩) ⟨h, hpast⟩ xs).2

/-- Nobody is told anything of a past check. -/
theorem Regular.not_told (h : Regular d) (hpast : Past d id) (x : Event) {found : CheckState}
    {telling : Telling} : .told id found telling ∉ (d.step x).2 := by
  intro hn
  exact (h.steady.told_act (.event x) hn (by simp [Note.isFor])).1 hpast

/-- Giving up the check under way makes all checks past. -/
theorem Regular.past_cancel (h : Regular d) (hid : id < d.coordinator.nextId) :
    Past d.cancel.1 id := by
  obtain ⟨-, hcoordinator⟩ := h.sound.cancel_turns
  rw [Past, hcoordinator]
  exact ⟨hid, (Option.some_ne_none id).symm⟩

/-- The slot is empty once the check under way is canceled. -/
theorem Regular.slot_cancel (h : Regular d) : d.cancel.1.coordinator.slot = none := by
  rw [h.sound.cancel_turns.2]

/-- What is due is the reply to a request whose session is there. -/
theorem mem_due {n : Note} (h : n ∈ d.due id) :
    ∃ s r v, d.session? id = some s ∧ d.coordinator.request? id = some r ∧
      n ∈ reply .idle d.channel id r.host v := by
  unfold due at h
  split at h
  · rename_i r o hrequest hresult
    obtain ⟨s, hs, -⟩ := Option.bind_eq_some_iff.1 hresult
    exact ⟨s, r, _, hs, hrequest, h⟩
  · cases h

/-! ## Desks without a check under way -/

/-- No check is under way, and all that were are over. -/
structure AtRest (d : Desk (Session Unit)) : Prop where
  idle : d.coordinator.state = .idle
  ended : ∀ id s, d.session? id = some s → s.Over

/-- A desk with an empty slot is at rest. -/
theorem Regular.atRest (h : Regular d) (hslot : d.coordinator.slot = none) : AtRest d where
  idle := by simp [Coordinator.state, hslot]
  ended id s hs := h.over hs (by simp [hslot])

/-- Only a request brings a check under way. -/
theorem Regular.idle_step (h : Regular d) (hslot : d.coordinator.slot = none) {x : Event}
    (hx : ∀ system ticket text host, x ≠ .request system ticket text host) :
    (d.step x).1.coordinator.slot = none := by
  cases hnew : (d.step x).1.coordinator.slot with
  | none => rfl
  | some i =>
    -- What is in the slot would be a session of before, and those are past.
    obtain ⟨-, s', hs'⟩ := (h.sound.step x).newest i hnew
    obtain ⟨s, hs⟩ := (h.sound.session_of_step x hs').resolve_right fun hrequest => by
      obtain ⟨system, ticket, text, host, rfl, -⟩ := hrequest
      exact hx system ticket text host rfl
    have hpast : Past d i := ⟨(h.sound.requested i s hs).1, by simp [hslot]⟩
    exact absurd hnew (h.past_step hpast x).2

/-- There is no other session at the desk. -/
def Single (d : Desk (Session Unit)) (id : Nat) : Prop := ∀ i s, d.session? i = some s → i = id

/-- Only a request brings another session to the desk. -/
theorem Regular.single_step (h : Regular d) (hsingle : Single d id) {x : Event}
    (hx : ∀ system ticket text host, x ≠ .request system ticket text host) :
    Single (d.step x).1 id := by
  intro i s' hs'
  rcases h.sound.session_of_step x hs' with ⟨s, hs⟩ | ⟨system, ticket, text, host, rfl, -⟩
  · exact hsingle i s hs
  · exact absurd rfl (hx system ticket text host)

/-- The first request of a new desk has the only session at it. -/
theorem Regular.single_opened (settings : Settings) (parser : OutputParser) (channel : Channel)
    (system : System) (ticket : Nat) (text : Text) (host : Host) :
    Single ((opened settings parser channel).step (.request system ticket text host)).1 1 := by
  intro i s hs
  rcases (sound_opened settings parser channel).session_of_step _ hs with
    ⟨s, hs⟩ | ⟨_, _, _, _, -, hid⟩
  · cases hs
  · exact hid

/-- What is due to a host is at most one thing. -/
theorem due_cases (d : Desk (Session Unit)) (id : Nat) :
    d.due id = [] ∨ ∃ telling, d.due id = [.told id .idle telling] := by
  unfold due
  split
  · rename_i r o _ _
    cases r.judge d.coordinator.parser o with
    | found ds => exact .inr ⟨_, rfl⟩
    | failed e => exact .inr ⟨_, rfl⟩
    | broken f => exact .inl rfl
  · exact .inl rfl

/-- Where there is only one check, all that is told is told of it. -/
theorem Regular.due_step (h : Regular d) {x : Event} (hsingle : Single (d.step x).1 id) :
    (d.step x).1.due id = d.due id ++ (d.step x).2.filter Note.isTold := by
  have hdue := fun i => (h.sound.step_turns x).due h.sound i
  have hfor : (d.step x).2.filter Note.isTold = (d.step x).2.filter (Note.isFor id) := by
    refine List.filter_congr fun n hn => ?_
    cases n with
    | told i found telling =>
      have hmem : .told i found telling ∈ (d.step x).1.due i := by
        rw [hdue i]
        exact List.mem_append_right _ (List.mem_filter.2 ⟨hn, by simp [Note.isFor]⟩)
      obtain ⟨s, -, -, hs, -⟩ := mem_due hmem
      simp [Note.isTold, Note.isFor, hsingle i s hs]
    | _ => rfl
  rw [hfor, hdue id]

/-! ## Hosts without a check -/

/-- No check at the desk is one of the host. -/
def Shuns (d : Desk (Session Unit)) (host : Host) : Prop :=
  ∀ i s r, d.session? i = some s → d.coordinator.request? i = some r → r.host ≠ host

/-- A new desk has a check of nobody's. -/
theorem shuns_opened (settings : Settings) (parser : OutputParser) (channel : Channel) (host : Host) :
    Shuns (opened settings parser channel) host := fun _ _ _ hs => by cases hs

/-- A host gets a check by a request of its own only. -/
theorem Regular.shuns_step (h : Regular d) {host : Host} (hshuns : Shuns d host) {x : Event}
    (hx : ∀ system ticket text, x ≠ .request system ticket text host) :
    Shuns (d.step x).1 host := by
  intro i s' r' hs' hr'
  rcases h.sound.session_of_step x hs' with ⟨s, hs⟩ | ⟨system, ticket, text, host', rfl, rfl⟩
  · obtain ⟨-, r, hr⟩ := h.sound.requested i s hs
    obtain ⟨-, hkept⟩ := ((h.sound.step_turns x).later h.sound).check i s r hs hr
    obtain rfl : r = r' := Option.some.inj (hkept.symm.trans hr')
    exact hshuns i s r hs hr
  · obtain ⟨-, hrequest, -⟩ := h.sound.request_turns system ticket text host'
    obtain rfl := Option.some.inj (hrequest.symm.trans hr')
    exact fun heq => hx system ticket text (by rw [← heq])

/-- Canceling gives nobody a check. -/
theorem Regular.shuns_cancel (h : Regular d) {host : Host} (hshuns : Shuns d host) :
    Shuns d.cancel.1 host := h.shuns_step (x := .cancel) hshuns nofun

/-- Only a caller is given an answer with its ticket. -/
theorem caller_of_answer {found found' : CheckState} {channel : Channel} {i ticket : Nat}
    {host : Host} {v : Verdict} {result : Except LintError (List Diagnostic)}
    (h : .told id found (.answer ticket result) ∈ reply found' channel i host v) :
    host = .caller ticket := by
  cases v with
  | found ds =>
    have hone := List.mem_singleton.1 h
    cases host with
    | caller t =>
      cases hone
      rfl
    | display name own raises => cases hone
  | failed e =>
    have hone := List.mem_singleton.1 h
    cases host with
    | caller t =>
      cases hone
      rfl
    | display name own raises => cases own <;> cases channel <;> cases hone
  | broken f => cases h

/-- Who has no check at the desk gets no answer from it. -/
theorem Regular.not_answered (h : Regular d) {x : Event} {ticket : Nat}
    (hshuns : Shuns (d.step x).1 (.caller ticket)) {found : CheckState}
    {result : Except LintError (List Diagnostic)} :
    .told id found (.answer ticket result) ∉ (d.step x).2 := by
  intro hn
  have hdue : .told id found (.answer ticket result) ∈ (d.step x).1.due id := by
    rw [(h.sound.step_turns x).due h.sound id]
    exact List.mem_append_right _ (List.mem_filter.2 ⟨hn, by simp [Note.isFor]⟩)
  obtain ⟨s, r, v, hs, hr, hreply⟩ := mem_due hdue
  exact hshuns id s r hs hr (caller_of_answer hreply)

end Desk

end LiveLint
