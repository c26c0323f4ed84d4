import LiveLint.Proofs.Provider.Leaving

/-!
# Closed buffers are silent

A check of a buffer is at the desk of the buffer (`Held`) until the buffer is closed, which gives it
up. From then on it is dismissed: it is past, and its desk is no buffer's any more (`Dismissed`).
Whatever happens then, nobody is told anything of it, and what happens at its desk concerns no open
buffer, be it the same one opened again: desks are numbered in the order of opening, and no number
is given twice (`closing_silences`).
-/

namespace LiveLint

namespace Provider

variable {p p' : Provider (Session Unit)} {e : Event Desk.Event} {b : BufferId} {k id : Nat}

/-! ## Checks of a buffer -/

/-- The session of a check goes on at its desk, and a past check stays past. -/
theorem Tidy.session_of_course (h : Tidy p) (hcourse : Course p p') {d : Desk (Session Unit)}
    {s : Session Unit} (hd : p.desks[k]? = some d) (hs : d.session? id = some s) :
    ∃ d' s', p'.desks[k]? = some d' ∧ d'.session? id = some s' ∧
      (Desk.Past d id → Desk.Past d' id) := by
  have hregular := h.regular k d hd
  obtain ⟨xs, hd'⟩ := hcourse k d hd
  obtain ⟨-, r, hr⟩ := hregular.sound.requested id s hs
  obtain ⟨⟨s', hs'⟩, -⟩ := (hregular.sound.later_run xs).check id s r hs hr
  exact ⟨_, s', hd', hs', fun hpast => hregular.past_run hpast xs⟩

/-- The check was begun at the desk of the open buffer. -/
structure Held (b : BufferId) (k id : Nat) (p : Provider (Session Unit)) : Prop where
  desk : p.deskOf? b = some k
  session : ∃ d s, p.desks[k]? = some d ∧ d.session? id = some s

/-- The check is over, and its desk is no buffer's. -/
structure Dismissed (k id : Nat) (p : Provider (Session Unit)) : Prop where
  past : ∃ d s, p.desks[k]? = some d ∧ d.session? id = some s ∧ Desk.Past d id
  closed : ∀ r ∈ p.registry, r.2 ≠ k

/-- A move brings no dismissed check back. -/
theorem Dismissed.move (h : Dismissed k id p) (htidy : Tidy p) (hp : Move e p p') :
    Dismissed k id p' := by
  obtain ⟨d, s, hd, hs, hpast⟩ := h.past
  constructor
  case past =>
    obtain ⟨d', s', hd', hs', hstays⟩ := htidy.session_of_course (htidy.course_move hp) hd hs
    exact ⟨d', s', hd', hs', hstays hpast⟩
  case closed =>
    cases hp with
    | attends hp =>
      rw [(htidy.spares_attends hp).registry]
      exact h.closed
    | opens settings he hb =>
      intro r hr
      rcases List.mem_append.1 hr with hr | hr
      · exact h.closed r hr
      · rw [List.mem_singleton.1 hr]
        exact Nat.ne_of_gt (List.getElem?_eq_some_iff.1 hd).1
    | closes hb => exact fun r hr => h.closed r (List.mem_filter.1 hr).1
    | _ => exact h.closed

/-- Only by closing the buffer a check leaves it. -/
theorem Held.move (h : Held b k id p) (htidy : Tidy p) (hp : Move e p p') :
    Held b k id p' ∨ Dismissed k id p' := by
  obtain ⟨d, s, hd, hs⟩ := h.session
  obtain ⟨d', s', hd', hs', -⟩ := htidy.session_of_course (htidy.course_move hp) hd hs
  have hmem : (b, k) ∈ p.registry := mem_of_deskOf? h.desk
  have hheld (hmem : (b, k) ∈ p'.registry) : Held b k id p' ∨ Dismissed k id p' :=
    .inl ⟨(htidy.move hp).deskOf?_of_mem hmem, d', s', hd', hs'⟩
  cases hp with
  | attends hp =>
    refine hheld ?_
    rw [(htidy.spares_attends hp).registry]
    exact hmem
  | opens settings he hb => exact hheld (List.mem_append_left _ hmem)
  | @closes c j hc =>
    by_cases hcb : c = b
    · subst hcb
      obtain rfl : j = k := Option.some.inj (hc.symm.trans h.desk)
      have hregular := htidy.regular j d hd
      have hcanceled : d' = d.cancel.1 := by
        have hafter : ((p.forget c).alter j fun d => d.cancel.1).desks[j]? = some d.cancel.1 :=
          getElem?_alter_self hd
        exact Option.some.inj (hd'.symm.trans hafter)
      refine .inr ⟨⟨d', s', hd', hs', ?_⟩, fun r hr hrj => ?_⟩
      · rw [hcanceled]
        exact hregular.past_cancel (hregular.sound.requested id s hs).1
      · obtain ⟨hr, hrc⟩ := List.mem_filter.1 hr
        have hne : r ≠ (c, j) := by
          rintro rfl
          simp at hrc
        exact (htidy.apart hr hmem hne).2 hrj
    · refine hheld (List.mem_filter.2 ⟨hmem, ?_⟩)
      simpa using Ne.symm hcb
  | _ => exact hheld hmem

/-- The check is one of the buffer's, or was until the buffer was closed. -/
def Tracked (b : BufferId) (k id : Nat) (p : Provider (Session Unit)) : Prop :=
  Held b k id p ∨ Dismissed k id p

/-- A check goes on being tracked through several moves. -/
theorem Tracked.moves (h : Tracked b k id p) (htidy : Tidy p) (hp : Moves e p p') :
    Tracked b k id p' := by
  refine (hp.preserve (P := fun p => Tidy p ∧ Tracked b k id p) ?_ ⟨htidy, h⟩).2
  rintro q q' ⟨htidy, hheld | hdismissed⟩ hp
  · exact ⟨htidy.move hp, hheld.move htidy hp⟩
  · exact ⟨htidy.move hp, .inr (hdismissed.move htidy hp)⟩

/-- Several moves bring no dismissed check back. -/
theorem Dismissed.moves (h : Dismissed k id p) (htidy : Tidy p) (hp : Moves e p p') :
    Dismissed k id p' := by
  refine (hp.preserve (P := fun p => Tidy p ∧ Dismissed k id p) ?_ ⟨htidy, h⟩).2
  rintro q q' ⟨htidy, hdismissed⟩ hp
  exact ⟨htidy.move hp, hdismissed.move htidy hp⟩

/-- A check goes on being tracked, whatever happens. -/
theorem Tracked.run (h : Tracked b k id p) (htidy : Tidy p) (es : List (Event Desk.Event)) :
    Tracked b k id (Machine.run happens p es).1 :=
  (Machine.run_invariant (P := fun p => Tidy p ∧ Tracked b k id p)
    (fun p e h => ⟨h.1.happens e, h.2.moves h.1 (happens_moves p e)⟩) ⟨htidy, h⟩ es).2

/-- A dismissed check stays one, whatever happens. -/
theorem Dismissed.run (h : Dismissed k id p) (htidy : Tidy p) (es : List (Event Desk.Event)) :
    Dismissed k id (Machine.run happens p es).1 :=
  (Machine.run_invariant (P := fun p => Tidy p ∧ Dismissed k id p)
    (fun p e h => ⟨h.1.happens e, h.2.moves h.1 (happens_moves p e)⟩) ⟨htidy, h⟩ es).2

/-- A check that a buffer's desk is asked for is one of the buffer's. -/
theorem Tidy.tracked_check (h : Tidy p) (system : System) (ticket : Nat) (b : BufferId)
    (text : Text) (host : Host) :
    ∃ k q, p.requested? (.check system ticket b text host) = some (k, q) ∧
      Tracked b k q.id (p.happens (.check system ticket b text host)).1 := by
  let e : Event Desk.Event := .check system ticket b text host
  let x : Desk.Event := .request system ticket text host
  have hopened : Tidy (p.deskFor b none).1 := h.moves (deskFor_moves (e := e) p rfl none)
  have hb := deskOf?_deskFor p b
  have hhappens : (p.happens e).1
      = ((p.deskFor b none).1.atDesk (p.deskFor b none).2.1 fun d => d.step x).1 := by
    have hcheck : (p.happens e).1 = (p.runCheck Session.make system ticket b text host).1 := rfl
    rw [hcheck, runCheck_eq]
  have hasked : p.requested? e
      = (p.deskFor b none).1.requestedAt? (p.deskFor b none).2.1 x := rfl
  rw [hasked, hhappens, atDesk_eq_absorb]
  generalize (p.deskFor b none).1 = q at hopened hb ⊢
  generalize (p.deskFor b none).2.1 = k at hb ⊢
  obtain ⟨d, hd⟩ : ∃ d, q.desks[k]? = some d :=
    ⟨_, List.getElem?_eq_getElem (hopened.known _ (mem_of_deskOf? hb))⟩
  refine ⟨k, _, requestedAt?_request hd system ticket text host, ?_⟩
  obtain ⟨-, -, s, hs⟩ := (hopened.regular k d hd).sound.request_turns system ticket text host
  have hheld : Held b k d.coordinator.nextId (q.alter k fun d => (d.step x).1) :=
    ⟨hb, _, s, getElem?_alter_self hd, hs⟩
  exact Tracked.moves (.inl hheld) (hopened.alter k fun d hd => hd.step x)
    (absorb_moves (e := e) _ k _)

/-! ## Silence -/

/-- Nobody is told anything of a past check, whatever is done at its desk. -/
theorem Tidy.not_told_of_notesBy (h : Tidy p) {d : Desk (Session Unit)} (hd : p.desks[k]? = some d)
    (hpast : Desk.Past d id) (x : Desk.Event) {found : CheckState} {telling : Telling} :
    .told id found telling ∉ p.notesBy k fun d => d.step x := by
  unfold notesBy
  rw [hd]
  exact (h.regular k d hd).not_told hpast x

/-- Nobody is told anything of a dismissed check. -/
theorem Dismissed.not_told (h : Dismissed k id p) (htidy : Tidy p) {found : CheckState}
    {telling : Telling} : .note (.desk k (.told id found telling)) ∉ (p.happens e).2 := by
  intro hseen
  obtain ⟨d, s, hd, hs, hpast⟩ := h.past
  rcases isLog_or_leaves hseen with hlog | hn
  · cases hlog
  cases e with
  | check system ticket b text host =>
    -- The desk of the check may be opened first.
    have hmoves : Moves (.check system ticket b text host) p (p.deskFor b none).1 :=
      deskFor_moves p rfl none
    obtain ⟨d', s', hd', -, hstays⟩ :=
      htidy.session_of_course (htidy.course_moves hmoves) hd hs
    simp only [leaves] at hn
    split at hn
    · exact (htidy.moves hmoves).not_told_of_notesBy hd' (hstays hpast) _ hn
    · cases hn
  | checkText system ticket text own =>
    have hother : k ≠ p.desks.length := Nat.ne_of_lt (List.getElem?_eq_some_iff.1 hd).1
    simp only [leaves, if_neg hother] at hn
    cases hn
  | desk j x =>
    simp only [leaves] at hn
    split at hn
    · exact htidy.not_told_of_notesBy hd hpast x hn
    · cases hn
  | _ => cases hn

/-- Nobody is told anything of a dismissed check any more, whatever happens. -/
theorem Dismissed.not_told_run (h : Dismissed k id p) (htidy : Tidy p)
    (es : List (Event Desk.Event)) {found : CheckState} {telling : Telling} :
    .note (.desk k (.told id found telling)) ∉ (Machine.run happens p es).2 := by
  intro hseen
  obtain ⟨first, e, rest, -, hseen⟩ := Machine.mem_run_iff.1 hseen
  have htidy' : Tidy (Machine.run happens p first).1 :=
    Machine.run_invariant (fun _ e h => h.happens e) htidy first
  exact (h.run htidy first).not_told htidy' hseen

/-- The session of a dismissed check is there, and is over. -/
theorem Dismissed.over (h : Dismissed k id p) (htidy : Tidy p) :
    ∃ d s, p.desks[k]? = some d ∧ d.session? id = some s ∧ s.Over := by
  obtain ⟨d, s, hd, hs, hpast⟩ := h.past
  exact ⟨d, s, hd, hs, (htidy.regular k d hd).over hs hpast.2⟩

/-! ## Closing -/

/-- Closing a buffer takes it out of the registry, and no other. -/
theorem registry_closeStep (p : Provider (Session Unit)) (b : BufferId) :
    (p.closeStep b).1.registry = p.registry.filter fun r => r.1 != b := by
  cases hb : p.deskOf? b with
  | none =>
    rw [closeStep_of_closed hb]
    refine (List.filter_eq_self.2 fun r hr => ?_).symm
    simpa using ne_of_deskOf?_eq_none hb hr
  | some k =>
    rw [closeStep_of_open hb, cancelAt_eq_alter]
    rfl

/-- A buffer that was closed has no desk. -/
theorem deskOf?_closeStep (p : Provider (Session Unit)) (b : BufferId) :
    (p.closeStep b).1.deskOf? b = none := by
  rw [deskOf?, registry_closeStep, Option.map_eq_none_iff, List.find?_eq_none]
  intro r hr
  simpa using (List.mem_filter.1 hr).2

/-- What is open after closing several buffers was open before, and is none of them. -/
theorem mem_registry_closeAll {bs : List BufferId} {r : BufferId × Nat}
    (hr : r ∈ (Machine.run closeStep p bs).1.registry) : r ∈ p.registry ∧ r.1 ∉ bs := by
  induction bs generalizing p with
  | nil => exact ⟨hr, List.not_mem_nil⟩
  | cons b bs ih =>
    obtain ⟨hkept, hrest⟩ := ih (p := (p.closeStep b).1) hr
    rw [registry_closeStep, List.mem_filter] at hkept
    refine ⟨hkept.1, fun hmem => ?_⟩
    rcases List.mem_cons.1 hmem with heq | hmem
    · simp [heq] at hkept
    · exact hrest hmem

/-- After a shutdown no buffer is open. -/
theorem registry_shutdown (p : Provider (Session Unit)) : (p.happens .shutdown).1.registry = [] := by
  refine List.eq_nil_iff_forall_not_mem.2 fun r hr => ?_
  obtain ⟨hmem, hother⟩ := mem_registry_closeAll hr
  exact hother (List.mem_map_of_mem hmem)

/-- After closing it, or closing all, the buffer is not open. -/
theorem deskOf?_of_closing (p : Provider (Session Unit)) (he : e = .close b ∨ e = .shutdown) :
    (p.happens e).1.deskOf? b = none := by
  rcases he with rfl | rfl
  · exact deskOf?_closeStep p b
  · simp [deskOf?, registry_shutdown]

/-- Closing a buffer tells whether it was open. -/
theorem mem_closed_iff (p : Provider (Session Unit)) (b : BufferId) (wasOpen : Bool) :
    .closed b wasOpen ∈ (p.happens (.close b)).2 ↔ wasOpen = p.contains b := by
  have hclose : (p.happens (.close b)).2 = (p.closeStep b).2 := rfl
  rw [hclose, contains]
  cases hb : p.deskOf? b with
  | none => simp [closeStep_of_closed hb]
  | some k => simp [closeStep_of_open hb, logged]

/-- Closing a buffer does nothing to the others. -/
theorem Tidy.close_others (h : Tidy p) {c : BufferId} (hcb : c ≠ b) :
    (p.happens (.close b)).1.deskOf? c = p.deskOf? c ∧
      ∀ j, p.deskOf? c = some j → (p.happens (.close b)).1.desks[j]? = p.desks[j]? := by
  have hclose : (p.happens (.close b)).1 = (p.closeStep b).1 := rfl
  rw [hclose]
  constructor
  · rw [deskOf?, registry_closeStep, List.find?_filter, deskOf?]
    congr 2
    funext r
    by_cases hrc : r.1 = c
    · simp [hrc, hcb]
    · simp [hrc]
  · intro j hc
    cases hb : p.deskOf? b with
    | none => rw [closeStep_of_closed hb]
    | some k =>
      rw [closeStep_of_open hb, cancelAt_eq_alter]
      exact getElem?_alter_ne (h.desk_ne hc hb hcb)

/-! ## Opening again -/

/-- A buffer that is not open is opened by its uses only. -/
theorem closed_move (hb : p.deskOf? b = none) (he : e.uses? ≠ some b) (htidy : Tidy p)
    (hp : Move e p p') : p'.deskOf? b = none := by
  have hnone {q : Provider (Session Unit)} (hq : ∀ r ∈ q.registry, r.1 ≠ b) :
      q.deskOf? b = none := by
    rw [deskOf?, Option.map_eq_none_iff, List.find?_eq_none]
    exact fun r hr => by simpa using hq r hr
  cases hp with
  | attends hp =>
    rw [deskOf?, (htidy.spares_attends hp).registry]
    exact hb
  | @opens c settings hc =>
    refine hnone fun r hr => ?_
    rcases List.mem_append.1 hr with hr | hr
    · exact ne_of_deskOf?_eq_none hb hr
    · rw [List.mem_singleton.1 hr]
      rintro rfl
      exact he hc
  | closes hc => exact hnone fun r hr => ne_of_deskOf?_eq_none hb (List.mem_filter.1 hr).1
  | _ => exact hb

/-- A buffer stays closed until it is used again. -/
theorem closed_run (hb : p.deskOf? b = none) (htidy : Tidy p) {es : List (Event Desk.Event)}
    (hes : ∀ e ∈ es, e.uses? ≠ some b) : (Machine.run happens p es).1.deskOf? b = none := by
  have hguarded : Machine.Guarded Provider.happens (fun _ e => e.uses? ≠ some b) p es :=
    Machine.guarded_of_forall p hes
  refine (Machine.run_invariant_of_guarded (P := fun p => Tidy p ∧ p.deskOf? b = none) ?_
    ⟨htidy, hb⟩ hguarded).2
  intro p e h he
  refine (happens_moves p e).preserve (P := fun p => Tidy p ∧ p.deskOf? b = none) ?_ h
  rintro q q' ⟨htidy, hb⟩ hp
  exact ⟨htidy.move hp, closed_move hb he htidy hp⟩

/-- The buffer is not open, and its next use finds it as if it had never been. -/
structure Afresh (p : Provider (Session Unit)) (b : BufferId) : Prop where
  closed : p.contains b = false
  desk : ∀ own, ∃ d, (p.deskFor b own).1.deskOf? b = some p.desks.length ∧
    (p.deskFor b own).1.desks[p.desks.length]? = some d ∧
    d.coordinator.state = .idle ∧ d.coordinator.nextId = 1 ∧ d.sessions = [] ∧
    d.coordinator.settings = own.getD p.settings
  check : ∀ system ticket text host, p.requested? (.check system ticket b text host)
    = some (p.desks.length, ⟨1, p.settings, system, ticket, text, host⟩)

/-- A buffer that is not open is used afresh. -/
theorem afresh_of_closed (hb : p.deskOf? b = none) : Afresh p b where
  closed := by simp [contains, hb]
  desk own := by
    rw [deskFor_of_closed hb]
    exact ⟨_, deskOf?_openBuffer hb _, List.getElem?_concat_length, rfl, rfl, rfl, rfl⟩
  check system ticket text host := by
    have hasked : p.requested? (.check system ticket b text host)
        = (p.deskFor b none).1.requestedAt? (p.deskFor b none).2.1
            (.request system ticket text host) := rfl
    have hfresh : (p.openBuffer b p.settings).desks[p.desks.length]?
        = some (Desk.opened p.settings p.parser p.channel) := List.getElem?_concat_length
    rw [hasked, deskFor_of_closed hb]
    exact requestedAt?_request hfresh system ticket text host

/-- The check was begun for the buffer in the course of these events. -/
def Begun (p : Provider (Session Unit)) (es : List (Event Desk.Event)) (b : BufferId)
    (k id : Nat) : Prop :=
  ∃ first system ticket text host rest q, es = first ++ .check system ticket b text host :: rest ∧
    (Machine.run happens p first).1.requested? (.check system ticket b text host) = some (k, q) ∧
    q.id = id

/-- A check that was begun for a buffer is tracked from then on. -/
theorem Begun.tracked (htidy : Tidy p) {es : List (Event Desk.Event)} (h : Begun p es b k id) :
    Tracked b k id (Machine.run happens p es).1 := by
  obtain ⟨first, system, ticket, text, host, rest, q, rfl, hasked, rfl⟩ := h
  have htidy' : Tidy (Machine.run happens p first).1 :=
    Machine.run_invariant (fun _ e h => h.happens e) htidy first
  obtain ⟨k', q', hasked', htracked⟩ := htidy'.tracked_check system ticket b text host
  obtain ⟨rfl, rfl⟩ := Prod.mk.inj (Option.some.inj (hasked'.symm.trans hasked))
  rw [Machine.run_append, Machine.run_cons]
  exact htracked.run (htidy'.happens _) rest

/-- What closing a buffer, alone or with all others, brings about for the checks that were begun
for it. -/
structure Silences (p : Provider (Session Unit)) (begun : Nat → Nat → Prop) (b : BufferId)
    (closing : Event Desk.Event) (rest : List (Event Desk.Event)) : Prop where
  /-- No callback of the checks is called. -/
  silent : ∀ k id, begun k id → ∀ found telling,
    .note (.desk k (.told id found telling)) ∉ (Machine.run happens p (closing :: rest)).2
  /-- Their sessions are over, whatever process they still get. -/
  ended : ∀ k id, begun k id → ∃ d s, (Machine.run happens p (closing :: rest)).1.desks[k]? = some d ∧
    d.session? id = some s ∧ s.Over
  /-- What happens at their desk concerns no open buffer. -/
  apart : ∀ k id, begun k id → ∀ x, Spares (Machine.run happens p (closing :: rest)).1
    ((Machine.run happens p (closing :: rest)).1.happens (.desk k x)).1
  /-- The next use of the buffer opens it. -/
  afresh : (∀ e ∈ rest, e.uses? ≠ some b) →
    Afresh (Machine.run happens p (closing :: rest)).1 b
  wasOpen : closing = .close b → ∀ wasOpen,
    .closed b wasOpen ∈ (p.happens closing).2 ↔ wasOpen = p.contains b
  others : closing = .close b → ∀ c ≠ b, (p.happens closing).1.deskOf? c = p.deskOf? c ∧
    ∀ j, p.deskOf? c = some j → (p.happens closing).1.desks[j]? = p.desks[j]?
  empty : closing = .shutdown → (p.happens closing).1.size = 0

/-- Closing silences. Once a buffer is closed, alone or with all others, no callback of a check that
was begun for it before is called; the session of such a check is over, and its desk is none of the
open buffers'. The buffer is not open until it is used again, which gives it a desk as new. -/
theorem closing_silences (settings : Settings) (parser : OutputParser) (channel : Channel)
    (es rest : List (Event Desk.Event)) (b : BufferId) (closing : Event Desk.Event)
    (hclosing : closing = .close b ∨ closing = .shutdown) :
    Silences (Machine.run happens (opened settings parser channel) es).1
      (Begun (opened settings parser channel) es b) b closing rest := by
  have htidy := tidy_run settings parser channel es
  have htracked (k id : Nat) (h : Begun (opened settings parser channel) es b k id) :=
    h.tracked (tidy_opened settings parser channel)
  generalize (Machine.run happens (opened settings parser channel) es).1 = p at htidy htracked ⊢
  generalize Begun (opened settings parser channel) es b = begun at htracked ⊢
  have hclosed := htidy.happens closing
  have hb := deskOf?_of_closing p hclosing
  -- A check that was begun is still held by the buffer's desk or has been dismissed, and a closed
  -- buffer has no desk.
  have hdismissed (k id : Nat) (h : begun k id) : Dismissed k id (p.happens closing).1 := by
    refine ((htracked k id h).moves htidy (happens_moves p closing)).resolve_left fun hheld => ?_
    cases hb.symm.trans hheld.desk
  have hlater : Tidy (Machine.run happens p (closing :: rest)).1 :=
    Machine.run_invariant (fun _ e h => h.happens e) htidy (closing :: rest)
  have hstays (k id : Nat) (h : begun k id) :
      Dismissed k id (Machine.run happens p (closing :: rest)).1 :=
    (hdismissed k id h).run hclosed rest
  constructor
  case silent =>
    intro k id h found telling hseen
    rcases List.mem_append.1 hseen with hnow | hafter
    · rcases isLog_or_leaves hnow with hlog | hn
      · cases hlog
      · rcases hclosing with rfl | rfl <;> cases hn
    · exact (hdismissed k id h).not_told_run hclosed rest hafter
  case ended => exact fun k id h => (hstays k id h).over hlater
  case apart => exact fun k id h x => hlater.spares_desk (hstays k id h).closed x
  case afresh => exact fun hrest => afresh_of_closed (closed_run hb hclosed hrest)
  case wasOpen =>
    rintro rfl wasOpen
    exact mem_closed_iff p b wasOpen
  case others =>
    rintro rfl c hcb
    exact htidy.close_others hcb
  case empty =>
    rintro rfl
    rw [size, registry_shutdown]
    rfl

/-- A buffer is closed while its linter is being spawned, and is checked again before the process
comes. -/
theorem late_process_of_closed_buffer :
    let system : System := { find := fun _ => some "/usr/bin/sqlfluff", environment := [] }
    let check (ticket : Nat) : Event Desk.Event :=
      .check system ticket (.number 1) "a" (.display "r" none false)
    let p : Provider (Session Unit) := opened {} {} .log
    let rest : List (Event Desk.Event) := [check 2, .desk 0 (.session 1 (.spawned 1 { pid := 1001 }))]
    let reached := Machine.run happens p ([check 1] ++ .close (.number 1) :: rest)
    Begun p [check 1] (.number 1) 0 1 ∧
      Silences (Machine.run happens p [check 1]).1 (Begun p [check 1] (.number 1)) (.number 1)
        (.close (.number 1)) rest ∧
      reached.1.deskOf? (.number 1) = some 1 ∧
      (reached.1.desks[0]?.bind fun d => d.session? 1).map (fun s => s.children.map Child.kills)
        = some [1] := by
  intro system check p rest reached
  refine ⟨⟨[], system, 1, _, _, [], _, rfl, rfl, rfl⟩, ?_, by decide +kernel, by decide +kernel⟩
  exact closing_silences {} {} .log [check 1] rest (.number 1) (.close (.number 1)) (.inl rfl)

end Provider

end LiveLint
