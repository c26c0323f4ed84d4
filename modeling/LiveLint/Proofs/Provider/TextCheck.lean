import LiveLint.Proofs.Provider.Leaving

/-!
# A text is linted once, and nothing is left behind

A call that lints a text has a desk of its own, at which no buffer is checked and no other caller
waits (`Serves`). Whatever ends the call empties the slot of that desk, and as nothing else is
requested there, it stays empty: the session of the call is over, whichever of its steps was the
last (`text_checks_clean_up`).

What the call returns or raises is the one answer that the desk has given it. Other desks give it
none, as they have no check of the caller (`Avoids`).
-/

namespace LiveLint

namespace Provider

variable {p p' : Provider (Session Unit)} {e : Event Desk.Event} {ticket k : Nat}

/-! ## Desks that do not know the caller -/

/-- At no other desk than the given ones there is a check of the caller. -/
def Avoids (ticket : Nat) (known : Nat → Prop) (p : Provider (Session Unit)) : Prop :=
  ∀ (j : Nat) (d : Desk (Session Unit)), ¬ known j → p.desks[j]? = some d →
    Desk.Shuns d (.caller ticket)

variable {known : Nat → Prop}

/-- A desk that is altered goes on to avoid the caller if it is known, or shuns the caller still. -/
theorem Avoids.alter (h : Avoids ticket known p) (j : Nat)
    {f : Desk (Session Unit) → Desk (Session Unit)}
    (hf : ¬ known j → ∀ d, p.desks[j]? = some d → Desk.Shuns d (.caller ticket) →
      Desk.Shuns (f d) (.caller ticket)) : Avoids ticket known (p.alter j f) := by
  intro i d hi hd
  rcases getElem?_alter_cases hd with ⟨rfl, d, hbefore, rfl⟩ | ⟨-, hbefore⟩
  · exact hf hi d hbefore (h i d hi hbefore)
  · exact h i d hi hbefore

/-- A new desk has no check of anybody's. -/
theorem Avoids.addDesk (h : Avoids ticket known p) (settings : Settings) (channel : Channel) :
    Avoids ticket known (p.addDesk settings channel).1 := by
  intro j d hj hd
  rcases getElem?_concat_cases hd with hd | ⟨-, rfl⟩
  · exact h j d hj hd
  · exact Desk.shuns_opened settings p.parser channel _

/-- Seeing to callers brings the caller no check. -/
theorem Avoids.attends (h : Avoids ticket known p) (htidy : Tidy p) (hp : Attends p p') :
    Avoids ticket known p' := by
  cases hp with
  | marks => exact h
  | @ends s hs leave hleave =>
    have hfewer : Avoids ticket known (p.without s.ticket) := h
    refine hfewer.alter s.desk fun _ d hd hshuns => ?_
    have hregular := htidy.regular s.desk d hd
    rcases hleave d hregular with hsame | ⟨id, hleft⟩
    · rw [hsame]
      exact hregular.shuns_cancel hshuns
    · rw [hleft]
      exact (hregular.step _).shuns_cancel (hregular.shuns_step hshuns nofun)

/-- Taking in the notes of a desk brings the caller no check. -/
theorem Avoids.absorb (h : Avoids ticket known p) (htidy : Tidy p) (j : Nat) (notes : List Note) :
    Avoids ticket known (p.absorb j notes).1 :=
  (absorb_preserve (P := fun p => Tidy p ∧ Avoids ticket known p)
    (fun _ _ h hp => ⟨h.1.attends hp, h.2.attends h.1 hp⟩) ⟨htidy, h⟩ j notes).2

/-- A move brings the caller no check but at a known desk, unless the caller asks for it. -/
theorem Avoids.move (h : Avoids ticket known p) (htidy : Tidy p)
    (hhost : e.host? ≠ some (.caller ticket)) (hp : Move e p p') : Avoids ticket known p' := by
  cases hp with
  | attends hp => exact h.attends htidy hp
  | configures s => exact h
  | opens settings he hb => exact h.addDesk settings p.channel
  | @closes b j hb =>
    have hfewer : Avoids ticket known (p.forget b) := h
    exact hfewer.alter j fun _ d hd hshuns => (htidy.regular j d hd).shuns_cancel hshuns
  | admits settings he => exact h.addDesk settings .log
  | acts j x hx hasks =>
    refine h.alter j fun _ d hd hshuns => (htidy.regular j d hd).shuns_step hshuns ?_
    rintro system t text rfl
    exact hhost (hasks system t text _ rfl)

/-- An event brings the caller no check but at a known desk, unless the caller asks for it. -/
theorem Avoids.happens (h : Avoids ticket known p) (htidy : Tidy p)
    (hhost : e.host? ≠ some (.caller ticket)) : Avoids ticket known (p.happens e).1 := by
  refine ((happens_moves p e).preserve (P := fun p' => Tidy p' ∧ Avoids ticket known p') ?_
    ⟨htidy, h⟩).2
  rintro q q' ⟨htidy, havoids⟩ hp
  exact ⟨htidy.move hp, havoids.move htidy hhost hp⟩

/-- An answer for the caller comes from the desks that know it. -/
theorem Avoids.known_of_answer (h : Avoids ticket known p) (htidy : Tidy p)
    (hhost : e.host? ≠ some (.caller ticket)) {j id : Nat} {found : CheckState}
    {result : Except LintError (List Diagnostic)}
    (hn : .told id found (.answer ticket result) ∈ p.leaves j e) : known j := by
  by_contra hj
  -- The desk has no check of the caller before the event, and the event requests none.
  have hby {q : Provider (Session Unit)} (htidy : Tidy q) (havoids : Avoids ticket known q)
      {x : Desk.Event} (hx : ∀ system t text, x ≠ .request system t text (.caller ticket))
      (hmem : .told id found (.answer ticket result) ∈ q.notesBy j fun d => d.step x) : False := by
    unfold notesBy at hmem
    cases hd : q.desks[j]? with
    | none =>
      rw [hd] at hmem
      cases hmem
    | some d =>
      rw [hd] at hmem
      have hregular := htidy.regular j d hd
      exact hregular.not_answered (hregular.shuns_step (havoids j d hj hd) hx) hmem
  cases e with
  | check system t b text host =>
    have hdesk : Tidy (p.deskFor b none).1 ∧ Avoids ticket known (p.deskFor b none).1 := by
      refine (deskFor_moves (e := .check system t b text host) p rfl none).preserve
        (P := fun q => Tidy q ∧ Avoids ticket known q) ?_ ⟨htidy, h⟩
      rintro q q' ⟨htidy, havoids⟩ hp
      exact ⟨htidy.move hp, havoids.move htidy hhost hp⟩
    simp only [leaves] at hn
    split at hn
    · refine hby hdesk.1 hdesk.2 ?_ hn
      rintro system' t' text' heq
      cases heq
      exact hhost rfl
    · cases hn
  | checkText system t text own =>
    simp only [leaves] at hn
    split at hn
    · refine hby (htidy.enlist t _) (h.addDesk _ _) ?_ hn
      rintro system' t' text' heq
      cases heq
      exact hhost rfl
    · cases hn
  | desk i x =>
    simp only [leaves] at hn
    split at hn
    · refine hby htidy h ?_ hn
      rintro system' t' text' rfl
      exact hhost rfl
    · cases hn
  | _ => cases hn

/-! ## The desk of a call -/

/-- The desk serves the one call only, and has told it these things. Once the call has ended,
nothing is under way there. -/
structure Serves (p : Provider (Session Unit)) (ticket k : Nat) (told : List Note) : Prop where
  desk : ∃ d, p.desks[k]? = some d ∧ Desk.Single d 1 ∧ d.due 1 = told ∧
    ((∀ o ∈ p.oneShots, o.ticket ≠ ticket) → d.coordinator.slot = none)
  callers : ∀ o ∈ p.oneShots, o.ticket = ticket ↔ o.desk = k
  registry : ∀ r ∈ p.registry, r.2 ≠ k

variable {told : List Note}

/-- What happens at another desk does not matter. -/
theorem Serves.alter_ne (h : Serves p ticket k told) {j : Nat} (hjk : j ≠ k)
    (f : Desk (Session Unit) → Desk (Session Unit)) : Serves (p.alter j f) ticket k told where
  desk := by
    obtain ⟨d, hd, hrest⟩ := h.desk
    exact ⟨d, (getElem?_alter_ne (Ne.symm hjk)).trans hd, hrest⟩
  callers := h.callers
  registry := h.registry

/-- Nothing is told when the desk does something silently. -/
theorem due_of_silent {d : Desk (Session Unit)} (hd : Desk.Regular d) {x : Desk.Event}
    (hsilent : Desk.Silent (d.step x).2) (id : Nat) : (d.step x).1.due id = d.due id := by
  rw [(hd.sound.step_turns x).due hd.sound id, hsilent.filter_isFor, List.append_nil]

/-- Nobody is told when a check is canceled. -/
theorem silent_cancel (d : Desk (Session Unit)) : Desk.Silent d.cancel.2.2 := by
  intro n hn
  exact (Note.of_isLog (Desk.isLog_cancel d hn)).2

/-- Nobody is told when a request is abandoned. -/
theorem silent_abandon {d : Desk (Session Unit)} (hd : Desk.Regular d) (id t : Nat) :
    Desk.Silent (d.step (.session id (.abandon t))).2 := by
  rw [← sessionStep_abandon hd.sound]
  cases hs : d.session? id with
  | none =>
    rw [Desk.sessionStep_of_none hs]
    exact Desk.silent_nil
  | some s =>
    have hstep : s.step (.abandon t) = (s.endStart t, []) := rfl
    rw [Desk.sessionStep_of_session hs hstep]
    exact Desk.silent_nil

/-- A call that ends leaves an empty slot, and has been told what it was told before. -/
theorem Serves.ends (h : Serves p ticket k told) (htidy : Tidy p) {s : OneShot}
    (hs : s ∈ p.oneShots) {leave : Desk (Session Unit) → Desk (Session Unit)}
    (hleave : ∀ d, Desk.Regular d → leave d = d ∨
      ∃ id, leave d = (d.step (.session id (.abandon s.ticket))).1) :
    Serves ((p.without s.ticket).alter s.desk fun d => (leave d).cancel.1) ticket k told := by
  have hkept {o : OneShot} (ho : o ∈ (p.without s.ticket).oneShots) : o ∈ p.oneShots :=
    (List.mem_filter.1 ho).1
  obtain ⟨d, hd, hsingle, hdue, hslot⟩ := h.desk
  by_cases hticket : s.ticket = ticket
  · have hdesk : s.desk = k := (h.callers s hs).1 hticket
    have hregular := htidy.regular k d hd
    refine ⟨⟨(leave d).cancel.1, ?_⟩, fun o ho => h.callers o (hkept ho), h.registry⟩
    rw [hdesk]
    refine ⟨getElem?_alter_self hd, ?_⟩
    have hcancel {d' : Desk (Session Unit)} (hd' : Desk.Regular d') (hsingle : Desk.Single d' 1)
        (hdue : d'.due 1 = told) : Desk.Single d'.cancel.1 1 ∧ d'.cancel.1.due 1 = told ∧
          d'.cancel.1.coordinator.slot = none :=
      ⟨hd'.single_step (x := .cancel) hsingle nofun,
        (due_of_silent (x := .cancel) hd' (silent_cancel d') 1).trans hdue, hd'.slot_cancel⟩
    rcases hleave d hregular with hsame | ⟨id, hleft⟩
    · rw [hsame]
      obtain ⟨hsingle', hdue', hempty⟩ := hcancel hregular hsingle hdue
      exact ⟨hsingle', hdue', fun _ => hempty⟩
    · rw [hleft]
      obtain ⟨hsingle', hdue', hempty⟩ := hcancel (hregular.step _)
        (hregular.single_step (x := .session id (.abandon s.ticket)) hsingle nofun)
        ((due_of_silent hregular (silent_abandon hregular id s.ticket) 1).trans hdue)
      exact ⟨hsingle', hdue', fun _ => hempty⟩
  · -- Another call ends, at another desk.
    have hdesk : s.desk ≠ k := fun heq => hticket ((h.callers s hs).2 heq)
    have hother : Serves (p.without s.ticket) ticket k told := by
      refine ⟨⟨d, hd, hsingle, hdue, fun hnone => hslot fun o ho heq => ?_⟩,
        fun o ho => h.callers o (hkept ho), h.registry⟩
      have hthere : o ∈ (p.without s.ticket).oneShots :=
        List.mem_filter.2 ⟨ho, by simpa [heq] using Ne.symm hticket⟩
      exact hnone o hthere heq
    exact hother.alter_ne hdesk _

/-- A desk serves its call while callers are seen to. -/
theorem Serves.attends (h : Serves p ticket k told) (htidy : Tidy p) (hp : Attends p p') :
    Serves p' ticket k told := by
  cases hp with
  | @marks t f hf =>
    have hsame {o : OneShot} : (if o.ticket = t then f o else o).ticket = o.ticket ∧
        (if o.ticket = t then f o else o).desk = o.desk := by
      split
      · exact hf o
      · exact ⟨rfl, rfl⟩
    obtain ⟨d, hd, hsingle, hdue, hslot⟩ := h.desk
    refine ⟨⟨d, hd, hsingle, hdue, fun hnone => hslot fun o ho heq => ?_⟩, fun o' ho' => ?_,
      h.registry⟩
    · exact hnone _ (List.mem_map_of_mem ho) (hsame.1.trans heq)
    · obtain ⟨o, ho, rfl⟩ := List.mem_map.1 ho'
      rw [hsame.1, hsame.2]
      exact h.callers o ho
  | ends hs hleave => exact h.ends htidy hs hleave

/-- A desk serves its call while another desk is opened. -/
theorem Serves.addDesk (h : Serves p ticket k told) (settings : Settings) (channel : Channel) :
    Serves (p.addDesk settings channel).1 ticket k told where
  desk := by
    obtain ⟨d, hd, hrest⟩ := h.desk
    obtain ⟨hk, -⟩ := List.getElem?_eq_some_iff.1 hd
    exact ⟨d, (List.getElem?_append_left hk).trans hd, hrest⟩
  callers := h.callers
  registry := h.registry

/-- The desk that serves a call is one of the provider's. -/
theorem Serves.lt (h : Serves p ticket k told) : k < p.desks.length := by
  obtain ⟨d, hd, -⟩ := h.desk
  exact (List.getElem?_eq_some_iff.1 hd).1

/-- What is done elsewhere does not matter. -/
theorem Serves.move (h : Serves p ticket k told) (htidy : Tidy p)
    (hhost : e.host? ≠ some (.caller ticket)) (helse : ∀ x, e ≠ .desk k x) (hp : Move e p p') :
    Serves p' ticket k told := by
  -- The desk of the call belongs to no buffer and is no new one. So a move works at another desk
  -- unless it is this caller's or goes to the desk directly, and neither is the case.
  have hbuffer {b : BufferId} {j : Nat} (hb : p.deskOf? b = some j) : j ≠ k :=
    h.registry _ (mem_of_deskOf? hb)
  have hlength : p.desks.length ≠ k := Nat.ne_of_gt h.lt
  cases hp with
  | attends hp => exact h.attends htidy hp
  | configures s => exact ⟨h.desk, h.callers, h.registry⟩
  | opens settings he hb =>
    have hopened := h.addDesk settings p.channel
    refine ⟨hopened.desk, hopened.callers, fun r hr => ?_⟩
    rcases List.mem_append.1 hr with hr | hr
    · exact h.registry r hr
    · rw [List.mem_singleton.1 hr]
      exact hlength
  | @closes b j hb =>
    have hforgot : Serves (p.forget b) ticket k told :=
      ⟨h.desk, h.callers, fun r hr => h.registry r (List.mem_filter.1 hr).1⟩
    exact hforgot.alter_ne (hbuffer hb) _
  | @admits system t text own settings he =>
    obtain ⟨d, hd, hsingle, hdue, hslot⟩ := (h.addDesk settings .log).desk
    have hother : t ≠ ticket := by
      rintro rfl
      exact hhost (by rw [he]; rfl)
    refine ⟨⟨d, hd, hsingle, hdue, fun hnone => hslot fun o ho => ?_⟩, fun o ho => ?_, h.registry⟩
    · exact hnone o (List.mem_append_left _ ho)
    · rcases List.mem_append.1 ho with ho | ho
      · exact h.callers o ho
      · rw [List.mem_singleton.1 ho]
        exact iff_of_false hother hlength
  | acts j x hx hasks =>
    refine h.alter_ne ?_ _
    rcases hx with rfl | ⟨b, hb⟩ | ⟨o, ho, rfl, system, text, own, he⟩
    · rintro rfl
      exact helse x rfl
    · exact hbuffer hb
    · intro heq
      have hticket := (h.callers o ho).2 heq
      exact hhost (by rw [he, ← hticket]; rfl)

/-- A desk serves its call through moves of which none happens at the desk. -/
theorem Serves.moves (h : Serves p ticket k told) (htidy : Tidy p)
    (hhost : e.host? ≠ some (.caller ticket)) (helse : ∀ x, e ≠ .desk k x) (hp : Moves e p p') :
    Serves p' ticket k told := by
  refine (hp.preserve (P := fun p' => Tidy p' ∧ Serves p' ticket k told) ?_ ⟨htidy, h⟩).2
  rintro q q' ⟨htidy, hserves⟩ hp
  exact ⟨htidy.move hp, hserves.move htidy hhost helse hp⟩

/-- A desk serves its call while the notes of any desk are taken in. -/
theorem Serves.absorb (h : Serves p ticket k told) (htidy : Tidy p) (j : Nat) (notes : List Note) :
    Serves (p.absorb j notes).1 ticket k told :=
  (absorb_preserve (P := fun p => Tidy p ∧ Serves p ticket k told)
    (fun _ _ h hp => ⟨h.1.attends hp, h.2.attends h.1 hp⟩) ⟨htidy, h⟩ j notes).2

/-- A step of the session of the call. -/
theorem Serves.session (h : Serves p ticket k told) (htidy : Tidy p) {x : Desk.Event}
    (hx : ∃ id oc, x = .session id oc) :
    Serves (p.happens (.desk k x)).1 ticket k
      (told ++ (p.leaves k (.desk k x)).filter Note.isTold) := by
  obtain ⟨d, hd, hsingle, hdue, hslot⟩ := h.desk
  have hregular := htidy.regular k d hd
  have hplain : ∀ system t text host, x ≠ .request system t text host := by
    rintro system t text host rfl
    obtain ⟨id, oc, heq⟩ := hx
    cases heq
  have hhappens : (p.happens (.desk k x)).1
      = ((p.alter k fun d => (d.step x).1).absorb k (p.notesBy k fun d => d.step x)).1 := by
    rw [← atDesk_eq_absorb]
    rfl
  have hsingle' := hregular.single_step hsingle hplain
  have hacted : Serves (p.alter k fun d => (d.step x).1) ticket k
      (told ++ (d.step x).2.filter Note.isTold) := by
    refine ⟨⟨(d.step x).1, getElem?_alter_self hd, hsingle', ?_, fun hnone => ?_⟩, h.callers,
      h.registry⟩
    · rw [hregular.due_step hsingle', hdue]
    · exact hregular.idle_step (hslot hnone) hplain
  rw [hhappens, leaves_desk hd]
  exact hacted.absorb (htidy.alter k fun d hd => hd.step x) k _

/-- Nothing leaves the desk of a call by what does not happen there. -/
theorem leaves_else (h : Serves p ticket k told) (hhost : e.host? ≠ some (.caller ticket))
    (helse : ∀ x, e ≠ .desk k x) : p.leaves k e = [] := by
  cases e with
  | check system t b text host =>
    refine if_neg fun heq => ?_
    have heq : k = (p.deskFor b none).2.1 := heq
    cases hb : p.deskOf? b with
    | some j =>
      rw [deskFor_of_open hb] at heq
      exact h.registry _ (mem_of_deskOf? hb) heq.symm
    | none =>
      rw [deskFor_of_closed hb] at heq
      exact Nat.ne_of_lt h.lt heq
  | checkText system t text own => exact if_neg (Nat.ne_of_lt h.lt)
  | desk j x =>
    refine if_neg fun heq => ?_
    exact helse x (by rw [heq])
  | _ => rfl

/-- The desk serves the call through all events that do not meddle with it. -/
theorem Serves.happens (h : Serves p ticket k told) (htidy : Tidy p)
    (hhost : e.host? ≠ some (.caller ticket))
    (hprivate : ∀ x, e = .desk k x → ∃ id oc, x = .session id oc) :
    Serves (p.happens e).1 ticket k (told ++ (p.leaves k e).filter Note.isTold) := by
  by_cases hown : ∃ x, e = .desk k x
  · obtain ⟨x, rfl⟩ := hown
    exact h.session htidy (hprivate x rfl)
  · have helse : ∀ x, e ≠ .desk k x := fun x hx => hown ⟨x, hx⟩
    rw [leaves_else h hhost helse, List.filter_nil, List.append_nil]
    exact h.moves htidy hhost helse (happens_moves p e)

/-- A call opens its desk and requests its check there. -/
theorem happens_checkText (p : Provider (Session Unit)) (system : System) (ticket : Nat)
    (text : Text) (own : Option Settings) :
    let settings := own.getD p.settings
    let x : Desk.Event := .request system ticket text (.caller ticket)
    let called := p.enlist ticket settings
    called.desks[p.desks.length]? = some (Desk.opened settings p.parser .log) ∧
      p.leaves p.desks.length (.checkText system ticket text own)
        = ((Desk.opened settings p.parser .log).step x).2 ∧
      (p.happens (.checkText system ticket text own)).1
        = ((called.alter p.desks.length fun d => (d.step x).1).absorb p.desks.length
            ((Desk.opened settings p.parser .log).step x).2).1 := by
  intro settings x called
  have hfresh : called.desks[p.desks.length]? = some (Desk.opened settings p.parser .log) :=
    List.getElem?_concat_length
  have hnotes : (called.notesBy p.desks.length fun d => d.step x)
      = ((Desk.opened settings p.parser .log).step x).2 := by
    rw [notesBy, hfresh]
    rfl
  refine ⟨hfresh, (if_pos rfl).trans hnotes, ?_⟩
  rw [← hnotes, ← atDesk_eq_absorb]
  rfl

/-- The call gets a desk of its own, which has told it what the request did at once. -/
theorem serves_checkText (htidy : Tidy p) (hnew : ∀ o ∈ p.oneShots, o.ticket ≠ ticket)
    (system : System) (text : Text) (own : Option Settings) :
    let call : Event Desk.Event := .checkText system ticket text own
    Serves (p.happens call).1 ticket p.desks.length
      ((p.leaves p.desks.length call).filter Note.isTold) := by
  intro call
  let settings := own.getD p.settings
  let x : Desk.Event := .request system ticket text (.caller ticket)
  let fresh := Desk.opened settings p.parser .log
  obtain ⟨hfresh, hleft, hhappens⟩ := happens_checkText p system ticket text own
  have hregular := Desk.regular_opened settings p.parser .log
  have hsingle : Desk.Single (fresh.step x).1 1 :=
    Desk.Regular.single_opened settings p.parser .log system ticket text (.caller ticket)
  have hacted : Serves ((p.enlist ticket settings).alter p.desks.length fun d => (d.step x).1)
      ticket p.desks.length ((fresh.step x).2.filter Note.isTold) := by
    refine ⟨⟨(fresh.step x).1, getElem?_alter_self hfresh, hsingle, ?_, fun hnone => ?_⟩,
      fun o ho => ?_, fun r hr => Nat.ne_of_lt (htidy.known r hr)⟩
    · rw [hregular.due_step hsingle]
      rfl
    · exact absurd rfl (hnone _ (List.mem_append_right _ (List.mem_singleton_self _)))
    · rcases List.mem_append.1 ho with ho | ho
      · exact iff_of_false (hnew o ho) (Nat.ne_of_lt (htidy.callers o ho).1)
      · rw [List.mem_singleton.1 ho]
        exact iff_of_true rfl rfl
  rw [hhappens, hleft]
  exact hacted.absorb ((htidy.enlist ticket settings).alter _ fun d hd => hd.step x) _ _

/-- The other desks do not learn of the caller. -/
theorem avoids_checkText (htidy : Tidy p) (havoids : Avoids ticket (fun _ => False) p)
    (system : System) (text : Text) (own : Option Settings) :
    Avoids ticket (· = p.desks.length) (p.happens (.checkText system ticket text own)).1 := by
  have hknown : Avoids ticket (· = p.desks.length) p := fun j d _ => havoids j d not_false
  have hadmitted : Avoids ticket (· = p.desks.length) (p.enlist ticket (own.getD p.settings)) :=
    hknown.addDesk (own.getD p.settings) .log
  obtain ⟨-, -, hhappens⟩ := happens_checkText p system ticket text own
  rw [hhappens]
  exact (hadmitted.alter _ fun hne => absurd rfl hne).absorb
    ((htidy.enlist ticket _).alter _ fun d hd => hd.step _) _ _

/-! ## What the caller gets -/

/-- What a desk tells its hosts in the course of these events. -/
def tells (p : Provider (Session Unit)) (k : Nat) : List (Event Desk.Event) → List Note
  | [] => []
  | e :: es => (p.leaves k e).filter Note.isTold ++ (p.happens e).1.tells k es

/-- A value or an error of the linter's, with which a call ends, is what the desk has told. -/
def Told (told : List Note) (ticket : Nat) : Except Failure (List Diagnostic) → Prop
  | .ok ds => told = [.told 1 .idle (.answer ticket (.ok ds))]
  | .error (.lint e) => told = [.told 1 .idle (.answer ticket (.error e))]
  | .error (.fault _) => True

/-- What a desk that serves one call has told, it has told once. -/
theorem Serves.told_eq (h : Serves p ticket k told) {id : Nat} {found : CheckState}
    {telling : Telling} (hmem : .told id found telling ∈ told) :
    told = [.told 1 .idle telling] := by
  obtain ⟨d, -, -, hdue, -⟩ := h.desk
  rw [← hdue] at hmem ⊢
  rcases Desk.due_cases d 1 with hnone | ⟨telling', hone⟩
  · rw [hnone] at hmem
    cases hmem
  · rw [hone] at hmem ⊢
    cases List.mem_singleton.1 hmem
    rfl

/-- The desk of a call has told it one thing at most. -/
theorem Serves.length_told (h : Serves p ticket k told) : told.length ≤ 1 := by
  obtain ⟨d, -, -, hdue, -⟩ := h.desk
  rw [← hdue]
  rcases Desk.due_cases d 1 with hnone | ⟨telling, hone⟩
  · simp [hnone]
  · simp [hone]

/-- More may be told later, but there is only one thing to tell. -/
theorem Serves.told_stays {more : List Note} (h : Serves p ticket k (told ++ more))
    {result : Except Failure (List Diagnostic)} (hresult : Told told ticket result) :
    Told (told ++ more) ticket result := by
  cases result with
  | ok ds =>
    rw [Told] at hresult ⊢
    exact h.told_eq (List.mem_append_left _ (hresult ▸ List.mem_singleton_self _))
  | error f =>
    cases f with
    | lint e =>
      rw [Told] at hresult ⊢
      exact h.told_eq (List.mem_append_left _ (hresult ▸ List.mem_singleton_self _))
    | fault f => trivial

/-- The answer that is kept for the caller is what its desk has told. -/
def Kept (ticket : Nat) (told : List Note) : Nat → Except LintError (List Diagnostic) → Prop :=
  fun t r => t = ticket → told = [.told 1 .idle (.answer ticket r)]

/-- A call that lints a text, under way or ended. -/
structure Serving (p : Provider (Session Unit)) (ticket k : Nat) (told : List Note) : Prop where
  tidy : Tidy p
  serves : Serves p ticket k told
  avoids : Avoids ticket (· = k) p
  accords : Accords (Kept ticket told) p

/-- What an event brings the caller is what its desk tells. -/
theorem Serves.told_of_leaves {more : List Note} (h : Serves p' ticket k (told ++ more))
    (haccords : Accords (Kept ticket told) p)
    (hfrom : ∀ j id found r, .told id found (.answer ticket r) ∈ p.leaves j e →
      .told id found (.answer ticket r) ∈ more) :
    Accords (Kept ticket (told ++ more)) (p.happens e).1 ∧
      ∀ result, .note (.checked ticket result) ∈ (p.happens e).2 →
        Told (told ++ more) ticket result := by
  have hkept : Accords (Kept ticket (told ++ more)) p := by
    rintro o ho r hr rfl
    have hold := haccords o ho r hr rfl
    exact h.told_eq (List.mem_append_left _ (hold ▸ List.mem_singleton_self _))
  obtain ⟨hafter, hgrounded⟩ := hkept.happens (e := e) (by
    rintro j id found t r hn rfl
    exact h.told_eq (List.mem_append_right _ (hfrom j id found r hn)))
  refine ⟨hafter, fun result hseen => ?_⟩
  have hresult := hgrounded _ hseen
  cases result with
  | ok ds => exact hresult rfl
  | error f =>
    cases f with
    | lint err => exact hresult rfl
    | fault f => trivial

/-- A call goes on to be served by an event, and gets what its desk has told if it ends. -/
theorem Serving.happens (h : Serving p ticket k told) (hhost : e.host? ≠ some (.caller ticket))
    (hprivate : ∀ x, e = .desk k x → ∃ id oc, x = .session id oc) :
    Serving (p.happens e).1 ticket k (told ++ (p.leaves k e).filter Note.isTold) ∧
      ∀ result, .note (.checked ticket result) ∈ (p.happens e).2 →
        Told (told ++ (p.leaves k e).filter Note.isTold) ticket result := by
  have hserves := h.serves.happens h.tidy hhost hprivate
  obtain ⟨haccords, htold⟩ := hserves.told_of_leaves h.accords (e := e) fun j id found r hn => by
    obtain rfl : j = k := h.avoids.known_of_answer h.tidy hhost hn
    exact List.mem_filter.2 ⟨hn, rfl⟩
  exact ⟨⟨h.tidy.happens e, hserves, h.avoids.happens h.tidy hhost, haccords⟩, htold⟩

/-- A call goes on to be served, whatever happens, and gets what its desk has told if it ends. -/
theorem Serving.run (h : Serving p ticket k told) (es : List (Event Desk.Event))
    (hhost : ∀ e ∈ es, e.host? ≠ some (.caller ticket))
    (hprivate : ∀ x, .desk k x ∈ es → ∃ id oc, x = .session id oc) :
    Serving (Machine.run Provider.happens p es).1 ticket k (told ++ p.tells k es) ∧
      ∀ result, .note (.checked ticket result) ∈ (Machine.run Provider.happens p es).2 →
        Told (told ++ p.tells k es) ticket result := by
  induction es generalizing p told with
  | nil =>
    have hnothing : told ++ p.tells k [] = told := List.append_nil told
    rw [hnothing]
    exact ⟨h, fun result hmem => by cases hmem⟩
  | cons e es ih =>
    obtain ⟨hnext, hnow⟩ := h.happens (hhost e List.mem_cons_self)
      fun x heq => hprivate x (heq ▸ List.mem_cons_self)
    obtain ⟨hend, hlater⟩ := ih hnext (fun e' he' => hhost e' (List.mem_cons_of_mem e he'))
      fun x hx => hprivate x (List.mem_cons_of_mem e hx)
    rw [tells, ← List.append_assoc]
    refine ⟨hend, fun result hmem => ?_⟩
    rcases List.mem_append.1 hmem with hmem | hmem
    · exact hend.serves.told_stays (hnow result hmem)
    · exact hlater result hmem

/-- What is known of the provider when the call has begun. -/
theorem serving_checkText (htidy : Tidy p) (hnew : ∀ o ∈ p.oneShots, o.ticket ≠ ticket)
    (havoids : Avoids ticket (fun _ => False) p) (system : System) (text : Text)
    (own : Option Settings) :
    let call : Event Desk.Event := .checkText system ticket text own
    let told := (p.leaves p.desks.length call).filter Note.isTold
    Serving (p.happens call).1 ticket p.desks.length told ∧
      ∀ result, .note (.checked ticket result) ∈ (p.happens call).2 → Told told ticket result := by
  intro call told
  have hserves : Serves (p.happens call).1 ticket p.desks.length ([] ++ told) :=
    serves_checkText htidy hnew system text own
  obtain ⟨haccords, htold⟩ := hserves.told_of_leaves (p := p) (e := call)
    (fun o ho r _ heq => absurd heq (hnew o ho)) fun j id found r hn => by
      have hj : j = p.desks.length := by
        by_contra hne
        have hnone : p.leaves j call = [] := if_neg hne
        rw [hnone] at hn
        cases hn
      exact List.mem_filter.2 ⟨hj ▸ hn, rfl⟩
  exact ⟨⟨htidy.happens call, hserves, avoids_checkText htidy havoids system text own, haccords⟩,
    htold⟩

/-! ## What the call leaves alone -/

/-- The event belongs to a call that lints a text: it begins or ends the call, or happens at its
desk. -/
def Event.OfCall (ticket k : Nat) : Event Desk.Event → Prop
  | .checkText _ t _ _ => t = ticket
  | .abandon t => t = ticket
  | .desk j _ => j = k
  | _ => False

/-- What belongs to a call spares all buffers. -/
theorem Tidy.spares_happens (h : Tidy p) (hk : ∀ r ∈ p.registry, r.2 ≠ k)
    (he : e.OfCall ticket k) : Spares p (p.happens e).1 := by
  cases e with
  | checkText system t text own =>
    obtain ⟨-, -, hhappens⟩ := happens_checkText p system t text own
    rw [hhappens]
    have hacted := (h.spares_enlist t (own.getD p.settings)).alter
      (fun r hr => Nat.ne_of_lt (h.known r hr)) fun d =>
        (d.step (.request system t text (.caller t))).1
    exact hacted.trans (((h.enlist t _).alter _ fun d hd => hd.step _).spares_absorb _ _)
  | abandon t =>
    cases hs : p.oneShot? t with
    | none =>
      have hsame : p.abandon t = (p, []) := by
        unfold abandon
        rw [hs]
      have hhappens : (p.happens (.abandon t)).1 = p := congrArg Prod.fst hsame
      rw [hhappens]
      exact .refl p
    | some s =>
      have hhappens : (p.happens (.abandon t)).1 = (p.abandon t).1 := rfl
      rw [hhappens, abandon_eq_alter hs]
      exact (spares_without p t).alter (h.callers s (List.mem_of_find?_eq_some hs)).2 _
  | desk j x =>
    obtain rfl : j = k := he
    exact h.spares_desk hk x
  | _ => exact he.elim

/-! ## The end of a call -/

/-- A call that lints a text, followed by other events, cleans up after itself. -/
structure CleansUp (p : Provider (Session Unit)) (ticket : Nat) (call : Event Desk.Event)
    (rest : List (Event Desk.Event)) : Prop where
  /-- Whatever the call does, open buffers and the settings for new ones are none of its
  business. -/
  spares : ∀ mid e later, call :: rest = mid ++ e :: later → e.OfCall ticket p.desks.length →
    Spares (Machine.run happens p mid).1 (Machine.run happens p (mid ++ [e])).1
  /-- The desk of the call does not answer twice. -/
  once : (p.tells p.desks.length (call :: rest)).length ≤ 1
  /-- The call returns or raises what its desk has told. -/
  told : ∀ result, .note (.checked ticket result) ∈ (Machine.run happens p (call :: rest)).2 →
    Told (p.tells p.desks.length (call :: rest)) ticket result
  /-- Once the call has ended, nothing is under way at its desk, and its session is over. -/
  rests : (∃ result,
      .note (.checked ticket result) ∈ (Machine.run happens p (call :: rest)).2) ∨
      .abandon ticket ∈ rest →
    ∃ d, (Machine.run happens p (call :: rest)).1.desks[p.desks.length]? = some d ∧
      d.AtRest ∧ d.Single 1

/-- Before a call begins, nobody knows of its caller. -/
theorem unknown_run (settings : Settings) (parser : OutputParser) (channel : Channel)
    {es : List (Event Desk.Event)} (hes : ∀ e ∈ es, e.host? ≠ some (.caller ticket)) :
    let p := (Machine.run happens (opened settings parser channel) es).1
    (∀ o ∈ p.oneShots, o.ticket ≠ ticket) ∧ Avoids ticket (fun _ => False) p := by
  have hfresh : ∀ o ∈ (opened settings parser channel : Provider (Session Unit)).oneShots,
      o.ticket ≠ ticket := nofun
  have hopened : Avoids ticket (fun _ => False) (opened settings parser channel) :=
    fun _ _ _ hd => by cases hd
  refine ⟨ticket_ne_run hes (.inr (.inr hfresh)), ?_⟩
  have hstep (p : Provider (Session Unit)) (e : Event Desk.Event)
      (h : Tidy p ∧ Avoids ticket (fun _ => False) p) (he : e.host? ≠ some (.caller ticket)) :
      Tidy (p.happens e).1 ∧ Avoids ticket (fun _ => False) (p.happens e).1 :=
    ⟨h.1.happens e, h.2.happens h.1 he⟩
  exact (Machine.run_invariant_of_guarded hstep ⟨tidy_opened settings parser channel, hopened⟩
    (Machine.guarded_of_forall _ hes)).2

/-- A call that lints a text leaves nothing behind, however it ends: its session is over, its desk
has no check under way, and the provider has the buffers and the settings that it had. What it
returns is what its desk has reported, and a linter's error that it raises is the one that its desk
has told.

The caller's ticket is the call's own, and at its desk, which nobody else knows of, its session
alone goes on. -/
theorem text_checks_clean_up (settings : Settings) (parser : OutputParser) (channel : Channel)
    (first rest : List (Event Desk.Event)) (system : System) (ticket : Nat) (text : Text)
    (own : Option Settings)
    (hticket : ∀ e ∈ first ++ rest, e.host? ≠ some (.caller ticket))
    (hprivate : ∀ x,
      .desk (Machine.run happens (opened settings parser channel) first).1.desks.length x ∈ rest →
        ∃ id oc, x = .session id oc) :
    CleansUp (Machine.run happens (opened settings parser channel) first).1 ticket
      (.checkText system ticket text own) rest := by
  have htidy := tidy_run settings parser channel first
  obtain ⟨hnew, havoids⟩ := unknown_run settings parser channel
    fun e he => hticket e (List.mem_append_left rest he)
  generalize (Machine.run happens (opened settings parser channel) first).1 = p
    at htidy hnew havoids hprivate ⊢
  obtain ⟨hbegun, htold⟩ := serving_checkText htidy hnew havoids system text own
  -- The desk serves the call after any part of the rest, which is needed at its end and at every
  -- step of it.
  have hlater (es : List (Event Desk.Event)) (hes : es ⊆ rest) :=
    hbegun.run es (fun e he => hticket e (List.mem_append_right first (hes he)))
      fun x hx => hprivate x (hes hx)
  obtain ⟨hserving, hchecked⟩ := hlater rest (List.Subset.refl rest)
  constructor
  case spares =>
    intro mid e later heq he
    rw [Machine.run_concat]
    cases mid with
    | nil => exact htidy.spares_happens (fun r hr => Nat.ne_of_lt (htidy.known r hr)) he
    | cons c mid =>
      rw [List.cons_append, List.cons.injEq] at heq
      obtain ⟨rfl, rfl⟩ := heq
      obtain ⟨hthen, -⟩ := hlater mid fun x hx => List.mem_append_left _ hx
      exact hthen.tidy.spares_happens hthen.serves.registry he
  case once => exact hserving.serves.length_told
  case told =>
    intro result hmem
    rcases List.mem_append.1 hmem with hmem | hmem
    · exact hserving.serves.told_stays (htold result hmem)
    · exact hchecked result hmem
  case rests =>
    intro hended
    obtain ⟨d, hd, hsingle, -, hslot⟩ := hserving.serves.desk
    refine ⟨d, hd, (hserving.tidy.regular _ d hd).atRest (hslot ?_), hsingle⟩
    refine ticket_ne_run (fun e he => hticket e (List.mem_append_right first he)) ?_
    rcases hended with ⟨result, hmem⟩ | hleft
    · rcases List.mem_append.1 hmem with hnow | hmem
      · exact .inr (.inr (ticket_ne_of_seen hnow))
      · exact .inl ⟨result, hmem⟩
    · exact .inr (.inl hleft)

/-- What happens after a text is to be linted: a buffer is closed, and the linter prints an
issue. -/
def lintedMeanwhile : List (Event Desk.Event) :=
  let printed : Text :=
    "[\x7b\"line\": 1, \"start_column\": 1, \"end_column\": 2, \"message\": \"x\"\x7d]"
  [.desk 1 (.session 1 (.spawned 2 { pid := 1002 })), .close (.number 1),
    .desk 1 (.session 1 (.read 0)),
    .desk 1 (.session 1 (.exit 0 { code := 1, stdout := (Encoding.utf8.encode? printed).getD [] })),
    .desk 1 (.session 1 (.read 0))]

/-- The caller gives up while the linter runs. -/
def givenUpMeanwhile : List (Event Desk.Event) :=
  [.desk 1 (.session 1 (.spawned 2 { pid := 1002 })), .abandon 2]

/-- A call that ends by itself and one that is given up clean up after themselves. -/
theorem text_checked_or_given_up :
    let system : System := { find := fun _ => some "/usr/bin/sqlfluff", environment := [] }
    let first : List (Event Desk.Event) :=
      [.check system 1 (.number 1) "a" (.display "r" none false)]
    let p : Provider (Session Unit) := (Machine.run happens (opened {} {} .log) first).1
    let call : Event Desk.Event := .checkText system 2 "b" none
    let reached := Machine.run happens p (call :: lintedMeanwhile)
    let left := Machine.run happens p (call :: givenUpMeanwhile)
    (CleansUp p 2 call lintedMeanwhile ∧ CleansUp p 2 call givenUpMeanwhile) ∧
      (notesOf reached.2).filterMap (fun
        | .checked 2 (.ok ds) => some (ds.map Diagnostic.message)
        | _ => none) = [[Text.ofString "x"]] ∧
      (left.1.desks[1]?.bind fun d => d.session? 1).map (fun s => s.children.map Child.kills)
        = some [1] := by
  intro system first p call reached left
  have hlength : p.desks.length = 1 := by decide +kernel
  refine ⟨⟨?_, ?_⟩, by decide +kernel, by decide +kernel⟩
  · refine text_checks_clean_up {} {} .log first lintedMeanwhile system 2 "b" none
      (by simp [first, lintedMeanwhile, Event.host?]) fun x hx => ?_
    change .desk p.desks.length x ∈ lintedMeanwhile at hx
    rw [hlength] at hx
    simp only [lintedMeanwhile, List.mem_cons, Event.desk.injEq, true_and, List.not_mem_nil,
      or_false, reduceCtorEq, false_or] at hx
    rcases hx with rfl | rfl | rfl | rfl <;> exact ⟨_, _, rfl⟩
  · refine text_checks_clean_up {} {} .log first givenUpMeanwhile system 2 "b" none
      (by simp [first, givenUpMeanwhile, Event.host?]) fun x hx => ?_
    change .desk p.desks.length x ∈ givenUpMeanwhile at hx
    rw [hlength] at hx
    simp only [givenUpMeanwhile, List.mem_cons, Event.desk.injEq, true_and, List.not_mem_nil,
      or_false, reduceCtorEq] at hx
    exact ⟨_, _, hx⟩

end Provider

end LiveLint
