import LiveLint.Proofs.Session.SingleProcess

/-!
# Canceled sessions

A cancelation ends a session that has not ended, once, and from then on nobody is told anything and
no output is kept. Its process is killed if the session holds it, and otherwise when it comes. Only
a session that was released while it ran has a process that it does not hold: that one runs on
(`let_go_process_runs_on`). That is all that can go wrong with a session that is started once
(`canceled_process_stopped_unless_let_go`).
-/

namespace LiveLint

namespace Session

variable {κ : Type}

/-! ## Who is told -/

/-- A session that has not ended, or was canceled, has told its callbacks nothing, and is not about
to. -/
def Unheard (s : Session κ) (past : List (Effect κ)) : Prop :=
  s.status.isTerminal = false ∨ s.status = .canceled → s.calling = [] ∧ deliveries past = []

/-- Callbacks go on to be told nothing while neither they nor the calls that wait change. -/
theorem Unheard.of_sameAudience {s s' : Session κ} {past effects : List (Effect κ)}
    (h : Unheard s past) (haudience : SameAudience s s') (hprivate : ∀ f ∈ effects, f.isPrivate)
    (hbefore : s.status.isTerminal = false ∨ s.status = .canceled) :
    Unheard s' (past ++ effects) := by
  obtain ⟨hcalling, hpast⟩ := h hbefore
  refine fun _ => ⟨haudience.calling.trans hcalling, ?_⟩
  rw [deliveries_append, hpast, deliveries_of_private hprivate]
  rfl

/-- Callbacks are told nothing by an event, unless the session ends by itself. -/
theorem Unheard.step {s : Session κ} {past : List (Effect κ)} (h : Unheard s past) (hsole : Sole s)
    (e : Event κ) : Unheard (s.step e).1 (past ++ (s.step e).2) := by
  have hturnover := s.step_turnover e
  generalize s.step e = p at hturnover
  cases hturnover with
  | keeps haudience hgrip hstatus houtcome hchildren hprivate =>
    intro hafter
    exact h.of_sameAudience haudience hprivate (hstatus ▸ hafter) hafter
  | late child haudience hgrip hcanceled hstatus houtcome hchildren hprivate =>
    exact h.of_sameAudience haudience hprivate (.inr hcanceled)
  | begins child hgets haudience hstatus houtcome hhandle hreader hchildren hprivate =>
    have hpending := hsole.pending_of_gets hgets
    exact h.of_sameAudience haudience hprivate (.inl (by rw [hpending]; rfl))
  | fails error hpending haudience hgrip hstatus houtcome hchildren hprivate =>
    exact h.of_sameAudience haudience hprivate (.inl (by rw [hpending]; rfl))
  | ends he hopen hfits hself hgrip hreleased hstatus =>
    -- Here the callbacks are about to be called, but the session has ended by itself.
    rw [Unheard, hstatus, hfits.terminal]
    exact fun hafter => absurd hafter (by simp [hself])
  | registers => simpa [Unheard] using h
  | answers he hreleased hterminal hcanceled =>
    exact fun hafter => absurd hafter (by simp [hterminal, hcanceled])
  | calls he hcalling =>
    intro hafter
    obtain ⟨hnone, -⟩ := h hafter
    rw [hcalling] at hnone
    cases hnone
  | cancels he hopen =>
    obtain ⟨hcalling, hpast⟩ := h (.inl hopen)
    rw [cancel_of_open hopen]
    exact fun _ => ⟨by rw [release_calling]; exact hcalling, by rw [deliveries_append, hpast]; rfl⟩
  | releases =>
    rw [Unheard, release_status, release_calling, List.append_nil]
    exact h

/-- A session that is canceled has told its callbacks nothing, whatever has happened. -/
theorem unheard_run {s : Session κ} (hsole : Sole s) (hcalling : s.calling = [])
    {es : List (Event κ)} (hes : Machine.Guarded Session.step (fun s e => ¬ Overlaps s e) s es) :
    Unheard (Machine.run Session.step s es).1 (Machine.run Session.step s es).2 :=
  hsole.run_preserves (fun _ _ e hsole h => h.step hsole e) (fun _ => ⟨hcalling, rfl⟩) hes

/-! ## Which call is told -/

/-- A call is told that it canceled the session exactly when the session had not ended. -/
theorem answer_of_cancel (s : Session κ) :
    answerOf (s.step .cancel).2 = some (.ok true) ↔ s.status.isTerminal = false := by
  change answerOf s.cancel.2 = _ ↔ _
  by_cases hterminal : s.status.isTerminal
  · simp [cancel_of_terminal hterminal, answerOf, hterminal]
  · rw [Bool.not_eq_true] at hterminal
    simp [cancel_of_open hterminal, answerOf, note, hterminal]

/-- Only a call that cancels the session is told so. -/
theorem step_cancelations (s : Session κ) (e : Event κ) :
    cancelations (s.step e).2 = 0 ∨
      s.status ≠ .canceled ∧ cancelations (s.step e).2 = 1 ∧ (s.step e).1.status = .canceled := by
  have hturnover := s.step_turnover e
  generalize s.step e = p at hturnover
  cases hturnover with
  | keeps haudience hgrip hstatus houtcome hchildren hprivate =>
    exact .inl (cancelations_of_private hprivate)
  | late child haudience hgrip hcanceled hstatus houtcome hchildren hprivate =>
    exact .inl (cancelations_of_private hprivate)
  | begins child hgets haudience hstatus houtcome hhandle hreader hchildren hprivate =>
    exact .inl (cancelations_of_private hprivate)
  | fails error hpending haudience hgrip hstatus houtcome hchildren hprivate =>
    exact .inl (cancelations_of_private hprivate)
  | ends he hopen hfits hself hgrip hreleased hstatus houtcome hcallbacks hcalling hchildren
      hprivate =>
    exact .inl (cancelations_of_private hprivate)
  | registers => exact .inl rfl
  | answers => exact .inl rfl
  | calls => exact .inl rfl
  | cancels he hopen =>
    rw [cancel_of_open hopen]
    exact .inr ⟨fun hcanceled => not_terminal_of_canceled hcanceled hopen, rfl, by
      rw [release_status]⟩
  | releases => exact .inl rfl

/-- One call at most has been told that it canceled the session, and that it did so is true. -/
structure ToldOnce (s : Session κ) (past : List (Effect κ)) : Prop where
  count : cancelations past ≤ 1
  status : s.status ≠ .canceled → cancelations past = 0

/-- An event tells one call that it canceled the session, unless one was told before. -/
theorem ToldOnce.step {s : Session κ} {past : List (Effect κ)} (h : ToldOnce s past) (e : Event κ) :
    ToldOnce (s.step e).1 (past ++ (s.step e).2) := by
  rcases s.step_cancelations e with hnone | ⟨hbefore, hone, hcanceled⟩
  · have hcount : cancelations (past ++ (s.step e).2) = cancelations past := by
      rw [cancelations_append, hnone, Nat.add_zero]
    refine ⟨hcount ▸ h.count, fun hafter => hcount ▸ h.status fun hbefore => ?_⟩
    exact hafter (canceled_step hbefore e)
  · have hcount : cancelations (past ++ (s.step e).2) = 1 := by
      rw [cancelations_append, h.status hbefore, hone]
    exact ⟨hcount ▸ Nat.le_refl 1, fun hafter => absurd hcanceled hafter⟩

/-- One call at most is told that it canceled the session, whatever happens. -/
theorem toldOnce_run (s : Session κ) (es : List (Event κ)) :
    ToldOnce (Machine.run Session.step s es).1 (Machine.run Session.step s es).2 :=
  Machine.run_preserves (fun _ _ e h => h.step e)
    (show ToldOnce s [] from ⟨Nat.zero_le 1, fun _ => rfl⟩) es

/-! ## A process that was let go -/

/-- A session that has been started and holds no process. -/
structure Loose (s : Session κ) : Prop where
  handle : s.handle = none
  started : s.status ≠ .pending

/-- A session that holds no process holds none when it is released. -/
theorem release_handle {s : Session κ} (h : s.handle = none) : s.release.handle = none := by
  unfold release
  split
  · exact h
  · rfl

/-- A session that has let go of its process gets none again. -/
theorem Loose.step {s : Session κ} (h : Loose s) (hsole : Sole s) (e : Event κ) :
    Loose (s.step e).1 := by
  have hturnover := s.step_turnover e
  generalize s.step e = p at hturnover
  cases hturnover with
  | keeps haudience hgrip hstatus => exact ⟨hgrip.handle.trans h.handle, hstatus ▸ h.started⟩
  | late child haudience hgrip hcanceled hstatus =>
    exact ⟨hgrip.handle.trans h.handle, hstatus ▸ h.started⟩
  | begins child hgets => exact absurd (hsole.pending_of_gets hgets) h.started
  | fails error hpending => exact absurd hpending h.started
  | ends he hopen hfits hself hgrip hreleased hstatus =>
    refine ⟨hgrip.handle.trans h.handle, fun hpending => ?_⟩
    have hterminal := hfits.terminal
    rw [← hstatus, hpending] at hterminal
    cases hterminal
  | registers => exact ⟨h.handle, h.started⟩
  | answers => exact h
  | calls => exact ⟨h.handle, h.started⟩
  | cancels he hopen =>
    rw [cancel_of_open hopen]
    exact ⟨release_handle h.handle, by simp⟩
  | releases => exact ⟨release_handle h.handle, by rw [release_status]; exact h.started⟩

/-- A release while the process runs lets go of it. -/
theorem loose_of_letsGo {s : Session κ} {e : Event κ} (h : LetsGo s e) : Loose (s.step e).1 := by
  cases e with
  | release =>
    obtain ⟨hrunning, hreleased⟩ := h
    constructor
    · show s.release.handle = none
      simp [release, hreleased]
    · show s.release.status ≠ .pending
      simp [hrunning]
  | _ => cases h

/-- A session that has let go of its process holds none, whatever happens. -/
theorem Loose.run {s : Session κ} (h : Loose s) (hsole : Sole s) {es : List (Event κ)}
    (hes : Machine.Guarded Session.step (fun s e => ¬ Overlaps s e) s es) :
    Loose (Machine.run Session.step s es).1 :=
  hsole.run_preserves (P := fun t _ => Loose t) (fun _ _ e hsole h => h.step hsole e) h hes

/-- A session that lets its process go does not get hold of it again. -/
theorem Sole.loose_run {s : Session κ} (h : Sole s) {es : List (Event κ)}
    (hsingle : Machine.Guarded Session.step (fun s e => ¬ Overlaps s e) s es)
    (hgrip : ¬ Machine.Guarded Session.step (fun s e => ¬ LetsGo s e) s es) :
    Loose (Machine.run Session.step s es).1 := by
  obtain ⟨first, e, rest, rfl, hgoes⟩ : ∃ first e rest, es = first ++ e :: rest ∧
      LetsGo (Machine.run Session.step s first).1 e := by
    simpa [Machine.Guarded] using hgrip
  obtain ⟨hfirst, hlast⟩ := Machine.guarded_append.1 hsingle
  obtain ⟨hnow, hrest⟩ := Machine.guarded_cons.1 hlast
  have hsole := (h.run hfirst).step e hnow
  rw [Machine.run_append, Machine.run_cons]
  exact (loose_of_letsGo hgoes).run hsole hrest

/-- A cancelation does not reach a process that was let go. -/
theorem Loose.children_cancel {s : Session κ} (h : Loose s) :
    (s.step .cancel).1.children = s.children := by
  show s.cancel.1.children = _
  by_cases hterminal : s.status.isTerminal
  · rw [cancel_of_terminal hterminal]
  · rw [cancel_of_open (by simpa using hterminal), release_children]
    simp [killHeld, h.handle]

/-! ## Sessions that are started once -/

/-- In no state does a session that was canceled keep an outcome with output. -/
theorem Sole.outcome_of_canceled {s : Session κ} (h : Sole s) {es : List (Event κ)}
    (hes : Machine.Guarded Session.step (fun s e => ¬ Overlaps s e) s es)
    (hcanceled : (Machine.run Session.step s es).1.status = .canceled) {o : Outcome}
    (ho : s.outcome = some o) : o = { status := .canceled } := by
  -- An outcome is there from the end on, and the end is the cancelation.
  have hterminal : s.status.isTerminal := by
    rw [← h.told.outcome, ho]
    rfl
  obtain ⟨hstatus, hfits⟩ := h.told.fits o ho
  exact hfits.canceled (by rw [hstatus, ← h.status_run hes hterminal, hcanceled])

/-- A session that is started once tells at most one call that it canceled it, namely one that finds
it not ended. From then on its processes are ended or killed, no callback is told anything, and in
no state is there an outcome with output; unless the session was released while it ran and had its
process, which the cancelation then does not reach. -/
theorem canceled_process_stopped_unless_let_go (command : List Text) (text : Text)
    (options : SessionOptions) (checkId : Option Int) (es : List (Event κ))
    (honce : startCount es ≤ 1) :
    let fresh : Session κ := { command, text, options, checkId }
    let after := fun es => (Machine.run Session.step fresh es).1
    cancelations (Machine.run Session.step fresh es).2 ≤ 1 ∧
    ∀ first rest, es = first ++ .cancel :: rest →
      (answerOf ((after first).step .cancel).2 = some (.ok true)
        ↔ (after first).status.isTerminal = false) ∧
      ((after first).status.isTerminal = false →
        deliveries (Machine.run Session.step fresh es).2 = [] ∧
        (after es).outcome = some { status := .canceled } ∧
        (∀ early late, es = early ++ late → ∀ o, (after early).outcome = some o →
          o = { status := .canceled }) ∧
        (Machine.Guarded Session.step (fun s e => ¬ LetsGo s e) fresh first →
          ∀ c ∈ (after es).children, c.Stopped) ∧
        (¬ Machine.Guarded Session.step (fun s e => ¬ LetsGo s e) fresh first →
          (after (first ++ [.cancel])).children = (after first).children)) := by
  intro fresh after
  have hfresh : Sole fresh := sole_fresh command text options checkId
  have hsingle := guarded_of_startCount command text options checkId honce
  refine ⟨(toldOnce_run fresh es).count, ?_⟩
  rintro first rest rfl
  refine ⟨answer_of_cancel _, fun hopen => ?_⟩
  obtain ⟨hfirst, hrest⟩ := Machine.guarded_append.1 hsingle
  have hopened := hfresh.run hfirst
  have hrun : after (first ++ .cancel :: rest)
      = (Machine.run Session.step ((after first).step .cancel).1 rest).1 := by
    simp only [after, Machine.run_append, Machine.run_cons]
  -- A canceled session stays canceled, and all that is said of its end follows from that.
  have hcanceled : (after (first ++ .cancel :: rest)).status = .canceled := by
    rw [hrun]
    refine canceled_run ?_ rest
    show (after first).cancel.1.status = _
    rw [cancel_of_open hopen, release_status]
  refine ⟨?_, ?_, ?_, fun hgrip => ?_, fun hgrip => ?_⟩
  · exact (unheard_run hfresh rfl hsingle (.inr hcanceled)).2
  · have htold := (hfresh.run hsingle).told
    obtain ⟨o, ho⟩ : ∃ o, (after (first ++ .cancel :: rest)).outcome = some o := by
      rw [← Option.isSome_iff_exists, htold.outcome, hcanceled]
      rfl
    obtain ⟨hstatus, hfits⟩ := htold.fits o ho
    rw [ho, hfits.canceled (hstatus.trans hcanceled)]
  · intro early late hes o ho
    rw [hes] at hsingle
    obtain ⟨hearly, hlate⟩ := Machine.guarded_append.1 hsingle
    refine (hfresh.run hearly).outcome_of_canceled hlate ?_ ho
    rw [hes] at hcanceled
    simpa only [after, Machine.run_append] using hcanceled
  -- As long as the session holds on to its process, the cancelation finds it there, or kills it
  -- when it comes.
  · have hheld := (held_fresh command text options checkId).run hfresh hfirst hgrip
    rw [hrun]
    exact ((hheld.halted hopened hopen).run rest).stopped
  · simp only [after, Machine.run_concat]
    exact (hfresh.loose_run hfirst hgrip).children_cancel

/-- The process comes after the session was canceled. -/
def canceledEarly : List (Event Unit) :=
  [.start 1 anySystem, .cancel, .spawned 1 { pid := 7, response := .stubborn }, .cancel]

/-- The process of a canceled session comes late and is killed, and one of two calls has
canceled. -/
theorem late_process_killed_and_canceled_once :
    let fresh : Session Unit :=
      { command := ["lint"], text := [], options := {}, checkId := none }
    startCount canceledEarly ≤ 1 ∧
      (Machine.run Session.step fresh canceledEarly).1.children.length = 1 ∧
      (∀ c ∈ (Machine.run Session.step fresh canceledEarly).1.children, c.Stopped) ∧
      cancelations (Machine.run Session.step fresh canceledEarly).2 ≤ 1 := by
  have honce : startCount canceledEarly ≤ 1 := by decide
  obtain ⟨hcount, hcancels⟩ :=
    canceled_process_stopped_unless_let_go ["lint"] [] {} none canceledEarly honce
  obtain ⟨-, hopen⟩ := hcancels [.start 1 anySystem] (canceledEarly.drop 2) rfl
  obtain ⟨-, -, -, hstopped, -⟩ := hopen rfl
  refine ⟨honce, rfl, hstopped ?_, hcount⟩
  exact Machine.guarded_cons.2 ⟨id, Machine.guarded_nil _⟩

/-- The session is released while its process runs. -/
def letGo : List (Event Unit) := [.start 1 anySystem, .spawned 1 { pid := 7 }, .read 0, .release]

/-- A cancelation then tells its caller that it canceled the session, and does not stop the
process. -/
theorem let_go_process_runs_on :
    let after := fun es => (Machine.run Session.step
      ({ command := ["lint"], text := [], options := {}, checkId := none } : Session Unit) es).1
    startCount (letGo ++ [.cancel]) ≤ 1 ∧
      answerOf ((after letGo).step .cancel).2 = some (.ok true) ∧
      ∃ c ∈ (after (letGo ++ [.cancel])).children, ¬ c.Stopped := by
  refine ⟨by decide, rfl, { pid := 7, stdin := some [] }, .head _, ?_⟩
  simp [Child.Stopped]

end Session

end LiveLint
