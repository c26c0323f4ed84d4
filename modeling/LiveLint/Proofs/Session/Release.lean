import LiveLint.Proofs.Session.Cancelation

/-!
# Released sessions

A release drops what a session holds. What it has dropped of its callbacks stays away: nobody who
waited hears of the end, and nobody can wait any more. But the session goes on. A process that comes
after the release is held, with its reader, and the output that a reader collects after the release
is kept (`process_and_output_after_release`). Nothing else brings anything back
(`release_final_unless_session_goes_on`).
-/

namespace LiveLint

namespace Session

variable {κ : Type}

/-! ## Calls of `release` -/

/-- A second release does nothing. -/
theorem release_of_released {s : Session κ} (h : s.released) : s.release = s := if_pos h

/-- A release drops the process, the reader, the callbacks and the output. -/
theorem release_of_not_released {s : Session κ} (h : s.released = false) :
    s.release
      = { s with
          released := true
          handle := none
          reader := none
          callbacks := []
          outcome := s.outcome.map Outcome.blank } := by
  rw [release, if_neg (by simp [h])]

/-- A session is released by a release. -/
theorem released_release (s : Session κ) : s.release.released := by
  unfold release
  split
  · exact ‹_›
  · rfl

/-- The output of a released session is refused. -/
theorem output_of_released {s : Session κ} (h : s.released) : s.output = .error s.releasedError :=
  if_pos h

/-- A callback that comes to a released session is refused. -/
theorem onComplete_of_released {s : Session κ} (h : s.released) (c : κ) :
    s.step (.onComplete c) = (s, [.refused s.releasedError]) := if_pos h

/-! ## Callbacks -/

/-- Callbacks that wait for the end and callbacks that are called are never there together, and a
released session has none that wait. -/
structure Parted (s : Session κ) : Prop where
  released : s.released → s.callbacks = []
  parted : s.callbacks = [] ∨ s.calling = []

/-- No callback waits at a session that was released. -/
theorem Parted.callbacks_release {s : Session κ} (h : s.released → s.callbacks = []) :
    s.release.callbacks = [] := by
  unfold release
  split
  · exact h ‹_›
  · rfl

/-- A session stays parted while its callbacks do not change. -/
theorem Parted.of_sameAudience {s s' : Session κ} (h : Parted s) (haudience : SameAudience s s') :
    Parted s' := by
  obtain ⟨hreleased, hcallbacks, hcalling⟩ := haudience
  exact ⟨by rw [hreleased, hcallbacks]; exact h.released, by
    rw [hcallbacks, hcalling]; exact h.parted⟩

/-- An event leaves a session parted. -/
theorem Parted.step {s : Session κ} (h : Parted s) (htold : Told s)
    (hunheard : s.status.isTerminal = false → s.calling = []) (e : Event κ) :
    Parted (s.step e).1 := by
  have hturnover := s.step_turnover e
  generalize s.step e = p at hturnover
  cases hturnover with
  | keeps haudience => exact h.of_sameAudience haudience
  | late child haudience => exact h.of_sameAudience haudience
  | begins child hgets haudience => exact h.of_sameAudience haudience
  | fails error hpending haudience => exact h.of_sameAudience haudience
  | ends he hopen hfits hself hgrip hreleased hstatus houtcome hcallbacks =>
    exact ⟨fun _ => hcallbacks, .inl hcallbacks⟩
  | registers he hreleased hopen =>
    refine ⟨fun hnow => absurd hreleased (by simpa using hnow), .inr (hunheard ?_)⟩
    -- A session without an outcome has not ended.
    rcases hopen with hopen | hnone
    · exact hopen
    · rw [← htold.outcome, hnone]
      rfl
  | answers => exact h
  | calls he hcalling =>
    have hcallbacks : s.callbacks = [] := h.parted.resolve_right (by simp [hcalling])
    exact ⟨fun _ => hcallbacks, .inl hcallbacks⟩
  | cancels he hopen =>
    rw [cancel_of_open hopen]
    exact ⟨fun _ => callbacks_release h.released, .inl (callbacks_release h.released)⟩
  | releases => exact ⟨fun _ => callbacks_release h.released, .inl (callbacks_release h.released)⟩

/-- A session is parted, whatever happens. -/
theorem parted_run {s : Session κ} (hsole : Sole s) (hcallbacks : s.callbacks = [])
    (hcalling : s.calling = []) {es : List (Event κ)}
    (hes : Machine.Guarded Session.step (fun s e => ¬ Overlaps s e) s es) :
    Parted (Machine.run Session.step s es).1 := by
  have hfirst : Unheard s [] ∧ Parted s :=
    ⟨fun _ => ⟨hcalling, rfl⟩, fun _ => hcallbacks, .inl hcallbacks⟩
  refine (hsole.run_preserves (P := fun t past => Unheard t past ∧ Parted t) ?_ hfirst hes).2
  rintro t past e hsole ⟨hunheard, hparted⟩
  exact ⟨hunheard.step hsole e, hparted.step hsole.told (fun hopen => (hunheard (.inl hopen)).1) e⟩

/-- A released session without callbacks. -/
structure Dropped (s : Session κ) : Prop where
  released : s.released
  callbacks : s.callbacks = []

/-- A release drops a session. -/
theorem dropped_release {s : Session κ} (h : s.released → s.callbacks = []) : Dropped s.release :=
  ⟨s.released_release, Parted.callbacks_release h⟩

/-- A release drops a parted session. -/
theorem Parted.release {s : Session κ} (h : Parted s) : Dropped s.release :=
  dropped_release h.released

/-- A dropped session stays dropped by what is private. -/
theorem Dropped.of_sameAudience {s s' : Session κ} {effects : List (Effect κ)} (h : Dropped s)
    (haudience : SameAudience s s') (hprivate : ∀ f ∈ effects, f.isPrivate) :
    Dropped s' ∧ deliveries effects ++ s'.calling = s.calling := by
  refine ⟨⟨by rw [haudience.released, h.released], haudience.callbacks.trans h.callbacks⟩, ?_⟩
  rw [deliveries_of_private hprivate, haudience.calling]
  rfl

/-- A released session without callbacks remains one, and calls those only that were about to be
called. -/
theorem Dropped.step {s : Session κ} (h : Dropped s) (e : Event κ) :
    Dropped (s.step e).1 ∧ deliveries (s.step e).2 ++ (s.step e).1.calling = s.calling := by
  have hturnover := s.step_turnover e
  generalize s.step e = p at hturnover
  cases hturnover with
  | keeps haudience hgrip hstatus houtcome hchildren hprivate =>
    exact h.of_sameAudience haudience hprivate
  | late child haudience hgrip hcanceled hstatus houtcome hchildren hprivate =>
    exact h.of_sameAudience haudience hprivate
  | begins child hgets haudience hstatus houtcome hhandle hreader hchildren hprivate =>
    exact h.of_sameAudience haudience hprivate
  | fails error hpending haudience hgrip hstatus houtcome hchildren hprivate =>
    exact h.of_sameAudience haudience hprivate
  | ends he hopen hfits hself hgrip hreleased hstatus houtcome hcallbacks hcalling hchildren
      hprivate =>
    refine ⟨⟨by rw [hreleased, h.released], hcallbacks⟩, ?_⟩
    rw [deliveries_of_private hprivate, hcalling, h.callbacks]
    simp
  | registers he hreleased => exact absurd h.released (by simp [hreleased])
  | answers he hreleased => exact absurd h.released (by simp [hreleased])
  | calls he hcalling => exact ⟨⟨h.released, h.callbacks⟩, hcalling.symm⟩
  | cancels he hopen =>
    rw [cancel_of_open hopen, release_of_released (by exact h.released)]
    exact ⟨⟨h.released, h.callbacks⟩, rfl⟩
  | releases =>
    rw [release_of_released h.released]
    exact ⟨h, rfl⟩

/-- A dropped session stays dropped, and tells only those whose turn came. -/
theorem Dropped.run {s : Session κ} (h : Dropped s) (es : List (Event κ)) :
    Dropped (Machine.run Session.step s es).1 ∧
      deliveries (Machine.run Session.step s es).2 ++ (Machine.run Session.step s es).1.calling
        = s.calling := by
  have hstep : ∀ (t : Session κ) past e, (Dropped t ∧ deliveries past ++ t.calling = s.calling) →
      Dropped (t.step e).1 ∧
        deliveries (past ++ (t.step e).2) ++ (t.step e).1.calling = s.calling := by
    rintro t past e ⟨hdropped, hcalling⟩
    obtain ⟨hnext, hcalled⟩ := hdropped.step e
    exact ⟨hnext, by rw [deliveries_append, List.append_assoc, hcalled, hcalling]⟩
  have hfirst : Dropped s ∧ deliveries ([] : List (Effect κ)) ++ s.calling = s.calling := ⟨h, rfl⟩
  exact Machine.run_preserves hstep hfirst es

/-! ## The process -/

/-- A session that was released holds neither a process nor a reader. -/
def Bare (s : Session κ) : Prop := s.released → s.handle = none ∧ s.reader = none

/-- A released session gets its process, and holds it. -/
def Regains (s : Session κ) (e : Event κ) : Prop := s.released ∧ GetsProcess s e

/-- A process that comes is held, and the session stays released or not. -/
theorem step_of_gets {s : Session κ} {e : Event κ} (h : GetsProcess s e) :
    (s.step e).1.released = s.released ∧ (s.step e).1.handle = some s.children.length := by
  cases e with
  | spawned ticket child =>
    obtain ⟨hopen, ⟨name, executable, place⟩, hcall, hplace⟩ := h
    cases hplace
    show (s.spawned ticket child).1.released = _ ∧ (s.spawned ticket child).1.handle = _
    rw [spawned, hcall]
    simp [hopen, endStart]
  | _ => cases h

/-- A release leaves a session bare exactly if it was. -/
theorem bare_release (s : Session κ) : Bare s.release ↔ Bare s := by
  by_cases hreleased : s.released
  · rw [release_of_released hreleased]
  · rw [Bool.not_eq_true] at hreleased
    simp [Bare, release_of_not_released hreleased, hreleased]

/-- Whether a session is bare depends on what it holds and on its release. -/
theorem bare_congr {s s' : Session κ} (hgrip : SameGrip s s') (hreleased : s'.released = s.released) :
    Bare s' ↔ Bare s := by
  rw [Bare, Bare, hreleased, hgrip.handle, hgrip.reader]

/-- A session is bare after an event exactly if it was and gets no process. -/
theorem bare_step (s : Session κ) (e : Event κ) :
    Bare (s.step e).1 ↔ Bare s ∧ ¬ Regains s e := by
  by_cases hgets : GetsProcess s e
  · obtain ⟨hreleased, hhandle⟩ := step_of_gets hgets
    cases hs : s.released <;> simp [Bare, Regains, hreleased, hhandle, hgets, hs]
  · -- Where no process comes, the hands stay as they are, or a release empties them.
    have hloses : ¬ Regains s e := fun h => hgets h.2
    rw [and_iff_left hloses]
    have hturnover := s.step_turnover e
    generalize s.step e = p at hturnover
    cases hturnover with
    | keeps haudience hgrip => exact bare_congr hgrip haudience.released
    | late child haudience hgrip => exact bare_congr hgrip haudience.released
    | begins child hnow => exact absurd hnow hgets
    | fails error hpending haudience hgrip => exact bare_congr hgrip haudience.released
    | ends he hopen hfits hself hgrip hreleased => exact bare_congr hgrip hreleased
    | registers => exact Iff.rfl
    | answers => exact Iff.rfl
    | calls => exact Iff.rfl
    | cancels he hopen =>
      rw [cancel_of_open hopen]
      exact bare_release _
    | releases => exact bare_release s

/-! ## The output -/

/-- A session that was released stores no output. -/
def Emptied (s : Session κ) : Prop := s.released → ∀ o, s.outcome = some o → o.blank = o

/-- A reader ends a released session with an outcome that has output. -/
def Retains (s : Session κ) : Event κ → Prop
  | .read j =>
    s.released ∧ s.status.isTerminal = false ∧ ∃ o, (s.read j).1.outcome = some o ∧ o.blank ≠ o
  | _ => False

/-- A release leaves a session emptied exactly if it was. -/
theorem emptied_release (s : Session κ) : Emptied s.release ↔ Emptied s := by
  by_cases hreleased : s.released
  · rw [release_of_released hreleased]
  · have hbefore : Emptied s := fun hnow => absurd hnow hreleased
    rw [Bool.not_eq_true] at hreleased
    rw [release_of_not_released hreleased]
    refine iff_of_true (fun _ o ho => ?_) hbefore
    obtain ⟨o, -, rfl⟩ := Option.map_eq_some_iff.1 ho
    rfl

/-- Whether a session is emptied depends on its outcome and on its release. -/
theorem emptied_congr {s s' : Session κ} (hreleased : s'.released = s.released)
    (houtcome : s'.outcome = s.outcome) : Emptied s' ↔ Emptied s := by
  rw [Emptied, Emptied, hreleased, houtcome]

/-- What a session stores that has ended does not change any more, unless it is released. -/
theorem emptied_step_of_terminal {s : Session κ} (hsole : Sole s) (hterminal : s.status.isTerminal)
    (e : Event κ) : Emptied (s.step e).1 ↔ Emptied s := by
  have hturnover := s.step_turnover e
  generalize s.step e = p at hturnover
  cases hturnover with
  | keeps haudience hgrip hstatus houtcome => exact emptied_congr haudience.released houtcome
  | late child haudience hgrip hcanceled hstatus houtcome =>
    exact emptied_congr haudience.released houtcome
  | begins child hgets => simp [hsole.pending_of_gets hgets, Status.isTerminal] at hterminal
  | fails error hpending => simp [hpending, Status.isTerminal] at hterminal
  | ends he hopen => simp [hopen] at hterminal
  | registers => exact Iff.rfl
  | answers => exact Iff.rfl
  | calls => exact Iff.rfl
  | cancels he hopen => simp [hopen] at hterminal
  | releases => exact emptied_release s

/-- Nothing but a reader ends a session with output. -/
theorem blank_or_read {s : Session κ} (htold : Told s) (hopen : s.status.isTerminal = false)
    (e : Event κ) :
    (∀ o, (s.step e).1.outcome = some o → o.blank = o) ∨
      (s.step e).1.released = s.released ∧ ∃ j, e = .read j := by
  have hnone := htold.outcome_eq_none hopen
  have hturnover := s.step_turnover e
  generalize s.step e = p at hturnover
  cases hturnover with
  | keeps haudience hgrip hstatus houtcome => exact .inl (by simp [houtcome, hnone])
  | late child haudience hgrip hcanceled hstatus houtcome =>
    exact .inl (by simp [houtcome, hnone])
  | begins child hgets haudience hstatus houtcome => exact .inl (by simp [houtcome, hnone])
  | fails error hpending haudience hgrip hstatus houtcome =>
    exact .inl (by simp [houtcome, Outcome.blank])
  | ends he hopen hfits hself hgrip hreleased => exact .inr ⟨hreleased, _, he⟩
  | registers => exact .inl (by simp [hnone])
  | answers => exact .inl (by simp [hnone])
  | calls => exact .inl (by simp [hnone])
  | cancels he hopen =>
    rw [cancel_of_open hopen, release]
    split <;> exact .inl (by simp [Outcome.blank])
  | releases =>
    rw [release]
    split <;> exact .inl (by simp [hnone])

/-- A session that has ended retains nothing more. -/
theorem not_retains {s : Session κ} (hterminal : s.status.isTerminal) (e : Event κ) :
    ¬ Retains s e := by
  cases e with
  | read j => exact fun h => absurd h.2.1 (by simp [hterminal])
  | _ => exact id

/-- A session is emptied after an event exactly if it was and the event retains no output. -/
theorem emptied_step {s : Session κ} (hsole : Sole s) (e : Event κ) :
    Emptied (s.step e).1 ↔ Emptied s ∧ ¬ Retains s e := by
  by_cases hterminal : s.status.isTerminal
  · rw [emptied_step_of_terminal hsole hterminal, and_iff_left (not_retains hterminal e)]
  · -- Before its end a session has no outcome, so that only the one it ends with counts.
    have hopen : s.status.isTerminal = false := by simpa using hterminal
    have hbefore : Emptied s := fun _ o ho => by simp [hsole.told.outcome_eq_none hopen] at ho
    rw [and_iff_right hbefore]
    rcases blank_or_read hsole.told hopen e with hblank | ⟨hreleased, j, rfl⟩
    · refine iff_of_true (fun _ => hblank) ?_
      cases e with
      | read j => exact fun ⟨_, _, o, ho, hprinted⟩ => hprinted (hblank o ho)
      | _ => exact id
    · rw [Emptied, hreleased]
      show (_ → ∀ o, (s.read j).1.outcome = some o → _) ↔ ¬ (_ ∧ _ ∧ _)
      simp only [hopen, true_and, not_and, not_exists, not_not]

/-! ## Runs -/

section

variable {s : Session κ} {es : List (Event κ)}

/-- A session is bare in the end exactly if it was and has never got a process when released. -/
theorem Sole.bare_run (h : Sole s)
    (hsingle : Machine.Guarded Session.step (fun s e => ¬ Overlaps s e) s es) :
    Bare (Machine.run Session.step s es).1
      ↔ Bare s ∧ Machine.Guarded Session.step (fun s e => ¬ Regains s e) s es :=
  Machine.run_iff_guarded (fun _ e hsole => hsole.step e) (fun t e _ _ => bare_step t e) h hsingle

/-- A session is emptied in the end exactly if it was and has never retained output when
released. -/
theorem Sole.emptied_run (h : Sole s)
    (hsingle : Machine.Guarded Session.step (fun s e => ¬ Overlaps s e) s es) :
    Emptied (Machine.run Session.step s es).1
      ↔ Emptied s ∧ Machine.Guarded Session.step (fun s e => ¬ Retains s e) s es :=
  Machine.run_iff_guarded (fun _ e hsole => hsole.step e) (fun _ e hsole _ => emptied_step hsole e) h
    hsingle

/-- No process comes to a session that has ended. -/
theorem Sole.not_regains {e : Event κ} (h : Sole s) (hterminal : s.status.isTerminal) :
    ¬ Regains s e := by
  rintro ⟨-, hgets⟩
  rw [h.pending_of_gets hgets] at hterminal
  cases hterminal

/-- What is true of every event that comes after an end is true of all events of a run that begins
there. -/
theorem Sole.guarded_of_terminal {allows : Session κ → Event κ → Prop}
    (hallows : ∀ t e, Sole t → t.status.isTerminal → allows t e) (h : Sole s)
    (hsingle : Machine.Guarded Session.step (fun s e => ¬ Overlaps s e) s es)
    (hterminal : s.status.isTerminal) : Machine.Guarded Session.step allows s es := by
  rintro first e rest rfl
  obtain ⟨hfirst, -⟩ := Machine.guarded_append.1 hsingle
  refine hallows _ e (h.run hfirst) ?_
  rw [h.status_run hfirst hterminal]
  exact hterminal

end

/-! ## Sessions that are started once -/

/-- What was dropped at a release of a session that is started once stays dropped: it has no
callbacks, calls none of those that waited, and refuses to give output or to take callbacks. It
holds nothing exactly if no process came to it after a release, and stores no output exactly if no
reader ended it with output after a release. Neither can happen if it was released after its end. -/
theorem release_final_unless_session_goes_on (command : List Text) (text : Text)
    (options : SessionOptions) (checkId : Option Int) (es : List (Event κ))
    (honce : startCount es ≤ 1) :
    let fresh : Session κ := { command, text, options, checkId }
    let after := fun es => (Machine.run Session.step fresh es).1
    ∀ first rest, es = first ++ .release :: rest →
      let s := after es
      s.callbacks = [] ∧
      s.output = .error s.releasedError ∧
      (∀ c, s.step (.onComplete c) = (s, [.refused s.releasedError])) ∧
      (∀ c ∈ (after first).callbacks, ∀ o, (c, o) ∉
        deliveries (Machine.run Session.step (after (first ++ [.release])) rest).2) ∧
      (s.handle = none ∧ s.reader = none
        ↔ Machine.Guarded Session.step (fun s e => ¬ Regains s e) fresh es) ∧
      ((∀ o, s.outcome = some o → o.blank = o)
        ↔ Machine.Guarded Session.step (fun s e => ¬ Retains s e) fresh es) ∧
      ((after first).released = false → (after first).status.isTerminal →
        s.handle = none ∧ s.reader = none ∧ ∀ o, s.outcome = some o → o.blank = o) := by
  intro fresh after
  have hfresh : Sole fresh := sole_fresh command text options checkId
  have hsingle := guarded_of_startCount command text options checkId honce
  rintro first rest rfl
  obtain ⟨hfirst, hrest⟩ := Machine.guarded_append.1 hsingle
  have hparted : Parted (after first) := parted_run hfresh rfl rfl hfirst
  have hrun : after (first ++ .release :: rest)
      = (Machine.run Session.step (after first).release rest).1 := by
    simp only [after, Machine.run_append, Machine.run_cons]
    rfl
  have hnow : after (first ++ [.release]) = (after first).release := by
    simp only [after, Machine.run_concat]
    rfl
  obtain ⟨hdropped, hcalling⟩ := hparted.release.run rest
  rw [← hrun] at hdropped hcalling
  have hholds : Bare (after (first ++ .release :: rest)) ↔ _ := hfresh.bare_run hsingle
  have hstores : Emptied (after (first ++ .release :: rest)) ↔ _ := hfresh.emptied_run hsingle
  rw [Bare, forall_prop_of_true hdropped.released] at hholds
  rw [Emptied, forall_prop_of_true hdropped.released] at hstores
  refine ⟨hdropped.callbacks, output_of_released hdropped.released,
    onComplete_of_released hdropped.released, fun c hc o hcalled => ?_, ?_, ?_,
    fun hheld hterminal => ?_⟩
  · -- Where a callback waited, none was about to be called.
    have hnone := hparted.parted.resolve_left (List.ne_nil_of_mem hc)
    rw [release_calling, hnone, List.append_eq_nil_iff] at hcalling
    rw [hnow, hcalling.1] at hcalled
    cases hcalled
  · rw [hholds, and_iff_right]
    exact fun h => nomatch h
  · rw [hstores, and_iff_right]
    exact fun h => nomatch h
  · have hsole := hfresh.run hfirst
    have hbare := (hsole.bare_run hrest).2 ⟨fun h => absurd h (by simpa using hheld),
      hsole.guarded_of_terminal (fun t e h => h.not_regains) hrest hterminal⟩
    have hemptied := (hsole.emptied_run hrest).2 ⟨fun h => absurd h (by simpa using hheld),
      hsole.guarded_of_terminal (fun t e _ h => not_retains h e) hrest hterminal⟩
    rw [hrun] at hdropped ⊢
    obtain ⟨hhandle, hreader⟩ := hbare hdropped.released
    exact ⟨hhandle, hreader, hemptied hdropped.released⟩

/-- The session is released at its end, and a callback that comes later is refused. -/
def releasedAtEnd : List (Event Unit) :=
  [.start 1 anySystem, .onComplete (), .spawned 1 { pid := 7 }, .read 0, .exit 0 ⟨1, [0x5B], []⟩,
    .read 0, .release, .call]

/-- A release at the end drops all that the session has. -/
theorem output_dropped_at_end :
    let after := fun es => (Machine.run Session.step
      ({ command := ["lint"], text := [], options := {}, checkId := none } : Session Unit) es).1
    startCount releasedAtEnd ≤ 1 ∧
      (after (releasedAtEnd.take 6)).outcome.map Outcome.stdout = some "[" ∧
      (after releasedAtEnd).handle = none ∧ (after releasedAtEnd).reader = none ∧
      ∀ o, (after releasedAtEnd).outcome = some o → o.blank = o := by
  have honce : startCount releasedAtEnd ≤ 1 := by decide
  obtain ⟨-, -, -, -, -, -, hended⟩ := release_final_unless_session_goes_on ["lint"] [] {} none
    releasedAtEnd honce (releasedAtEnd.take 6) [.call] rfl
  exact ⟨honce, by decide +kernel, hended (by decide) (by decide)⟩

/-- The session is released while the system creates its process. -/
def releasedEarly : List (Event Unit) := [.start 1 anySystem, .release]

/-- It holds the process that comes, and stores what that prints. -/
theorem process_and_output_after_release :
    let after := fun es => (Machine.run Session.step
      ({ command := ["lint"], text := [], options := {}, checkId := none } : Session Unit) es).1
    let spawned : Event Unit := .spawned 1 { pid := 7 }
    let prints : List (Event Unit) := [.read 0, .exit 0 ⟨1, [0x5B], []⟩, .read 0]
    startCount (releasedEarly ++ spawned :: prints) ≤ 1 ∧
      (after (releasedEarly ++ [spawned])).released = true ∧
      (after (releasedEarly ++ [spawned])).handle = some 0 ∧
      (after (releasedEarly ++ [spawned])).reader = some 0 ∧
      (after (releasedEarly ++ spawned :: prints)).outcome.map Outcome.stdout = some "[" := by
  decide +kernel

end Session

end LiveLint
