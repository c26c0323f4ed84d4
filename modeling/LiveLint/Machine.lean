/-!
# Runs of machines

Sessions, coordinators and desks are machines alike: an event turns a state into another one and
leaves something behind. This module holds what is true of the runs of any machine; what is carried
along a run may speak of all that was left behind so far.
-/

namespace LiveLint

namespace Machine

variable {σ ε φ : Type}

/-- Does events one after the other. -/
def run (step : σ → ε → σ × List φ) (s : σ) : List ε → σ × List φ
  | [] => (s, [])
  | e :: rest =>
    let (s, done) := step s e
    let (s, more) := run step s rest
    (s, done ++ more)

variable {step : σ → ε → σ × List φ}

@[simp] theorem run_nil (s : σ) : run step s [] = (s, []) := rfl

/-- A run does its first event and goes on from there. -/
theorem run_cons (s : σ) (e : ε) (rest : List ε) :
    run step s (e :: rest)
      = ((run step (step s e).1 rest).1, (step s e).2 ++ (run step (step s e).1 rest).2) := rfl

/-- A run of two parts is the run of the second part from where the first one led. -/
theorem run_append (s : σ) (first rest : List ε) :
    run step s (first ++ rest)
      = ((run step (run step s first).1 rest).1,
          (run step s first).2 ++ (run step (run step s first).1 rest).2) := by
  induction first generalizing s with
  | nil => simp
  | cons e first ih => simp [run_cons, ih]

/-- The state after a run is that after all its events but the last, and the last. -/
theorem run_concat (s : σ) (first : List ε) (e : ε) :
    run step s (first ++ [e])
      = ((step (run step s first).1 e).1,
          (run step s first).2 ++ (step (run step s first).1 e).2) := by
  simp [run_append, run_cons]

/-- What a run leaves behind one of its events has left behind. -/
theorem mem_run_iff {s : σ} {es : List ε} {f : φ} :
    f ∈ (run step s es).2 ↔
      ∃ first e rest, es = first ++ e :: rest ∧ f ∈ (step (run step s first).1 e).2 := by
  constructor
  · induction es generalizing s with
    | nil => simp
    | cons e es ih =>
      rw [run_cons, List.mem_append]
      rintro (hnow | hlater)
      · exact ⟨[], e, es, rfl, hnow⟩
      · obtain ⟨first, e', rest, rfl, hf⟩ := ih hlater
        exact ⟨e :: first, e', rest, rfl, hf⟩
  · rintro ⟨first, e, rest, rfl, hf⟩
    rw [run_append, run_cons]
    exact List.mem_append_right _ (List.mem_append_left _ hf)

/-- What one step preserves, whatever was left behind before, every run preserves. -/
theorem run_preserves {P : σ → List φ → Prop}
    (hstep : ∀ s past e, P s past → P (step s e).1 (past ++ (step s e).2))
    {s : σ} {past : List φ} (h : P s past) (es : List ε) :
    P (run step s es).1 (past ++ (run step s es).2) := by
  induction es generalizing s past with
  | nil => simpa using h
  | cons e es ih =>
    have hrest := ih (hstep s past e h)
    rw [List.append_assoc] at hrest
    exact hrest

/-- What one step preserves of the state, every run preserves. -/
theorem run_invariant {P : σ → Prop} (hstep : ∀ s e, P s → P (step s e).1) {s : σ} (h : P s)
    (es : List ε) : P (run step s es).1 := by
  induction es generalizing s with
  | nil => exact h
  | cons e es ih => exact ih (hstep s e h)

/-- A machine whose steps keep step with those of another one, which is told of the same events in
its own way, leaves the same things behind. -/
theorem run_map_eq {τ ε' : Type} {step' : τ → ε' → τ × List φ} {f : ε → ε'} {R : σ → τ → Prop}
    (hstep : ∀ s t e, R s t →
      R (step s e).1 (step' t (f e)).1 ∧ (step s e).2 = (step' t (f e)).2)
    {s : σ} {t : τ} (h : R s t) (es : List ε) :
    R (run step s es).1 (run step' t (es.map f)).1 ∧
      (run step s es).2 = (run step' t (es.map f)).2 := by
  induction es generalizing s t with
  | nil => exact ⟨h, rfl⟩
  | cons e es ih =>
    obtain ⟨hnext, hnow⟩ := hstep s t e h
    obtain ⟨hend, hlater⟩ := ih hnext
    rw [List.map_cons, run_cons, run_cons, hnow, hlater]
    exact ⟨hend, rfl⟩

/-! ## Runs of allowed events -/

/-- Every event of the run finds a state that allows it. -/
def Guarded (step : σ → ε → σ × List φ) (allows : σ → ε → Prop) (s : σ) (es : List ε) : Prop :=
  ∀ first e rest, es = first ++ e :: rest → allows (run step s first).1 e

variable {allows : σ → ε → Prop}

theorem guarded_nil (s : σ) : Guarded step allows s [] := fun first e rest h => by
  cases first <;> cases h

/-- What is allowed of the first event is asked of the first state, and the rest of the next one. -/
theorem guarded_cons {s : σ} {e : ε} {es : List ε} :
    Guarded step allows s (e :: es) ↔ allows s e ∧ Guarded step allows (step s e).1 es := by
  constructor
  · intro h
    refine ⟨h [] e es rfl, fun first e' rest hes => ?_⟩
    exact h (e :: first) e' rest (by rw [hes, List.cons_append])
  · rintro ⟨hfirst, hrest⟩ first e' rest hes
    cases first with
    | nil =>
      cases hes
      exact hfirst
    | cons d first =>
      rw [List.cons_append, List.cons.injEq] at hes
      obtain ⟨rfl, hes⟩ := hes
      exact hrest first e' rest hes

/-- A run in two parts is guarded if each of them is, the second from where the first one led. -/
theorem guarded_append {s : σ} {first rest : List ε} :
    Guarded step allows s (first ++ rest)
      ↔ Guarded step allows s first ∧ Guarded step allows (run step s first).1 rest := by
  induction first generalizing s with
  | nil => exact ⟨fun h => ⟨guarded_nil s, h⟩, fun h => h.2⟩
  | cons e first ih => rw [List.cons_append, guarded_cons, guarded_cons, ih, and_assoc, run_cons]

/-- Events that every state allows. -/
theorem guarded_of_forall {p : ε → Prop} (s : σ) {es : List ε} (h : ∀ e ∈ es, p e) :
    Guarded step (fun _ => p) s es :=
  fun _ e _ hes => h e (hes ▸ List.mem_append_right _ List.mem_cons_self)

/-- Two guards of one run are one guard. -/
theorem Guarded.and {allows' : σ → ε → Prop} {s : σ} {es : List ε} (h : Guarded step allows s es)
    (h' : Guarded step allows' s es) : Guarded step (fun s e => allows s e ∧ allows' s e) s es :=
  fun first e rest hes => ⟨h first e rest hes, h' first e rest hes⟩

/-- What an allowed step preserves, whatever was left behind before, every run of allowed events
preserves. -/
theorem run_preserves_of_guarded {P : σ → List φ → Prop}
    (hstep : ∀ s past e, P s past → allows s e → P (step s e).1 (past ++ (step s e).2))
    {s : σ} {past : List φ} (h : P s past) {es : List ε} (hes : Guarded step allows s es) :
    P (run step s es).1 (past ++ (run step s es).2) := by
  induction es generalizing s past with
  | nil => simpa using h
  | cons e es ih =>
    obtain ⟨hfirst, hrest⟩ := guarded_cons.1 hes
    have hdone := ih (hstep s past e h hfirst) hrest
    rw [List.append_assoc] at hdone
    exact hdone

/-- What an allowed step preserves of the state, every run of allowed events preserves. -/
theorem run_invariant_of_guarded {P : σ → Prop} (hstep : ∀ s e, P s → allows s e → P (step s e).1)
    {s : σ} (h : P s) {es : List ε} (hes : Guarded step allows s es) : P (run step s es).1 := by
  induction es generalizing s with
  | nil => exact h
  | cons e es ih =>
    obtain ⟨hfirst, hrest⟩ := guarded_cons.1 hes
    exact ih (hstep s e h hfirst) hrest

/-- Where a step ends up with a property exactly when it starts with it and its event is allowed, a
run does so exactly when it starts with it and all its events are. -/
theorem run_iff_guarded {admits : σ → ε → Prop} {I P : σ → Prop}
    (hkeeps : ∀ s e, I s → admits s e → I (step s e).1)
    (hstep : ∀ s e, I s → admits s e → (P (step s e).1 ↔ P s ∧ allows s e)) {s : σ} (h : I s)
    {es : List ε}
    (hes : Guarded step admits s es) :
    P (run step s es).1 ↔ P s ∧ Guarded step allows s es := by
  induction es generalizing s with
  | nil => exact ⟨fun hP => ⟨hP, guarded_nil s⟩, And.left⟩
  | cons e es ih =>
    obtain ⟨hfirst, hrest⟩ := guarded_cons.1 hes
    rw [run_cons, ih (hkeeps s e h hfirst) hrest, hstep s e h hfirst, guarded_cons, and_assoc]

/-- What does not hold at first but in the end begins to hold at some event. -/
theorem exists_event_of_run {P : σ → Prop} {s : σ} (hfirst : ¬ P s) {es : List ε}
    (hend : P (run step s es).1) :
    ∃ first e rest, es = first ++ e :: rest ∧ ¬ P (run step s first).1 ∧
      P (step (run step s first).1 e).1 := by
  induction es generalizing s with
  | nil => exact absurd hend hfirst
  | cons e es ih =>
    by_cases hnow : P (step s e).1
    · exact ⟨[], e, es, rfl, hfirst, hnow⟩
    · obtain ⟨first, e', rest, rfl, hbefore, hafter⟩ := ih hnow hend
      exact ⟨e :: first, e', rest, rfl, hbefore, hafter⟩

end Machine

end LiveLint
