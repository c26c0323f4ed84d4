import LiveLint.Proofs.Session.Snapshot
import LiveLint.Proofs.Session.Turnover

/-!
# One process for a session

A call of `start` is refused once the session has left its first state. While the system creates a
process the session is still in it, so that a second call that comes in this time is not refused and
asks for a second process (`overlapping_starts_spawn_twice`). Sessions whose calls do not overlap in
this way have one process at most, whatever the number of calls, do not leave their end, and are
reached by a cancelation (`spawned_once_unless_starts_overlap`).

Three invariants carry this. Calls that wait and processes are one at most in all (`Sole`); a
session that runs holds its only process (`Held`); and as long as a session that was started is in
its first state, some call of `start` waits (`Asked`).
-/

namespace LiveLint

namespace Session

variable {κ : Type}

/-! ## Calls that overlap -/

/-- The event is a call of `start` that is not refused although an earlier one still waits for the
system. -/
def Overlaps (s : Session κ) : Event κ → Prop
  | .start .. => s.status = .pending ∧ 0 < s.waitingStarts
  | _ => False

/-- What holds of a session of which no two calls of `start` have waited together. -/
structure Sole (s : Session κ) : Prop where
  started : Started 1 s
  told : Told s

/-- Events that start nothing do not count. -/
theorem Started.step_of_not_isStart {n : Nat} {s : Session κ} (h : Started n s) {e : Event κ}
    (he : e.isStart = false) : Started n (s.step e).1 := by
  simpa [he] using h.step e

/-- A call of `start` that waits alone is the first one to wait. -/
theorem Sole.start {s : Session κ} (h : Sole s) (ticket : Nat) (system : System)
    (hsingle : ¬ Overlaps s (.start ticket system)) : Started 1 (s.start ticket system).1 := by
  obtain ⟨hpaid, hreaders, hnone, hwaits⟩ := h.started
  have hidle (hpending : s.status = .pending) : s.waitingStarts = 0 :=
    Nat.eq_zero_of_not_pos fun hpos => hsingle ⟨hpending, hpos⟩
  rcases s.start_cases ticket system with
    ⟨_, heq, -⟩ | ⟨hpending, _, heq⟩ | ⟨hpending, executable, _, _, _, heq⟩ <;> rw [heq]
  · exact h.started
  · rw [spawnError_of_pending hpending]
    refine ⟨hpaid, hreaders, fun _ hfailed => (nomatch hfailed), fun _ hpos => ?_⟩
    exact absurd (hidle hpending) (Nat.ne_of_gt hpos)
  · have hchildren := hnone (Nat.le_refl 1) hpending
    refine ⟨?_, hreaders, fun _ _ => hchildren, fun _ _ => .inl hpending⟩
    have hone : waitingStarts { s with starts := s.starts ++ [⟨ticket, executable, .spawning⟩] }
        = s.waitingStarts + 1 := by simp [waitingStarts]
    rw [hone, hidle hpending]
    simp [hchildren]

/-- A session stays sole by every event that does not overlap with a call of `start`. -/
theorem Sole.step {s : Session κ} (h : Sole s) (e : Event κ) (hsingle : ¬ Overlaps s e) :
    Sole (s.step e).1 := by
  refine ⟨?_, h.told.step h.started (Nat.le_refl 1) e⟩
  cases e with
  | start ticket system => exact h.start ticket system hsingle
  | _ => exact h.started.step_of_not_isStart rfl

/-- A new session is sole. -/
theorem sole_fresh (command : List Text) (text : Text) (options : SessionOptions)
    (checkId : Option Int) : Sole ({ command, text, options, checkId } : Session κ) where
  started := ⟨Nat.zero_le 1, Nat.le_refl 0, fun _ _ => rfl, fun _ h => absurd h (Nat.lt_irrefl 0)⟩
  told := told_fresh command text options checkId

/-- A session is sole as long as no calls of `start` overlap. -/
theorem Sole.run {s : Session κ} (h : Sole s) {es : List (Event κ)}
    (hes : Machine.Guarded Session.step (fun s e => ¬ Overlaps s e) s es) :
    Sole (Machine.run Session.step s es).1 :=
  Machine.run_invariant_of_guarded (fun _ e hsole => hsole.step e) h hes

/-- What every event preserves of such a session and of what was done so far, every run
preserves. -/
theorem Sole.run_preserves {P : Session κ → List (Effect κ) → Prop}
    (hstep : ∀ t past e, Sole t → P t past → P (t.step e).1 (past ++ (t.step e).2))
    {s : Session κ} (h : Sole s) (hfirst : P s []) {es : List (Event κ)}
    (hes : Machine.Guarded Session.step (fun s e => ¬ Overlaps s e) s es) :
    P (Machine.run Session.step s es).1 (Machine.run Session.step s es).2 := by
  have hboth : ∀ (t : Session κ) past e, (Sole t ∧ P t past) → ¬ Overlaps t e →
      Sole (t.step e).1 ∧ P (t.step e).1 (past ++ (t.step e).2) :=
    fun t past e ⟨hsole, hP⟩ hsingle => ⟨hsole.step e hsingle, hstep t past e hsole hP⟩
  exact (Machine.run_preserves_of_guarded hboth ⟨h, hfirst⟩ hes).2

/-- Only a session that waits for its process gets one. -/
theorem Sole.pending_of_gets {s : Session κ} (h : Sole s) {e : Event κ} (hgets : GetsProcess s e) :
    s.status = .pending := by
  cases e with
  | spawned ticket child =>
    obtain ⟨hopen, c, hcall, hplace⟩ := hgets
    exact (h.started.waiting (Nat.le_refl 1) (waitingStarts_pos hcall hplace)).resolve_right hopen
  | _ => cases hgets

/-- The end of a session is final. -/
theorem Sole.status_run {s : Session κ} (h : Sole s) {es : List (Event κ)}
    (hes : Machine.Guarded Session.step (fun s e => ¬ Overlaps s e) s es)
    (hterminal : s.status.isTerminal) : (Machine.run Session.step s es).1.status = s.status := by
  refine h.run_preserves (P := fun t _ => t.status = s.status) (fun t _ e hsole hstatus => ?_) rfl hes
  -- No move of the status begins at an end.
  rcases (step_unfolds hsole.told hsole.started (Nat.le_refl 1) e).status with hsame | hnext
  · exact hsame.trans hstatus
  · rw [← hstatus, Status.next_of_terminal hnext] at hterminal
    cases hterminal

/-- A session that is started once has no calls of `start` that overlap. -/
theorem guarded_of_startCount (command : List Text) (text : Text) (options : SessionOptions)
    (checkId : Option Int) {es : List (Event κ)} (honce : startCount es ≤ 1) :
    Machine.Guarded Session.step (fun s e => ¬ Overlaps s e)
      ({ command, text, options, checkId } : Session κ) es := by
  rintro first e rest rfl hoverlap
  cases e with
  | start ticket system =>
    have hnone : startCount first = 0 := by
      rw [startCount_append, startCount, startCount, List.countP_cons] at honce
      rw [startCount]
      simp only [Event.isStart, if_true] at honce
      omega
    have hpaid := (started_run (started_fresh command text options checkId) first).paid
    have hwaits := hoverlap.2
    omega
  | _ => exact hoverlap

/-! ## Holding the process -/

/-- A session that runs holds its only process. -/
def Held (s : Session κ) : Prop :=
  s.status = .running → s.handle = some 0 ∧ s.children.length = 1

/-- The event is a release that makes a session let go of its process while it runs. -/
def LetsGo (s : Session κ) : Event κ → Prop
  | .release => s.status = .running ∧ s.released = false
  | _ => False

/-- A new session does not run yet. -/
theorem held_fresh (command : List Text) (text : Text) (options : SessionOptions)
    (checkId : Option Int) : Held ({ command, text, options, checkId } : Session κ) :=
  fun hrunning => nomatch hrunning

/-- A session that has ended does not run any more. -/
theorem held_of_terminal {s : Session κ} (h : s.status.isTerminal) : Held s := by
  intro hrunning
  rw [hrunning] at h
  cases h

/-- A session holds its process through every event that does not let go of it. -/
theorem Held.step {s : Session κ} (h : Held s) (hsole : Sole s) (e : Event κ)
    (hgrip : ¬ LetsGo s e) : Held (s.step e).1 := by
  have hturnover := s.step_turnover e
  generalize s.step e = p at hturnover
  cases hturnover with
  | keeps haudience hsame hstatus houtcome hchildren =>
    obtain ⟨i, f, -, hchildren⟩ := hchildren
    intro hrunning
    obtain ⟨hhandle, hlength⟩ := h (hstatus ▸ hrunning)
    exact ⟨hsame.handle.trans hhandle, by rw [hchildren, List.length_modify, hlength]⟩
  | late child haudience hsame hcanceled hstatus =>
    exact held_of_terminal (by rw [hstatus, hcanceled]; rfl)
  | begins child hgets haudience hstatus houtcome hhandle hreader hchildren =>
    -- The session was in its first state, so that this process is its first one.
    intro _
    have hnone := hsole.started.pending (Nat.le_refl 1) (hsole.pending_of_gets hgets)
    exact ⟨by rw [hhandle, hnone]; rfl, by rw [hchildren, hnone]; rfl⟩
  | fails error hpending haudience hsame hstatus => exact held_of_terminal (by rw [hstatus]; rfl)
  | ends he hopen hfits hself hsame hreleased hstatus =>
    exact held_of_terminal (by rw [hstatus]; exact hfits.terminal)
  | registers => exact h
  | answers => exact h
  | calls => exact h
  | cancels he hopen =>
    refine held_of_terminal ?_
    rw [cancel_of_open hopen, release_status]
    rfl
  | releases he =>
    subst he
    intro hrunning
    rw [release_status] at hrunning
    have hreleased : s.released := by
      by_contra hfirst
      exact hgrip ⟨hrunning, by simpa using hfirst⟩
    rw [release, if_pos hreleased]
    exact h hrunning

/-- A session holds its process as long as nothing lets go of it. -/
theorem Held.run {s : Session κ} (h : Held s) (hsole : Sole s) {es : List (Event κ)}
    (hsingle : Machine.Guarded Session.step (fun s e => ¬ Overlaps s e) s es)
    (hgrip : Machine.Guarded Session.step (fun s e => ¬ LetsGo s e) s es) :
    Held (Machine.run Session.step s es).1 := by
  have hstep : ∀ (t : Session κ) e, (Sole t ∧ Held t) → (¬ Overlaps t e ∧ ¬ LetsGo t e) →
      Sole (t.step e).1 ∧ Held (t.step e).1 :=
    fun _ e ⟨hsole, hheld⟩ ⟨hsingle, hgrip⟩ => ⟨hsole.step e hsingle, hheld.step hsole e hgrip⟩
  exact (Machine.run_invariant_of_guarded hstep ⟨hsole, h⟩ (hsingle.and hgrip)).2

/-- A cancelation reaches the only process. -/
theorem Held.stopped_cancel {s : Session κ} (h : Held s) (hsole : Sole s)
    (hopen : s.status.isTerminal = false) : ∀ c ∈ s.cancel.1.children, c.Stopped := by
  rw [cancel_of_open hopen, release_children]
  exact stopped_killHeld hsole.started hopen h

/-! ## Sessions that were canceled -/

/-- A canceled session, whose processes are stopped. -/
structure Halted (s : Session κ) : Prop where
  status : s.status = .canceled
  stopped : ∀ c ∈ s.children, c.Stopped

/-- To be canceled is to have ended. -/
theorem not_terminal_of_canceled {s : Session κ} (h : s.status = .canceled) :
    ¬ s.status.isTerminal = false := by
  rw [h]
  exact Bool.noConfusion

/-- However often it is started, a canceled session remains canceled. -/
theorem canceled_step {s : Session κ} (h : s.status = .canceled) (e : Event κ) :
    (s.step e).1.status = .canceled := by
  cases s.step_passage e with
  | stays hlife => exact hlife.status.trans h
  | asks hlife => exact hlife.status.trans h
  | late hlife => exact hlife.status.trans h
  | begins hopen => exact absurd h hopen
  | ends hopen => exact absurd hopen (not_terminal_of_canceled h)

/-- A canceled session stays canceled. -/
theorem canceled_run {s : Session κ} (h : s.status = .canceled) (es : List (Event κ)) :
    (Machine.run Session.step s es).1.status = .canceled :=
  Machine.run_invariant (P := fun t : Session κ => t.status = .canceled)
    (fun _ e hcanceled => canceled_step hcanceled e) h es

/-- Nothing ends the standstill, and a process that comes is killed. -/
theorem Halted.step {s : Session κ} (h : Halted s) (e : Event κ) : Halted (s.step e).1 := by
  refine ⟨canceled_step h.status e, ?_⟩
  have hturnover := s.step_turnover e
  generalize s.step e = p at hturnover
  cases hturnover with
  | keeps haudience hgrip hstatus houtcome hchildren =>
    obtain ⟨i, f, hfollows, hchildren⟩ := hchildren
    intro c' hmem
    obtain ⟨c, hc, hnext⟩ := Child.exists_follows hfollows (hchildren ▸ hmem)
    exact (h.stopped c hc).of_follows hnext
  | late child haudience hgrip hcanceled hstatus houtcome hchildren =>
    intro c hmem
    rw [hchildren, List.mem_append, List.mem_singleton] at hmem
    rcases hmem with hmem | rfl
    · exact h.stopped c hmem
    · exact child.stopped_kill
  | begins child hgets =>
    cases e with
    | spawned ticket child => exact absurd h.status hgets.1
    | _ => cases hgets
  | fails error hpending => exact absurd (h.status.symm.trans hpending) (by simp)
  | ends he hopen => exact absurd hopen (not_terminal_of_canceled h.status)
  | registers => exact h.stopped
  | answers => exact h.stopped
  | calls => exact h.stopped
  | cancels he hopen => exact absurd hopen (not_terminal_of_canceled h.status)
  | releases => exact (release_children s).symm ▸ h.stopped

/-- The processes of a canceled session stay stopped. -/
theorem Halted.run {s : Session κ} (h : Halted s) (es : List (Event κ)) :
    Halted (Machine.run Session.step s es).1 :=
  Machine.run_invariant (fun _ e hhalted => hhalted.step e) h es

/-- A cancelation of a session that holds its process leaves none running. -/
theorem Held.halted {s : Session κ} (h : Held s) (hsole : Sole s)
    (hopen : s.status.isTerminal = false) : Halted (s.step .cancel).1 := by
  refine ⟨?_, h.stopped_cancel hsole hopen⟩
  show s.cancel.1.status = .canceled
  rw [cancel_of_open hopen, release_status]

/-! ## Sessions that were asked to start -/

/-- The event is no release, and no `start` call is given up by its caller or has its arguments
refused. -/
def Event.isOrdinary : Event κ → Bool
  | .release | .abandon _ | .spawnFailed _ (.refused _) => false
  | _ => true

/-- No ordinary event lets go of a process. -/
theorem guarded_of_ordinary (s : Session κ) {es : List (Event κ)} (hes : ∀ e ∈ es, e.isOrdinary) :
    Machine.Guarded Session.step (fun s e => ¬ LetsGo s e) s es := by
  rintro first e rest rfl
  have he := hes e (by simp)
  cases e with
  | release => cases he
  | _ => exact id

/-- What holds of a session for which `start` was called `n` times: in its first state all its calls
wait for the system, and there is one. -/
structure Asked (n : Nat) (s : Session κ) : Prop where
  command : s.command ≠ []
  spawning : s.status = .pending → ∀ c ∈ s.starts, c.place = .spawning
  waits : 0 < n → s.status = .pending → s.starts ≠ []

/-- A session that was asked to start has a call that waits. -/
theorem Asked.waitingStarts_pos {n : Nat} {s : Session κ} (h : Asked n s) (hn : 0 < n)
    (hpending : s.status = .pending) : 0 < s.waitingStarts := by
  obtain ⟨c, hc⟩ := List.exists_mem_of_ne_nil _ (h.waits hn hpending)
  exact List.countP_pos_iff.2 ⟨c, hc, by simpa using h.spawning hpending c hc⟩

/-- In its first state, a session with a command asks the system for a process, or fails at once. -/
theorem start_of_pending {s : Session κ} (hcommand : s.command ≠ []) (hpending : s.status = .pending)
    (ticket : Nat) (system : System) :
    (∃ reason, s.start ticket system = s.spawnError ticket reason) ∨
    ∃ executable arguments directory environment,
      s.start ticket system
        = ({ s with starts := s.starts ++ [⟨ticket, executable, .spawning⟩] },
          [.spawn ticket arguments directory environment]) := by
  unfold start
  rw [if_neg (by simp [hpending]), if_neg (not_not_intro hpending)]
  obtain ⟨head, rest, hcommand⟩ := List.exists_cons_of_ne_nil hcommand
  rw [hcommand, processArguments]
  split_ifs
  · exact .inr ⟨_, _, _, _, rfl⟩
  · cases system.find head with
    | none => exact .inl ⟨_, rfl⟩
    | some found => exact .inr ⟨_, _, _, _, rfl⟩

/-- So it does not refuse to start. -/
theorem start_ne_refused {s : Session κ} (hcommand : s.command ≠ []) (hpending : s.status = .pending)
    (ticket : Nat) (system : System) (f : Fault) :
    (s.start ticket system).2 ≠ [.returned ticket (.error (.fault f))] := by
  rcases start_of_pending hcommand hpending ticket system with ⟨_, heq⟩ | ⟨_, _, _, _, heq⟩ <;>
    rw [heq]
  · rw [spawnError_of_pending hpending]
    simp
  · simp

/-- After its first state, an uncanceled session refuses to start. -/
theorem start_of_started {s : Session κ} (hpending : s.status ≠ .pending)
    (hcanceled : s.status ≠ .canceled) (ticket : Nat) (system : System) :
    s.start ticket system = (s, [.returned ticket (.error (.fault (.alreadyStarted s.describe)))]) := by
  rw [start, if_neg hcanceled, if_pos hpending]

/-- No session returns to its first state. -/
theorem pending_of_step {s : Session κ} {e : Event κ} (h : (s.step e).1.status = .pending) :
    s.status = .pending := by
  cases s.step_passage e with
  | stays hlife => exact hlife.status.symm.trans h
  | asks hlife => exact hlife.status.symm.trans h
  | late hlife => exact hlife.status.symm.trans h
  | begins hopen hstatus => rw [hstatus] at h; cases h
  | ends hopen hfits hby hstatus =>
    have hterminal := hfits.terminal
    rw [← hstatus, h] at hterminal
    cases hterminal

/-- The system cannot run the program for a `start` call that waits for it. -/
theorem spawnFailed_system_cases (s : Session κ) (ticket : Nat) (reason : Text) :
    s.spawnFailed ticket (.system reason) = (s, []) ∨
      s.spawnFailed ticket (.system reason) = (s.endStart ticket).spawnError ticket reason := by
  unfold spawnFailed
  split
  · exact .inr rfl
  · exact .inl rfl

/-- Calls of `start` go on when a session finishes. -/
theorem starts_finish (s : Session κ) (o : Outcome) : (s.finish o).1.starts = s.starts := by
  unfold finish
  split <;> rfl

/-- Calls of `start` go on when a reader does. -/
theorem starts_read (s : Session κ) (j : Nat) : (s.read j).1.starts = s.starts := by
  have hreads := read_cases s j
  generalize s.read j = p at hreads
  cases hreads with
  | waits => rfl
  | stops => rfl
  | hands => rfl
  | kills => rfl
  | collects => rw [starts_finish]; rfl
  | reaps => rw [starts_finish]; rfl

/-- As long as the session stays in its first state, the calls that wait go on waiting, and a call
of `start` waits with them. -/
theorem Asked.starts_step {n : Nat} {s : Session κ} (h : Asked n s) {e : Event κ}
    (he : e.isOrdinary) (hpending : (s.step e).1.status = .pending) :
    e.isStart = false ∧ (s.step e).1.starts = s.starts ∨
      ∃ c, c.place = .spawning ∧ (s.step e).1.starts = s.starts ++ [c] := by
  have hbefore := pending_of_step hpending
  cases e with
  | start ticket system =>
    change (s.start ticket system).1.status = .pending at hpending
    show _ ∨ ∃ c, _ ∧ (s.start ticket system).1.starts = _
    rcases start_of_pending h.command hbefore ticket system with ⟨_, heq⟩ | ⟨_, _, _, _, heq⟩ <;>
      rw [heq] at hpending ⊢
    · rw [spawnError_of_pending hbefore] at hpending
      cases hpending
    · exact .inr ⟨_, rfl, rfl⟩
  | spawned ticket child =>
    have hhears := spawned_cases s ticket child
    change (s.spawned ticket child).1.status = .pending at hpending
    show _ ∧ (s.spawned ticket child).1.starts = _ ∨ ∃ c, _ ∧ (s.spawned ticket child).1.starts = _
    generalize s.spawned ticket child = p at hpending hhears
    cases hhears with
    | ignored => exact .inl ⟨rfl, rfl⟩
    | late line hcall hplace hstatus => rw [hbefore] at hstatus; cases hstatus
    | spawned => cases hpending
  | spawnFailed ticket failure =>
    change (s.spawnFailed ticket failure).1.status = .pending at hpending
    show _ ∧ (s.spawnFailed ticket failure).1.starts = _ ∨ _
    cases failure with
    | refused reason => cases he
    | system reason =>
      rcases s.spawnFailed_system_cases ticket reason with heq | heq
      · exact .inl ⟨rfl, by rw [heq]⟩
      · rw [heq, spawnError_of_pending (s := s.endStart ticket) hbefore] at hpending
        cases hpending
  | resume ticket =>
    show _ ∧ (s.resume ticket).1.starts = _ ∨ _
    rcases s.resume_cases ticket with heq | ⟨c, i, hcall, hplace, -, -⟩
    · exact .inl ⟨rfl, by rw [heq]⟩
    · -- A call that waits for the end of its process belongs to a canceled session.
      have := h.spawning hbefore c (mem_starts_of_startCall? hcall)
      rw [hplace] at this
      cases this
  | abandon ticket => cases he
  | read j => exact .inl ⟨rfl, s.starts_read j⟩
  | timeUp j =>
    show _ ∧ (s.timeUp j).starts = _ ∨ _
    rcases s.timeUp_cases j with heq | ⟨_, -, heq⟩ <;> rw [heq] <;> exact .inl ⟨rfl, rfl⟩
  | exit i e => exact .inl ⟨rfl, rfl⟩
  | call =>
    show _ ∧ s.callNext.1.starts = _ ∨ _
    unfold callNext
    split <;> exact .inl ⟨rfl, rfl⟩
  | cancel =>
    change s.cancel.1.status = .pending at hpending
    rw [cancel_of_open (by rw [hbefore]; rfl), release_status] at hpending
    cases hpending
  | release => cases he
  | onComplete c =>
    show _ ∧ (s.onComplete c).1.starts = _ ∨ _
    unfold onComplete
    split_ifs
    · exact .inl ⟨rfl, rfl⟩
    · exact .inl ⟨rfl, rfl⟩
    · split <;> exact .inl ⟨rfl, rfl⟩

/-- Ordinary events leave the calls of a session in its first state waiting. -/
theorem Asked.step {n : Nat} {s : Session κ} (h : Asked n s) {e : Event κ} (he : e.isOrdinary) :
    Asked (n + if e.isStart then 1 else 0) (s.step e).1 where
  command := by rw [(s.step_kept e).command]; exact h.command
  spawning hpending c hc := by
    have hspawning := h.spawning (pending_of_step hpending)
    rcases h.starts_step he hpending with ⟨-, hstarts⟩ | ⟨c', hplace, hstarts⟩
    · exact hspawning c (hstarts ▸ hc)
    · rw [hstarts, List.mem_append, List.mem_singleton] at hc
      rcases hc with hc | rfl
      · exact hspawning c hc
      · exact hplace
  waits hn hpending := by
    rcases h.starts_step he hpending with ⟨hstart, hstarts⟩ | ⟨c', -, hstarts⟩
    · rw [hstart] at hn
      rw [hstarts]
      exact h.waits (by simpa using hn) (pending_of_step hpending)
    · rw [hstarts]
      simp

/-- A session in its first state has all its calls waiting, whatever ordinary events happen. -/
theorem asked_run {n : Nat} {s : Session κ} (h : Asked n s) {es : List (Event κ)}
    (hes : ∀ e ∈ es, e.isOrdinary) :
    Asked (n + startCount es) (Machine.run Session.step s es).1 := by
  induction es generalizing n s with
  | nil => exact h
  | cons e es ih =>
    obtain ⟨he, hrest⟩ := List.forall_mem_cons.1 hes
    have hdone := ih (h.step he) hrest
    rw [startCount, List.countP_cons]
    rwa [Nat.add_assoc, Nat.add_comm (if e.isStart then 1 else 0)] at hdone

/-- After the first call of `start`, a session that was not canceled refuses a further one exactly
when no earlier one still waits for the system. If none overlaps with an earlier one in this way,
the session has one process at most, an end is final, and a cancelation reaches the process, whether
it is there or comes later. -/
theorem spawned_once_unless_starts_overlap {command : List Text} {text : Text}
    {options : SessionOptions} {checkId : Option Int} {fresh : Session κ}
    (hfresh : create command text options checkId = .ok fresh) (es : List (Event κ))
    (hordinary : ∀ e ∈ es, e.isOrdinary) :
    let after := fun es => (Machine.run Session.step fresh es).1
    (∀ first ticket system rest, es = first ++ .start ticket system :: rest →
      0 < startCount first → (after first).status ≠ .canceled →
      ((after first).step (.start ticket system)
          = (after first, [.returned ticket (.error (.fault (.alreadyStarted
              (after first).describe)))])
        ↔ ¬ Overlaps (after first) (.start ticket system))) ∧
    (Machine.Guarded Session.step (fun s e => ¬ Overlaps s e) fresh es →
      (after es).children.length ≤ 1 ∧
      (∀ first rest, es = first ++ rest → (after first).status.isTerminal →
        (after es).status = (after first).status) ∧
      ∀ first rest, es = first ++ .cancel :: rest → (after first).status.isTerminal = false →
        ∀ c ∈ (after es).children, c.Stopped) := by
  intro after
  obtain ⟨hcommand, rfl⟩ : command ≠ [] ∧ fresh = { command, text, options, checkId } := by
    unfold create at hfresh
    split_ifs at hfresh with hempty
    cases hfresh
    exact ⟨by simpa using hempty, rfl⟩
  have hfresh : Sole ({ command, text, options, checkId } : Session κ) :=
    sole_fresh command text options checkId
  have hasked : Asked 0 ({ command, text, options, checkId } : Session κ) :=
    ⟨hcommand, fun _ _ hc => absurd hc List.not_mem_nil, fun hn => absurd hn (Nat.lt_irrefl 0)⟩
  refine ⟨?_, fun hsingle => ⟨?_, ?_, ?_⟩⟩
  · rintro first ticket system rest rfl hstarted hcanceled
    have hasked := asked_run hasked fun e he => hordinary e (List.mem_append_left _ he)
    rw [Nat.zero_add] at hasked
    -- A start that is not refused spawns, and only a pending session does that. So a refusal and a
    -- spawn under way exclude each other.
    constructor
    · rintro hrefused ⟨hpending, -⟩
      exact start_ne_refused hasked.command hpending ticket system _ (congrArg Prod.snd hrefused)
    · intro hsingle
      refine start_of_started (fun hpending => hsingle ?_) hcanceled ticket system
      exact ⟨hpending, hasked.waitingStarts_pos hstarted hpending⟩
  -- Every process was paid for by a start, and starts that do not overlap pay once.
  · have hpaid := (hfresh.run hsingle).started.paid
    exact Nat.le_trans (Nat.le_add_left _ _) hpaid
  · rintro first rest rfl hterminal
    obtain ⟨hfirst, hrest⟩ := Machine.guarded_append.1 hsingle
    have hdone := (hfresh.run hfirst).status_run hrest hterminal
    simp only [after, Machine.run_append]
    exact hdone
  · rintro first rest rfl hopen
    obtain ⟨hfirst, -⟩ := Machine.guarded_append.1 hsingle
    have hgrip := guarded_of_ordinary { command, text, options, checkId } fun e he =>
      hordinary e (List.mem_append_left _ he)
    have hheld := (held_fresh command text options checkId).run hfresh hfirst hgrip
    have hhalted := (hheld.halted (hfresh.run hfirst) hopen).run rest
    simp only [after, Machine.run_append, Machine.run_cons]
    exact hhalted.stopped

/-- Every program is found, and there are no variables. -/
def anySystem : System where
  find _ := some "/bin/lint"
  environment := []

/-- A call that comes when the session has its process, which a cancelation then kills. -/
def startedAgain : List (Event Unit) :=
  [.start 1 anySystem, .spawned 1 { pid := 7 }, .start 2 anySystem, .read 0, .cancel, .read 0]

/-- In the example no two calls of `start` overlap. -/
theorem startedAgain_guarded :
    Machine.Guarded Session.step (fun s e => ¬ Overlaps s e)
      { command := ["lint"], text := [], options := {}, checkId := none } startedAgain := by
  simp only [startedAgain, Machine.guarded_cons]
  exact ⟨fun h => absurd h.2 (by decide), id, fun h => absurd h.1 (by decide), id, id, id,
    Machine.guarded_nil _⟩

/-- A `start` call that comes late is refused, and the process is killed by a cancelation. -/
theorem late_start_refused_and_process_killed :
    let after := fun es => (Machine.run Session.step
      ({ command := ["lint"], text := [], options := {}, checkId := none } : Session Unit) es).1
    (∀ e ∈ startedAgain, e.isOrdinary) ∧
      Machine.Guarded Session.step (fun s e => ¬ Overlaps s e)
        { command := ["lint"], text := [], options := {}, checkId := none } startedAgain ∧
      ((after (startedAgain.take 2)).step (.start 2 anySystem)).2
        = [.returned 2 (.error (.fault (.alreadyStarted (after (startedAgain.take 2)).describe)))] ∧
      (after startedAgain).children.length ≤ 1 ∧ ∀ c ∈ (after startedAgain).children, c.Stopped := by
  have hfresh : create ["lint"] [] {} none
      = .ok ({ command := ["lint"], text := [], options := {}, checkId := none } : Session Unit) :=
    rfl
  have hordinary : ∀ e ∈ startedAgain, e.isOrdinary := by simp [startedAgain, Event.isOrdinary]
  obtain ⟨hrefuses, hsingle⟩ := spawned_once_unless_starts_overlap hfresh startedAgain hordinary
  obtain ⟨hone, -, hstopped⟩ := hsingle startedAgain_guarded
  have hrefused := (hrefuses (startedAgain.take 2) 2 anySystem (startedAgain.drop 3) rfl
    (by decide) (by decide)).2 fun h => absurd h.1 (by decide)
  exact ⟨hordinary, startedAgain_guarded, congrArg Prod.snd hrefused, hone,
    hstopped (startedAgain.take 4) (startedAgain.drop 5) rfl (by decide)⟩

/-- The second call comes while the system creates a process for the first one. -/
def startedTwice : List (Event Unit) := [.start 1 anySystem, .start 2 anySystem]

/-- It is not refused, and the session is spawned twice; its end is left again, and a cancelation
does not reach the first process. -/
theorem overlapping_starts_spawn_twice :
    let after := fun es => (Machine.run Session.step
      ({ command := ["lint"], text := [], options := {}, checkId := none } : Session Unit) es).1
    let spawned := fun ticket => (.spawned ticket { pid := 7 } : Event Unit)
    let ended := startedTwice ++ [spawned 1, .read 0, .exit 0 ⟨0, [], []⟩, .read 0]
    ((after (startedTwice.take 1)).step (.start 2 anySystem)).2
        = [.spawn 2 ["/bin/lint"] none none] ∧
      (after (startedTwice ++ [spawned 1, spawned 2])).children.length = 2 ∧
      (after ended).status = .completed ∧
      (after (ended ++ [spawned 2])).status = .running ∧
      ∃ c ∈ (after (startedTwice ++ [spawned 1, spawned 2, .cancel])).children, ¬ c.Stopped := by
  refine ⟨rfl, rfl, rfl, rfl, { pid := 7 }, .head _, ?_⟩
  simp [Child.Stopped]

end Session

end LiveLint
