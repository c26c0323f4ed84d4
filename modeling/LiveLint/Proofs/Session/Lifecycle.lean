import LiveLint.Machine
import LiveLint.Proofs.Session.Step

/-!
# The life of a session

A session that is started at most once moves from `pending` over `running` to one of its ends and
stays there, and its outcome, its event and its status tell the same story in every state.

Two invariants carry this. Every process was paid for with a call of `start`, so that a session that
was started once waits for a process or has one, and not both (`Started`). And the outcome is there
exactly when the status is terminal, and fits it (`Told`).
-/

namespace LiveLint

/-- The moves of a session's status. -/
inductive Status.Next : Status → Status → Prop
  | run : Next .pending .running
  | fail : Next .pending .failed
  | cancelPending : Next .pending .canceled
  | complete : Next .running .completed
  | failRunning : Next .running .failed
  | cancel : Next .running .canceled

namespace Session

variable {κ : Type}

/-! ## Sessions that are started once -/

/-- What holds of a session for which `start` was called `n` times. -/
structure Started (n : Nat) (s : Session κ) : Prop where
  /-- Calls that wait for a process, and processes, never outnumber the calls made. -/
  paid : s.waitingStarts + s.children.length ≤ n
  readers_le : s.readers.length ≤ s.children.length
  pending : n ≤ 1 → s.status = .pending → s.children = []
  waiting : n ≤ 1 → 0 < s.waitingStarts → s.status = .pending ∨ s.status = .canceled

/-- Without a process there is no reader. -/
theorem Started.readers_eq_nil {n : Nat} {s : Session κ} (h : Started n s) (hn : n ≤ 1)
    (hwaiting : 0 < s.waitingStarts) : s.readers = [] := by
  have hpaid := h.paid
  have hreaders := h.readers_le
  exact List.length_eq_zero_iff.1 (by omega)

/-- An event keeps account of the calls of `start`. -/
theorem Started.step {n : Nat} {s : Session κ} (h : Started n s) (e : Event κ) :
    Started (n + if e.isStart then 1 else 0) (s.step e).1 := by
  have hpaid := h.paid
  have hreaders_le := h.readers_le
  have hn' {b : Bool} : n + (if b then 1 else 0) ≤ 1 → n ≤ 1 := by omega
  cases s.step_passage e with
  | stays hlife htasks =>
    obtain ⟨hwaiting, hchildren, hreaders⟩ := htasks
    refine ⟨by omega, by omega, fun hn hpending => ?_, fun hn hpos => ?_⟩
    · rw [hlife.status] at hpending
      rw [h.pending (hn' hn) hpending] at hchildren
      exact List.length_eq_zero_iff.1 hchildren
    · rw [hlife.status]
      exact h.waiting (hn' hn) (by omega)
  | asks hlife hstart hpending hwaiting hchildren hreaders =>
    rw [if_pos hstart]
    refine ⟨by omega, by omega, fun hn _ => ?_, fun _ _ => .inl (hlife.status.trans hpending)⟩
    rw [h.pending (by omega) hpending] at hchildren
    exact List.length_eq_zero_iff.1 hchildren
  | late hlife hcanceled hwaiting hchildren hreaders =>
    have hstatus := hlife.status.trans hcanceled
    exact ⟨by omega, by omega, fun _ hpending => by simp [hstatus] at hpending,
      fun _ _ => .inr hstatus⟩
  | begins hopen hstatus hdone houtcome hwaiting hchildren hreaders =>
    refine ⟨by omega, by omega, fun _ hpending => by simp [hstatus] at hpending, fun hn hpos => ?_⟩
    have := hn' hn
    omega
  | ends hopen hfits hby hstatus hdone houtcome htasks =>
    obtain ⟨hwaiting, hchildren, hreaders⟩ := htasks
    refine ⟨by omega, by omega, fun hn hpending => ?_, fun hn hpos => ?_⟩
    · have hterminal := hfits.terminal
      rw [← hstatus, hpending] at hterminal
      cases hterminal
    · -- A session that fails or completes while it waits would have had a second process or call.
      cases hby with
      | host hcanceled => exact .inr (hstatus.trans hcanceled)
      | reader hsome => exact absurd (h.readers_eq_nil (hn' hn) (by omega)) hsome
      | system hpending hfailed hcall =>
        rcases hcall with hstart | hless
        · rw [if_pos hstart] at hn
          omega
        · have := hn' hn
          omega

/-- How often `start` is called. -/
def startCount (es : List (Event κ)) : Nat := es.countP Event.isStart

/-- The calls of `start` are counted in all that happens. -/
theorem started_run {n : Nat} {s : Session κ} (h : Started n s) (es : List (Event κ)) :
    Started (n + startCount es) (Machine.run Session.step s es).1 := by
  induction es generalizing n s with
  | nil => exact h
  | cons e es ih =>
    have hrest := ih (h.step e)
    rw [startCount, List.countP_cons]
    rwa [Nat.add_assoc, Nat.add_comm (if e.isStart then 1 else 0)] at hrest

/-! ## Sessions that have told their end -/

/-- Status, outcome and event agree. -/
structure Told (s : Session κ) : Prop where
  done : s.done = s.status.isTerminal
  outcome : s.outcome.isSome = s.status.isTerminal
  fits : ∀ o, s.outcome = some o → o.status = s.status ∧ o.Fits

/-- A session that has not ended has no outcome. -/
theorem Told.outcome_eq_none {s : Session κ} (h : Told s) (hopen : s.status.isTerminal = false) :
    s.outcome = none := by
  rw [← Option.isNone_iff_eq_none, ← Option.not_isSome, h.outcome, hopen]
  rfl

/-- A session that lives as before tells the same. -/
theorem Told.of_sameLife {s s' : Session κ} (h : Told s) (hlife : SameLife s s') : Told s' := by
  obtain ⟨hstatus, hdone, houtcome | houtcome⟩ := hlife
  · exact ⟨by rw [hdone, hstatus, h.done], by rw [houtcome, hstatus, h.outcome],
      by rw [houtcome, hstatus]; exact h.fits⟩
  · refine ⟨by rw [hdone, hstatus, h.done], by rw [houtcome, hstatus, Option.isSome_map, h.outcome],
      fun o ho => ?_⟩
    rw [houtcome, Option.map_eq_some_iff] at ho
    obtain ⟨o, ho, rfl⟩ := ho
    obtain ⟨hsame, hfits⟩ := h.fits o ho
    exact ⟨hsame.trans hstatus.symm, hfits.blank⟩

/-- A session that gets its process has waited for it. -/
theorem Started.pending_of_begins {n : Nat} {s s' : Session κ} (h : Started n s) (hn : n ≤ 1)
    (hopen : s.status ≠ .canceled) (hwaiting : s'.waitingStarts < s.waitingStarts) :
    s.status = .pending :=
  (h.waiting hn (by omega)).resolve_right hopen

/-- An event leaves status, outcome and event in agreement, if `start` is called once. -/
theorem Told.step {n : Nat} {s : Session κ} (h : Told s) (hstarted : Started n s) (hn : n ≤ 1)
    (e : Event κ) : Told (s.step e).1 := by
  cases s.step_passage e with
  | stays hlife htasks => exact h.of_sameLife hlife
  | asks hlife => exact h.of_sameLife hlife
  | late hlife => exact h.of_sameLife hlife
  | begins hopen hstatus hdone houtcome hwaiting =>
    -- Only a session that was started twice could begin to run after its end.
    have hpending := hstarted.pending_of_begins hn hopen hwaiting
    have hnone : s.outcome = none := h.outcome_eq_none (by rw [hpending]; rfl)
    refine ⟨?_, ?_, by simp [houtcome, hnone]⟩
    · rw [hdone, h.done, hpending, hstatus]
      rfl
    · rw [houtcome, hnone, hstatus]
      rfl
  | ends hopen hfits hby hstatus hdone houtcome =>
    refine ⟨?_, ?_, fun o ho => ?_⟩
    · rw [hdone, hstatus, hfits.terminal]
    · rw [houtcome, hstatus, hfits.terminal]
      rfl
    · rw [houtcome, Option.some.injEq] at ho
      exact ho ▸ ⟨hstatus.symm, hfits⟩

/-! ## From state to state -/

/-- The status stays or moves on, and an outcome that is there loses its output at most. -/
structure Unfolds (s s' : Session κ) : Prop where
  status : s'.status = s.status ∨ s.status.Next s'.status
  outcome : ∀ o, s.outcome = some o → s'.outcome = some o ∨ s'.outcome = some o.blank

/-- A session that lives as before has not moved on. -/
theorem SameLife.unfolds {s s' : Session κ} (h : SameLife s s') : Unfolds s s' := by
  refine ⟨.inl h.status, fun o ho => ?_⟩
  rcases h.outcome with heq | heq <;> simp [heq, ho]

/-- Only what has not ended moves on. -/
theorem Status.next_of_terminal {a b : Status} (h : Status.Next a b) : a.isTerminal = false := by
  cases h <;> rfl

/-- A session that has not got a process does not end through a reader. -/
theorem next_of_endedBy {n : Nat} {s s' : Session κ} {e : Event κ} {o : Outcome}
    (hstarted : Started n s) (hn : n ≤ 1) (hopen : s.status.isTerminal = false) (hfits : o.Fits)
    (hby : EndedBy s e s' o) : s.status.Next o.status := by
  have hterminal := hfits.terminal
  cases hstatus : s.status with
  | pending =>
    cases hby with
    | host hcanceled => rw [hcanceled]; exact .cancelPending
    | reader hreaders =>
      have hlen := hstarted.readers_le
      rw [hstarted.pending hn hstatus] at hlen
      exact absurd (List.length_eq_zero_iff.1 (Nat.le_zero.1 hlen)) hreaders
    | system _ hfailed => rw [hfailed]; exact .fail
  | running =>
    cases ho : o.status with
    | pending => simp [ho, Status.isTerminal] at hterminal
    | running => simp [ho, Status.isTerminal] at hterminal
    | completed => exact .complete
    | canceled => exact .cancel
    | failed => exact .failRunning
  | completed => simp [hstatus, Status.isTerminal] at hopen
  | canceled => simp [hstatus, Status.isTerminal] at hopen
  | failed => simp [hstatus, Status.isTerminal] at hopen

/-- An event moves a session on by one step at most. -/
theorem step_unfolds {n : Nat} {s : Session κ} (htold : Told s) (hstarted : Started n s)
    (hn : n ≤ 1) (e : Event κ) : Unfolds s (s.step e).1 := by
  cases s.step_passage e with
  | stays hlife htasks => exact hlife.unfolds
  | asks hlife => exact hlife.unfolds
  | late hlife => exact hlife.unfolds
  | begins hopen hstatus hdone houtcome hwaiting =>
    have hpending := hstarted.pending_of_begins hn hopen hwaiting
    refine ⟨.inr ?_, fun o ho => .inl (houtcome.trans ho)⟩
    rw [hpending, hstatus]
    exact .run
  | ends hopen hfits hby hstatus hdone houtcome =>
    refine ⟨.inr ?_, fun o ho => ?_⟩
    · rw [hstatus]
      exact next_of_endedBy hstarted hn hopen hfits hby
    · rw [htold.outcome_eq_none hopen] at ho
      cases ho

/-! ## Runs -/

/-- The calls of `start` are those of both parts. -/
theorem startCount_append (first rest : List (Event κ)) :
    startCount (first ++ rest) = startCount first + startCount rest := List.countP_append

/-- A session that was created and on which nothing was done. -/
theorem started_fresh (command : List Text) (text : Text) (options : SessionOptions)
    (checkId : Option Int) :
    Started 0 ({ command, text, options, checkId } : Session κ) :=
  ⟨Nat.le_refl 0, Nat.le_refl 0, fun _ _ => rfl, fun _ h => absurd h (Nat.lt_irrefl 0)⟩

/-- A new session has nothing to tell of its end. -/
theorem told_fresh (command : List Text) (text : Text) (options : SessionOptions)
    (checkId : Option Int) : Told ({ command, text, options, checkId } : Session κ) :=
  ⟨rfl, rfl, fun _ h => by cases h⟩

/-- Status, outcome and event agree, whatever happens, if `start` is called once. -/
theorem told_run {n : Nat} {s : Session κ} (htold : Told s) (hstarted : Started n s)
    (es : List (Event κ)) (honce : n + startCount es ≤ 1) :
    Told (Machine.run Session.step s es).1 := by
  induction es generalizing n s with
  | nil => exact htold
  | cons e es ih =>
    rw [startCount, List.countP_cons] at honce
    refine ih (htold.step hstarted (by omega) e) (hstarted.step e) ?_
    rw [startCount]
    omega

/-- A status that is terminal stays. -/
theorem status_run_of_terminal {n : Nat} {s : Session κ} (htold : Told s) (hstarted : Started n s)
    (es : List (Event κ)) (honce : n + startCount es ≤ 1) (hterminal : s.status.isTerminal) :
    (Machine.run Session.step s es).1.status = s.status := by
  induction es generalizing n s with
  | nil => rfl
  | cons e es ih =>
    rw [startCount, List.countP_cons] at honce
    have hn : n ≤ 1 := by omega
    have hstays : (s.step e).1.status = s.status := by
      rcases (step_unfolds htold hstarted hn e).status with h | h
      · exact h
      · rw [Status.next_of_terminal h] at hterminal
        cases hterminal
    have hrest := ih (htold.step hstarted hn e) (hstarted.step e) (by rw [startCount]; omega)
      (by rwa [hstays])
    rw [← hstays]
    exact hrest

/-- The life of a session that is started at most once. From state to state its status moves on by
the six moves alone and its outcome at most loses the output; an end is final; and event, status and
outcome agree in every state, so that whoever waited finds an outcome. -/
theorem lifecycle_of_one_start (command : List Text) (text : Text) (options : SessionOptions)
    (checkId : Option Int) (es : List (Event κ)) (honce : startCount es ≤ 1) :
    let after := fun es =>
      (Machine.run Session.step ({ command, text, options, checkId } : Session κ) es).1
    (∀ first e rest, es = first ++ e :: rest → Unfolds (after first) (after (first ++ [e]))) ∧
    (∀ first rest, es = first ++ rest → (after first).status.isTerminal →
      (after es).status = (after first).status) ∧
    Told (after es) ∧
    ((after es).done → ∃ o, (after es).awaited = some o ∧ o.status = (after es).status) := by
  intro after
  have hstarted (es : List (Event κ)) : Started (0 + startCount es) (after es) :=
    started_run (started_fresh command text options checkId) es
  have htold (es : List (Event κ)) (h : startCount es ≤ 1) : Told (after es) :=
    told_run (told_fresh command text options checkId) (started_fresh command text options checkId)
      es (by omega)
  refine ⟨fun first e rest hes => ?_, fun first rest hes hterminal => ?_, htold es honce, ?_⟩
  · rw [hes, startCount_append] at honce
    have hrun : after (first ++ [e]) = ((after first).step e).1 := by
      simp only [after, Machine.run_concat]
    rw [hrun]
    exact step_unfolds (htold first (by omega)) (hstarted first) (by omega) e
  · rw [hes, startCount_append] at honce
    have hrun : after es = (Machine.run Session.step (after first) rest).1 := by
      simp only [hes, after, Machine.run_append]
    rw [hrun]
    exact status_run_of_terminal (htold first (by omega)) (hstarted first) rest (by omega) hterminal
  · intro hdone
    have h := htold es honce
    rw [h.done, ← h.outcome, Option.isSome_iff_exists] at hdone
    obtain ⟨o, ho⟩ := hdone
    refine ⟨o, ?_, (h.fits o ho).1⟩
    rw [awaited, h.done, ← h.outcome, ho]
    rfl

/-- A linter that is started and has its process. -/
def runUp : List (Event Unit) :=
  [.start 1 { find := fun _ => some "/bin/lint", environment := [] }, .spawned 1 { pid := 7 },
    .read 0]

/-- The process is killed by a cancelation, and its reader and a late time limit run on. -/
def afterCancelation : List (Event Unit) := [.timeUp 0, .read 0, .release, .read 0, .call]

/-- A canceled session stays canceled, though its reader and a late time limit go on. -/
theorem canceled_session_stays_canceled :
    let after := fun es => (Machine.run Session.step
      ({ command := ["lint"], text := [], options := {}, checkId := none } : Session Unit) es).1
    startCount (runUp ++ .cancel :: afterCancelation) ≤ 1 ∧
      (after runUp).status = .running ∧
      (after (runUp ++ .cancel :: afterCancelation)).status = .canceled := by
  have honce : startCount (runUp ++ .cancel :: afterCancelation) ≤ 1 := by decide
  have hstays := (lifecycle_of_one_start ["lint"] [] {} none
    (runUp ++ .cancel :: afterCancelation) honce).2.1 (runUp ++ [.cancel]) afterCancelation
      rfl (by decide)
  exact ⟨honce, by decide, hstays.trans (by decide)⟩

end Session

end LiveLint
