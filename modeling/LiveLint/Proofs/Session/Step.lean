import Mathlib.Data.List.Basic
import Mathlib.Tactic.Common
import LiveLint.Session.Basic

/-!
# What an event does to a session

First one inversion lemma for each task: which states a reader, and a `start` call that hears from
the system, can leave behind. Then one for all events (`step_passage`), which says what becomes of
the status, the outcome, the `start` calls, the readers and the processes. Later modules take the
cases from here and do not open the definitions.
-/

namespace LiveLint

namespace Session

variable {κ : Type}

/-! ## Readers -/

/-- What a reader leaves behind when it goes on. -/
inductive Reads (s : Session κ) (j : Nat) : Step κ → Prop
  /-- It waits, or has ended before. -/
  | waits : Reads s j (s, [])
  /-- It was told to stop, or has no outcome to tell of. -/
  | stops : Reads s j (s.moveReader j .ended, [])
  /-- It hands the process the text, and asks for its time limit if there is one. -/
  | hands {r : Reader} {effects : List (Effect κ)} (payload : Bytes)
      (hreader : s.readers[j]? = some r)
      (hpayload : s.options.encoding.encode? s.text = some payload)
      (heffects : ∀ e ∈ effects, ∃ limit, e = .arm j limit ∧ s.options.timeout = some limit) :
    Reads s j ((s.mapChild r.child (·.write payload)).moveReader j .collecting, effects)
  | kills {r : Reader} (cause : ReapCause) (hreader : s.readers[j]? = some r) :
    Reads s j (s.reap j r cause, [])
  /-- Its process has ended by itself. -/
  | collects {r : Reader} {e : Exit} (hreader : s.readers[j]? = some r)
      (hexit : s.children[r.child]?.bind Child.exit = some e) (hplace : r.place = .collecting) :
    Reads s j ((s.moveReader j .ended).finish (s.collected e))
  /-- The process that it has killed has ended. -/
  | reaps {r : Reader} {e : Exit} {cause : ReapCause} {o : Outcome}
      (hreader : s.readers[j]? = some r)
      (hexit : s.children[r.child]?.bind Child.exit = some e)
      (houtcome : s.reaped? cause e = some o) (hplace : r.place = .reaping cause) :
    Reads s j ((s.moveReader j .ended).finish o)

/-- A reader goes on in one of the ways of `Reads`. -/
theorem read_cases (s : Session κ) (j : Nat) : Reads s j (s.read j) := by
  unfold read
  split
  · exact .waits
  · rename_i r hreader
    simp only
    split
    · exact .waits
    · exact .stops
    · split
      · exact .kills _ hreader
      · rename_i payload hpayload
        split
        · exact .hands payload hreader hpayload (by simp)
        · rename_i limit htimeout
          split
          · exact .kills _ hreader
          · exact .hands payload hreader hpayload (by simp [htimeout])
    · exact .kills _ hreader
    · split
      · exact .waits
      · rename_i hplace _ _ _ hexit
        exact .collects hreader hexit hplace
    · exact .stops
    · split
      · exact .waits
      · rename_i hplace _ _ _ hexit
        split
        · exact .stops
        · rename_i houtcome
          exact .reaps hreader hexit houtcome hplace

/-- A time limit does nothing, or has the process of its reader killed and reaped. -/
theorem timeUp_cases (s : Session κ) (j : Nat) :
    s.timeUp j = s ∨ ∃ r, s.readers[j]? = some r ∧ s.timeUp j = s.reap j r .timedOut := by
  unfold timeUp
  split
  · exact .inl rfl
  · rename_i r hreader
    split
    · exact .inr ⟨r, hreader, rfl⟩
    · exact .inl rfl

/-! ## Calls of `start` -/

/-- What a `start` call leaves behind when it hears from the system. -/
inductive Hears (s : Session κ) (ticket : Nat) (child : Child) : Step κ → Prop
  /-- There is no such call, or it has heard before. -/
  | ignored : Hears s ticket child (s, [])
  /-- The session was canceled meanwhile. -/
  | late {c : StartCall} (line : LogLine) (hcall : s.startCall? ticket = some c)
      (hplace : c.place = .spawning) (hstatus : s.status = .canceled) :
    Hears s ticket child
      ({ s with
          children := s.children ++ [child.kill]
          starts := s.starts.map fun c' =>
            if c'.ticket = ticket then { c with place := .reaping s.children.length } else c' },
        [.log line])
  | spawned {c : StartCall} (line : LogLine) (hcall : s.startCall? ticket = some c)
      (hplace : c.place = .spawning) (hstatus : s.status ≠ .canceled) :
    Hears s ticket child
      ({ s.endStart ticket with
          children := s.children ++ [child]
          handle := some s.children.length
          reader := some s.readers.length
          readers := s.readers ++ [{ child := s.children.length }]
          status := .running },
        [.log line, .returned ticket (.ok ())])

/-- The call that is found by a ticket has it. -/
theorem ticket_of_startCall? {s : Session κ} {ticket : Nat} {c : StartCall}
    (h : s.startCall? ticket = some c) : c.ticket = ticket := by
  simpa using List.find?_some h

/-- A `start` call hears from the system in one of the ways of `Hears`. -/
theorem spawned_cases (s : Session κ) (ticket : Nat) (child : Child) :
    Hears s ticket child (s.spawned ticket child) := by
  unfold spawned
  split
  · rename_i name executable hcall
    obtain rfl : name = ticket := ticket_of_startCall? hcall
    simp only
    split
    · rename_i hstatus
      exact .late _ hcall rfl hstatus
    · rename_i hstatus
      exact .spawned _ hcall rfl hstatus
  · exact .ignored

/-- A failure to spawn is not heard, ends the session, or is raised. -/
theorem spawnFailed_cases (s : Session κ) (ticket : Nat) (failure : SpawnFailure) :
    s.spawnFailed ticket failure = (s, []) ∨
      ∃ c, s.startCall? ticket = some c ∧ c.place = .spawning ∧
        ((∃ reason, s.spawnFailed ticket failure = (s.endStart ticket).spawnError ticket reason) ∨
          ∃ f, s.spawnFailed ticket failure
            = (s.endStart ticket, [.returned ticket (.error (.fault f))])) := by
  unfold spawnFailed
  split
  · rename_i hcall
    refine .inr ⟨_, hcall, rfl, ?_⟩
    cases failure with
    | system reason => exact .inl ⟨reason, rfl⟩
    | refused reason => exact .inr ⟨_, rfl⟩
  · exact .inl rfl

/-- A `start` call that waits for the exit of its process returns when that is there. -/
theorem resume_cases (s : Session κ) (ticket : Nat) :
    s.resume ticket = (s, []) ∨
      ∃ c i, s.startCall? ticket = some c ∧ c.place = .reaping i ∧
        (s.children[i]?.bind Child.exit).isSome ∧
        s.resume ticket = (s.endStart ticket, [.returned ticket (.ok ())]) := by
  unfold resume
  split
  · rename_i i hcall
    split
    · rename_i hexit
      exact .inr ⟨_, i, hcall, rfl, hexit, rfl⟩
    · exact .inl rfl
  · exact .inl rfl

/-- The system cannot run the program for a session that waits for it. -/
theorem spawnError_of_pending {s : Session κ} (h : s.status = .pending) (ticket : Nat)
    (reason : Text) :
    s.spawnError ticket reason
      = ({ s with
            status := .failed
            outcome := some
              { status := .failed, error := some (.spawn (s.command.headD []) reason) }
            done := true },
          [.returned ticket (.error (.lint (.spawn (s.command.headD []) reason)))]) := by
  simp only [spawnError, h, if_true]

/-- A session that has gone on without the program takes no notice. -/
theorem spawnError_of_ne_pending {s : Session κ} (h : s.status ≠ .pending) (ticket : Nat)
    (reason : Text) :
    s.spawnError ticket reason
      = (s, [.returned ticket (.error (.lint (.spawn (s.command.headD []) reason)))]) := by
  simp only [spawnError, h, if_false]

/-- What the host's call of `start` leaves behind. -/
theorem start_cases (s : Session κ) (ticket : Nat) (system : System) :
    (∃ result, s.start ticket system = (s, [.returned ticket result]) ∧
      ∀ e, result ≠ .error (.lint e)) ∨
    (s.status = .pending ∧ ∃ reason, s.start ticket system = s.spawnError ticket reason) ∨
    s.status = .pending ∧ ∃ executable arguments directory environment,
      s.start ticket system
        = ({ s with starts := s.starts ++ [⟨ticket, executable, .spawning⟩] },
          [.spawn ticket arguments directory environment]) := by
  unfold start
  by_cases hcanceled : s.status = .canceled
  · rw [if_pos hcanceled]
    exact .inl ⟨_, rfl, by simp⟩
  · rw [if_neg hcanceled]
    by_cases hpending : s.status = .pending
    · rw [if_neg (not_not_intro hpending)]
      split
      · exact .inr (.inl ⟨hpending, _, rfl⟩)
      · exact .inl ⟨_, rfl, by simp⟩
      · exact .inr (.inr ⟨hpending, _, _, _, _, rfl⟩)
    · rw [if_pos hpending]
      exact .inl ⟨_, rfl, by simp⟩

/-! ## Calls of the host -/

/-- A cancelation that finds the session under way. -/
theorem cancel_of_open {s : Session κ} (h : s.status.isTerminal = false) :
    s.cancel
      = (release
          { s with
            status := .canceled
            outcome := some { status := .canceled }
            done := true
            children := s.killHeld.children
            readers := s.stopHeld.readers },
        [note (Text.ofString "canceled session for check " ++ checkName s.checkId),
          .canceled true]) := by
  cases hhandle : s.handle <;> cases hreader : s.reader <;>
    simp [cancel, h, killHeld, stopHeld, hhandle, hreader, mapChild, mapReader]

/-- A cancelation that comes after the end. -/
theorem cancel_of_terminal {s : Session κ} (h : s.status.isTerminal) :
    s.cancel = (s, [.canceled false]) := by
  simp only [cancel, h, if_true]

end Session

/-! ## The end of a session -/

/-- What an outcome of each kind has to tell. -/
structure Outcome.Fits (o : Outcome) : Prop where
  terminal : o.status.isTerminal
  completed : o.status = .completed → o.error = none ∧ o.exitCode.isSome
  failed : o.status = .failed → o.error.isSome
  canceled : o.status = .canceled → o = { status := .canceled }

/-- An outcome without its output fits as well. -/
theorem Outcome.Fits.blank {o : Outcome} (h : o.Fits) : o.blank.Fits where
  terminal := h.terminal
  completed := h.completed
  failed := h.failed
  canceled hstatus := by rw [h.canceled hstatus]; rfl

namespace Session

variable {κ : Type}

/-- The outcome of a process that has ended fits. -/
theorem fits_collected (s : Session κ) (e : Exit) : (s.collected e).Fits :=
  ⟨rfl, fun _ => ⟨rfl, rfl⟩, by simp [collected], by simp [collected]⟩

/-- The outcome of a process that was reaped fits, and is a failure. -/
theorem fits_reaped {s : Session κ} {cause : ReapCause} {e : Exit} {o : Outcome}
    (h : s.reaped? cause e = some o) : o.Fits ∧ o.status = .failed := by
  cases cause <;> simp only [reaped?, Option.some.injEq, reduceCtorEq] at h
  all_goals
    subst h
    exact ⟨⟨rfl, by simp, by simp, by simp⟩, rfl⟩

/-- How many `start` calls wait for the system. -/
def waitingStarts (s : Session κ) : Nat := s.starts.countP fun c => c.place = .spawning

/-- The event is a call of `start`. -/
def Event.isStart : Event κ → Bool
  | .start .. => true
  | _ => false

/-- Status and outcome are left alone, but for output that is dropped. -/
structure SameLife (s s' : Session κ) : Prop where
  status : s'.status = s.status
  done : s'.done = s.done
  outcome : s'.outcome = s.outcome ∨ s'.outcome = s.outcome.map Outcome.blank

/-- Nothing is begun: neither a `start` call nor a process nor a reader. -/
structure SameTasks (s s' : Session κ) : Prop where
  waiting : s'.waitingStarts ≤ s.waitingStarts
  children : s'.children.length = s.children.length
  readers : s'.readers.length = s.readers.length

/-- How it comes that a session ends with an outcome. -/
inductive EndedBy (s : Session κ) (e : Event κ) (s' : Session κ) (o : Outcome) : Prop
  | host (hstatus : o.status = .canceled)
  | reader (hreaders : s.readers ≠ [])
  /-- The system has not created a process for a `start` call, which is over. -/
  | system (hpending : s.status = .pending) (hstatus : o.status = .failed)
      (hcall : e.isStart ∨ s'.waitingStarts < s.waitingStarts)

/-- What an event does to a session. -/
inductive Passage (s : Session κ) (e : Event κ) (s' : Session κ) : Prop
  | stays (hlife : SameLife s s') (htasks : SameTasks s s')
  /-- A `start` call asks the system for a process. -/
  | asks (hlife : SameLife s s') (hstart : e.isStart) (hpending : s.status = .pending)
      (hwaiting : s'.waitingStarts = s.waitingStarts + 1)
      (hchildren : s'.children.length = s.children.length)
      (hreaders : s'.readers.length = s.readers.length)
  /-- A process comes after the session was canceled. -/
  | late (hlife : SameLife s s') (hcanceled : s.status = .canceled)
      (hwaiting : s'.waitingStarts < s.waitingStarts)
      (hchildren : s'.children.length = s.children.length + 1)
      (hreaders : s'.readers.length = s.readers.length)
  /-- A `start` call has its process. -/
  | begins (hopen : s.status ≠ .canceled) (hstatus : s'.status = .running)
      (hdone : s'.done = s.done) (houtcome : s'.outcome = s.outcome)
      (hwaiting : s'.waitingStarts < s.waitingStarts)
      (hchildren : s'.children.length = s.children.length + 1)
      (hreaders : s'.readers.length = s.readers.length + 1)
  | ends {o : Outcome} (hopen : s.status.isTerminal = false) (hfits : o.Fits)
      (hby : EndedBy s e s' o) (hstatus : s'.status = o.status) (hdone : s'.done = true)
      (houtcome : s'.outcome = some o) (htasks : SameTasks s s')

/-! ### The tasks of a session -/

/-- A call that is found by a ticket is one of the calls. -/
theorem mem_starts_of_startCall? {s : Session κ} {ticket : Nat} {c : StartCall}
    (h : s.startCall? ticket = some c) : c ∈ s.starts := List.mem_of_find?_eq_some h

/-- No more calls wait once one of them has ended. -/
theorem waitingStarts_endStart_le (s : Session κ) (ticket : Nat) :
    (s.endStart ticket).waitingStarts ≤ s.waitingStarts :=
  (List.filter_sublist).countP_le

/-- Fewer satisfy the narrower property, if one of them satisfies only the wider one. -/
private theorem countP_lt_of_mem {α : Type} {l : List α} {p q : α → Bool} {a : α}
    (himp : ∀ x ∈ l, p x → q x) (hmem : a ∈ l) (hp : ¬ p a) (hq : q a) :
    l.countP p < l.countP q := by
  -- On either side of `a` the count only grows, and at `a` it grows by one.
  obtain ⟨front, back, rfl⟩ := List.append_of_mem hmem
  have hfront : front.countP p ≤ front.countP q :=
    List.countP_mono_left fun x hx => himp x (List.mem_append_left _ hx)
  have hback : back.countP p ≤ back.countP q :=
    List.countP_mono_left fun x hx => himp x (by simp [hx])
  simp only [List.countP_append, List.countP_cons_of_neg hp, List.countP_cons_of_pos hq]
  omega

/-- Ending a call that waits for the system leaves one such call less. -/
theorem waitingStarts_endStart_lt {s : Session κ} {ticket : Nat} {c : StartCall}
    (hcall : s.startCall? ticket = some c) (hplace : c.place = .spawning) :
    (s.endStart ticket).waitingStarts < s.waitingStarts := by
  unfold waitingStarts endStart
  rw [List.countP_filter]
  exact countP_lt_of_mem (by simp +contextual) (mem_starts_of_startCall? hcall)
    (by simp [ticket_of_startCall? hcall]) (by simp [hplace])

/-- So does having it wait for the end of a process instead. -/
theorem waitingStarts_reaping_lt {s : Session κ} {ticket : Nat} {c : StartCall}
    (hcall : s.startCall? ticket = some c) (hplace : c.place = .spawning) (i : Nat) :
    (s.starts.map fun c' =>
        if c'.ticket = ticket then { c with place := .reaping i } else c').countP
      (fun c => c.place = .spawning) < s.waitingStarts := by
  unfold waitingStarts
  rw [List.countP_map]
  refine countP_lt_of_mem (fun c' _ => ?_) (mem_starts_of_startCall? hcall)
    (by simp [ticket_of_startCall? hcall]) (by simp [hplace])
  by_cases hticket : c'.ticket = ticket <;> simp [hticket]

/-- A session has its own tasks. -/
theorem SameTasks.refl (s : Session κ) : SameTasks s s := ⟨Nat.le_refl _, rfl, rfl⟩

/-- A session lives its own life. -/
theorem SameLife.refl (s : Session κ) : SameLife s s := ⟨rfl, rfl, .inl rfl⟩

/-- Ending a `start` call begins nothing. -/
theorem sameTasks_endStart (s : Session κ) (ticket : Nat) : SameTasks s (s.endStart ticket) :=
  ⟨s.waitingStarts_endStart_le ticket, rfl, rfl⟩

/-- A session with the same `start` calls has begun nothing if it has as many readers and
processes. -/
theorem sameTasks_of_starts_eq {s s' : Session κ} (hstarts : s'.starts = s.starts)
    (hchildren : s'.children.length = s.children.length)
    (hreaders : s'.readers.length = s.readers.length) : SameTasks s s' := by
  refine ⟨Nat.le_of_eq ?_, hchildren, hreaders⟩
  rw [waitingStarts, waitingStarts, hstarts]

/-- A release begins nothing, and drops the output at most. -/
theorem release_passage (s : Session κ) : SameLife s s.release ∧ SameTasks s s.release := by
  unfold release
  split
  · exact ⟨.refl s, .refl s⟩
  · exact ⟨⟨rfl, rfl, .inr rfl⟩, sameTasks_of_starts_eq rfl rfl rfl⟩

/-! ### The passage of each event -/

/-- A session may stay as it is. -/
theorem passage_refl (s : Session κ) (e : Event κ) : Passage s e s := .stays (.refl s) (.refl s)

/-- A call for which the system cannot run the program is over, and so is a session that waits. -/
theorem passage_spawnError {s t : Session κ} {e : Event κ} (ticket : Nat) (reason : Text)
    (hlife : SameLife s t) (htasks : SameTasks s t)
    (hcall : e.isStart ∨ t.waitingStarts < s.waitingStarts) :
    Passage s e (t.spawnError ticket reason).1 := by
  by_cases hpending : t.status = .pending
  · have hopen : s.status = .pending := hlife.status ▸ hpending
    rw [spawnError_of_pending hpending]
    exact .ends (o := { status := .failed, error := some _ }) (by rw [hopen]; rfl)
      ⟨rfl, by simp, by simp, by simp⟩ (.system hopen rfl hcall) rfl rfl rfl
      ⟨htasks.waiting, htasks.children, htasks.readers⟩
  · rw [spawnError_of_ne_pending hpending]
    exact .stays hlife htasks

/-- A session may end by the outcome of a reader. -/
theorem passage_finish {s t : Session κ} {e : Event κ} {o : Outcome} (hlife : SameLife s t)
    (htasks : SameTasks s t) (hfits : o.Fits) (hreaders : s.readers ≠ []) :
    Passage s e (t.finish o).1 := by
  unfold finish
  by_cases hterminal : t.status.isTerminal
  · rw [if_pos hterminal]
    exact .stays hlife htasks
  · rw [if_neg hterminal]
    have hopen : s.status.isTerminal = false := by simpa [hlife.status] using hterminal
    exact .ends hopen hfits (.reader hreaders) rfl rfl rfl
      ⟨htasks.waiting, htasks.children, htasks.readers⟩

/-- What a reader does is a passage. -/
theorem passage_read (s : Session κ) (j : Nat) : Passage s (.read j) (s.read j).1 := by
  have hmoved (place : ReaderPlace) : SameTasks s (s.moveReader j place) :=
    sameTasks_of_starts_eq rfl rfl (by simp [moveReader, mapReader])
  have hreads := read_cases s j
  generalize s.read j = p at hreads
  cases hreads with
  | waits => exact passage_refl s _
  | stops => exact .stays ⟨rfl, rfl, .inl rfl⟩ (hmoved _)
  | hands payload hreader hpayload heffects =>
    exact .stays ⟨rfl, rfl, .inl rfl⟩
      (sameTasks_of_starts_eq rfl (by simp [moveReader, mapReader, mapChild])
        (by simp [moveReader, mapReader, mapChild]))
  | kills cause hreader =>
    exact .stays ⟨rfl, rfl, .inl rfl⟩
      (sameTasks_of_starts_eq rfl (by simp [reap, moveReader, mapReader, mapChild])
        (by simp [reap, moveReader, mapReader, mapChild]))
  | collects hreader hexit =>
    exact passage_finish ⟨rfl, rfl, .inl rfl⟩ (hmoved _) (fits_collected s _)
      (List.ne_nil_of_mem (List.mem_of_getElem? hreader))
  | reaps hreader hexit houtcome =>
    exact passage_finish ⟨rfl, rfl, .inl rfl⟩ (hmoved _) (fits_reaped houtcome).1
      (List.ne_nil_of_mem (List.mem_of_getElem? hreader))

/-- A cancelation is a passage. -/
theorem passage_cancel (s : Session κ) : Passage s .cancel s.cancel.1 := by
  by_cases hterminal : s.status.isTerminal
  · rw [cancel_of_terminal hterminal]
    exact passage_refl s _
  · rw [Bool.not_eq_true] at hterminal
    rw [cancel_of_open hterminal]
    obtain ⟨hlife, htasks⟩ := release_passage
      { s with
        status := .canceled
        outcome := some { status := .canceled }
        done := true
        children := s.killHeld.children
        readers := s.stopHeld.readers }
    refine .ends (o := { status := .canceled }) hterminal ⟨rfl, by simp, by simp, fun _ => rfl⟩
      (.host rfl) hlife.status hlife.done ?_ ⟨htasks.waiting, ?_, ?_⟩
    · rcases hlife.outcome with h | h <;> exact h
    · rw [htasks.children]
      cases hhandle : s.handle <;> simp [killHeld, hhandle, mapChild]
    · rw [htasks.readers]
      cases hreader : s.reader <;> simp [stopHeld, hreader, mapReader]

/-- A call of `start` is a passage. -/
theorem passage_start (s : Session κ) (ticket : Nat) (system : System) :
    Passage s (.start ticket system) (s.start ticket system).1 := by
  rcases s.start_cases ticket system with ⟨_, h, -⟩ | ⟨-, _, h⟩ | ⟨hpending, _, _, _, _, h⟩ <;>
    rw [h]
  · exact passage_refl s _
  · exact passage_spawnError ticket _ (.refl s) (.refl s) (.inl rfl)
  · exact .asks ⟨rfl, rfl, .inl rfl⟩ rfl hpending (by simp [waitingStarts]) rfl rfl

/-- A process that comes is a passage. -/
theorem passage_spawned (s : Session κ) (ticket : Nat) (child : Child) :
    Passage s (.spawned ticket child) (s.spawned ticket child).1 := by
  have hhears := spawned_cases s ticket child
  generalize s.spawned ticket child = p at hhears
  cases hhears with
  | ignored => exact passage_refl s _
  | late line hcall hplace hstatus =>
    exact .late ⟨rfl, rfl, .inl rfl⟩ hstatus (waitingStarts_reaping_lt hcall hplace _) (by simp) rfl
  | spawned line hcall hplace hstatus =>
    exact .begins hstatus rfl rfl rfl (waitingStarts_endStart_lt hcall hplace) (by simp) (by simp)

/-- A failure to spawn is a passage. -/
theorem passage_spawnFailed (s : Session κ) (ticket : Nat) (failure : SpawnFailure) :
    Passage s (.spawnFailed ticket failure) (s.spawnFailed ticket failure).1 := by
  have hlife : SameLife s (s.endStart ticket) := ⟨rfl, rfl, .inl rfl⟩
  have htasks := sameTasks_endStart s ticket
  rcases s.spawnFailed_cases ticket failure with h | ⟨_, hcall, hplace, ⟨_, h⟩ | ⟨_, h⟩⟩ <;> rw [h]
  · exact passage_refl s _
  · exact passage_spawnError ticket _ hlife htasks (.inr (waitingStarts_endStart_lt hcall hplace))
  · exact .stays hlife htasks

/-- The passage of every event. -/
theorem step_passage (s : Session κ) (e : Event κ) : Passage s e (s.step e).1 := by
  cases e with
  | start ticket system => exact passage_start s ticket system
  | spawned ticket child => exact passage_spawned s ticket child
  | spawnFailed ticket failure => exact passage_spawnFailed s ticket failure
  | resume ticket =>
    show Passage s _ (s.resume ticket).1
    rcases s.resume_cases ticket with h | ⟨_, _, -, -, -, h⟩ <;> rw [h]
    · exact passage_refl s _
    · exact .stays ⟨rfl, rfl, .inl rfl⟩ (sameTasks_endStart s ticket)
  | abandon ticket => exact .stays ⟨rfl, rfl, .inl rfl⟩ (sameTasks_endStart s ticket)
  | read j => exact passage_read s j
  | timeUp j =>
    show Passage s _ (s.timeUp j)
    rcases s.timeUp_cases j with h | ⟨_, -, h⟩ <;> rw [h]
    · exact passage_refl s _
    · exact .stays ⟨rfl, rfl, .inl rfl⟩
        (sameTasks_of_starts_eq rfl (by simp [reap, moveReader, mapReader, mapChild])
          (by simp [reap, moveReader, mapReader, mapChild]))
  | exit i e =>
    exact .stays ⟨rfl, rfl, .inl rfl⟩
      (sameTasks_of_starts_eq rfl (by simp [step, mapChild]) rfl)
  | call =>
    show Passage s _ s.callNext.1
    unfold callNext
    split
    · exact passage_refl s _
    · exact .stays ⟨rfl, rfl, .inl rfl⟩ (sameTasks_of_starts_eq rfl rfl rfl)
  | cancel => exact passage_cancel s
  | release => exact .stays (release_passage s).1 (release_passage s).2
  | onComplete c =>
    show Passage s _ (s.onComplete c).1
    unfold onComplete
    split
    · exact passage_refl s _
    · split
      · exact passage_refl s _
      · split
        · exact passage_refl s _
        · exact .stays ⟨rfl, rfl, .inl rfl⟩ (sameTasks_of_starts_eq rfl rfl rfl)

end Session

end LiveLint
