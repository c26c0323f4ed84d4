import LiveLint.Proofs.Session.Lifecycle

/-!
# Sessions in the hands of a coordinator

A coordinator listens to its session with one callback, starts it once and releases it at its end
only; the rest is up to the system and the tasks of the session, whose doings are the
`Occurrence`s. `Driven` is what holds of such a session between two events. The processes of a
session that has ended are stopped, and while it runs it holds its only process, so that a
cancelation reaches it.
-/

namespace LiveLint

namespace Child

/-- The process has ended, or it was killed. -/
def Stopped (c : Child) : Prop := c.exit.isSome ∨ 0 < c.kills

/-- A process and what it is later. -/
structure Follows (c c' : Child) : Prop where
  exit : ∀ e, c.exit = some e → c'.exit = some e
  kills : c.kills ≤ c'.kills

/-- A process that was stopped stays so, whatever it does. -/
theorem Stopped.of_follows {c c' : Child} (h : c.Stopped) (hfollows : Follows c c') :
    c'.Stopped := by
  rcases h with h | h
  · obtain ⟨e, he⟩ := Option.isSome_iff_exists.1 h
    exact .inl (by rw [hfollows.exit e he]; rfl)
  · exact .inr (Nat.lt_of_lt_of_le h hfollows.kills)

/-- To be killed is something that a process may do. -/
theorem follows_kill (c : Child) : Follows c c.kill := by
  unfold kill
  split
  · exact ⟨fun _ => id, Nat.le_refl _⟩
  · rename_i hexit
    exact ⟨by simp [hexit], Nat.le_succ _⟩

/-- To end is something that a process may do. -/
theorem follows_finish (c : Child) (e : Exit) : Follows c (c.finish e) := by
  unfold finish
  split
  · exact ⟨fun _ => id, Nat.le_refl _⟩
  · rename_i hexit
    exact ⟨by simp [hexit], Nat.le_refl _⟩

/-- To be handed its input is something that a process may do. -/
theorem follows_write (c : Child) (input : Bytes) : Follows c (c.write input) :=
  ⟨fun _ => id, Nat.le_refl _⟩

/-- A process that was killed is stopped. -/
theorem stopped_kill (c : Child) : c.kill.Stopped := by
  unfold kill
  split
  · rename_i hexit
    exact .inl (by rw [hexit]; rfl)
  · exact .inr (Nat.succ_pos _)

/-- Where one of many processes goes on, each follows one that was there before. -/
theorem exists_follows {l : List Child} {i : Nat} {f : Child → Child} (hf : ∀ c, Follows c (f c))
    {c' : Child} (hmem : c' ∈ l.modify i f) : ∃ c ∈ l, Follows c c' := by
  rw [List.mem_iff_getElem?] at hmem
  obtain ⟨n, hn⟩ := hmem
  rw [List.getElem?_modify, Option.map_eq_map, Option.map_eq_some_iff] at hn
  obtain ⟨c, hc, rfl⟩ := hn
  refine ⟨c, List.mem_of_getElem? hc, ?_⟩
  split
  · exact hf c
  · exact ⟨fun _ => id, Nat.le_refl _⟩

end Child

namespace Session

variable {κ : Type}

/-! ## What happens without the host -/

/-- What the system and the tasks of a session do. -/
inductive Occurrence where
  | spawned (ticket : Nat) (child : Child)
  | spawnFailed (ticket : Nat) (failure : SpawnFailure)
  | resume (ticket : Nat)
  | abandon (ticket : Nat)
  | read (reader : Nat)
  | timeUp (reader : Nat)
  | exit (child : Nat) (e : Exit)

/-- The event of an occurrence. -/
def Occurrence.event : Occurrence → Event κ
  | .spawned ticket child => .spawned ticket child
  | .spawnFailed ticket failure => .spawnFailed ticket failure
  | .resume ticket => .resume ticket
  | .abandon ticket => .abandon ticket
  | .read j => .read j
  | .timeUp j => .timeUp j
  | .exit i e => .exit i e

/-- Nothing that occurs at a session starts it. -/
theorem Occurrence.not_isStart (oc : Occurrence) : (oc.event : Event κ).isStart = false := by
  cases oc <;> rfl

/-- The effect is neither for a callback nor for who waits to hear that the session cannot start. -/
def Effect.isQuiet : Effect κ → Bool
  | .called .. | .returned _ (.error (.lint _)) => false
  | _ => true

/-- What nothing but the end of a session changes. -/
structure SameFrame (s s' : Session κ) : Prop where
  options : s'.options = s.options
  checkId : s'.checkId = s.checkId
  callbacks : s'.callbacks = s.callbacks
  calling : s'.calling = s.calling

/-- The tasks go on and see to the process, which is all. -/
structure Tended (s s' : Session κ) : Prop extends SameFrame s s' where
  status : s'.status = s.status
  outcome : s'.outcome = s.outcome
  handle : s'.handle = s.handle
  children : ∃ i f, (∀ c, Child.Follows c (f c)) ∧ s'.children = s.children.modify i f

/-- A session that ends with an outcome, of which its callbacks are told next. -/
structure Concluded (s s' : Session κ) (o : Outcome) : Prop where
  options : s'.options = s.options
  checkId : s'.checkId = s.checkId
  status : s'.status = o.status
  outcome : s'.outcome = some o
  children : s'.children = s.children
  calling : s'.calling = s.calling ++ s.callbacks.map fun c => (c, o)

/-- What an occurrence leaves behind. -/
inductive Occurs (s : Session κ) : Step κ → Prop
  | tended {s' : Session κ} {effects : List (Effect κ)} (h : Tended s s')
      (hquiet : ∀ e ∈ effects, e.isQuiet) : Occurs s (s', effects)
  /-- A process comes after the session was canceled, and is killed. -/
  | late {s' : Session κ} (child : Child) (line : LogLine) (hcanceled : s.status = .canceled)
      (hframe : SameFrame s s') (hstatus : s'.status = s.status) (houtcome : s'.outcome = s.outcome)
      (hchildren : s'.children = s.children ++ [child.kill]) : Occurs s (s', [.log line])
  | begins {s' : Session κ} (ticket : Nat) (child : Child) (line : LogLine)
      (hopen : s.status ≠ .canceled) (hwaiting : 0 < s.waitingStarts) (hframe : SameFrame s s')
      (hstatus : s'.status = .running) (hhandle : s'.handle = some s.children.length)
      (hchildren : s'.children = s.children ++ [child]) :
    Occurs s (s', [.log line, .returned ticket (.ok ())])
  /-- The program of a session that waits for it cannot be run. -/
  | fails {s' : Session κ} (ticket : Nat) (e : LintError) (hpending : s.status = .pending)
      (hframe : SameFrame s s') (hstatus : s'.status = .failed)
      (houtcome : s'.outcome = some { status := .failed, error := some e })
      (hchildren : s'.children = s.children) :
    Occurs s (s', [.returned ticket (.error (.lint e))])
  /-- The program of a session that has gone on without it cannot be run. -/
  | failsLate {s' : Session κ} (ticket : Nat) (e : LintError) (hgone : s.status ≠ .pending)
      (hwaiting : 0 < s.waitingStarts) (h : Tended s s') :
    Occurs s (s', [.returned ticket (.error (.lint e))])
  /-- A reader finds that its process has ended. -/
  | ends {s' : Session κ} {o : Outcome} {i : Nat} {e : Exit} (line : LogLine)
      (hopen : s.status.isTerminal = false) (hexit : s.children[i]?.bind Child.exit = some e)
      (houtcome : o = s.collected e ∨ o.status = .failed) (h : Concluded s s' o) :
    Occurs s (s', [.log line])

/-- A session has its own frame. -/
theorem SameFrame.refl (s : Session κ) : SameFrame s s := ⟨rfl, rfl, rfl, rfl⟩

/-- A session with the same processes is tended, and so is one of whose processes one goes on. -/
theorem Tended.refl (s : Session κ) : Tended s s :=
  { SameFrame.refl s with
    status := rfl, outcome := rfl, handle := rfl
    children := ⟨0, id, fun _ => ⟨fun _ => id, Nat.le_refl _⟩, by simp⟩ }

/-- It may occur that nothing does. -/
theorem occurs_refl (s : Session κ) : Occurs s (s, []) := .tended (.refl s) (by simp)

/-- The tasks of a session may see to its process. -/
theorem tended_mapChild (s : Session κ) (i : Nat) {f : Child → Child}
    (h : ∀ c, Child.Follows c (f c)) : Tended s (s.mapChild i f) :=
  { SameFrame.refl s with
    status := rfl, outcome := rfl, handle := rfl, children := ⟨i, f, h, rfl⟩ }

/-- A reader may go on while the process is seen to. -/
theorem Tended.moveReader {s s' : Session κ} (h : Tended s s') (j : Nat) (place : ReaderPlace) :
    Tended s (s'.moveReader j place) :=
  ⟨⟨h.options, h.checkId, h.callbacks, h.calling⟩, h.status, h.outcome, h.handle, h.children⟩

/-- A `start` call may end while the process is seen to. -/
theorem Tended.endStart {s s' : Session κ} (h : Tended s s') (ticket : Nat) :
    Tended s (s'.endStart ticket) :=
  ⟨⟨h.options, h.checkId, h.callbacks, h.calling⟩, h.status, h.outcome, h.handle, h.children⟩

/-- A call that waits is one of those that do. -/
theorem waitingStarts_pos {s : Session κ} {ticket : Nat} {c : StartCall}
    (hcall : s.startCall? ticket = some c) (hplace : c.place = .spawning) : 0 < s.waitingStarts :=
  Nat.lt_of_le_of_lt (Nat.zero_le _) (waitingStarts_endStart_lt hcall hplace)

/-- It may occur that a session ends with the exit of its process. -/
theorem occurs_finish {s : Session κ} (j : Nat) {o : Outcome} {i : Nat} {e : Exit}
    (hexit : s.children[i]?.bind Child.exit = some e)
    (houtcome : o = s.collected e ∨ o.status = .failed) :
    Occurs s ((s.moveReader j .ended).finish o) := by
  unfold finish
  by_cases hterminal : s.status.isTerminal
  · rw [if_pos (by exact hterminal)]
    exact .tended ((Tended.refl s).moveReader j _) (by simp)
  · rw [if_neg (by exact hterminal)]
    exact .ends _ (by simpa using hterminal) hexit houtcome ⟨rfl, rfl, rfl, rfl, rfl, rfl⟩

/-- What a reader does may occur. -/
theorem occurs_read (s : Session κ) (j : Nat) : Occurs s (s.read j) := by
  have hreads := read_cases s j
  generalize s.read j = p at hreads
  cases hreads with
  | waits => exact occurs_refl s
  | stops => exact .tended ((Tended.refl s).moveReader j _) (by simp)
  | hands payload hreader hpayload heffects =>
    refine .tended ((tended_mapChild s _ (Child.follows_write · payload)).moveReader j _) ?_
    intro e he
    obtain ⟨limit, rfl, -⟩ := heffects e he
    rfl
  | kills cause hreader =>
    exact .tended ((tended_mapChild s _ Child.follows_kill).moveReader j _) (by simp)
  | collects hreader hexit => exact occurs_finish j hexit (.inl rfl)
  | reaps hreader hexit houtcome => exact occurs_finish j hexit (.inr (fits_reaped houtcome).2)

/-- What every occurrence leaves behind. -/
theorem occurs (s : Session κ) (oc : Occurrence) : Occurs s (s.step oc.event) := by
  cases oc with
  | spawned ticket child =>
    have hhears := spawned_cases s ticket child
    change Occurs s (s.spawned ticket child)
    generalize s.spawned ticket child = p at hhears
    cases hhears with
    | ignored => exact occurs_refl s
    | late line hcall hplace hstatus =>
      exact .late child line hstatus ⟨rfl, rfl, rfl, rfl⟩ rfl rfl rfl
    | spawned line hcall hplace hstatus =>
      exact .begins ticket child line hstatus (waitingStarts_pos hcall hplace) ⟨rfl, rfl, rfl, rfl⟩
        rfl rfl rfl
  | spawnFailed ticket failure =>
    change Occurs s (s.spawnFailed ticket failure)
    rcases s.spawnFailed_cases ticket failure with h | ⟨c, hcall, hplace, ⟨reason, h⟩ | ⟨f, h⟩⟩ <;>
      rw [h]
    · exact occurs_refl s
    · by_cases hpending : s.status = .pending
      · rw [spawnError_of_pending (s := s.endStart ticket) hpending]
        exact .fails ticket _ hpending ⟨rfl, rfl, rfl, rfl⟩ rfl rfl rfl
      · rw [spawnError_of_ne_pending (s := s.endStart ticket) hpending]
        exact .failsLate ticket _ hpending (waitingStarts_pos hcall hplace)
          ((Tended.refl s).endStart ticket)
    · exact .tended ((Tended.refl s).endStart ticket) (by simp [Effect.isQuiet])
  | resume ticket =>
    change Occurs s (s.resume ticket)
    rcases s.resume_cases ticket with h | ⟨c, i, -, -, -, h⟩ <;> rw [h]
    · exact occurs_refl s
    · exact .tended ((Tended.refl s).endStart ticket) (by simp [Effect.isQuiet])
  | abandon ticket => exact .tended ((Tended.refl s).endStart ticket) (by simp)
  | read j => exact occurs_read s j
  | timeUp j =>
    change Occurs s (s.timeUp j, [])
    rcases s.timeUp_cases j with h | ⟨r, -, h⟩ <;> rw [h]
    · exact occurs_refl s
    · exact .tended ((tended_mapChild s _ Child.follows_kill).moveReader j _) (by simp)
  | exit i e => exact .tended (tended_mapChild s i (Child.follows_finish · e)) (by simp)

/-! ## Sessions between two events -/

/-- What holds of a session that a coordinator has started, between two events. -/
structure Driven (s : Session Unit) : Prop where
  started : Started 1 s
  told : Told s
  calling : s.calling = []
  callbacks : s.status.isTerminal = false → s.callbacks = [()]
  running : s.status = .running → ∃ c, s.children = [c] ∧ s.handle = some 0
  stopped : s.status.isTerminal → ∀ c ∈ s.children, c.Stopped
  completed : s.status = .completed → ∃ c e, s.children = [c] ∧ c.exit = some e

/-- The outcome of a session that ended by itself, with the output that a completed one had. -/
def result? (s : Session κ) : Option Outcome :=
  match s.status with
  | .completed => (s.children.head?.bind Child.exit).map s.collected
  | .failed => s.outcome.map Outcome.blank
  | _ => none

/-- A driven session that has failed has an error to tell. -/
theorem Driven.outcome_of_failed {s : Session Unit} (h : Driven s) (hfailed : s.status = .failed) :
    ∃ o e, s.outcome = some o ∧ o.status = .failed ∧ o.error = some e := by
  have hsome := h.told.outcome
  rw [hfailed] at hsome
  obtain ⟨o, ho⟩ := Option.isSome_iff_exists.1 hsome
  obtain ⟨hstatus, hfits⟩ := h.told.fits o ho
  rw [hfailed] at hstatus
  obtain ⟨e, he⟩ := Option.isSome_iff_exists.1 (hfits.failed hstatus)
  exact ⟨o, e, ho, hstatus, he⟩

/-- Nobody is told of a session that has not ended by itself. -/
theorem result?_eq_none {s : Session κ} (hcompleted : s.status ≠ .completed)
    (hfailed : s.status ≠ .failed) : s.result? = none := by
  unfold result?
  split
  · exact absurd ‹s.status = .completed› hcompleted
  · exact absurd ‹s.status = .failed› hfailed
  · rfl

/-- A session that has not ended has no result. -/
theorem result?_of_open {s : Session κ} (h : s.status.isTerminal = false) : s.result? = none :=
  result?_eq_none (fun hstatus => by simp [hstatus, Status.isTerminal] at h)
    (fun hstatus => by simp [hstatus, Status.isTerminal] at h)

/-- A canceled session has no result. -/
theorem result?_of_canceled {s : Session κ} (h : s.status = .canceled) : s.result? = none :=
  result?_eq_none (by simp [h]) (by simp [h])

/-- The session goes on, or remains at its end with the same result. -/
structure GoesOn (s s' : Session Unit) : Prop where
  driven : Driven s'
  checkId : s'.checkId = s.checkId
  terminal : s'.status.isTerminal = s.status.isTerminal
  result : s'.result? = s.result?

/-- The session, released, is at its end and has a result. -/
structure IsDone (s s' : Session Unit) (o : Outcome) : Prop where
  driven : Driven s'
  checkId : s'.checkId = s.checkId
  terminal : s'.status.isTerminal
  result : s'.result? = some o

/-! ### Calls of the coordinator -/

@[simp] theorem release_status (s : Session κ) : s.release.status = s.status := by
  unfold release; split <;> rfl

@[simp] theorem release_checkId (s : Session κ) : s.release.checkId = s.checkId := by
  unfold release; split <;> rfl

@[simp] theorem release_options (s : Session κ) : s.release.options = s.options := by
  unfold release; split <;> rfl

@[simp] theorem release_children (s : Session κ) : s.release.children = s.children := by
  unfold release; split <;> rfl

@[simp] theorem release_calling (s : Session κ) : s.release.calling = s.calling := by
  unfold release; split <;> rfl

/-- A release leaves the outcome as it is, but for its output. -/
theorem release_outcome (s : Session κ) :
    s.release.outcome.map Outcome.blank = s.outcome.map Outcome.blank := by
  unfold release
  split
  · rfl
  · cases s.outcome <;> rfl

/-- A release leaves the result as it is. -/
theorem result?_release (s : Session κ) : s.release.result? = s.result? := by
  have hcollected : s.release.collected = s.collected := by
    funext e
    simp [collected]
  simp only [result?, release_status, release_children, release_outcome, hcollected]

/-- A driven session that has ended can be released. -/
theorem Driven.release {s : Session Unit} (h : Driven s) (hterminal : s.status.isTerminal) :
    Driven s.release where
  started := h.started.step .release
  told := h.told.step h.started (Nat.le_refl 1) .release
  calling := by rw [release_calling, h.calling]
  callbacks hopen := by simp [hterminal] at hopen
  running hrunning := by
    rw [release_status] at hrunning
    simp [hrunning, Status.isTerminal] at hterminal
  stopped _ := by rw [release_children]; exact h.stopped hterminal
  completed hcompleted := by
    rw [release_status] at hcompleted
    rw [release_children]
    exact h.completed hcompleted

/-- A status that is not the end is one of two. -/
theorem status_eq_of_open {s : Status} (h : s.isTerminal = false) : s = .pending ∨ s = .running := by
  cases s <;> simp [Status.isTerminal] at h ⊢

/-- A session that waits has no process, so that one that holds its only process when it runs
reaches them all. -/
theorem stopped_killHeld {s : Session κ} (hstarted : Started 1 s)
    (hopen : s.status.isTerminal = false)
    (hheld : s.status = .running → s.handle = some 0 ∧ s.children.length = 1) :
    ∀ c ∈ s.killHeld.children, c.Stopped := by
  rcases status_eq_of_open hopen with hpending | hrunning
  · have hnone := hstarted.pending (Nat.le_refl 1) hpending
    cases hhandle : s.handle <;> simp [killHeld, mapChild, hhandle, hnone]
  · obtain ⟨hhandle, hlength⟩ := hheld hrunning
    obtain ⟨c, hchildren⟩ := List.length_eq_one_iff.1 hlength
    simp [killHeld, mapChild, hhandle, hchildren, c.stopped_kill]

/-- A cancelation ends the session and reaches its process. -/
theorem Driven.cancel {s : Session Unit} (h : Driven s) (hopen : s.status.isTerminal = false) :
    Driven s.cancel.1 ∧ s.cancel.1.status = .canceled ∧ s.cancel.1.checkId = s.checkId := by
  have hstarted : Started 1 s.cancel.1 := h.started.step .cancel
  have htold : Told s.cancel.1 := h.told.step h.started (Nat.le_refl 1) .cancel
  have hstopped := stopped_killHeld h.started hopen fun hrunning => by
    obtain ⟨c, hchildren, hhandle⟩ := h.running hrunning
    exact ⟨hhandle, by rw [hchildren]; rfl⟩
  rw [cancel_of_open hopen] at hstarted htold ⊢
  refine ⟨⟨hstarted, htold, ?_, ?_, ?_, ?_, ?_⟩, by simp, by simp⟩
  · simpa using h.calling
  · simp [Status.isTerminal]
  · simp
  · simpa [Status.isTerminal] using hstopped
  · simp

/-! ### Occurrences -/

/-- Every process of a tended session is one that it had before. -/
theorem Tended.exists_follows {s s' : Session κ} (h : Tended s s') {c' : Child}
    (hmem : c' ∈ s'.children) : ∃ c ∈ s.children, Child.Follows c c' := by
  obtain ⟨i, f, hfollows, hchildren⟩ := h.children
  exact Child.exists_follows hfollows (hchildren ▸ hmem)

/-- A session with one process has it still after it was seen to. -/
theorem Tended.children_singleton {s s' : Session κ} (h : Tended s s') {c : Child}
    (hchildren : s.children = [c]) : ∃ c', s'.children = [c'] ∧ Child.Follows c c' := by
  have hlength : s'.children.length = 1 := by
    obtain ⟨i, f, -, hmodify⟩ := h.children
    rw [hmodify, List.length_modify, hchildren]
    rfl
  obtain ⟨c', hc'⟩ := List.length_eq_one_iff.1 hlength
  have hmem : c' ∈ s'.children := by simp [hc']
  obtain ⟨c₀, hold, hfollows⟩ := h.exists_follows hmem
  rw [hchildren, List.mem_singleton] at hold
  exact ⟨c', hc', hold ▸ hfollows⟩

/-- A tended session goes on. -/
theorem Driven.tended {s s' : Session Unit} (h : Driven s) (htended : Tended s s')
    (hstarted : Started 1 s') (htold : Told s') : GoesOn s s' := by
  have hcollected : s'.collected = s.collected := by
    funext e
    simp [collected, htended.options]
  refine ⟨⟨hstarted, htold, htended.calling.trans h.calling, ?_, ?_, ?_, ?_⟩, htended.checkId,
    by rw [htended.status], ?_⟩
  · rw [htended.status, htended.callbacks]
    exact h.callbacks
  -- A tended session keeps its one process, whatever that has done in the meantime.
  · intro hrunning
    rw [htended.status] at hrunning
    obtain ⟨c, hchildren, hhandle⟩ := h.running hrunning
    obtain ⟨c', hchildren', -⟩ := htended.children_singleton hchildren
    exact ⟨c', hchildren', htended.handle.trans hhandle⟩
  · intro hterminal c' hmem
    rw [htended.status] at hterminal
    obtain ⟨c, hmem, hfollows⟩ := htended.exists_follows hmem
    exact (h.stopped hterminal c hmem).of_follows hfollows
  · intro hcompleted
    rw [htended.status] at hcompleted
    obtain ⟨c, e, hchildren, hexit⟩ := h.completed hcompleted
    obtain ⟨c', hchildren', hfollows⟩ := htended.children_singleton hchildren
    exact ⟨c', e, hchildren', hfollows.exit e hexit⟩
  · unfold result?
    rw [htended.status, htended.outcome, hcollected]
    split
    · rename_i hcompleted
      obtain ⟨c, e, hchildren, hexit⟩ := h.completed hcompleted
      obtain ⟨c', hchildren', hfollows⟩ := htended.children_singleton hchildren
      simp [hchildren, hchildren', hexit, hfollows.exit e hexit]
    · rfl
    · rfl

/-- What an occurrence does to a session in the hands of a coordinator. -/
inductive Advances (s : Session Unit) : Step Unit → Prop
  | goes {s' : Session Unit} {effects : List (Effect Unit)} (h : GoesOn s s')
      (hquiet : ∀ e ∈ effects, e.isQuiet) : Advances s (s', effects)
  /-- The program of a canceled session cannot be run. -/
  | failsLate {s' : Session Unit} (ticket : Nat) (e : LintError) (hcanceled : s.status = .canceled)
      (h : GoesOn s s') : Advances s (s', [.returned ticket (.error (.lint e))])
  | fails {s' : Session Unit} (ticket : Nat) (e : LintError) (hopen : s.status.isTerminal = false)
      (h : IsDone s s'.release { status := .failed, error := some e }) :
    Advances s (s', [.returned ticket (.error (.lint e))])
  /-- The callback is called next, with an outcome whose output a failed session does not keep. -/
  | ends {s' : Session Unit} {o kept : Outcome} (line : LogLine)
      (hopen : s.status.isTerminal = false) (hcalling : s'.calling = [((), o)])
      (hkept : kept = o ∨ o.status = .failed ∧ kept = o.blank)
      (h : IsDone s (release { s' with calling := [] }) kept) :
    Advances s (s', [.log line])

/-- A session that fails to start has no process to leave behind. -/
theorem Driven.fails {s s' : Session Unit} (h : Driven s) (hpending : s.status = .pending)
    (hstarted : Started 1 s') (htold : Told s') (hframe : SameFrame s s')
    (hstatus : s'.status = .failed) (hchildren : s'.children = s.children) : Driven s' where
  started := hstarted
  told := htold
  calling := hframe.calling.trans h.calling
  callbacks hopen := by simp [hstatus, Status.isTerminal] at hopen
  running hrunning := by simp [hstatus] at hrunning
  stopped _ c hmem := by
    rw [hchildren, h.started.pending (Nat.le_refl 1) hpending] at hmem
    cases hmem
  completed hcompleted := by simp [hstatus] at hcompleted

/-- A reader that finds a process at its end finds the only one there is. -/
theorem Driven.exists_child {s : Session Unit} (h : Driven s) (hopen : s.status.isTerminal = false)
    {i : Nat} {e : Exit} (hexit : s.children[i]?.bind Child.exit = some e) :
    ∃ c, s.children = [c] ∧ c.exit = some e := by
  rcases status_eq_of_open hopen with hstatus | hstatus
  · rw [h.started.pending (Nat.le_refl 1) hstatus] at hexit
    cases hexit
  · obtain ⟨c, hchildren, -⟩ := h.running hstatus
    rw [hchildren] at hexit
    cases i with
    | zero => exact ⟨c, hchildren, hexit⟩
    | succ i => simp at hexit

/-- A session that has called its callback is driven again. -/
theorem driven_called {s : Session Unit} {o : Outcome} {c : Child} {e : Exit}
    (hcalling : s.calling = [((), o)]) (hterminal : s.status.isTerminal)
    (hchildren : s.children = [c]) (hexit : c.exit = some e) (hstarted : Started 1 s)
    (htold : Told s) : Driven { s with calling := [] } := by
  have hcall : (s.step .call).1 = { s with calling := [] } := by
    simp [step, callNext, hcalling]
  refine ⟨hcall ▸ hstarted.step .call, hcall ▸ htold.step hstarted (Nat.le_refl 1) .call, rfl,
    fun hopen => ?_, fun hrunning => ?_, fun _ c' hmem => ?_, fun _ => ⟨c, e, hchildren, hexit⟩⟩
  · simp [hterminal] at hopen
  · rw [show s.status = .running from hrunning] at hterminal
    cases hterminal
  · rw [show ({ s with calling := [] } : Session Unit).children = [c] from hchildren,
      List.mem_singleton] at hmem
    rw [hmem]
    exact .inl (by rw [hexit]; rfl)

/-- A session that has called its callback and is released is done. -/
theorem Driven.concluded {s s' : Session Unit} {o : Outcome} (h : Driven s)
    (hopen : s.status.isTerminal = false) {i : Nat} {e : Exit}
    (hexit : s.children[i]?.bind Child.exit = some e)
    (houtcome : o = s.collected e ∨ o.status = .failed) (hconcluded : Concluded s s' o)
    (hstarted : Started 1 s') (htold : Told s') :
    s'.calling = [((), o)] ∧ ∃ kept, (kept = o ∨ o.status = .failed ∧ kept = o.blank) ∧
      IsDone s (Session.release { s' with calling := [] }) kept := by
  obtain ⟨c, hchildren, hcexit⟩ := h.exists_child hopen hexit
  have hchildren' : s'.children = [c] := hconcluded.children.trans hchildren
  have hcalling : s'.calling = [((), o)] := by
    rw [hconcluded.calling, h.calling, h.callbacks hopen]
    rfl
  have hterminal : s'.status.isTerminal := by
    rw [hconcluded.status]
    exact (htold.fits o hconcluded.outcome).2.terminal
  have hdriven := (driven_called hcalling hterminal hchildren' hcexit hstarted htold).release
    hterminal
  have hdone {kept : Outcome}
      (hresult : ({ s' with calling := [] } : Session Unit).result? = some kept) :
      IsDone s (Session.release { s' with calling := [] }) kept :=
    ⟨hdriven, by rw [release_checkId]; exact hconcluded.checkId,
      by rw [release_status]; exact hterminal, by rw [result?_release]; exact hresult⟩
  refine ⟨hcalling, ?_⟩
  rcases houtcome with rfl | hfailed
  · have hstatus : s'.status = .completed := hconcluded.status
    refine ⟨s.collected e, .inl rfl, hdone ?_⟩
    simp [result?, hstatus, hchildren', hcexit, collected, hconcluded.options]
  · refine ⟨o.blank, .inr ⟨hfailed, rfl⟩, hdone ?_⟩
    simp [result?, hconcluded.status, hfailed, hconcluded.outcome]

/-- A process that comes too late is killed, and the session remains canceled. -/
theorem Driven.late {s s' : Session Unit} (h : Driven s) (hcanceled : s.status = .canceled)
    (hstarted : Started 1 s') (htold : Told s') (hframe : SameFrame s s')
    (hstatus : s'.status = s.status) {child : Child}
    (hchildren : s'.children = s.children ++ [child.kill]) : GoesOn s s' := by
  have hstatus' : s'.status = .canceled := hstatus.trans hcanceled
  refine ⟨⟨hstarted, htold, hframe.calling.trans h.calling, ?_, ?_, ?_, ?_⟩, hframe.checkId,
    by rw [hstatus], ?_⟩
  · simp [hstatus', Status.isTerminal]
  · simp [hstatus']
  · intro _ c hmem
    rw [hchildren, List.mem_append, List.mem_singleton] at hmem
    rcases hmem with hmem | rfl
    · exact h.stopped (by rw [hcanceled]; rfl) c hmem
    · exact child.stopped_kill
  · simp [hstatus']
  · rw [result?_of_canceled hstatus', result?_of_canceled hcanceled]

/-- A session that gets its process holds it, and has no other. -/
theorem Driven.begins {s s' : Session Unit} (h : Driven s) (hpending : s.status = .pending)
    (hstarted : Started 1 s') (htold : Told s') (hframe : SameFrame s s')
    (hstatus : s'.status = .running) (hhandle : s'.handle = some s.children.length) {child : Child}
    (hchildren : s'.children = s.children ++ [child]) : GoesOn s s' := by
  have hopen : s.status.isTerminal = false := by rw [hpending]; rfl
  have hopen' : s'.status.isTerminal = false := by rw [hstatus]; rfl
  rw [h.started.pending (Nat.le_refl 1) hpending] at hchildren hhandle
  refine ⟨⟨hstarted, htold, hframe.calling.trans h.calling, fun _ => ?_,
    fun _ => ⟨child, hchildren, hhandle⟩, ?_, ?_⟩, hframe.checkId, ?_, ?_⟩
  · rw [hframe.callbacks]
    exact h.callbacks hopen
  · simp [hopen']
  · simp [hstatus]
  · rw [hopen', hopen]
  · rw [result?_of_open hopen', result?_of_open hopen]

/-- What occurs at a driven session makes it go on, fail or end. -/
theorem Driven.advances {s : Session Unit} (h : Driven s) (oc : Occurrence) :
    Advances s (s.step oc.event) := by
  have hstarted : Started 1 (s.step oc.event).1 := by
    simpa [oc.not_isStart] using h.started.step oc.event
  have htold : Told (s.step oc.event).1 := h.told.step h.started (Nat.le_refl 1) oc.event
  have hoccurs := s.occurs oc
  -- The cases name the session that is left behind, of which both invariants speak.
  generalize s.step oc.event = p at hstarted htold hoccurs
  cases hoccurs with
  | tended htended hquiet => exact .goes (h.tended htended hstarted htold) hquiet
  | late child line hcanceled hframe hstatus houtcome hchildren =>
    exact .goes (h.late hcanceled hstarted htold hframe hstatus hchildren)
      (by simp [Effect.isQuiet])
  | begins ticket child line hopen hwaiting hframe hstatus hhandle hchildren =>
    have hpending : s.status = .pending :=
      (h.started.waiting (Nat.le_refl 1) hwaiting).resolve_right hopen
    exact .goes (h.begins hpending hstarted htold hframe hstatus hhandle hchildren)
      (by simp [Effect.isQuiet])
  | @fails s' ticket e hpending hframe hstatus houtcome hchildren =>
    have hdriven := h.fails hpending hstarted htold hframe hstatus hchildren
    have hterminal : s'.status.isTerminal := by rw [hstatus]; rfl
    refine .fails ticket e (by rw [hpending]; rfl) ⟨hdriven.release hterminal, ?_, ?_, ?_⟩
    · rw [release_checkId, hframe.checkId]
    · rw [release_status, hterminal]
    · rw [result?_release]
      simp [result?, hstatus, houtcome, Outcome.blank]
  | failsLate ticket e hgone hwaiting htended =>
    -- A session that waits for the system without being pending was canceled.
    have hcanceled := (h.started.waiting (Nat.le_refl 1) hwaiting).resolve_left hgone
    exact .failsLate ticket e hcanceled (h.tended htended hstarted htold)
  | ends line hopen hexit houtcome hconcluded =>
    obtain ⟨hcalling, kept, hkept, hdone⟩ :=
      h.concluded hopen hexit houtcome hconcluded hstarted htold
    exact .ends line hopen hcalling hkept hdone

/-! ### The beginning -/

/-- A new session with the coordinator's callback. -/
def listening (command : List Text) (text : Text) (options : SessionOptions) (id : Nat) :
    Session Unit :=
  { command, text, options, checkId := some (id : Int), callbacks := [()] }

/-- A session that listens was not started yet. -/
theorem started_listening (n : Nat) (command : List Text) (text : Text) (options : SessionOptions)
    (id : Nat) : Started n (listening command text options id) :=
  ⟨Nat.zero_le n, Nat.le_refl 0, fun _ _ => rfl, fun _ h => absurd h (Nat.lt_irrefl 0)⟩

/-- A session that listens can be driven. -/
theorem driven_listening (command : List Text) (text : Text) (options : SessionOptions)
    (id : Nat) : Driven (listening command text options id) where
  started := started_listening 1 command text options id
  told := ⟨rfl, rfl, fun _ h => by cases h⟩
  calling := rfl
  callbacks _ := rfl
  running h := by cases h
  stopped h := by cases h
  completed h := by cases h

/-- The only call of `start` leaves the session waiting, or fails at once. -/
theorem Driven.start_cases {s : Session Unit} (h : Driven s) (hfresh : Started 0 s)
    (ticket : Nat) (system : System) :
    (∃ s' effects, s.step (.start ticket system) = (s', effects) ∧ GoesOn s s' ∧
      ∀ e ∈ effects, e.isQuiet) ∨
    ∃ s' e, s.step (.start ticket system) = (s', [.returned ticket (.error (.lint e))]) ∧
      s.status.isTerminal = false ∧
      IsDone s s'.release { status := .failed, error := some e } := by
  have hstarted : Started 1 (s.start ticket system).1 := hfresh.step (.start ticket system)
  have htold : Told (s.start ticket system).1 :=
    h.told.step hfresh (Nat.zero_le 1) (.start ticket system)
  rcases s.start_cases ticket system with
    ⟨result, heq, hresult⟩ | ⟨hpending, reason, heq⟩ | ⟨hpending, _, _, _, _, heq⟩
  · refine .inl ⟨s, _, heq, ⟨h, rfl, rfl, rfl⟩, fun e he => ?_⟩
    rw [List.mem_singleton.1 he]
    rcases result with (e | f) | u
    · exact absurd rfl (hresult e)
    · rfl
    · rfl
  · rw [spawnError_of_pending hpending] at heq
    rw [heq] at hstarted htold
    have hdriven := h.fails hpending hstarted htold ⟨rfl, rfl, rfl, rfl⟩ rfl rfl
    refine .inr ⟨_, _, heq, by rw [hpending]; rfl, hdriven.release rfl, ?_, ?_, ?_⟩
    · rw [release_checkId]
    · rw [release_status]
      rfl
    · rw [result?_release]
      rfl
  · rw [heq] at hstarted htold
    refine .inl ⟨_, _, heq, h.tended ?_ hstarted htold, by simp [Effect.isQuiet]⟩
    exact { SameFrame.refl s with
      status := rfl, outcome := rfl, handle := rfl, children := (Tended.refl s).children }

end Session

end LiveLint
