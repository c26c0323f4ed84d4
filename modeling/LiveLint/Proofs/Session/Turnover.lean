import LiveLint.Proofs.Session.Driven

/-!
# What an event does to what a session holds

A session holds a process and its reader, callbacks that wait for its end, callbacks that are being
called, and an outcome. `step_turnover` says for every event what becomes of all these together. The
invariants of sessions that are started more than once, released or canceled at any time take their
cases from here.
-/

namespace LiveLint

namespace Session

variable {κ : Type}

/-- What the effects tell callbacks, in order. -/
def deliveries (effects : List (Effect κ)) : List (κ × Outcome) :=
  effects.filterMap fun
    | .called c o => some (c, o)
    | _ => none

/-- How many calls are told that they canceled the session. -/
def cancelations (effects : List (Effect κ)) : Nat :=
  effects.countP fun
    | .canceled b => b
    | _ => false

/-- The effect neither tells a callback anything nor a call that it canceled the session. -/
def Effect.isPrivate : Effect κ → Bool
  | .called .. | .canceled true => false
  | _ => true

/-- Callbacks are told by both parts. -/
theorem deliveries_append (first rest : List (Effect κ)) :
    deliveries (first ++ rest) = deliveries first ++ deliveries rest := List.filterMap_append

/-- Cancelations are counted in both parts. -/
theorem cancelations_append (first rest : List (Effect κ)) :
    cancelations (first ++ rest) = cancelations first + cancelations rest := List.countP_append

/-- Private effects tell no callback anything. -/
theorem deliveries_of_private {effects : List (Effect κ)} (h : ∀ f ∈ effects, f.isPrivate) :
    deliveries effects = [] := by
  rw [deliveries, List.filterMap_eq_nil_iff]
  intro f hf
  have hprivate := h f hf
  cases f <;> first | rfl | cases hprivate

/-- Private effects tell no call that it canceled the session. -/
theorem cancelations_of_private {effects : List (Effect κ)} (h : ∀ f ∈ effects, f.isPrivate) :
    cancelations effects = 0 := by
  rw [cancelations, List.countP_eq_zero]
  intro f hf
  have hprivate := h f hf
  match f with
  | .canceled true => cases hprivate
  | .canceled false => simp
  | .log _ | .spawn .. | .arm .. | .called .. | .returned .. | .refused _ => simp

/-- The event gives the session a process: the system has created one for a `start` call that waits
for it, and the session was not canceled. -/
def GetsProcess (s : Session κ) : Event κ → Prop
  | .spawned ticket _ =>
    s.status ≠ .canceled ∧ ∃ c, s.startCall? ticket = some c ∧ c.place = .spawning
  | _ => False

/-- The same callbacks wait and are called. -/
structure SameAudience (s s' : Session κ) : Prop where
  released : s'.released = s.released
  callbacks : s'.callbacks = s.callbacks
  calling : s'.calling = s.calling

/-- The same process and reader are held. -/
structure SameGrip (s s' : Session κ) : Prop where
  handle : s'.handle = s.handle
  reader : s'.reader = s.reader

/-- What an event does to what a session holds. -/
inductive Turnover (s : Session κ) (e : Event κ) : Step κ → Prop where
  /-- All is kept, and one process may go on. -/
  | keeps {s' : Session κ} {effects : List (Effect κ)} (haudience : SameAudience s s')
      (hgrip : SameGrip s s') (hstatus : s'.status = s.status) (houtcome : s'.outcome = s.outcome)
      (hchildren : ∃ i f, (∀ c, Child.Follows c (f c)) ∧ s'.children = s.children.modify i f)
      (hprivate : ∀ f ∈ effects, f.isPrivate) : Turnover s e (s', effects)
  /-- A process comes after the session was canceled, and is killed. -/
  | late {s' : Session κ} {effects : List (Effect κ)} (child : Child)
      (haudience : SameAudience s s') (hgrip : SameGrip s s') (hcanceled : s.status = .canceled)
      (hstatus : s'.status = s.status) (houtcome : s'.outcome = s.outcome)
      (hchildren : s'.children = s.children ++ [child.kill])
      (hprivate : ∀ f ∈ effects, f.isPrivate) : Turnover s e (s', effects)
  | begins {s' : Session κ} {effects : List (Effect κ)} (child : Child) (hgets : GetsProcess s e)
      (haudience : SameAudience s s') (hstatus : s'.status = .running)
      (houtcome : s'.outcome = s.outcome) (hhandle : s'.handle = some s.children.length)
      (hreader : s'.reader = some s.readers.length)
      (hchildren : s'.children = s.children ++ [child])
      (hprivate : ∀ f ∈ effects, f.isPrivate) : Turnover s e (s', effects)
  /-- The program of a session that waits for it cannot be run. -/
  | fails {s' : Session κ} {effects : List (Effect κ)} (error : LintError)
      (hpending : s.status = .pending) (haudience : SameAudience s s') (hgrip : SameGrip s s')
      (hstatus : s'.status = .failed)
      (houtcome : s'.outcome = some { status := .failed, error := some error })
      (hchildren : s'.children = s.children)
      (hprivate : ∀ f ∈ effects, f.isPrivate) : Turnover s e (s', effects)
  /-- A reader ends the session. -/
  | ends {s' : Session κ} {effects : List (Effect κ)} {j : Nat} {o : Outcome} (he : e = .read j)
      (hopen : s.status.isTerminal = false) (hfits : o.Fits) (hself : o.status ≠ .canceled)
      (hgrip : SameGrip s s')
      (hreleased : s'.released = s.released) (hstatus : s'.status = o.status)
      (houtcome : s'.outcome = some o) (hcallbacks : s'.callbacks = [])
      (hcalling : s'.calling = s.calling ++ s.callbacks.map fun c => (c, o))
      (hchildren : s'.children = s.children)
      (hprivate : ∀ f ∈ effects, f.isPrivate) : Turnover s e (s', effects)
  | registers {c : κ} (he : e = .onComplete c) (hreleased : s.released = false)
      (hopen : s.status.isTerminal = false ∨ s.outcome = none) :
    Turnover s e ({ s with callbacks := s.callbacks ++ [c] }, [])
  /-- A callback that comes after the end is called at once. -/
  | answers {c : κ} {o : Outcome} (he : e = .onComplete c) (hreleased : s.released = false)
      (hterminal : s.status.isTerminal) (hcanceled : s.status ≠ .canceled)
      (houtcome : s.outcome = some o) : Turnover s e (s, [.called c o])
  | calls {c : κ} {o : Outcome} {rest : List (κ × Outcome)} (he : e = .call)
      (hcalling : s.calling = (c, o) :: rest) :
    Turnover s e ({ s with calling := rest }, [.called c o])
  | cancels (he : e = .cancel) (hopen : s.status.isTerminal = false) : Turnover s e s.cancel
  | releases (he : e = .release) : Turnover s e (s.release, [])

/-- A session has its own audience. -/
theorem SameAudience.refl (s : Session κ) : SameAudience s s := ⟨rfl, rfl, rfl⟩

/-- A session holds what it holds. -/
theorem SameGrip.refl (s : Session κ) : SameGrip s s := ⟨rfl, rfl⟩

/-! ## Each event -/

/-- An event that touches no process, nor anything that the session holds. -/
theorem turnover_of_children {s s' : Session κ} {e : Event κ} {effects : List (Effect κ)}
    (haudience : SameAudience s s') (hgrip : SameGrip s s') (hstatus : s'.status = s.status)
    (houtcome : s'.outcome = s.outcome) (hchildren : s'.children = s.children)
    (hprivate : ∀ f ∈ effects, f.isPrivate) : Turnover s e (s', effects) :=
  .keeps haudience hgrip hstatus houtcome
    ⟨0, id, fun _ => ⟨fun _ => id, Nat.le_refl _⟩, by rw [hchildren, List.modify_id]⟩ hprivate

/-- A session may keep all that it holds. -/
theorem turnover_refl {s : Session κ} {e : Event κ} {effects : List (Effect κ)}
    (hprivate : ∀ f ∈ effects, f.isPrivate) : Turnover s e (s, effects) :=
  turnover_of_children (.refl s) (.refl s) rfl rfl rfl hprivate

/-- A failure to spawn ends a session, and nobody's turn comes. -/
theorem turnover_spawnError {s t : Session κ} {e : Event κ} (ticket : Nat) (reason : Text)
    (haudience : SameAudience s t) (hgrip : SameGrip s t) (hstatus : t.status = s.status)
    (houtcome : t.outcome = s.outcome) (hchildren : t.children = s.children) :
    Turnover s e (t.spawnError ticket reason) := by
  by_cases hpending : t.status = .pending
  · rw [spawnError_of_pending hpending]
    exact .fails _ (hstatus ▸ hpending) ⟨haudience.released, haudience.callbacks, haudience.calling⟩
      ⟨hgrip.handle, hgrip.reader⟩ rfl rfl hchildren (by simp [Effect.isPrivate])
  · rw [spawnError_of_ne_pending hpending]
    exact turnover_of_children haudience hgrip hstatus houtcome hchildren
      (by simp [Effect.isPrivate])

/-- Finishing ends a session, and the turn comes of all who wait. -/
theorem turnover_finish {s : Session κ} (j : Nat) {o : Outcome} (hfits : o.Fits)
    (hself : o.status ≠ .canceled) : Turnover s (.read j) ((s.moveReader j .ended).finish o) := by
  unfold finish
  by_cases hterminal : s.status.isTerminal
  · rw [if_pos (by exact hterminal)]
    exact turnover_of_children ⟨rfl, rfl, rfl⟩ ⟨rfl, rfl⟩ rfl rfl rfl (by simp)
  · rw [if_neg (by exact hterminal)]
    exact .ends rfl (by simpa using hterminal) hfits hself ⟨rfl, rfl⟩ rfl rfl rfl rfl rfl rfl
      (by simp [note, Effect.isPrivate])

/-- What a reader does is a turnover. -/
theorem turnover_read (s : Session κ) (j : Nat) : Turnover s (.read j) (s.read j) := by
  have hreads := read_cases s j
  generalize s.read j = p at hreads
  cases hreads with
  | waits => exact turnover_refl (by simp)
  | stops => exact turnover_of_children ⟨rfl, rfl, rfl⟩ ⟨rfl, rfl⟩ rfl rfl rfl (by simp)
  | hands payload hreader hpayload heffects =>
    refine .keeps ⟨rfl, rfl, rfl⟩ ⟨rfl, rfl⟩ rfl rfl
      ⟨_, _, (Child.follows_write · payload), rfl⟩ fun f hf => ?_
    obtain ⟨limit, rfl, -⟩ := heffects f hf
    rfl
  | kills cause hreader =>
    exact .keeps ⟨rfl, rfl, rfl⟩ ⟨rfl, rfl⟩ rfl rfl ⟨_, _, Child.follows_kill, rfl⟩ (by simp)
  | collects hreader hexit => exact turnover_finish j (fits_collected s _) (by simp [collected])
  | reaps hreader hexit houtcome =>
    obtain ⟨hfits, hfailed⟩ := fits_reaped houtcome
    exact turnover_finish j hfits (by simp [hfailed])

/-- A process that comes is a turnover. -/
theorem turnover_spawned (s : Session κ) (ticket : Nat) (child : Child) :
    Turnover s (.spawned ticket child) (s.spawned ticket child) := by
  have hhears := spawned_cases s ticket child
  generalize s.spawned ticket child = p at hhears
  cases hhears with
  | ignored => exact turnover_refl (by simp)
  | late line hcall hplace hstatus =>
    exact .late child ⟨rfl, rfl, rfl⟩ ⟨rfl, rfl⟩ hstatus rfl rfl rfl (by simp [Effect.isPrivate])
  | spawned line hcall hplace hstatus =>
    exact .begins child ⟨hstatus, _, hcall, hplace⟩ ⟨rfl, rfl, rfl⟩ rfl rfl rfl rfl rfl
      (by simp [Effect.isPrivate])

/-- A failure to spawn that is heard is a turnover. -/
theorem turnover_spawnFailed (s : Session κ) (ticket : Nat) (failure : SpawnFailure) :
    Turnover s (.spawnFailed ticket failure) (s.spawnFailed ticket failure) := by
  rcases s.spawnFailed_cases ticket failure with h | ⟨_, -, -, ⟨_, h⟩ | ⟨_, h⟩⟩ <;> rw [h]
  · exact turnover_refl (by simp)
  · exact turnover_spawnError ticket _ ⟨rfl, rfl, rfl⟩ ⟨rfl, rfl⟩ rfl rfl rfl
  · exact turnover_of_children ⟨rfl, rfl, rfl⟩ ⟨rfl, rfl⟩ rfl rfl rfl (by simp [Effect.isPrivate])

/-- A call of `start` is a turnover. -/
theorem turnover_start (s : Session κ) (ticket : Nat) (system : System) :
    Turnover s (.start ticket system) (s.start ticket system) := by
  rcases s.start_cases ticket system with ⟨_, h, -⟩ | ⟨-, _, h⟩ | ⟨-, _, _, _, _, h⟩ <;> rw [h]
  · exact turnover_refl (by simp [Effect.isPrivate])
  · exact turnover_spawnError ticket _ (.refl s) (.refl s) rfl rfl rfl
  · exact turnover_of_children ⟨rfl, rfl, rfl⟩ ⟨rfl, rfl⟩ rfl rfl rfl (by simp [Effect.isPrivate])

/-- A callback that comes is a turnover. -/
theorem turnover_onComplete (s : Session κ) (c : κ) :
    Turnover s (.onComplete c) (s.onComplete c) := by
  unfold onComplete
  split_ifs with hreleased hcanceled
  · exact turnover_refl (by simp [Effect.isPrivate])
  · exact turnover_refl (by simp)
  · rw [Bool.not_eq_true] at hreleased
    split
    · rename_i hterminal houtcome
      exact .answers rfl hreleased hterminal hcanceled houtcome
    · rename_i hcases
      refine .registers rfl hreleased ?_
      match hterminal : s.status.isTerminal, houtcome : s.outcome with
      | false, _ => exact .inl rfl
      | true, none => exact .inr rfl
      | true, some o => exact absurd houtcome (hcases o hterminal)

/-- Every event is a turnover. -/
theorem step_turnover (s : Session κ) (e : Event κ) : Turnover s e (s.step e) := by
  cases e with
  | start ticket system => exact turnover_start s ticket system
  | spawned ticket child => exact turnover_spawned s ticket child
  | spawnFailed ticket failure => exact turnover_spawnFailed s ticket failure
  | resume ticket =>
    change Turnover s _ (s.resume ticket)
    rcases s.resume_cases ticket with h | ⟨_, _, -, -, -, h⟩ <;> rw [h]
    · exact turnover_refl (by simp)
    · exact turnover_of_children ⟨rfl, rfl, rfl⟩ ⟨rfl, rfl⟩ rfl rfl rfl (by simp [Effect.isPrivate])
  | abandon ticket =>
    exact turnover_of_children ⟨rfl, rfl, rfl⟩ ⟨rfl, rfl⟩ rfl rfl rfl (by simp)
  | read j => exact turnover_read s j
  | timeUp j =>
    change Turnover s _ (s.timeUp j, [])
    rcases s.timeUp_cases j with h | ⟨_, -, h⟩ <;> rw [h]
    · exact turnover_refl (by simp)
    · exact .keeps ⟨rfl, rfl, rfl⟩ ⟨rfl, rfl⟩ rfl rfl ⟨_, _, Child.follows_kill, rfl⟩ (by simp)
  | exit i e =>
    exact .keeps ⟨rfl, rfl, rfl⟩ ⟨rfl, rfl⟩ rfl rfl ⟨_, _, (Child.follows_finish · e), rfl⟩ (by simp)
  | call =>
    change Turnover s _ s.callNext
    unfold callNext
    split
    · exact turnover_refl (by simp)
    · rename_i hcalling
      exact .calls rfl hcalling
  | cancel =>
    by_cases hterminal : s.status.isTerminal
    · change Turnover s _ s.cancel
      rw [cancel_of_terminal hterminal]
      exact turnover_refl (by simp [Effect.isPrivate])
    · exact .cancels rfl (by simpa using hterminal)
  | release => exact .releases rfl
  | onComplete c => exact turnover_onComplete s c

end Session

end LiveLint
