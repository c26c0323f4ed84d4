import LiveLint.Machine
import LiveLint.Proofs.Session.Driven

/-!
# What a session is made for

The command, the text and the options of a session are fixed when it is made, and nothing that
happens to it changes them (`step_kept`). They are also all that the system hears from it: a process
is asked for with the command's arguments, in the directory and the environment of the options; the
time limit is that of the options (`step_fits`); and a process is handed the whole text in the
encoding of the options, or nothing (`step_handed`).
-/

namespace LiveLint

namespace Child

/-- A process that is killed keeps the input that it was handed. -/
theorem stdin_kill (c : Child) : c.kill.stdin = c.stdin := by
  unfold kill
  split <;> rfl

/-- A process that ends keeps the input that it was handed. -/
theorem stdin_finish (c : Child) (e : Exit) : (c.finish e).stdin = c.stdin := by
  unfold finish
  split <;> rfl

end Child

namespace Session

variable {κ : Type} {s s' : Session κ}

/-- What a session is made for is as before. -/
structure Kept (s s' : Session κ) : Prop where
  command : s'.command = s.command
  text : s'.text = s.text
  options : s'.options = s.options

/-- A session is made for what it is made for. -/
theorem Kept.refl (s : Session κ) : Kept s s := ⟨rfl, rfl, rfl⟩

/-- What is kept twice is kept. -/
theorem Kept.trans {s'' : Session κ} (h : Kept s s') (hrest : Kept s' s'') : Kept s s'' :=
  ⟨hrest.command.trans h.command, hrest.text.trans h.text, hrest.options.trans h.options⟩

/-- A process of the session was handed this input. -/
def Handed (s : Session κ) (input : Bytes) : Prop := ∃ c ∈ s.children, c.stdin = some input

/-- What the session is entitled to hand to a process: its whole text. -/
def IsPayload (s : Session κ) (input : Bytes) : Prop :=
  s.options.encoding.encode? s.text = some input

/-- A session is entitled to hand over what it was. -/
theorem Kept.isPayload (h : Kept s s') {input : Bytes} :
    s'.IsPayload input ↔ s.IsPayload input := by
  rw [IsPayload, IsPayload, h.options, h.text]

/-- A question to the system is asked as the session was made to ask it, and at its time. -/
def Effect.Fits (s : Session κ) (e : Event κ) : Effect κ → Prop
  | .spawn ticket arguments directory environment =>
    ∃ system, e = .start ticket system ∧ processArguments system.find s.command = .ok arguments ∧
      directory = s.options.directory ∧
      environment = s.options.childEnvironment system.environment
  | .arm reader limit => e = .read reader ∧ s.options.timeout = some limit
  | _ => True

/-! ## What is kept -/

/-- A session that finishes is still made for the same. -/
theorem finish_kept (s : Session κ) (o : Outcome) : Kept s (s.finish o).1 := by
  unfold finish
  split <;> exact ⟨rfl, rfl, rfl⟩

/-- A session that cannot be spawned is still made for the same. -/
theorem spawnError_kept (s : Session κ) (ticket : Nat) (reason : Text) :
    Kept s (s.spawnError ticket reason).1 := by
  unfold spawnError
  split <;> exact ⟨rfl, rfl, rfl⟩

/-- A session that is released is still made for the same. -/
theorem release_kept (s : Session κ) : Kept s s.release := by
  unfold release
  split <;> exact ⟨rfl, rfl, rfl⟩

/-- A session that is canceled is still made for the same. -/
theorem cancel_kept (s : Session κ) : Kept s s.cancel.1 := by
  by_cases hterminal : s.status.isTerminal
  · rw [cancel_of_terminal hterminal]
    exact .refl s
  · rw [Bool.not_eq_true] at hterminal
    rw [cancel_of_open hterminal]
    have hreleased := release_kept
      { s with
        status := .canceled
        outcome := some { status := .canceled }
        done := true
        children := s.killHeld.children
        readers := s.stopHeld.readers }
    exact ⟨hreleased.command, hreleased.text, hreleased.options⟩

/-- A session that is started is still made for the same. -/
theorem start_kept (s : Session κ) (ticket : Nat) (system : System) :
    Kept s (s.start ticket system).1 := by
  rcases s.start_cases ticket system with ⟨_, h, -⟩ | ⟨-, _, h⟩ | ⟨-, _, _, _, _, h⟩ <;> rw [h]
  · exact .refl s
  · exact s.spawnError_kept ticket _
  · exact ⟨rfl, rfl, rfl⟩

/-- A session that gets a process is still made for the same. -/
theorem spawned_kept (s : Session κ) (ticket : Nat) (child : Child) :
    Kept s (s.spawned ticket child).1 := by
  have hhears := spawned_cases s ticket child
  generalize s.spawned ticket child = p at hhears
  cases hhears <;> exact ⟨rfl, rfl, rfl⟩

/-- A session that gets no process is still made for the same. -/
theorem spawnFailed_kept (s : Session κ) (ticket : Nat) (failure : SpawnFailure) :
    Kept s (s.spawnFailed ticket failure).1 := by
  rcases s.spawnFailed_cases ticket failure with h | ⟨_, -, -, ⟨_, h⟩ | ⟨_, h⟩⟩ <;> rw [h]
  · exact .refl s
  · exact (show Kept s (s.endStart ticket) from ⟨rfl, rfl, rfl⟩).trans (spawnError_kept _ _ _)
  · exact ⟨rfl, rfl, rfl⟩

/-- A session whose reader goes on is still made for the same. -/
theorem read_kept (s : Session κ) (j : Nat) : Kept s (s.read j).1 := by
  have hmoved : Kept s (s.moveReader j .ended) := ⟨rfl, rfl, rfl⟩
  have hreads := read_cases s j
  generalize s.read j = p at hreads
  cases hreads with
  | waits => exact .refl s
  | stops => exact hmoved
  | hands payload hreader hpayload heffects => exact ⟨rfl, rfl, rfl⟩
  | kills cause hreader => exact ⟨rfl, rfl, rfl⟩
  | collects hreader hexit => exact hmoved.trans (finish_kept _ _)
  | reaps hreader hexit houtcome => exact hmoved.trans (finish_kept _ _)

/-- No event changes what a session was made for. -/
theorem step_kept (s : Session κ) (e : Event κ) : Kept s (s.step e).1 := by
  cases e with
  | start ticket system => exact s.start_kept ticket system
  | spawned ticket child => exact s.spawned_kept ticket child
  | spawnFailed ticket failure => exact s.spawnFailed_kept ticket failure
  | resume ticket =>
    show Kept s (s.resume ticket).1
    rcases s.resume_cases ticket with h | ⟨_, _, -, -, -, h⟩ <;> rw [h] <;> exact ⟨rfl, rfl, rfl⟩
  | abandon ticket => exact ⟨rfl, rfl, rfl⟩
  | read j => exact s.read_kept j
  | timeUp j =>
    show Kept s (s.timeUp j)
    rcases s.timeUp_cases j with h | ⟨_, -, h⟩ <;> rw [h] <;> exact ⟨rfl, rfl, rfl⟩
  | exit i e => exact ⟨rfl, rfl, rfl⟩
  | call =>
    show Kept s s.callNext.1
    unfold callNext
    split <;> exact ⟨rfl, rfl, rfl⟩
  | cancel => exact s.cancel_kept
  | release => exact s.release_kept
  | onComplete c =>
    show Kept s (s.onComplete c).1
    unfold onComplete
    split_ifs
    · exact .refl s
    · exact .refl s
    · split <;> exact ⟨rfl, rfl, rfl⟩

/-! ## What is asked -/

/-- A call of `start` asks for the process that the session was made for. -/
theorem start_fits (s : Session κ) (ticket : Nat) (system : System) :
    ∀ f ∈ (s.start ticket system).2, f.Fits s (.start ticket system) := by
  intro f hf
  unfold start at hf
  split_ifs at hf
  · rw [List.mem_singleton.1 hf]
    trivial
  · rw [List.mem_singleton.1 hf]
    trivial
  · split at hf
    · -- An executable that is not found ends the call without a question.
      rw [List.mem_singleton.1 hf]
      trivial
    · rw [List.mem_singleton.1 hf]
      trivial
    · rename_i arguments harguments
      rw [List.mem_singleton.1 hf]
      exact ⟨system, rfl, harguments, rfl, rfl⟩

/-- Finishing asks the system nothing. -/
theorem finish_fits (t s : Session κ) (o : Outcome) (e : Event κ) :
    ∀ f ∈ (t.finish o).2, f.Fits s e := by
  intro f hf
  unfold finish at hf
  split at hf
  · cases hf
  · rw [List.mem_singleton.1 hf]
    trivial

/-- A reader asks for the time limit that the session was made with. -/
theorem read_fits (s : Session κ) (j : Nat) : ∀ f ∈ (s.read j).2, f.Fits s (.read j) := by
  have hreads := read_cases s j
  generalize s.read j = p at hreads
  cases hreads with
  | waits => simp
  | stops => simp
  | hands payload hreader hpayload heffects =>
    intro f hf
    obtain ⟨limit, rfl, htimeout⟩ := heffects f hf
    exact ⟨rfl, htimeout⟩
  | kills cause hreader => simp
  | collects hreader hexit => exact finish_fits _ s _ _
  | reaps hreader hexit houtcome => exact finish_fits _ s _ _

/-- Every question that leaves a session is the one that the session was made to ask. -/
theorem step_fits (s : Session κ) (e : Event κ) : ∀ f ∈ (s.step e).2, f.Fits s e := by
  cases e with
  | start ticket system => exact s.start_fits ticket system
  | spawned ticket child =>
    have hhears := spawned_cases s ticket child
    show ∀ f ∈ (s.spawned ticket child).2, _
    generalize s.spawned ticket child = p at hhears
    cases hhears <;> simp [Effect.Fits]
  | spawnFailed ticket failure =>
    show ∀ f ∈ (s.spawnFailed ticket failure).2, _
    rcases s.spawnFailed_cases ticket failure with h | ⟨_, -, -, ⟨_, h⟩ | ⟨_, h⟩⟩ <;>
      simp [h, Effect.Fits, spawnError]
  | resume ticket =>
    show ∀ f ∈ (s.resume ticket).2, _
    rcases s.resume_cases ticket with h | ⟨_, _, -, -, -, h⟩ <;> simp [h, Effect.Fits]
  | abandon ticket => simp [step]
  | read j => exact s.read_fits j
  | timeUp j => simp [step]
  | exit i e => simp [step]
  | call =>
    show ∀ f ∈ s.callNext.2, _
    unfold callNext
    split <;> simp [Effect.Fits]
  | cancel =>
    show ∀ f ∈ s.cancel.2, _
    unfold cancel
    split <;> simp [Effect.Fits, note]
  | release => simp [step]
  | onComplete c =>
    show ∀ f ∈ (s.onComplete c).2, _
    unfold onComplete
    split_ifs
    · simp [Effect.Fits]
    · simp
    · split <;> simp [Effect.Fits]

/-! ## What is handed over -/

/-- Where the input of the processes comes from in a step: it was handed over before, or is what the
session is entitled to hand over, or the process came with it. -/
def Sourced (s : Session κ) (e : Event κ) (input : Bytes) : Prop :=
  s.Handed input ∨ s.IsPayload input ∨
    ∃ ticket child, e = .spawned ticket child ∧ child.stdin = some input

/-- Where there are the same processes the same input was handed over. -/
theorem Handed.of_children {s s' : Session κ} {input : Bytes}
    (hchildren : s'.children = s.children) (h : s'.Handed input) : s.Handed input := by
  rw [Handed, hchildren] at h
  exact h

/-- A process whose input was changed has the new input, and the others are as they were. -/
theorem Handed.of_modify {s s' : Session κ} {i : Nat} {f : Child → Child} {input : Bytes}
    (hchildren : s'.children = s.children.modify i f) (h : s'.Handed input) :
    s.Handed input ∨ ∃ c, (f c).stdin = some input ∧ c.stdin ≠ some input := by
  obtain ⟨c, hc, hinput⟩ := h
  rw [hchildren] at hc
  obtain ⟨k, hk⟩ := List.getElem?_of_mem hc
  rw [List.getElem?_modify, Option.map_eq_map, Option.map_eq_some_iff] at hk
  obtain ⟨c₀, hc₀, rfl⟩ := hk
  have hmem : c₀ ∈ s.children := List.mem_of_getElem? hc₀
  by_cases hsame : c₀.stdin = some input
  · exact .inl ⟨c₀, hmem, hsame⟩
  · split at hinput
    · exact .inr ⟨c₀, hinput, hsame⟩
    · exact absurd hinput hsame

/-- A change that leaves the input of every process alone hands nothing over. -/
theorem Handed.of_modify_same {s s' : Session κ} {i : Nat} {f : Child → Child} {input : Bytes}
    (hchildren : s'.children = s.children.modify i f) (hf : ∀ c, (f c).stdin = c.stdin)
    (h : s'.Handed input) : s.Handed input := by
  rcases h.of_modify hchildren with h | ⟨c, hc, hne⟩
  · exact h
  · exact absurd ((hf c).symm.trans hc) hne

/-- A new process has what it came with. -/
theorem Handed.of_append {s s' : Session κ} {child : Child} {input : Bytes}
    (hchildren : s'.children = s.children ++ [child]) (h : s'.Handed input) :
    s.Handed input ∨ child.stdin = some input := by
  obtain ⟨c, hc, hinput⟩ := h
  rw [hchildren, List.mem_append, List.mem_singleton] at hc
  rcases hc with hc | rfl
  · exact .inl ⟨c, hc, hinput⟩
  · exact .inr hinput

/-- Finishing creates no process. -/
theorem children_finish (s : Session κ) (o : Outcome) : (s.finish o).1.children = s.children := by
  unfold finish
  split <;> rfl

/-- A failure to spawn creates no process. -/
theorem children_spawnError (s : Session κ) (ticket : Nat) (reason : Text) :
    (s.spawnError ticket reason).1.children = s.children := by
  unfold spawnError
  split <;> rfl

/-- Canceling hands no input over. -/
theorem handed_cancel {s : Session κ} {input : Bytes} (h : s.cancel.1.Handed input) :
    s.Handed input := by
  by_cases hterminal : s.status.isTerminal
  · rwa [cancel_of_terminal hterminal] at h
  · rw [Bool.not_eq_true] at hterminal
    rw [cancel_of_open hterminal] at h
    have hkilled : s.killHeld.Handed input := Handed.of_children (by rw [release_children]) h
    unfold killHeld at hkilled
    split at hkilled
    · exact hkilled.of_modify_same rfl Child.stdin_kill
    · exact hkilled

/-- A reader hands over what the session is entitled to. -/
theorem handed_read {s : Session κ} {j : Nat} {input : Bytes} (h : (s.read j).1.Handed input) :
    s.Handed input ∨ s.IsPayload input := by
  have hreads := read_cases s j
  generalize s.read j = p at h hreads
  cases hreads with
  | waits => exact .inl h
  | stops => exact .inl (h.of_children rfl)
  | hands payload hreader hpayload heffects =>
    rcases h.of_modify rfl with h | ⟨c, hwritten, -⟩
    · exact .inl h
    · -- What was written is the payload.
      obtain rfl : payload = input := Option.some.inj hwritten
      exact .inr hpayload
  | kills cause hreader => exact .inl (h.of_modify_same rfl Child.stdin_kill)
  | collects hreader hexit => exact .inl (Handed.of_children (by rw [children_finish]; rfl) h)
  | reaps hreader hexit houtcome =>
    exact .inl (Handed.of_children (by rw [children_finish]; rfl) h)

/-- Nothing is handed to a process but the whole text. -/
theorem step_handed {s : Session κ} {e : Event κ} {input : Bytes}
    (h : (s.step e).1.Handed input) : s.Sourced e input := by
  cases e with
  | start ticket system =>
    rcases s.start_cases ticket system with ⟨_, heq, -⟩ | ⟨-, _, heq⟩ | ⟨-, _, _, _, _, heq⟩ <;>
      rw [show s.step (.start ticket system) = _ from heq] at h
    · exact .inl h
    · exact .inl (h.of_children (s.children_spawnError ticket _))
    · exact .inl (h.of_children rfl)
  | spawned ticket child =>
    have hhears := spawned_cases s ticket child
    change (s.spawned ticket child).1.Handed input at h
    generalize s.spawned ticket child = p at h hhears
    -- A process that comes may have been handed its input elsewhere: this is what the event says.
    have hcame : child.stdin = some input → s.Sourced (.spawned ticket child) input :=
      fun hchild => .inr (.inr ⟨ticket, child, rfl, hchild⟩)
    cases hhears with
    | ignored => exact .inl h
    | late line hcall hplace hstatus =>
      rcases h.of_append rfl with h | hchild
      · exact .inl h
      · exact hcame (child.stdin_kill ▸ hchild)
    | spawned line hcall hplace hstatus =>
      rcases h.of_append rfl with h | hchild
      · exact .inl h
      · exact hcame hchild
  | spawnFailed ticket failure =>
    change (s.spawnFailed ticket failure).1.Handed input at h
    rcases s.spawnFailed_cases ticket failure with heq | ⟨_, -, -, ⟨_, heq⟩ | ⟨_, heq⟩⟩ <;>
      rw [heq] at h
    · exact .inl h
    · exact .inl (Handed.of_children (by rw [children_spawnError]; rfl) h)
    · exact .inl (h.of_children rfl)
  | resume ticket =>
    change (s.resume ticket).1.Handed input at h
    rcases s.resume_cases ticket with heq | ⟨_, _, -, -, -, heq⟩ <;> rw [heq] at h <;>
      exact .inl (h.of_children rfl)
  | abandon ticket => exact .inl (h.of_children rfl)
  | read j => exact (handed_read h).imp_right .inl
  | timeUp j =>
    change (s.timeUp j).Handed input at h
    rcases s.timeUp_cases j with heq | ⟨_, -, heq⟩ <;> rw [heq] at h
    · exact .inl h
    · exact .inl (h.of_modify_same rfl Child.stdin_kill)
  | exit i e => exact .inl (h.of_modify_same rfl (Child.stdin_finish · e))
  | call =>
    change s.callNext.1.Handed input at h
    unfold callNext at h
    split at h <;> exact .inl (h.of_children rfl)
  | cancel => exact .inl (handed_cancel h)
  | release => exact .inl (h.of_children s.release_children)
  | onComplete c =>
    change (s.onComplete c).1.Handed input at h
    unfold onComplete at h
    split_ifs at h
    · exact .inl h
    · exact .inl h
    · split at h <;> exact .inl (h.of_children rfl)

/-! ## Runs -/

/-- Whatever happens to a session, it remains what it was made for. -/
theorem run_kept (s : Session κ) (es : List (Event κ)) : Kept s (Machine.run step s es).1 :=
  Machine.run_invariant (fun s' e h => h.trans (s'.step_kept e)) (.refl s) es

/-- Whatever happens to a session, its processes are handed the whole text or nothing, what they
came with apart. -/
theorem run_handed {s : Session κ} {es : List (Event κ)} {input : Bytes}
    (h : (Machine.run step s es).1.Handed input) :
    s.Handed input ∨ s.IsPayload input ∨
      ∃ ticket child, .spawned ticket child ∈ es ∧ child.stdin = some input := by
  induction es generalizing s with
  | nil => exact .inl h
  | cons e es ih =>
    have hkept := s.step_kept e
    rcases ih h with h | h | ⟨ticket, child, hmem, hchild⟩
    · rcases step_handed h with h | h | ⟨ticket, child, rfl, hchild⟩
      · exact .inl h
      · exact .inr (.inl h)
      · exact .inr (.inr ⟨ticket, child, by simp, hchild⟩)
    · exact .inr (.inl (hkept.isPayload.1 h))
    · exact .inr (.inr ⟨ticket, child, List.mem_cons_of_mem e hmem, hchild⟩)

end Session

end LiveLint
