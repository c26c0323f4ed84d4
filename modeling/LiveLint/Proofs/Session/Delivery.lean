import Mathlib.Algebra.Order.Group.Multiset
import Mathlib.Tactic.Abel
import LiveLint.Proofs.Session.Cancelation

/-!
# What becomes of callbacks

A callback that is registered waits for the end of its session, then for its turn, and then is
called. `exists_lost_step` keeps the account: no event makes a callback out of nothing, and only a
cancelation or a release loses one. An end by a reader gives all who wait their turn
(`ending_of_step`), and from then on they are called one after the other, with the outcome of that
end, whatever is done to the session in between (`Ended.run`). An end because there is no process
leaves them waiting for good (`Strands`). Nothing else can keep a callback of a session that is
neither canceled nor released from being called once (`all_told_unless_stranded`).
-/

namespace LiveLint

namespace Session

variable {κ : Type}

/-! ## The account of the callbacks -/

/-- The callback that an event registers. -/
def Event.callback? : Event κ → Option κ
  | .onComplete c => some c
  | _ => none

/-- The event takes callbacks away from a session. -/
def Event.withdraws : Event κ → Bool
  | .cancel | .release => true
  | _ => false

/-- The callbacks that are registered, in order. -/
def registered (es : List (Event κ)) : List κ := es.filterMap Event.callback?

/-- The callbacks that are called, in order. -/
def callees (effects : List (Effect κ)) : List κ := (deliveries effects).map Prod.fst

/-- The callbacks that were called, those whose turn comes, and those that wait for the end. -/
def audience (s : Session κ) (past : List (Effect κ)) : Multiset κ :=
  callees past + s.calling.map Prod.fst + s.callbacks

/-- The session takes callbacks. -/
def Attended (s : Session κ) : Prop := s.released = false ∧ s.status ≠ .canceled

/-- Callbacks are called by both parts. -/
theorem callees_append (first rest : List (Effect κ)) :
    callees (first ++ rest) = callees first ++ callees rest := by
  rw [callees, deliveries_append, List.map_append, callees, callees]

/-- Private effects call no callback. -/
theorem callees_of_private {effects : List (Effect κ)} (h : ∀ f ∈ effects, f.isPrivate) :
    callees effects = [] := by
  rw [callees, deliveries_of_private h, List.map_nil]

/-- The audience stays the same through private effects, if the callbacks do. -/
theorem SameAudience.audience {s s' : Session κ} (h : SameAudience s s')
    {past effects : List (Effect κ)} (hprivate : ∀ f ∈ effects, f.isPrivate) :
    s'.audience (past ++ effects) = s.audience past := by
  rw [Session.audience, callees_append, callees_of_private hprivate, List.append_nil, h.calling,
    h.callbacks, Session.audience]

/-- A release loses those who wait, the first time. -/
theorem exists_lost_release (s : Session κ) :
    ∃ lost : Multiset κ, (s.release.callbacks : Multiset κ) + lost = s.callbacks := by
  unfold release
  split
  · exact ⟨0, add_zero _⟩
  · exact ⟨s.callbacks, zero_add _⟩

/-- A callback that is registered is added to the account, unless the session takes none. -/
theorem exists_lost_onComplete (s : Session κ) (past : List (Effect κ)) (c : κ) :
    ∃ lost : Multiset κ,
      (s.onComplete c).1.audience (past ++ (s.onComplete c).2) + lost = s.audience past + {c} ∧
      (s.Attended → lost = 0) := by
  unfold onComplete
  split_ifs with hreleased hcanceled
  · refine ⟨{c}, ?_, fun hattended => ?_⟩
    · rw [(SameAudience.refl s).audience (by simp [Effect.isPrivate])]
    · rw [hattended.1] at hreleased
      cases hreleased
  · refine ⟨{c}, ?_, fun hattended => absurd hcanceled hattended.2⟩
    rw [(SameAudience.refl s).audience (by simp)]
  · refine ⟨0, ?_, fun _ => rfl⟩
    rw [add_zero]
    split
    · rw [audience, callees_append, ← Multiset.coe_add, audience]
      show _ + ({c} : Multiset κ) + _ + _ = _
      abel
    · rw [audience, List.append_nil, ← Multiset.coe_add, audience]
      show _ + (_ + ({c} : Multiset κ)) = _
      abel

/-- What one event adds to the account and what it loses. -/
theorem exists_lost_step (s : Session κ) (past : List (Effect κ)) (e : Event κ) :
    ∃ lost : Multiset κ,
      (s.step e).1.audience (past ++ (s.step e).2) + lost = s.audience past + registered [e] ∧
      (e.withdraws = false → s.Attended → lost = 0) := by
  -- Only a registration credits the account, and it has a lemma of its own.
  by_cases hcallback : e.callback? = none
  · have hnone : registered [e] = [] := by simp [registered, hcallback]
    rw [hnone, Multiset.coe_nil, add_zero]
    suffices hall : ∃ lost : Multiset κ,
        (s.step e).1.audience (past ++ (s.step e).2) + lost = s.audience past ∧
        (e.withdraws = false → lost = 0) by
      obtain ⟨lost, heq, hlost⟩ := hall
      exact ⟨lost, heq, fun he _ => hlost he⟩
    have hturnover := s.step_turnover e
    generalize s.step e = p at hturnover
    cases hturnover with
    | keeps haudience hgrip hstatus houtcome hchildren hprivate =>
      exact ⟨0, by rw [add_zero, haudience.audience hprivate], fun _ => rfl⟩
    | late child haudience hgrip hcanceled hstatus houtcome hchildren hprivate =>
      exact ⟨0, by rw [add_zero, haudience.audience hprivate], fun _ => rfl⟩
    | begins child hgets haudience hstatus houtcome hhandle hreader hchildren hprivate =>
      exact ⟨0, by rw [add_zero, haudience.audience hprivate], fun _ => rfl⟩
    | fails error hpending haudience hgrip hstatus houtcome hchildren hprivate =>
      exact ⟨0, by rw [add_zero, haudience.audience hprivate], fun _ => rfl⟩
    | ends he hopen hfits hself hgrip hreleased hstatus houtcome hcallbacks hcalling hchildren
        hprivate =>
      -- Those who wait move to those whose turn comes.
      refine ⟨0, ?_, fun _ => rfl⟩
      rw [add_zero, audience, callees_append, callees_of_private hprivate, hcalling, hcallbacks,
        audience]
      simp [Function.comp_def]
    | registers he => exact absurd hcallback (by simp [he, Event.callback?])
    | answers he => exact absurd hcallback (by simp [he, Event.callback?])
    | calls he hcalling =>
      refine ⟨0, ?_, fun _ => rfl⟩
      rw [add_zero, audience, callees_append, audience, hcalling]
      simp [callees, deliveries]
    | cancels he hopen =>
      rw [cancel_of_open hopen]
      obtain ⟨lost, hlost⟩ := exists_lost_release
        { s with
          status := .canceled
          outcome := some { status := .canceled }
          done := true
          children := s.killHeld.children
          readers := s.stopHeld.readers }
      refine ⟨lost, ?_, fun hnot => absurd hnot (by simp [he, Event.withdraws])⟩
      rw [audience, add_assoc, hlost, release_calling, callees_append]
      simp [audience, callees, deliveries, note]
    | releases he =>
      obtain ⟨lost, hlost⟩ := s.exists_lost_release
      refine ⟨lost, ?_, fun hnot => absurd hnot (by simp [he, Event.withdraws])⟩
      rw [audience, add_assoc, hlost, release_calling, List.append_nil, audience]
  · obtain ⟨c, rfl⟩ : ∃ c, e = .onComplete c := by
      cases e with
      | onComplete c => exact ⟨c, rfl⟩
      | _ => exact absurd rfl hcallback
    obtain ⟨lost, heq, hlost⟩ := s.exists_lost_onComplete past c
    exact ⟨lost, heq, fun _ => hlost⟩

/-- The first event registers its callback before the others do. -/
theorem registered_cons (e : Event κ) (es : List (Event κ)) :
    (registered (e :: es) : Multiset κ) = registered [e] + registered es := by
  rw [Multiset.coe_add, registered, ← List.singleton_append, List.filterMap_append, registered,
    registered]

/-- Without a cancelation or a release, a session goes on taking callbacks. -/
theorem Attended.step {s : Session κ} (h : s.Attended) {e : Event κ} (he : e.withdraws = false) :
    (s.step e).1.Attended := by
  obtain ⟨hreleased, hcanceled⟩ := h
  have hturnover := s.step_turnover e
  generalize s.step e = p at hturnover
  cases hturnover with
  | keeps haudience hgrip hstatus =>
    exact ⟨haudience.released.trans hreleased, by rw [hstatus]; exact hcanceled⟩
  | late child haudience hgrip hbefore => exact absurd hbefore hcanceled
  | begins child hgets haudience hstatus =>
    exact ⟨haudience.released.trans hreleased, by simp [hstatus]⟩
  | fails error hpending haudience hgrip hstatus =>
    exact ⟨haudience.released.trans hreleased, by simp [hstatus]⟩
  | ends _ hopen hfits hself hgrip hkept hstatus =>
    exact ⟨hkept.trans hreleased, by rw [hstatus]; exact hself⟩
  | registers => exact ⟨hreleased, hcanceled⟩
  | answers => exact ⟨hreleased, hcanceled⟩
  | calls => exact ⟨hreleased, hcanceled⟩
  | cancels hcancel => exact absurd he (by simp [hcancel, Event.withdraws])
  | releases hrelease => exact absurd he (by simp [hrelease, Event.withdraws])

/-- A session goes on to take callbacks, unless it is canceled or released. -/
theorem Attended.run {s : Session κ} (h : s.Attended) {es : List (Event κ)}
    (hes : ∀ e ∈ es, e.withdraws = false) : (Machine.run Session.step s es).1.Attended :=
  Machine.run_invariant_of_guarded (fun _ _ hattended he => hattended.step he) h
    (Machine.guarded_of_forall s hes)

/-- No run makes a callback out of nothing, and none is lost without a cancelation or a release. -/
theorem exists_lost_run (s : Session κ) (past : List (Effect κ)) (es : List (Event κ)) :
    ∃ lost : Multiset κ,
      (Machine.run Session.step s es).1.audience (past ++ (Machine.run Session.step s es).2) + lost
        = s.audience past + registered es ∧
      ((∀ e ∈ es, e.withdraws = false) → s.Attended → lost = 0) := by
  -- The account speaks of all that was done so far, and so the past has to vary with the session.
  induction es generalizing s past with
  | nil => exact ⟨0, by simp [registered], fun _ _ => rfl⟩
  | cons e es ih =>
    obtain ⟨lostNow, hnow, hnoneNow⟩ := s.exists_lost_step past e
    obtain ⟨lostLater, hlater, hnoneLater⟩ := ih (s.step e).1 (past ++ (s.step e).2)
    refine ⟨lostLater + lostNow, ?_, fun hes hattended => ?_⟩
    · rw [Machine.run_cons, ← List.append_assoc, ← add_assoc, hlater, registered_cons, ← add_assoc,
        ← hnow]
      abel
    · obtain ⟨he, hrest⟩ := List.forall_mem_cons.1 hes
      rw [hnoneNow he hattended, hnoneLater hrest (hattended.step he), add_zero]

/-- Each registration is called once at most. -/
theorem callees_le_registered {s : Session κ} (hcalling : s.calling = [])
    (hcallbacks : s.callbacks = []) (es : List (Event κ)) :
    (callees (Machine.run Session.step s es).2 : Multiset κ) ≤ registered es := by
  obtain ⟨lost, haccount, -⟩ := s.exists_lost_run [] es
  have hnobody : s.audience [] = 0 := by
    rw [audience, hcalling, hcallbacks]
    rfl
  rw [hnobody, zero_add, List.nil_append, audience, add_assoc, add_assoc] at haccount
  exact haccount ▸ Multiset.le_add_right _ _

/-! ## How a session ends by itself -/

/-- The event is a `start` call, or the answer of the system to one, by which no process comes. -/
def Event.yieldsNothing : Event κ → Bool
  | .start .. | .spawnFailed _ (.system _) => true
  | _ => false

/-- How a session ends that is not canceled: its last event, its outcome, and those whose turn comes
then. -/
inductive Ending (s : Session κ) : Event κ → Outcome → List κ → Prop
  /-- A reader has the exit of its process; all who wait are told. -/
  | read {j : Nat} {r : Reader} {x : Exit} {o : Outcome} (hreader : s.readers[j]? = some r)
      (hexit : s.children[r.child]?.bind Child.exit = some x)
      (houtcome : r.place = .collecting ∧ o = s.collected x ∨
        ∃ cause, r.place = .reaping cause ∧ s.reaped? cause x = some o) :
    Ending s (.read j) o s.callbacks
  /-- There is no process; nobody is told. -/
  | stranded {e : Event κ} (reason : Text) (hpending : s.status = .pending)
      (he : e.yieldsNothing) :
    Ending s e { status := .failed, error := some (.spawn (s.command.headD []) reason) } []

/-- A session that has ended with an outcome by itself; `queue` are those whose turn comes. -/
structure Ended (s : Session κ) (o : Outcome) (queue : List κ) : Prop where
  status : s.status = o.status
  terminal : s.status.isTerminal
  self : s.status ≠ .canceled
  /-- Only a release changes the outcome. -/
  outcome : s.released = false → s.outcome = some o
  calling : s.calling = queue.map fun c => (c, o)

/-- A session that cannot be spawned ends, and has not told anybody. -/
theorem ended_spawnError {s t : Session κ} (ticket : Nat) (reason : Text)
    (hpending : t.status = .pending) (hcalling : t.calling = [])
    (hcommand : t.command = s.command) :
    Ended (t.spawnError ticket reason).1
        { status := .failed, error := some (.spawn (s.command.headD []) reason) } [] ∧
      deliveries (t.spawnError ticket reason).2 = [] := by
  rw [spawnError_of_pending hpending, hcommand]
  exact ⟨⟨rfl, rfl, by simp, fun _ => rfl, hcalling⟩, rfl⟩

/-- A session that finishes ends, and it is the turn of all who waited. -/
theorem ended_finish {s : Session κ} (j : Nat) {o : Outcome} (hopen : s.status.isTerminal = false)
    (hcalling : s.calling = []) (hfits : o.Fits) (hself : o.status ≠ .canceled) :
    Ended ((s.moveReader j .ended).finish o).1 o s.callbacks ∧
      deliveries ((s.moveReader j .ended).finish o).2 = [] := by
  have hnot : (s.moveReader j .ended).status.isTerminal = false := hopen
  rw [finish, if_neg (by simp [hnot])]
  refine ⟨⟨rfl, hfits.terminal, hself, fun _ => rfl, ?_⟩, rfl⟩
  show s.calling ++ _ = _
  rw [hcalling]
  rfl

/-- A reader ends a session with what its process has left. -/
theorem read_ending {s : Session κ} (j : Nat) (hopen : s.status.isTerminal = false)
    (hcalling : s.calling = []) (hterminal : (s.read j).1.status.isTerminal) :
    ∃ o queue, Ending s (.read j) o queue ∧ Ended (s.read j).1 o queue ∧
      deliveries (s.read j).2 = [] := by
  have hreads := read_cases s j
  generalize s.read j = p at hreads hterminal
  cases hreads with
  | waits => exact absurd hterminal (by simp [hopen])
  | stops => exact absurd hterminal (by simp [moveReader, mapReader, hopen])
  | hands => exact absurd hterminal (by simp [moveReader, mapReader, mapChild, hopen])
  | kills => exact absurd hterminal (by simp [reap, moveReader, mapReader, mapChild, hopen])
  | collects hreader hexit hplace =>
    exact ⟨_, _, .read hreader hexit (.inl ⟨hplace, rfl⟩),
      ended_finish j hopen hcalling (fits_collected s _) (by simp [collected])⟩
  | reaps hreader hexit houtcome hplace =>
    obtain ⟨hfits, hfailed⟩ := fits_reaped houtcome
    exact ⟨_, _, .read hreader hexit (.inr ⟨_, hplace, houtcome⟩),
      ended_finish j hopen hcalling hfits (by simp [hfailed])⟩

/-- A `start` call ends a session that cannot be spawned. -/
theorem start_ending {s : Session κ} (ticket : Nat) (system : System)
    (hopen : s.status.isTerminal = false) (hcalling : s.calling = [])
    (hterminal : (s.start ticket system).1.status.isTerminal) :
    ∃ o queue, Ending s (.start ticket system) o queue ∧
      Ended (s.start ticket system).1 o queue ∧ deliveries (s.start ticket system).2 = [] := by
  rcases s.start_cases ticket system with ⟨_, h, -⟩ | ⟨hpending, reason, h⟩ | ⟨-, _, _, _, _, h⟩ <;>
    rw [h] at hterminal ⊢
  · exact absurd hterminal (by simp [hopen])
  · exact ⟨_, _, .stranded reason hpending rfl,
      ended_spawnError ticket reason hpending hcalling rfl⟩
  · exact absurd hterminal (by simp [hopen])

/-- An answer of the system ends a session that cannot be spawned. -/
theorem spawnFailed_ending {s : Session κ} (ticket : Nat) (failure : SpawnFailure)
    (hopen : s.status.isTerminal = false) (hcalling : s.calling = [])
    (hterminal : (s.spawnFailed ticket failure).1.status.isTerminal) :
    ∃ o queue, Ending s (.spawnFailed ticket failure) o queue ∧
      Ended (s.spawnFailed ticket failure).1 o queue ∧
      deliveries (s.spawnFailed ticket failure).2 = [] := by
  cases failure with
  | system reason =>
    rcases s.spawnFailed_system_cases ticket reason with h | h <;> rw [h] at hterminal ⊢
    · exact absurd hterminal (by simp [hopen])
    · by_cases hpending : (s.endStart ticket).status = .pending
      · exact ⟨_, _, .stranded reason hpending rfl,
          ended_spawnError ticket reason hpending hcalling rfl⟩
      · rw [spawnError_of_ne_pending hpending] at hterminal
        exact absurd hterminal (by simp [endStart, hopen])
  | refused reason =>
    unfold spawnFailed at hterminal
    split at hterminal <;> exact absurd hterminal (by simp [endStart, hopen])

/-- A session that ends and is not canceled has told nobody on its last step, and those whose turn
comes then have its outcome before them. -/
theorem ending_of_step {s : Session κ} {e : Event κ} (hopen : s.status.isTerminal = false)
    (hcalling : s.calling = []) (hterminal : (s.step e).1.status.isTerminal)
    (hself : (s.step e).1.status ≠ .canceled) :
    ∃ o queue, Ending s e o queue ∧ Ended (s.step e).1 o queue ∧ deliveries (s.step e).2 = [] := by
  have hopen' : ¬ s.status.isTerminal := by simp [hopen]
  -- Three events can end a session other than by cancelation: a start, a failure to spawn and a
  -- read. The others leave an open session open.
  cases e with
  | start ticket system => exact start_ending ticket system hopen hcalling hterminal
  | spawnFailed ticket failure => exact spawnFailed_ending ticket failure hopen hcalling hterminal
  | read j => exact read_ending j hopen hcalling hterminal
  | spawned ticket child =>
    have hhears := spawned_cases s ticket child
    change (s.spawned ticket child).1.status.isTerminal at hterminal
    generalize s.spawned ticket child = p at hhears hterminal
    cases hhears with
    | ignored => exact absurd hterminal hopen'
    | late => exact absurd hterminal hopen'
    | spawned => cases hterminal
  | resume ticket =>
    change (s.resume ticket).1.status.isTerminal at hterminal
    rcases s.resume_cases ticket with h | ⟨_, _, -, -, -, h⟩ <;> rw [h] at hterminal <;>
      exact absurd hterminal hopen'
  | timeUp j =>
    change (s.timeUp j).status.isTerminal at hterminal
    rcases s.timeUp_cases j with h | ⟨_, -, h⟩ <;> rw [h] at hterminal <;>
      exact absurd hterminal hopen'
  | call =>
    change s.callNext.1.status.isTerminal at hterminal
    rw [callNext, hcalling] at hterminal
    exact absurd hterminal hopen'
  | cancel =>
    change s.cancel.1.status ≠ .canceled at hself
    rw [cancel_of_open hopen, release_status] at hself
    exact absurd rfl hself
  | release =>
    change s.release.status.isTerminal at hterminal
    rw [release_status] at hterminal
    exact absurd hterminal hopen'
  | onComplete c =>
    change (s.onComplete c).1.status.isTerminal at hterminal
    unfold onComplete at hterminal
    split_ifs at hterminal
    · exact absurd hterminal hopen'
    · exact absurd hterminal hopen'
    · split at hterminal <;> exact absurd hterminal hopen'
  | abandon ticket => exact absurd hterminal hopen'
  | exit i x => exact absurd hterminal hopen'

/-! ## After the end -/

/-- The event is the turn of the next callback. -/
def Event.isTurn : Event κ → Bool
  | .call => true
  | _ => false

/-- How many turns there are. -/
def turnCount (es : List (Event κ)) : Nat := es.countP Event.isTurn

/-- Whom an event after an end tells what: the next one of those whose turn comes, or one who comes
late to a session that was not released. -/
def hearing (released : Bool) (queue : List κ) (o : Outcome) : Event κ → List (κ × Outcome)
  | .call => queue.head?.toList.map fun c => (c, o)
  | .onComplete c => if released then [] else [(c, o)]
  | _ => []

/-- Whoever hears something after the end hears the outcome. -/
theorem snd_of_mem_hearing {released : Bool} {queue : List κ} {o : Outcome} {e : Event κ}
    {d : κ × Outcome} (h : d ∈ hearing released queue o e) : d.2 = o := by
  unfold hearing at h
  split at h
  · obtain ⟨c, -, rfl⟩ := List.mem_map.1 h
    rfl
  · split_ifs at h
    · cases h
    · rw [List.mem_singleton.1 h]
  · cases h

/-- A session that has ended and is told what it is not concerned with any more. -/
theorem Ended.of_sameAudience {s s' : Session κ} {o : Outcome} {queue : List κ}
    (h : Ended s o queue) (haudience : SameAudience s s') (hstatus : s'.status = s.status)
    (houtcome : s'.outcome = s.outcome) : Ended s' o queue where
  status := hstatus.trans h.status
  terminal := hstatus ▸ h.terminal
  self := hstatus ▸ h.self
  outcome hreleased := houtcome ▸ h.outcome (haudience.released ▸ hreleased)
  calling := haudience.calling.trans h.calling

/-- A release changes neither the end nor whose turn comes. -/
theorem Ended.release {s : Session κ} {o : Outcome} {queue : List κ} (h : Ended s o queue) :
    Ended s.release o queue where
  status := by rw [release_status]; exact h.status
  terminal := by rw [release_status]; exact h.terminal
  self := by rw [release_status]; exact h.self
  outcome hreleased := by
    unfold Session.release at hreleased ⊢
    split_ifs at hreleased with hbefore
    rw [hbefore] at hreleased
    cases hreleased
  calling := by rw [release_calling]; exact h.calling

/-- A callback that comes late changes nothing, and hears the outcome unless the session was
released. -/
theorem Ended.onComplete {s : Session κ} {o : Outcome} {queue : List κ} (h : Ended s o queue)
    (c : κ) :
    (s.onComplete c).1 = s ∧
      deliveries (s.onComplete c).2 = hearing s.released queue o (.onComplete c) := by
  unfold Session.onComplete
  by_cases hreleased : s.released
  · simp [hreleased, hearing, deliveries]
  · rw [Bool.not_eq_true] at hreleased
    simp [hreleased, h.self, h.terminal, h.outcome hreleased, hearing, deliveries]

/-- As long as there are those whose turn comes, a turn is the next step of the session's own. -/
theorem Ended.next?_eq {s : Session κ} {o : Outcome} {queue : List κ} (h : Ended s o queue)
    (hqueue : queue ≠ []) : s.next? = some .call := by
  rw [next?, h.calling]
  simp [hqueue]

/-- After its end, a session tells those whose turn comes, one at each turn, and those who come
late, at once. -/
theorem Ended.step {s : Session κ} {o : Outcome} {queue : List κ} (h : Ended s o queue)
    (hsole : Sole s) (e : Event κ) :
    Ended (s.step e).1 o (queue.drop (if e.isTurn then 1 else 0)) ∧
      deliveries (s.step e).2 = hearing s.released queue o e := by
  by_cases hturn : e = .call
  · subst hturn
    show Ended s.callNext.1 o (queue.drop 1) ∧ deliveries s.callNext.2 = _
    rw [callNext, h.calling]
    cases queue with
    | nil => exact ⟨h, rfl⟩
    | cons c queue => exact ⟨⟨h.status, h.terminal, h.self, h.outcome, rfl⟩, rfl⟩
  · -- Any other event leaves the queue alone.
    have hnot : e.isTurn = false := by
      cases e with
      | call => exact absurd rfl hturn
      | _ => rfl
    rw [hnot]
    by_cases hlate : ∃ c, e = .onComplete c
    · obtain ⟨c, rfl⟩ := hlate
      obtain ⟨hkept, htold⟩ := h.onComplete c
      exact ⟨hkept.symm ▸ h, htold⟩
    · have hnone : hearing s.released queue o e = [] := by
        cases e with
        | call => exact absurd rfl hturn
        | onComplete c => exact absurd ⟨c, rfl⟩ hlate
        | _ => rfl
      rw [hnone]
      -- A session that has ended can neither begin nor end again.
      have hclosed : ¬ s.status.isTerminal = false := by simp [h.terminal]
      have hpending : s.status ≠ .pending := fun hpending => hclosed (by rw [hpending]; rfl)
      have hturnover := s.step_turnover e
      generalize s.step e = p at hturnover
      cases hturnover with
      | keeps haudience hgrip hstatus houtcome hchildren hprivate =>
        exact ⟨h.of_sameAudience haudience hstatus houtcome, deliveries_of_private hprivate⟩
      | late child haudience hgrip hcanceled => exact absurd hcanceled h.self
      | begins child hgets => exact absurd (hsole.pending_of_gets hgets) hpending
      | fails error hbefore => exact absurd hbefore hpending
      | ends he hopen => exact absurd hopen hclosed
      | registers he => exact absurd ⟨_, he⟩ hlate
      | answers he => exact absurd ⟨_, he⟩ hlate
      | calls he => exact absurd he hturn
      | cancels he hopen => exact absurd hopen hclosed
      | releases he => exact ⟨h.release, rfl⟩

/-- After an end one callback is told at each turn, and all hear the outcome. -/
theorem Ended.run {s : Session κ} {o : Outcome} {queue : List κ} (h : Ended s o queue)
    (hsole : Sole s) {es : List (Event κ)}
    (hes : Machine.Guarded Session.step (fun s e => ¬ Overlaps s e) s es) :
    Ended (Machine.run Session.step s es).1 o (queue.drop (turnCount es)) ∧
      ∀ d ∈ deliveries (Machine.run Session.step s es).2, d.2 = o := by
  induction es generalizing s queue with
  | nil => exact ⟨h, by simp [deliveries]⟩
  | cons e es ih =>
    obtain ⟨hnow, hrest⟩ := Machine.guarded_cons.1 hes
    obtain ⟨hended, htold⟩ := h.step hsole e
    obtain ⟨hdone, hall⟩ := ih hended (hsole.step e hnow) hrest
    rw [List.drop_drop, Nat.add_comm] at hdone
    refine ⟨?_, fun d hd => ?_⟩
    · rwa [turnCount, List.countP_cons]
    · rw [Machine.run_cons, deliveries_append, List.mem_append] at hd
      rcases hd with hd | hd
      · exact snd_of_mem_hearing (htold ▸ hd)
      · exact hall d hd

/-! ## Callbacks that are never called -/

/-- The event leaves callbacks waiting for good: the session fails before it has a process. -/
def Strands (s : Session κ) (e : Event κ) : Prop :=
  s.status = .pending ∧ (s.step e).1.status = .failed ∧ s.callbacks ≠ []

/-- No callback waits for an end that has been. -/
def NoneLeft (s : Session κ) : Prop := s.status.isTerminal → s.callbacks = []

/-- Before it has a process, a session has no reader. -/
theorem Sole.read_of_pending {s : Session κ} (h : Sole s) (hpending : s.status = .pending)
    (j : Nat) : s.read j = (s, []) := by
  have hchildren := h.started.pending (Nat.le_refl 1) hpending
  have hreaders : s.readers = [] :=
    List.eq_nil_of_length_eq_zero (Nat.le_zero.1 (by simpa [hchildren] using h.started.readers_le))
  rw [read, hreaders, List.getElem?_nil]

/-- As long as a session has not ended, callbacks may wait. -/
theorem noneLeft_of_open {s : Session κ} (h : s.status.isTerminal = false) : NoneLeft s :=
  fun hterminal => absurd hterminal (by simp [h])

/-- No callback waits in vain after an event exactly if none did before and none is stranded. -/
theorem noneLeft_step_iff {s : Session κ} (hsole : Sole s) {e : Event κ}
    (he : e.withdraws = false) :
    NoneLeft (s.step e).1 ↔ NoneLeft s ∧ ¬ Strands s e := by
  -- Where the session does not fail from its first state, nothing is stranded.
  have hkept (h : s.status = .pending → (s.step e).1.status ≠ .failed)
      (hiff : NoneLeft (s.step e).1 ↔ NoneLeft s) :
      NoneLeft (s.step e).1 ↔ NoneLeft s ∧ ¬ Strands s e :=
    hiff.trans (and_iff_left fun hstrands => h hstrands.1 hstrands.2.1).symm
  have hread : ∀ j, e = .read j → s.status = .pending → (s.step e).1 = s := by
    rintro j rfl hpending
    exact congrArg Prod.fst (hsole.read_of_pending hpending j)
  unfold Strands at hkept ⊢
  have hturnover := s.step_turnover e
  generalize s.step e = p at hturnover hread hkept
  cases hturnover with
  | keeps haudience hgrip hstatus =>
    refine hkept (fun hpending hfailed => ?_)
      (by rw [NoneLeft, hstatus, haudience.callbacks]; rfl)
    rw [hstatus, hpending] at hfailed
    cases hfailed
  | late child haudience hgrip hcanceled hstatus =>
    refine hkept (fun hpending _ => ?_) (by rw [NoneLeft, hstatus, haudience.callbacks]; rfl)
    rw [hcanceled] at hpending
    cases hpending
  | begins child hgets haudience hstatus =>
    refine hkept (fun _ hfailed => ?_) (iff_of_true ?_ ?_)
    · rw [hstatus] at hfailed
      cases hfailed
    · exact noneLeft_of_open (by rw [hstatus]; rfl)
    · exact noneLeft_of_open (by rw [hsole.pending_of_gets hgets]; rfl)
  | fails error hpending haudience hgrip hstatus =>
    have hbefore : NoneLeft s := noneLeft_of_open (by rw [hpending]; rfl)
    rw [NoneLeft, hstatus, haudience.callbacks]
    simp [hbefore, hpending, Status.isTerminal]
  | ends hj hopen hfits hself hgrip hreleased hstatus houtcome hcallbacks =>
    refine hkept (fun hpending hfailed => ?_)
      (iff_of_true (fun _ => hcallbacks) (noneLeft_of_open hopen))
    rw [hread _ hj hpending, hpending] at hfailed
    cases hfailed
  | registers hc hreleased hopen =>
    refine hkept (fun hpending hfailed => ?_) ?_
    · rw [hpending] at hfailed
      cases hfailed
    · -- A session without an outcome has not ended.
      have hopen : s.status.isTerminal = false := by
        rcases hopen with hopen | hnone
        · exact hopen
        · rw [← hsole.told.outcome, hnone]
          rfl
      exact iff_of_true (noneLeft_of_open hopen) (noneLeft_of_open hopen)
  | answers hc hreleased hterminal =>
    refine hkept (fun hpending _ => ?_) Iff.rfl
    rw [hpending] at hterminal
    cases hterminal
  | calls =>
    refine hkept (fun hpending hfailed => ?_) Iff.rfl
    rw [hpending] at hfailed
    cases hfailed
  | cancels hcancel => exact absurd he (by simp [hcancel, Event.withdraws])
  | releases hrelease => exact absurd he (by simp [hrelease, Event.withdraws])

/-- Of a session that is neither canceled nor released, no callback is left waiting exactly if none
was stranded. -/
theorem noneLeft_run_iff {s : Session κ} (hsole : Sole s) (hnone : NoneLeft s) {es : List (Event κ)}
    (hes : Machine.Guarded Session.step (fun s e => ¬ Overlaps s e) s es)
    (hstay : ∀ e ∈ es, e.withdraws = false) :
    NoneLeft (Machine.run Session.step s es).1
      ↔ Machine.Guarded Session.step (fun s e => ¬ Strands s e) s es := by
  have hstays : Machine.Guarded Session.step (fun _ e => Event.withdraws e = false) s es :=
    Machine.guarded_of_forall s hstay
  rw [Machine.run_iff_guarded (P := NoneLeft) (fun _ e hsole hadmits => hsole.step e hadmits.1)
    (fun _ e hsole hadmits => noneLeft_step_iff hsole hadmits.2) hsole (hes.and hstays),
    and_iff_right hnone]

/-- Only where callbacks are stranded do some who wait for the end not get their turn. -/
theorem Ending.queue_eq_iff {s : Session κ} {e : Event κ} {o : Outcome} {queue : List κ}
    (h : Ending s e o queue) (hsole : Sole s) (hended : Ended (s.step e).1 o queue) :
    queue = s.callbacks ↔ ¬ Strands s e := by
  cases h with
  | read =>
    refine iff_of_true rfl ?_
    rintro ⟨hpending, hfailed, -⟩
    change (s.read _).1.status = .failed at hfailed
    rw [hsole.read_of_pending hpending, hpending] at hfailed
    cases hfailed
  | stranded reason hpending he =>
    have hstrands : Strands s e ↔ s.callbacks ≠ [] :=
      ⟨fun h => h.2.2, fun h => ⟨hpending, hended.status, h⟩⟩
    rw [hstrands, not_not, eq_comm]

/-- Up to its end by itself a session tells nobody anything. -/
theorem Sole.ending_run {s : Session κ} (hsole : Sole s) (hcalling : s.calling = [])
    {first : List (Event κ)} {e : Event κ}
    (hes : Machine.Guarded Session.step (fun s e => ¬ Overlaps s e) s (first ++ [e]))
    (hopen : (Machine.run Session.step s first).1.status.isTerminal = false)
    (hterminal : (Machine.run Session.step s (first ++ [e])).1.status.isTerminal)
    (hself : (Machine.run Session.step s (first ++ [e])).1.status ≠ .canceled) :
    deliveries (Machine.run Session.step s (first ++ [e])).2 = [] ∧
      ∃ o queue, Ending (Machine.run Session.step s first).1 e o queue ∧
        Ended (Machine.run Session.step s (first ++ [e])).1 o queue := by
  obtain ⟨hfirst, -⟩ := Machine.guarded_append.1 hes
  obtain ⟨hquiet, hnobody⟩ := unheard_run hsole hcalling hfirst (.inl hopen)
  simp only [Machine.run_concat] at hterminal hself ⊢
  obtain ⟨o, queue, hending, hended, hnone⟩ := ending_of_step hopen hquiet hterminal hself
  exact ⟨by rw [deliveries_append, hnobody, hnone, List.append_nil], o, queue, hending, hended⟩

/-- All who are told of an end without a cancelation hear the outcome that the session has. -/
theorem Sole.exists_outcome {s : Session κ} (hsole : Sole s) (hopen : s.status.isTerminal = false)
    (hcalling : s.calling = []) {es : List (Event κ)}
    (hes : Machine.Guarded Session.step (fun s e => ¬ Overlaps s e) s es)
    (hterminal : (Machine.run Session.step s es).1.status.isTerminal)
    (hself : (Machine.run Session.step s es).1.status ≠ .canceled) :
    ∃ o, ((Machine.run Session.step s es).1.released = false →
        (Machine.run Session.step s es).1.outcome = some o) ∧
      ∀ d ∈ deliveries (Machine.run Session.step s es).2, d.2 = o := by
  obtain ⟨first, e, rest, rfl, hbefore, hafter⟩ :=
    Machine.exists_event_of_run (P := fun t : Session κ => t.status.isTerminal) (by simp [hopen])
      hterminal
  rw [Bool.not_eq_true] at hbefore
  rw [List.append_cons] at hes hself ⊢
  obtain ⟨hfirst, hrest⟩ := Machine.guarded_append.1 hes
  rw [Machine.run_append] at hself ⊢
  have hselfNow := fun hcanceled => hself (canceled_run hcanceled rest)
  rw [← congrArg Prod.fst (Machine.run_concat s first e)] at hafter
  obtain ⟨hnobody, o, queue, -, hended⟩ := hsole.ending_run hcalling hfirst hbefore hafter hselfNow
  obtain ⟨hdone, hall⟩ := hended.run (hsole.run hfirst) hrest
  refine ⟨o, hdone.outcome, fun d hd => hall d ?_⟩
  rwa [deliveries_append, hnobody, List.nil_append] at hd

/-! ## Sessions that are started once -/

/-- Once a session that is started once, and neither canceled nor released, has ended and all turns
are over, every callback that was called received its outcome, and those that were called and those
left waiting are the ones that were registered, each once. None is left waiting exactly if none was
stranded. -/
theorem all_told_unless_stranded (command : List Text) (text : Text) (options : SessionOptions)
    (checkId : Option Int) (es : List (Event κ)) (honce : startCount es ≤ 1)
    (hstay : ∀ e ∈ es, e.withdraws = false) :
    let fresh : Session κ := { command, text, options, checkId }
    let s := (Machine.run Session.step fresh es).1
    let effects := (Machine.run Session.step fresh es).2
    s.status.isTerminal → s.calling = [] →
      (∀ d ∈ deliveries effects, s.outcome = some d.2) ∧
      (callees effects ++ s.callbacks).Perm (registered es) ∧
      ((callees effects).Perm (registered es)
        ↔ Machine.Guarded Session.step (fun s e => ¬ Strands s e) fresh es) := by
  intro fresh s effects hterminal hcalling
  have hsole : Sole fresh := sole_fresh command text options checkId
  have hsingle := guarded_of_startCount command text options checkId honce
  have hattended : s.Attended := Attended.run ⟨rfl, by simp [fresh]⟩ hstay
  have haccount : (callees effects ++ s.callbacks).Perm (registered es) := by
    obtain ⟨lost, heq, hnone⟩ := fresh.exists_lost_run [] es
    rw [hnone hstay ⟨rfl, by simp [fresh]⟩, add_zero, List.nil_append] at heq
    have hbefore : fresh.audience [] = 0 := rfl
    rw [hbefore, zero_add, audience, hcalling] at heq
    simpa using heq
  obtain ⟨o, houtcome, hall⟩ := hsole.exists_outcome rfl rfl hsingle hterminal hattended.2
  refine ⟨fun d hd => ?_, haccount, ?_⟩
  · rw [hall d hd]
    exact houtcome hattended.1
  · rw [← noneLeft_run_iff hsole (noneLeft_of_open rfl) hsingle hstay]
    constructor
    · -- Where all were called, the account leaves nobody waiting.
      intro hcalled _
      have hlength := haccount.length_eq.trans hcalled.length_eq.symm
      rw [List.length_append] at hlength
      exact List.eq_nil_of_length_eq_zero (Nat.add_eq_left.1 hlength)
    · intro hnone
      have hcallbacks : s.callbacks = [] := hnone hterminal
      rwa [hcallbacks, List.append_nil] at haccount

/-- Two callbacks wait for the end of the process, and a third one comes after it. -/
def heardOut : List (Event Nat) :=
  [.onComplete 1, .onComplete 2, .start 1 anySystem, .spawned 1 { pid := 7 }, .read 0,
    .exit 0 ⟨0, [], []⟩, .read 0, .call, .call, .onComplete 3]

/-- Callbacks that came before the end and one that came after it are all told. -/
theorem early_and_late_callbacks_told :
    let fresh : Session Nat := { command := ["lint"], text := [], options := {}, checkId := none }
    let s := (Machine.run Session.step fresh heardOut).1
    let effects := (Machine.run Session.step fresh heardOut).2
    startCount heardOut ≤ 1 ∧ (∀ e ∈ heardOut, e.withdraws = false) ∧ s.status.isTerminal ∧
      s.calling = [] ∧ (∀ d ∈ deliveries effects, s.outcome = some d.2) ∧
      (callees effects).Perm [1, 2, 3] := by
  have honce : startCount heardOut ≤ 1 := by decide
  have hstay : ∀ e ∈ heardOut, e.withdraws = false := by simp [heardOut, Event.withdraws]
  have hunstranded := (noneLeft_run_iff (sole_fresh ["lint"] [] {} none) (noneLeft_of_open rfl)
    (guarded_of_startCount ["lint"] [] {} none honce) hstay).1 fun _ => rfl
  obtain ⟨hall, -, hiff⟩ :=
    all_told_unless_stranded ["lint"] [] {} none heardOut honce hstay rfl rfl
  exact ⟨honce, hstay, rfl, rfl, hall, hiff.2 hunstranded⟩

/-- A callback waits, and the program cannot be run. -/
def strandedOnce : List (Event Unit) :=
  [.onComplete (), .start 1 anySystem, .spawnFailed 1 (.system "Permission denied")]

/-- The session has failed, and nobody is told. -/
theorem waiting_callback_not_told_of_failed_start :
    let fresh : Session Unit := { command := ["lint"], text := [], options := {}, checkId := none }
    let s := (Machine.run Session.step fresh strandedOnce).1
    startCount strandedOnce ≤ 1 ∧ (∀ e ∈ strandedOnce, e.withdraws = false) ∧
      s.status = .failed ∧ s.calling = [] ∧ registered strandedOnce = [()] ∧
      callees (Machine.run Session.step fresh strandedOnce).2 = [] := by
  exact ⟨by decide, by simp [strandedOnce, Event.withdraws], rfl, rfl, rfl, rfl⟩

end Session

end LiveLint
