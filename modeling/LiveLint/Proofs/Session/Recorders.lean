import LiveLint.Simulation.Sessions
import LiveLint.Proofs.Session.Delivery

/-!
# What recorders hear

Recorders are callbacks that note what they receive and may raise an error. In an arena with a
single session nothing but the session decides what they hear (`step_alone`): an error that one
raises is logged, and the session and those whose turn is next go on as if it had not been raised. A
recorder that calls the session back does so by an event between two turns.
-/

namespace LiveLint

/-- What a recorder is told, under its name. -/
def Happening.heard? : Happening → Option (Text × Outcome)
  | .told (.outcome name o) => some (name, o)
  | _ => none

/-- What recorders are told, in order. -/
def heard (happenings : List Happening) : List (Text × Outcome) :=
  happenings.filterMap Happening.heard?

/-- An error goes to whoever caused the event. -/
def Happening.isEscape : Happening → Bool
  | .escaped _ => true
  | _ => false

/-- What a recorder notes of a call. -/
def Recorder.notes (d : Recorder × Outcome) : Text × Outcome := (d.1.name, d.2)

/-- Recorders hear both parts. -/
theorem heard_append (first rest : List Happening) :
    heard (first ++ rest) = heard first ++ heard rest := List.filterMap_append

namespace SessionArena

/-- An arena with a single session. -/
def alone (s : Session Recorder) : SessionArena := { sessions := [s] }

/-- The effects of a session alone are dealt with one after the other, and no error escapes. -/
theorem absorb_cons_alone (s : Session Recorder) (f : Session.Effect Recorder)
    (rest : List (Session.Effect Recorder)) :
    ∃ now, (alone s).absorb 0 (f :: rest)
        = (((alone s).absorb 0 rest).1, now ++ ((alone s).absorb 0 rest).2) ∧
      heard now = (Session.deliveries [f]).map Recorder.notes ∧
      ∀ h ∈ now, h.isEscape = false := by
  cases f with
  | log line => exact ⟨_, rfl, rfl, by simp [Happening.isEscape]⟩
  | spawn ticket arguments directory environment =>
    exact ⟨_, rfl, rfl, by simp [Happening.isEscape]⟩
  | arm reader limit => exact ⟨_, rfl, rfl, by simp [Happening.isEscape]⟩
  | called c o =>
    -- An error that the recorder raises is logged.
    refine ⟨_, rfl, ?_, ?_⟩ <;> cases c.raises <;>
      simp [heard, Happening.heard?, Session.deliveries, Recorder.notes, Happening.isEscape, alone,
        session?]
  | returned ticket result =>
    cases result with
    | ok => exact ⟨_, rfl, rfl, by simp [Happening.isEscape]⟩
    | error f => exact ⟨_, rfl, rfl, by simp [Happening.isEscape]⟩
  | canceled b => exact ⟨_, rfl, rfl, by simp⟩
  | refused e => exact ⟨_, rfl, rfl, by simp⟩

/-- What the session does is all that is heard, and changes nothing else. -/
theorem absorb_alone (s : Session Recorder) (effects : List (Session.Effect Recorder)) :
    ((alone s).absorb 0 effects).1 = alone s ∧
      heard ((alone s).absorb 0 effects).2 = (Session.deliveries effects).map Recorder.notes ∧
      ∀ h ∈ ((alone s).absorb 0 effects).2, h.isEscape = false := by
  induction effects with
  | nil => exact ⟨rfl, rfl, by simp [absorb]⟩
  | cons f effects ih =>
    obtain ⟨harena, hheard, hsafe⟩ := ih
    obtain ⟨now, heq, hnow, hsafeNow⟩ := absorb_cons_alone s f effects
    rw [heq]
    refine ⟨harena, ?_, fun h hmem => ?_⟩
    · rw [heard_append, hnow, hheard, ← List.map_append, ← Session.deliveries_append,
        List.singleton_append]
    · exact (List.mem_append.1 hmem).elim (hsafeNow h) (hsafe h)

/-- A step of an arena with one session is a step of the session, and recorders hear what it
delivers. -/
theorem step_alone (s : Session Recorder) (e : Session.Event Recorder) :
    ((alone s).step 0 e).1 = alone (s.step e).1 ∧
      heard ((alone s).step 0 e).2 = (Session.deliveries (s.step e).2).map Recorder.notes ∧
      ∀ h ∈ ((alone s).step 0 e).2, h.isEscape = false :=
  absorb_alone (s.step e).1 (s.step e).2

/-- A run of an arena with one session is a run of the session, and recorders hear what it
delivers. -/
theorem run_alone (s : Session Recorder) (es : List (Session.Event Recorder)) :
    let run := Machine.run (fun (a : SessionArena) e => a.step 0 e) (alone s) es
    run.1 = alone (Machine.run Session.step s es).1 ∧
      heard run.2 = (Session.deliveries (Machine.run Session.step s es).2).map Recorder.notes ∧
      ∀ h ∈ run.2, h.isEscape = false := by
  induction es generalizing s with
  | nil => exact ⟨rfl, rfl, by simp⟩
  | cons e es ih =>
    obtain ⟨harena, hheard, hsafe⟩ := step_alone s e
    obtain ⟨hlast, hmore, hrest⟩ := ih (s.step e).1
    simp only [Machine.run_cons, harena]
    refine ⟨hlast, ?_, fun h hmem => ?_⟩
    · rw [heard_append, hheard, hmore, Session.deliveries_append, List.map_append]
    · exact (List.mem_append.1 hmem).elim (hsafe h) (hrest h)

/-- Whatever recorders do when they are called: each registration is heard of once at most and no
error escapes; if the session is canceled, nobody hears of it. When it has ended by itself, with an
outcome that is made of the exit of its process, those whose turn comes hear that outcome one after
the other and in the order in which they were registered, and those who come later hear it at once,
unless the session was released. All who wait for the end get their turn exactly if they are not
stranded. -/
theorem recorders_told_once_alike_and_never_after_cancel (command : List Text) (text : Text)
    (options : SessionOptions) (checkId : Option Int) (es : List (Session.Event Recorder)) :
    let fresh : Session Recorder := { command, text, options, checkId }
    let after := fun es => (Machine.run Session.step fresh es).1
    let arena := fun es => Machine.run (fun (a : SessionArena) e => a.step 0 e) (alone fresh) es
    (arena es).1 = alone (after es) ∧
    (∀ h ∈ (arena es).2, h.isEscape = false) ∧
    ((heard (arena es).2).map Prod.fst).Subperm ((Session.registered es).map Recorder.name) ∧
    (Machine.Guarded Session.step (fun s e => ¬ Session.Overlaps s e) fresh es →
      ((after es).status = .canceled → heard (arena es).2 = []) ∧
      ∀ first e rest, es = first ++ e :: rest →
        (after first).status.isTerminal = false →
        (after (first ++ [e])).status.isTerminal →
        (after (first ++ [e])).status ≠ .canceled →
        heard (arena (first ++ [e])).2 = [] ∧
        ∃ o queue, Session.Ending (after first) e o queue ∧
          (queue = (after first).callbacks ↔ ¬ Session.Strands (after first) e) ∧
          ∀ mid late, rest = mid ++ late →
            (queue.drop (Session.turnCount mid) ≠ [] →
              (after (first ++ e :: mid)).next? = some .call) ∧
            ∀ next, heard ((arena (first ++ e :: mid)).1.step 0 next).2
              = (Session.hearing (after (first ++ e :: mid)).released
                  (queue.drop (Session.turnCount mid)) o next).map Recorder.notes) := by
  intro fresh after arena
  have hsole : Session.Sole fresh := Session.sole_fresh command text options checkId
  have harena (es) : (arena es).1 = alone (after es) := (run_alone fresh es).1
  have hheard (es) : heard (arena es).2
      = (Session.deliveries (Machine.run Session.step fresh es).2).map Recorder.notes :=
    (run_alone fresh es).2.1
  -- What is heard in the arena is what the session delivers, so the rest is about deliveries.
  refine ⟨harena es, (run_alone fresh es).2.2, ?_, fun hes => ⟨fun hcanceled => ?_, ?_⟩⟩
  · have hnames : (heard (arena es).2).map Prod.fst
        = (Session.callees (Machine.run Session.step fresh es).2).map Recorder.name := by
      rw [hheard, Session.callees, List.map_map, List.map_map]
      rfl
    have honce := Multiset.map_le_map (f := Recorder.name)
      (Session.callees_le_registered (s := fresh) rfl rfl es)
    rw [hnames]
    exact honce
  · rw [hheard, (Session.unheard_run hsole rfl hes (.inr hcanceled)).2, List.map_nil]
  · rintro first e rest rfl hopen hterminal hself
    rw [List.append_cons] at hes
    obtain ⟨hfirst, hrest⟩ := Machine.guarded_append.1 hes
    obtain ⟨hnobody, o, queue, hending, hended⟩ :=
      hsole.ending_run rfl hfirst hopen hterminal hself
    refine ⟨by rw [hheard, hnobody, List.map_nil], o, queue, hending, ?_, ?_⟩
    · rw [Machine.run_concat] at hended
      exact hending.queue_eq_iff (hsole.run (Machine.guarded_append.1 hfirst).1) hended
    · rintro mid late rfl
      have hsoleNow := hsole.run hfirst
      obtain ⟨hmid, -⟩ := Machine.guarded_append.1 hrest
      obtain ⟨hlater, -⟩ := hended.run hsoleNow hmid
      have hafter : after (first ++ e :: mid)
          = (Machine.run Session.step (after (first ++ [e])) mid).1 := by
        show (Machine.run Session.step fresh _).1 = _
        rw [List.append_cons, Machine.run_append]
      rw [harena, hafter]
      refine ⟨hlater.next?_eq, fun next => ?_⟩
      rw [(step_alone _ next).2.1]
      exact congrArg (List.map Recorder.notes) (hlater.step (hsoleNow.run hmid) next).2

/-- The first of two recorders raises an error and releases the session that calls it. -/
def raisedAndReleased : List (Session.Event Recorder) :=
  [.onComplete ⟨"a", true⟩, .onComplete ⟨"b", false⟩, .start 1 Session.anySystem,
    .spawned 1 { pid := 7 }, .read 0, .exit 0 ⟨1, [0x5B], []⟩, .read 0, .call, .release]

/-- The second one hears all of the output that the session no longer holds. -/
theorem output_heard_after_error_and_release :
    let fresh : Session Recorder :=
      { command := ["lint"], text := [], options := {}, checkId := none }
    let after := fun es => (Machine.run Session.step fresh es).1
    let arena := fun es => Machine.run (fun (a : SessionArena) e => a.step 0 e) (alone fresh) es
    Machine.Guarded Session.step (fun s e => ¬ Session.Overlaps s e) fresh raisedAndReleased ∧
      (after raisedAndReleased).outcome.map Outcome.stdout = some [] ∧
      ∃ o : Outcome, o.stdout = "[" ∧
        heard ((arena raisedAndReleased).1.step 0 .call).2 = [(("b" : Text), o)] := by
  intro fresh after arena
  have hsingle : Machine.Guarded Session.step (fun s e => ¬ Session.Overlaps s e) fresh
      raisedAndReleased := Session.guarded_of_startCount ["lint"] [] {} none (by decide)
  obtain ⟨-, -, -, hends⟩ :=
    recorders_told_once_alike_and_never_after_cancel ["lint"] [] {} none raisedAndReleased
  obtain ⟨-, hend⟩ := hends hsingle
  obtain ⟨-, o, queue, hending, hqueue, hhears⟩ :=
    hend (raisedAndReleased.take 6) (.read 0) [.call, .release] rfl rfl rfl (by decide)
  obtain ⟨-, hheard⟩ := hhears [.call, .release] [] rfl
  have hall := hqueue.2 fun h => absurd h.1 (by decide)
  refine ⟨hsingle, by decide +kernel, o, ?_, ?_⟩
  · cases hending with
    | read hreader hexit houtcome =>
      cases hreader
      cases hexit
      rcases houtcome with ⟨-, rfl⟩ | ⟨_, hplace, -⟩
      · decide +kernel
      · cases hplace
    | stranded reason hpending => cases hpending
  · rw [hall] at hheard
    exact hheard .call

/-- Two recorders wait for a session whose program is not found, and a third one comes later. -/
def strandedTwice : List (Session.Event Recorder) :=
  [.onComplete ⟨"a", false⟩, .onComplete ⟨"b", false⟩,
    .start 1 { find := fun _ => none, environment := [] }, .onComplete ⟨"c", false⟩]

/-- The session ends with an outcome that the third one hears, and the other two never do. -/
theorem waiting_recorders_not_told :
    let fresh : Session Recorder :=
      { command := ["lint"], text := [], options := {}, checkId := none }
    let after := fun es => (Machine.run Session.step fresh es).1
    let arena := fun es => Machine.run (fun (a : SessionArena) e => a.step 0 e) (alone fresh) es
    Machine.Guarded Session.step (fun s e => ¬ Session.Overlaps s e) fresh strandedTwice ∧
      (after strandedTwice).status = .failed ∧ (after strandedTwice).next?.isNone ∧
      (heard (arena strandedTwice).2).map Prod.fst = ["c"] := by
  refine ⟨Session.guarded_of_startCount ["lint"] [] {} none (by decide), rfl, rfl, rfl⟩

end SessionArena

end LiveLint
