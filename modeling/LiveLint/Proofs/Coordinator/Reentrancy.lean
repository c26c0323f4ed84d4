import Mathlib.Data.List.Basic
import Mathlib.Tactic.Common
import LiveLint.Coordinator.Basic
import LiveLint.Machine

/-!
# Who may speak, when anybody may call back

A coordinator calls sessions and hosts, and these may call it back before they return. An
`Execution` keeps what is left to do of all calls under way, the innermost call first, so that every
nesting of calls is a list of `Move`s. Nothing is assumed of sessions: any outcome is delivered for
any check at any time. A host may cancel and request whenever it runs, which is between two calls
and when it is told something.

The argument is an account. For each check, the answers that were given, the answers that a call
under way has still to give and the right to an answer that lies in the slot are one at most
(`step_outstanding`): a right leaves the slot before the answer is due, and nobody but an accepted
request gets a new one. While an answer is due only sessions run (`Guarded`), so that a host that
withdraws a check finds no answer to it on its way.
-/

namespace LiveLint

namespace Coordinator

variable {η : Type}

/-! ## Executions -/

/-- What is left to do of the calls under way, or somebody who was called and has not returned. -/
inductive Duty (η : Type) where
  /-- The coordinator is to do this. -/
  | effect (e : Effect η)
  /-- A request that has given up the check before it accepts its own. -/
  | accept (text : Text) (host : η)
  /-- A session runs. -/
  | session
  /-- A host runs. -/
  | host

/-- A coordinator in the middle of calls. -/
structure Execution (η : Type) where
  coordinator : Coordinator η
  /-- What is left to do, the innermost call first. -/
  duties : List (Duty η) := []

/-- What happens next in an execution. -/
inductive Move (η : Type) where
  /-- A check of a text is requested. -/
  | request (text : Text) (host : η)
  /-- The check under way is canceled. -/
  | cancel
  /-- The settings for later checks are changed. -/
  | configure (s : Settings)
  /-- The session of a check delivers an outcome. -/
  | deliver (id : Nat) (o : Outcome)
  /-- The session of a check turns out not to start. -/
  | spawnFailed (id : Nat) (e : LintError)
  /-- The coordinator does what is next, or whoever was called returns. -/
  | proceed

/-- A host withdraws the check under way, for good or for a new one. -/
def Move.withdraws : Move η → Bool
  | .request .. | .cancel => true
  | _ => false

/-- The host that is told the answer to a check. -/
def Effect.addressee? : Effect η → Option (Nat × η)
  | .report i host _ | .failure i host _ => some (i, host)
  | _ => none

/-- The effect tells a host the answer to a check. -/
def Effect.answers (id : Nat) (e : Effect η) : Bool := e.addressee?.any fun a => a.1 == id

/-- Whom the coordinator calls by an effect. -/
def Effect.callee : Effect η → List (Duty η)
  | .dismiss _ | .release _ | .start .. => [.session]
  | .report .. | .failure .. => [.host]
  | .log _ | .raise _ => []

/-- How often a check was answered. -/
def answerCount (id : Nat) (effects : List (Effect η)) : Nat := effects.countP (Effect.answers id)

@[simp] theorem answerCount_nil (id : Nat) : answerCount id ([] : List (Effect η)) = 0 := rfl

@[simp] theorem answerCount_append (id : Nat) (first rest : List (Effect η)) :
    answerCount id (first ++ rest) = answerCount id first + answerCount id rest :=
  List.countP_append

namespace Execution

/-- An execution of a new coordinator. -/
def opened (settings : Settings) (parser : OutputParser) : Execution η :=
  { coordinator := { settings, parser } }

/-- Hosts can call: a host runs, or no call is under way. -/
def hostRuns (x : Execution η) : Bool :=
  match x.duties with
  | [] | .host :: _ => true
  | _ => false

/-- The coordinator is called; what is left to do then comes before `rest`. -/
def enter (x : Execution η) (e : Event η) (rest : List (Duty η)) : Execution η :=
  { coordinator := (x.coordinator.step e).1
    duties := (x.coordinator.step e).2.map .effect ++ rest }

/-- One move, and what the coordinator does by it. A host that does not run makes no move. -/
def step (x : Execution η) : Move η → Execution η × List (Effect η)
  | .request text host =>
    (if x.hostRuns then x.enter .supersede (.accept text host :: x.duties) else x, [])
  | .cancel => (if x.hostRuns then x.enter .supersede x.duties else x, [])
  | .configure s => (x.enter (.configure s) x.duties, [])
  | .deliver id o => (x.enter (.deliver id o) x.duties, [])
  | .spawnFailed id e => (x.enter (.spawnFailed id e) x.duties, [])
  | .proceed =>
    match x.duties with
    | [] => (x, [])
    | .effect e :: rest => ({ x with duties := e.callee ++ rest }, [e])
    | .accept text host :: rest => (x.enter (.accept text host) rest, [])
    | .session :: rest | .host :: rest => ({ x with duties := rest }, [])

end Execution

/-! ## What a coordinator does about an outcome

Whether a session delivers an outcome or turns out not to start, the coordinator either leaves the
slot alone and tells nobody, or empties the slot and speaks last.
-/

/-- The effect tells no host anything, and calls nobody but a session. -/
def Effect.isQuiet : Effect η → Bool
  | .log _ | .release _ => true
  | _ => false

/-- What comes of an outcome, or of a failure to start, that arrives for a check. -/
inductive Settles (c : Coordinator η) (id : Nat) : Coordinator η × List (Effect η) → Prop
  | ignored {effects : List (Effect η)} (hquiet : ∀ e ∈ effects, e.isQuiet) :
    Settles c id (c, effects)
  | answered {r : Request η} {quiet : List (Effect η)} {last : Effect η}
      (hslot : c.slot = some id) (hrequest : c.request? id = some r)
      (hquiet : ∀ e ∈ quiet, e.isQuiet) (hlast : last.addressee? = some (id, r.host)) :
    Settles c id ({ c with slot := none }, quiet ++ [last])
  | broken {quiet : List (Effect η)} (f : Fault) (hslot : c.slot = some id)
      (hquiet : ∀ e ∈ quiet, e.isQuiet) :
    Settles c id ({ c with slot := none }, quiet ++ [.raise f])

/-- Judging an outcome begins with quiet effects: the session is released and something is
logged. -/
private theorem isQuiet_of_mem_judging {id : Nat} {o : Outcome} {e : Effect η}
    (h : e ∈ .release id :: judgeLog o) : e.isQuiet := by
  rcases List.mem_cons.1 h with rfl | h
  · rfl
  · unfold judgeLog at h
    split at h
    · obtain ⟨line, -, rfl⟩ := List.mem_map.1 h
      rfl
    · cases h

/-- A delivered outcome is ignored, or it empties the slot and is answered last. -/
theorem deliver_settles (c : Coordinator η) (id : Nat) (o : Outcome) :
    Settles c id (c.deliver id o) := by
  unfold deliver
  split
  · exact .ignored (by simp)
  · rename_i r hrequest
    split
    · rename_i hslot
      have hjudging : ∀ e ∈ (.release id :: judgeLog o : List (Effect η)), e.isQuiet :=
        fun e => isQuiet_of_mem_judging
      have hnoted (message : Text) :
          ∀ e ∈ (.release id :: judgeLog o ++ [note message] : List (Effect η)), e.isQuiet := by
        intro e he
        rcases List.mem_append.1 he with he | he
        · exact hjudging e he
        · rw [List.mem_singleton.1 he]; rfl
      cases r.judge c.parser o with
      | found ds =>
        have hlast : (Effect.report id r.host ds).addressee? = some (id, r.host) := rfl
        simpa [announce] using Settles.answered hslot hrequest (hnoted _) hlast
      | failed e =>
        have hlast : (Effect.failure id r.host e).addressee? = some (id, r.host) := rfl
        simpa [announce, fail] using Settles.answered hslot hrequest (hnoted _) hlast
      | broken f => exact .broken f hslot hjudging
    · exact .ignored (by simp [note, Effect.isQuiet])

/-- A failure to start is ignored, or it empties the slot and is answered last. -/
theorem spawnFailed_settles (c : Coordinator η) (id : Nat) (e : LintError) :
    Settles c id (c.spawnFailed id e) := by
  unfold spawnFailed
  split
  · exact .ignored (by simp)
  · rename_i r hrequest
    split
    · rename_i hslot
      have hquiet (message : Text) :
          ∀ q ∈ ([.release id, note message] : List (Effect η)), q.isQuiet := by
        simp [note, Effect.isQuiet]
      have hlast : (Effect.failure id r.host e).addressee? = some (id, r.host) := rfl
      exact Settles.answered hslot hrequest (hquiet _) hlast
    · exact .ignored (by simp [note, Effect.isQuiet])

/-! ## The account of a check -/

namespace Duty

/-- The duty is to answer a check. -/
def answers (id : Nat) : Duty η → Bool
  | .effect e => e.answers id
  | _ => false

/-- The duty is to answer some check. -/
def isAnswer : Duty η → Bool
  | .effect e => e.addressee?.isSome
  | _ => false

/-- Nobody but a session runs until the duty is done. -/
def isQuiet : Duty η → Bool
  | .effect e => e.isQuiet
  | .session => true
  | .accept .. | .host => false

/-- What is quiet answers nobody. -/
theorem not_isAnswer_of_isQuiet {d : Duty η} (h : d.isQuiet) : ¬ d.isAnswer := by
  cases d with
  | effect e => cases e <;> simp_all [isQuiet, isAnswer, Effect.isQuiet, Effect.addressee?]
  | _ => simp [isAnswer]

/-- What answers one check is an answer. -/
theorem isAnswer_of_answers {id : Nat} {d : Duty η} (h : d.answers id) : d.isAnswer := by
  cases d with
  | effect e =>
    cases ha : e.addressee? <;> simp_all [answers, isAnswer, Effect.answers]
  | _ => cases h

end Duty

/-- Quiet effects answer no check. -/
theorem answerCount_quiet {effects : List (Effect η)} (h : ∀ e ∈ effects, e.isQuiet) (id : Nat) :
    answerCount id effects = 0 := by
  refine List.countP_eq_zero.2 fun e he hanswers => ?_
  have hquiet := h e he
  cases e <;> simp_all [Effect.isQuiet, Effect.answers, Effect.addressee?]

/-- The answers that are due among effects and what comes after them add up. -/
theorem countP_duties (effects : List (Effect η)) (rest : List (Duty η)) (id : Nat) :
    (effects.map Duty.effect ++ rest).countP (Duty.answers id)
      = answerCount id effects + rest.countP (Duty.answers id) := by
  rw [List.countP_append, List.countP_map]
  rfl

/-- The rights to an answer to a check that lie in the slot, which are one or none. -/
def rights (c : Coordinator η) (id : Nat) : Nat := if c.slot = some id then 1 else 0

namespace Execution

/-- The answers to a check that are still due, and the right to one that lies in the slot. -/
def outstanding (x : Execution η) (id : Nat) : Nat :=
  x.duties.countP (Duty.answers id) + x.coordinator.rights id

/-- What comes of an outcome answers no check that had no right to it. -/
theorem outstanding_settles {c : Coordinator η} {i : Nat} {p : Coordinator η × List (Effect η)}
    (h : Settles c i p) (rest : List (Duty η)) (id : Nat) :
    outstanding ⟨p.1, p.2.map .effect ++ rest⟩ id ≤ outstanding ⟨c, rest⟩ id := by
  cases h with
  | ignored hquiet =>
    simp only [outstanding, countP_duties, answerCount_quiet hquiet, Nat.zero_add, Nat.le_refl]
  | answered hslot hrequest hquiet hlast =>
    simp only [outstanding, countP_duties, answerCount_append, answerCount_quiet hquiet, rights,
      hslot]
    by_cases hid : i = id <;> simp [answerCount, Effect.answers, hlast, hid, Nat.add_comm]
  | broken f hslot hquiet =>
    simp only [outstanding, countP_duties, answerCount_append, answerCount_quiet hquiet]
    simp [answerCount, Effect.answers, Effect.addressee?, rights]

/-- Giving up the check under way leaves no right to an answer. -/
theorem outstanding_supersede (x : Execution η) (rest : List (Duty η)) (id : Nat) :
    (x.enter .supersede rest).outstanding id = rest.countP (Duty.answers id) := by
  cases hslot : x.coordinator.slot <;>
    simp [enter, Coordinator.step, hslot, outstanding, Duty.answers, Effect.answers,
      Effect.addressee?, rights]

/-- An accepted request gets the only right to an answer. -/
theorem outstanding_accept (x : Execution η) (text : Text) (host : η) (rest : List (Duty η))
    (id : Nat) :
    (x.enter (.accept text host) rest).outstanding id
      = rest.countP (Duty.answers id) + if id = x.coordinator.nextId then 1 else 0 := by
  simp [enter, Coordinator.step, outstanding, Duty.answers, Effect.answers, Effect.addressee?,
    rights, eq_comm]

/-- Those who are called have no answer to give themselves. -/
theorem countP_callee (e : Effect η) (id : Nat) : e.callee.countP (Duty.answers id) = 0 := by
  cases e <;> simp [Effect.callee, Duty.answers]

/-- The answers due are part of what is outstanding. -/
theorem countP_le_outstanding (x : Execution η) (id : Nat) :
    x.duties.countP (Duty.answers id) ≤ x.outstanding id := Nat.le_add_right _ _

/-- What a step answers it takes from the account, and only a newly accepted check is credited. -/
theorem step_outstanding (x : Execution η) (m : Move η) (id : Nat) :
    answerCount id (x.step m).2 + (x.step m).1.outstanding id
      ≤ x.outstanding id
        + if x.coordinator.nextId ≤ id ∧ id < (x.step m).1.coordinator.nextId then 1 else 0 := by
  -- Acceptance apart, a step credits nobody.
  suffices h : answerCount id (x.step m).2 + (x.step m).1.outstanding id ≤ x.outstanding id ∨
      ∃ text host rest, x.duties = .accept text host :: rest ∧ m = .proceed by
    rcases h with h | ⟨text, host, rest, hduties, rfl⟩
    · exact Nat.le_add_right_of_le h
    · have hstep : x.step .proceed = (x.enter (.accept text host) rest, []) := by
        simp only [step, hduties]
      have hnext : (x.enter (.accept text host) rest).coordinator.nextId
          = x.coordinator.nextId + 1 := rfl
      have hrest := x.countP_le_outstanding id
      rw [hduties, List.countP_cons_of_neg (by simp [Duty.answers])] at hrest
      rw [hstep, answerCount_nil, Nat.zero_add, outstanding_accept, hnext]
      by_cases hid : id = x.coordinator.nextId
      · rw [if_pos hid, if_pos (by omega)]; omega
      · rw [if_neg hid]; omega
  cases m with
  | request text host =>
    left
    by_cases hruns : x.hostRuns
    · have hrest := x.countP_le_outstanding id
      simp only [step, if_pos hruns, answerCount_nil, Nat.zero_add]
      rwa [outstanding_supersede, List.countP_cons_of_neg (by simp [Duty.answers])]
    · simp [step, hruns]
  | cancel =>
    left
    by_cases hruns : x.hostRuns
    · simp only [step, if_pos hruns, answerCount_nil, Nat.zero_add]
      rw [outstanding_supersede]
      exact x.countP_le_outstanding id
    · simp [step, hruns]
  | configure s => simp [step, enter, Coordinator.step, outstanding, rights]
  | deliver i o =>
    left
    rw [step, answerCount_nil, Nat.zero_add]
    exact outstanding_settles (deliver_settles x.coordinator i o) x.duties id
  | spawnFailed i e =>
    left
    rw [step, answerCount_nil, Nat.zero_add]
    exact outstanding_settles (spawnFailed_settles x.coordinator i e) x.duties id
  | proceed =>
    obtain ⟨c, duties⟩ := x
    rcases duties with _ | ⟨e | ⟨text, host⟩ | _ | _, rest⟩
    · simp [step]
    · left
      have hhead : (.effect e :: rest).countP (Duty.answers id)
          = answerCount id [e] + rest.countP (Duty.answers id) := countP_duties [e] rest id
      simp only [step, outstanding, List.countP_append, countP_callee, hhead]
      omega
    · exact .inr ⟨text, host, rest, rfl, rfl⟩
    · simp [step, outstanding, Duty.answers]
    · simp [step, outstanding, Duty.answers]

/-! ## The order of duties -/

/-- While an answer is due nobody runs but sessions, and the slot is empty. -/
structure Guarded (x : Execution η) : Prop where
  above : x.duties.Pairwise fun upper lower => lower.isAnswer → upper.isQuiet
  slot : ∀ id, x.coordinator.slot = some id → ∀ d ∈ x.duties, ¬ d.isAnswer

/-- Where no answer is due nothing has to be guarded. -/
theorem guarded_of_no_answer {x : Execution η} (h : ∀ d ∈ x.duties, ¬ d.isAnswer) :
    x.Guarded :=
  ⟨List.pairwise_of_forall_mem_list fun _ _ d hd hanswer => absurd hanswer (h d hd),
    fun _ _ => h⟩

/-- What comes of an outcome keeps only sessions running until the answer. -/
theorem guarded_settles {c : Coordinator η} {i : Nat} {p : Coordinator η × List (Effect η)}
    (h : Settles c i p) {rest : List (Duty η)} (hrest : Guarded ⟨c, rest⟩) :
    Guarded ⟨p.1, p.2.map .effect ++ rest⟩ := by
  have hquiet {effects : List (Effect η)} (hq : ∀ e ∈ effects, e.isQuiet) :
      ∀ d ∈ effects.map Duty.effect, d.isQuiet := by
    intro d hd
    obtain ⟨e, he, rfl⟩ := List.mem_map.1 hd
    exact hq e he
  cases h with
  | ignored hq =>
    refine ⟨List.pairwise_append.2 ⟨?_, hrest.above, fun d hd _ _ _ => hquiet hq d hd⟩, ?_⟩
    · exact List.pairwise_of_forall_mem_list fun d hd _ _ _ => hquiet hq d hd
    · intro id hslot d hd
      rcases List.mem_append.1 hd with hd | hd
      · exact Duty.not_isAnswer_of_isQuiet (hquiet hq d hd)
      · exact hrest.slot id hslot d hd
  | @answered r quiet last hslot hrequest hq hlast =>
    -- The answer comes last, and below it there is no other, as the slot was taken.
    have hnone := hrest.slot i hslot
    refine ⟨?_, by simp⟩
    rw [List.map_append, List.append_assoc]
    refine List.pairwise_append.2 ⟨?_, ?_, fun d hd _ _ _ => hquiet hq d hd⟩
    · exact List.pairwise_of_forall_mem_list fun d hd _ _ _ => hquiet hq d hd
    · exact List.pairwise_cons.2 ⟨fun d hd hanswer => absurd hanswer (hnone d hd), hrest.above⟩
  | @broken quiet f hslot hq =>
    refine guarded_of_no_answer fun d hd => ?_
    rcases List.mem_append.1 hd with hd | hd
    · rw [List.map_append] at hd
      rcases List.mem_append.1 hd with hd | hd
      · exact Duty.not_isAnswer_of_isQuiet (hquiet hq d hd)
      · rw [List.mem_singleton.1 hd]; simp [Duty.isAnswer, Effect.addressee?]
    · exact hrest.slot i hslot d hd

/-- A host finds no answer on its way. -/
theorem Guarded.no_answer {x : Execution η} (h : x.Guarded) (hruns : x.hostRuns) :
    ∀ d ∈ x.duties, ¬ d.isAnswer := by
  obtain ⟨c, duties⟩ := x
  rcases duties with _ | ⟨_ | _ | _ | _, rest⟩ <;> simp only [hostRuns, Bool.false_eq_true] at hruns
  · simp
  · intro d hd hanswer
    rcases List.mem_cons.1 hd with rfl | hd
    · cases hanswer
    · cases (List.pairwise_cons.1 h.above).1 d hd hanswer

/-- Giving up the check under way makes no answer due. -/
theorem guarded_supersede (x : Execution η) {rest : List (Duty η)}
    (hrest : ∀ d ∈ rest, ¬ d.isAnswer) : (x.enter .supersede rest).Guarded := by
  refine guarded_of_no_answer fun d hd => ?_
  rcases List.mem_append.1 hd with hd | hd
  · cases hslot : x.coordinator.slot <;> simp only [Coordinator.step, hslot] at hd
    · cases hd
    · rw [List.mem_singleton.1 hd]; simp [Duty.isAnswer, Effect.addressee?]
  · exact hrest d hd

/-- Doing what is next leaves the duties guarded. -/
theorem guarded_proceed {x : Execution η} (h : x.Guarded) : (x.step .proceed).1.Guarded := by
  obtain ⟨c, duties⟩ := x
  rcases duties with _ | ⟨d, rest⟩
  · exact h
  · obtain ⟨hhead, hrest⟩ := List.pairwise_cons.1 h.above
    have hslot : ∀ id, c.slot = some id → ∀ d ∈ rest, ¬ d.isAnswer :=
      fun id hid d hd => h.slot id hid d (List.mem_cons_of_mem _ hd)
    have hunder (hd : ¬ d.isQuiet) : ∀ b ∈ rest, ¬ b.isAnswer :=
      fun b hb hanswer => hd (hhead b hb hanswer)
    cases d with
    | effect e =>
      by_cases hq : e.isQuiet
      · -- The session that is called is as quiet as the effect that calls it.
        have hcallee : ∀ d ∈ e.callee, d.isQuiet := by
          cases e <;> simp_all [Effect.isQuiet, Effect.callee, Duty.isQuiet]
        refine ⟨List.pairwise_append.2 ⟨?_, hrest, fun d hd _ _ _ => hcallee d hd⟩, ?_⟩
        · exact List.pairwise_of_forall_mem_list fun d hd _ _ _ => hcallee d hd
        · intro id hid d hd
          rcases List.mem_append.1 hd with hd | hd
          · exact Duty.not_isAnswer_of_isQuiet (hcallee d hd)
          · exact hslot id hid d hd
      · refine guarded_of_no_answer fun d hd => ?_
        rcases List.mem_append.1 hd with hd | hd
        · cases e <;> simp_all [Effect.callee, Duty.isAnswer]
        · exact hunder hq d hd
    | accept text host =>
      refine guarded_of_no_answer fun d hd => ?_
      rcases List.mem_append.1 hd with hd | hd
      · simp only [Coordinator.step, List.map_cons, List.map_nil, List.mem_singleton] at hd
        rw [hd]; simp [Duty.isAnswer, Effect.addressee?]
      · exact hunder (by simp [Duty.isQuiet]) d hd
    | session => exact ⟨hrest, hslot⟩
    | host => exact ⟨hrest, hslot⟩

/-- Every move leaves the duties guarded. -/
theorem guarded_step {x : Execution η} (h : x.Guarded) (m : Move η) : (x.step m).1.Guarded := by
  cases m with
  | request text host =>
    by_cases hruns : x.hostRuns
    · simp only [step, if_pos hruns]
      refine guarded_supersede x fun d hd => ?_
      rcases List.mem_cons.1 hd with rfl | hd
      · simp [Duty.isAnswer]
      · exact h.no_answer hruns d hd
    · simpa [step, hruns] using h
  | cancel =>
    by_cases hruns : x.hostRuns
    · simp only [step, if_pos hruns]
      exact guarded_supersede x (h.no_answer hruns)
    · simpa [step, hruns] using h
  | configure s => exact ⟨h.above, h.slot⟩
  | deliver id o => exact guarded_settles (deliver_settles x.coordinator id o) h
  | spawnFailed id e => exact guarded_settles (spawnFailed_settles x.coordinator id e) h
  | proceed => exact guarded_proceed h

/-! ## The account of an execution

`past` is what the coordinator has done so far.
-/

/-- What comes of an outcome changes neither the requests nor their numbers. -/
theorem requests_eq_of_settles {c : Coordinator η} {id : Nat} {p : Coordinator η × List (Effect η)}
    (h : Settles c id p) : p.1.requests = c.requests ∧ p.1.nextId = c.nextId := by
  cases h <;> exact ⟨rfl, rfl⟩

/-- Nothing but acceptance touches the requests and their numbers. -/
theorem enter_requests_eq (x : Execution η) (e : Event η) (rest : List (Duty η))
    (he : ∀ text host, e ≠ .accept text host) :
    (x.enter e rest).coordinator.requests = x.coordinator.requests ∧
      (x.enter e rest).coordinator.nextId = x.coordinator.nextId := by
  cases e with
  | accept text host => exact absurd rfl (he text host)
  | supersede => cases hslot : x.coordinator.slot <;> simp [enter, Coordinator.step, hslot]
  | configure s => exact ⟨rfl, rfl⟩
  | deliver i o => exact requests_eq_of_settles (deliver_settles x.coordinator i o)
  | spawnFailed i e => exact requests_eq_of_settles (spawnFailed_settles x.coordinator i e)

/-- A step leaves the requests alone or accepts one more. -/
theorem step_requests (x : Execution η) (m : Move η) :
    ((x.step m).1.coordinator.requests = x.coordinator.requests ∧
      (x.step m).1.coordinator.nextId = x.coordinator.nextId) ∨
    ∃ r, (x.step m).1.coordinator.requests
        = (x.coordinator.nextId, r) :: x.coordinator.requests ∧
      (x.step m).1.coordinator.nextId = x.coordinator.nextId + 1 := by
  cases m with
  | request text host =>
    left
    by_cases hruns : x.hostRuns
    · simp only [step, if_pos hruns]
      exact x.enter_requests_eq .supersede _ (by simp)
    · simp [step, hruns]
  | cancel =>
    left
    by_cases hruns : x.hostRuns
    · simp only [step, if_pos hruns]
      exact x.enter_requests_eq .supersede _ (by simp)
    · simp [step, hruns]
  | configure s => exact .inl ⟨rfl, rfl⟩
  | deliver i o => exact .inl (x.enter_requests_eq (.deliver i o) _ (by simp))
  | spawnFailed i e => exact .inl (x.enter_requests_eq (.spawnFailed i e) _ (by simp))
  | proceed =>
    obtain ⟨c, duties⟩ := x
    rcases duties with _ | ⟨e | ⟨text, host⟩ | _ | _, rest⟩
    · exact .inl ⟨rfl, rfl⟩
    · exact .inl ⟨rfl, rfl⟩
    · exact .inr ⟨⟨text, c.settings.offsetUnit, host⟩, rfl, rfl⟩
    · exact .inl ⟨rfl, rfl⟩
    · exact .inl ⟨rfl, rfl⟩

/-- The numbers of checks only go up. -/
theorem nextId_le_step (x : Execution η) (m : Move η) :
    x.coordinator.nextId ≤ (x.step m).1.coordinator.nextId := by
  rcases x.step_requests m with ⟨-, h⟩ | ⟨r, -, h⟩ <;> omega

/-- A request that was accepted is never changed. -/
theorem request?_step {x : Execution η} {id : Nat} (m : Move η) (hid : id < x.coordinator.nextId) :
    (x.step m).1.coordinator.request? id = x.coordinator.request? id := by
  rcases x.step_requests m with ⟨h, -⟩ | ⟨r, h, -⟩
  · rw [request?, h, request?]
  · have hne : (x.coordinator.nextId == id) = false := by simp; omega
    simp [request?, h, hne]

/-- What holds of an execution that has begun with a new coordinator. -/
structure Account (x : Execution η) (past : List (Effect η)) : Prop where
  guarded : x.Guarded
  /-- A check is answered once at most, however it goes on. -/
  once : ∀ id, answerCount id past + x.outstanding id ≤ 1
  /-- A number that was not given yet has nothing to its account. -/
  fresh : ∀ id, x.coordinator.nextId ≤ id → answerCount id past + x.outstanding id = 0

/-- The account stays balanced through every move. -/
theorem Account.step {x : Execution η} {past : List (Effect η)} (h : Account x past) (m : Move η) :
    Account (x.step m).1 (past ++ (x.step m).2) := by
  have hmono := x.nextId_le_step m
  refine ⟨guarded_step h.guarded m, fun id => ?_, fun id hid => ?_⟩
  · have hstep := x.step_outstanding m id
    have honce := h.once id
    rw [answerCount_append]
    by_cases hnew : x.coordinator.nextId ≤ id
    · have hfresh := h.fresh id hnew
      split at hstep <;> omega
    · rw [if_neg (by omega)] at hstep
      omega
  · have hstep := x.step_outstanding m id
    have hfresh := h.fresh id (by omega)
    rw [if_neg (by omega)] at hstep
    rw [answerCount_append]
    omega

/-- A new coordinator has a balanced account. -/
theorem account_opened (settings : Settings) (parser : OutputParser) :
    Account (opened settings parser : Execution η) [] :=
  ⟨guarded_of_no_answer (by simp [opened]), by simp [opened, outstanding, rights],
    by simp [opened, outstanding, rights]⟩

/-- Once a check has nothing to its account it is not answered any more. -/
theorem answerCount_run_of_outstanding_eq_zero {x : Execution η} {id : Nat}
    (hid : id < x.coordinator.nextId) (h : x.outstanding id = 0) (moves : List (Move η)) :
    answerCount id (Machine.run step x moves).2 = 0 := by
  induction moves generalizing x with
  | nil => rfl
  | cons m moves ih =>
    have hstep := x.step_outstanding m id
    rw [if_neg (by omega)] at hstep
    have hmono := x.nextId_le_step m
    rw [Machine.run_cons, answerCount_append, ih (by omega) (by omega)]
    omega

/-- A host that withdraws the check under way leaves no account open. -/
theorem outstanding_withdraw {x : Execution η} (h : x.Guarded) {m : Move η} (hm : m.withdraws)
    (hruns : x.hostRuns) (id : Nat) :
    (x.step m).2 = [] ∧ (x.step m).1.outstanding id = 0 := by
  have hnone : x.duties.countP (Duty.answers id) = 0 := by
    refine List.countP_eq_zero.2 fun d hd hanswers => ?_
    exact h.no_answer hruns d hd (Duty.isAnswer_of_answers hanswers)
  cases m <;> simp only [Move.withdraws, Bool.false_eq_true] at hm
  · simp only [step, if_pos hruns, outstanding_supersede]
    rw [List.countP_cons_of_neg (by simp [Duty.answers])]
    exact ⟨trivial, hnone⟩
  · simp only [step, if_pos hruns, outstanding_supersede]
    exact ⟨trivial, hnone⟩

/-! ## Who is told -/

/-- The host of a check, once the check was accepted. -/
def host? (x : Execution η) (id : Nat) : Option η := (x.coordinator.request? id).map Request.host

/-- What a move does was a duty before. -/
theorem mem_duties_of_mem_step {x : Execution η} {m : Move η} {e : Effect η}
    (h : e ∈ (x.step m).2) : .effect e ∈ x.duties := by
  obtain ⟨c, duties⟩ := x
  cases m with
  | proceed =>
    rcases duties with _ | ⟨_ | _ | _ | _, rest⟩ <;> simp_all [step]
  | _ => simp [step] at h

/-- What comes of an outcome tells only the host that asked. -/
theorem addressee_of_settles {c : Coordinator η} {i : Nat} {p : Coordinator η × List (Effect η)}
    (h : Settles c i p) {e : Effect η} (he : e ∈ p.2) {id : Nat} {host : η}
    (ha : e.addressee? = some (id, host)) : (c.request? id).map Request.host = some host := by
  have hnot {e : Effect η} (hq : e.isQuiet) : e.addressee? = none := by
    cases e <;> simp_all [Effect.isQuiet, Effect.addressee?]
  cases h with
  | ignored hquiet => simp [hnot (hquiet e he)] at ha
  | answered hslot hrequest hquiet hlast =>
    rcases List.mem_append.1 he with he | he
    · simp [hnot (hquiet e he)] at ha
    · rw [List.mem_singleton.1 he, hlast] at ha
      cases ha
      simp [hrequest]
  | broken f hslot hquiet =>
    rcases List.mem_append.1 he with he | he
    · simp [hnot (hquiet e he)] at ha
    · simp [List.mem_singleton.1 he, Effect.addressee?] at ha

/-- An answer that becomes due by a step is for the host that made the request. -/
theorem host?_of_mem_duties_step {x : Execution η} {m : Move η} {e : Effect η}
    (h : .effect e ∈ (x.step m).1.duties) {id : Nat} {host : η}
    (ha : e.addressee? = some (id, host)) : .effect e ∈ x.duties ∨ x.host? id = some host := by
  -- To supersede a check cancels its session, and that answers nobody.
  have hsuper {rest : List (Duty η)} (h : .effect e ∈ (x.enter .supersede rest).duties) :
      .effect e ∈ rest := by
    rcases List.mem_append.1 h with h | h
    · cases hslot : x.coordinator.slot <;> simp [Coordinator.step, hslot] at h
      simp [h, Effect.addressee?] at ha
    · exact h
  cases m with
  | request text host =>
    by_cases hruns : x.hostRuns <;> simp only [step, hruns, if_true] at h
    · simpa using Or.inl (hsuper h)
    · exact .inl h
  | cancel =>
    by_cases hruns : x.hostRuns <;> simp only [step, hruns, if_true] at h
    · exact .inl (hsuper h)
    · exact .inl h
  | configure s => exact .inl h
  | deliver i o =>
    rcases List.mem_append.1 h with h | h
    · obtain ⟨e', he', hcast⟩ := List.mem_map.1 h
      cases hcast
      exact .inr (addressee_of_settles (deliver_settles x.coordinator i o) he' ha)
    · exact .inl h
  | spawnFailed i e' =>
    rcases List.mem_append.1 h with h | h
    · obtain ⟨e', he', hcast⟩ := List.mem_map.1 h
      cases hcast
      exact .inr (addressee_of_settles (spawnFailed_settles x.coordinator i _) he' ha)
    · exact .inl h
  | proceed =>
    left
    obtain ⟨c, duties⟩ := x
    rcases duties with _ | ⟨e' | ⟨text, host⟩ | _ | _, rest⟩
    · exact h
    · rcases List.mem_append.1 h with h | h
      · cases e' <;> simp [Effect.callee] at h
      · exact List.mem_cons_of_mem _ h
    · rcases List.mem_append.1 h with h | h
      · simp [Coordinator.step] at h
        simp [h, Effect.addressee?] at ha
      · exact List.mem_cons_of_mem _ h
    · exact List.mem_cons_of_mem _ h
    · exact List.mem_cons_of_mem _ h

/-- Whoever was told about a check, or is about to be told, is the host that requested it. -/
structure Addressed (x : Execution η) (past : List (Effect η)) : Prop where
  known : ∀ id host, x.host? id = some host → id < x.coordinator.nextId
  told : ∀ e, e ∈ past ∨ .effect e ∈ x.duties → ∀ id host, e.addressee? = some (id, host) →
    x.host? id = some host

/-- Only hosts that asked are told anything after a move as well. -/
theorem Addressed.step {x : Execution η} {past : List (Effect η)} (h : Addressed x past)
    (m : Move η) : Addressed (x.step m).1 (past ++ (x.step m).2) := by
  have hkeep {id : Nat} {host : η} (hhost : x.host? id = some host) :
      (x.step m).1.host? id = some host := by
    rw [host?, request?_step m (h.known id host hhost)]
    exact hhost
  refine ⟨fun id host hhost => ?_, fun e he id host ha => ?_⟩
  · rcases x.step_requests m with ⟨hsame, hnext⟩ | ⟨r, hmore, hnext⟩
    · rw [host?, request?, hsame] at hhost
      have := h.known id host hhost
      omega
    · by_cases hid : id = x.coordinator.nextId
      · omega
      · have hne : (x.coordinator.nextId == id) = false := by simpa using Ne.symm hid
        rw [host?, request?, hmore, List.find?_cons_of_neg (by simp [hne])] at hhost
        have := h.known id host hhost
        omega
  · rw [List.mem_append, or_assoc] at he
    rcases he with he | he | he
    · exact hkeep (h.told e (.inl he) id host ha)
    · exact hkeep (h.told e (.inr (mem_duties_of_mem_step he)) id host ha)
    · rcases host?_of_mem_duties_step he ha with he | hhost
      · exact hkeep (h.told e (.inr he) id host ha)
      · exact hkeep hhost

/-- Nobody was told anything by a new coordinator. -/
theorem addressed_opened (settings : Settings) (parser : OutputParser) :
    Addressed (opened settings parser : Execution η) [] :=
  ⟨by simp [opened, host?, request?], by simp [opened]⟩

/-- A request is answered once at most, to its own host, and not at all once a later request or a
cancelation has found it unanswered. -/
theorem answered_once_and_never_after_withdrawal (settings : Settings) (parser : OutputParser)
    (moves : List (Move η)) :
    let after := Machine.run step (opened settings parser : Execution η)
    (∀ id, answerCount id (after moves).2 ≤ 1) ∧
    (∀ e ∈ (after moves).2, ∀ id host, e.addressee? = some (id, host) →
      (after moves).1.host? id = some host) ∧
    ∀ first m rest, moves = first ++ m :: rest → m.withdraws → (after first).1.hostRuns →
      ∀ id < (after first).1.coordinator.nextId, answerCount id (after first).2 = 0 →
        answerCount id (after moves).2 = 0 := by
  intro after
  -- Both invariants hold of every prefix of the run, in particular at the withdrawal.
  have haccount (moves : List (Move η)) : Account (after moves).1 (after moves).2 :=
    Machine.run_preserves (fun _ _ m h => h.step m) (account_opened settings parser) moves
  have haddressed : Addressed (after moves).1 (after moves).2 :=
    Machine.run_preserves (fun _ _ m h => h.step m) (addressed_opened settings parser) moves
  refine ⟨fun id => ?_, fun e he => haddressed.told e (.inl he), ?_⟩
  · have honce := (haccount moves).once id
    omega
  · intro first m rest hmoves hm hruns id hid hnone
    obtain ⟨hquiet, hclosed⟩ := outstanding_withdraw (haccount first).guarded hm hruns id
    have hmono := (after first).1.nextId_le_step m
    have hrest := answerCount_run_of_outstanding_eq_zero (by omega) hclosed rest
    subst hmoves
    simp only [after, Machine.run_append, Machine.run_cons, answerCount_append] at *
    rw [hnone, hquiet, hrest]
    rfl

/-- Up to the request of host `1` being under way. -/
def firstRequest : List (Move Nat) := [.request [] 1, .proceed, .proceed, .proceed]

/-- The first session delivers while it is being dismissed; the second one delivers twice, and host
`2` cancels while it is told. -/
def secondRequest : List (Move Nat) :=
  [.proceed, .deliver 1 { status := .completed }, .proceed, .proceed, .proceed, .proceed,
    .proceed, .proceed, .proceed, .deliver 2 { status := .failed }, .proceed,
    .deliver 2 { status := .failed }, .proceed, .proceed, .proceed, .proceed, .proceed, .proceed,
    .cancel, .proceed]

/-- A check whose session delivers as it is dismissed is not answered, and the one that takes its
place is answered once. -/
theorem superseded_check_is_silent :
    let after := Machine.run step (opened {} {})
    answerCount 1 (after (firstRequest ++ .request [] 2 :: secondRequest)).2 = 0 ∧
      answerCount 2 (after (firstRequest ++ .request [] 2 :: secondRequest)).2 = 1 :=
  ⟨(answered_once_and_never_after_withdrawal {} {} _).2.2 firstRequest (.request [] 2)
    secondRequest rfl rfl rfl 1 (by decide) rfl, rfl⟩

end Execution

end Coordinator

end LiveLint
