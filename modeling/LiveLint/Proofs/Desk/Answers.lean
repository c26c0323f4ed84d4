import LiveLint.Proofs.Desk.Turn

/-!
# What hosts are told

What the host of a check was told so far is a function of where the check stands (`due`): nothing
while its session waits or runs or was canceled, and the verdict on the outcome once it has ended by
itself. So a check that ends by itself is answered once, with one exception. Output in which reading
comes to a limit, because an integer has too many digits or the nesting is deeper than the stack, is
neither accepted nor refused (`LinterOutput.Overtaxes`); the error escapes the coordinator, and the
host waits for ever.
-/

namespace LiveLint

namespace LinterOutput

/-- Reading the output comes to a limit: an integer in it has too many digits, or lists and tables
stand in one another deeper than the stack goes. -/
def Overtaxes (parser : OutputParser) (o : LinterOutput) : Prop :=
  ∃ e, Json.load parser.levels o.stdout.strip = .error e ∧ ¬e.isOfSyntax

/-- Such output is the only one that is neither accepted nor refused. -/
theorem issues_eq_fault_iff (parser : OutputParser) (o : LinterOutput) :
    (∃ f, o.issues parser = .error (.fault f)) ↔ o.Overtaxes parser := by
  unfold issues Overtaxes
  generalize o.stdout.strip = text
  by_cases hempty : text.isEmpty
  · -- An empty text is no JSON text, but is judged by the exit status.
    obtain rfl := List.isEmpty_iff.1 hempty
    have hload : Json.load parser.levels [] = .error .valueExpected := rfl
    cases o.failingStatus <;> simp [hload, Json.Error.isOfSyntax]
  · simp only [hempty, Bool.false_eq_true, if_false]
    cases hload : Json.load parser.levels text with
    | error e => cases e <;> simp [Json.Error.isOfSyntax]
    | ok v =>
      cases v with
      | list items =>
        cases hissues : issuesFrom parser.severity o.stdout 0 items <;> simp [hissues]
      | _ => simp

end LinterOutput

namespace Desk

/-! ## What is due to a host -/

/-- What the host of a check was told, going by where the check stands. -/
def due (d : Desk (Session Unit)) (id : Nat) : List Note :=
  match d.coordinator.request? id, (d.session? id).bind Session.result? with
  | some r, some o => reply .idle d.channel id r.host (r.judge d.coordinator.parser o)
  | _, _ => []

variable {d : Desk (Session Unit)}

/-- Nothing is due while a check has no result of its own. -/
theorem due_of_result_eq_none {id : Nat} (h : (d.session? id).bind Session.result? = none) :
    d.due id = [] := by
  unfold due
  rw [h]
  cases d.coordinator.request? id <;> rfl

/-- What is due once a check has ended by itself. -/
theorem due_of_result {id : Nat} {s : Session Unit} {r : Request Host} {o : Outcome}
    (hs : d.session? id = some s) (hrequest : d.coordinator.request? id = some r)
    (hresult : s.result? = some o) :
    d.due id = reply .idle d.channel id r.host (r.judge d.coordinator.parser o) := by
  simp [due, hrequest, hs, hresult]

/-- What is due depends on the request and the result of the check alone. -/
theorem due_congr {d' : Desk (Session Unit)} {id : Nat}
    (hrequest : d'.coordinator.request? id = d.coordinator.request? id)
    (hresult : (d'.session? id).bind Session.result? = (d.session? id).bind Session.result?)
    (hchannel : d'.channel = d.channel)
    (hparser : d'.coordinator.parser = d.coordinator.parser) : d'.due id = d.due id := by
  unfold due
  rw [hrequest, hresult, hchannel, hparser]

/-- The results of other checks are not touched by a session that is put in place. -/
theorem result_put_ne {i id : Nat} {s : Session Unit} (h : id ≠ i) :
    ((d.put i s).session? id).bind Session.result? = (d.session? id).bind Session.result? := by
  rw [session?_put_ne h]

/-- A session with the same result makes nothing due. -/
theorem result_put {i : Nat} {s s' : Session Unit} (hs : d.session? i = some s)
    (hresult : s'.result? = s.result?) (id : Nat) :
    ((d.put i s').session? id).bind Session.result? = (d.session? id).bind Session.result? := by
  by_cases hid : id = i
  · rw [hid, session?_put_self hs, hs]
    exact hresult
  · exact result_put_ne hid

/-- Being told something about a check is being told something. -/
theorem isTold_of_isFor {id : Nat} {n : Note} (h : n.isFor id) : n.isTold := by
  cases n <;> simp_all [Note.isFor, Note.isTold]

/-- What is told about a check is found among all that is told. -/
theorem filter_isFor (id : Nat) (notes : List Note) :
    notes.filter (Note.isFor id) = (notes.filter Note.isTold).filter (Note.isFor id) := by
  rw [List.filter_filter]
  refine List.filter_congr fun n _ => ?_
  cases hfor : n.isFor id with
  | false => rfl
  | true => rw [isTold_of_isFor hfor]; rfl

/-- Silent notes tell nothing about any check. -/
theorem Silent.filter_isFor {notes : List Note} (h : Silent notes) (id : Nat) :
    notes.filter (Note.isFor id) = [] := by
  rw [Desk.filter_isFor, h.filter_isTold]
  rfl

/-- A reply is for its own check. -/
theorem filter_reply (found : CheckState) (channel : Channel) (i id : Nat) (host : Host)
    (v : Verdict) :
    (reply found channel i host v).filter (Note.isFor id)
      = if id = i then reply found channel i host v else [] := by
  by_cases hid : id = i
  · cases v <;> simp [reply, Note.isFor, hid]
  · have hne : (i == id) = false := by simpa using Ne.symm hid
    cases v <;> simp [reply, Note.isFor, hid, hne]

/-- In a turn hosts are told what becomes due by it. -/
theorem Turn.due (h : Sound d) {p : Desk (Session Unit) × List Note} (hturn : Turn d p) (id : Nat) :
    p.1.due id = d.due id ++ p.2.filter (Note.isFor id) := by
  cases hturn with
  | configures s =>
    rw [List.filter_nil, List.append_nil]
    exact due_congr rfl rfl rfl rfl
  | @accepts text host s hslot hdriven hcheck hpending =>
    have hnone : s.result? = none := Session.result?_of_open (by rw [hpending]; rfl)
    rw [List.filter_nil, List.append_nil]
    by_cases hid : id = d.coordinator.nextId
    · rw [due_of_result_eq_none, due_of_result_eq_none]
      · rw [hid, h.requested.session?_nextId]
        rfl
      · rw [session?_accepted h.requested, if_pos hid]
        exact hnone
    · refine due_congr ?_ ?_ rfl rfl
      · rw [request?_accepted, if_neg hid]
      · rw [session?_accepted h.requested, if_neg hid]
  | @goes i s s' notes hs hon hsilent =>
    rw [hsilent.filter_isFor, List.append_nil]
    exact due_congr rfl (result_put hs hon.result id) rfl rfl
  | @dismisses i s s' notes hs hslot hdriven hcheck hcanceled hsilent =>
    rw [hsilent.filter_isFor, List.append_nil]
    have hresult : s'.result? = s.result? :=
      (Session.result?_of_canceled hcanceled).trans
        (Session.result?_of_open (h.open_of_slot hs hslot)).symm
    exact due_congr rfl (result_put hs hresult id) rfl rfl
  | @settles i s s' o r notes hs hslot hrequest hdone htold =>
    rw [filter_isFor, htold, filter_reply]
    by_cases hid : id = i
    · subst hid
      -- A session that has not ended was owed nothing before.
      have hbefore : d.due id = [] := due_of_result_eq_none (by
        rw [hs]
        exact Session.result?_of_open (h.open_of_slot hs hslot))
      have hs' : (d.retire id s').session? id = some s' := session?_put_self hs
      have hrequest' : (d.retire id s').coordinator.request? id = some r := hrequest
      rw [hbefore, if_pos rfl, due_of_result hs' hrequest' hdone.result]
      rfl
    · rw [if_neg hid, List.append_nil]
      exact due_congr rfl (result_put_ne hid) rfl rfl

/-- What a turn tells about a check is what has become due by it. -/
theorem Turns.due (h : Sound d) {p : Desk (Session Unit) × List Note} (hturns : Turns d p)
    (id : Nat) : p.1.due id = d.due id ++ p.2.filter (Note.isFor id) := by
  induction hturns with
  | done d => simp
  | next hturn _ ih =>
    rw [ih (h.turn hturn), hturn.due h, List.filter_append, List.append_assoc]

/-- Hosts were told what is due to them. -/
structure Answered (d : Desk (Session Unit)) (past : List Note) : Prop where
  sound : Sound d
  told : ∀ id, past.filter (Note.isFor id) = d.due id

/-- An event tells hosts what has become due by it. -/
theorem Answered.step {past : List Note} (h : Answered d past) (e : Event) :
    Answered (d.step e).1 (past ++ (d.step e).2) where
  sound := h.sound.step e
  told id := by rw [List.filter_append, h.told, (h.sound.step_turns e).due h.sound]

/-- Hosts were told what is due to them, whatever has happened at a desk. -/
theorem answered_run (settings : Settings) (parser : OutputParser) (channel : Channel)
    (es : List Event) :
    Answered (Machine.run step (opened settings parser channel) es).1
      (Machine.run step (opened settings parser channel) es).2 := by
  have hopened : Answered (opened settings parser channel) [] :=
    ⟨sound_opened settings parser channel, fun _ => rfl⟩
  exact Machine.run_preserves (fun _ _ e h => h.step e) hopened es

/-! ## Every check is answered -/

/-- The output of a session's process as the coordinator judges it. -/
def outputOf (s : Session Unit) (e : Exit) : LinterOutput :=
  { stdout := s.options.encoding.decode e.stdout
    exitCode := some e.code
    stderr := s.options.encoding.decode e.stderr }

/-- A result is judged by the issues in the output of its process. -/
theorem judge_collected (r : Request Host) (parser : OutputParser) (s : Session Unit) (e : Exit) :
    r.judge parser (s.collected e)
      = match (outputOf s e).issues parser with
        | .ok issues => .found (({ unit := r.unit } : Mapper).toDiagnostics r.text issues).1
        | .error (.lint error) => .failed error
        | .error (.fault f) => .broken f := rfl

/-- A session that has failed owes its host the error. -/
theorem Sound.due_of_failed (h : Sound d) {id : Nat} {s : Session Unit} {r : Request Host}
    (hs : d.session? id = some s) (hrequest : d.coordinator.request? id = some r)
    (hfailed : s.status = .failed) :
    ∃ o error, s.outcome = some o ∧ o.error = some error ∧
      d.due id = [.told id .idle (tellFailure d.channel r.host error)] := by
  obtain ⟨o, error, ho, hstatus, herror⟩ := (h.driven id s hs).1.outcome_of_failed hfailed
  have hresult : s.result? = some o.blank := by simp [Session.result?, hfailed, ho]
  refine ⟨o, error, ho, herror, ?_⟩
  rw [due_of_result hs hrequest hresult, judge_blank (by simp [hstatus])]
  simp [Request.judge, hstatus, herror, reply]

/-- A request is answered once its session has ended by itself, by what the session or the output of
its process has to tell, unless reading the output comes to a limit; then the host is told nothing.
Its host finds the coordinator idle. -/
theorem request_answered_unless_overtaxed (settings : Settings) (parser : OutputParser)
    (channel : Channel) (first rest : List Event) (system : System) (ticket : Nat) (text : Text)
    (host : Host) :
    let after := Machine.run step (opened settings parser channel)
    let coordinator := (after first).1.coordinator
    let id := coordinator.nextId
    let reached := after (first ++ .request system ticket text host :: rest)
    let told := reached.2.filter (Note.isFor id)
    ∃ s, reached.1.session? id = some s ∧
      (s.status = .failed → ∃ o error, s.outcome = some o ∧ o.error = some error ∧
        told = [.told id .idle (tellFailure channel host error)]) ∧
      (s.status = .completed → ∃ c e, s.children = [c] ∧ c.exit = some e ∧
        (∀ issues, (outputOf s e).issues parser = .ok issues →
          told = [.told id .idle (tell host
            (({ unit := coordinator.settings.offsetUnit } : Mapper).toDiagnostics text issues).1)]) ∧
        (∀ error, (outputOf s e).issues parser = .error (.lint error) →
          told = [.told id .idle (tellFailure channel host error)]) ∧
        ((outputOf s e).Overtaxes parser → told = []) ∧
        (¬ (outputOf s e).Overtaxes parser → told.length = 1)) ∧
      (s.status ≠ .failed → s.status ≠ .completed → told = []) := by
  intro after coordinator id reached told
  have hbefore : Sound (after first).1 := sound_run settings parser channel first
  obtain ⟨hturns, hrequest, s₀, hs₀⟩ := hbefore.request_turns system ticket text host
  -- The request is one step of the run, and what it records lasts through the rest.
  have hrun : reached.1 = (Machine.run step
      ((after first).1.step (.request system ticket text host)).1 rest).1 := by
    simp only [reached, after, Machine.run_append, Machine.run_cons]
  have hlater := (hbefore.turns hturns).later_run rest
  rw [← hrun] at hlater
  obtain ⟨⟨s, hs⟩, hrequest⟩ := hlater.check id s₀ _ hs₀ hrequest
  have hsound : Sound reached.1 := sound_run settings parser channel _
  have htold : told = reached.1.due id := (answered_run settings parser channel _).told id
  have hopened : Later _ reached.1 := (sound_opened settings parser channel).later_run _
  have hchannel : reached.1.channel = channel := hopened.channel
  have hparser : reached.1.coordinator.parser = parser := hopened.parser
  refine ⟨s, hs, fun hfailed => ?_, fun hcompleted => ?_, fun hfailed hcompleted => ?_⟩
  · obtain ⟨o, error, ho, herror, hdue⟩ := hsound.due_of_failed hs hrequest hfailed
    exact ⟨o, error, ho, herror, by rw [htold, hdue, hchannel]⟩
  · obtain ⟨c, e, hchildren, hexit⟩ := (hsound.driven id s hs).1.completed hcompleted
    have hresult : s.result? = some (s.collected e) := by
      simp [Session.result?, hcompleted, hchildren, hexit]
    have hdue := due_of_result hs hrequest hresult
    -- Judging has three ends: issues, a refusal, and the error that escapes.
    rw [← htold, hchannel, hparser, judge_collected] at hdue
    refine ⟨c, e, hchildren, hexit, ?_⟩
    rw [hdue, ← (outputOf s e).issues_eq_fault_iff parser]
    cases (outputOf s e).issues parser with
    | ok issues => simp [reply, coordinator]
    | error failure => cases failure <;> simp [reply]
  · rw [htold, due_of_result_eq_none]
    rw [hs]
    exact Session.result?_eq_none hcompleted hfailed

/-- A check whose linter prints `output` and ends well. -/
def printing (output : Bytes) : List Event :=
  [.request { find := fun _ => some "/usr/bin/sqlfluff", environment := [] } 1 "SELECT * FROM t"
      (.display "r" none false),
    .session 1 (.spawned 1 { pid := 1001 }), .session 1 (.read 0),
    .session 1 (.exit 0 { code := 0, stdout := output }), .session 1 (.read 0)]

example :
    (Machine.run step (opened {} {} (.named "default")) (printing [0x5B, 0x5D])).2.countP
      (Note.isFor 1) = 1 := by
  decide +kernel

/-- The list of one integer with a digit too many. -/
def overlongOutput : Bytes := 0x5B :: List.replicate 4301 0x37 ++ [0x5D]

/-- The check has completed in the slot, and its host is told nothing at all. -/
theorem overlong_output_unanswered :
    let after := Machine.run step (opened {} {} (.named "default"))
    (after (printing overlongOutput).dropLast).1.coordinator.slot = some 1 ∧
      ((after (printing overlongOutput)).1.session? 1).map Session.status = some .completed ∧
      (after (printing overlongOutput)).2.countP (Note.isFor 1) = 0 := by
  decide +kernel

end Desk

end LiveLint
