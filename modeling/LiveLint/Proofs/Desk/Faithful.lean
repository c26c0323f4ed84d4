import LiveLint.Proofs.Desk.Answers
import LiveLint.Proofs.Desk.Snapshot
import LiveLint.Proofs.Position.Memory

/-!
# A check is answered for what it was requested with

A request makes a session for the text and the settings that the desk has at that moment. From then
on all that the system hears of the check and all that its host is told is about this text and these
settings (`Check.Faithful`), although the desk may be given other settings at any time.
-/

namespace LiveLint

/-- The diagnostics that a host is told, if it is told any. -/
def Telling.diagnostics? : Telling → Option (List Diagnostic)
  | .report _ ds | .answer _ (.ok ds) => some ds
  | _ => none

/-- A check as it was requested: its number, the settings of the desk at that moment, the text, and
who asked. -/
structure Check where
  id : Nat
  settings : Settings
  system : System
  ticket : Nat
  text : Text
  host : Host

namespace Check

/-- The diagnostics of the check when its process ends with `e`: those of all issues in the output,
in their order, as the unit of the settings places them in the text. -/
def Reports (q : Check) (parser : OutputParser) (e : Exit) (ds : List Diagnostic) : Prop :=
  ∃ issues,
    LinterOutput.issues parser
      { stdout := Encoding.utf8.decode e.stdout
        exitCode := some e.code
        stderr := Encoding.utf8.decode e.stderr } = .ok issues ∧
    ds = (({ unit := q.settings.offsetUnit } : Mapper).toDiagnostics q.text issues).1 ∧
    ds = issues.map fun i => (({ unit := q.settings.offsetUnit } : Mapper).toDiagnostic q.text i).1

/-- The linter of the check has ended by itself, and its output gives these diagnostics. -/
def Yields (q : Check) (parser : OutputParser) (d : Desk (Session Unit)) (ds : List Diagnostic) :
    Prop :=
  ∃ s c e, d.session? q.id = some s ∧ s.status = .completed ∧ s.children = [c] ∧
    c.exit = some e ∧ q.Reports parser e ds

/-- The check is carried out, and answered, for what it was requested with. `came` are the inputs
that processes had before they came to the desk. -/
structure Faithful (q : Check) (parser : OutputParser) (came : Bytes → Prop)
    (d : Desk (Session Unit)) (notes : List Note) : Prop where
  /-- Its session is made for the text and the settings, and hands the whole text to its process or
  nothing. -/
  session : ∃ s, d.session? q.id = some s ∧ s.command = q.settings.command ∧ s.text = q.text ∧
    s.options = .ofSettings q.settings ∧
    ∀ input, s.Handed input → Encoding.utf8.encode? q.text = some input ∨ came input
  /-- A process is asked for with the command, the directory and the variables of the settings. -/
  spawned : ∀ ticket arguments directory environment,
    .spawn q.id ticket arguments directory environment ∈ notes →
      ticket = q.ticket ∧ processArguments q.system.find q.settings.command = .ok arguments ∧
      directory = q.settings.directory ∧
      environment = (SessionOptions.ofSettings q.settings).childEnvironment q.system.environment
  /-- The time limit is that of the settings. -/
  armed : ∀ reader limit, .arm q.id reader limit ∈ notes → q.settings.timeout = some limit
  /-- Whoever is told diagnostics of this check is its host, and they are those that the text and
  the unit give for the output of its process. -/
  reported : ∀ found telling ds, .told q.id found telling ∈ notes →
    telling.diagnostics? = some ds → telling = Desk.tell q.host ds ∧
      ∃ s c e, d.session? q.id = some s ∧ s.children = [c] ∧ c.exit = some e ∧
        q.Reports parser e ds

variable {q : Check} {parser : OutputParser} {d : Desk (Session Unit)}

/-- Log lines have no part in it. -/
theorem Faithful.mono {came came' : Bytes → Prop} {notes notes' : List Note}
    (h : q.Faithful parser came d notes) (hcame : ∀ input, came input → came' input)
    (hnotes : ∀ n ∈ notes', n ∈ notes ∨ ∃ line, n = .log line) :
    q.Faithful parser came' d notes' := by
  have hkept {n : Note} (hn : n ∈ notes') (hlog : ∀ line, n ≠ .log line) : n ∈ notes := by
    rcases hnotes n hn with hn | ⟨line, rfl⟩
    · exact hn
    · exact absurd rfl (hlog line)
  obtain ⟨s, hs, hcommand, htext, hoptions, hinput⟩ := h.session
  constructor
  case session =>
    refine ⟨s, hs, hcommand, htext, hoptions, fun input hhanded => ?_⟩
    exact (hinput input hhanded).imp_right (hcame input)
  case spawned =>
    intro ticket arguments directory environment hn
    exact h.spawned ticket arguments directory environment (hkept hn (by simp))
  case armed =>
    intro reader limit hn
    exact h.armed reader limit (hkept hn (by simp))
  case reported =>
    intro found telling ds hn
    exact h.reported found telling ds (hkept hn (by simp))

end Check

namespace Desk

variable {d : Desk (Session Unit)}

/-- A host that is told a report is told its diagnostics. -/
theorem diagnostics?_tell (host : Host) (ds : List Diagnostic) :
    (tell host ds).diagnostics? = some ds := by
  cases host <;> rfl

/-- A host that is told a failure is told no diagnostics. -/
theorem diagnostics?_tellFailure (channel : Channel) (host : Host) (e : LintError) :
    (tellFailure channel host e).diagnostics? = none := by
  cases host with
  | caller ticket => rfl
  | display name own raises => cases own <;> cases channel <;> rfl

/-- Diagnostics that are due come from the output of the process of a completed session. -/
theorem Sound.reports_of_due (h : Sound d) {id : Nat} {s : Session Unit} {r : Request Host}
    (hs : d.session? id = some s) (hrequest : d.coordinator.request? id = some r)
    {found : CheckState} {telling : Telling} {ds : List Diagnostic}
    (htold : .told id found telling ∈ d.due id) (hds : telling.diagnostics? = some ds) :
    telling = tell r.host ds ∧ s.status = .completed ∧
      ∃ c e issues, s.children = [c] ∧ c.exit = some e ∧
        (outputOf s e).issues d.coordinator.parser = .ok issues ∧
        ds = (({ unit := r.unit } : Mapper).toDiagnostics r.text issues).1 := by
  have hnotDone (hcompleted : s.status ≠ .completed) (hfailed : s.status ≠ .failed) : False := by
    have hnone : (d.session? id).bind Session.result? = none := by
      rw [hs]
      exact Session.result?_eq_none hcompleted hfailed
    rw [due_of_result_eq_none hnone] at htold
    cases htold
  cases hstatus : s.status with
  | failed =>
    -- The host of a failed session is told an error, which brings no diagnostics.
    obtain ⟨o, error, -, -, hdue⟩ := h.due_of_failed hs hrequest hstatus
    rw [hdue, List.mem_singleton] at htold
    cases htold
    rw [diagnostics?_tellFailure] at hds
    cases hds
  | completed =>
    obtain ⟨c, e, hchildren, hexit⟩ := (h.driven id s hs).1.completed hstatus
    have hresult : s.result? = some (s.collected e) := by
      simp [Session.result?, hstatus, hchildren, hexit]
    rw [due_of_result hs hrequest hresult, judge_collected] at htold
    rcases hissues : (outputOf s e).issues d.coordinator.parser with (error | f) | issues
    rotate_right
    · rw [hissues] at htold
      rw [reply, List.mem_singleton] at htold
      cases htold
      rw [diagnostics?_tell] at hds
      cases hds
      exact ⟨rfl, rfl, c, e, issues, hchildren, hexit, hissues, rfl⟩
    · rw [hissues] at htold
      rw [reply, List.mem_singleton] at htold
      cases htold
      rw [diagnostics?_tellFailure] at hds
      cases hds
    · rw [hissues] at htold
      cases htold
  | _ => exact (hnotDone (by simp [hstatus]) (by simp [hstatus])).elim

/-- What a desk does for a check after its request is faithful to the request, whatever happens at
the desk before and afterwards. -/
theorem faithful_request (settings : Settings) (parser : OutputParser) (channel : Channel)
    (first rest : List Event) (system : System) (ticket : Nat) (text : Text) (host : Host) :
    let after := Machine.run step (opened settings parser channel)
    let coordinator := (after first).1.coordinator
    let q : Check := ⟨coordinator.nextId, coordinator.settings, system, ticket, text, host⟩
    let reached := after (first ++ .request system ticket text host :: rest)
    q.Faithful parser
      (fun input => ∃ ticket child, .session q.id (.spawned ticket child) ∈ rest ∧
        child.stdin = some input)
      reached.1 reached.2 := by
  intro after coordinator q reached
  have hbefore : Sound (after first).1 := sound_run settings parser channel first
  have hsound : Sound reached.1 := sound_run settings parser channel _
  -- The run is what comes before, the request, and what comes after it.
  let requested := (after first).1.step (.request system ticket text host)
  have hrequested : Sound requested.1 := hbefore.step _
  have hstate : reached.1 = (Machine.run step requested.1 rest).1 := by
    simp only [reached, requested, after, Machine.run_append, Machine.run_cons]
  have hnotes : reached.2
      = (after first).2 ++ (requested.2 ++ (Machine.run step requested.1 rest).2) := by
    simp only [reached, requested, after, Machine.run_append, Machine.run_cons]
  obtain ⟨-, ⟨es, hes, hmade⟩, hasked⟩ := hbefore.request_worked system ticket text host
  obtain ⟨⟨es', hrun, hcame⟩, hasked'⟩ := hrequested.run_check hmade rest
  have hkept := ((after first).1.newcomer text).run_kept es
  -- What is asked for the check is asked by the request or later, and not by another session.
  have hasks {n : Note} (hn : n ∈ reached.2) (hasks : n.Asks q.id) :
      n.Fits q.id ((after first).1.newcomer text) (.start ticket system) ∨
        ∃ s' : Session Unit, ((after first).1.newcomer text).Kept s' ∧
          ∃ oc : Session.Occurrence, n.Fits q.id s' oc.event := by
    rw [hnotes, List.mem_append, List.mem_append] at hn
    rcases hn with hn | hn | hn
    · have hopened := sound_opened settings parser channel
      exact absurd (hopened.run_known first n hn q.id hasks) (Nat.lt_irrefl _)
    · exact .inl (hasked n hn q.id hasks).2
    · obtain ⟨s', hkept', hfits⟩ := hasked' n hn hasks
      exact .inr ⟨s', hkept.trans hkept', hfits⟩
  constructor
  case session =>
    have hkept' := hkept.trans (Session.run_kept _ es')
    refine ⟨_, hstate ▸ hrun, hkept'.command, hkept'.text, hkept'.options, fun input h => ?_⟩
    rcases Session.run_handed h with h | h | ⟨ticket, child, hmem, hchild⟩
    · rcases Session.run_handed h with h | h | ⟨ticket, child, hmem, hchild⟩
      · obtain ⟨c, hc, -⟩ := h
        cases hc
      · exact .inl h
      · rcases hes _ hmem with (he | he) | he <;> cases he
    · exact .inl (hkept.isPayload.1 h)
    · exact .inr ⟨ticket, child, hcame ticket child hmem, hchild⟩
  case spawned =>
    intro ticket arguments directory environment hn
    rcases hasks hn rfl with ⟨-, system', he, harguments, hdirectory, henvironment⟩
      | ⟨s', -, oc, -, system', he, -⟩
    · cases he
      exact ⟨rfl, harguments, hdirectory, henvironment⟩
    · cases oc <;> cases he
  case armed =>
    intro reader limit hn
    rcases hasks hn rfl with ⟨-, he, -⟩ | ⟨s', hkept', oc, -, -, htimeout⟩
    · cases he
    · rw [hkept'.options] at htimeout
      exact htimeout
  case reported =>
    intro found telling ds hn hds
    have hdue : .told q.id found telling ∈ reached.1.due q.id := by
      rw [← (answered_run settings parser channel _).told q.id]
      exact List.mem_filter.2 ⟨hn, by simp [Note.isFor]⟩
    obtain ⟨-, hrequest, s₁, hs₁⟩ := hbefore.request_turns system ticket text host
    have hlater : Later requested.1 reached.1 := hstate ▸ hrequested.later_run rest
    obtain ⟨-, hrequest⟩ := hlater.check q.id s₁ _ hs₁ hrequest
    have hs := hrun
    rw [← hstate] at hs
    obtain ⟨htelling, -, c, e, issues, hchildren, hexit, hissues, hds⟩ :=
      hsound.reports_of_due hs hrequest hdue hds
    have hopened := (sound_opened settings parser channel).later_run
      (first ++ .request system ticket text host :: rest)
    -- The options of the session tell in which encoding the output is read.
    rw [outputOf, (hkept.trans (Session.run_kept _ es')).options, hopened.parser] at hissues
    exact ⟨htelling, _, c, e, hs, hchildren, hexit, issues, hissues, hds,
      hds.trans (Mapper.toDiagnostics_eq_map _ _ _)⟩

/-- The check that an event at the desk requests. -/
def requested? (d : Desk (Session Unit)) : Event → Option Check
  | .request system ticket text host =>
    some ⟨d.coordinator.nextId, d.coordinator.settings, system, ticket, text, host⟩
  | _ => none

/-- A check was requested at some moment of a desk's life, for what the desk had then. -/
def Requests (d : Desk (Session Unit)) (xs : List Event) (q : Check) : Prop :=
  ∃ first x rest, xs = first ++ x :: rest ∧ (Machine.run step d first).1.requested? x = some q

/-- All that a desk does for a requested check is faithful to the request, whatever else happens. -/
theorem faithful_run (settings : Settings) (parser : OutputParser) (channel : Channel)
    (xs : List Event) {q : Check} (hq : Requests (opened settings parser channel) xs q) :
    let reached := Machine.run step (opened settings parser channel) xs
    q.Faithful parser
      (fun input => ∃ ticket child, .session q.id (.spawned ticket child) ∈ xs ∧
        child.stdin = some input)
      reached.1 reached.2 := by
  obtain ⟨first, x, rest, rfl, hq⟩ := hq
  cases x with
  | request system ticket text host =>
    cases hq
    have h := faithful_request settings parser channel first rest system ticket text host
    refine h.mono (fun input hcame => ?_) fun n hn => .inl hn
    obtain ⟨ticket', child, hmem, hchild⟩ := hcame
    exact ⟨ticket', child, by simp [hmem], hchild⟩
  | _ => cases hq

/-- Whoever is told something is told it about a check that was requested. -/
theorem requests_of_told (settings : Settings) (parser : OutputParser) (channel : Channel)
    (xs : List Event) {id : Nat} {found : CheckState} {telling : Telling}
    (htold : .told id found telling ∈
      (Machine.run step (opened settings parser channel) xs).2) :
    ∃ q : Check, q.id = id ∧ Requests (opened settings parser channel) xs q := by
  have hdue : .told id found telling ∈
      (Machine.run step (opened settings parser channel) xs).1.due id := by
    rw [← (answered_run settings parser channel xs).told id]
    exact List.mem_filter.2 ⟨htold, by simp [Note.isFor]⟩
  cases hs : (Machine.run step (opened settings parser channel) xs).1.session? id with
  | none =>
    rw [due_of_result_eq_none (by rw [hs]; rfl)] at hdue
    cases hdue
  | some s =>
    obtain ⟨first, system, ticket, text, host, rest, rfl, hid⟩ :=
      request_of_session settings parser channel xs hs
    exact ⟨_, hid.symm, first, _, rest, rfl, rfl⟩

end Desk

end LiveLint
