import LiveLint.Proofs.Provider.Lives

/-!
# Providers answer checks for what they were requested with

Each call of the host, and whatever happens at a desk, lets the lives of the desks go on
(`Lived.happens`), and so does a whole run (`Lived.run`). As every life is a run of a desk, what is
true of the checks of a desk is true of the checks that are requested through a provider, whatever
is done meanwhile to its settings, to those of a desk, or with other buffers.
-/

namespace LiveLint

namespace Provider

/-- One event at a provider whose sessions run processes. -/
def happens (p : Provider (Session Unit)) (e : Event Desk.Event) :
    Provider (Session Unit) × List Seen :=
  p.step Session.make Desk.step e

/-- The check that an event requests, with the number of its desk. -/
def requested? (p : Provider (Session Unit)) : Event Desk.Event → Option (Nat × Check)
  | .check system ticket b text host =>
    let (p, k, _) := p.deskFor b none
    p.requestedAt? k (.request system ticket text host)
  | .checkText system ticket text settings =>
    let (p, k) := p.addDesk (settings.getD p.settings) .log
    p.requestedAt? k (.request system ticket text (.caller ticket))
  | .desk k x => p.requestedAt? k x
  | _ => none

/-- A check was requested at a desk in the course of these events. -/
def Requested (p : Provider (Session Unit)) (es : List (Event Desk.Event)) (k : Nat) (q : Check) :
    Prop :=
  ∃ first e rest, es = first ++ e :: rest ∧
    (Machine.run happens p first).1.requested? e = some (k, q)

/-- The notes among what is seen. -/
def notesOf (seen : List Seen) : List ProviderNote :=
  seen.filterMap fun
    | .note n => some n
    | _ => none

/-- What was seen to leave a desk. -/
def notesAt (k : Nat) (seen : List Seen) : List Note :=
  seen.filterMap fun
    | .note (.desk i n) => if i = k then some n else none
    | _ => none

@[simp] theorem notesOf_append (seen more : List Seen) :
    notesOf (seen ++ more) = notesOf seen ++ notesOf more := List.filterMap_append

@[simp] theorem notesOf_map {α : Type} (f : α → ProviderNote) (xs : List α) :
    notesOf (xs.map fun x => .note (f x)) = xs.map f := by
  simp [notesOf, List.filterMap_map]

@[simp] theorem notesOf_logged (k : Nat) (lines : List LogLine) :
    notesOf (logged k lines) = lines.map fun l => .desk k (.log l) := notesOf_map _ _

@[simp] theorem notesOf_closed (b : BufferId) (wasOpen : Bool) :
    notesOf [.closed b wasOpen] = [] := rfl

@[simp] theorem notesOf_dialect (b : BufferId) (result : Except Fault Settings) :
    notesOf [.dialect b result] = [] := rfl

/-- A note is among the notes exactly if it was seen. -/
theorem mem_notesOf {n : ProviderNote} {seen : List Seen} :
    n ∈ notesOf seen ↔ .note n ∈ seen := by
  constructor
  · intro hn
    obtain ⟨s, hs, heq⟩ := List.mem_filterMap.1 hn
    cases s <;> cases heq
    exact hs
  · intro hn
    exact List.mem_filterMap.2 ⟨_, hn, rfl⟩

/-- A note has left a desk exactly if it was seen to. -/
theorem mem_notesAt {k : Nat} {n : Note} {seen : List Seen} :
    n ∈ notesAt k seen ↔ .note (.desk k n) ∈ seen := by
  constructor
  · intro hn
    obtain ⟨s, hs, heq⟩ := List.mem_filterMap.1 hn
    split at heq
    · rename_i i m
      by_cases hik : i = k
      · rw [if_pos hik] at heq
        cases heq
        exact hik ▸ hs
      · rw [if_neg hik] at heq
        cases heq
    · cases heq
  · intro hn
    exact List.mem_filterMap.2 ⟨_, hn, if_pos rfl⟩

variable {asked : Nat → Check → Prop} {given : Nat → Nat → Child → Prop} {parser : OutputParser}
  {p p' : Provider (Session Unit)} {lives : List Life}

/-! ## Calls of the host -/

/-- What goes on does so with its notes alone as well. -/
theorem Goes.noted {requested : Option (Nat × Check)}
    {out : Provider (Session Unit) × List ProviderNote}
    (h : Goes asked given parser lives requested out) :
    Goes asked given parser lives requested (out.1, notesOf (out.2.map .note)) := by
  have hnotes : notesOf (out.2.map .note) = out.2 := by
    simpa using notesOf_map (fun n => n) out.2
  rw [hnotes]
  exact h

/-- Log lines of the provider itself. -/
theorem Goes.logs {requested : Option (Nat × Check)}
    (h : Goes asked given parser lives requested (p, [])) (k : Nat) (lines : List LogLine) :
    Goes asked given parser lives requested (p, lines.map fun l => .desk k (.log l)) := by
  refine Goes.say h fun lives' _ n hn => ?_
  obtain ⟨line, -, rfl⟩ := List.mem_map.1 hn
  exact .inl ⟨line, rfl⟩

/-- A change of dialect goes on with the lives of the desks. -/
theorem Lived.setDialect (h : Lived asked given parser p lives) (b : BufferId) (dialect : Value) :
    Goes asked given parser lives none ((p.setDialect b dialect).1, []) := by
  have hdesk := h.deskFor b none
  unfold Provider.setDialect
  dsimp only
  split
  · exact hdesk
  · exact hdesk.append fun lives' _ hlived => hlived.configureAt _ _

/-- Closing a buffer goes on with the lives of the desks. -/
theorem Lived.closeStep (h : Lived asked given parser p lives) (b : BufferId) :
    Goes asked given parser lives none ((p.closeStep b).1, notesOf (p.closeStep b).2) := by
  cases hb : p.deskOf? b with
  | none =>
    rw [closeStep_of_closed hb]
    exact h.goes
  | some k =>
    have hforgot : Lived asked given parser (p.forget b) lives :=
      h.register _ fun r hr => h.registry r (List.mem_filter.1 hr).1
    rw [closeStep_of_open hb]
    simp only [notesOf_append, notesOf_map, notesOf_logged, notesOf_closed, List.append_nil]
    exact (hforgot.cancelAt k).append fun lives' _ hlived => hlived.goes.logs k _

/-- Closing several buffers goes on with the lives of the desks. -/
theorem Lived.closeAll (h : Lived asked given parser p lives) (bs : List BufferId) :
    Goes asked given parser lives none
      ((Machine.run Provider.closeStep p bs).1, notesOf (Machine.run Provider.closeStep p bs).2) := by
  induction bs generalizing p lives with
  | nil => exact h.goes
  | cons b bs ih =>
    rw [Machine.run_cons, notesOf_append]
    exact (h.closeStep b).append fun lives' _ hlived => ih hlived

/-- A check of a buffer is requested at its desk, and is one of those asked for. -/
theorem Lived.runCheck (h : Lived asked given parser p lives) {system : System} {ticket : Nat}
    {b : BufferId} {text : Text} {host : Host}
    (hasked : ∀ k q, p.requested? (.check system ticket b text host) = some (k, q) → asked k q) :
    Goes asked given parser lives (p.requested? (.check system ticket b text host))
      (p.runCheck Session.make system ticket b text host) := by
  let k := (p.deskFor b none).2.1
  let x : Desk.Event := .request system ticket text host
  have hcheck : p.runCheck Session.make system ticket b text host
      = (((p.deskFor b none).1.atDesk k fun d => d.step x).1,
          (p.deskFor b none).2.2.map (fun l => .desk k (.log l))
            ++ ((p.deskFor b none).1.atDesk k fun d => d.step x).2) := rfl
  rw [hcheck]
  refine ((h.deskFor b none).logs k _).prepend fun lives' hlived => ?_
  exact hlived.atDesk ⟨fun q hq => hasked k q hq, fun id ticket child heq => by cases heq⟩

/-- A check of a text is requested at a new desk, and is one of those asked for. -/
theorem Lived.checkText (h : Lived asked given parser p lives) {system : System} {ticket : Nat}
    {text : Text} {settings : Option Settings}
    (hasked : ∀ k q, p.requested? (.checkText system ticket text settings) = some (k, q) →
      asked k q) :
    Goes asked given parser lives (p.requested? (.checkText system ticket text settings))
      (p.checkText Session.make system ticket text settings) := by
  -- The desk is opened first; the caller that then waits has no answer yet.
  have hopened := h.addDesk (settings.getD p.settings) .log
  let opened := (p.addDesk (settings.getD p.settings) .log).1
  have hwaits : Lived asked given parser
      { opened with oneShots := p.oneShots ++ [{ ticket, desk := p.desks.length }] }
      (lives ++ [⟨settings.getD p.settings, .log, []⟩]) := by
    refine hopened.callers fun o ho ds hds => ?_
    rcases List.mem_append.1 ho with ho | ho
    · exact hopened.answers o ho ds hds
    · rw [List.mem_singleton.1 ho] at hds
      cases hds
  have hstart : Goes asked given parser lives none
      ({ opened with oneShots := p.oneShots ++ [{ ticket, desk := p.desks.length }] }, []) :=
    ⟨_, goOn_append lives _, hwaits, by simp, by simp⟩
  refine hstart.prepend fun lives' hlived => ?_
  exact hlived.atDesk ⟨fun q hq => hasked _ q hq, fun id ticket child heq => by cases heq⟩

/-- Only the task that waits for a session is ended by its caller. -/
theorem sessionStep_abandon {d : Desk (Session Unit)} (hd : Desk.Sound d) (id ticket : Nat) :
    d.sessionStep id (.abandon ticket) = d.step (.session id (.abandon ticket)) := by
  rw [Desk.step_session]
  cases hs : d.session? id with
  | none =>
    rw [show Session.Occurrence.event (.abandon ticket) = .abandon ticket from rfl,
      Desk.sessionStep_of_none hs, Desk.callBack_of_none hs]
    rfl
  | some s =>
    have hstep : s.step (.abandon ticket) = (s.endStart ticket, []) := rfl
    have hcalling : (s.endStart ticket).calling = [] := (hd.driven id s hs).1.calling
    have hended : (d.put id (s.endStart ticket)).absorb id [] = (d.put id (s.endStart ticket), []) :=
      rfl
    rw [show Session.Occurrence.event (.abandon ticket) = .abandon ticket from rfl,
      Desk.sessionStep_of_session hs hstep, hended,
      Desk.callBack_of_calling_nil (Desk.session?_put_self hs) hcalling]
    rfl

/-- What a caller that gives up leaves behind at its desk. -/
def leave (ticket : Nat) (d : Desk (Session Unit)) : Desk (Session Unit) × List Note :=
  match d.coordinator.slot with
  | none => (d, [])
  | some id => d.sessionStep id (.abandon ticket)

/-- A caller that leaves goes on with the life of its desk. -/
theorem Lived.leaveAt (h : Lived asked given parser p lives) (k ticket : Nat) :
    Goes asked given parser lives none (p.atDesk k (leave ticket)) := by
  cases hd : p.desks[k]? with
  | none =>
    rw [atDesk_of_none hd]
    exact h.goes
  | some d =>
    rw [atDesk_of_desk hd]
    cases hslot : d.coordinator.slot with
    | none =>
      have hleave : leave ticket d = (d, []) := by simp [leave, hslot]
      rw [hleave, put_self hd]
      exact h.goes
    | some id =>
      obtain ⟨l, -, hlife⟩ := h.life hd
      have hleave : leave ticket d = d.step (.session id (.abandon ticket)) := by
        simp only [leave, hslot]
        exact sessionStep_abandon (hlife ▸ l.sound_lived parser) id ticket
      have hplain : Allowed asked given p k (.session id (.abandon ticket)) :=
        allowed_of_plain (fun _ => rfl) (by simp)
      have hgoes := h.atDesk hplain
      have hnone : p.requestedAt? k (.session id (.abandon ticket)) = none := by
        simp [requestedAt?, hd, Desk.requested?]
      rw [hnone, atDesk_of_desk hd] at hgoes
      rw [hleave]
      exact hgoes

/-- A caller that gives up goes on with the life of its desk. -/
theorem Lived.abandon (h : Lived asked given parser p lives) (ticket : Nat) :
    Goes asked given parser lives none (p.abandon ticket) := by
  cases hs : p.oneShot? ticket with
  | none =>
    unfold Provider.abandon
    rw [hs]
    exact h.goes
  | some s =>
    have hfewer : Lived asked given parser
        { p with oneShots := p.oneShots.filter fun o => o.ticket != ticket } lives :=
      h.callers fun o ho => h.answers o (List.mem_filter.1 ho).1
    unfold Provider.abandon
    rw [hs]
    exact (hfewer.leaveAt s.desk ticket).append fun lives' _ hlived => hlived.cancelAt s.desk

/-! ## Runs of a provider -/

/-- The lives of the desks go on at an event, if the check that it requests, or the process that it
brings, is known of. -/
theorem Lived.happens (h : Lived asked given parser p lives) (e : Event Desk.Event)
    (hasked : ∀ k q, p.requested? e = some (k, q) → asked k q)
    (hgiven : ∀ k id ticket child, e = .desk k (.session id (.spawned ticket child)) →
      given k id child) :
    Goes asked given parser lives (p.requested? e) ((p.happens e).1, notesOf (p.happens e).2) := by
  cases e with
  | deskFor b settings =>
    have hdesk := (h.deskFor b settings).logs (p.deskFor b settings).2.1 (p.deskFor b settings).2.2
    rw [← notesOf_logged] at hdesk
    exact hdesk
  | check system ticket b text host => exact (h.runCheck hasked).noted
  | setDialect b dialect =>
    have hdialect :=
      (h.setDialect b dialect).logs (p.deskFor b none).2.1 (p.setDialect b dialect).2.2
    have hseen : notesOf (p.happens (.setDialect b dialect)).2
        = (p.setDialect b dialect).2.2.map fun l => .desk (p.deskFor b none).2.1 (.log l) := by
      simp [Provider.happens, Provider.step]
    rw [hseen]
    exact hdialect
  | close b => exact h.closeStep b
  | shutdown => exact h.closeAll _
  | checkText system ticket text settings => exact (h.checkText hasked).noted
  | abandon ticket => exact (h.abandon ticket).noted
  | configure s =>
    have hconfigured : Lived asked given parser { p with settings := s } lives :=
      ⟨h.desks, h.judges, h.registry, h.answers, h.requested, h.came⟩
    exact hconfigured.goes
  | desk k x =>
    have hx : Allowed asked given p k x :=
      ⟨fun q hq => hasked k q hq, fun id ticket child heq => hgiven k id ticket child (by rw [heq])⟩
    exact (h.atDesk hx).noted

/-- Lives go on through all that happens, and every check that was requested is recorded in one. -/
theorem Lived.run (h : Lived asked given parser p lives) (es : List (Event Desk.Event))
    (hasked : ∀ k q, Requested p es k q → asked k q)
    (hgiven : ∀ k id ticket child, .desk k (.session id (.spawned ticket child)) ∈ es →
      given k id child) :
    ∃ lives', GoOn lives lives' ∧
      Lived asked given parser (Machine.run Provider.happens p es).1 lives' ∧
      (∀ n, .note n ∈ (Machine.run Provider.happens p es).2 → n.Sincere parser lives') ∧
      ∀ k q, Requested p es k q → Recorded parser lives' k q := by
  induction es generalizing p lives with
  | nil =>
    refine ⟨lives, .refl lives, h, by simp, fun k q hq => ?_⟩
    obtain ⟨first, e, rest, heq, -⟩ := hq
    simp at heq
  | cons e es ih =>
    obtain ⟨lives', hon, hlived, hsincere, hnow⟩ := h.happens e
      (fun k q hq => hasked k q ⟨[], e, es, rfl, hq⟩)
      fun k id ticket child heq => hgiven k id ticket child (by simp [heq])
    obtain ⟨lives'', hon', hlived', hsincere', hlater⟩ := ih hlived
      (fun k q hq => by
        obtain ⟨first, e', rest, rfl, hq⟩ := hq
        exact hasked k q ⟨e :: first, e', rest, rfl, hq⟩)
      fun k id ticket child hmem => hgiven k id ticket child (List.mem_cons_of_mem e hmem)
    rw [Machine.run_cons]
    refine ⟨lives'', hon.trans hon', hlived', fun n hn => ?_, fun k q hq => ?_⟩
    · rcases List.mem_append.1 hn with hn | hn
      · exact (hsincere n (mem_notesOf.2 hn)).goOn hon'
      · exact hsincere' n hn
    -- A check was requested at the first event, or at a later one with the first in front of it.
    · obtain ⟨first, e', rest, heq, hq⟩ := hq
      cases first with
      | nil =>
        cases heq
        exact (hnow k q hq).goOn hon'
      | cons e₀ first =>
        cases heq
        exact hlater k q ⟨first, e', rest, rfl, hq⟩

/-! ## Checks are answered as they were requested -/

/-- A request at a desk asks for a check with the settings of the desk. -/
theorem requestedAt?_request {k : Nat} {d : Desk (Session Unit)} (hd : p.desks[k]? = some d)
    (system : System) (ticket : Nat) (text : Text) (host : Host) :
    p.requestedAt? k (.request system ticket text host)
      = some (k, ⟨d.coordinator.nextId, d.coordinator.settings, system, ticket, text, host⟩) := by
  simp [requestedAt?, hd, Desk.requested?]

/-- The settings that checks of a buffer are made with. -/
def settingsOf (p : Provider (Session Unit)) (b : BufferId) : Settings :=
  (((p.deskOf? b).bind fun k => p.desks[k]?).map fun d => d.coordinator.settings).getD p.settings

/-- A check of a buffer is requested with the settings of the buffer. -/
theorem Lived.requested?_check (h : Lived asked given parser p lives) (system : System)
    (ticket : Nat) (b : BufferId) (text : Text) (host : Host) :
    ∃ k q, p.requested? (.check system ticket b text host) = some (k, q) ∧
      q.settings = p.settingsOf b ∧ q.text = text ∧ q.host = host := by
  have hlt := h.deskFor_lt b
  have hd := List.getElem?_eq_getElem hlt
  refine ⟨_, _, requestedAt?_request hd system ticket text host, ?_, rfl, rfl⟩
  cases hb : p.deskOf? b with
  | some k =>
    simp only [deskFor_of_open hb, Option.map_none, Option.getD_none] at hd ⊢
    simp [settingsOf, hb, hd]
  | none =>
    simp [deskFor_of_closed hb, openBuffer, Provider.addDesk, settingsOf, hb]

/-- The lives of a provider without buffers. -/
theorem lived_opened (settings : Settings) (parser : OutputParser) (channel : Channel) :
    Lived asked given parser (opened settings parser channel) [] where
  desks := rfl
  judges := rfl
  registry _ hr := by cases hr
  answers _ ho := by cases ho
  requested _ _ _ hl := by cases hl
  came _ _ _ _ _ hl := by cases hl

/-- Checks that are requested in a run of a provider are answered for what they were requested
with. -/
structure AnswersAsRequested (p : Provider (Session Unit)) (parser : OutputParser)
    (es : List (Event Desk.Event)) (reached : Provider (Session Unit) × List Seen) : Prop where
  /-- All that is done and told for a check is about its text and its settings, whatever else
  happens. -/
  faithful : ∀ k q, Requested p es k q → ∃ d, reached.1.desks[k]? = some d ∧
    q.Faithful parser
      (fun input => ∃ ticket child, .desk k (.session q.id (.spawned ticket child)) ∈ es ∧
        child.stdin = some input)
      d (notesAt k reached.2)
  /-- So are the diagnostics that a waiting caller gets. -/
  answered : ∀ ticket ds, .note (.checked ticket (.ok ds)) ∈ reached.2 →
    ∃ k q d s c e, Requested p es k q ∧ q.host = .caller ticket ∧
      reached.1.desks[k]? = some d ∧ d.session? q.id = some s ∧ s.children = [c] ∧
      c.exit = some e ∧ q.Reports parser e ds
  /-- A check of a buffer is one with the settings that the buffer has then. -/
  ofBuffer : ∀ system ticket b text host, ∃ k q,
    reached.1.requested? (.check system ticket b text host) = some (k, q) ∧
      q.settings = reached.1.settingsOf b ∧ q.text = text ∧ q.host = host
  /-- A text is linted once with the settings that come with it, or else those of the provider. -/
  ofText : ∀ system ticket text own, ∃ k q,
    reached.1.requested? (.checkText system ticket text own) = some (k, q) ∧
      q.settings = own.getD reached.1.settings ∧ q.text = text ∧ q.host = .caller ticket

/-- Checks are answered as requested, whatever happens to a provider. -/
theorem answersAsRequested_run (settings : Settings) (parser : OutputParser) (channel : Channel)
    (es : List (Event Desk.Event)) :
    AnswersAsRequested (opened settings parser channel) parser es
      (Machine.run happens (opened settings parser channel) es) := by
  -- The lives are followed for the checks and the processes of this very run.
  have hopened : Lived (Requested (opened settings parser channel) es)
      (fun k id child => ∃ ticket, .desk k (.session id (.spawned ticket child)) ∈ es) parser
      (opened settings parser channel) [] := lived_opened settings parser channel
  obtain ⟨lives, -, hlived, hsincere, hrequested⟩ :=
    hopened.run es (fun k q hq => hq) fun k id ticket child hmem => ⟨ticket, hmem⟩
  have hdesk {k : Nat} {l : Life} (hl : lives[k]? = some l) :
      (Machine.run happens (opened settings parser channel) es).1.desks[k]?
        = some (l.lived parser).1 := by
    rw [hlived.desks, List.getElem?_map, hl]
    rfl
  constructor
  case faithful =>
    intro k q hq
    obtain ⟨l, hl, hlq⟩ := hrequested k q hq
    refine ⟨_, hdesk hl, hlq.faithful.mono (fun input hinput => ?_) fun n hn => ?_⟩
    · obtain ⟨ticket, child, hmem, hchild⟩ := hinput
      obtain ⟨ticket', hmem'⟩ := hlived.came k l q.id ticket child hl hmem
      exact ⟨ticket', child, hmem', hchild⟩
    · rcases hsincere _ (mem_notesAt.1 hn) with hlog | ⟨l', hl', hn'⟩
      · exact .inr hlog
      · obtain rfl : l = l' := Option.some.inj (hl.symm.trans hl')
        exact .inl hn'
  case answered =>
    intro ticket ds hchecked
    obtain ⟨k, l, id, found, hl, htold⟩ := hsincere _ hchecked
    obtain ⟨q, rfl, hlq⟩ := Life.requests_of_told htold
    obtain ⟨htelling, s, c, e, hs, hchildren, hexit, hreports⟩ :=
      hlq.faithful.reported found _ ds htold rfl
    have hhost : q.host = .caller ticket := by
      cases hhost : q.host with
      | caller ticket' =>
        rw [hhost] at htelling
        cases htelling
        rfl
      | display name own raises =>
        rw [hhost] at htelling
        cases htelling
    exact ⟨k, q, _, s, c, e, hlived.requested k l q hl hlq, hhost, hdesk hl, hs, hchildren, hexit,
      hreports⟩
  case ofBuffer =>
    intro system ticket b text host
    exact hlived.requested?_check system ticket b text host
  case ofText =>
    intro system ticket text own
    refine ⟨_, _, requestedAt?_request List.getElem?_concat_length system ticket text _, rfl, rfl,
      rfl⟩

/-- In every run of a desk and of a provider checks are answered for the text and the settings that
they were requested with: whatever becomes of these settings, of those of the provider or the desk,
or of other buffers, between the request and the answer. -/
theorem checks_answered_as_requested (settings : Settings) (parser : OutputParser)
    (channel : Channel) :
    (∀ xs q, Desk.Requests (Desk.opened settings parser channel) xs q →
      let reached := Machine.run Desk.step (Desk.opened settings parser channel) xs
      q.Faithful parser
        (fun input => ∃ ticket child, .session q.id (.spawned ticket child) ∈ xs ∧
          child.stdin = some input)
        reached.1 reached.2) ∧
    ∀ es, AnswersAsRequested (opened settings parser channel) parser es
      (Machine.run happens (opened settings parser channel) es) := by
  constructor
  · intro xs q hq
    exact Desk.faithful_run settings parser channel xs hq
  · intro es
    exact answersAsRequested_run settings parser channel es

/-- A check of a text outside the basic plane. Before its process comes, the unit and the dialect of
the buffer are changed, and another buffer is checked. -/
def changedMeanwhile : List (Event Desk.Event) :=
  let system : System := { find := fun _ => some "/usr/bin/sqlfluff", environment := [] }
  let printed : Text :=
    "[\x7b\"line\": 1, \"start_column\": 4, \"end_column\": 5, \"message\": \"x\"\x7d]"
  [.check system 1 (.number 1) "'😀' a" (.display "r" none false),
    .desk 0 (.configure { offsetUnit := .utf16 }), .setDialect (.number 1) (.text "tsql"),
    .check system 2 (.number 2) "b" (.display "s" none false),
    .desk 0 (.session 1 (.spawned 1 { pid := 1001 })), .desk 0 (.session 1 (.read 0)),
    .desk 0 (.session 1 (.exit 0
      { code := 1, stdout := (Encoding.utf8.encode? printed).getD [] })),
    .desk 0 (.session 1 (.read 0))]

/-- A check is reported in the unit of its request, though the buffer has another one by then. -/
theorem reported_in_requested_unit :
    let p : Provider (Session Unit) := opened {} {} .log
    let reached := Machine.run happens p changedMeanwhile
    ∃ q : Check, Requested p changedMeanwhile 0 q ∧ q.settings.offsetUnit = .codePoint ∧
      (∃ d, reached.1.desks[0]? = some d ∧ d.coordinator.settings.offsetUnit = .utf16 ∧
        q.Faithful {}
          (fun input => ∃ ticket child,
            .desk 0 (.session q.id (.spawned ticket child)) ∈ changedMeanwhile ∧
              child.stdin = some input)
          d (notesAt 0 reached.2)) ∧
      (notesAt 0 reached.2).filterMap (fun
        | .told 1 _ (.report _ ds) => some (ds.map fun d => (d.range.start, d.range.stop))
        | _ => none) = [[(3, 4)]] := by
  intro p reached
  have hrequested : ∃ q : Check, Requested p changedMeanwhile 0 q ∧
      q.settings.offsetUnit = .codePoint := ⟨_, ⟨[], _, _, rfl, rfl⟩, rfl⟩
  have hlater : reached.1.desks[0]?.map (fun d => d.coordinator.settings.offsetUnit)
      = some .utf16 := by decide +kernel
  have htold : (notesAt 0 reached.2).filterMap (fun
      | .told 1 _ (.report _ ds) => some (ds.map fun d => (d.range.start, d.range.stop))
      | _ => none) = [[(3, 4)]] := by decide +kernel
  have hrun := (checks_answered_as_requested {} {} .log).2 changedMeanwhile
  -- The run is not to be computed any more.
  change AnswersAsRequested p {} changedMeanwhile reached at hrun
  clear_value reached
  obtain ⟨q, hq, hunit⟩ := hrequested
  obtain ⟨d, hd, hfaithful⟩ := hrun.faithful 0 q hq
  rw [hd] at hlater
  exact ⟨q, hq, hunit, ⟨d, hd, Option.some.inj hlater, hfaithful⟩, htold⟩

end Provider

end LiveLint
