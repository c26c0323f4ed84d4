import LiveLint.Proofs.Desk.Faithful
import LiveLint.Proofs.Provider.Machine

/-!
# The lives of a provider's desks

Whatever a provider does, it does at its desks, event by event; so each desk has a life of its own
(`Life`), which only ever goes on. This module follows the lives of all desks through an event of
the provider: what is seen of a desk has left it in its life, and what a waiting caller gets is what
its desk has told it (`Lived`, `Goes`).

Of the events in these lives two kinds matter to others: requests of checks, and processes that
come. Where they come from is kept by two relations that the lives have to satisfy, `asked` and
`given`.
-/

namespace LiveLint

/-- With what a desk was opened, and what has happened at it since. -/
structure Life where
  settings : Settings
  channel : Channel
  events : List Desk.Event := []

namespace Life

/-- The desk before anything happens. -/
def opened (parser : OutputParser) (l : Life) : Desk (Session Unit) :=
  Desk.opened l.settings parser l.channel

/-- The desk after its life so far, and all that has left it. -/
def lived (parser : OutputParser) (l : Life) : Desk (Session Unit) × List Note :=
  Machine.run Desk.step (l.opened parser) l.events

/-- More happens at the desk. -/
def add (l : Life) (more : List Desk.Event) : Life := { l with events := l.events ++ more }

/-- A check was requested at the desk. -/
def Requests (parser : OutputParser) (l : Life) (q : Check) : Prop :=
  Desk.Requests (l.opened parser) l.events q

variable {parser : OutputParser} {l : Life}

/-- A life goes on by nothing. -/
theorem add_nil (l : Life) : l.add [] = l := by
  simp [add]

/-- What happens in two parts happens in one. -/
theorem add_add (l : Life) (more rest : List Desk.Event) :
    (l.add more).add rest = l.add (more ++ rest) := by
  simp [add]

/-- One more event takes the desk as it is, and leaves behind what it does. -/
theorem lived_add (parser : OutputParser) (l : Life) (x : Desk.Event) :
    (l.add [x]).lived parser
      = (((l.lived parser).1.step x).1,
          (l.lived parser).2 ++ ((l.lived parser).1.step x).2) :=
  Machine.run_concat _ _ _

/-- What has left the desk has left it for good. -/
theorem mem_lived_add {n : Note} (h : n ∈ (l.lived parser).2) (more : List Desk.Event) :
    n ∈ ((l.add more).lived parser).2 := by
  have hrun : ((l.add more).lived parser).2
      = (l.lived parser).2 ++ (Machine.run Desk.step (l.lived parser).1 more).2 :=
    congrArg Prod.snd (Machine.run_append _ _ _)
  rw [hrun]
  exact List.mem_append_left _ h

/-- A check that was requested was so in a longer life as well. -/
theorem Requests.add {q : Check} (h : l.Requests parser q) (more : List Desk.Event) :
    (l.add more).Requests parser q := by
  obtain ⟨first, x, rest, heq, hq⟩ := h
  refine ⟨first, x, rest ++ more, ?_, hq⟩
  simp [Life.add, heq]

/-- With one more event, a check was requested before it or by it. -/
theorem requests_add_singleton {x : Desk.Event} {q : Check} :
    (l.add [x]).Requests parser q ↔
      l.Requests parser q ∨ (l.lived parser).1.requested? x = some q := by
  constructor
  · rintro ⟨first, y, rest, heq, hq⟩
    have heq : l.events ++ [x] = first ++ y :: rest := heq
    rcases rest.eq_nil_or_concat with rfl | ⟨rest, z, rfl⟩
    · obtain ⟨rfl, hxy⟩ := List.append_inj' heq rfl
      cases hxy
      exact .inr hq
    · have heq : l.events ++ [x] = (first ++ y :: rest) ++ [z] := by simpa using heq
      obtain ⟨hevents, -⟩ := List.append_inj' heq rfl
      exact .inl ⟨first, y, rest, hevents, hq⟩
  · rintro (h | h)
    · exact h.add [x]
    · exact ⟨l.events, x, [], rfl, h⟩

/-- The desk of a life is sound. -/
theorem sound_lived (parser : OutputParser) (l : Life) : Desk.Sound (l.lived parser).1 :=
  Desk.sound_run l.settings parser l.channel l.events

/-- What is done for a check is faithful to its request. -/
theorem Requests.faithful {q : Check} (h : l.Requests parser q) :
    q.Faithful parser
      (fun input => ∃ ticket child, .session q.id (.spawned ticket child) ∈ l.events ∧
        child.stdin = some input)
      (l.lived parser).1 (l.lived parser).2 :=
  Desk.faithful_run l.settings parser l.channel l.events h

/-- Whoever was told something has requested a check. -/
theorem requests_of_told {id : Nat} {found : CheckState} {telling : Telling}
    (h : .told id found telling ∈ (l.lived parser).2) :
    ∃ q : Check, q.id = id ∧ l.Requests parser q :=
  Desk.requests_of_told l.settings parser l.channel l.events h

end Life

/-- Every life goes on, and desks may be opened. -/
def GoOn (lives lives' : List Life) : Prop :=
  ∀ (k : Nat) (l : Life), lives[k]? = some l → ∃ more, lives'[k]? = some (l.add more)

/-- Lives go on by nothing. -/
theorem GoOn.refl (lives : List Life) : GoOn lives lives := by
  intro k l hl
  exact ⟨[], by rw [l.add_nil, hl]⟩

/-- Lives that go on twice go on. -/
theorem GoOn.trans {lives lives' lives'' : List Life} (h : GoOn lives lives')
    (hrest : GoOn lives' lives'') : GoOn lives lives'' := by
  intro k l hl
  obtain ⟨more, hl'⟩ := h k l hl
  obtain ⟨rest, hl''⟩ := hrest k _ hl'
  exact ⟨more ++ rest, by rw [← l.add_add, hl'']⟩

/-- With another desk all lives go on. -/
theorem goOn_append (lives : List Life) (l : Life) : GoOn lives (lives ++ [l]) := by
  intro k l' hl
  obtain ⟨hk, -⟩ := List.getElem?_eq_some_iff.1 hl
  exact ⟨[], by rw [List.getElem?_append_left hk, hl, l'.add_nil]⟩

/-- All lives go on if one of them does. -/
theorem goOn_set {lives : List Life} {k : Nat} {l : Life} (hl : lives[k]? = some l)
    (more : List Desk.Event) : GoOn lives (lives.set k (l.add more)) := by
  intro i l' hl'
  by_cases hik : k = i
  · subst hik
    obtain rfl : l = l' := Option.some.inj (hl.symm.trans hl')
    obtain ⟨hk, -⟩ := List.getElem?_eq_some_iff.1 hl
    exact ⟨more, List.getElem?_set_self hk⟩
  · exact ⟨[], by rw [List.getElem?_set_ne hik, hl', l'.add_nil]⟩

/-- A desk has told a caller these diagnostics. -/
def Told (parser : OutputParser) (lives : List Life) (ticket : Nat) (ds : List Diagnostic) : Prop :=
  ∃ (k : Nat) (l : Life) (id : Nat) (found : CheckState), lives[k]? = some l ∧
    .told id found (.answer ticket (.ok ds)) ∈ (l.lived parser).2

/-- A check was requested at a desk. -/
def Recorded (parser : OutputParser) (lives : List Life) (k : Nat) (q : Check) : Prop :=
  ∃ l, lives[k]? = some l ∧ l.Requests parser q

/-- What leaves the provider for a desk is a log line or has left the desk. A caller gets
diagnostics that a desk has told it. -/
def ProviderNote.Sincere (parser : OutputParser) (lives : List Life) : ProviderNote → Prop
  | .desk k n =>
    (∃ line, n = .log line) ∨ ∃ l, lives[k]? = some l ∧ n ∈ (l.lived parser).2
  | .checked ticket (.ok ds) => Told parser lives ticket ds
  | .checked _ (.error _) => True

section

variable {parser : OutputParser} {lives lives' : List Life}

/-- What was told stays told. -/
theorem Told.goOn {ticket : Nat} {ds : List Diagnostic} (h : Told parser lives ticket ds)
    (hon : GoOn lives lives') : Told parser lives' ticket ds := by
  obtain ⟨k, l, id, found, hl, htold⟩ := h
  obtain ⟨more, hl'⟩ := hon k l hl
  exact ⟨k, _, id, found, hl', Life.mem_lived_add htold more⟩

/-- What was recorded stays recorded. -/
theorem Recorded.goOn {k : Nat} {q : Check} (h : Recorded parser lives k q)
    (hon : GoOn lives lives') : Recorded parser lives' k q := by
  obtain ⟨l, hl, hq⟩ := h
  obtain ⟨more, hl'⟩ := hon k l hl
  exact ⟨_, hl', hq.add more⟩

/-- What leaves the provider has left it for good. -/
theorem ProviderNote.Sincere.goOn {n : ProviderNote} (h : n.Sincere parser lives)
    (hon : GoOn lives lives') : n.Sincere parser lives' := by
  cases n with
  | desk k n =>
    rcases h with hlog | ⟨l, hl, hn⟩
    · exact .inl hlog
    · obtain ⟨more, hl'⟩ := hon k l hl
      exact .inr ⟨_, hl', Life.mem_lived_add hn more⟩
  | checked ticket result =>
    cases result with
    | ok ds => exact Told.goOn h hon
    | error f => exact trivial

end

namespace Provider

/-- The check that an event at a desk requests, with the number of the desk. -/
def requestedAt? (p : Provider (Session Unit)) (k : Nat) (x : Desk.Event) : Option (Nat × Check) :=
  p.desks[k]?.bind fun d => (d.requested? x).map fun q => (k, q)

section

/- Which checks were requested at which desk, and which processes came to the sessions there. -/
variable (asked : Nat → Check → Prop) (given : Nat → Nat → Child → Prop) (parser : OutputParser)

/-- The desks of a provider have had these lives. -/
structure Lived (p : Provider (Session Unit)) (lives : List Life) : Prop where
  desks : p.desks = lives.map fun l => (l.lived parser).1
  judges : p.parser = parser
  /-- Every buffer has a desk. -/
  registry : ∀ r ∈ p.registry, r.2 < p.desks.length
  answers : ∀ o ∈ p.oneShots, ∀ ds, o.answer = some (.ok ds) → Told parser lives o.ticket ds
  requested : ∀ k l q, lives[k]? = some l → l.Requests parser q → asked k q
  came : ∀ k l id ticket child, lives[k]? = some l →
    .session id (.spawned ticket child) ∈ l.events → given k id child

/-- What the provider has come to be, and what has left it, came about by the lives of its desks
going on. If a check was to be requested, it was. -/
def Goes (lives : List Life) (requested : Option (Nat × Check))
    (out : Provider (Session Unit) × List ProviderNote) : Prop :=
  ∃ lives', GoOn lives lives' ∧ Lived asked given parser out.1 lives' ∧
    (∀ n ∈ out.2, n.Sincere parser lives') ∧
    ∀ k q, requested = some (k, q) → Recorded parser lives' k q

end

variable {asked : Nat → Check → Prop} {given : Nat → Nat → Child → Prop} {parser : OutputParser}
  {p p' p'' : Provider (Session Unit)} {lives : List Life}

/-- A provider to which nothing is done goes on with the lives of its desks. -/
theorem Lived.goes (h : Lived asked given parser p lives) :
    Goes asked given parser lives none (p, []) :=
  ⟨lives, .refl lives, h, by simp, by simp⟩

/-- What the provider does after it has done something else. -/
theorem Goes.append {requested : Option (Nat × Check)} {notes more : List ProviderNote}
    (h : Goes asked given parser lives requested (p', notes))
    (hrest : ∀ lives', GoOn lives lives' → Lived asked given parser p' lives' →
      Goes asked given parser lives' none (p'', more)) :
    Goes asked given parser lives requested (p'', notes ++ more) := by
  obtain ⟨lives', hon, hlived, hnotes, hrequested⟩ := h
  obtain ⟨lives'', hon', hlived', hmore, -⟩ := hrest lives' hon hlived
  refine ⟨lives'', hon.trans hon', hlived', fun n hn => ?_, fun k q hq =>
    (hrequested k q hq).goOn hon'⟩
  rcases List.mem_append.1 hn with hn | hn
  · exact (hnotes n hn).goOn hon'
  · exact hmore n hn

/-- What the provider does before it requests a check. -/
theorem Goes.prepend {requested : Option (Nat × Check)} {notes more : List ProviderNote}
    (h : Goes asked given parser lives none (p', notes))
    (hrest : ∀ lives', Lived asked given parser p' lives' →
      Goes asked given parser lives' requested (p'', more)) :
    Goes asked given parser lives requested (p'', notes ++ more) := by
  obtain ⟨lives', hon, hlived, hnotes, -⟩ := h
  obtain ⟨lives'', hon', hlived', hmore, hrequested⟩ := hrest lives' hlived
  refine ⟨lives'', hon.trans hon', hlived', fun n hn => ?_, hrequested⟩
  rcases List.mem_append.1 hn with hn | hn
  · exact (hnotes n hn).goOn hon'
  · exact hmore n hn

/-- More that leaves the provider. -/
theorem Goes.say {requested : Option (Nat × Check)} {notes more : List ProviderNote}
    (h : Goes asked given parser lives requested (p', notes))
    (hmore : ∀ lives', GoOn lives lives' → ∀ n ∈ more, n.Sincere parser lives') :
    Goes asked given parser lives requested (p', notes ++ more) := by
  obtain ⟨lives', hon, hlived, hnotes, hrequested⟩ := h
  refine ⟨lives', hon, hlived, fun n hn => ?_, hrequested⟩
  rcases List.mem_append.1 hn with hn | hn
  · exact hnotes n hn
  · exact hmore lives' hon n hn

/-! ## What happens at one desk -/

/-- A desk of the provider has a life. -/
theorem Lived.life (h : Lived asked given parser p lives) {k : Nat} {d : Desk (Session Unit)}
    (hd : p.desks[k]? = some d) : ∃ l, lives[k]? = some l ∧ d = (l.lived parser).1 := by
  rw [h.desks, List.getElem?_map, Option.map_eq_some_iff] at hd
  obtain ⟨l, hl, rfl⟩ := hd
  exact ⟨l, hl, rfl⟩

/-- An event may happen at a desk if a check that it requests, and a process that it brings, are
known of. -/
def Allowed (asked : Nat → Check → Prop) (given : Nat → Nat → Child → Prop)
    (p : Provider (Session Unit)) (k : Nat) (x : Desk.Event) : Prop :=
  (∀ q, p.requestedAt? k x = some (k, q) → asked k q) ∧
    ∀ id ticket child, x = .session id (.spawned ticket child) → given k id child

/-- An event at a desk is one more event in its life. -/
theorem Lived.put (h : Lived asked given parser p lives) {k : Nat} {d : Desk (Session Unit)}
    (hd : p.desks[k]? = some d) {x : Desk.Event} (hx : Allowed asked given p k x) :
    ∃ l, lives[k]? = some l ∧ d = (l.lived parser).1 ∧
      Lived asked given parser (p.put k (d.step x).1) (lives.set k (l.add [x])) := by
  obtain ⟨l, hl, rfl⟩ := h.life hd
  refine ⟨l, hl, rfl, ?_⟩
  -- A life of the new list is the one that goes on or one of before.
  have hset {i : Nat} {l' : Life} (hl' : (lives.set k (l.add [x]))[i]? = some l') :
      i = k ∧ l' = l.add [x] ∨ lives[i]? = some l' := by
    by_cases hik : k = i
    · subst hik
      obtain ⟨hk, -⟩ := List.getElem?_eq_some_iff.1 hl
      rw [List.getElem?_set_self hk] at hl'
      exact .inl ⟨rfl, (Option.some.inj hl').symm⟩
    · rw [List.getElem?_set_ne hik] at hl'
      exact .inr hl'
  constructor
  case desks =>
    rw [List.map_set, Life.lived_add, ← h.desks]
    rfl
  case judges => exact h.judges
  case registry =>
    intro r hr
    have hlength : (p.put k ((l.lived parser).1.step x).1).desks.length = p.desks.length :=
      List.length_set
    rw [hlength]
    exact h.registry r hr
  case answers =>
    intro o ho ds hds
    exact (h.answers o ho ds hds).goOn (goOn_set hl [x])
  case requested =>
    intro i l' q hl' hq
    rcases hset hl' with ⟨rfl, rfl⟩ | hl'
    · rcases Life.requests_add_singleton.1 hq with hq | hq
      · exact h.requested i l q hl hq
      · refine hx.1 q ?_
        rw [requestedAt?, hd, Option.bind_some, hq]
        rfl
    · exact h.requested i l' q hl' hq
  case came =>
    intro i l' id ticket child hl' hmem
    rcases hset hl' with ⟨rfl, rfl⟩ | hl'
    · rcases List.mem_append.1 hmem with hmem | hmem
      · exact h.came i l id ticket child hl hmem
      · exact hx.2 id ticket child (List.mem_singleton.1 hmem).symm
    · exact h.came i l' id ticket child hl' hmem

/-- What leaves a desk at an event has left it in its life. -/
theorem Lived.step (h : Lived asked given parser p lives) {k : Nat} {d : Desk (Session Unit)}
    (hd : p.desks[k]? = some d) {x : Desk.Event} (hx : Allowed asked given p k x) :
    ∃ lives' l, GoOn lives lives' ∧ Lived asked given parser (p.put k (d.step x).1) lives' ∧
      lives'[k]? = some l ∧ (∀ n ∈ (d.step x).2, n ∈ (l.lived parser).2) ∧
      ∀ q, d.requested? x = some q → l.Requests parser q := by
  obtain ⟨l, hl, rfl, hlived⟩ := h.put hd hx
  obtain ⟨hk, -⟩ := List.getElem?_eq_some_iff.1 hl
  refine ⟨_, l.add [x], goOn_set hl [x], hlived, List.getElem?_set_self hk, fun n hn => ?_,
    fun q hq => Life.requests_add_singleton.2 (.inr hq)⟩
  rw [Life.lived_add]
  exact List.mem_append_right _ hn

/-- Most events request no check and bring no process. -/
theorem allowed_of_plain {k : Nat} {x : Desk.Event}
    (hrequest : ∀ d : Desk (Session Unit), d.requested? x = none)
    (hspawned : ∀ id ticket child, x ≠ .session id (.spawned ticket child)) :
    Allowed asked given p k x := by
  refine ⟨fun q hq => ?_, fun id ticket child heq => absurd heq (hspawned id ticket child)⟩
  obtain ⟨d, -, hq⟩ := Option.bind_eq_some_iff.1 hq
  rw [hrequest d] at hq
  cases hq

/-- A check that is canceled at a desk is one more event in its life. -/
theorem Lived.cancelAt (h : Lived asked given parser p lives) (k : Nat) :
    Goes asked given parser lives none
      ((p.cancelAt k).1, (p.cancelAt k).2.2.map (.desk k)) := by
  cases hd : p.desks[k]? with
  | none =>
    rw [cancelAt_of_none hd]
    exact h.goes
  | some d =>
    obtain ⟨lives', l, hon, hlived, hl, hnotes, -⟩ :=
      h.step hd (allowed_of_plain (x := .cancel) (fun _ => rfl) (by simp))
    rw [cancelAt_of_desk hd]
    refine ⟨lives', hon, hlived, fun n hn => ?_, by simp⟩
    obtain ⟨n', hn', rfl⟩ := List.mem_map.1 hn
    exact .inr ⟨l, hl, hnotes n' hn'⟩

/-- Settings for a desk are one more event in its life. -/
theorem Lived.configureAt (h : Lived asked given parser p lives) (k : Nat) (s : Settings) :
    Goes asked given parser lives none (p.configureAt k s, []) := by
  cases hd : p.desks[k]? with
  | none =>
    rw [configureAt_of_none hd]
    exact h.goes
  | some d =>
    obtain ⟨lives', l, hon, hlived, -, -, -⟩ := 
      h.step hd (allowed_of_plain (x := .configure s) (fun _ => rfl) (by simp))
    rw [configureAt_of_desk hd]
    exact ⟨lives', hon, hlived, by simp, by simp⟩

/-! ## Callers that wait -/

/-- The callers that wait may be others, or have other answers, if these were told. -/
theorem Lived.callers (h : Lived asked given parser p lives) {oneShots : List OneShot}
    (hanswers : ∀ o ∈ oneShots, ∀ ds, o.answer = some (.ok ds) →
      Told parser lives o.ticket ds) :
    Lived asked given parser { p with oneShots } lives :=
  ⟨h.desks, h.judges, h.registry, hanswers, h.requested, h.came⟩

/-- A caller can be marked if its diagnostics were told by a desk. -/
theorem Lived.mapOneShot (h : Lived asked given parser p lives) {ticket : Nat}
    {f : OneShot → OneShot}
    (hf : ∀ o ∈ p.oneShots, o.ticket = ticket → ∀ ds, (f o).answer = some (.ok ds) →
      Told parser lives (f o).ticket ds) :
    Lived asked given parser (p.mapOneShot ticket f) lives := by
  refine h.callers fun o' hmem => ?_
  obtain ⟨o, ho, rfl⟩ := List.mem_map.1 hmem
  by_cases hticket : o.ticket = ticket
  · rw [if_pos hticket]
    exact hf o ho hticket
  · rw [if_neg hticket]
    exact h.answers o ho

/-- A call ends with diagnostics only if a desk has told them. -/
theorem Lived.endOneShot (h : Lived asked given parser p lives) (s : OneShot)
    {result : Except Failure (List Diagnostic)}
    (hresult : ∀ ds, result = .ok ds → Told parser lives s.ticket ds) :
    Goes asked given parser lives none (p.endOneShot s result) := by
  have hfewer : Lived asked given parser
      { p with oneShots := p.oneShots.filter fun o => o.ticket != s.ticket } lives :=
    h.callers fun o ho => h.answers o (List.mem_filter.1 ho).1
  refine (hfewer.cancelAt s.desk).say fun lives' hon n hn => ?_
  rw [List.mem_singleton.1 hn]
  cases result with
  | ok ds => exact (hresult ds rfl).goOn hon
  | error f => exact trivial

/-- A call that can end does so with what a desk has told. -/
theorem Lived.tryEnd (h : Lived asked given parser p lives) (ticket : Nat) :
    Goes asked given parser lives none (p.tryEnd ticket) := by
  unfold Provider.tryEnd
  cases hs : p.oneShot? ticket with
  | none => exact h.goes
  | some s =>
    have hmem : s ∈ p.oneShots := List.mem_of_find?_eq_some hs
    dsimp only
    split
    case h_1 ds _ hanswer =>
      refine h.endOneShot s fun ds' heq => ?_
      cases heq
      exact h.answers s hmem ds hanswer
    case h_2 => exact h.endOneShot s fun ds' heq => by cases heq
    case h_3 => exact h.goes

/-- The provider keeps for its callers what their desks have told them, and passes on the rest. -/
theorem Lived.absorbOne (h : Lived asked given parser p lives) {k : Nat} {l : Life}
    (hl : lives[k]? = some l) {n : Note} (hn : n ∈ (l.lived parser).2) :
    Goes asked given parser lives none (p.absorbOne k n) := by
  have hpassed : Goes asked given parser lives none (p, [.desk k n]) := by
    refine ⟨lives, .refl lives, h, fun m hm => ?_, by simp⟩
    rw [List.mem_singleton.1 hm]
    exact .inr ⟨l, hl, hn⟩
  cases n with
  | told id found telling =>
    cases telling with
    | answer ticket result =>
      -- The caller keeps the first answer that it was given.
      refine Lived.tryEnd (h.mapOneShot fun o ho hticket ds hds => ?_) ticket
      rcases Option.or_eq_some_iff.1 hds with hds | ⟨-, hds⟩
      · exact h.answers o ho ds hds
      · cases hds
        exact ⟨k, l, id, found, hl, hticket ▸ hn⟩
    | _ => exact hpassed
  | returned ticket result =>
    unfold Provider.absorbOne
    dsimp only
    cases p.oneShot? ticket with
    | none => exact hpassed
    | some s =>
      cases result with
      | ok id =>
        have hmarked : Lived asked given parser
            (p.mapOneShot ticket fun (o : OneShot) => { o with requested := true }) lives :=
          h.mapOneShot fun o ho _ => h.answers o ho
        exact hmarked.tryEnd ticket
      | error f => exact h.endOneShot s fun ds heq => by cases heq
  | _ => exact hpassed

/-- What has left a desk is absorbed without any change of a life. -/
theorem Lived.absorb (h : Lived asked given parser p lives) {k : Nat} {l : Life}
    (hl : lives[k]? = some l) {notes : List Note}
    (hnotes : ∀ n ∈ notes, n ∈ (l.lived parser).2) :
    Goes asked given parser lives none (p.absorb k notes) := by
  induction notes generalizing p lives l with
  | nil => exact h.goes
  | cons n rest ih =>
    rw [absorb_cons]
    refine Goes.append (h.absorbOne hl (hnotes n List.mem_cons_self)) fun lives' hon hlived => ?_
    -- Meanwhile the life of the desk may have gone on.
    obtain ⟨more, hl'⟩ := hon k l hl
    refine ih hlived hl' fun m hm => ?_
    exact Life.mem_lived_add (hnotes m (List.mem_cons_of_mem n hm)) more

/-! ## What is done at a desk -/

/-- An event happens at a desk, and the provider sees to what leaves it. -/
theorem Lived.atDesk (h : Lived asked given parser p lives) {k : Nat} {x : Desk.Event}
    (hx : Allowed asked given p k x) :
    Goes asked given parser lives (p.requestedAt? k x) (p.atDesk k fun d => d.step x) := by
  cases hd : p.desks[k]? with
  | none =>
    have hnone : p.requestedAt? k x = none := by simp [requestedAt?, hd]
    rw [atDesk_of_none hd, hnone]
    exact h.goes
  | some d =>
    have hasked : p.requestedAt? k x = (d.requested? x).map fun q => (k, q) := by
      simp [requestedAt?, hd]
    obtain ⟨lives', l, hon, hlived, hl, hnotes, hq⟩ := h.step hd hx
    rw [atDesk_of_desk hd, hasked]
    obtain ⟨lives'', hon', hlived', hmore, -⟩ := hlived.absorb hl hnotes
    refine ⟨lives'', hon.trans hon', hlived', hmore, fun i q heq => ?_⟩
    obtain ⟨q, heq, hpair⟩ := Option.map_eq_some_iff.1 heq
    cases hpair
    exact Recorded.goOn ⟨l, hl, hq q heq⟩ hon'

/-! ## Desks are opened -/

/-- A desk that is opened begins a life. -/
theorem Lived.addDesk (h : Lived asked given parser p lives) (settings : Settings)
    (channel : Channel) :
    Lived asked given parser (p.addDesk settings channel).1
      (lives ++ [⟨settings, channel, []⟩]) := by
  have hon := goOn_append lives ⟨settings, channel, []⟩
  -- A new desk has no past.
  have hold {k : Nat} {l : Life} (hl : (lives ++ [⟨settings, channel, []⟩])[k]? = some l) :
      lives[k]? = some l ∨ l.events = [] := by
    rw [List.getElem?_append] at hl
    split at hl
    · exact .inl hl
    · rw [List.mem_singleton.1 (List.mem_of_getElem? hl)]
      exact .inr rfl
  constructor
  case desks =>
    rw [List.map_append, ← h.desks, ← h.judges]
    rfl
  case judges => exact h.judges
  case registry =>
    intro r hr
    have hlength : (p.addDesk settings channel).1.desks.length = p.desks.length + 1 :=
      List.length_append
    have := h.registry r hr
    omega
  case answers =>
    intro o ho ds hds
    exact (h.answers o ho ds hds).goOn hon
  case requested =>
    intro k l q hl hq
    rcases hold hl with hl | hempty
    · exact h.requested k l q hl hq
    · obtain ⟨first, x, rest, heq, -⟩ := hq
      simp [hempty] at heq
  case came =>
    intro k l id ticket child hl hmem
    rcases hold hl with hl | hempty
    · exact h.came k l id ticket child hl hmem
    · simp [hempty] at hmem

/-- The open buffers may be others, if their desks exist. -/
theorem Lived.register (h : Lived asked given parser p lives) (registry : List (BufferId × Nat))
    (hregistry : ∀ r ∈ registry, r.2 < p.desks.length) :
    Lived asked given parser { p with registry } lives :=
  ⟨h.desks, h.judges, hregistry, h.answers, h.requested, h.came⟩

/-- Asking for the desk of a buffer begins a life or goes on with one. -/
theorem Lived.deskFor (h : Lived asked given parser p lives) (b : BufferId)
    (settings : Option Settings) :
    Goes asked given parser lives none ((p.deskFor b settings).1, []) := by
  cases hb : p.deskOf? b with
  | some k =>
    rw [deskFor_of_open hb]
    cases settings with
    | none => exact h.goes
    | some s => exact h.configureAt k s
  | none =>
    have hopened := h.addDesk (settings.getD p.settings) p.channel
    have hregistered := hopened.register (p.registry ++ [(b, p.desks.length)]) fun r hr => by
      rcases List.mem_append.1 hr with hr | hr
      · exact hopened.registry r hr
      · simp [List.mem_singleton.1 hr, Provider.addDesk]
    rw [deskFor_of_closed hb]
    exact ⟨_, goOn_append lives _, hregistered, by simp, by simp⟩

/-- The desk of a buffer exists once it was asked for. -/
theorem Lived.deskFor_lt (h : Lived asked given parser p lives) (b : BufferId) :
    (p.deskFor b none).2.1 < (p.deskFor b none).1.desks.length := by
  cases hb : p.deskOf? b with
  | some k =>
    rw [deskFor_of_open hb]
    obtain ⟨r, hr, rfl⟩ := Option.map_eq_some_iff.1 hb
    exact h.registry r (List.mem_of_find?_eq_some hr)
  | none =>
    rw [deskFor_of_closed hb]
    simp [openBuffer, Provider.addDesk]

end Provider

end LiveLint
