import LiveLint.Proofs.Provider.Moves

/-!
# What leaves a provider, and what leaves its desks

An event has one desk at most do something of its own, and what leaves that desk then is seen to by
the provider (`leaves`). Hence all that is seen of a desk is a log line or has left it at the event,
and what a waiting caller gets is an answer that a desk has given, or an error with which its
request returns (`Accords.happens`).
-/

namespace LiveLint

namespace Provider

/-- What leaves a desk by what an event does there. -/
def leaves (p : Provider (Session Unit)) (k : Nat) : Event Desk.Event → List Note
  | .check system ticket b text host =>
    let (p, j, _) := p.deskFor b none
    if k = j then p.notesBy k fun d => d.step (.request system ticket text host) else []
  | .checkText system ticket text own =>
    let settings := own.getD p.settings
    if k = p.desks.length then
      (p.enlist ticket settings).notesBy k fun d => d.step (.request system ticket text (.caller ticket))
    else []
  | .desk j x => if k = j then p.notesBy k fun d => d.step x else []
  | _ => []

section

/- Which answers a caller may get, and what may leave the desks. -/
variable (answers : Nat → Except LintError (List Diagnostic) → Prop) (left : Nat → List Note)

/-- The answers that are kept for callers may be given. -/
def Accords (p : Provider (Session Unit)) : Prop :=
  ∀ o ∈ p.oneShots, ∀ r, o.answer = some r → answers o.ticket r

/-- What leaves the provider comes from its desks. -/
def Grounded : ProviderNote → Prop
  | .desk k n => n.isLog ∨ n ∈ left k
  | .checked ticket (.ok ds) => answers ticket (.ok ds)
  | .checked ticket (.error (.lint e)) => answers ticket (.error e)
  | .checked ticket (.error (.fault f)) => ∃ k, .returned ticket (.error f) ∈ left k

end

variable {answers : Nat → Except LintError (List Diagnostic) → Prop} {left : Nat → List Note}
  {p : Provider (Session Unit)} {k : Nat}

/-- What leaves a desk by an event there is what the event leaves behind. -/
theorem leaves_desk {d : Desk (Session Unit)} (hd : p.desks[k]? = some d) (x : Desk.Event) :
    p.leaves k (.desk k x) = (d.step x).2 := by
  simp [leaves, notesBy, hd]

/-! ## Callers that wait -/

/-- Canceling the check at a desk leaves nothing but lines in the log. -/
theorem isLog_cancelAt (p : Provider (Session Unit)) (k : Nat) {n : Note}
    (hn : n ∈ (p.cancelAt k).2.2) : n.isLog := by
  cases hd : p.desks[k]? with
  | none =>
    rw [cancelAt_of_none hd] at hn
    cases hn
  | some d =>
    rw [cancelAt_of_desk hd] at hn
    exact Desk.isLog_cancel d hn

/-- What leaves the provider as a check is canceled comes from the desk. -/
theorem grounded_cancelAt (p : Provider (Session Unit)) (k : Nat) {m : ProviderNote}
    (hm : m ∈ (p.cancelAt k).2.2.map (.desk k)) : Grounded answers left m := by
  obtain ⟨n, hn, rfl⟩ := List.mem_map.1 hm
  exact .inl (p.isLog_cancelAt k hn)

/-- Canceling the check at a desk ends no call. -/
theorem oneShots_cancelAt (p : Provider (Session Unit)) (k : Nat) :
    (p.cancelAt k).1.oneShots = p.oneShots := by
  rw [cancelAt_eq_alter]
  rfl

/-- A call that ends takes its answer with it, and others keep theirs. -/
theorem Accords.endOneShot (h : Accords answers p) (s : OneShot)
    {result : Except Failure (List Diagnostic)}
    (hresult : Grounded answers left (.checked s.ticket result)) :
    Accords answers (p.endOneShot s result).1 ∧
      ∀ m ∈ (p.endOneShot s result).2, Grounded answers left m := by
  constructor
  · intro o ho
    have hkept : o ∈ (p.without s.ticket).oneShots := by
      rw [endOneShot_eq_alter] at ho
      exact ho
    exact h o (List.mem_filter.1 hkept).1
  · intro m hm
    rcases List.mem_append.1 hm with hm | hm
    · exact grounded_cancelAt _ _ hm
    · rw [List.mem_singleton.1 hm]
      exact hresult

/-- A call that can end does so with an answer that may be given. -/
theorem Accords.tryEnd (h : Accords answers p) (ticket : Nat) :
    Accords answers (p.tryEnd ticket).1 ∧
      ∀ m ∈ (p.tryEnd ticket).2, Grounded answers left m := by
  unfold Provider.tryEnd
  cases hs : p.oneShot? ticket with
  | none => exact ⟨h, by simp⟩
  | some s =>
    have hmem : s ∈ p.oneShots := List.mem_of_find?_eq_some hs
    dsimp only
    split
    case h_1 ds _ hanswer => exact h.endOneShot s (h s hmem _ hanswer)
    case h_2 e _ hanswer => exact h.endOneShot s (h s hmem _ hanswer)
    case h_3 => exact ⟨h, by simp⟩

/-- Marking a caller is in order if the answer that it gets may be given. -/
theorem Accords.mapOneShot (h : Accords answers p) (ticket : Nat) {f : OneShot → OneShot}
    (hf : ∀ o ∈ p.oneShots, o.ticket = ticket → ∀ r, (f o).answer = some r →
      answers (f o).ticket r) : Accords answers (p.mapOneShot ticket f) := by
  intro o' ho'
  obtain ⟨o, ho, rfl⟩ := List.mem_map.1 ho'
  by_cases hticket : o.ticket = ticket
  · rw [if_pos hticket]
    exact hf o ho hticket
  · rw [if_neg hticket]
    exact h o ho

/-- A note that has left a desk gives its caller an answer that may be given, and goes no
further. -/
theorem Accords.absorbOne (h : Accords answers p) {n : Note} (hn : n ∈ left k)
    (htold : ∀ id found ticket r, n = .told id found (.answer ticket r) → answers ticket r) :
    Accords answers (p.absorbOne k n).1 ∧
      ∀ m ∈ (p.absorbOne k n).2, Grounded answers left m := by
  have hpassed : Accords answers p ∧ ∀ m ∈ [ProviderNote.desk k n], Grounded answers left m := by
    refine ⟨h, fun m hm => ?_⟩
    rw [List.mem_singleton.1 hm]
    exact .inr hn
  cases n with
  | told id found telling =>
    cases telling with
    | answer ticket r =>
      refine Accords.tryEnd (h.mapOneShot ticket fun o ho hticket r' hr' => ?_) ticket
      rcases Option.or_eq_some_iff.1 hr' with hr' | ⟨-, hr'⟩
      · exact h o ho r' hr'
      · cases hr'
        exact hticket ▸ htold id found ticket r rfl
    | _ => exact hpassed
  | returned ticket result =>
    unfold Provider.absorbOne
    dsimp only
    cases hs : p.oneShot? ticket with
    | none => exact hpassed
    | some s =>
      cases result with
      | ok id =>
        exact Accords.tryEnd (h.mapOneShot ticket (f := fun o => { o with requested := true })
          fun o ho _ => h o ho) ticket
      | error f =>
        refine h.endOneShot s ⟨k, ?_⟩
        rw [ticket_of_oneShot? hs]
        exact hn
  | _ => exact hpassed

/-- Notes that have left a desk give callers answers that may be given. -/
theorem Accords.absorb (h : Accords answers p) {notes : List Note} (hnotes : ∀ n ∈ notes, n ∈ left k)
    (htold : ∀ id found ticket r, .told id found (.answer ticket r) ∈ notes → answers ticket r) :
    Accords answers (p.absorb k notes).1 ∧
      ∀ m ∈ (p.absorb k notes).2, Grounded answers left m := by
  induction notes generalizing p with
  | nil => exact ⟨h, fun m hm => absurd hm List.not_mem_nil⟩
  | cons n rest ih =>
    obtain ⟨hone, hfirst⟩ := h.absorbOne (hnotes n List.mem_cons_self)
      fun id found ticket r heq => htold id found ticket r (heq ▸ List.mem_cons_self)
    obtain ⟨hall, hrest⟩ := ih hone (fun m hm => hnotes m (List.mem_cons_of_mem n hm))
      fun id found ticket r hmem => htold id found ticket r (List.mem_cons_of_mem n hmem)
    rw [absorb_cons]
    exact ⟨hall, fun m hm => (List.mem_append.1 hm).elim (hfirst m) (hrest m)⟩

/-- What is done at a desk gives callers answers that may be given. -/
theorem Accords.atDesk (h : Accords answers p) (left : Nat → List Note) (k : Nat)
    (act : Desk (Session Unit) → Desk (Session Unit) × List Note)
    (hleft : ∀ n ∈ p.notesBy k act, n ∈ left k)
    (htold : ∀ id found ticket r, .told id found (.answer ticket r) ∈ left k → answers ticket r) :
    Accords answers (p.atDesk k act).1 ∧
      ∀ m ∈ (p.atDesk k act).2, Grounded answers left m := by
  rw [atDesk_eq_absorb]
  exact Accords.absorb (p := p.alter k fun d => (act d).1) h hleft
    fun id found ticket r hmem => htold id found ticket r (hleft _ hmem)

/-! ## Events -/

/-- Settings for a desk end no call. -/
theorem oneShots_configureAt (p : Provider (Session Unit)) (k : Nat) (s : Settings) :
    (p.configureAt k s).oneShots = p.oneShots := by
  rw [configureAt_eq_alter]
  rfl

/-- Asking for the desk of a buffer ends no call. -/
theorem oneShots_deskFor (p : Provider (Session Unit)) (b : BufferId)
    (settings : Option Settings) : (p.deskFor b settings).1.oneShots = p.oneShots := by
  cases hb : p.deskOf? b with
  | some j =>
    rw [deskFor_of_open hb]
    cases settings with
    | none => rfl
    | some s => exact oneShots_configureAt p j s
  | none =>
    rw [deskFor_of_closed hb]
    rfl

/-- Setting a dialect ends no call. -/
theorem oneShots_setDialect (p : Provider (Session Unit)) (b : BufferId) (dialect : Value) :
    (p.setDialect b dialect).1.oneShots = p.oneShots := by
  unfold Provider.setDialect
  dsimp only
  split
  · exact oneShots_deskFor p b none
  · exact (oneShots_configureAt _ _ _).trans (oneShots_deskFor p b none)

/-- Lines that are logged for a desk are for the log. -/
theorem grounded_logged {n : ProviderNote} {lines : List LogLine} (hn : .note n ∈ logged k lines) :
    Grounded answers left n := by
  obtain ⟨line, -, heq⟩ := List.mem_map.1 hn
  cases heq
  exact .inl rfl

/-- Closing a buffer ends no call, and all that leaves the provider comes from the desk. -/
theorem Accords.closeStep (h : Accords answers p) (left : Nat → List Note) (b : BufferId) :
    Accords answers (p.closeStep b).1 ∧
      ∀ n, .note n ∈ (p.closeStep b).2 → Grounded answers left n := by
  cases hb : p.deskOf? b with
  | none =>
    rw [closeStep_of_closed hb]
    exact ⟨h, by simp⟩
  | some j =>
    rw [closeStep_of_open hb]
    constructor
    · intro o ho
      rw [oneShots_cancelAt] at ho
      exact h o ho
    · intro n hn
      rcases List.mem_append.1 hn with hn | hn
      · rcases List.mem_append.1 hn with hn | hn
        · obtain ⟨note, hnote, heq⟩ := List.mem_map.1 hn
          cases heq
          exact grounded_cancelAt _ j (List.mem_map_of_mem hnote)
        · exact grounded_logged hn
      · cases List.mem_singleton.1 hn

/-- Closing several buffers ends no call, and all that leaves the provider comes from their
desks. -/
theorem Accords.closeAll (h : Accords answers p) (left : Nat → List Note) (bs : List BufferId) :
    Accords answers (Machine.run Provider.closeStep p bs).1 ∧
      ∀ n, .note n ∈ (Machine.run Provider.closeStep p bs).2 → Grounded answers left n := by
  induction bs generalizing p with
  | nil => exact ⟨h, by simp⟩
  | cons b bs ih =>
    obtain ⟨hone, hfirst⟩ := h.closeStep left b
    obtain ⟨hall, hrest⟩ := ih hone
    rw [Machine.run_cons]
    exact ⟨hall, fun n hn => (List.mem_append.1 hn).elim (hfirst n) (hrest n)⟩

/-- Of a caller that gives up, log lines of its desk are all that is seen. -/
theorem abandon_notes (p : Provider (Session Unit)) (ticket : Nat) {m : ProviderNote}
    (hm : m ∈ (p.abandon ticket).2) : ∃ j n, m = .desk j n ∧ n.isLog := by
  cases hs : p.oneShot? ticket with
  | none =>
    unfold Provider.abandon at hm
    rw [hs] at hm
    cases hm
  | some s =>
    have hnone : ((p.without ticket).atDesk s.desk (leave ticket)).2 = [] := by
      rw [atDesk_eq_absorb]
      unfold notesBy
      cases (p.without ticket).desks[s.desk]? with
      | none => rfl
      | some d =>
        rw [Option.map_some, Option.getD_some, notes_leave]
        rfl
    unfold Provider.abandon at hm
    rw [hs] at hm
    rcases List.mem_append.1 hm with hm | hm
    · change m ∈ ((p.without ticket).atDesk s.desk (leave ticket)).2 at hm
      rw [hnone] at hm
      cases hm
    · obtain ⟨n, hn, rfl⟩ := List.mem_map.1 hm
      exact ⟨s.desk, n, rfl, isLog_cancelAt _ _ hn⟩

/-- A caller that gives up changes no answer that is kept. -/
theorem Accords.abandon (h : Accords answers p) (left : Nat → List Note) (ticket : Nat) :
    Accords answers (p.abandon ticket).1 ∧
      ∀ m ∈ (p.abandon ticket).2, Grounded answers left m := by
  constructor
  · intro o ho
    cases hs : p.oneShot? ticket with
    | none =>
      unfold Provider.abandon at ho
      rw [hs] at ho
      exact h o ho
    | some s =>
      rw [abandon_eq_alter hs] at ho
      exact h o (List.mem_filter.1 ho).1
  · intro m hm
    obtain ⟨j, n, rfl, hlog⟩ := p.abandon_notes ticket hm
    exact .inl hlog

/-- What leaves the provider at an event comes from the desk that does something then. -/
theorem Accords.happens (h : Accords answers p) {e : Event Desk.Event}
    (htold : ∀ k id found ticket r, .told id found (.answer ticket r) ∈ p.leaves k e →
      answers ticket r) :
    Accords answers (p.happens e).1 ∧
      ∀ n, .note n ∈ (p.happens e).2 → Grounded answers (p.leaves · e) n := by
  have hnoted (notes : List ProviderNote) (hnotes : ∀ m ∈ notes, Grounded answers (p.leaves · e) m)
      (n : ProviderNote) (hn : .note n ∈ notes.map Seen.note) :
      Grounded answers (p.leaves · e) n := by
    obtain ⟨m, hm, heq⟩ := List.mem_map.1 hn
    cases heq
    exact hnotes n hm
  cases e with
  | deskFor b settings =>
    refine ⟨fun o ho => ?_, fun n hn => grounded_logged hn⟩
    have hkept : o ∈ (p.deskFor b settings).1.oneShots := ho
    rw [oneShots_deskFor] at hkept
    exact h o hkept
  | check system ticket b text host =>
    -- The buffer is opened if need be, and that leaves the waiting callers as they are.
    have hdesk : Accords answers (p.deskFor b none).1 := by
      intro o ho
      rw [oneShots_deskFor] at ho
      exact h o ho
    obtain ⟨hall, hnotes⟩ := hdesk.atDesk (p.leaves · (.check system ticket b text host))
      (p.deskFor b none).2.1 (fun d => d.step (.request system ticket text host))
      (fun n hn => by simpa [leaves] using hn) (htold (p.deskFor b none).2.1)
    refine ⟨hall, hnoted (p.runCheck Session.make system ticket b text host).2 ?_⟩
    intro m hm
    rw [runCheck_eq] at hm
    rcases List.mem_append.1 hm with hm | hm
    · obtain ⟨line, -, rfl⟩ := List.mem_map.1 hm
      exact .inl rfl
    · exact hnotes m hm
  | setDialect b dialect =>
    refine ⟨fun o ho => ?_, fun n hn => ?_⟩
    · have hkept : o ∈ (p.setDialect b dialect).1.oneShots := ho
      rw [oneShots_setDialect] at hkept
      exact h o hkept
    · rcases List.mem_append.1 hn with hn | hn
      · exact grounded_logged hn
      · cases List.mem_singleton.1 hn
  | close b => exact h.closeStep _ b
  | shutdown => exact h.closeAll _ _
  | checkText system ticket text own =>
    -- A caller who has just been enlisted has no answer yet that would have to be accounted for.
    have hwaits : Accords answers (p.enlist ticket (own.getD p.settings)) := by
      intro o ho r hr
      rcases List.mem_append.1 ho with ho | ho
      · exact h o ho r hr
      · rw [List.mem_singleton.1 ho] at hr
        cases hr
    obtain ⟨hall, hnotes⟩ := hwaits.atDesk (p.leaves · (.checkText system ticket text own))
      p.desks.length (fun d => d.step (.request system ticket text (.caller ticket)))
      (fun n hn => by simpa [leaves] using hn) (htold p.desks.length)
    exact ⟨hall, hnoted _ hnotes⟩
  | abandon ticket =>
    obtain ⟨hall, hnotes⟩ := h.abandon (p.leaves · (.abandon ticket)) ticket
    exact ⟨hall, hnoted _ hnotes⟩
  | configure s => exact ⟨h, by simp [Provider.happens, Provider.step]⟩
  | desk j x =>
    obtain ⟨hall, hnotes⟩ := h.atDesk (p.leaves · (.desk j x)) j (fun d => d.step x)
      (fun n hn => by simpa [leaves] using hn) (htold j)
    exact ⟨hall, hnoted _ hnotes⟩

/-- What is seen to leave the provider by an event comes from what leaves the desks. -/
theorem grounded_of_seen {e : Event Desk.Event} {m : ProviderNote}
    (hm : .note m ∈ (p.happens e).2) : Grounded (fun _ _ => True) (p.leaves · e) m := by
  have hall : Accords (fun _ _ => True) p := fun _ _ _ _ => trivial
  exact (hall.happens fun _ _ _ _ _ _ => trivial).2 m hm

/-- What is seen of a desk is a log line, or leaves it at the event. -/
theorem isLog_or_leaves {e : Event Desk.Event} {n : Note}
    (hn : .note (.desk k n) ∈ (p.happens e).2) : n.isLog ∨ n ∈ p.leaves k e := grounded_of_seen hn

/-- Dealing with callers brings in no caller. -/
theorem Attends.ticket_ne {p' : Provider (Session Unit)} {ticket : Nat} (hp : Attends p p')
    (h : ∀ o ∈ p.oneShots, o.ticket ≠ ticket) : ∀ o ∈ p'.oneShots, o.ticket ≠ ticket := by
  intro o' ho'
  cases hp with
  | @marks t f hf =>
    obtain ⟨o, ho, rfl⟩ := List.mem_map.1 ho'
    split
    · rw [(hf o).1]
      exact h o ho
    · exact h o ho
  | ends hs => exact h o' (List.mem_filter.1 ho').1

/-- Notes that have left a desk bring in no caller. -/
theorem ticket_ne_absorb {ticket : Nat} (h : ∀ o ∈ p.oneShots, o.ticket ≠ ticket) (k : Nat)
    (notes : List Note) : ∀ o ∈ (p.absorb k notes).1.oneShots, o.ticket ≠ ticket :=
  absorb_preserve (P := fun p => ∀ o ∈ p.oneShots, o.ticket ≠ ticket)
    (fun _ _ h hp => hp.ticket_ne h) h k notes

/-- A caller whose call has ended does not wait any more. -/
theorem ticket_ne_endOneShot (p : Provider (Session Unit)) (s : OneShot)
    {result result' : Except Failure (List Diagnostic)} {ticket : Nat}
    (hchecked : .checked ticket result' ∈ (p.endOneShot s result).2) :
    ∀ o ∈ (p.endOneShot s result).1.oneShots, o.ticket ≠ ticket := by
  have hticket : ticket = s.ticket := by
    rcases List.mem_append.1 hchecked with hmem | hmem
    · obtain ⟨n, -, heq⟩ := List.mem_map.1 hmem
      cases heq
    · cases List.mem_singleton.1 hmem
      rfl
  intro o ho
  have hkept : o ∈ (p.without s.ticket).oneShots := by
    rw [endOneShot_eq_alter] at ho
    exact ho
  rw [hticket]
  simpa using (List.mem_filter.1 hkept).2

/-- A caller whose call was ended as it could be does not wait any more. -/
theorem ticket_ne_tryEnd {t ticket : Nat} {result : Except Failure (List Diagnostic)}
    (hchecked : .checked ticket result ∈ (p.tryEnd t).2) :
    ∀ o ∈ (p.tryEnd t).1.oneShots, o.ticket ≠ ticket := by
  unfold tryEnd at hchecked ⊢
  cases hs : p.oneShot? t with
  | none =>
    rw [hs] at hchecked
    cases hchecked
  | some s =>
    rw [hs] at hchecked
    dsimp only at hchecked ⊢
    split at hchecked
    · exact ticket_ne_endOneShot p s hchecked
    · exact ticket_ne_endOneShot p s hchecked
    · cases hchecked

/-- A caller whose call has ended by a note does not wait any more. -/
theorem ticket_ne_absorbOne {n : Note} {ticket : Nat} {result : Except Failure (List Diagnostic)}
    (hchecked : .checked ticket result ∈ (p.absorbOne k n).2) :
    ∀ o ∈ (p.absorbOne k n).1.oneShots, o.ticket ≠ ticket := by
  cases n with
  | told id found telling =>
    cases telling with
    | answer t r => exact ticket_ne_tryEnd hchecked
    | _ => cases List.mem_singleton.1 hchecked
  | returned t r =>
    unfold absorbOne at hchecked ⊢
    dsimp only at hchecked ⊢
    cases hs : p.oneShot? t with
    | none =>
      rw [hs] at hchecked
      cases List.mem_singleton.1 hchecked
    | some s =>
      rw [hs] at hchecked
      cases r with
      | ok id => exact ticket_ne_tryEnd hchecked
      | error f => exact ticket_ne_endOneShot p s hchecked
  | _ => cases List.mem_singleton.1 hchecked

/-- Who has been answered does not wait any more. -/
theorem ticket_ne_of_checked {notes : List Note} {ticket : Nat}
    {result : Except Failure (List Diagnostic)}
    (hchecked : .checked ticket result ∈ (p.absorb k notes).2) :
    ∀ o ∈ (p.absorb k notes).1.oneShots, o.ticket ≠ ticket := by
  induction notes generalizing p with
  | nil => cases hchecked
  | cons n rest ih =>
    rw [absorb_cons] at hchecked ⊢
    rcases List.mem_append.1 hchecked with hchecked | hchecked
    · exact ticket_ne_absorb (ticket_ne_absorbOne hchecked) k rest
    · exact ih hchecked

/-- A move brings in no caller but the one that its event does. -/
theorem Move.ticket_ne {e : Event Desk.Event} {p' : Provider (Session Unit)} {ticket : Nat}
    (hp : Move e p p') (hhost : e.host? ≠ some (.caller ticket))
    (h : ∀ o ∈ p.oneShots, o.ticket ≠ ticket) : ∀ o ∈ p'.oneShots, o.ticket ≠ ticket := by
  cases hp with
  | attends hp => exact hp.ticket_ne h
  | @admits system t text own settings he =>
    intro o ho
    rcases List.mem_append.1 ho with ho | ho
    · exact h o ho
    · rw [List.mem_singleton.1 ho]
      rintro rfl
      exact hhost (by rw [he]; rfl)
  | _ => exact h

/-- Nobody begins to wait but by an event of its own. -/
theorem ticket_ne_happens {e : Event Desk.Event} {ticket : Nat}
    (hhost : e.host? ≠ some (.caller ticket)) (h : ∀ o ∈ p.oneShots, o.ticket ≠ ticket) :
    ∀ o ∈ (p.happens e).1.oneShots, o.ticket ≠ ticket :=
  (happens_moves p e).preserve (P := fun p => ∀ o ∈ p.oneShots, o.ticket ≠ ticket)
    (fun _ _ h hp => hp.ticket_ne hhost h) h

/-- A caller that gives up does not wait any more. -/
theorem ticket_ne_abandon (p : Provider (Session Unit)) (ticket : Nat) :
    ∀ o ∈ (p.abandon ticket).1.oneShots, o.ticket ≠ ticket := by
  cases hs : p.oneShot? ticket with
  | none =>
    have hsame : p.abandon ticket = (p, []) := by
      unfold abandon
      rw [hs]
    rw [hsame]
    exact oneShot?_eq_none_iff.1 hs
  | some s =>
    rw [abandon_eq_alter hs]
    intro o ho
    simpa using (List.mem_filter.1 ho).2

/-- A caller whose call has ended by what is done at a desk does not wait any more. -/
theorem ticket_ne_atDesk {act : Desk (Session Unit) → Desk (Session Unit) × List Note}
    {ticket : Nat} {result : Except Failure (List Diagnostic)}
    (hchecked : .checked ticket result ∈ (p.atDesk k act).2) :
    ∀ o ∈ (p.atDesk k act).1.oneShots, o.ticket ≠ ticket := by
  rw [atDesk_eq_absorb] at hchecked ⊢
  exact ticket_ne_of_checked hchecked

/-- Closing a buffer tells no caller anything. -/
theorem not_checked_closeStep (p : Provider (Session Unit)) (b : BufferId) {ticket : Nat}
    {result : Except Failure (List Diagnostic)} :
    .note (.checked ticket result) ∉ (p.closeStep b).2 := by
  cases hb : p.deskOf? b with
  | none => simp [closeStep_of_closed hb]
  | some j => simp [closeStep_of_open hb, logged]

/-- Closing several buffers tells no caller anything. -/
theorem not_checked_closeAll (p : Provider (Session Unit)) (bs : List BufferId) {ticket : Nat}
    {result : Except Failure (List Diagnostic)} :
    .note (.checked ticket result) ∉ (Machine.run Provider.closeStep p bs).2 := by
  intro hmem
  obtain ⟨first, b, rest, -, hmem⟩ := Machine.mem_run_iff.1 hmem
  exact not_checked_closeStep _ b hmem

/-- Who is seen to be answered does not wait any more. -/
theorem ticket_ne_of_seen {e : Event Desk.Event} {ticket : Nat}
    {result : Except Failure (List Diagnostic)}
    (hchecked : .note (.checked ticket result) ∈ (p.happens e).2) :
    ∀ o ∈ (p.happens e).1.oneShots, o.ticket ≠ ticket := by
  have hnoted {notes : List ProviderNote} (hmem : .note (.checked ticket result) ∈ notes.map Seen.note) :
      .checked ticket result ∈ notes := by
    obtain ⟨n, hn, heq⟩ := List.mem_map.1 hmem
    cases heq
    exact hn
  cases e with
  -- Only what is done at a desk can answer a caller, and what is answered there is taken off.
  | check system t b text host =>
    have hmem : .checked ticket result ∈ (p.runCheck Session.make system t b text host).2 :=
      hnoted hchecked
    rw [runCheck_eq] at hmem
    rcases List.mem_append.1 hmem with hmem | hmem
    · obtain ⟨line, -, heq⟩ := List.mem_map.1 hmem
      cases heq
    · exact ticket_ne_atDesk hmem
  | checkText system t text own =>
    have hmem : .checked ticket result ∈ (p.checkText Session.make system t text own).2 :=
      hnoted hchecked
    rw [checkText_eq] at hmem
    exact ticket_ne_atDesk hmem
  | abandon t =>
    obtain ⟨j, n, heq, -⟩ := p.abandon_notes t (hnoted hchecked)
    cases heq
  | desk j x => exact ticket_ne_atDesk (hnoted hchecked)
  | close b => exact absurd hchecked (not_checked_closeStep p b)
  | shutdown => exact absurd hchecked (not_checked_closeAll p _)
  | deskFor b settings => simp [Provider.happens, Provider.step, logged] at hchecked
  | setDialect b dialect => simp [Provider.happens, Provider.step, logged] at hchecked
  | configure s => cases hchecked

/-- Who gives up or has been answered does not wait after the run. -/
theorem ticket_ne_run {es : List (Event Desk.Event)} {ticket : Nat}
    (hhost : ∀ e ∈ es, e.host? ≠ some (.caller ticket))
    (hended : (∃ result, .note (.checked ticket result) ∈ (Machine.run Provider.happens p es).2) ∨
      .abandon ticket ∈ es ∨ ∀ o ∈ p.oneShots, o.ticket ≠ ticket) :
    ∀ o ∈ (Machine.run Provider.happens p es).1.oneShots, o.ticket ≠ ticket := by
  induction es generalizing p with
  | nil =>
    rcases hended with ⟨_, hmem⟩ | hmem | hnone
    · cases hmem
    · cases hmem
    · exact hnone
  | cons e es ih =>
    refine ih (fun e' he' => hhost e' (List.mem_cons_of_mem e he')) ?_
    rcases hended with ⟨result, hmem⟩ | hmem | hnone
    · rcases List.mem_append.1 hmem with hnow | hlater
      · exact .inr (.inr (ticket_ne_of_seen hnow))
      · exact .inl ⟨result, hlater⟩
    · rcases List.mem_cons.1 hmem with rfl | hlater
      · exact .inr (.inr (ticket_ne_abandon p ticket))
      · exact .inr (.inl hlater)
    · exact .inr (.inr (ticket_ne_happens (hhost e List.mem_cons_self) hnone))

end Provider

end LiveLint
