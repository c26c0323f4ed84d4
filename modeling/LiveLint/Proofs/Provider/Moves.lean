import Mathlib.Data.List.Pairwise
import Mathlib.Logic.Relation
import LiveLint.Proofs.Desk.Rest
import LiveLint.Proofs.Provider.Faithful

/-!
# What an event does to a provider

An event of a provider is a few moves: a desk is opened or closed, something happens at a desk, a
caller begins to wait or is seen to (`Move`, `happens_moves`). What each move preserves, every run
preserves. So the buffers and the callers of a provider always have different desks (`Tidy`), and
what happens to a desk is a run of it (`Course`).
-/

namespace LiveLint

namespace Provider

/-- The provider with another desk in place of the one with that number, if there is one. -/
def alter (p : Provider (Session Unit)) (k : Nat) (f : Desk (Session Unit) → Desk (Session Unit)) :
    Provider (Session Unit) := { p with desks := p.desks.modify k f }

/-- The provider without the caller with a ticket. -/
def without (p : Provider (Session Unit)) (ticket : Nat) : Provider (Session Unit) :=
  { p with oneShots := p.oneShots.filter fun o => o.ticket != ticket }

/-- The provider with one more caller, for whom a desk is opened. -/
def enlist (p : Provider (Session Unit)) (ticket : Nat) (settings : Settings) :
    Provider (Session Unit) :=
  { (p.addDesk settings .log).1 with
    oneShots := p.oneShots ++ [{ ticket, desk := p.desks.length }] }

section

variable {p : Provider (Session Unit)} {k : Nat} {d : Desk (Session Unit)}
  {f : Desk (Session Unit) → Desk (Session Unit)}

/-- Nothing is altered where there is no desk. -/
theorem alter_of_none (hd : p.desks[k]? = none) : p.alter k f = p := by
  rw [alter, List.modify_eq_self (List.getElem?_eq_none_iff.1 hd)]

/-- Putting a changed desk in place is altering it. -/
theorem put_eq_alter (hd : p.desks[k]? = some d) : p.put k (f d) = p.alter k f := by
  rw [put, alter, List.modify_eq_set_getElem?, hd]
  rfl

/-- A desk can be altered twice at once. -/
theorem alter_alter (p : Provider (Session Unit)) (k : Nat)
    (f g : Desk (Session Unit) → Desk (Session Unit)) :
    (p.alter k f).alter k g = p.alter k (g ∘ f) := by
  rw [alter, alter, alter, List.modify_modify_eq]

/-- The desk that is altered is the new one. -/
theorem getElem?_alter_self (hd : p.desks[k]? = some d) :
    (p.alter k f).desks[k]? = some (f d) := by
  rw [alter, List.getElem?_modify_eq, hd]
  rfl

/-- Other desks stay as they were. -/
theorem getElem?_alter_ne {j : Nat} (hjk : j ≠ k) : (p.alter k f).desks[j]? = p.desks[j]? := by
  exact List.getElem?_modify_ne f p.desks (Ne.symm hjk)

/-- A desk of the altered provider is an altered one or another. -/
theorem getElem?_alter_cases {j : Nat} {d' : Desk (Session Unit)}
    (hd : (p.alter k f).desks[j]? = some d') :
    (j = k ∧ ∃ d, p.desks[k]? = some d ∧ d' = f d) ∨ j ≠ k ∧ p.desks[j]? = some d' := by
  by_cases hjk : j = k
  · subst hjk
    rw [alter, List.getElem?_modify_eq, Option.map_eq_map, Option.map_eq_some_iff] at hd
    obtain ⟨d, hd, rfl⟩ := hd
    exact .inl ⟨rfl, d, hd, rfl⟩
  · exact .inr ⟨hjk, getElem?_alter_ne hjk ▸ hd⟩

@[simp] theorem length_alter (p : Provider (Session Unit)) (k : Nat)
    (f : Desk (Session Unit) → Desk (Session Unit)) :
    (p.alter k f).desks.length = p.desks.length := List.length_modify _ _ _

/-- Canceling the check at a desk alters the desk alone. -/
theorem cancelAt_eq_alter (p : Provider (Session Unit)) (k : Nat) :
    (p.cancelAt k).1 = p.alter k fun d => d.cancel.1 := by
  cases hd : p.desks[k]? with
  | none => rw [cancelAt_of_none hd, alter_of_none hd]
  | some d => rw [cancelAt_of_desk hd, put_eq_alter (f := fun d => d.cancel.1) hd]

/-- What leaves a desk when something is done there. -/
def notesBy (p : Provider (Session Unit)) (k : Nat)
    (act : Desk (Session Unit) → Desk (Session Unit) × List Note) : List Note :=
  ((p.desks[k]?).map fun d => (act d).2).getD []

/-- What is done at a desk alters it, and then its notes are taken in. -/
theorem atDesk_eq_absorb (p : Provider (Session Unit)) (k : Nat)
    (act : Desk (Session Unit) → Desk (Session Unit) × List Note) :
    p.atDesk k act = (p.alter k fun d => (act d).1).absorb k (p.notesBy k act) := by
  cases hd : p.desks[k]? with
  | none =>
    rw [atDesk_of_none hd, alter_of_none hd, notesBy, hd]
    rfl
  | some d =>
    rw [atDesk_of_desk hd, put_eq_alter (f := fun d => (act d).1) hd, notesBy, hd]
    rfl

end

/-! ## Moves -/

/-- Who is told about the check that an event requests. -/
def Event.host? : Event Desk.Event → Option Host
  | .check _ _ _ _ host => some host
  | .checkText _ ticket _ _ => some (.caller ticket)
  | .desk _ (.request _ _ _ host) => some host
  | _ => none

/-- The buffer whose desk an event asks for, opening it if it has none. -/
def Event.uses? : Event Desk.Event → Option BufferId
  | .deskFor b _ => some b
  | .check _ _ b _ _ => some b
  | .setDialect b _ => some b
  | _ => none

/-- What is done about the callers that wait. -/
inductive Attends (p : Provider (Session Unit)) : Provider (Session Unit) → Prop
  | marks (ticket : Nat) {f : OneShot → OneShot}
      (hf : ∀ o, (f o).ticket = o.ticket ∧ (f o).desk = o.desk) : Attends p (p.mapOneShot ticket f)
  /-- A call ends, possibly as its caller gives up, and the check at its desk is given up. -/
  | ends {s : OneShot} (hs : s ∈ p.oneShots) {leave : Desk (Session Unit) → Desk (Session Unit)}
      (hleave : ∀ d, Desk.Regular d → leave d = d ∨
        ∃ id, leave d = (d.step (.session id (.abandon s.ticket))).1) :
    Attends p ((p.without s.ticket).alter s.desk fun d => (leave d).cancel.1)

/-- One of the few things that an event does. -/
inductive Move (e : Event Desk.Event) (p : Provider (Session Unit)) : Provider (Session Unit) → Prop
  | attends {p' : Provider (Session Unit)} (h : Attends p p') : Move e p p'
  | configures (s : Settings) : Move e p { p with settings := s }
  | opens {b : BufferId} (settings : Settings) (he : e.uses? = some b) (hb : p.deskOf? b = none) :
    Move e p (p.openBuffer b settings)
  | closes {b : BufferId} {k : Nat} (hb : p.deskOf? b = some k) :
    Move e p ((p.forget b).alter k fun d => d.cancel.1)
  | admits {system : System} {ticket : Nat} {text : Text} {own : Option Settings}
      (settings : Settings) (he : e = .checkText system ticket text own) :
    Move e p (p.enlist ticket settings)
  /-- Something happens at a desk: at the one of the event, at that of a buffer, or at that of the
  caller who begins to wait. -/
  | acts (k : Nat) (x : Desk.Event)
      (hx : e = .desk k x ∨ (∃ b, p.deskOf? b = some k) ∨
        ∃ o ∈ p.oneShots, o.desk = k ∧
          ∃ system text own, e = .checkText system o.ticket text own)
      (hhost : ∀ system ticket text host, x = .request system ticket text host →
        e.host? = some host) :
    Move e p (p.alter k fun d => (d.step x).1)

/-- Several moves. -/
abbrev Moves (e : Event Desk.Event) :
    Provider (Session Unit) → Provider (Session Unit) → Prop := Relation.ReflTransGen (Move e)

variable {p p' : Provider (Session Unit)} {e : Event Desk.Event} {b : BufferId} {k : Nat}

/-! ## Callers -/

/-- A call that ends alters its desk and leaves the list of callers. -/
theorem endOneShot_eq_alter (p : Provider (Session Unit)) (s : OneShot)
    (result : Except Failure (List Diagnostic)) :
    (p.endOneShot s result).1 = (p.without s.ticket).alter s.desk fun d => d.cancel.1 :=
  cancelAt_eq_alter (p.without s.ticket) s.desk

/-- A call that ends is seen to. -/
theorem attends_endOneShot {s : OneShot} (hs : s ∈ p.oneShots)
    (result : Except Failure (List Diagnostic)) : Attends p (p.endOneShot s result).1 := by
  rw [endOneShot_eq_alter]
  exact .ends hs fun d _ => .inl rfl

/-- A caller is seen to if its call can end. -/
theorem tryEnd_attends (p : Provider (Session Unit)) (ticket : Nat) :
    Relation.ReflTransGen Attends p (p.tryEnd ticket).1 := by
  unfold tryEnd
  cases hs : p.oneShot? ticket with
  | none => exact .refl
  | some s =>
    have hmem : s ∈ p.oneShots := List.mem_of_find?_eq_some hs
    dsimp only
    split
    · exact .single (attends_endOneShot hmem _)
    · exact .single (attends_endOneShot hmem _)
    · exact .refl

/-- A note of a desk is dealt with by seeing to callers. -/
theorem absorbOne_attends (p : Provider (Session Unit)) (k : Nat) (n : Note) :
    Relation.ReflTransGen Attends p (p.absorbOne k n).1 := by
  cases n with
  | told id found telling =>
    cases telling with
    | answer ticket result =>
      exact Relation.ReflTransGen.head
        (.marks ticket (f := fun o => { o with answer := o.answer.or (some result) })
          fun _ => ⟨rfl, rfl⟩)
        (tryEnd_attends _ ticket)
    | _ => exact .refl
  | returned ticket result =>
    unfold absorbOne
    dsimp only
    cases hs : p.oneShot? ticket with
    | none => exact .refl
    | some s =>
      cases result with
      | ok id =>
        exact Relation.ReflTransGen.head
          (.marks ticket (f := fun o => { o with requested := true }) fun _ => ⟨rfl, rfl⟩)
          (tryEnd_attends _ ticket)
      | error f => exact .single (attends_endOneShot (List.mem_of_find?_eq_some hs) _)
  | _ => exact .refl

/-- The notes of a desk are dealt with by seeing to callers. -/
theorem absorb_attends (p : Provider (Session Unit)) (k : Nat) (notes : List Note) :
    Relation.ReflTransGen Attends p (p.absorb k notes).1 := by
  induction notes generalizing p with
  | nil => exact .refl
  | cons n rest ih =>
    rw [absorb_cons]
    exact (absorbOne_attends p k n).trans (ih (p.absorbOne k n).1)

/-- What is preserved by what is done about the callers, is preserved when notes are seen to. -/
theorem absorb_preserve {P : Provider (Session Unit) → Prop}
    (hattends : ∀ p p', P p → Attends p p' → P p') (h : P p) (k : Nat) (notes : List Note) :
    P (p.absorb k notes).1 := by
  have hmoves := absorb_attends p k notes
  generalize (p.absorb k notes).1 = p' at hmoves ⊢
  induction hmoves with
  | refl => exact h
  | tail _ hlast ih => exact hattends _ _ ih hlast

/-- The notes of a desk are dealt with in moves. -/
theorem absorb_moves (p : Provider (Session Unit)) (k : Nat) (notes : List Note) :
    Moves e p (p.absorb k notes).1 :=
  Relation.ReflTransGen.mono (fun _ _ h => .attends h) _ _ (absorb_attends p k notes)

/-- Something is done at a desk, and what leaves it is seen to. -/
theorem atDesk_moves {x : Desk.Event} (h : Move e p (p.alter k fun d => (d.step x).1)) :
    Moves e p (p.atDesk k fun d => d.step x).1 := by
  rw [atDesk_eq_absorb]
  exact .head h (absorb_moves _ k _)

/-- A caller that gives up leaves nothing to be seen to. -/
theorem notes_leave (ticket : Nat) (d : Desk (Session Unit)) : (leave ticket d).2 = [] := by
  unfold leave
  cases d.coordinator.slot with
  | none => rfl
  | some id =>
    cases hs : d.session? id with
    | none =>
      dsimp only
      rw [Desk.sessionStep_of_none hs]
    | some s =>
      have hstep : s.step (.abandon ticket) = (s.endStart ticket, []) := rfl
      dsimp only
      rw [Desk.sessionStep_of_session hs hstep]
      rfl

/-- A caller that leaves a desk abandons its request there, if it has one. -/
theorem leave_cases {d : Desk (Session Unit)} (hd : Desk.Regular d) (ticket : Nat) :
    (leave ticket d).1 = d ∨
      ∃ id, (leave ticket d).1 = (d.step (.session id (.abandon ticket))).1 := by
  unfold leave
  cases d.coordinator.slot with
  | none => exact .inl rfl
  | some id =>
    dsimp only
    rw [sessionStep_abandon hd.sound]
    exact .inr ⟨id, rfl⟩

/-- A caller that gives up alters its desk and leaves the list of callers. -/
theorem abandon_eq_alter {s : OneShot} {ticket : Nat} (hs : p.oneShot? ticket = some s) :
    (p.abandon ticket).1
      = (p.without ticket).alter s.desk fun d => (leave ticket d).1.cancel.1 := by
  have hleft : ((p.without ticket).atDesk s.desk (leave ticket)).1
      = (p.without ticket).alter s.desk fun d => (leave ticket d).1 := by
    rw [atDesk_eq_absorb]
    have hnone : (p.without ticket).notesBy s.desk (leave ticket) = [] := by
      unfold notesBy
      cases (p.without ticket).desks[s.desk]? with
      | none => rfl
      | some d => exact notes_leave ticket d
    rw [hnone]
    rfl
  have habandon : (p.abandon ticket).1
      = (((p.without ticket).atDesk s.desk (leave ticket)).1.cancelAt s.desk).1 := by
    unfold abandon
    rw [hs]
    rfl
  rw [habandon, hleft, cancelAt_eq_alter, alter_alter]
  rfl

/-- The caller that is found by a ticket has it. -/
theorem ticket_of_oneShot? {s : OneShot} {ticket : Nat} (hs : p.oneShot? ticket = some s) :
    s.ticket = ticket := by
  simpa using List.find?_some hs

/-- No caller is found exactly if none has the ticket. -/
theorem oneShot?_eq_none_iff {ticket : Nat} :
    p.oneShot? ticket = none ↔ ∀ o ∈ p.oneShots, o.ticket ≠ ticket := by
  simp [oneShot?, List.find?_eq_none]

/-- A caller that gives up is seen to. -/
theorem abandon_moves (p : Provider (Session Unit)) (ticket : Nat) :
    Relation.ReflTransGen Attends p (p.abandon ticket).1 := by
  cases hs : p.oneShot? ticket with
  | none =>
    unfold abandon
    rw [hs]
  | some s =>
    rw [abandon_eq_alter hs]
    obtain rfl := ticket_of_oneShot? hs
    exact .single (.ends (List.mem_of_find?_eq_some hs) fun d hd => leave_cases hd s.ticket)

/-! ## Buffers -/

/-- Settings for a desk alter the desk alone. -/
theorem configureAt_eq_alter (p : Provider (Session Unit)) (k : Nat) (s : Settings) :
    p.configureAt k s = p.alter k fun d => (d.step (.configure s)).1 := by
  cases hd : p.desks[k]? with
  | none => rw [configureAt_of_none hd, alter_of_none hd]
  | some d =>
    rw [configureAt_of_desk hd, ← put_eq_alter (f := fun d => (d.step (.configure s)).1) hd]
    rfl

/-- A buffer that is opened is found at its new desk. -/
theorem deskOf?_openBuffer (hb : p.deskOf? b = none) (settings : Settings) :
    (p.openBuffer b settings).deskOf? b = some p.desks.length := by
  have hnone : p.registry.find? (fun r => r.1 == b) = none := by
    simpa [deskOf?] using hb
  simp [deskOf?, openBuffer, List.find?_append, hnone]

/-- Asking for the desk of a buffer is done in moves. -/
theorem deskFor_moves (p : Provider (Session Unit)) (he : e.uses? = some b)
    (settings : Option Settings) : Moves e p (p.deskFor b settings).1 := by
  cases hb : p.deskOf? b with
  | some k =>
    rw [deskFor_of_open hb]
    cases settings with
    | none => exact .refl
    | some s =>
      have hact : Move e p (p.alter k fun d => (d.step (.configure s)).1) :=
        .acts k _ (.inr (.inl ⟨b, hb⟩)) nofun
      change Moves e p (p.configureAt k s)
      rw [configureAt_eq_alter]
      exact .single hact
  | none =>
    rw [deskFor_of_closed hb]
    exact .single (.opens _ he hb)

/-- A buffer has the desk that was asked for. -/
theorem deskOf?_deskFor (p : Provider (Session Unit)) (b : BufferId) :
    (p.deskFor b none).1.deskOf? b = some (p.deskFor b none).2.1 := by
  cases hb : p.deskOf? b with
  | some k =>
    rw [deskFor_of_open hb]
    exact hb
  | none =>
    rw [deskFor_of_closed hb]
    exact deskOf?_openBuffer hb _

/-- Setting a dialect is done in moves. -/
theorem setDialect_moves (p : Provider (Session Unit)) (he : e.uses? = some b) (dialect : Value) :
    Moves e p (p.setDialect b dialect).1 := by
  have hdesk : Moves e p (p.deskFor b none).1 := deskFor_moves p he none
  unfold Provider.setDialect
  dsimp only
  split
  · exact hdesk
  · refine hdesk.tail ?_
    rw [configureAt_eq_alter]
    exact .acts _ _ (.inr (.inl ⟨b, deskOf?_deskFor p b⟩)) nofun

/-- Closing a buffer is done in moves. -/
theorem closeStep_moves (p : Provider (Session Unit)) (b : BufferId) :
    Moves e p (p.closeStep b).1 := by
  cases hb : p.deskOf? b with
  | none =>
    rw [closeStep_of_closed hb]
  | some k =>
    rw [closeStep_of_open hb, cancelAt_eq_alter]
    exact .single (.closes hb)

/-- Closing several buffers is done in moves. -/
theorem closeAll_moves (p : Provider (Session Unit)) (bs : List BufferId) :
    Moves e p (Machine.run closeStep p bs).1 := by
  induction bs generalizing p with
  | nil => exact .refl
  | cons b bs ih => exact (closeStep_moves p b).trans (ih (p.closeStep b).1)

/-! ## Events -/

/-- A text is checked by a request at a desk that is opened for its caller. -/
theorem checkText_eq (p : Provider (Session Unit)) (system : System) (ticket : Nat) (text : Text)
    (own : Option Settings) :
    p.checkText Session.make system ticket text own
      = (p.enlist ticket (own.getD p.settings)).atDesk p.desks.length fun d =>
          d.step (.request system ticket text (.caller ticket)) := rfl

/-- A buffer is checked by a request at its desk, which is opened if need be. -/
theorem runCheck_eq (p : Provider (Session Unit)) (system : System) (ticket : Nat) (b : BufferId)
    (text : Text) (host : Host) :
    p.runCheck Session.make system ticket b text host
      = (((p.deskFor b none).1.atDesk (p.deskFor b none).2.1 fun d =>
            d.step (.request system ticket text host)).1,
          (p.deskFor b none).2.2.map (fun l => .desk (p.deskFor b none).2.1 (.log l))
            ++ ((p.deskFor b none).1.atDesk (p.deskFor b none).2.1 fun d =>
              d.step (.request system ticket text host)).2) := rfl

/-- What an event does, it does by a few moves. -/
theorem happens_moves (p : Provider (Session Unit)) (e : Event Desk.Event) :
    Moves e p (p.happens e).1 := by
  cases e with
  | deskFor b settings => exact deskFor_moves p rfl settings
  | check system ticket b text host =>
    have hcheck : (p.happens (.check system ticket b text host)).1
        = (p.runCheck Session.make system ticket b text host).1 := rfl
    rw [hcheck, runCheck_eq]
    exact (deskFor_moves p rfl none).trans
      (atDesk_moves (.acts _ _ (.inr (.inl ⟨b, deskOf?_deskFor p b⟩))
        fun _ _ _ _ heq => by cases heq; rfl))
  | setDialect b dialect => exact setDialect_moves p rfl dialect
  | close b => exact closeStep_moves p b
  | shutdown => exact closeAll_moves p _
  | checkText system ticket text own =>
    have hcheck : (p.happens (.checkText system ticket text own)).1
        = (p.checkText Session.make system ticket text own).1 := rfl
    rw [hcheck, checkText_eq]
    have hwaits : ({ ticket, desk := p.desks.length } : OneShot)
        ∈ (p.enlist ticket (own.getD p.settings)).oneShots :=
      List.mem_append_right _ (List.mem_singleton_self _)
    exact .head (.admits _ rfl)
      (atDesk_moves (.acts _ _ (.inr (.inr ⟨_, hwaits, rfl, system, text, own, rfl⟩))
        fun _ _ _ _ heq => by cases heq; rfl))
  | abandon ticket =>
    exact Relation.ReflTransGen.mono (fun _ _ h => .attends h) _ _ (abandon_moves p ticket)
  | configure s => exact .single (.configures s)
  | desk k x => exact atDesk_moves (.acts k x (.inl rfl) fun _ _ _ _ heq => by subst heq; rfl)

/-- What every move preserves, every event preserves. -/
theorem Moves.preserve {P : Provider (Session Unit) → Prop}
    (hmove : ∀ p p', P p → Move e p p' → P p') (h : P p) (hmoves : Moves e p p') : P p' := by
  induction hmoves with
  | refl => exact h
  | tail _ hlast ih => exact hmove _ _ ih hlast

/-! ## Buffers and callers have different desks -/

/-- Entries of the registry for different buffers, at different desks. -/
def Apart (r r' : BufferId × Nat) : Prop := r.1 ≠ r'.1 ∧ r.2 ≠ r'.2

instance : Std.Symm Apart := ⟨fun _ _ h => ⟨h.1.symm, h.2.symm⟩⟩

/-- Every buffer and every caller has a desk of its own. -/
structure Tidy (p : Provider (Session Unit)) : Prop where
  regular : ∀ (k : Nat) (d : Desk (Session Unit)), p.desks[k]? = some d → Desk.Regular d
  known : ∀ r ∈ p.registry, r.2 < p.desks.length
  distinct : p.registry.Pairwise Apart
  callers : ∀ o ∈ p.oneShots, o.desk < p.desks.length ∧ ∀ r ∈ p.registry, r.2 ≠ o.desk

/-- A new provider has no desks that two could share. -/
theorem tidy_opened (settings : Settings) (parser : OutputParser) (channel : Channel) :
    Tidy (opened settings parser channel) where
  regular _ _ h := by cases h
  known _ h := by cases h
  distinct := .nil
  callers _ h := by cases h

/-- The desk of a buffer is registered for it. -/
theorem mem_of_deskOf? (hb : p.deskOf? b = some k) : (b, k) ∈ p.registry := by
  obtain ⟨r, hr, rfl⟩ := Option.map_eq_some_iff.1 hb
  have hrb : r.1 = b := by simpa using List.find?_some hr
  exact hrb ▸ List.mem_of_find?_eq_some hr

/-- A buffer that is not open is not in the registry. -/
theorem ne_of_deskOf?_eq_none (hb : p.deskOf? b = none) {r : BufferId × Nat}
    (hr : r ∈ p.registry) : r.1 ≠ b := by
  simpa using List.find?_eq_none.1 (Option.map_eq_none_iff.1 hb) r hr

/-- A desk after one more was opened is one of before, or the new one. -/
theorem getElem?_concat_cases {α : Type} {xs : List α} {x y : α} (h : (xs ++ [x])[k]? = some y) :
    xs[k]? = some y ∨ k = xs.length ∧ y = x := by
  rw [List.getElem?_append] at h
  split at h
  · exact .inl h
  · rename_i hlt
    have hk : k - xs.length = 0 := by
      by_contra hpos
      rw [List.getElem?_eq_none (by simp only [List.length_singleton]; omega)] at h
      cases h
    rw [hk] at h
    exact .inr ⟨by omega, (Option.some.inj h).symm⟩

/-- The desks of a provider are regular with a new one among them. -/
theorem Tidy.addDesk_regular (h : Tidy p) (settings : Settings) (channel : Channel) {k : Nat}
    {d : Desk (Session Unit)} (hd : (p.addDesk settings channel).1.desks[k]? = some d) :
    Desk.Regular d := by
  rcases getElem?_concat_cases hd with hd | ⟨-, rfl⟩
  · exact h.regular k d hd
  · exact Desk.regular_opened settings p.parser channel

/-- A provider stays tidy if a desk stays regular. -/
theorem Tidy.alter (h : Tidy p) (k : Nat) {f : Desk (Session Unit) → Desk (Session Unit)}
    (hf : ∀ d, Desk.Regular d → Desk.Regular (f d)) : Tidy (p.alter k f) where
  regular j d hd := by
    rcases getElem?_alter_cases hd with ⟨-, d, hbefore, rfl⟩ | ⟨-, hbefore⟩
    · exact hf d (h.regular _ d hbefore)
    · exact h.regular j d hbefore
  known r hr := by
    rw [length_alter]
    exact h.known r hr
  distinct := h.distinct
  callers o ho := by
    rw [length_alter]
    exact h.callers o ho

/-- A provider stays tidy without a caller. -/
theorem Tidy.without (h : Tidy p) (ticket : Nat) : Tidy (p.without ticket) :=
  ⟨h.regular, h.known, h.distinct, fun o ho => h.callers o (List.mem_filter.1 ho).1⟩

/-- Seeing to callers leaves a provider tidy. -/
theorem Tidy.attends (h : Tidy p) (hp : Attends p p') : Tidy p' := by
  cases hp with
  | @marks ticket f hf =>
    refine ⟨h.regular, h.known, h.distinct, fun o' ho' => ?_⟩
    obtain ⟨o, ho, rfl⟩ := List.mem_map.1 ho'
    have hdesk : (if o.ticket = ticket then f o else o).desk = o.desk := by
      split
      · exact (hf o).2
      · rfl
    rw [hdesk]
    exact h.callers o ho
  | @ends s hs leave hleave =>
    refine (h.without s.ticket).alter s.desk fun d hd => ?_
    rcases hleave d hd with hsame | ⟨id, hleft⟩
    · rw [hsame]
      exact hd.cancel
    · rw [hleft]
      exact (hd.step _).cancel

/-- A new buffer gets a desk that nobody has. -/
theorem Tidy.openBuffer (h : Tidy p) (hb : p.deskOf? b = none) (settings : Settings) :
    Tidy (p.openBuffer b settings) := by
  have hlength : (p.openBuffer b settings).desks.length = p.desks.length + 1 := List.length_append
  constructor
  case regular => exact fun k d hd => h.addDesk_regular settings p.channel hd
  case known =>
    intro r hr
    rw [hlength]
    rcases List.mem_append.1 hr with hr | hr
    · exact Nat.lt_succ_of_lt (h.known r hr)
    · rw [List.mem_singleton.1 hr]
      exact Nat.lt_succ_self _
  case distinct =>
    refine List.pairwise_append.2 ⟨h.distinct, List.pairwise_singleton _ _, fun r hr r' hr' => ?_⟩
    rw [List.mem_singleton.1 hr']
    exact ⟨ne_of_deskOf?_eq_none hb hr, Nat.ne_of_lt (h.known r hr)⟩
  case callers =>
    intro o ho
    obtain ⟨hlt, hother⟩ := h.callers o ho
    rw [hlength]
    refine ⟨Nat.lt_succ_of_lt hlt, fun r hr => ?_⟩
    rcases List.mem_append.1 hr with hr | hr
    · exact hother r hr
    · rw [List.mem_singleton.1 hr]
      exact Nat.ne_of_gt hlt

/-- Forgetting a buffer leaves a provider tidy. -/
theorem Tidy.forget (h : Tidy p) (b : BufferId) : Tidy (p.forget b) where
  regular := h.regular
  known r hr := h.known r (List.mem_filter.1 hr).1
  distinct := h.distinct.sublist List.filter_sublist
  callers o ho := by
    obtain ⟨hlt, hother⟩ := h.callers o ho
    exact ⟨hlt, fun r hr => hother r (List.mem_filter.1 hr).1⟩

/-- A new caller gets a desk that nobody has. -/
theorem Tidy.enlist (h : Tidy p) (ticket : Nat) (settings : Settings) :
    Tidy (p.enlist ticket settings) := by
  have hlength : (p.enlist ticket settings).desks.length = p.desks.length + 1 := List.length_append
  constructor
  case regular => exact fun k d hd => h.addDesk_regular settings .log hd
  case known =>
    intro r hr
    rw [hlength]
    exact Nat.lt_succ_of_lt (h.known r hr)
  case distinct => exact h.distinct
  case callers =>
    intro o ho
    rw [hlength]
    rcases List.mem_append.1 ho with ho | ho
    · obtain ⟨hlt, hother⟩ := h.callers o ho
      exact ⟨Nat.lt_succ_of_lt hlt, hother⟩
    · rw [List.mem_singleton.1 ho]
      exact ⟨Nat.lt_succ_self _, fun r hr => Nat.ne_of_lt (h.known r hr)⟩

/-- A move leaves a provider tidy. -/
theorem Tidy.move (h : Tidy p) (hp : Move e p p') : Tidy p' := by
  cases hp with
  | attends hp => exact h.attends hp
  | configures s => exact ⟨h.regular, h.known, h.distinct, h.callers⟩
  | opens settings he hb => exact h.openBuffer hb settings
  | closes hb => exact (h.forget _).alter _ fun d hd => hd.cancel
  | admits settings he => exact h.enlist _ settings
  | acts k x hx hhost => exact h.alter k fun d hd => hd.step x

/-- Several moves leave a provider tidy. -/
theorem Tidy.moves (h : Tidy p) (hp : Moves e p p') : Tidy p' :=
  hp.preserve (fun _ _ h hp => h.move hp) h

/-- An event leaves a provider tidy. -/
theorem Tidy.happens (h : Tidy p) (e : Event Desk.Event) : Tidy (p.happens e).1 :=
  h.moves (happens_moves p e)

/-- A provider is tidy, whatever has happened to it. -/
theorem tidy_run (settings : Settings) (parser : OutputParser) (channel : Channel)
    (es : List (Event Desk.Event)) :
    Tidy (Machine.run happens (opened settings parser channel) es).1 :=
  Machine.run_invariant (fun _ e h => h.happens e) (tidy_opened settings parser channel) es

/-- Two entries are the same, or have nothing in common. -/
theorem Tidy.apart (h : Tidy p) {r r' : BufferId × Nat} (hr : r ∈ p.registry)
    (hr' : r' ∈ p.registry) (hne : r ≠ r') : Apart r r' := h.distinct.forall hr hr' hne

/-- What is registered for a buffer is its desk. -/
theorem Tidy.deskOf?_of_mem (h : Tidy p) (hmem : (b, k) ∈ p.registry) : p.deskOf? b = some k := by
  cases hb : p.deskOf? b with
  | none => exact absurd rfl (ne_of_deskOf?_eq_none hb hmem)
  | some j =>
    by_contra hne
    have hother : (b, j) ≠ (b, k) := fun heq => hne (by cases heq; rfl)
    exact (h.apart (mem_of_deskOf? hb) hmem hother).1 rfl

/-- Different buffers have different desks. -/
theorem Tidy.desk_ne (h : Tidy p) {c : BufferId} {j : Nat} (hb : p.deskOf? b = some k)
    (hc : p.deskOf? c = some j) (hbc : b ≠ c) : k ≠ j :=
  (h.apart (mem_of_deskOf? hb) (mem_of_deskOf? hc) fun heq => hbc (congrArg Prod.fst heq)).2

/-! ## What is left alone -/

/-- The settings of a provider, its open buffers and their desks are as they were. -/
structure Spares (p p' : Provider (Session Unit)) : Prop where
  settings : p'.settings = p.settings
  parser : p'.parser = p.parser
  channel : p'.channel = p.channel
  registry : p'.registry = p.registry
  desks : ∀ r ∈ p.registry, p'.desks[r.2]? = p.desks[r.2]?

/-- A provider spares itself. -/
theorem Spares.refl (p : Provider (Session Unit)) : Spares p p :=
  ⟨rfl, rfl, rfl, rfl, fun _ _ => rfl⟩

/-- What spares a provider that spares another one spares that one. -/
theorem Spares.trans {p'' : Provider (Session Unit)} (h : Spares p p') (hnext : Spares p' p'') :
    Spares p p'' where
  settings := hnext.settings.trans h.settings
  parser := hnext.parser.trans h.parser
  channel := hnext.channel.trans h.channel
  registry := hnext.registry.trans h.registry
  desks r hr := (hnext.desks r (h.registry ▸ hr)).trans (h.desks r hr)

/-- Altering a desk of no buffer spares them all. -/
theorem Spares.alter (h : Spares p p') (hk : ∀ r ∈ p.registry, r.2 ≠ k)
    (f : Desk (Session Unit) → Desk (Session Unit)) : Spares p (p'.alter k f) :=
  ⟨h.settings, h.parser, h.channel, h.registry,
    fun r hr => (getElem?_alter_ne (hk r hr)).trans (h.desks r hr)⟩

/-- Forgetting a caller spares all buffers. -/
theorem spares_without (p : Provider (Session Unit)) (ticket : Nat) : Spares p (p.without ticket) :=
  ⟨rfl, rfl, rfl, rfl, fun _ _ => rfl⟩

/-- A desk for a caller spares all buffers. -/
theorem Tidy.spares_enlist (h : Tidy p) (ticket : Nat) (settings : Settings) :
    Spares p (p.enlist ticket settings) :=
  ⟨rfl, rfl, rfl, rfl, fun r hr => List.getElem?_append_left (h.known r hr)⟩

/-- No caller waits at the desk of a buffer. -/
theorem Tidy.spares_attends (h : Tidy p) (hp : Attends p p') : Spares p p' := by
  cases hp with
  | marks => exact ⟨rfl, rfl, rfl, rfl, fun _ _ => rfl⟩
  | @ends s hs leave _ => exact (spares_without p s.ticket).alter (h.callers s hs).2 _

/-- Taking in the notes of a desk spares all buffers. -/
theorem Tidy.spares_absorb (h : Tidy p) (k : Nat) (notes : List Note) :
    Spares p (p.absorb k notes).1 :=
  (absorb_preserve (P := fun p' => Tidy p' ∧ Spares p p')
    (fun _ _ h hp => ⟨h.1.attends hp, h.2.trans (h.1.spares_attends hp)⟩) ⟨h, .refl p⟩ k notes).2

/-- What happens at a desk that is no buffer's. -/
theorem Tidy.spares_desk (h : Tidy p) (hk : ∀ r ∈ p.registry, r.2 ≠ k) (x : Desk.Event) :
    Spares p (p.happens (.desk k x)).1 := by
  have hhappens : (p.happens (.desk k x)).1 = (p.atDesk k fun d => d.step x).1 := rfl
  rw [hhappens, atDesk_eq_absorb]
  exact ((Spares.refl p).alter hk _).trans ((h.alter k fun d hd => hd.step x).spares_absorb _ _)

/-! ## Every desk goes on -/

/-- Every desk of the one provider is that of the other after a run. -/
def Course (p p' : Provider (Session Unit)) : Prop :=
  ∀ (k : Nat) (d : Desk (Session Unit)), p.desks[k]? = some d →
    ∃ xs, p'.desks[k]? = some (Machine.run Desk.step d xs).1

/-- A desk has had the empty run. -/
theorem Course.refl (p : Provider (Session Unit)) : Course p p := fun _ _ hd => ⟨[], hd⟩

/-- Runs can be had one after the other. -/
theorem Course.trans {p'' : Provider (Session Unit)} (h : Course p p') (hrest : Course p' p'') :
    Course p p'' := by
  intro k d hd
  obtain ⟨xs, hd'⟩ := h k d hd
  obtain ⟨ys, hd''⟩ := hrest k _ hd'
  exact ⟨xs ++ ys, by rw [hd'', Machine.run_append]⟩

/-- Nothing happens at the desks. -/
theorem course_of_prefix (h : p.desks <+: p'.desks) : Course p p' := by
  intro k d hd
  obtain ⟨hk, -⟩ := List.getElem?_eq_some_iff.1 hd
  obtain ⟨more, hmore⟩ := h
  exact ⟨[], by rw [← hmore, List.getElem?_append_left hk]; exact hd⟩

/-- Altering one desk by a run of it is a course of all. -/
theorem Tidy.course_alter (h : Tidy p) (k : Nat)
    {f : Desk (Session Unit) → Desk (Session Unit)}
    (hf : ∀ d, Desk.Regular d → ∃ xs, f d = (Machine.run Desk.step d xs).1) :
    Course p (p.alter k f) := by
  intro j d hd
  by_cases hjk : j = k
  · subst hjk
    obtain ⟨xs, hxs⟩ := hf d (h.regular j d hd)
    exact ⟨xs, by rw [getElem?_alter_self hd, hxs]⟩
  · exact ⟨[], (getElem?_alter_ne hjk).trans hd⟩

/-- A move is a course of all desks. -/
theorem Tidy.course_move (h : Tidy p) (hp : Move e p p') : Course p p' := by
  have hcancel (d : Desk (Session Unit)) (_ : Desk.Regular d) :
      ∃ xs, d.cancel.1 = (Machine.run Desk.step d xs).1 := ⟨[.cancel], rfl⟩
  cases hp with
  | attends hp =>
    cases hp with
    | marks => exact Course.refl p
    | @ends s hs leave hleave =>
      refine (h.without s.ticket).course_alter s.desk fun d hd => ?_
      rcases hleave d hd with hsame | ⟨id, hleft⟩
      · exact ⟨[.cancel], by rw [hsame]; rfl⟩
      · exact ⟨[.session id (.abandon s.ticket), .cancel], by rw [hleft]; rfl⟩
  | configures s => exact Course.refl p
  | opens settings he hb => exact course_of_prefix (List.prefix_append _ _)
  | closes hb => exact (h.forget _).course_alter _ hcancel
  | admits settings he => exact course_of_prefix (List.prefix_append _ _)
  | acts k x hx hhost => exact h.course_alter k fun d _ => ⟨[x], rfl⟩

/-- Several moves are a course of all desks. -/
theorem Tidy.course_moves (h : Tidy p) (hp : Moves e p p') : Course p p' := by
  refine (hp.preserve (P := fun p' => Tidy p' ∧ Course p p') ?_ ⟨h, Course.refl p⟩).2
  rintro q q' ⟨htidy, hcourse⟩ hp
  exact ⟨htidy.move hp, hcourse.trans (htidy.course_move hp)⟩

end Provider

end LiveLint
