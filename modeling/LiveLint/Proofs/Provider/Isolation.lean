import LiveLint.Proofs.Provider.Ledger

/-!
# Buffers are isolated

What is done with a buffer does the same to its part of the ledger as to the whole
(`Sound.cut_step_self`), and what is done with another buffer does nothing to it
(`Sound.cut_step_ne`). So all that is seen of a buffer, and all that becomes of its desks, is what
it would be without the others.
-/

namespace LiveLint

namespace Provider

namespace Ledger

variable {σ : Type} {w : Ledger σ} {b c : BufferId} {k : Nat}

/-- What concerns a buffer. -/
def cut (b : BufferId) (out : Ledger σ × List (BufferId × Observation)) :
    Ledger σ × List (BufferId × Observation) :=
  (out.1.part b, out.2.filter fun o => o.1 == b)

/-! ## Things that are done with a ledger -/

/-- Something is done at a desk of a buffer. -/
def doAt (w : Ledger σ) (b : BufferId) (k : Nat) (f : Desk σ → Desk σ × List Note) :
    Ledger σ × List (BufferId × Observation) :=
  match w.provider.desks[k]? with
  | none => (w, [])
  | some d =>
    ({ w with provider := w.provider.put k (f d).1 },
      (f d).2.map fun n => (b, .note (w.number b k) n))

/-- Lines are logged for a desk of a buffer. -/
def logs (w : Ledger σ) (b : BufferId) (k : Nat) (lines : List LogLine) :
    List (BufferId × Observation) :=
  lines.map fun l => (b, .note (w.number b k) (.log l))

/-- The desk of a buffer is asked for. -/
def enter (w : Ledger σ) (b : BufferId) (settings : Option Settings) :
    Ledger σ × Nat × List LogLine :=
  let (p, k, lines) := w.provider.deskFor b settings
  (w.grow b p, k, lines)

/-- In the part of a buffer its desks keep their numbers. -/
theorem number_number (hk : w.owners[k]? = some b) :
    (w.part b).number b (w.number b k) = w.number b k := by
  have hnumber : (List.range (desksOf w.owners b).length)[w.number b k]? = some (w.number b k) :=
    List.getElem?_range (number_lt hk)
  rw [number, Ledger.part, desksOf_replicate]
  exact idxOf_of_getElem? List.nodup_range hnumber

/-- Of what is all seen of one buffer that buffer sees everything. -/
theorem filter_map_self {α : Type} (f : α → Observation) (xs : List α) :
    (xs.map fun x => (b, f x)).filter (fun o => o.1 == b) = xs.map fun x => (b, f x) := by
  rw [List.filter_eq_self]
  intro o ho
  obtain ⟨x, -, rfl⟩ := List.mem_map.1 ho
  exact beq_self_eq_true b

/-- Of what is all seen of another buffer a buffer sees nothing. -/
theorem filter_map_ne {α : Type} (hcb : c ≠ b) (f : α → Observation) (xs : List α) :
    (xs.map fun x => (c, f x)).filter (fun o => o.1 == b) = [] := by
  rw [List.filter_eq_nil_iff]
  intro o ho
  obtain ⟨x, -, rfl⟩ := List.mem_map.1 ho
  simpa using hcb

/-- What is done at a desk is done in the part of its owner only. -/
theorem Sound.cut_doAt (h : Sound w) (hk : w.owners[k]? = some c) (b : BufferId)
    (f : Desk σ → Desk σ × List Note) :
    cut b (w.doAt c k f) = if c = b then (w.part b).doAt b (w.number b k) f else (w.part b, []) := by
  obtain ⟨d, hd⟩ : ∃ d, w.provider.desks[k]? = some d :=
    ⟨_, List.getElem?_eq_getElem (h.lt_of_owner hk)⟩
  have hdo : w.doAt c k f
      = ({ w with provider := w.provider.put k (f d).1 },
          (f d).2.map fun n => (c, .note (w.number c k) n)) := by
    simp [doAt, hd]
  by_cases hcb : c = b
  · subst hcb
    have hdesk : (w.part c).provider.desks[w.number c k]? = some d := by
      rw [h.desk_part hk, hd]
    rw [if_pos rfl, hdo, cut, h.part_put_self hk, filter_map_self]
    simp only [doAt, hdesk, number_number hk]
  · rw [if_neg hcb, hdo, cut, part_put_ne hk hcb, filter_map_ne hcb]

/-- Settings for a desk open none. -/
theorem length_configureAt (p : Provider σ) (k : Nat) (s : Settings) :
    (p.configureAt k s).desks.length = p.desks.length := by
  cases hd : p.desks[k]? with
  | none => rw [configureAt_of_none hd]
  | some d => simp [configureAt_of_desk hd, Provider.put]

/-- A buffer that is open is entered by its own desk, which is given settings if there are any. -/
theorem enter_of_open (hb : w.provider.deskOf? b = some k) (settings : Option Settings) :
    w.enter b settings
      = ({ w with
            provider := (settings.map fun s => w.provider.configureAt k s).getD w.provider },
          k, []) := by
  have hlength : ((settings.map fun s => w.provider.configureAt k s).getD w.provider).desks.length
      = w.provider.desks.length := by
    cases settings with
    | none => rfl
    | some s => exact length_configureAt w.provider k s
  rw [enter, deskFor_of_open hb]
  simp only [grow, hlength, if_true]

/-- A buffer that is not open is entered by a new desk. -/
theorem enter_of_closed (hb : w.provider.deskOf? b = none) (settings : Option Settings) :
    w.enter b settings
      = (w.openBuffer b (settings.getD w.provider.settings), w.provider.desks.length,
          [note (Text.ofString "opened buffer " ++ b.shown)]) := by
  rw [enter, deskFor_of_closed hb]
  simp [grow, Provider.openBuffer, addDesk, Ledger.openBuffer]

/-- A desk is given other settings. -/
def configured (s : Settings) (d : Desk σ) : Desk σ × List Note :=
  ({ d with coordinator := (d.coordinator.step (.configure s)).1 }, [])

/-- To configure a desk is to give it the settings. -/
theorem doAt_configured (w : Ledger σ) (b : BufferId) (k : Nat) (s : Settings) :
    w.doAt b k (configured s) = ({ w with provider := w.provider.configureAt k s }, []) := by
  cases hd : w.provider.desks[k]? with
  | none => simp [doAt, hd, configureAt_of_none hd]
  | some d => simp [doAt, hd, configureAt_of_desk hd, configured]

/-- A ledger stays sound, whatever is done at a desk. -/
theorem Sound.doAt (h : Sound w) (b : BufferId) (k : Nat) (f : Desk σ → Desk σ × List Note) :
    Sound (w.doAt b k f).1 := by
  cases hd : w.provider.desks[k]? with
  | none => simpa [Ledger.doAt, hd] using h
  | some d =>
    have hdo : (w.doAt b k f).1 = { w with provider := w.provider.put k (f d).1 } := by
      simp [Ledger.doAt, hd]
    rw [hdo]
    exact ⟨by simp [Provider.put, h.owned], h.registered, h.alone⟩

/-- Asking for the desk of an open buffer gives it the settings, if there are any. -/
theorem enter_fst_of_open (hb : w.provider.deskOf? b = some k) (settings : Option Settings) :
    (w.enter b settings).1
      = (settings.map fun s => (w.doAt b k (configured s)).1).getD w := by
  rw [enter_of_open hb]
  cases settings with
  | none => rfl
  | some s => rw [Option.map_some, Option.map_some, Option.getD_some, Option.getD_some,
      doAt_configured]

/-- A ledger stays sound when a buffer is entered. -/
theorem Sound.enter (h : Sound w) (b : BufferId) (settings : Option Settings) :
    Sound (w.enter b settings).1 := by
  cases hb : w.provider.deskOf? b with
  | some k =>
    rw [enter_fst_of_open hb]
    cases settings with
    | none => exact h
    | some s => exact h.doAt b k _
  | none =>
    rw [enter_of_closed hb]
    exact h.openBuffer b _

/-- The desk by which a buffer is entered is the buffer's own. -/
theorem Sound.owner_enter (h : Sound w) (b : BufferId) (settings : Option Settings) :
    (w.enter b settings).1.owners[(w.enter b settings).2.1]? = some b := by
  cases hb : w.provider.deskOf? b with
  | some k =>
    rw [enter_of_open hb]
    exact h.owner_of_deskOf? hb
  | none =>
    rw [enter_of_closed hb, ← h.owned]
    simp [Ledger.openBuffer]

/-- Asking for the desk of a buffer changes its own part only. -/
theorem Sound.part_enter (h : Sound w) (b c : BufferId) (settings : Option Settings) :
    (w.enter c settings).1.part b
      = if c = b then ((w.part b).enter b settings).1 else w.part b := by
  cases hc : w.provider.deskOf? c with
  | some k =>
    have howner := h.owner_of_deskOf? hc
    rw [enter_fst_of_open hc]
    -- An open buffer has its desk configured if settings come with it, and nothing else is done.
    have hpart := h.cut_doAt howner b
    by_cases hcb : c = b
    · subst hcb
      have hopen : (w.part c).provider.deskOf? c = some (w.number c k) := by
        rw [deskOf?_part, hc, Option.map_some]
      rw [if_pos rfl, enter_fst_of_open hopen]
      cases settings with
      | none => rfl
      | some s =>
        have hsame := congrArg Prod.fst (hpart (configured s))
        rw [if_pos rfl] at hsame
        exact hsame
    · rw [if_neg hcb]
      cases settings with
      | none => rfl
      | some s =>
        have hsame := congrArg Prod.fst (hpart (configured s))
        rw [if_neg hcb] at hsame
        exact hsame
  | none =>
    rw [enter_of_closed hc, h.part_openBuffer]
    by_cases hcb : c = b
    · subst hcb
      have hclosed : (w.part c).provider.deskOf? c = none := by
        rw [deskOf?_part, hc, Option.map_none]
      rw [if_pos rfl, if_pos rfl, enter_of_closed hclosed]
      rfl
    · rw [if_neg hcb, if_neg hcb]

/-- In its part the buffer gets the same desk, and the same is logged. -/
theorem Sound.enter_part (h : Sound w) (b : BufferId) (settings : Option Settings) :
    ((w.part b).enter b settings).2
      = ((w.enter b settings).1.number b (w.enter b settings).2.1, (w.enter b settings).2.2) := by
  cases hb : w.provider.deskOf? b with
  | some k =>
    have hopen : (w.part b).provider.deskOf? b = some (w.number b k) := by
      rw [deskOf?_part, hb, Option.map_some]
    rw [enter_of_open hopen, enter_of_open hb]
    rfl
  | none =>
    have hclosed : (w.part b).provider.deskOf? b = none := by
      rw [deskOf?_part, hb, Option.map_none]
    have hlength : (w.part b).provider.desks.length = (desksOf w.owners b).length :=
      List.length_map _
    rw [enter_of_closed hclosed, enter_of_closed hb, hlength, ← h.owned, number_length]

/-- What is logged for a buffer is seen of this one only. -/
theorem filter_logs (hk : w.owners[k]? = some c) (b : BufferId) (lines : List LogLine) :
    (w.logs c k lines).filter (fun o => o.1 == b)
      = if c = b then (w.part b).logs b (w.number b k) lines else [] := by
  by_cases hcb : c = b
  · subst hcb
    rw [if_pos rfl, logs, filter_map_self, logs, number_number hk]
  · rw [if_neg hcb, logs, filter_map_ne hcb]

/-! ## Operations -/

/-- A provider without another desk leaves the owners as they are. -/
theorem grow_of_length {p : Provider σ} (hp : p.desks.length = w.provider.desks.length)
    (b : BufferId) : w.grow b p = { w with provider := p } := by
  simp only [grow, hp, if_true]

/-- What is done at desks opens none. -/
theorem grow_grow {p p' : Provider σ} (hp : p'.desks.length = p.desks.length) (b : BufferId) :
    w.grow b p' = { w.grow b p with provider := p' } := by
  simp only [grow, hp]

/-- The notes of a desk are observed of its owner. -/
theorem observe_notes (hk : w.owners[k]? = some b) (notes : List Note) :
    (notes.map fun n => Seen.note (.desk k n)).filterMap (observe w.owners)
      = notes.map fun n => (b, .note (w.number b k) n) := by
  rw [List.filterMap_map, ← List.filterMap_eq_map]
  refine List.filterMap_congr fun n _ => ?_
  simp [observe, hk, number]

/-- The lines of a desk are observed of its owner. -/
theorem observe_logged (hk : w.owners[k]? = some b) (lines : List LogLine) :
    (logged k lines).filterMap (observe w.owners) = w.logs b k lines := by
  have h := observe_notes hk (lines.map .log)
  rw [List.map_map, List.map_map] at h
  exact h

/-- A note that is not meant for a caller who waits for diagnostics. -/
def passes : Note → Bool
  | .told _ _ (.answer ..) => false
  | _ => true

/-- Of what leaves a desk only what passes is seen to leave the provider. -/
def passing (f : Desk σ → Desk σ × List Note) (d : Desk σ) : Desk σ × List Note :=
  ((f d).1, (f d).2.filter passes)

variable [LintSession σ]

/-- Where nobody waits, all that is not meant for such a caller passes. -/
theorem absorb_of_alone {p : Provider σ} (hp : p.oneShots = []) (k : Nat) (notes : List Note) :
    p.absorb k notes = (p, (notes.filter passes).map (.desk k)) := by
  have hnobody (ticket : Nat) : p.oneShot? ticket = none := by simp [oneShot?, hp]
  have hsame (ticket : Nat) (f : OneShot → OneShot) : p.mapOneShot ticket f = p := by
    refine Provider.ext rfl rfl rfl rfl rfl ?_
    simp [mapOneShot, hp]
  induction notes with
  | nil => rfl
  | cons n rest ih =>
    have hone : p.absorbOne k n = (p, ([n].filter passes).map (.desk k)) := by
      cases n with
      | told id found telling =>
        cases telling with
        | answer ticket result => simp [absorbOne, hsame, tryEnd, hnobody, passes]
        | _ => rfl
      | returned ticket result =>
        simp only [absorbOne, hnobody]
        rfl
      | _ => rfl
    rw [absorb_cons, hone, ih, ← List.map_append, ← List.filter_append]
    rfl

/-- What passes of a desk's doings is seen of its owner. -/
theorem Sound.atDesk (h : Sound w) (hk : w.owners[k]? = some b) (f : Desk σ → Desk σ × List Note) :
    ({ w with provider := (w.provider.atDesk k f).1 } : Ledger σ).sees
        ((w.provider.atDesk k f).2.map .note) = w.doAt b k (passing f) ∧
    (w.provider.atDesk k f).1.desks.length = w.provider.desks.length := by
  have hd := List.getElem?_eq_getElem (h.lt_of_owner hk)
  have halone (d : Desk σ) : (w.provider.put k d).oneShots = [] := h.alone
  rw [atDesk_of_desk hd, absorb_of_alone (halone _)]
  refine ⟨?_, List.length_set⟩
  simp only [List.map_map, Ledger.doAt, hd, passing, sees]
  exact congrArg _ (observe_notes hk _)

variable {ε : Type} (make : Desk.Factory σ) (act : Desk σ → ε → Desk σ × List Note)

/-- To ask for a desk is to enter the buffer. -/
theorem Sound.step_deskFor (h : Sound w) (b : BufferId) (settings : Option Settings) :
    w.step make act (b, .deskFor settings)
      = ((w.enter b settings).1,
          (w.enter b settings).1.logs b (w.enter b settings).2.1 (w.enter b settings).2.2) := by
  have hlogged := observe_logged (h.owner_enter b settings) (w.enter b settings).2.2
  rw [← hlogged]
  rfl

/-- A check is a request at the desk by which the buffer is entered. -/
theorem Sound.step_check (h : Sound w) (b : BufferId) (system : System) (ticket : Nat) (text : Text)
    (host : Host) :
    let entered := w.enter b none
    let done := entered.1.doAt b entered.2.1
      (passing fun d => d.request make system ticket text host)
    w.step make act (b, .check system ticket text host)
      = (done.1, entered.1.logs b entered.2.1 entered.2.2 ++ done.2) := by
  intro entered done
  obtain ⟨hdone, hlength⟩ := (h.enter b none).atDesk (h.owner_enter b none)
    fun d => d.request make system ticket text host
  have hlogged := observe_logged (h.owner_enter b none) (w.enter b none).2.2
  let p := entered.1.provider.atDesk entered.2.1 fun d => d.request make system ticket text host
  have hgrow : w.grow b p.1 = { entered.1 with provider := p.1 } := grow_grow hlength b
  have hstep : w.step make act (b, .check system ticket text host)
      = (w.grow b p.1).sees (logged entered.2.1 entered.2.2 ++ p.2.map .note) := by
    have hnotes : logged entered.2.1 entered.2.2 ++ p.2.map .note
        = (entered.2.2.map (fun l => ProviderNote.desk entered.2.1 (.log l)) ++ p.2).map .note := by
      rw [List.map_append, List.map_map]
      rfl
    rw [hnotes]
    rfl
  rw [hstep, hgrow, sees, List.filterMap_append, hlogged]
  have hsame : done = ({ entered.1 with provider := p.1 } : Ledger σ).sees (p.2.map .note) :=
    hdone.symm
  rw [hsame]
  rfl

/-- What happens at a desk of a buffer is done there. -/
theorem Sound.step_desk (h : Sound w) (b : BufferId) (n : Nat) (e : ε) :
    w.step make act (b, .desk n e)
      = match (desksOf w.owners b)[n]? with
        | none => (w, [])
        | some k => w.doAt b k (passing fun d => act d e) := by
  cases hk : (desksOf w.owners b)[n]? with
  | none => simp [Ledger.step, event?, hk]
  | some k =>
    have howner : w.owners[k]? = some b := mem_desksOf.1 (List.mem_of_getElem? hk)
    obtain ⟨hdone, hlength⟩ := h.atDesk howner fun d => act d e
    have hgrow := grow_of_length hlength b
    have hstep : w.step make act (b, .desk n e)
        = (w.grow b (w.provider.atDesk k fun d => act d e).1).sees
            ((w.provider.atDesk k fun d => act d e).2.map .note) := by
      simp [Ledger.step, event?, hk, Provider.step]
    rw [hstep, hgrow]
    exact hdone

/-- A change of dialect enters the buffer, and configures the desk unless the dialect is refused. -/
theorem Sound.step_setDialect (h : Sound w) (b : BufferId) (dialect : Value) :
    let entered := w.enter b none
    let settings := (entered.1.provider.desks[entered.2.1]?.map fun d =>
      d.coordinator.settings).getD entered.1.provider.settings
    w.step make act (b, .setDialect dialect)
      = match settings.override [(Settings.Field.dialect.key, dialect)] with
        | .error f =>
          (entered.1, entered.1.logs b entered.2.1 entered.2.2 ++ [(b, .dialect (.error f))])
        | .ok s =>
          let line := note
            (Text.ofString "buffer " ++ b.shown ++ " now uses dialect " ++ s.dialect.name)
          ((entered.1.doAt b entered.2.1 (configured s)).1,
            entered.1.logs b entered.2.1 (entered.2.2 ++ [line]) ++ [(b, .dialect (.ok s))]) := by
  intro entered settings
  have howner := h.owner_enter b none
  have hdialect : w.provider.setDialect b dialect
      = match settings.override [(Settings.Field.dialect.key, dialect)] with
        | .error f => (entered.1.provider, .error f, entered.2.2)
        | .ok s =>
          (entered.1.provider.configureAt entered.2.1 s, .ok s, entered.2.2 ++ [note
            (Text.ofString "buffer " ++ b.shown ++ " now uses dialect " ++ s.dialect.name)]) := rfl
  have hstep : w.step make act (b, .setDialect dialect)
      = (w.grow b (w.provider.setDialect b dialect).1).sees
          (logged entered.2.1 (w.provider.setDialect b dialect).2.2
            ++ [.dialect b (w.provider.setDialect b dialect).2.1]) := rfl
  rw [hstep, hdialect]
  cases settings.override [(Settings.Field.dialect.key, dialect)] with
  | error f =>
    -- Growing once more adds no owner: the buffer has its desk since it was entered.
    have hgrow : w.grow b entered.1.provider = entered.1 := rfl
    dsimp only
    rw [hgrow, sees, List.filterMap_append, observe_logged howner]
    rfl
  | ok s =>
    have hlength := length_configureAt entered.1.provider entered.2.1 s
    have hgrow : w.grow b (entered.1.provider.configureAt entered.2.1 s)
        = { entered.1 with provider := entered.1.provider.configureAt entered.2.1 s } :=
      grow_grow hlength b
    dsimp only
    rw [hgrow, sees, List.filterMap_append, observe_logged howner, doAt_configured]
    rfl

/-- The check at a desk is given up. -/
def canceled (d : Desk σ) : Desk σ × List Note := (d.cancel.1, d.cancel.2.2)

/-- Closing a buffer that is open cancels what is under way at its desk. -/
theorem Sound.step_close (h : Sound w) (b : BufferId) :
    w.step make act (b, .close)
      = match w.provider.deskOf? b with
        | none => (w, [(b, .closed false)])
        | some k =>
          (((w.forget b).doAt b k canceled).1,
            ((w.forget b).doAt b k canceled).2
              ++ (w.forget b).logs b k [note (Text.ofString "closed buffer " ++ b.shown)]
              ++ [(b, .closed true)]) := by
  have hstep : w.step make act (b, .close)
      = (w.grow b (w.provider.closeStep b).1).sees (w.provider.closeStep b).2 := rfl
  cases hb : w.provider.deskOf? b with
  | none =>
    rw [hstep, closeStep_of_closed hb, grow_of_length rfl]
    rfl
  | some k =>
    have howner := h.owner_of_deskOf? hb
    have hd : (w.provider.forget b).desks[k]? = some _ :=
      List.getElem?_eq_getElem (h.lt_of_owner howner)
    rw [hstep, closeStep_of_open hb, cancelAt_of_desk hd, grow_of_length List.length_set, sees,
      List.filterMap_append, List.filterMap_append]
    simp only [Ledger.doAt, Ledger.forget, hd, canceled]
    rw [observe_notes howner, observe_logged howner]
    rfl

/-! ## Isolation -/

/-- What is done with a buffer is done in its part in the same way. -/
theorem Sound.cut_step_self (h : Sound w) (b : BufferId) (op : Operation ε) :
    cut b (w.step make act (b, op)) = (w.part b).step make act (b, op) := by
  have hpart := h.part b
  -- The desk of the buffer, once it was asked for, is the same in the part.
  have hentered (settings : Option Settings) :
      (w.enter b settings).1.part b = ((w.part b).enter b settings).1 := by
    rw [h.part_enter, if_pos rfl]
  have hlogs (settings : Option Settings) (lines : List LogLine) :
      ((w.enter b settings).1.logs b (w.enter b settings).2.1 lines).filter (fun o => o.1 == b)
        = ((w.part b).enter b settings).1.logs b ((w.part b).enter b settings).2.1 lines := by
    rw [filter_logs (h.owner_enter b settings), if_pos rfl, hentered, h.enter_part]
  have hdo (f : Desk σ → Desk σ × List Note) :
      cut b ((w.enter b none).1.doAt b (w.enter b none).2.1 f)
        = ((w.part b).enter b none).1.doAt b ((w.part b).enter b none).2.1 f := by
    rw [(h.enter b none).cut_doAt (h.owner_enter b none), if_pos rfl, hentered, h.enter_part]
  cases op with
  | deskFor settings =>
    rw [h.step_deskFor, hpart.step_deskFor, cut, hlogs, hentered, h.enter_part]
  | check system ticket text host =>
    rw [h.step_check, hpart.step_check, cut, List.filter_append, hlogs, ← hdo, h.enter_part]
    rfl
  | setDialect dialect =>
    have hsettings :
        (((w.part b).enter b none).1.provider.desks[((w.part b).enter b none).2.1]?.map fun d =>
          d.coordinator.settings).getD ((w.part b).enter b none).1.provider.settings
        = ((w.enter b none).1.provider.desks[(w.enter b none).2.1]?.map fun d =>
          d.coordinator.settings).getD (w.enter b none).1.provider.settings := by
      rw [← hentered, h.enter_part, (h.enter b none).desk_part (h.owner_enter b none)]
      rfl
    rw [h.step_setDialect, hpart.step_setDialect, hsettings]
    cases Settings.override _ _ with
    | error f =>
      dsimp only
      rw [cut, List.filter_append, hlogs, hentered, h.enter_part]
      simp
    | ok s =>
      dsimp only
      rw [cut, List.filter_append, hlogs, ← hdo, h.enter_part]
      simp [cut]
  | close =>
    rw [h.step_close, hpart.step_close, deskOf?_part]
    cases hb : w.provider.deskOf? b with
    | none => simp [cut]
    | some k =>
      have howner := h.owner_of_deskOf? hb
      have hforgot := h.forget b
      have hdone := hforgot.cut_doAt howner b canceled
      have hlogged := filter_logs (w := w.forget b) howner b
        [note (Text.ofString "closed buffer " ++ b.shown)]
      have hnumber : (w.forget b).number b k = w.number b k := rfl
      rw [if_pos rfl, part_forget, if_pos rfl, hnumber] at hdone hlogged
      dsimp only [Option.map_some]
      rw [cut, List.filter_append, List.filter_append, hlogged, ← hdone]
      simp [cut]
  | desk n e =>
    rw [h.step_desk, hpart.step_desk]
    have hdesks : desksOf (w.part b).owners b = List.range (desksOf w.owners b).length :=
      desksOf_replicate _ b
    rw [hdesks]
    cases hk : (desksOf w.owners b)[n]? with
    | none =>
      have hnone : (List.range (desksOf w.owners b).length)[n]? = none := by
        simpa using hk
      rw [hnone]
      simp [cut]
    | some k =>
      obtain ⟨hlt, -⟩ := List.getElem?_eq_some_iff.1 hk
      have howner : w.owners[k]? = some b := mem_desksOf.1 (List.mem_of_getElem? hk)
      have hnumber : w.number b k = n := idxOf_of_getElem? (nodup_desksOf w.owners b) hk
      rw [List.getElem?_range hlt]
      dsimp only
      rw [h.cut_doAt howner, if_pos rfl, hnumber]

/-- What is done with a buffer is not to be seen of another one. -/
theorem Sound.cut_step_ne (h : Sound w) {b c : BufferId} (hcb : c ≠ b) (op : Operation ε) :
    cut b (w.step make act (c, op)) = (w.part b, []) := by
  -- Every operation enters the buffer, logs lines of it and does something at its desk. None of the
  -- three is seen in the part of another buffer.
  have hentered (settings : Option Settings) : (w.enter c settings).1.part b = w.part b := by
    rw [h.part_enter, if_neg hcb]
  have hlogs (settings : Option Settings) (lines : List LogLine) :
      ((w.enter c settings).1.logs c (w.enter c settings).2.1 lines).filter (fun o => o.1 == b)
        = [] := by
    rw [filter_logs (h.owner_enter c settings), if_neg hcb]
  have hdo (f : Desk σ → Desk σ × List Note) :
      cut b ((w.enter c none).1.doAt c (w.enter c none).2.1 f) = (w.part b, []) := by
    rw [(h.enter c none).cut_doAt (h.owner_enter c none), if_neg hcb, hentered]
  cases op with
  | deskFor settings =>
    rw [h.step_deskFor, cut, hlogs, hentered]
  | check system ticket text host =>
    rw [h.step_check, cut, List.filter_append, hlogs]
    exact hdo _
  | setDialect dialect =>
    rw [h.step_setDialect]
    cases Settings.override _ _ with
    | error f =>
      dsimp only
      rw [cut, List.filter_append, hlogs, hentered]
      simp [hcb]
    | ok s =>
      dsimp only
      rw [cut, List.filter_append, hlogs]
      have hpart := congrArg Prod.fst (hdo (configured s))
      simpa [cut, hcb] using hpart
  | close =>
    rw [h.step_close]
    cases hc : w.provider.deskOf? c with
    | none => simp [cut, hcb]
    | some k =>
      have howner := h.owner_of_deskOf? hc
      -- The buffer is forgotten first, so its desk is canceled in a ledger that does not list it
      -- any more but still knows its owner.
      have hdone := (h.forget c).cut_doAt howner b canceled
      have hlogged := filter_logs (w := w.forget c) howner b
        [note (Text.ofString "closed buffer " ++ c.shown)]
      rw [if_neg hcb, part_forget, if_neg hcb] at hdone
      rw [if_neg hcb] at hlogged
      dsimp only
      rw [cut, List.filter_append, List.filter_append, hlogged]
      have hpart := congrArg Prod.fst hdone
      have hseen := congrArg Prod.snd hdone
      simp only [cut] at hpart hseen
      rw [hpart, hseen]
      simp [hcb]
  | desk n e =>
    rw [h.step_desk]
    cases hk : (desksOf w.owners c)[n]? with
    | none => rfl
    | some k =>
      have howner : w.owners[k]? = some c := mem_desksOf.1 (List.mem_of_getElem? hk)
      dsimp only
      rw [h.cut_doAt howner, if_neg hcb]

/-- Every operation leaves a ledger sound. -/
theorem Sound.step (h : Sound w) (o : BufferId × Operation ε) : Sound (w.step make act o).1 := by
  obtain ⟨b, op⟩ := o
  cases op with
  | deskFor settings =>
    rw [h.step_deskFor]
    exact h.enter b settings
  | check system ticket text host =>
    rw [h.step_check]
    exact (h.enter b none).doAt b _ _
  | setDialect dialect =>
    rw [h.step_setDialect]
    cases Settings.override _ _ with
    | error f => exact h.enter b none
    | ok s => exact (h.enter b none).doAt b _ _
  | close =>
    rw [h.step_close]
    cases w.provider.deskOf? b with
    | none => exact h
    | some k => exact (h.forget b).doAt b k _
  | desk n e =>
    rw [h.step_desk]
    cases (desksOf w.owners b)[n]? with
    | none => exact h
    | some k => exact h.doAt b k _

/-- In a run, what concerns a buffer is the run of the operations on this buffer in its part. -/
theorem Sound.cut_run (h : Sound w) (b : BufferId) (ops : List (BufferId × Operation ε)) :
    cut b (Machine.run (Ledger.step make act) w ops)
      = Machine.run (Ledger.step make act) (w.part b) (ops.filter fun o => o.1 == b) := by
  induction ops generalizing w with
  | nil => rfl
  | cons o ops ih =>
    obtain ⟨c, op⟩ := o
    have hrest := ih (h.step make act (c, op))
    have hcut : cut b (Machine.run (Ledger.step make act) w ((c, op) :: ops))
        = ((cut b (Machine.run (Ledger.step make act) (w.step make act (c, op)).1 ops)).1,
            (cut b (w.step make act (c, op))).2
              ++ (cut b (Machine.run (Ledger.step make act) (w.step make act (c, op)).1 ops)).2) := by
      rw [Machine.run_cons, cut, List.filter_append]
      rfl
    rw [hcut, hrest]
    by_cases hcb : c = b
    · subst hcb
      have hself := h.cut_step_self make act c op
      have hpart : (w.step make act (c, op)).1.part c = ((w.part c).step make act (c, op)).1 :=
        congrArg Prod.fst hself
      have hkept : ((c, op) :: ops).filter (fun o => o.1 == c)
          = (c, op) :: ops.filter fun o => o.1 == c := by simp
      rw [hself, hpart, hkept, Machine.run_cons]
    · have hother := h.cut_step_ne make act hcb op
      have hpart : (w.step make act (c, op)).1.part b = w.part b := congrArg Prod.fst hother
      have hleft : ((c, op) :: ops).filter (fun o => o.1 == b) = ops.filter fun o => o.1 == b := by
        simp [hcb]
      rw [hother, hpart, hleft]
      rfl

/-- Buffers are isolated: whatever is done with any buffers in any order, the desks of a buffer,
with their settings, checks and sessions, whether and at which desk it is open, and all that is seen
of it, in its order, are what they are when everything that is done with other buffers is left out.
As this holds of every run, it holds at every moment of a run. -/
theorem buffers_isolated (settings : Settings) (parser : OutputParser) (channel : Channel)
    (ops : List (BufferId × Operation ε)) (b : BufferId) :
    let after := Machine.run (Ledger.step make act) (opened settings parser channel)
    let own := ops.filter fun o => o.1 == b
    (after ops).1.part b = (after own).1.part b ∧
      (after ops).2.filter (fun o => o.1 == b) = (after own).2.filter fun o => o.1 == b := by
  intro after own
  have hopened : Sound (opened settings parser channel : Ledger σ) :=
    sound_opened settings parser channel
  have hall := hopened.cut_run make act b ops
  have hown := hopened.cut_run make act b own
  have hfilter : own.filter (fun o => o.1 == b) = own := by
    rw [List.filter_filter]
    simp [own]
  rw [hfilter] at hown
  have hsame : cut b (after ops) = cut b (after own) := hall.trans hown.symm
  exact ⟨congrArg Prod.fst hsame, congrArg Prod.snd hsame⟩

end Ledger

end Provider

end LiveLint
