import LiveLint.Proofs.Desk.Configured
import LiveLint.Proofs.Provider.Moves
import LiveLint.Proofs.Settings.Lossless

/-!
# Changes of the dialect

A dialect is changed by a copy of the settings of the buffer, all of whose fields are checked again.
As a host hands over only settings that it holds (`Equipped`), the check cannot fail for anything
but the dialect, and it cannot change anything else: a value that names a dialect is set in the
settings of the buffer alone, and any other value sets nothing (`dialect_set_alone_or_refused`).

A refusal does not close a buffer that was opened for it: like every use of a buffer, an attempt to
change its dialect opens it (`refused_dialect_opens_buffer`).
-/

namespace LiveLint

namespace Provider

variable {p p' : Provider (Session Unit)} {b : BufferId} {k : Nat}

/-! ## Settings that a host hands over -/

/-- The settings that come with an event. -/
def Event.settings? : Event Desk.Event → Option Settings
  | .deskFor _ settings => settings
  | .checkText _ _ _ settings => settings
  | .configure s => some s
  | .desk _ (.configure s) => some s
  | _ => none

/-- The provider and its desks work with settings that a host can hold. -/
structure Equipped (p : Provider (Session Unit)) : Prop where
  settings : p.settings.Held
  desks : ∀ (k : Nat) (d : Desk (Session Unit)), p.desks[k]? = some d → d.coordinator.settings.Held

/-- A desk keeps to settings that a host can hold, if none but those come with the event. -/
theorem held_step {d : Desk (Session Unit)} (h : d.coordinator.settings.Held) {x : Desk.Event}
    (hx : ∀ s, x = .configure s → s.Held) : (d.step x).1.coordinator.settings.Held := by
  by_cases hconfigures : ∃ s, x = .configure s
  · obtain ⟨s, rfl⟩ := hconfigures
    exact hx s rfl
  · rw [d.settings_step fun s hs => hconfigures ⟨s, hs⟩]
    exact h

/-- A new provider is equipped with the settings it is given. -/
theorem equipped_opened {settings : Settings} (h : settings.Held) (parser : OutputParser)
    (channel : Channel) : Equipped (opened settings parser channel) :=
  ⟨h, fun _ _ hd => by cases hd⟩

/-- A change of one desk leaves the provider equipped if the desk keeps to such settings. -/
theorem Equipped.alter (h : Equipped p) (k : Nat)
    {f : Desk (Session Unit) → Desk (Session Unit)}
    (hf : ∀ d, p.desks[k]? = some d → d.coordinator.settings.Held →
      (f d).coordinator.settings.Held) : Equipped (p.alter k f) where
  settings := h.settings
  desks j d' hd' := by
    rcases getElem?_alter_cases hd' with ⟨rfl, d, hd, rfl⟩ | ⟨-, hd⟩
    · exact hf d hd (h.desks j d hd)
    · exact h.desks j d' hd

/-- What happens at a desk leaves the provider equipped. -/
theorem Equipped.step (h : Equipped p) (k : Nat) {x : Desk.Event}
    (hx : ∀ s, x = .configure s → s.Held) : Equipped (p.alter k fun d => (d.step x).1) :=
  h.alter k fun _ _ hd => held_step hd hx

/-- A check that is canceled leaves the provider equipped. -/
theorem Equipped.cancel (h : Equipped p) (k : Nat) : Equipped (p.alter k fun d => d.cancel.1) :=
  h.step k (x := .cancel) fun _ h => nomatch h

/-- A new desk with such settings leaves the provider equipped. -/
theorem Equipped.addDesk (h : Equipped p) {settings : Settings} (hs : settings.Held)
    (channel : Channel) : Equipped (p.addDesk settings channel).1 where
  settings := h.settings
  desks k d hd := by
    rcases getElem?_concat_cases hd with hd | ⟨-, rfl⟩
    · exact h.desks k d hd
    · exact hs

/-- Dealing with callers leaves the provider equipped. -/
theorem Equipped.attends (h : Equipped p) (htidy : Tidy p) (hp : Attends p p') : Equipped p' := by
  cases hp with
  | marks => exact ⟨h.settings, h.desks⟩
  | @ends s hs leave hleave =>
    have hwithout : Equipped (p.without s.ticket) := ⟨h.settings, h.desks⟩
    refine hwithout.alter s.desk fun d hd hheld => ?_
    have hleft : (leave d).coordinator.settings.Held := by
      rcases hleave d (htidy.regular _ d hd) with hsame | ⟨id, hleft⟩
      · rw [hsame]
        exact hheld
      · rw [hleft]
        exact held_step hheld fun _ h => nomatch h
    exact held_step (x := .cancel) hleft fun _ h => nomatch h

/-- What is done at one desk leaves the provider equipped. -/
theorem Equipped.atDesk (h : Equipped p) (htidy : Tidy p) (k : Nat) {x : Desk.Event}
    (hx : ∀ s, x = .configure s → s.Held) : Equipped (p.atDesk k fun d => d.step x).1 := by
  rw [atDesk_eq_absorb]
  exact (absorb_preserve (P := fun p => Tidy p ∧ Equipped p)
    (fun _ _ h hp => ⟨h.1.attends hp, h.2.attends h.1 hp⟩)
    ⟨htidy.alter k fun d hd => hd.step x, h.step k hx⟩ k _).2

/-- Asking for the desk of a buffer leaves the provider equipped. -/
theorem Equipped.deskFor (h : Equipped p) (b : BufferId) {settings : Option Settings}
    (hs : ∀ s ∈ settings, s.Held) : Equipped (p.deskFor b settings).1 := by
  cases hb : p.deskOf? b with
  | some k =>
    rw [deskFor_of_open hb]
    cases settings with
    | none => exact h
    | some s =>
      change Equipped (p.configureAt k s)
      rw [configureAt_eq_alter]
      exact h.step k fun s' heq => by cases heq; exact hs s rfl
  | none =>
    have hheld : (settings.getD p.settings).Held := by
      cases settings with
      | none => exact h.settings
      | some s => exact hs s rfl
    rw [deskFor_of_closed hb]
    exact ⟨h.settings, (h.addDesk hheld p.channel).desks⟩

/-- Closing a buffer leaves the provider equipped. -/
theorem Equipped.closeStep (h : Equipped p) (b : BufferId) : Equipped (p.closeStep b).1 := by
  have hforgot : Equipped (p.forget b) := ⟨h.settings, h.desks⟩
  cases hb : p.deskOf? b with
  | none =>
    rw [closeStep_of_closed hb]
    exact h
  | some k =>
    rw [closeStep_of_open hb, cancelAt_eq_alter]
    exact hforgot.cancel k

/-! ## The desk whose dialect is changed -/

/-- A buffer that is open has the settings of its desk. -/
theorem settingsOf_of_desk {d : Desk (Session Unit)} (hb : p.deskOf? b = some k)
    (hd : p.desks[k]? = some d) : p.settingsOf b = d.coordinator.settings := by
  rw [settingsOf, hb, Option.bind_some, hd]
  rfl

/-- A buffer that is not open has the settings of the provider. -/
theorem settingsOf_of_closed (hb : p.deskOf? b = none) : p.settingsOf b = p.settings := by
  rw [settingsOf, hb]
  rfl

/-- A buffer's desk, be it opened just now, has the settings of the buffer. -/
theorem Tidy.exists_deskFor (h : Tidy p) (b : BufferId) :
    ∃ d, (p.deskFor b none).1.desks[(p.deskFor b none).2.1]? = some d ∧
      d.coordinator.settings = p.settingsOf b := by
  cases hb : p.deskOf? b with
  | some k =>
    have hd := List.getElem?_eq_getElem (h.known _ (mem_of_deskOf? hb))
    rw [deskFor_of_open hb]
    exact ⟨_, hd, (settingsOf_of_desk hb hd).symm⟩
  | none =>
    rw [deskFor_of_closed hb]
    exact ⟨_, List.getElem?_concat_length, (settingsOf_of_closed hb).symm⟩

/-- A dialect that is refused opens the buffer and changes nothing else. -/
theorem Tidy.setDialect_refused (h : Tidy p) {v : Value} {f : Fault}
    (hv : (p.settingsOf b).override [(Settings.Field.dialect.key, v)] = .error f) :
    (p.setDialect b v).1 = (p.deskFor b none).1 ∧ (p.setDialect b v).2.1 = .error f := by
  obtain ⟨d, hd, hsettings⟩ := h.exists_deskFor b
  unfold Provider.setDialect
  simp only [hd, Option.map_some, Option.getD_some, hsettings, hv, and_self]

/-- A dialect that is accepted is set at the desk of the buffer, which is opened if need be. -/
theorem Tidy.setDialect_accepted (h : Tidy p) {v : Value} {s : Settings}
    (hv : (p.settingsOf b).override [(Settings.Field.dialect.key, v)] = .ok s) :
    (p.setDialect b v).1 = (p.deskFor b none).1.configureAt (p.deskFor b none).2.1 s ∧
      (p.setDialect b v).2.1 = .ok s := by
  obtain ⟨d, hd, hsettings⟩ := h.exists_deskFor b
  unfold Provider.setDialect
  simp only [hd, Option.map_some, Option.getD_some, hsettings, hv, and_self]

/-- Every buffer has settings that a host can hold. -/
theorem Equipped.settingsOf (h : Equipped p) (b : BufferId) : (p.settingsOf b).Held := by
  unfold Provider.settingsOf
  cases hd : (p.deskOf? b).bind fun k => p.desks[k]? with
  | none => exact h.settings
  | some d =>
    obtain ⟨k, -, hd⟩ := Option.bind_eq_some_iff.1 hd
    exact h.desks k d hd

/-- A change of dialect leaves the provider equipped. -/
theorem Equipped.setDialect (h : Equipped p) (htidy : Tidy p) (b : BufferId) (v : Value) :
    Equipped (p.setDialect b v).1 := by
  have hopened : Equipped (p.deskFor b none).1 := h.deskFor b fun _ h => nomatch h
  cases hv : (p.settingsOf b).override [(Settings.Field.dialect.key, v)] with
  | error f =>
    rw [(htidy.setDialect_refused hv).1]
    exact hopened
  | ok s =>
    rw [(htidy.setDialect_accepted hv).1, configureAt_eq_alter]
    exact hopened.step _ fun s' heq => by cases heq; exact (h.settingsOf b).override hv

/-- Every event leaves the provider equipped, if the settings that come with it can be held. -/
theorem Equipped.happens (h : Equipped p) (htidy : Tidy p) {e : Event Desk.Event}
    (he : ∀ s ∈ e.settings?, s.Held) : Equipped (p.happens e).1 := by
  cases e with
  | deskFor b settings => exact h.deskFor b he
  | check system ticket b text host =>
    have hcheck : (p.happens (.check system ticket b text host)).1
        = (p.runCheck Session.make system ticket b text host).1 := rfl
    rw [hcheck, runCheck_eq]
    have htidy' : Tidy (p.deskFor b none).1 :=
      htidy.moves (deskFor_moves (e := .check system ticket b text host) p rfl none)
    have hopened : Equipped (p.deskFor b none).1 := h.deskFor b fun _ h => nomatch h
    exact hopened.atDesk htidy' _ (x := .request system ticket text host) fun _ h => nomatch h
  | setDialect b v => exact h.setDialect htidy b v
  | close b => exact h.closeStep b
  | shutdown => exact Machine.run_invariant (fun _ b h => h.closeStep b) h _
  | checkText system ticket text own =>
    have hcheck : (p.happens (.checkText system ticket text own)).1
        = (p.checkText Session.make system ticket text own).1 := rfl
    have hheld : (own.getD p.settings).Held := by
      cases own with
      | none => exact h.settings
      | some s => exact he s rfl
    rw [hcheck, checkText_eq]
    have henlisted : Equipped (p.enlist ticket (own.getD p.settings)) :=
      ⟨h.settings, (h.addDesk hheld .log).desks⟩
    exact henlisted.atDesk (htidy.enlist _ _) _ (x := .request system ticket text (.caller ticket))
      fun _ h => nomatch h
  | abandon ticket =>
    -- Whether a desk may be attended to depends on the provider being tidy, so both go along.
    have hboth {p' : Provider (Session Unit)} (hp : Relation.ReflTransGen Attends p p') :
        Tidy p' ∧ Equipped p' := by
      induction hp with
      | refl => exact ⟨htidy, h⟩
      | tail _ hlast ih => exact ⟨ih.1.attends hlast, ih.2.attends ih.1 hlast⟩
    exact (hboth (abandon_moves p ticket)).2
  | configure s => exact ⟨he s rfl, h.desks⟩
  | desk k x =>
    exact h.atDesk htidy k fun s hs => by
      subst hs
      exact he s rfl

/-- A provider is equipped, whatever has happened to it. -/
theorem equipped_run {settings : Settings} (parser : OutputParser) (channel : Channel)
    {es : List (Event Desk.Event)}
    (hheld : ∀ s ∈ settings :: es.filterMap Event.settings?, s.Held) :
    Equipped (Machine.run happens (opened settings parser channel) es).1 := by
  rw [List.forall_mem_cons] at hheld
  have hguarded : Machine.Guarded happens (fun _ e => ∀ s ∈ e.settings?, s.Held)
      (opened settings parser channel) es :=
    Machine.guarded_of_forall _ fun e he s hs => hheld.2 s (List.mem_filterMap.2 ⟨e, he, hs⟩)
  exact (Machine.run_invariant_of_guarded (P := fun p => Tidy p ∧ Equipped p)
    (fun p e h he => ⟨h.1.happens e, h.2.happens h.1 he⟩)
    ⟨tidy_opened settings parser channel, equipped_opened hheld.1 parser channel⟩ hguarded).2

/-! ## The settings of one buffer -/

/-- The buffer is open and has the settings, and all else is as it was. -/
structure SetsOnly (b : BufferId) (s : Settings) (p p' : Provider (Session Unit)) : Prop where
  opened : p'.contains b
  set : p'.settingsOf b = s
  /-- The buffers that were open are open still, at the same desks. -/
  registry : p.registry <+: p'.registry
  /-- Other buffers are open or not, and have the settings, as before. -/
  others : ∀ c, c ≠ b → p'.contains c = p.contains c ∧ p'.settingsOf c = p.settingsOf c
  /-- No check and no session is touched, at the desk of the buffer or at any other. -/
  desks : ∀ (k : Nat) (d : Desk (Session Unit)), p.desks[k]? = some d →
    p'.desks[k]? = some (if p.deskOf? b = some k
      then { d with coordinator := { d.coordinator with settings := s } } else d)
  /-- At a new desk nothing was requested yet. -/
  fresh : ∀ (k : Nat) (d : Desk (Session Unit)), p'.desks[k]? = some d → p.desks.length ≤ k →
    d = Desk.opened s p.parser p.channel
  settings : p'.settings = p.settings
  callers : p'.oneShots = p.oneShots

/-- Where the desk of a buffer is the same, its settings are. -/
theorem Tidy.settingsOf_eq (h : Tidy p) {c : BufferId} (hsettings : p'.settings = p.settings)
    (hc : p'.deskOf? c = p.deskOf? c)
    (hdesk : ∀ j, p.deskOf? c = some j → p'.desks[j]? = p.desks[j]?) :
    p'.settingsOf c = p.settingsOf c := by
  cases hj : p.deskOf? c with
  | none => rw [settingsOf_of_closed hj, settingsOf_of_closed (hc.trans hj), hsettings]
  | some j =>
    have hd := List.getElem?_eq_getElem (h.known _ (mem_of_deskOf? hj))
    rw [settingsOf_of_desk hj hd, settingsOf_of_desk (hc.trans hj) ((hdesk j hj).trans hd)]

/-- Settings for the desk of an open buffer are settings for that buffer alone. -/
theorem Tidy.setsOnly_configureAt (h : Tidy p) (hb : p.deskOf? b = some k) (s : Settings) :
    SetsOnly b s p (p.configureAt k s) := by
  have hk : k < p.desks.length := h.known _ (mem_of_deskOf? hb)
  rw [configureAt_eq_alter]
  constructor
  case opened => exact Option.isSome_iff_exists.2 ⟨k, hb⟩
  case set =>
    have hd := getElem?_alter_self (f := fun d => (d.step (.configure s)).1)
      (List.getElem?_eq_getElem hk)
    exact settingsOf_of_desk (p := p.alter k _) hb hd
  case registry => exact List.prefix_refl _
  case others =>
    refine fun c hcb => ⟨rfl, h.settingsOf_eq rfl rfl fun j hj => ?_⟩
    exact getElem?_alter_ne (h.desk_ne hj hb hcb)
  case desks =>
    intro j d hd
    split
    · rename_i hj
      obtain rfl : k = j := Option.some.inj (hb.symm.trans hj)
      exact getElem?_alter_self hd
    · rename_i hj
      have hjk : j ≠ k := by
        rintro rfl
        exact hj hb
      exact (getElem?_alter_ne hjk).trans hd
  case fresh =>
    intro j d hd hle
    have hlt := (List.getElem?_eq_some_iff.1 hd).1
    rw [length_alter] at hlt
    exact absurd hle (Nat.not_le_of_lt hlt)
  case settings => rfl
  case callers => rfl

/-- Opening a buffer opens no other. -/
theorem deskOf?_openBuffer_ne {c : BufferId} (hcb : c ≠ b) (settings : Settings) :
    (p.openBuffer b settings).deskOf? c = p.deskOf? c := by
  have hne : (b == c) = false := beq_eq_false_iff_ne.2 (Ne.symm hcb)
  simp [deskOf?, openBuffer, List.find?_append, hne]

/-- A buffer that is opened with settings has them, and no other buffer is touched. -/
theorem Tidy.setsOnly_openBuffer (h : Tidy p) (hb : p.deskOf? b = none) (s : Settings) :
    SetsOnly b s p (p.openBuffer b s) := by
  have hopened := deskOf?_openBuffer hb s
  constructor
  case opened => exact Option.isSome_iff_exists.2 ⟨_, hopened⟩
  case set => exact settingsOf_of_desk hopened List.getElem?_concat_length
  case registry => exact List.prefix_append _ _
  case others =>
    intro c hcb
    have hc : (p.openBuffer b s).deskOf? c = p.deskOf? c := deskOf?_openBuffer_ne hcb s
    refine ⟨congrArg Option.isSome hc, h.settingsOf_eq rfl hc fun j hj => ?_⟩
    exact List.getElem?_append_left (h.known _ (mem_of_deskOf? hj))
  case desks =>
    intro j d hd
    rw [hb, if_neg (Option.some_ne_none j).symm]
    exact (List.getElem?_append_left (List.getElem?_eq_some_iff.1 hd).1).trans hd
  case fresh =>
    intro j d hd hle
    rcases getElem?_concat_cases hd with hd | ⟨-, rfl⟩
    · exact absurd hle (Nat.not_le_of_lt (List.getElem?_eq_some_iff.1 hd).1)
    · rfl
  case settings => rfl
  case callers => rfl

/-- The settings of the desk that was opened for a buffer are changed as if it had been opened with
them. -/
theorem configureAt_openBuffer (p : Provider (Session Unit)) (b : BufferId) (settings s : Settings) :
    (p.openBuffer b settings).configureAt p.desks.length s = p.openBuffer b s := by
  rw [configureAt_of_desk List.getElem?_concat_length]
  simp [put, openBuffer, Provider.addDesk, Coordinator.step]

/-- Whether a buffer is open or not, its settings are set for it alone. -/
theorem Tidy.setsOnly_deskFor (h : Tidy p) (b : BufferId) (s : Settings) :
    SetsOnly b s p ((p.deskFor b none).1.configureAt (p.deskFor b none).2.1 s) := by
  cases hb : p.deskOf? b with
  | some k =>
    rw [deskFor_of_open hb]
    exact h.setsOnly_configureAt hb s
  | none =>
    rw [deskFor_of_closed hb, configureAt_openBuffer]
    exact h.setsOnly_openBuffer hb s

/-- Opening the desk of a buffer sets nothing. -/
theorem Tidy.setsOnly_opened (h : Tidy p) (b : BufferId) :
    SetsOnly b (p.settingsOf b) p (p.deskFor b none).1 := by
  obtain ⟨d, hd, hsettings⟩ := h.exists_deskFor b
  have hsame : (p.deskFor b none).1.configureAt (p.deskFor b none).2.1 (p.settingsOf b)
      = (p.deskFor b none).1 := by
    rw [← hsettings, configureAt_of_desk hd]
    exact put_self hd
  have hsets := h.setsOnly_deskFor b (p.settingsOf b)
  rwa [hsame] at hsets

/-! ## Named dialects and other values -/

/-- The value is a text that names the dialect, in whatever case and with margins. -/
def Names (v : Value) (d : Dialect) : Prop := ∃ t, v = .text t ∧ d.name = t.strip.lower

/-- A name of a dialect passes the check, which sets that dialect. -/
theorem check_dialect_of_names {v : Value} {d : Dialect} (h : Names v d) :
    Settings.check .dialect v = .ok fun s => { s with dialect := d } :=
  Settings.check_eq_ok_iff.2 (.dialect (Settings.checkDialect_eq_ok_iff.2 h))

/-- What names no dialect is refused for the field of the dialect. -/
theorem check_dialect_of_not_names {v : Value} (h : ∀ d, ¬ Names v d) :
    ∃ complaint, Settings.check .dialect v
      = .error [⟨[Settings.Field.dialect.key], complaint⟩] := by
  rcases Settings.checkDialect_cases v with ⟨d, hd⟩ | ⟨complaint, hrefused⟩
  · exact absurd (Settings.checkDialect_eq_ok_iff.1 hd) (h d)
  · refine ⟨complaint, ?_⟩
    rw [Settings.check, hrefused]
    rfl

/-- A value that names a dialect is set as the dialect of the buffer, and any other value is refused
for itself. Nothing else of the settings of the buffer changes, nor anything else of the provider,
but that the buffer is opened if it was not open. -/
theorem dialect_set_alone_or_refused (settings : Settings) (parser : OutputParser) (channel : Channel)
    (es : List (Event Desk.Event))
    (hheld : ∀ s ∈ settings :: es.filterMap Event.settings?, s.Held) (b : BufferId) (v : Value) :
    let p := (Machine.run happens (opened settings parser channel) es).1
    let changed := p.setDialect b v
    (∀ d, Names v d →
      changed.2.1 = .ok { p.settingsOf b with dialect := d } ∧
        SetsOnly b { p.settingsOf b with dialect := d } p changed.1) ∧
    ((∀ d, ¬ Names v d) →
      (∃ complaint, changed.2.1
        = .error (.invalidConfig [⟨[Settings.Field.dialect.key], complaint⟩])) ∧
      SetsOnly b (p.settingsOf b) p changed.1 ∧ (p.contains b → changed.1 = p)) := by
  intro p changed
  have htidy : Tidy p := tidy_run settings parser channel es
  have hequipped : Equipped p := equipped_run parser channel hheld
  -- The settings of the buffer are lossless, so the override is judged by the new dialect alone.
  have hoverride := (hequipped.settingsOf b).lossless.override_field .dialect v
  constructor
  · intro d hd
    rw [check_dialect_of_names hd] at hoverride
    obtain ⟨hafter, hresult⟩ := htidy.setDialect_accepted hoverride
    refine ⟨hresult, ?_⟩
    rw [hafter]
    exact htidy.setsOnly_deskFor b _
  · intro hnone
    obtain ⟨complaint, hcheck⟩ := check_dialect_of_not_names hnone
    rw [hcheck] at hoverride
    obtain ⟨hafter, hresult⟩ := htidy.setDialect_refused hoverride
    refine ⟨⟨complaint, hresult⟩, ?_, fun hopen => ?_⟩
    · rw [hafter]
      exact htidy.setsOnly_opened b
    · obtain ⟨k, hk⟩ := Option.isSome_iff_exists.1 hopen
      rw [hafter, deskFor_of_open hk]
      rfl

/-- Settings of its own for one buffer, and checks of two that wait for the system. -/
def twoChecked : List (Event Desk.Event) :=
  let system : System := { find := fun _ => some "/bin/lint", environment := [] }
  [.deskFor (.text "a.sql") (some { executable := "fluff", dialect := .hive }),
    .check system 1 (.text "a.sql") "select 1" (.display "r" none false),
    .check system 2 (.text "b.sql") "select 2" (.display "r" none false)]

/-- The margins and capitals of one value are no matter, and the other value leaves no trace. -/
theorem dialect_set_while_checked :
    let p := (Machine.run happens (opened {} {} .log) twoChecked).1
    let named := p.setDialect (.text "a.sql") (.text " DuckDB\n")
    let other := p.setDialect (.text "a.sql") (.text "cobol")
    p.desks.map (fun d => d.coordinator.slot) = [some 1, some 1] ∧
      named.2.1 = .ok { executable := "fluff", dialect := .duckdb } ∧
      SetsOnly (.text "a.sql") { executable := "fluff", dialect := .duckdb } p named.1 ∧
      other.1 = p := by
  intro p named other
  have hheld : ∀ s ∈ ({} : Settings) :: twoChecked.filterMap Event.settings?, s.Held := by
    intro s hs
    rcases List.mem_pair.1 hs with rfl | rfl
    · exact ⟨[.build (.table [])], List.mem_singleton.2 rfl⟩
    · exact ⟨[.build (.table [("executable", .text "fluff"), ("dialect", .text "hive")])],
        List.mem_singleton.2 rfl⟩
  have hset := dialect_set_alone_or_refused {} {} .log twoChecked hheld (.text "a.sql")
  obtain ⟨hresult, hnamed⟩ := (hset (.text " DuckDB\n")).1 .duckdb ⟨_, rfl, by decide⟩
  have hcobol : ∀ d, ¬ Names (.text "cobol") d := by
    rintro d ⟨t, ht, hname⟩
    cases ht
    have hlower : Text.lower (Text.strip "cobol") = "cobol" := by decide
    rw [hlower] at hname
    cases d <;> exact absurd hname (by decide)
  exact ⟨by decide, hresult, hnamed, ((hset (.text "cobol")).2 hcobol).2.2 rfl⟩

/-- A buffer is opened by an attempt to change its dialect that is refused. -/
theorem refused_dialect_opens_buffer :
    let p : Provider (Session Unit) := (Machine.run happens (opened {} {} .log) []).1
    let changed := p.setDialect (.text "q.sql") (.text "cobol")
    (∃ ps, changed.2.1 = .error (.invalidConfig ps)) ∧ p.registry = [] ∧
      changed.1.registry.map Prod.fst = [.text "q.sql"] :=
  ⟨⟨_, rfl⟩, rfl, rfl⟩

end Provider

end LiveLint
