import LiveLint.Machine
import LiveLint.Proofs.Issue.Truncation
import LiveLint.Proofs.Settings.Fields

/-!
# Settings can always be run with

Whatever a host builds settings from, overrides in copies and assigns, the settings that it comes to
hold name an executable, have a dialect and a unit, and limit the time by a positive number if at
all (`Settings.held_settings_runnable`). The rule of each field (`Field.Sound`) holds of its default
and of whatever its check accepts (`Puts.sound`), so that it does not matter by which of the three
ways a value came. What is refused leaves everything that is held as it was, and a copy leaves the
settings that it was made of.
-/

namespace LiveLint

/-- What lies above something is a number. -/
theorem isNaN_of_lt {x y : Float} (h : y < x) : x.isNaN = false := by
  have hlt : y.toModel.unpack.lt x.toModel.unpack = true := of_decide_eq_true h
  change x.toModel.unpack.isNaN = false
  generalize x.toModel.unpack = above at hlt ⊢
  generalize y.toModel.unpack = below at hlt
  cases above with
  | notANumber => cases below <;> cases hlt
  | _ => rfl

namespace Settings

/-- No blank space at either end, and something between. -/
structure Trimmed (t : Text) : Prop where
  ne_nil : t ≠ []
  first : ∀ c, t.head? = some c → c.isBlank = false
  last : ∀ c, t.getLast? = some c → c.isBlank = false

/-- What the linter process needs of the field. -/
def Field.Sound (f : Field) (s : Settings) : Prop :=
  match f with
  | .executable => Trimmed s.executable
  | .dialect => s.dialect ∈ Dialect.all
  | .timeout => ∀ x ∈ s.timeout, 0 < x ∧ x.isNaN = false
  | .offsetUnit => s.offsetUnit ∈ OffsetUnit.all
  | .extraArguments | .directory | .environment => True

/-- Settings with which the linter can be run. That arguments are texts, and variables have texts
for names and values, is said by their types. -/
structure Runnable (s : Settings) : Prop where
  executable : Trimmed s.executable
  dialect : s.dialect ∈ Dialect.all
  timeout : ∀ x ∈ s.timeout, 0 < x ∧ x.isNaN = false
  offsetUnit : s.offsetUnit ∈ OffsetUnit.all

/-- Settings are runnable exactly if each of their fields is sound. -/
theorem runnable_iff {s : Settings} : s.Runnable ↔ ∀ f : Field, f.Sound s := by
  constructor
  · intro h f
    cases f with
    | executable => exact h.executable
    | dialect => exact h.dialect
    | timeout => exact h.timeout
    | offsetUnit => exact h.offsetUnit
    | extraArguments | directory | environment => trivial
  · exact fun h => ⟨h .executable, h .dialect, h .timeout, h .offsetUnit⟩

/-! ## The rules of the fields -/

/-- The list of the dialects leaves none out. -/
theorem mem_dialects (d : Dialect) : d ∈ Dialect.all := by
  cases d <;> decide

/-- The list of the offset units leaves none out. -/
theorem mem_offsetUnits (u : OffsetUnit) : u ∈ OffsetUnit.all := by
  cases u <;> decide

/-- What stripping leaves, if it leaves anything, is trimmed. -/
theorem trimmed_strip {t : Text} (h : t.strip ≠ []) : Trimmed t.strip where
  ne_nil := h
  first _ := Text.not_isBlank_of_head_strip
  last _ := Text.of_getLast_trimRight

/-- An executable that comes out of its check is trimmed. -/
theorem trimmed_of_checkExecutable {v : Value} {a : Text} (h : checkExecutable v = .ok a) :
    Trimmed a := by
  cases v with
  | text t =>
    change (if t.strip.isEmpty then Checked.refuse _ else .ok t.strip) = Except.ok a at h
    split at h
    · cases h
    · rename_i hne
      cases h
      exact trimmed_strip fun hnil => hne (List.isEmpty_iff.2 hnil)
  | _ => cases h

/-- A number that comes out of the check for positive ones is above zero. -/
theorem pos_of_positive {v : Value} {x : Float} (h : Validation.positive v = .ok x) : 0 < x := by
  unfold Validation.positive at h
  cases hnumber : Validation.number v with
  | error ps =>
    rw [hnumber] at h
    cases h
  | ok y =>
    rw [hnumber] at h
    change (if 0 < y then .ok y else Checked.refuse _) = Except.ok x at h
    split at h
    · cases h
      assumption
    · cases h

/-- Every field of the default settings is sound. -/
theorem Field.sound_default (f : Field) : f.Sound {} := by
  cases f with
  | executable => exact ⟨by decide, by decide, by decide⟩
  | dialect => exact mem_dialects _
  | timeout => exact nofun
  | offsetUnit => exact mem_offsetUnits _
  | extraArguments | directory | environment => trivial

/-- Whether a field is sound depends on that field alone. -/
theorem Field.Sound.of_same {f : Field} {s s' : Settings} (h : f.Sound s') (hsame : f.Same s s') :
    f.Sound s := by
  cases f with
  | executable | dialect | timeout | offsetUnit =>
    unfold Field.Sound Field.Same at *
    dsimp only at *
    rwa [hsame]
  | extraArguments | directory | environment => trivial

/-- What a check accepts keeps the rule of its field. -/
theorem Puts.sound {f : Field} {v : Value} {put : Settings → Settings} (h : Puts f v put)
    (s : Settings) : f.Sound (put s) := by
  cases h with
  | executable h => exact trimmed_of_checkExecutable h
  | dialect => exact mem_dialects _
  | timeout h =>
    intro x hx
    have hpos := pos_of_positive (Validation.mem_of_nullable h hx)
    exact ⟨hpos, isNaN_of_lt hpos⟩
  | offsetUnit => exact mem_offsetUnits _
  | extraArguments | directory | environment => trivial

/-! ## The ways to settings -/

/-- A rule about single fields that the defaults keep, and whatever a check accepts. -/
structure Rule (holds : Field → Settings → Prop) : Prop where
  ofSame : ∀ {f : Field} {s s' : Settings}, holds f s' → f.Same s s' → holds f s
  default : ∀ f : Field, holds f {}
  puts : ∀ {f : Field} {v : Value} {put : Settings → Settings}, Puts f v put →
    ∀ s, holds f (put s)

section

variable {holds : Field → Settings → Prop}

/-- What every check leaves holds of all the fields of a validated table. -/
theorem Rule.ofTable (h : Rule holds) {t : Table} {s : Settings} (ht : ofTable t = .ok s)
    (f : Field) : holds f s := by
  have hread := (ofTable_eq_ok_iff.1 ht).2 f
  cases hv : Table.get? f.key t with
  | none =>
    rw [hv] at hread
    exact h.ofSame (h.default f) hread
  | some v =>
    rw [hv] at hread
    obtain ⟨put, hput, hsame⟩ := hread
    exact h.ofSame (h.puts hput {}) hsame

/-- What every check leaves holds of all the fields of validated settings. -/
theorem Rule.ofValue (h : Rule holds) {v : Value} {s : Settings} (hv : ofValue v = .ok s)
    (f : Field) : holds f s := by
  obtain ⟨t, rfl⟩ := table_of_ofValue hv
  exact h.ofTable (ofValue_table_eq_ok_iff.1 hv) f

/-- What every check leaves holds of all the fields after an override. -/
theorem Rule.override (h : Rule holds) {s s' : Settings} {overrides : Table}
    (hs : s.override overrides = .ok s') (f : Field) : holds f s' := by
  unfold Settings.override at hs
  split at hs
  · cases hs
  · exact h.ofValue hs f

end

/-- Every check leaves a sound field. -/
theorem rule_sound : Rule Field.Sound where
  ofSame := Field.Sound.of_same
  default := Field.sound_default
  puts := Puts.sound

/-- The settings of a validated table are runnable. -/
theorem runnable_of_ofTable {t : Table} {s : Settings} (h : ofTable t = .ok s) : s.Runnable :=
  runnable_iff.2 (rule_sound.ofTable h)

/-- An assignment changes nothing, or it puts an accepted value into the field of the key. -/
theorem assign_cases {s s' : Settings} {key : Text} {v : Value} (h : s.assign key v = .ok s') :
    s' = s ∨ ∃ f put, Field.key f = key ∧ Puts f v put ∧ s' = put s := by
  unfold assign at h
  split at h
  case h_1 =>
    split at h
    · cases h
      exact .inl rfl
    · cases h
  case h_2 f hf =>
    split at h
    case h_1 put hput =>
      cases h
      exact .inr ⟨f, put, Field.key_of_ofKey? hf, check_eq_ok_iff.1 hput, rfl⟩
    case h_2 => cases h

/-- What every check leaves, and held of the settings before, holds of all the fields after an
assignment. -/
theorem Rule.assign {holds : Field → Settings → Prop} (h : Rule holds) {s s' : Settings}
    (hs : ∀ f, holds f s) {key : Text} {v : Value} (hassign : s.assign key v = .ok s') (f : Field) :
    holds f s' := by
  rcases assign_cases hassign with rfl | ⟨g, put, -, hput, rfl⟩
  · exact hs f
  · by_cases hf : f = g
    · exact hf ▸ h.puts hput s
    · exact h.ofSame (hs f) (hput.keeps hf s)

/-- An assignment leaves the fields with other keys. -/
theorem same_of_assign {s s' : Settings} {key : Text} {v : Value} (h : s.assign key v = .ok s')
    {f : Field} (hf : f.key ≠ key) : f.Same s' s := by
  rcases assign_cases h with rfl | ⟨g, put, hg, hput, rfl⟩
  · exact Field.Same.refl f _
  · exact hput.keeps (by rintro rfl; exact hf hg) s

/-! ## A host's settings -/

/-- What a host does with settings; it tells those that it holds apart by their places. -/
inductive Change where
  /-- Builds settings from a value. -/
  | build (v : Value)
  /-- Makes a copy of the settings at a place, with overrides. -/
  | copy (i : Nat) (overrides : Table)
  /-- Assigns a field of the settings at a place. -/
  | assign (i : Nat) (key : Text) (v : Value)

namespace Change

/-- The settings that a change makes, or the fault; nothing without settings at the place. -/
def result? (held : List Settings) : Change → Option (Except Fault Settings)
  | .build v => some (ofValue v)
  | .copy i overrides => held[i]?.map fun s => s.override overrides
  | .assign i key v => held[i]?.map fun s => s.assign key v

/-- Where the settings go that a change makes. -/
def store (s : Settings) (held : List Settings) : Change → List Settings
  | .build _ | .copy .. => held ++ [s]
  | .assign i .. => held.set i s

/-- Makes a change of what is held. A fault does not take back what was done before. -/
def make (c : Change) : ExceptT Fault (StateM (List Settings)) Unit := do
  match c.result? (← get) with
  | none => return
  | some r =>
    let s ← liftM r
    modify fun held => c.store s held

end Change

/-- The settings that are held after a change, and the fault if it was refused. -/
def change (held : List Settings) (c : Change) : List Settings × List Fault :=
  match c.make.run held with
  | (.ok (), held') => (held', [])
  | (.error f, held') => (held', [f])

/-- A change does nothing without settings to work on, and otherwise reports its fault or stores its
settings. -/
theorem change_eq (held : List Settings) (c : Change) :
    change held c
      = match c.result? held with
        | none => (held, [])
        | some (.error f) => (held, [f])
        | some (.ok s) => (c.store s held, []) := by
  have hmake : c.make.run held
      = (match c.result? held with
        | none => pure ()
        | some r => do
          let s ← liftM r
          modify fun held => c.store s held
        : ExceptT Fault (StateM (List Settings)) Unit).run held := rfl
  unfold change
  rw [hmake]
  rcases c.result? held with _ | _ | _ <;> rfl

/-- What a change can do. -/
inductive Changed (held : List Settings) : Change → List Settings × List Fault → Prop
  /-- There are no settings at the place. -/
  | missed (c : Change) : Changed held c (held, [])
  | refused (c : Change) (f : Fault) : Changed held c (held, [f])
  | built {v : Value} {s : Settings} (h : ofValue v = .ok s) :
    Changed held (.build v) (held ++ [s], [])
  | copied {i : Nat} {overrides : Table} {s s' : Settings} (h : s.override overrides = .ok s') :
    Changed held (.copy i overrides) (held ++ [s'], [])
  | assigned {i : Nat} {key : Text} {v : Value} {s s' : Settings} (hs : held[i]? = some s)
      (h : s.assign key v = .ok s') : Changed held (.assign i key v) (held.set i s', [])

/-- A change does to the held settings what the relation of changes allows. -/
theorem changed_change (held : List Settings) (c : Change) : Changed held c (change held c) := by
  rw [change_eq]
  cases hr : c.result? held with
  | none => exact .missed c
  | some r =>
    cases r with
    | error f => exact .refused c f
    | ok s =>
      cases c with
      | build v => exact .built (Option.some.inj hr)
      | copy i overrides =>
        obtain ⟨_, -, h⟩ := Option.map_eq_some_iff.1 hr
        exact .copied h
      | assign i key v =>
        obtain ⟨_, hs, h⟩ := Option.map_eq_some_iff.1 hr
        exact .assigned hs h

section

variable {held : List Settings} {after : List Settings × List Fault}

/-- A rule that holds of what is held holds of it after a change. -/
theorem Rule.changed {holds : Field → Settings → Prop} (h : Rule holds) {c : Change}
    (hc : Changed held c after) (hheld : ∀ s ∈ held, ∀ f, holds f s) :
    ∀ s ∈ after.1, ∀ f, holds f s := by
  cases hc with
  | missed | refused => exact hheld
  | built hbuilt =>
    rw [List.forall_mem_append, List.forall_mem_singleton]
    exact ⟨hheld, h.ofValue hbuilt⟩
  | copied hcopied =>
    rw [List.forall_mem_append, List.forall_mem_singleton]
    exact ⟨hheld, h.override hcopied⟩
  | assigned hs hassigned =>
    intro s' hs'
    rcases List.mem_or_eq_of_mem_set hs' with hmem | rfl
    · exact hheld s' hmem
    · exact h.assign (hheld _ (List.mem_of_getElem? hs)) hassigned

/-- What is held can be run with after a change, if it could before. -/
theorem Changed.runnable {c : Change} (h : Changed held c after) (hheld : ∀ s ∈ held, s.Runnable) :
    ∀ s ∈ after.1, s.Runnable := by
  simp only [runnable_iff] at hheld ⊢
  exact rule_sound.changed h hheld

/-- A change that is refused leaves the held settings as they are. -/
theorem Changed.eq_of_refused {c : Change} (h : Changed held c after) (hrefused : after.2 ≠ []) :
    after.1 = held := by
  cases h with
  | missed | refused => rfl
  | built | copied | assigned => exact absurd rfl hrefused

/-- A copy leaves the settings held before in front, unchanged. -/
theorem Changed.prefix_of_copy {i : Nat} {overrides : Table}
    (h : Changed held (.copy i overrides) after) : held <+: after.1 := by
  cases h with
  | missed | refused => exact List.prefix_refl held
  | copied => exact List.prefix_append held _

/-- An assignment changes the settings at its place, and these in the field with its key. -/
theorem Changed.same_of_assign {i : Nat} {key : Text} {v : Value}
    (h : Changed held (.assign i key v) after) :
    List.Forall₂ (fun s s' => ∀ f : Field, f.key ≠ key → f.Same s' s) held after.1 ∧
      ∀ j ≠ i, after.1[j]? = held[j]? := by
  have hsame : ∀ s ∈ held, ∀ f : Field, f.key ≠ key → f.Same s s := fun s _ f _ => Field.Same.refl f s
  cases h with
  | missed | refused => exact ⟨List.forall₂_same.2 hsame, fun j _ => rfl⟩
  | @assigned _ _ _ s s' hs h =>
    refine ⟨?_, fun j hj => List.getElem?_set_ne hj.symm⟩
    rw [List.forall₂_iff_get]
    refine ⟨(List.length_set ..).symm, fun j hj hj' f hf => ?_⟩
    rw [List.get_eq_getElem, List.get_eq_getElem, List.getElem_set]
    split
    case isTrue hij =>
      subst hij
      have hget : held[i] = s := Option.some.inj ((List.getElem?_eq_getElem hj).symm.trans hs)
      exact hget ▸ Settings.same_of_assign h hf
    case isFalse => exact Field.Same.refl f _

end

/-! ## Settings that a host can hold -/

/-- A host can come to hold the settings. -/
def Held (s : Settings) : Prop := ∃ changes, s ∈ (Machine.run change [] changes).1

/-- Overriding settings that a program can hold gives settings that it can hold. -/
theorem Held.override {s s' : Settings} (h : s.Held) {overrides : Table}
    (hs : s.override overrides = .ok s') : s'.Held := by
  obtain ⟨changes, hmem⟩ := h
  obtain ⟨i, hi⟩ := List.getElem?_of_mem hmem
  have hresult : (Change.copy i overrides).result? (Machine.run change [] changes).1
      = some (.ok s') := by
    rw [Change.result?, hi, Option.map_some, hs]
  refine ⟨changes ++ [.copy i overrides], ?_⟩
  rw [Machine.run_concat, change_eq, hresult]
  exact List.mem_append_right _ (List.mem_singleton_self s')

/-- What every check leaves holds of all the fields of the settings that a program can hold. -/
theorem Rule.held {holds : Field → Settings → Prop} (h : Rule holds) {s : Settings} (hs : s.Held) :
    ∀ f, holds f s := by
  obtain ⟨changes, hmem⟩ := hs
  exact Machine.run_invariant (P := fun held => ∀ s ∈ held, ∀ f, holds f s)
    (fun held c hheld => h.changed (changed_change held c) hheld)
    (fun s hs => absurd hs List.not_mem_nil) changes s hmem

/-- The command line starts with the executable, names the dialect behind its option, and ends with
the further arguments and the mark of the standard input. -/
def Spelled (s : Settings) : Prop :=
  ∃ options, s.command = s.executable :: options ++ s.extraArguments ++ [Text.ofString "-"] ∧
    [Text.ofString "--dialect", s.dialect.name] <:+: options

/-- The command of the settings is spelled as the linter expects it. -/
theorem spelled (s : Settings) : s.Spelled :=
  ⟨["lint", "--dialect", s.dialect.name, "--format", "github-annotation",
    "--disable-progress-bar"], rfl, ["lint"], _, rfl⟩

/-- Whatever changes are made, and whichever of them are refused: the linter can be run with all
settings that come to be held, and its command line has them in their places. A change that is
refused leaves everything as it was, a copy leaves what was held before, and an assignment leaves
all fields but its own. -/
theorem held_settings_runnable (changes : List Change) :
    let held := (Machine.run change [] changes).1
    (∀ s ∈ held, s.Runnable ∧ s.Spelled) ∧
      (∀ c, (change held c).2 ≠ [] → (change held c).1 = held) ∧
      (∀ i overrides, held <+: (change held (.copy i overrides)).1) ∧
      ∀ i key v,
        List.Forall₂ (fun s s' => ∀ f : Field, f.key ≠ key → f.Same s' s) held
          (change held (.assign i key v)).1 ∧
        ∀ j ≠ i, (change held (.assign i key v)).1[j]? = held[j]? := by
  intro held
  have hheld : ∀ s ∈ held, s.Runnable :=
    Machine.run_invariant (fun held c h => (changed_change held c).runnable h)
      (fun s hs => absurd hs List.not_mem_nil) changes
  refine ⟨fun s hs => ⟨hheld s hs, s.spelled⟩, fun c => ?_, fun i overrides => ?_, fun i key v => ?_⟩
  · exact (changed_change held c).eq_of_refused
  · exact (changed_change held _).prefix_of_copy
  · exact (changed_change held _).same_of_assign

/-- Margins around an executable, a limit below zero, a copy with a blank name and one with a
dialect in capitals. -/
def attempts : List Change :=
  [.build (.table [("executable", .text " fluff\t"), ("timeout", .int 7)]),
   .assign 0 "timeout" (.int (-1)), .copy 0 [("executable", .text " ")],
   .copy 0 [("dialect", .text " HIVE")], .assign 0 "extra_args" (.list [.text "-v"])]

/-- Two attempts that are refused leave the held settings, and the commands made of them, as they
were. -/
theorem refused_attempts_leave_settings :
    (Machine.run change [] attempts).2.length = 2 ∧
      (Machine.run change [] attempts).1.map command
        = ([["fluff", "lint", "--dialect", "ansi", "--format", "github-annotation",
              "--disable-progress-bar", "-v", "-"],
            ["fluff", "lint", "--dialect", "hive", "--format", "github-annotation",
              "--disable-progress-bar", "-"]] : List (List Text)) ∧
      ∀ s ∈ (Machine.run change [] attempts).1, s.Runnable ∧ s.Spelled := by
  refine ⟨?_, ?_, (held_settings_runnable attempts).1⟩
  · decide
  · decide

end Settings

end LiveLint
