import LiveLint.Proofs.Layers.Paths
import LiveLint.Proofs.Settings.Runnable

/-!
# Settings are read back from their table

A copy with overrides is read from the table of the settings, and every field of it goes through its
check once more. What came through the check of its field before, or is its default, comes through
unchanged (`Field.Lossless`): margins are gone, paths are clean and limits are numbers already. So
settings that a host holds are read back as they are, and another value for one field is judged by
itself (`Lossless.override_field`): accepted, it changes this field alone, and refused, no other
field has a part in the refusal.
-/

namespace LiveLint

/-! ## Text in lower case -/

/-- Below the accented letters only A to Z are capitals. -/
theorem CodePoint.lower_of_small {c : CodePoint} (h : c.val < 0x41 ∨ 0x5A < c.val ∧ c.val < 0xC0) :
    c.lower = [c] := by
  have hruns : ∀ r ∈ lowerCaseRuns, 0x41 ≤ r.first ∧ r.last ≤ 0x5A ∨ 0xC0 ≤ r.first := by
    decide +kernel
  have hnone : lowerCaseRuns.find? (fun r =>
      r.first ≤ c.val && c.val ≤ r.last && (c.val - r.first) % r.step == 0) = none := by
    refine List.find?_eq_none.2 fun r hr => ?_
    have hout := hruns r hr
    simp only [Bool.and_eq_true, decide_eq_true_eq]
    omega
  rw [lower, if_neg (by omega), hnone]

/-- A text without capital letters, all of it below the accented range, is in lower case already. -/
theorem Text.lower_of_small {t : Text} (h : ∀ c ∈ t, c.val < 0x41 ∨ 0x5A < c.val ∧ c.val < 0xC0) :
    t.lower = t := by
  have hafter (before : Text) : lowerAfter before t = t := by
    induction t generalizing before with
    | nil => rfl
    | cons c t ih =>
      rw [List.forall_mem_cons] at h
      rw [lowerAfter, if_neg (by omega), CodePoint.lower_of_small h.1, ih h.2]
      rfl
  exact hafter []

/-- The name of a dialect has no capital letter and nothing from the accented range on. -/
theorem Dialect.name_small (d : Dialect) :
    ∀ c ∈ d.name, c.val < 0x41 ∨ 0x5A < c.val ∧ c.val < 0xC0 := by
  cases d <;> decide

/-- The name of a dialect has no blank at its ends. -/
theorem Dialect.strip_name (d : Dialect) : d.name.strip = d.name := by
  cases d <;> decide

namespace Settings

/-! ## The table of settings -/

/-- What the table of settings has for a field. -/
def Field.stored (f : Field) (s : Settings) : Value :=
  match f with
  | .executable => .text s.executable
  | .dialect => .text s.dialect.name
  | .extraArguments => .list (s.extraArguments.map .text)
  | .timeout => Value.ofOption (fun x => .float (.ofFloat x)) s.timeout
  | .offsetUnit => .text s.offsetUnit.name
  | .directory => Value.ofOption (fun p => .text p.text) s.directory
  | .environment => .table (s.environment.map fun e => (e.1, .text e.2))

/-- The table of the settings has, under the key of each field, what is stored in that field. -/
theorem get?_toTable (f : Field) (s : Settings) :
    Table.get? f.key s.toTable = some (f.stored s) := by
  cases f <;> rfl

/-- The keys of the table of the settings are those of the fields, in the order of declaration. -/
theorem keys_toTable (s : Settings) : s.toTable.keys = Field.all.map Field.key := rfl

/-- Every key of the table of the settings names a field. -/
theorem known_toTable (s : Settings) : Known s.toTable := by
  intro k hk
  rw [keys_toTable, List.mem_map] at hk
  obtain ⟨f, -, rfl⟩ := hk
  exact ⟨f, rfl⟩

/-- The field is read back from the table of the settings. -/
def Field.Lossless (f : Field) (s : Settings) : Prop := f.Reads {} (some (f.stored s)) s

/-- Every field is read back. -/
def Lossless (s : Settings) : Prop := ∀ f : Field, f.Lossless s

/-! ## Dialects by name -/

/-- A dialect is found by its name. -/
theorem choice_name (d : Dialect) :
    Validation.choice Dialect.all Dialect.name (.text d.name) = .ok d := by
  cases d <;> decide

/-- A value is a dialect when it is a text that names one, in whatever case and with margins. -/
theorem checkDialect_eq_ok_iff {v : Value} {d : Dialect} :
    checkDialect v = .ok d ↔ ∃ t, v = .text t ∧ d.name = t.strip.lower := by
  constructor
  · intro h
    cases v with
    | text t =>
      rcases Validation.choice_cases Dialect.all Dialect.name (.text t.strip.lower) with
        ⟨a, hname, hchosen⟩ | ⟨complaint, hrefused⟩
      · cases hchosen.symm.trans h
        exact ⟨t, rfl, (Value.text.inj hname).symm⟩
      · cases hrefused.symm.trans h
    | _ => cases h
  · rintro ⟨t, rfl, hname⟩
    change Validation.choice Dialect.all Dialect.name (.text t.strip.lower) = .ok d
    rw [← hname]
    exact choice_name d

/-- The check of a dialect yields a dialect or refuses with a complaint of its own. -/
theorem checkDialect_cases (v : Value) :
    (∃ d, checkDialect v = .ok d) ∨ ∃ complaint, checkDialect v = Checked.refuse complaint := by
  unfold checkDialect
  exact (Validation.choice_cases _ _ _).imp (Exists.imp fun _ h => h.2) id

/-- The name of a dialect is checked as that dialect. -/
theorem checkDialect_name (d : Dialect) : checkDialect (.text d.name) = .ok d := by
  refine checkDialect_eq_ok_iff.2 ⟨d.name, rfl, ?_⟩
  rw [d.strip_name, Text.lower_of_small d.name_small]

/-! ## What a check lets through once, it lets through again -/

/-- A trimmed text is left as it is when it is stripped. -/
theorem Trimmed.strip_eq {t : Text} (h : Trimmed t) : t.strip = t := by
  have hlast : ∀ hne : t ≠ [], ¬ (t.getLast hne).isBlank = true := fun hne =>
    Bool.eq_false_iff.1 (h.last _ (List.getLast?_eq_some_getLast hne))
  rw [Text.strip, Text.trim, Text.trimLeft_of_head h.first]
  exact List.rdropWhile_eq_self_iff.2 hlast

/-- A trimmed executable passes its check unchanged. -/
theorem checkExecutable_of_trimmed {t : Text} (h : Trimmed t) :
    checkExecutable (.text t) = .ok t := by
  change (if t.strip.isEmpty then Checked.refuse _ else .ok t.strip) = Except.ok t
  rw [h.strip_eq, if_neg]
  exact fun hempty => h.ne_nil (List.isEmpty_iff.1 hempty)

/-- A list of texts passes the check of texts unchanged, wherever the count of its places starts. -/
theorem checkTexts_map (start : Nat) (ts : List Text) :
    checkTexts start (ts.map .text) = .ok ts := by
  induction ts generalizing start with
  | nil => rfl
  | cons t ts ih =>
    rw [List.map_cons, checkTexts, ih]
    rfl

/-- The name of an offset unit is checked as that unit. -/
theorem checkUnit_name (u : OffsetUnit) :
    Validation.choice OffsetUnit.all OffsetUnit.name (.text u.name) = .ok u := by
  cases u <;> decide

/-- A positive number passes the check of a timeout unchanged, once written out and read again. -/
theorem positive_of_pos {x : Float} (h : 0 < x) :
    Validation.positive (.float (.ofFloat x)) = .ok x := by
  change (if 0 < (Double.ofFloat x).toFloat then .ok (Double.ofFloat x).toFloat
    else Checked.refuse _) = Except.ok x
  rw [Double.toFloat_ofFloat, if_pos h]

/-- A path that comes out of its check is in proper form. -/
theorem proper_of_checkPath {v : Value} {p : Path} (h : checkPath v = .ok p) : p.Proper := by
  cases v with
  | text t =>
    cases h
    exact Path.proper_ofText t
  | _ => cases h

/-! ## Fields that are read back -/

/-- Settings that agree in a field store the same value there. -/
theorem Field.Same.stored {f : Field} {s s' : Settings} (h : f.Same s s') :
    f.stored s = f.stored s' := by
  cases f <;> unfold Field.Same at h <;> dsimp only at h <;> simp only [Field.stored, h]

/-- Whether a field survives being written out depends on that field alone. -/
theorem Field.Lossless.of_same {f : Field} {s s' : Settings} (h : f.Lossless s')
    (hsame : f.Same s s') : f.Lossless s := by
  obtain ⟨put, hput, hread⟩ := h
  exact ⟨put, hsame.stored ▸ hput, hsame.trans hread⟩

/-- What a check puts into a field, it reads from there. -/
theorem Puts.lossless {f : Field} {v : Value} {put : Settings → Settings} (h : Puts f v put)
    (s : Settings) : f.Lossless (put s) := by
  cases h with
  | executable h =>
    exact ⟨_, .executable (checkExecutable_of_trimmed (trimmed_of_checkExecutable h)), rfl⟩
  | dialect => exact ⟨_, .dialect (checkDialect_name _), rfl⟩
  | extraArguments => exact ⟨_, .extraArguments (checkTexts_map 0 _), rfl⟩
  | timeout h =>
    have hread := Validation.nullable_ofOption Validation.positive (fun x => .float (.ofFloat x))
      nofun fun x hx => positive_of_pos (pos_of_positive (Validation.mem_of_nullable h hx))
    exact ⟨_, .timeout hread, rfl⟩
  | offsetUnit => exact ⟨_, .offsetUnit (checkUnit_name _), rfl⟩
  | directory h =>
    have hread := Validation.nullable_ofOption checkPath (fun p => .text p.text) nofun
      fun p hp => congrArg Except.ok
        (Path.ofText_text (proper_of_checkPath (Validation.mem_of_nullable h hp)))
    exact ⟨_, .directory hread, rfl⟩
  | environment => exact ⟨_, .environment (checkEnvironment_eq_ok_iff.2 rfl), rfl⟩

/-- Every field of the default settings survives being written out. -/
theorem Field.lossless_default (f : Field) : f.Lossless {} := by
  cases f with
  | executable => exact ⟨_, .executable (checkExecutable_of_trimmed (sound_default .executable)), rfl⟩
  | dialect => exact ⟨_, .dialect (checkDialect_name _), rfl⟩
  | extraArguments => exact ⟨_, .extraArguments (checkTexts_map 0 []), rfl⟩
  | timeout => exact ⟨_, .timeout rfl, rfl⟩
  | offsetUnit => exact ⟨_, .offsetUnit (checkUnit_name _), rfl⟩
  | directory => exact ⟨_, .directory rfl, rfl⟩
  | environment => exact ⟨_, .environment (checkEnvironment_eq_ok_iff.2 rfl), rfl⟩

/-- Every check leaves a field that survives being written out, so the property is kept by the rules
of validation. -/
theorem rule_lossless : Rule Field.Lossless where
  ofSame := Field.Lossless.of_same
  default := Field.lossless_default
  puts := Puts.lossless

/-- Settings that a program can hold survive being written out. -/
theorem Held.lossless {s : Settings} (h : s.Held) : s.Lossless := rule_lossless.held h

/-! ## Copies with one other field -/

/-- A known table stays one when a field is put into it. -/
theorem Known.insert {t : Table} (h : Known t) (f : Field) (v : Value) :
    Known (Table.insert f.key v t) := by
  intro k hk
  rw [Table.keys_insert] at hk
  split at hk
  · exact h k hk
  · rcases List.mem_append.1 hk with hk | hk
    · exact h k hk
    · exact ⟨f, (List.mem_singleton.1 hk).symm⟩

/-- What the table of settings has for a field, with another value for one of them. -/
theorem get?_insert_toTable (s : Settings) (f : Field) (v : Value) (g : Field) :
    Table.get? g.key (Table.insert f.key v s.toTable) = some (if g = f then v else g.stored s) := by
  rw [Table.get?_insert, get?_toTable]
  by_cases hg : g = f
  · rw [if_pos hg, if_pos (congrArg Field.key hg.symm)]
  · rw [if_neg hg, if_neg fun hkey => hg (Field.key_injective hkey).symm]

/-- Each stored value of lossless settings passes the check of its field. -/
theorem Lossless.check_stored {s : Settings} (h : s.Lossless) (f : Field) :
    ∃ put, check f (f.stored s) = .ok put := by
  obtain ⟨put, hput, -⟩ := h f
  exact ⟨put, check_eq_ok_iff.2 hput⟩

/-- Putting a valid value into the table of lossless settings, and validating it, sets that field
and changes nothing else. -/
theorem Lossless.ofTable_insert_ok {s : Settings} (h : s.Lossless) {f : Field} {v : Value}
    {put : Settings → Settings} (hput : Puts f v put) :
    ofTable (Table.insert f.key v s.toTable) = .ok (put s) := by
  rw [ofTable_eq_ok_iff]
  refine ⟨(known_toTable s).insert f v, fun g => ?_⟩
  rw [get?_insert_toTable]
  by_cases hg : g = f
  · subst hg
    rw [if_pos rfl]
    exact ⟨put, hput, hput.same s {}⟩
  · obtain ⟨put', hput', hread⟩ := h g
    rw [if_neg hg]
    exact ⟨put', hput', (hput.keeps hg s).trans hread⟩

/-- The other fields have no problems to add. -/
theorem Lossless.ofTable_insert_error {s : Settings} (h : s.Lossless) {f : Field} {v : Value}
    {ps : List Problem} (hv : check f v = .error ps) :
    ofTable (Table.insert f.key v s.toTable) = .error ps := by
  have hchecks : checks (Table.insert f.key v s.toTable)
      = Field.all.map fun g => check g (if g = f then v else g.stored s) := by
    rw [checks, ← List.filterMap_eq_map]
    refine List.filterMap_congr fun g _ => ?_
    rw [get?_insert_toTable]
    rfl
  have hrefused : Except.error ps ∈ checks (Table.insert f.key v s.toTable) := by
    rw [hchecks, List.mem_map]
    exact ⟨f, Field.mem_all f, by rw [if_pos rfl, hv]⟩
  have hproblems : (checks (Table.insert f.key v s.toTable)).flatMap Checked.problems = ps := by
    have hone (g : Field) :
        (check g (if g = f then v else g.stored s)).problems = if g = f then ps else [] := by
      by_cases hg : g = f
      · rw [if_pos hg, if_pos hg, hg, hv]
        rfl
      · obtain ⟨put, hput⟩ := h.check_stored g
        rw [if_neg hg, if_neg hg, hput]
        rfl
    rw [hchecks, List.flatMap_map]
    simp only [hone]
    cases f <;> simp [Field.all]
  have hunknown : unknownKeys (Table.insert f.key v s.toTable) = [] :=
    unknownKeys_eq_nil_iff.2 ((known_toTable s).insert f v)
  rw [ofTable, hunknown, Checked.sequence_eq_error hrefused, hproblems]
  exact congrArg Except.error (List.append_nil ps)

/-- Another value for one field of settings is judged by itself: it changes that field alone, or it
is refused for what is wrong with it. -/
theorem Lossless.override_field {s : Settings} (h : s.Lossless) (f : Field) (v : Value) :
    s.override [(f.key, v)]
      = ((check f v).map fun put => put s).mapError Fault.invalidConfig := by
  have hname : (Table.keys [(f.key, v)]).contains copiedName = false := by
    change [f.key].contains copiedName = false
    cases f <;> decide
  have htable : s.override [(f.key, v)]
      = (ofTable (Table.insert f.key v s.toTable)).mapError Fault.invalidConfig := by
    rw [override, hname]
    rfl
  rw [htable]
  cases hv : check f v with
  | ok put => rw [h.ofTable_insert_ok (check_eq_ok_iff.1 hv)]; rfl
  | error ps => rw [h.ofTable_insert_error hv]; rfl

end Settings

end LiveLint
