import LiveLint.Proofs.Validation
import LiveLint.Settings.Basic

/-!
# Settings are read field by field

An accepted value changes one field of settings and no other (`Puts`), and what it puts there does
not depend on the settings. So a table is read exactly when it has no other keys than those of
fields and every field reads what the table has under its key (`ofTable_eq_ok_iff`): the checks of
the fields do not see one another.
-/

namespace LiveLint

namespace Settings

namespace Field

/-- The list of the fields leaves none out. -/
theorem mem_all (f : Field) : f ∈ all := by
  cases f <;> decide

/-- The list of the fields has none twice. -/
theorem nodup_all : all.Nodup := by decide

/-- Different fields are written under different keys. -/
theorem key_injective : Function.Injective key := by
  intro f g h
  cases f <;> cases g <;> first | rfl | exact absurd h (by decide)

/-- The key of a field is read back as that field. -/
theorem ofKey?_key (f : Field) : ofKey? f.key = some f := by
  cases f <;> decide

/-- A key that is known is that of its field. -/
theorem key_of_ofKey? {k : Text} {f : Field} (h : ofKey? k = some f) : f.key = k :=
  eq_of_beq (List.find?_some (p := fun g : Field => g.key == k) h)

/-- The settings agree in the field. -/
def Same (f : Field) (s s' : Settings) : Prop :=
  match f with
  | .executable => s.executable = s'.executable
  | .dialect => s.dialect = s'.dialect
  | .extraArguments => s.extraArguments = s'.extraArguments
  | .timeout => s.timeout = s'.timeout
  | .offsetUnit => s.offsetUnit = s'.offsetUnit
  | .directory => s.directory = s'.directory
  | .environment => s.environment = s'.environment

/-- Settings agree with themselves in every field. -/
theorem Same.refl (f : Field) (s : Settings) : f.Same s s := by
  cases f <;> rfl

/-- Agreement in a field goes both ways. -/
theorem Same.symm {f : Field} {s s' : Settings} (h : f.Same s s') : f.Same s' s := by
  cases f <;> exact Eq.symm h

/-- Agreement in a field passes on along a chain of settings. -/
theorem Same.trans {f : Field} {s s' s'' : Settings} (h : f.Same s s') (h' : f.Same s' s'') :
    f.Same s s'' := by
  cases f <;> exact Eq.trans h h'

end Field

/-- Settings that agree in every field are the same. -/
theorem ext_of_same {s s' : Settings} (h : ∀ f : Field, f.Same s s') : s = s' := by
  cases s
  cases s'
  cases h .executable
  cases h .dialect
  cases h .extraArguments
  cases h .timeout
  cases h .offsetUnit
  cases h .directory
  cases h .environment
  rfl

/-! ## Tables of texts -/

/-- The variables that are read are the entries of the table, which are texts. -/
theorem checkVariables_eq_ok_iff {t : Table} {vs : Environment} :
    checkVariables t = .ok vs ↔ t = vs.map fun e => (e.1, .text e.2) := by
  induction t generalizing vs with
  | nil =>
    constructor
    · intro h
      cases h
      rfl
    · intro h
      rw [List.map_eq_nil_iff.1 h.symm]
      rfl
  | cons entry rest ih =>
    obtain ⟨k, v⟩ := entry
    rw [checkVariables, Checked.apply_eq_ok_iff]
    constructor
    · rintro ⟨g, more, hg, hmore, rfl⟩
      obtain ⟨a, ha, rfl⟩ := map_eq_ok_iff.1 hg
      rw [Validation.text_eq_ok_iff.1 (Checked.inField_eq_ok_iff.1 ha), ih.1 hmore]
      rfl
    · intro h
      obtain ⟨⟨k', a⟩, more, rfl, hentry, hmore⟩ := List.map_eq_cons_iff.1 h.symm
      cases hentry
      exact ⟨List.cons (_, a), more, map_eq_ok_iff.2 ⟨a, rfl, rfl⟩, ih.2 hmore.symm, rfl⟩

/-- A value is taken as an environment exactly if it is a table of texts, and then it is that
table. -/
theorem checkEnvironment_eq_ok_iff {v : Value} {vs : Environment} :
    checkEnvironment v = .ok vs ↔
      v = .table (vs.map fun e => (e.1, .text e.2)) := by
  cases v with
  | table t => rw [checkEnvironment, checkVariables_eq_ok_iff, Value.table.injEq]
  | _ => exact ⟨nofun, nofun⟩

/-! ## What an accepted value puts -/

/-- The value is accepted for the field, and this puts it into settings. -/
inductive Puts : Field → Value → (Settings → Settings) → Prop
  | executable {v : Value} {a : Text} (h : checkExecutable v = .ok a) :
    Puts .executable v fun s => { s with executable := a }
  | dialect {v : Value} {a : Dialect} (h : checkDialect v = .ok a) :
    Puts .dialect v fun s => { s with dialect := a }
  | extraArguments {v : Value} {a : List Text} (h : checkArguments v = .ok a) :
    Puts .extraArguments v fun s => { s with extraArguments := a }
  | timeout {v : Value} {a : Option Float} (h : Validation.nullable Validation.positive v = .ok a) :
    Puts .timeout v fun s => { s with timeout := a }
  | offsetUnit {v : Value} {a : OffsetUnit}
      (h : Validation.choice OffsetUnit.all OffsetUnit.name v = .ok a) :
    Puts .offsetUnit v fun s => { s with offsetUnit := a }
  | directory {v : Value} {a : Option Path} (h : Validation.nullable checkPath v = .ok a) :
    Puts .directory v fun s => { s with directory := a }
  | environment {v : Value} {a : Environment} (h : checkEnvironment v = .ok a) :
    Puts .environment v fun s => { s with environment := a }

/-- The check of a field succeeds exactly on the values that set the field, with the change that
they make. -/
theorem check_eq_ok_iff {f : Field} {v : Value} {put : Settings → Settings} :
    check f v = .ok put ↔ Puts f v put := by
  constructor
  · intro h
    unfold check at h
    cases f <;> (obtain ⟨a, ha, rfl⟩ := map_eq_ok_iff.1 (Checked.inField_eq_ok_iff.1 h))
    case executable => exact .executable ha
    case dialect => exact .dialect ha
    case extraArguments => exact .extraArguments ha
    case timeout => exact .timeout ha
    case offsetUnit => exact .offsetUnit ha
    case directory => exact .directory ha
    case environment => exact .environment ha
  · rintro (ha | ha | ha | ha | ha | ha | ha) <;>
      exact Checked.inField_eq_ok_iff.2 (map_eq_ok_iff.2 ⟨_, ha, rfl⟩)

section

variable {f : Field} {v : Value} {put : Settings → Settings}

/-- What is put does not depend on the settings. -/
theorem Puts.same (h : Puts f v put) (s s' : Settings) : f.Same (put s) (put s') := by
  cases h <;> rfl

/-- The other fields stay as they are. -/
theorem Puts.keeps (h : Puts f v put) {g : Field} (hne : g ≠ f) (s : Settings) :
    g.Same (put s) s := by
  cases h <;> cases g <;> first | rfl | exact absurd rfl hne

end

/-! ## Tables -/

/-- In the field, the settings are `base` with what a table has under the key of the field. -/
def Field.Reads (f : Field) (base : Settings) (v? : Option Value) (s : Settings) : Prop :=
  match v? with
  | none => f.Same s base
  | some v => ∃ put, Puts f v put ∧ f.Same s (put base)

/-- A field reads one thing. -/
theorem Field.Reads.same {f : Field} {base s s' : Settings} {v? : Option Value}
    (h : f.Reads base v? s) (h' : f.Reads base v? s') : f.Same s s' := by
  cases v? with
  | none => exact h.trans h'.symm
  | some v =>
    obtain ⟨put, hput, hs⟩ := h
    obtain ⟨put', hput', hs'⟩ := h'
    cases (check_eq_ok_iff.2 hput).symm.trans (check_eq_ok_iff.2 hput')
    exact hs.trans hs'.symm

/-- The checks of some fields for which a table has values. -/
def checksOf (fs : List Field) (t : Table) : List (Checked (Settings → Settings)) :=
  fs.filterMap fun f => (Table.get? f.key t).map (check f)

/-- The checks of a table are those of its fields, one field after the other in the order of
declaration. -/
theorem checks_eq_checksOf (t : Table) : checks t = checksOf Field.all t := rfl

section

variable {f : Field} {t : Table}

/-- A field whose key is not in the table is not checked. -/
theorem checksOf_cons_none (h : Table.get? f.key t = none) (fs : List Field) :
    checksOf (f :: fs) t = checksOf fs t :=
  List.filterMap_cons_none (by rw [h, Option.map_none])

/-- A field whose key is in the table is checked on the value stored there. -/
theorem checksOf_cons_some {v : Value} (h : Table.get? f.key t = some v) (fs : List Field) :
    checksOf (f :: fs) t = check f v :: checksOf fs t :=
  List.filterMap_cons_some (by rw [h, Option.map_some])

end

/-- The checks of some fields change these fields alone, each by what the table has for it. -/
theorem reads_of_checksOf {fs : List Field} (hfs : fs.Nodup) {t : Table}
    {puts : List (Settings → Settings)} (h : Checked.sequence (checksOf fs t) = .ok puts)
    (base : Settings) :
    (∀ f ∈ fs, f.Reads base (Table.get? f.key t) (puts.foldl (fun s put => put s) base)) ∧
      ∀ f ∉ fs, f.Same (puts.foldl (fun s put => put s) base) base := by
  induction fs generalizing base puts with
  | nil =>
    cases h
    exact ⟨fun f hf => absurd hf List.not_mem_nil, fun f _ => Field.Same.refl f base⟩
  | cons g fs ih =>
    rw [List.nodup_cons] at hfs
    cases hg : Table.get? g.key t with
    | none =>
      rw [checksOf_cons_none hg] at h
      obtain ⟨hreads, hkeeps⟩ := ih hfs.2 h base
      refine ⟨fun f hf => ?_, fun f hf => hkeeps f fun hmem => hf (List.mem_cons_of_mem g hmem)⟩
      rcases List.mem_cons.1 hf with rfl | hf
      · rw [hg]
        exact hkeeps f hfs.1
      · exact hreads f hf
    | some v =>
      rw [checksOf_cons_some hg, Checked.sequence_eq_ok_iff, List.forall₂_cons_left_iff] at h
      obtain ⟨put, puts, hcheck, hrest, rfl⟩ := h
      -- The first field is set before the others, which do not touch it again since no field comes
      -- twice.
      have hput : Puts g v put := check_eq_ok_iff.1 hcheck
      obtain ⟨hreads, hkeeps⟩ := ih hfs.2 (Checked.sequence_eq_ok_iff.2 hrest) (put base)
      rw [List.foldl_cons]
      constructor
      · intro f hf
        rcases List.mem_cons.1 hf with rfl | hf
        · rw [hg]
          exact ⟨put, hput, hkeeps f hfs.1⟩
        · have hne : f ≠ g := fun heq => hfs.1 (heq ▸ hf)
          have hread := hreads f hf
          cases hv : Table.get? f.key t with
          | none =>
            rw [hv] at hread
            exact Field.Same.trans hread (hput.keeps hne base)
          | some w =>
            rw [hv] at hread
            obtain ⟨put', hput', hsame⟩ := hread
            exact ⟨put', hput', hsame.trans (hput'.same _ _)⟩
      · intro f hf
        rw [List.mem_cons, not_or] at hf
        exact (hkeeps f hf.2).trans (hput.keeps hf.1 base)

/-- The checks succeed when every field can read what the table has for it. -/
theorem exists_sequence_checksOf {t : Table} {base s : Settings} (fs : List Field)
    (h : ∀ f ∈ fs, f.Reads base (Table.get? f.key t) s) :
    ∃ puts, Checked.sequence (checksOf fs t) = .ok puts := by
  induction fs with
  | nil => exact ⟨[], rfl⟩
  | cons g fs ih =>
    rw [List.forall_mem_cons] at h
    obtain ⟨puts, hputs⟩ := ih h.2
    cases hg : Table.get? g.key t with
    | none =>
      exact ⟨puts, checksOf_cons_none hg fs ▸ hputs⟩
    | some v =>
      have hread := h.1
      rw [hg] at hread
      obtain ⟨put, hput, -⟩ := hread
      refine ⟨put :: puts, ?_⟩
      rw [checksOf_cons_some hg, Checked.sequence_eq_ok_iff]
      exact .cons (check_eq_ok_iff.2 hput) (Checked.sequence_eq_ok_iff.1 hputs)

/-- Every key of the table is that of a field. -/
def Known (t : Table) : Prop := ∀ k ∈ t.keys, ∃ f : Field, f.key = k

/-- No unknown key is found exactly in a table all of whose keys name fields. -/
theorem unknownKeys_eq_nil_iff {t : Table} : unknownKeys t = [] ↔ Known t := by
  rw [unknownKeys, List.filter_eq_nil_iff]
  refine forall₂_congr fun k _ => ?_
  rw [Option.isNone_iff_eq_none, Option.eq_none_iff_forall_ne_some, not_forall]
  constructor
  · rintro ⟨f, hf⟩
    exact ⟨f, Field.key_of_ofKey? (not_not.1 hf)⟩
  · rintro ⟨f, rfl⟩
    exact ⟨f, not_not.2 (Field.ofKey?_key f)⟩

/-- A table is read exactly when its keys are known and each field reads what it has for it. -/
theorem ofTable_eq_ok_iff {t : Table} {s : Settings} :
    ofTable t = .ok s ↔ Known t ∧ ∀ f : Field, f.Reads {} (Table.get? f.key t) s := by
  constructor
  · intro h
    unfold ofTable at h
    dsimp only at h
    split at h
    · cases h
    split at h
    case h_1 puts hchecks hextra =>
      cases h
      have hknown : Known t := unknownKeys_eq_nil_iff.1 (List.map_eq_nil_iff.1 hextra)
      exact ⟨hknown, fun f => (reads_of_checksOf Field.nodup_all hchecks {}).1 f (Field.mem_all f)⟩
    case h_2 => cases h
  · rintro ⟨hknown, hreads⟩
    obtain ⟨puts, hputs⟩ := exists_sequence_checksOf (t := t) Field.all fun f _ => hreads f
    have hread := (reads_of_checksOf Field.nodup_all hputs {}).1
    have hs : puts.foldl (fun s put => put s) {} = s :=
      ext_of_same fun f => (hread f (Field.mem_all f)).same (hreads f)
    rw [ofTable, unknownKeys_eq_nil_iff.2 hknown, checks_eq_checksOf, hputs, ← hs]
    rfl

/-- Validating a table as a whole succeeds just as validating its fields does. -/
theorem ofValue_table_eq_ok_iff {t : Table} {s : Settings} :
    ofValue (.table t) = .ok s ↔ ofTable t = .ok s := by
  change (ofTable t).mapError Fault.invalidConfig = .ok s ↔ _
  cases ofTable t with
  | ok s' => exact ⟨fun h => congrArg Except.ok (Except.ok.inj h),
      fun h => congrArg Except.ok (Except.ok.inj h)⟩
  | error ps => exact ⟨nofun, nofun⟩

/-- Only a table validates as settings. -/
theorem table_of_ofValue {v : Value} {s : Settings} (h : ofValue v = .ok s) :
    ∃ t, v = .table t := by
  cases v with
  | table t => exact ⟨t, rfl⟩
  | _ => cases h

end Settings

end LiveLint
