import Mathlib.Data.List.Nodup
import LiveLint.Proofs.Settings.Fields

/-!
# Every entry of a table is judged alone

Settings are read from a table exactly when they can be read from each of its entries alone, and
then every field has what its own entry gives it. A table that is refused has the problems of its
entries, each as if it were the only one: those of the fields in the order of the fields, then the
unknown keys as they come (`Settings.told`, `Settings.entries_judged_alone`).

A key that is neither that of a field nor a Unicode string stops the reading, so that it hides the
problems of the other entries.
-/

namespace LiveLint

namespace Settings

variable {t : Table} {f : Field} {k : Text} {v : Value}

/-! ## Problems that are told -/

/-- The problems of a table that is refused; none of one that is read. -/
def problemsOf (t : Table) : List Problem :=
  match ofValue (.table t) with
  | .error (.invalidConfig ps) => ps
  | _ => []

/-- The validation of a table is the validation of its fields, its problems being those of an
invalid configuration. -/
theorem ofValue_table (t : Table) : ofValue (.table t) = (ofTable t).mapError Fault.invalidConfig :=
  rfl

/-- The problems of a table are those of validating its fields. -/
theorem problemsOf_eq (t : Table) : problemsOf t = (ofTable t).problems := by
  rw [problemsOf, ofValue_table]
  cases ofTable t <;> rfl

/-- A refused table is refused with its problems. -/
theorem ofValue_eq_error (h : ¬ ∃ s, ofValue (.table t) = .ok s) :
    ofValue (.table t) = .error (.invalidConfig (problemsOf t)) := by
  rw [problemsOf_eq]
  rw [ofValue_table] at h ⊢
  cases ht : ofTable t with
  | ok s =>
    rw [ht] at h
    exact absurd ⟨s, rfl⟩ h
  | error ps => rfl

/-- Keys that are no field are Unicode strings. -/
def UnicodeKeys (t : Table) : Prop := ∀ k ∈ unknownKeys t, k.any CodePoint.isSurrogate = false

/-- All fields are checked, and all unknown keys are told after them. -/
theorem problemsOf_of_unicodeKeys (h : UnicodeKeys t) :
    problemsOf t
      = (checks t).flatMap Checked.problems ++ (unknownKeys t).map fun k => ⟨[k], .extra⟩ := by
  have hany : ¬ ((unknownKeys t).any fun k => k.any CodePoint.isSurrogate) = true := by
    rw [List.any_eq_true]
    rintro ⟨k, hk, hsurrogate⟩
    rw [h k hk] at hsurrogate
    cases hsurrogate
  rw [problemsOf_eq, ← Checked.problems_sequence, ofTable, if_neg hany]
  split
  case h_1 puts hchecks hextra =>
    rw [hchecks, hextra]
    rfl
  case h_2 => rfl

/-- Another key is the only problem that is told. -/
theorem ofValue_of_not_unicodeKeys (h : ¬ UnicodeKeys t) :
    ofValue (.table t) = .error (.invalidConfig [⟨[], .notUnicode⟩]) := by
  have hany : ((unknownKeys t).any fun k => k.any CodePoint.isSurrogate) = true := by
    unfold UnicodeKeys at h
    push Not at h
    obtain ⟨k, hk, hsurrogate⟩ := h
    exact List.any_eq_true.2 ⟨k, hk, Bool.of_not_eq_false hsurrogate⟩
  rw [ofValue_table, ofTable, if_pos hany]
  rfl

/-! ## One entry -/

/-- The table with a single entry has a value under that key only. -/
theorem get?_single (k key : Text) (v : Value) :
    Table.get? key [(k, v)] = if k = key then some v else none := rfl

/-- The entry of a field is checked for that field and no other. -/
theorem checks_single (f : Field) (v : Value) : checks [(f.key, v)] = [check f v] := by
  have hone (g : Field) :
      (Table.get? g.key [(f.key, v)]).map (check g) = if g = f then some (check f v) else none := by
    rw [get?_single]
    by_cases hg : g = f
    · subst hg
      rw [if_pos rfl, if_pos rfl, Option.map_some]
    · rw [if_neg fun hkey => hg (Field.key_injective hkey).symm, if_neg hg, Option.map_none]
  rw [checks, List.filterMap_congr fun g _ => hone g]
  cases f <;> rfl

/-- A single entry under an unknown key is not checked. -/
theorem checks_single_unknown (hk : Field.ofKey? k = none) (v : Value) : checks [(k, v)] = [] := by
  rw [checks, List.filterMap_eq_nil_iff]
  intro f _
  have hne : k ≠ f.key := by
    rintro rfl
    rw [Field.ofKey?_key] at hk
    cases hk
  rw [get?_single, if_neg hne, Option.map_none]

/-- A single entry under the key of a field has no unknown key. -/
theorem unknownKeys_single (f : Field) (v : Value) : unknownKeys [(f.key, v)] = [] :=
  unknownKeys_eq_nil_iff.2 fun _ hk => ⟨f, (List.mem_singleton.1 hk).symm⟩

/-- A single entry under an unknown key has that key as its unknown one. -/
theorem unknownKeys_single_unknown (hk : Field.ofKey? k = none) (v : Value) :
    unknownKeys [(k, v)] = [k] :=
  List.filter_eq_self.2 fun k' hk' => by
    rw [List.mem_singleton.1 hk', hk]
    rfl

/-- The problems of a single entry under the key of a field are those of the check of that field. -/
theorem problemsOf_single (f : Field) (v : Value) :
    problemsOf [(f.key, v)] = (check f v).problems := by
  have hunicode : UnicodeKeys [(f.key, v)] := by
    unfold UnicodeKeys
    rw [unknownKeys_single]
    exact fun k hk => absurd hk List.not_mem_nil
  rw [problemsOf_of_unicodeKeys hunicode, checks_single, unknownKeys_single, List.map_nil,
    List.append_nil, List.flatMap_singleton]

/-- The one problem of a single entry under an unknown key is that the key is not permitted. -/
theorem problemsOf_single_unknown (hk : Field.ofKey? k = none)
    (hunicode : k.any CodePoint.isSurrogate = false) (v : Value) :
    problemsOf [(k, v)] = [⟨[k], .extra⟩] := by
  have hkeys : UnicodeKeys [(k, v)] := by
    unfold UnicodeKeys
    rw [unknownKeys_single_unknown hk, List.forall_mem_singleton]
    exact hunicode
  rw [problemsOf_of_unicodeKeys hkeys, checks_single_unknown hk, unknownKeys_single_unknown hk]
  rfl

/-- What an entry gives is put into the defaults. -/
theorem ofTable_single {put : Settings → Settings} (hput : Puts f v put) :
    ofTable [(f.key, v)] = .ok (put {}) := by
  rw [ofTable_eq_ok_iff]
  refine ⟨fun k hk => ⟨f, (List.mem_singleton.1 hk).symm⟩, fun g => ?_⟩
  rw [get?_single]
  by_cases hg : g = f
  · subst hg
    rw [if_pos rfl]
    exact ⟨put, hput, Field.Same.refl g _⟩
  · rw [if_neg fun hkey => hg (Field.key_injective hkey).symm]
    exact hput.keeps hg {}

/-! ## All entries -/

/-- The entries of a table that are those of fields, in the order of the fields. -/
def knownEntries (fs : List Field) (t : Table) : Table :=
  fs.filterMap fun f => (Table.get? f.key t).map fun v => (f.key, v)

/-- The entries that are those of no field, as they come. -/
def unknownEntries (t : Table) : Table := t.filter fun e => (Field.ofKey? e.1).isNone

/-- The entries of a table in the order in which their problems are told. -/
def told (t : Table) : Table := knownEntries Field.all t ++ unknownEntries t

/-- The unknown keys of a table are the keys of its unknown entries. -/
theorem unknownKeys_eq (t : Table) : unknownKeys t = (unknownEntries t).map Prod.fst := by
  rw [unknownKeys, Table.keys, List.filter_map]
  rfl

/-- The problems of the known entries, taken one at a time, are those of the checks of their
fields. -/
theorem flatMap_knownEntries (fs : List Field) (t : Table) :
    (knownEntries fs t).flatMap (fun e => problemsOf [e])
      = (checksOf fs t).flatMap Checked.problems := by
  induction fs with
  | nil => rfl
  | cons f fs ih =>
    cases hf : Table.get? f.key t with
    | none =>
      rw [checksOf_cons_none hf, knownEntries, List.filterMap_cons_none (by rw [hf]; rfl)]
      exact ih
    | some v =>
      rw [checksOf_cons_some hf, knownEntries, List.filterMap_cons_some (by rw [hf]; rfl),
        List.flatMap_cons, List.flatMap_cons, problemsOf_single]
      exact congrArg _ ih

/-- The problems of the unknown entries, taken one at a time, are that their keys are not
permitted. -/
theorem flatMap_unknownEntries (h : UnicodeKeys t) :
    (unknownEntries t).flatMap (fun e => problemsOf [e])
      = (unknownKeys t).map fun k => (⟨[k], .extra⟩ : Problem) := by
  rw [unknownKeys_eq, List.map_map, List.map_eq_flatMap]
  refine List.flatMap_congr fun e he => ?_
  have hunicode : e.1.any CodePoint.isSurrogate = false :=
    h e.1 (unknownKeys_eq t ▸ List.mem_map_of_mem he)
  have hunknown : Field.ofKey? e.1 = none := Option.isNone_iff_eq_none.1 (List.mem_filter.1 he).2
  exact problemsOf_single_unknown hunknown hunicode e.2

/-- The problems of a table are those of its entries, each by itself. -/
theorem problemsOf_eq_flatMap (h : UnicodeKeys t) :
    problemsOf t = (told t).flatMap fun e => problemsOf [e] := by
  rw [problemsOf_of_unicodeKeys h, told, List.flatMap_append, flatMap_knownEntries,
    flatMap_unknownEntries h, checks_eq_checksOf]

/-- The known entries of a table are those stored under the key of a field. -/
theorem mem_knownEntries {e : Text × Value} :
    e ∈ knownEntries Field.all t ↔ ∃ f : Field, f.key = e.1 ∧ Table.get? e.1 t = some e.2 := by
  rw [knownEntries, List.mem_filterMap]
  constructor
  · rintro ⟨f, -, hf⟩
    obtain ⟨v, hv, rfl⟩ := Option.map_eq_some_iff.1 hf
    exact ⟨f, rfl, hv⟩
  · rintro ⟨f, hf, hv⟩
    refine ⟨f, Field.mem_all f, ?_⟩
    rw [hf, hv]
    rfl

/-- Every entry is told, and told once. -/
theorem told_perm (h : t.keys.Nodup) : (told t).Perm t := by
  -- No entry is in either part twice, nor in both, and every entry is in one of them.
  have hnodup : t.Nodup := h.of_map Prod.fst
  have hknown : (knownEntries Field.all t).Nodup := by
    refine List.Nodup.filterMap ?_ Field.nodup_all
    intro f g e hf hg
    obtain ⟨v, -, rfl⟩ := Option.map_eq_some_iff.1 hf
    obtain ⟨w, -, hw⟩ := Option.map_eq_some_iff.1 hg
    exact Field.key_injective (congrArg Prod.fst hw).symm
  have htold : (told t).Nodup := by
    refine hknown.append (hnodup.filter _) fun e he hunknown => ?_
    obtain ⟨f, hf, -⟩ := mem_knownEntries.1 he
    have hnone := (List.mem_filter.1 hunknown).2
    rw [← hf, Field.ofKey?_key] at hnone
    cases hnone
  rw [List.perm_ext_iff_of_nodup htold hnodup]
  intro e
  rw [told, List.mem_append, mem_knownEntries, Table.get?_eq_some_iff h, unknownEntries,
    List.mem_filter, Option.isNone_iff_eq_none]
  constructor
  · rintro (⟨f, -, he⟩ | ⟨he, -⟩) <;> exact he
  · intro he
    cases hf : Field.ofKey? e.1 with
    | none => exact .inr ⟨he, rfl⟩
    | some f => exact .inl ⟨f, Field.key_of_ofKey? hf, he⟩

/-! ## Tables that are read -/

/-- A table validates exactly if its keys are known and every check of it succeeds. -/
theorem exists_ofTable_iff : (∃ s, ofTable t = .ok s) ↔
    Known t ∧ ∀ x ∈ checks t, ∃ put, x = .ok put := by
  constructor
  · rintro ⟨s, hs⟩
    obtain ⟨hknown, hreads⟩ := ofTable_eq_ok_iff.1 hs
    refine ⟨hknown, Checked.exists_sequence_iff.1 ?_⟩
    exact exists_sequence_checksOf Field.all fun f _ => hreads f
  · rintro ⟨hknown, hchecks⟩
    obtain ⟨puts, hputs⟩ := Checked.exists_sequence_iff.2 hchecks
    refine ⟨puts.foldl (fun s put => put s) {}, ?_⟩
    rw [ofTable, unknownKeys_eq_nil_iff.2 hknown, hputs]
    rfl

/-- A single entry validates exactly if its key names a field whose check accepts its value. -/
theorem exists_ofTable_single_iff : (∃ s, ofTable [(k, v)] = .ok s) ↔
    ∃ f : Field, f.key = k ∧ ∃ put, check f v = .ok put := by
  rw [exists_ofTable_iff]
  constructor
  · rintro ⟨hknown, hchecks⟩
    obtain ⟨f, rfl⟩ := hknown k (List.mem_singleton_self k)
    rw [checks_single, List.forall_mem_singleton] at hchecks
    exact ⟨f, rfl, hchecks⟩
  · rintro ⟨f, rfl, hcheck⟩
    refine ⟨fun k hk => ⟨f, (List.mem_singleton.1 hk).symm⟩, ?_⟩
    rw [checks_single, List.forall_mem_singleton]
    exact hcheck

/-- A table is read when each of its entries is. -/
theorem exists_ofTable_iff_entries (h : t.keys.Nodup) :
    (∃ s, ofTable t = .ok s) ↔ ∀ e ∈ t, ∃ s, ofTable [e] = .ok s := by
  rw [exists_ofTable_iff]
  constructor
  · rintro ⟨hknown, hchecks⟩ ⟨k, v⟩ he
    obtain ⟨f, rfl⟩ := hknown k (List.mem_map_of_mem he)
    refine exists_ofTable_single_iff.2 ⟨f, rfl, hchecks _ (List.mem_filterMap.2 ?_)⟩
    exact ⟨f, Field.mem_all f, by rw [(Table.get?_eq_some_iff h).2 he]; rfl⟩
  · intro hentries
    constructor
    · intro k hk
      obtain ⟨⟨_, v⟩, he, rfl⟩ := List.mem_map.1 hk
      obtain ⟨f, hf, -⟩ := exists_ofTable_single_iff.1 (hentries _ he)
      exact ⟨f, hf⟩
    · intro x hx
      obtain ⟨f, -, hf⟩ := List.mem_filterMap.1 hx
      obtain ⟨v, hv, rfl⟩ := Option.map_eq_some_iff.1 hf
      obtain ⟨g, hg, hcheck⟩ :=
        exists_ofTable_single_iff.1 (hentries _ (Table.mem_of_get? hv))
      exact Field.key_injective hg ▸ hcheck

/-- A table of settings is judged entry by entry: it is read when each entry is, with what each
gives, and refused with the problems of each, in the order of the fields and then of the unknown
keys. Only a key that is no Unicode string is told alone. -/
theorem entries_judged_alone (h : t.keys.Nodup) :
    ((∃ s, ofValue (.table t) = .ok s) ↔ ∀ e ∈ t, ∃ s, ofValue (.table [e]) = .ok s) ∧
      (∀ s, ofValue (.table t) = .ok s → ∀ f : Field,
        (∀ v, (f.key, v) ∈ t → ∃ s', ofValue (.table [(f.key, v)]) = .ok s' ∧ f.Same s s') ∧
          (f.key ∉ t.keys → f.Same s {})) ∧
      (told t).Perm t ∧
      ((¬ ∃ s, ofValue (.table t) = .ok s) →
        (UnicodeKeys t → ofValue (.table t)
          = .error (.invalidConfig ((told t).flatMap fun e => problemsOf [e]))) ∧
          (¬ UnicodeKeys t →
            ofValue (.table t) = .error (.invalidConfig [⟨[], .notUnicode⟩]))) := by
  refine ⟨?_, fun s hs f => ⟨fun v hv => ?_, fun hf => ?_⟩, told_perm h, fun hrefused => ⟨?_, ?_⟩⟩
  · simp only [ofValue_table_eq_ok_iff]
    exact exists_ofTable_iff_entries h
  · have hread := (ofTable_eq_ok_iff.1 (ofValue_table_eq_ok_iff.1 hs)).2 f
    rw [(Table.get?_eq_some_iff h).2 hv] at hread
    obtain ⟨put, hput, hsame⟩ := hread
    exact ⟨put {}, ofValue_table_eq_ok_iff.2 (ofTable_single hput), hsame⟩
  · have hread := (ofTable_eq_ok_iff.1 (ofValue_table_eq_ok_iff.1 hs)).2 f
    rw [Table.get?_eq_none_iff.2 hf] at hread
    exact hread
  · intro hunicode
    rw [ofValue_eq_error hrefused, problemsOf_eq_flatMap hunicode]
  · exact ofValue_of_not_unicodeKeys

/-- Two unknown keys and three fields, which are not in their order and all have something wrong. -/
def mistakenTable : Table :=
  [("verbose", .bool true), ("env", .table [("A", .int 1), ("B", .text "b"), ("C", .null)]),
   ("executable", .text "\t"), ("debug", .null), ("extra_args", .list [.text "-v", .int 2])]

/-- A table with mistakes in fields and unknown keys is refused with the problems of the fields in
the order of declaration, then those of the keys. -/
theorem mistakes_told_in_order_of_fields :
    mistakenTable.keys.Nodup ∧ UnicodeKeys mistakenTable ∧
      (¬ ∃ s, ofValue (.table mistakenTable) = .ok s) ∧
        ofValue (.table mistakenTable) = .error (.invalidConfig
          [⟨["executable"], .rule "executable must not be empty"⟩,
           ⟨["extra_args", "1"], .notText⟩, ⟨["env", "A"], .notText⟩, ⟨["env", "C"], .notText⟩,
           ⟨["verbose"], .extra⟩, ⟨["debug"], .extra⟩]) := by
  have hnodup : mistakenTable.keys.Nodup := by decide
  have hunicode : UnicodeKeys mistakenTable := by
    unfold UnicodeKeys
    decide
  have hrefused : ¬ ∃ s, ofValue (.table mistakenTable) = .ok s := by
    rintro ⟨s, hs⟩
    cases hs
  have htold := (entries_judged_alone hnodup).2.2.2 hrefused |>.1 hunicode
  refine ⟨hnodup, hunicode, hrefused, htold.trans ?_⟩
  have hproblems : ((told mistakenTable).flatMap fun e => problemsOf [e])
      = [⟨["executable"], .rule "executable must not be empty"⟩,
         ⟨["extra_args", "1"], .notText⟩, ⟨["env", "A"], .notText⟩, ⟨["env", "C"], .notText⟩,
         ⟨["verbose"], .extra⟩, ⟨["debug"], .extra⟩] := by
    decide
  rw [hproblems]

/-- A blank executable beside a key that is half of a surrogate pair. -/
def halfKeyTable : Table := [("executable", .text " "), ([.ofNat 0xD800], .int 1)]

/-- The problem of the executable is not told. -/
theorem half_key_hides_mistake :
    halfKeyTable.keys.Nodup ∧ (¬ ∃ s, ofValue (.table halfKeyTable) = .ok s) ∧
      ofValue (.table halfKeyTable) = .error (.invalidConfig [⟨[], .notUnicode⟩]) ∧
      ((told halfKeyTable).flatMap fun e => problemsOf [e])
        = [⟨["executable"], .rule "executable must not be empty"⟩, ⟨[], .notUnicode⟩] ∧
      ofValue (.table halfKeyTable)
        ≠ .error (.invalidConfig ((told halfKeyTable).flatMap fun e => problemsOf [e])) := by
  have halone : ((told halfKeyTable).flatMap fun e => problemsOf [e])
      = [⟨["executable"], .rule "executable must not be empty"⟩, ⟨[], .notUnicode⟩] := by
    decide
  have hrefused : ofValue (.table halfKeyTable) = .error (.invalidConfig [⟨[], .notUnicode⟩]) := rfl
  refine ⟨by decide, ?_, hrefused, halone, ?_⟩
  · rintro ⟨s, hs⟩
    cases hs
  · rw [halone, hrefused]
    intro h
    cases h

end Settings

end LiveLint
