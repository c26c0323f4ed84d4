import Mathlib.Data.List.Nodup
import Mathlib.Data.List.Perm.Basic
import LiveLint.Proofs.Settings.Lossless

/-!
# Overriding and assigning agree

A copy with overrides is read from the table of the settings with the overrides in it. As settings
that a host holds are read back as they are, the copy has in every field what the overrides have for
it, and else what the settings had (`Settings.Lossless.override_eq_ok_iff`). Nothing in this depends
on the order of the overrides, so that they can be made at once, or one by one in any order, as
copies or as assignments (`Settings.overriding_is_assigning`).

There is one difference: a private name can be assigned, and is no override.
-/

namespace LiveLint

/-! ## Tables with distinct keys -/

namespace Table

/-- A table put in another order has distinct keys if the first one has. -/
theorem nodup_keys_perm {t t' : Table} (h : t'.Perm t) (ht : t.keys.Nodup) : t'.keys.Nodup :=
  (h.map Prod.fst).nodup_iff.2 ht

/-- Where each key stands once, the order of the entries does not matter. -/
theorem get?_perm {t t' : Table} (h : t'.Perm t) (ht : t.keys.Nodup) (k : Text) :
    get? k t' = get? k t := by
  refine Option.ext fun v => ?_
  rw [get?_eq_some_iff ht, get?_eq_some_iff (nodup_keys_perm h ht)]
  exact h.mem_iff

/-- A table with the entries of another one put into it. -/
def insertAll (entries base : Table) : Table := entries.foldl (fun t e => insert e.1 e.2 t) base

theorem insertAll_cons (k : Text) (v : Value) (rest base : Table) :
    insertAll ((k, v) :: rest) base = insertAll rest (insert k v base) := rfl

/-- After several insertions a key has the value inserted last under it or, if there is none, the
old one. -/
theorem get?_insertAll {entries : Table} (h : entries.keys.Nodup) (base : Table) (key : Text) :
    get? key (insertAll entries base) = (get? key entries).or (get? key base) := by
  induction entries generalizing base with
  | nil => rfl
  | cons entry rest ih =>
    obtain ⟨k, v⟩ := entry
    obtain ⟨hk, hrest⟩ := List.nodup_cons.1 h
    rw [insertAll_cons, ih hrest, get?_insert, get?]
    by_cases hkey : k = key
    · subst hkey
      rw [get?_eq_none_iff.2 hk, if_pos rfl, if_pos rfl]
      rfl
    · rw [if_neg hkey, if_neg hkey]

/-- The keys after several insertions are those inserted and those there before. -/
theorem mem_keys_insertAll {entries base : Table} {key : Text} :
    key ∈ keys (insertAll entries base) ↔ key ∈ keys entries ∨ key ∈ keys base := by
  induction entries generalizing base with
  | nil => exact ⟨.inr, fun h => h.resolve_left List.not_mem_nil⟩
  | cons entry rest ih =>
    obtain ⟨k, v⟩ := entry
    have hinsert : key ∈ keys (insert k v base) ↔ key = k ∨ key ∈ keys base := by
      rw [keys_insert]
      split
      · rename_i hk
        exact ⟨.inr, fun h => h.elim (fun heq => heq ▸ hk) id⟩
      · rw [List.mem_append, List.mem_singleton, or_comm]
    rw [insertAll_cons, ih, hinsert, keys_cons, List.mem_cons]
    exact or_left_comm.trans or_assoc.symm

end Table

namespace Settings

/-! ## Copies with any number of overrides -/

/-- What a value puts into its field does not depend on what was there. -/
theorem Field.Reads.of_value {f : Field} {base s : Settings} {v : Value}
    (h : f.Reads base (some v) s) (base' : Settings) : f.Reads base' (some v) s := by
  obtain ⟨put, hput, hs⟩ := h
  exact ⟨put, hput, hs.trans (hput.same base base')⟩

/-- What the table of settings has for a field is what the settings have there. -/
theorem Lossless.reads_stored_iff {s s' : Settings} (h : s.Lossless) {f : Field} :
    f.Reads {} (some (f.stored s)) s' ↔ f.Same s' s := by
  constructor
  · exact fun hread => hread.same (h f)
  · rintro hsame
    obtain ⟨put, hput, hs⟩ := h f
    exact ⟨put, hput, hsame.trans hs⟩

/-- The name under which a copy takes its changes is no key of a field. -/
theorem not_known_of_copiedName {o : Table} (h : o.keys.contains copiedName) : ¬ Known o := by
  intro hknown
  obtain ⟨f, hf⟩ := hknown copiedName (List.contains_iff_mem.1 h)
  cases f <;> exact absurd hf (by decide)

/-- Overriding a known table gives a known one exactly if the overrides are known. -/
theorem known_insertAll_iff {o base : Table} (hbase : Known base) :
    Known (o.insertAll base) ↔ Known o := by
  constructor
  · exact fun h k hk => h k (Table.mem_keys_insertAll.2 (.inl hk))
  · intro h k hk
    exact (Table.mem_keys_insertAll.1 hk).elim (h k) (hbase k)

/-- A copy has in each field what the overrides have for it, and else what the settings have. -/
theorem Lossless.override_eq_ok_iff {s s' : Settings} (h : s.Lossless) {o : Table}
    (ho : o.keys.Nodup) :
    s.override o = .ok s' ↔ Known o ∧ ∀ f : Field, f.Reads s (Table.get? f.key o) s' := by
  by_cases hself : o.keys.contains copiedName
  · rw [override, if_pos hself]
    refine ⟨fun hs => ?_, fun hread => absurd hread.1 (not_known_of_copiedName hself)⟩
    cases hs
  have htable : s.override o = ofValue (.table (o.insertAll s.toTable)) := by
    rw [override, if_neg hself]
    rfl
  rw [htable, ofValue_table_eq_ok_iff, ofTable_eq_ok_iff, known_insertAll_iff (known_toTable s)]
  refine and_congr_right fun _ => forall_congr' fun f => ?_
  rw [Table.get?_insertAll ho, get?_toTable]
  cases Table.get? f.key o with
  | none => exact h.reads_stored_iff
  | some v => exact ⟨fun hread => hread.of_value s, fun hread => hread.of_value {}⟩

/-- Overriding nothing gives back the same settings. -/
theorem Lossless.override_nil {s : Settings} (h : s.Lossless) : s.override [] = .ok s := by
  refine (h.override_eq_ok_iff (o := []) List.nodup_nil).2 ?_
  exact ⟨fun k hk => absurd hk List.not_mem_nil, fun f => Field.Same.refl f s⟩

/-- Lossless settings stay so when a valid value is put into a field. -/
theorem Lossless.puts {s : Settings} (h : s.Lossless) {f : Field} {v : Value}
    {put : Settings → Settings} (hput : Puts f v put) : (put s).Lossless := by
  intro g
  by_cases hg : g = f
  · exact hg ▸ hput.lossless s
  · exact (h g).of_same (hput.keeps hg s)

/-! ## One by one -/

/-- An assigned value is checked as an override of its field is. -/
theorem assign_field (s : Settings) (f : Field) (v : Value) :
    s.assign f.key v = ((check f v).map fun put => put s).mapError Fault.validation := by
  rw [assign, Field.ofKey?_key]
  dsimp only
  cases check f v <;> rfl

/-- A way to set one field: an accepted value is put there. -/
def Sets (step : Settings → Text × Value → Except Fault Settings) : Prop :=
  ∀ s : Settings, s.Lossless → ∀ (f : Field) (v : Value) (put : Settings → Settings),
    Puts f v put → step s (f.key, v) = .ok (put s)

/-- Overriding a single entry sets a field of lossless settings. -/
theorem sets_override : Sets fun s e => s.override [e] := by
  intro s h f v put hput
  dsimp only
  rw [h.override_field, check_eq_ok_iff.2 hput]
  rfl

/-- Assigning a single entry sets a field of lossless settings. -/
theorem sets_assign : Sets fun s e => s.assign e.1 e.2 := by
  intro s h f v put hput
  dsimp only
  rw [assign_field, check_eq_ok_iff.2 hput]
  rfl

/-- Setting the fields one after the other leaves in each what there is for it. -/
theorem Sets.foldlM {step : Settings → Text × Value → Except Fault Settings} (hstep : Sets step)
    {o : Table} (ho : o.keys.Nodup) (hknown : Known o) {s s' : Settings} (h : s.Lossless)
    (hreads : ∀ f : Field, f.Reads s (Table.get? f.key o) s') : o.foldlM step s = .ok s' := by
  -- The invariant is `hreads`: from the settings reached, what is left still leads to `s'`.
  induction o generalizing s with
  | nil =>
    have hs : s' = s := ext_of_same hreads
    rw [hs]
    rfl
  | cons entry rest ih =>
    obtain ⟨k, v⟩ := entry
    obtain ⟨hk, hrest⟩ := List.nodup_cons.1 ho
    obtain ⟨f, rfl⟩ := hknown k List.mem_cons_self
    have hvalue : f.Reads s (some v) s' := by
      have hread := hreads f
      rwa [Table.get?, if_pos rfl] at hread
    obtain ⟨put, hput, hfield⟩ := hvalue
    have hnext : step s (f.key, v) = .ok (put s) := hstep s h f v put hput
    rw [List.foldlM_cons, hnext]
    refine ih hrest (fun k' hk' => hknown k' (List.mem_cons_of_mem _ hk')) (h.puts hput) fun g => ?_
    -- The field just set is not set again, and the step left the other ones alone.
    by_cases hg : g = f
    · subst hg
      rw [Table.get?_eq_none_iff.2 hk]
      exact hfield
    · have hread := hreads g
      rw [Table.get?, if_neg fun hkey => hg (Field.key_injective hkey.symm)] at hread
      cases hv : Table.get? g.key rest with
      | none =>
        rw [hv] at hread
        exact hread.trans (hput.keeps hg s).symm
      | some w =>
        rw [hv] at hread
        exact hread.of_value (put s)

/-- So the order is of no importance. -/
theorem Lossless.foldlM_of_override {s s' : Settings} (h : s.Lossless) {o o' : Table}
    (ho : o.keys.Nodup) (hs : s.override o = .ok s') (hperm : o'.Perm o)
    {step : Settings → Text × Value → Except Fault Settings} (hstep : Sets step) :
    o'.foldlM step s = .ok s' := by
  obtain ⟨hknown, hreads⟩ := (h.override_eq_ok_iff ho).1 hs
  refine hstep.foldlM (Table.nodup_keys_perm hperm ho)
    (fun k hk => hknown k ((hperm.map Prod.fst).mem_iff.1 hk)) h fun f => ?_
  rw [Table.get?_perm hperm ho]
  exact hreads f

/-! ## Names that are no field -/

/-- A name belongs to no field exactly if it is not the key of any. -/
theorem ofKey?_eq_none_iff {k : Text} : Field.ofKey? k = none ↔ ∀ f : Field, f.key ≠ k := by
  constructor
  · rintro h f rfl
    rw [Field.ofKey?_key] at h
    cases h
  · intro h
    cases hk : Field.ofKey? k with
    | none => rfl
    | some f => exact absurd (Field.key_of_ofKey? hk) (h f)

/-- A copy has no other fields. -/
theorem Lossless.override_unknown {s : Settings} (h : s.Lossless) {k : Text}
    (hk : Field.ofKey? k = none) (v : Value) (s' : Settings) : s.override [(k, v)] ≠ .ok s' := by
  intro hs
  obtain ⟨hknown, -⟩ := (h.override_eq_ok_iff (o := [(k, v)]) (List.nodup_singleton k)).1 hs
  obtain ⟨f, hf⟩ := hknown k (List.mem_singleton_self k)
  exact ofKey?_eq_none_iff.1 hk f hf

/-- Assigning to a name of no field is passed over for a private name and refused for any other
one. -/
theorem assign_unknown (s : Settings) {k : Text} (hk : Field.ofKey? k = none) (v : Value) :
    s.assign k v
      = if isPrivateName k then .ok s else .error (.validation [⟨[k], .unknownAttribute k⟩]) := by
  rw [assign, hk]

/-! ## Both ways -/

/-- Settings that validation returns are among those that a program can hold. -/
theorem held_of_ofValue {v : Value} {s : Settings} (h : ofValue v = .ok s) : s.Held := by
  have hresult (held : List Settings) : (Change.build v).result? held = some (.ok s) :=
    congrArg some h
  refine ⟨[] ++ [.build v], ?_⟩
  rw [Machine.run_concat, change_eq, hresult]
  exact List.mem_append_right _ (List.mem_singleton_self s)

/-- Overriding a single field succeeds just as assigning to it does, with the same settings. -/
theorem Lossless.override_iff_assign {s : Settings} (h : s.Lossless) (f : Field) (v : Value)
    (s' : Settings) : s.override [(f.key, v)] = .ok s' ↔ s.assign f.key v = .ok s' := by
  rw [h.override_field, assign_field]
  cases check f v with
  | ok put =>
    exact ⟨fun hs => congrArg _ (Except.ok.inj hs), fun hs => congrArg _ (Except.ok.inj hs)⟩
  | error ps => exact ⟨nofun, nofun⟩

/-- Settings that a host holds can be copied without overrides and stay what they are. A field takes
the same values by an override and by an assignment, and becomes the same, while the others stay. A
name that is no field is refused by both, unless it is private: then it can be assigned, which
changes nothing. Overrides that are accepted together can be made one by one in any order. -/
theorem overriding_is_assigning {s : Settings} (h : s.Held) :
    s.override [] = .ok s ∧
      (∀ (f : Field) v,
        (∀ s', s.override [(f.key, v)] = .ok s' ↔ s.assign f.key v = .ok s') ∧
          ∀ s', s.assign f.key v = .ok s' → ∀ g ≠ f, g.Same s' s) ∧
      (∀ k v, Field.ofKey? k = none →
        (∀ s', s.override [(k, v)] ≠ .ok s') ∧
          if isPrivateName k then s.assign k v = .ok s else ∀ s', s.assign k v ≠ .ok s') ∧
      ∀ (o : Table) s', o.keys.Nodup → s.override o = .ok s' → ∀ o' : Table, o'.Perm o →
        o'.foldlM (fun s e => s.override [e]) s = .ok s' ∧
          o'.foldlM (fun s e => s.assign e.1 e.2) s = .ok s' := by
  have hlossless := h.lossless
  refine ⟨hlossless.override_nil, fun f v => ⟨hlossless.override_iff_assign f v, ?_⟩,
    fun k v hk => ⟨hlossless.override_unknown hk v, ?_⟩, fun o s' ho hs o' hperm => ⟨?_, ?_⟩⟩
  · intro s' hs' g hg
    exact same_of_assign hs' (Field.key_injective.ne hg)
  · rw [assign_unknown s hk]
    split
    · rfl
    · exact nofun
  · exact hlossless.foldlM_of_override ho hs hperm sets_override
  · exact hlossless.foldlM_of_override ho hs hperm sets_assign

/-- A dialect with margins and in capitals, a path with points and slashes in it, and a limit. -/
def manyOverrides : Table :=
  [("dialect", .text " HIVE\n"), ("cwd", .text "./a//b/."), ("timeout", .bool true)]

/-- Several overrides at once, and assigned one by one in the reverse order, end in the same
settings. -/
theorem overrides_assigned_backwards :
    ∃ s s' : Settings, s.Held ∧ manyOverrides.keys.Nodup ∧ s.override manyOverrides = .ok s' ∧
      manyOverrides.reverse.foldlM (fun s e => s.assign e.1 e.2) s = .ok s' ∧
        s'.command.take 4 = (["fluff", "lint", "--dialect", "hive"] : List Text) ∧
          s'.directory.map Path.text = some (Text.ofString "a/b") := by
  obtain ⟨s, hs⟩ : ∃ s, ofValue (.table [("executable", .text " fluff\t")]) = .ok s := ⟨_, rfl⟩
  obtain ⟨s', hs'⟩ : ∃ s', s.override manyOverrides = .ok s' := by
    cases hs
    exact ⟨_, rfl⟩
  have hnodup : manyOverrides.keys.Nodup := by decide
  have hheld : s.Held := held_of_ofValue hs
  obtain ⟨-, -, -, horder⟩ := overriding_is_assigning hheld
  have hbackwards := (horder manyOverrides s' hnodup hs' _ (List.reverse_perm _)).2
  refine ⟨s, s', hheld, hnodup, hs', hbackwards, ?_, ?_⟩
  · cases hs
    cases hs'
    decide
  · cases hs
    cases hs'
    decide

/-- A private name is refused by a copy, and can be assigned. -/
theorem private_name_assigned_but_no_override :
    let s : Settings := {}
    s.Held ∧ Field.ofKey? "_note" = none ∧ (∀ s', s.override [("_note", .int 1)] ≠ .ok s') ∧
      s.assign "_note" (.int 1) = .ok s := by
  intro s
  have hheld : s.Held := held_of_ofValue (v := .table []) rfl
  have hunknown : Field.ofKey? "_note" = none := by decide
  refine ⟨hheld, hunknown, hheld.lossless.override_unknown hunknown (.int 1), ?_⟩
  rw [assign_unknown s hunknown, if_pos (by decide)]

end Settings

end LiveLint
