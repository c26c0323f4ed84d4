import LiveLint.Proofs.Layers.Merge

/-!
# Merged tables, path by path

A path of keys leads from a table into the tables that it holds. What a merged table has at the end
of a path is told by the two tables alone (`Table.merged_path_by_path`): the upper one decides
wherever it has something, at the end of the path or on the way to it, and elsewhere the lower one
shows through. The three cases are `Value.under?_overlay_of_some`, `Value.under?_overlay_of_leads`
and `Value.under?_overlay_of_not_leads`, each by induction on the path, where one key takes a step
into both tables at once (`Table.field?_overlay`).
-/

namespace LiveLint

/-! ## Paths of keys -/

namespace Value

/-- What a path of keys leads to in nested tables. -/
def under? (v : Value) : List Text → Option Value
  | [] => some v
  | key :: path => (v.field? key).bind fun w => w.under? path

/-- On the way along a path, whatever there is before its end is a table. -/
def Leads (v : Value) (path : List Text) : Prop :=
  ∀ way w, way <+: path → way ≠ path → v.under? way = some w → w.isTable = true

variable {v : Value} {key : Text} {path : List Text}

/-- There is nothing under a key of what is no table. -/
theorem field?_of_not_isTable (h : v.isTable = false) (key : Text) : v.field? key = none := by
  cases v with
  | table entries => cases h
  | _ => rfl

/-- A table is one of entries. -/
theorem exists_entries (h : v.isTable = true) : ∃ entries, v = .table entries := by
  cases v with
  | table entries => exact ⟨entries, rfl⟩
  | _ => cases h

/-- Nothing is on the way to where one is. -/
theorem leads_nil (v : Value) : v.Leads [] := by
  intro way w hway hne
  exact absurd (List.prefix_nil.1 hway) hne

/-- A path leads through a table to what lies under its first key, and on from there. -/
theorem leads_cons_iff :
    v.Leads (key :: path) ↔ v.isTable = true ∧ ∀ w, v.field? key = some w → w.Leads path := by
  constructor
  · intro h
    refine ⟨h [] v List.nil_prefix (List.cons_ne_nil _ _).symm rfl, ?_⟩
    intro w hw way u hway hne hu
    refine h (key :: way) u ((List.prefix_cons_inj key).2 hway) ?_ ?_
    · intro heq
      exact hne (List.cons.inj heq).2
    · rw [under?, hw]
      exact hu
  · rintro ⟨htable, hfield⟩ way u hway hne hu
    rcases List.prefix_cons_iff.1 hway with rfl | ⟨rest, rfl, hrest⟩
    · rw [← Option.some.inj hu]
      exact htable
    · obtain ⟨w, hw, hu⟩ := Option.bind_eq_some_iff.1 hu
      refine hfield w hw rest u hrest ?_ hu
      rintro rfl
      exact hne rfl

/-- What lies under a path in a distinct value is distinct. -/
theorem Distinct.of_under? (hv : v.Distinct) {w : Value} (h : v.under? path = some w) :
    w.Distinct := by
  induction path generalizing v with
  | nil => exact Option.some.inj h ▸ hv
  | cons key path ih =>
    obtain ⟨v', hv', hrest⟩ := Option.bind_eq_some_iff.1 h
    cases v with
    | table entries => exact ih (Table.Distinct.of_get? hv hv') hrest
    | _ => cases hv'

/-! ## What a merged value has under a path -/

/-- What the upper value has at the end of a path is laid over what the lower one has there. -/
theorem under?_overlay_of_some (hv : v.Distinct) {w : Value} (h : v.under? path = some w)
    (old : Option Value) :
    (overlay old v).under? path = some (overlay (old.bind fun u => u.under? path) w) := by
  -- A key takes a step into both values, and what they have under it is merged in the same way.
  induction path generalizing v old with
  | nil =>
    obtain rfl : v = w := Option.some.inj h
    cases old <;> rfl
  | cons key path ih =>
    obtain ⟨v', hv', hunder⟩ := Option.bind_eq_some_iff.1 h
    cases v with
    | table entries =>
      have hentries : Table.Distinct entries := hv
      have hget : Table.get? key entries = some v' := hv'
      have hrest := ih (hentries.of_get? hget) hunder (old.bind (field? key))
      rw [Option.bind_assoc] at hrest
      rw [under?, Table.field?_overlay hentries.nodup, hget]
      exact hrest
    | _ => cases hv'

/-- Where the upper value has nothing, neither at the end of a path nor in the way of it, the lower
one shows through. -/
theorem under?_overlay_of_leads (hv : v.Distinct) (h : v.under? path = none) (hleads : v.Leads path)
    (old : Option Value) : (overlay old v).under? path = old.bind fun u => u.under? path := by
  induction path generalizing v old with
  | nil => cases h
  | cons key path ih =>
    obtain ⟨htable, hfield⟩ := leads_cons_iff.1 hleads
    obtain ⟨entries, rfl⟩ := exists_entries htable
    have hentries : Table.Distinct entries := hv
    rw [under?, Table.field?_overlay hentries.nodup]
    cases hget : Table.get? key entries with
    | none =>
      -- From here on the upper value has no say.
      exact Option.bind_assoc _ _ _
    | some v' =>
      have hnone : v'.under? path = none := by
        rw [under?, field?, hget] at h
        exact h
      have hrest := ih (hentries.of_get? hget) hnone (hfield v' hget) (old.bind (field? key))
      rw [Option.bind_assoc] at hrest
      exact hrest

/-- Where something else than a table is in the way of a path, the path leads nowhere. -/
theorem under?_overlay_of_not_leads (hv : v.Distinct) (hleads : ¬ v.Leads path)
    (old : Option Value) : (overlay old v).under? path = none := by
  induction path generalizing v old with
  | nil => exact absurd (leads_nil v) hleads
  | cons key path ih =>
    cases htable : v.isTable with
    | false =>
      -- The value itself is in the way, and replaces what is below it.
      rw [overlay_of_not_isTable htable, under?, field?_of_not_isTable htable, Option.bind_none]
    | true =>
      obtain ⟨entries, rfl⟩ := exists_entries htable
      have hentries : Table.Distinct entries := hv
      obtain ⟨v', hget, hleads⟩ : ∃ v', Table.get? key entries = some v' ∧ ¬ v'.Leads path := by
        by_contra hall
        push Not at hall
        exact hleads (leads_cons_iff.2 ⟨htable, hall⟩)
      rw [under?, Table.field?_overlay hentries.nodup, hget]
      exact ih (hentries.of_get? hget) hleads (old.bind (field? key))

/-- A value that is no table comes from one side: the upper one, or the lower one where the upper
one leaves the path alone. -/
theorem under?_overlay_eq_some_iff (hv : v.Distinct) {w : Value} (hw : w.isTable = false)
    {old : Option Value} :
    (overlay old v).under? path = some w ↔
      v.under? path = some w ∨
        (old.bind fun u => u.under? path) = some w ∧ v.under? path = none ∧ v.Leads path := by
  constructor
  · intro h
    cases hunder : v.under? path with
    | some u =>
      rw [under?_overlay_of_some hv hunder, Option.some.injEq] at h
      cases htable : u.isTable with
      | false =>
        rw [overlay_of_not_isTable htable] at h
        exact .inl (congrArg some h)
      | true =>
        obtain ⟨entries, rfl⟩ := exists_entries htable
        have hmerged := isTable_overlay (old.bind fun u => u.under? path) entries
        rw [h, hw] at hmerged
        cases hmerged
    | none =>
      by_cases hleads : v.Leads path
      · rw [under?_overlay_of_leads hv hunder hleads] at h
        exact .inr ⟨h, rfl, hleads⟩
      · rw [under?_overlay_of_not_leads hv hleads] at h
        cases h
  · rintro (h | ⟨h, hnone, hleads⟩)
    · rw [under?_overlay_of_some hv h, overlay_of_not_isTable hw]
    · rw [under?_overlay_of_leads hv hnone hleads, h]

end Value

/-! ## Keys and identities -/

namespace Table

/-- The keys of the lower table come first, in their order, and the new ones of the upper table
after them, in theirs. -/
theorem keys_overlay {entries : Table} (h : entries.keys.Nodup) (base : Table) :
    keys (overlay base entries) = base.keys ++ entries.keys.filter fun k => k ∉ base.keys := by
  induction entries generalizing base with
  | nil => exact (List.append_nil _).symm
  | cons entry rest ih =>
    obtain ⟨k, v⟩ := entry
    obtain ⟨hk, hrest⟩ := List.nodup_cons.1 h
    rw [overlay, ih hrest, keys_insert, keys_cons, List.filter_cons]
    by_cases hmem : k ∈ base.keys
    · simp only [hmem, if_true, not_true_eq_false, decide_false, Bool.false_eq_true, if_false]
    · -- The key is a new one, and so it is not among those that are left.
      have hfilter : (keys rest).filter (fun k' => k' ∉ base.keys ++ [k])
          = (keys rest).filter fun k' => k' ∉ base.keys := by
        refine List.filter_congr fun k' hk' => ?_
        have hne : k' ≠ k := by
          rintro rfl
          exact hk hk'
        simp [hne]
      simp only [hmem, if_false, not_false_eq_true, decide_true, if_true]
      rw [hfilter, List.append_assoc]
      rfl

/-- A table is its keys, in order, and what it has under them. -/
theorem ext_get? {t t' : Table} (hkeys : t.keys = t'.keys) (hnodup : t.keys.Nodup)
    (h : ∀ k, get? k t = get? k t') : t = t' := by
  induction t generalizing t' with
  | nil =>
    cases t' with
    | nil => rfl
    | cons entry rest => cases hkeys
  | cons entry rest ih =>
    obtain ⟨k, v⟩ := entry
    cases t' with
    | nil => cases hkeys
    | cons entry' rest' =>
      obtain ⟨k', v'⟩ := entry'
      obtain ⟨rfl, hrest⟩ : k = k' ∧ keys rest = keys rest' := List.cons.inj hkeys
      obtain ⟨hk, hnodup⟩ := List.nodup_cons.1 hnodup
      have hvalue := h k
      rw [get?, get?, if_pos rfl, if_pos rfl, Option.some.injEq] at hvalue
      have hsame : rest = rest' := by
        refine ih hrest hnodup fun key => ?_
        have hkey := h key
        rw [get?, get?] at hkey
        by_cases heq : k = key
        · have hnone : key ∉ keys rest := heq ▸ hk
          have hnone' : key ∉ keys rest' := fun hmem => hnone (hrest ▸ hmem)
          rw [get?_eq_none_iff.2 hnone, get?_eq_none_iff.2 hnone']
        · rwa [if_neg heq, if_neg heq] at hkey
      rw [hvalue, hsame]

/-- A table with each key once is itself when it is laid over nothing. -/
theorem overlay_nil_left {t : Table} (h : t.keys.Nodup) : overlay [] t = t := by
  have hkeys : keys (overlay [] t) = t.keys := by
    rw [keys_overlay h]
    exact List.filter_eq_self.2 fun _ _ => rfl
  refine ext_get? hkeys (hkeys ▸ h) fun k => ?_
  rw [get?_overlay h]
  cases get? k t with
  | none => rfl
  | some v => exact congrArg some (Value.overlay_none v)

/-- A table that is laid over itself is itself, if its values are. -/
theorem overlay_self_of_values {t : Table} (h : t.keys.Nodup)
    (hvalues : ∀ p ∈ t, Value.overlay (some p.2) p.2 = p.2) : overlay t t = t := by
  have hkeys : keys (overlay t t) = t.keys := by
    rw [keys_overlay h, List.filter_eq_nil_iff.2, List.append_nil]
    intro k hk
    simpa using hk
  refine ext_get? hkeys (hkeys ▸ h) fun k => ?_
  rw [get?_overlay h]
  cases hget : get? k t with
  | none => rfl
  | some v => exact congrArg some (hvalues (k, v) (mem_of_get? hget))

end Table

/-- A value laid over itself, at any depth, is what it was. -/
theorem Value.Distinct.overlay_self {v : Value} (h : v.Distinct) : Value.overlay (some v) v = v := by
  induction h with
  | table hkeys _ ih =>
    have hself := Table.overlay_self_of_values hkeys ih
    rw [Value.overlay, hself]
  | _ => exact Value.overlay_of_not_isTable rfl _

namespace Table

/-- A distinct table that is laid over itself is itself. -/
theorem Distinct.overlay_self {t : Table} (h : t.Distinct) : overlay t t = t := by
  have hself := Value.Distinct.overlay_self h
  rw [Value.overlay] at hself
  exact Value.table.inj hself

/-- A merged table has a value that is no table under a path exactly if the upper table has it
there, or if the lower one does and the upper one has nothing at the end of the path and nothing but
tables on the way. Where both have a table, the keys of the lower one come first and the new keys of
the upper one follow. Merging with the empty table, on either side, and merging a table with itself
change nothing. -/
theorem merged_path_by_path {upper : Table} (h : upper.Distinct) (lower : Table) :
    let merged := Value.table (overlay lower upper)
    (∀ path v, v.isTable = false →
      (merged.under? path = some v ↔
        (Value.table upper).under? path = some v ∨
          (Value.table lower).under? path = some v ∧ (Value.table upper).under? path = none ∧
            (Value.table upper).Leads path)) ∧
    (∀ path (below above : Table), (Value.table lower).under? path = some (.table below) →
      (Value.table upper).under? path = some (.table above) →
        ∃ t : Table, merged.under? path = some (.table t) ∧
          t.keys = below.keys ++ above.keys.filter fun k => k ∉ below.keys) ∧
    overlay lower [] = lower ∧ overlay [] upper = upper ∧ overlay upper upper = upper := by
  intro merged
  have hmerged : merged = Value.overlay (some (.table lower)) (.table upper) := by
    rw [Value.overlay]
  rw [hmerged]
  refine ⟨?_, ?_, rfl, overlay_nil_left h.nodup, h.overlay_self⟩
  · intro path v hv
    exact Value.under?_overlay_eq_some_iff h hv
  · intro path below above hbelow habove
    have hunder := Value.under?_overlay_of_some h habove (some (.table lower))
    rw [Option.bind_some, hbelow, Value.overlay] at hunder
    have hdistinct : Distinct above := Value.Distinct.of_under? h habove
    exact ⟨overlay below above, hunder, keys_overlay hdistinct.nodup below⟩

/-- A value in place of a table hides what was in the table, a table in place of a value replaces
it, and next to that a table takes new keys and keeps its own. -/
theorem tables_and_values_merged :
    let lower : Table := [("a", .table [("x", .int 1), ("y", .int 2)]), ("b", .table [("z", .int 3)])]
    let upper : Table := [("b", .int 4), ("a", .table [("u", .null), ("y", .table [("w", .int 5)])])]
    let merged := Value.table (overlay lower upper)
    upper.Distinct ∧ merged.under? ["b", "z"] ≠ some (.int 3) ∧
      merged.under? ["a", "y", "w"] = some (.int 5) ∧ merged.under? ["a", "x"] = some (.int 1) ∧
      (∃ t : Table, merged.under? ["a"] = some (.table t) ∧ t.keys = ["x", "y", "u"]) ∧
      overlay upper upper = upper := by
  intro lower upper merged
  have hupper : upper.Distinct := by
    refine .table (by decide) ?_
    simp only [upper, List.forall_mem_cons]
    refine ⟨.int 4, .table (by decide) ?_, nofun⟩
    simp only [List.forall_mem_cons]
    exact ⟨.null, .table (by decide) (List.forall_mem_singleton.2 (.int 5)), nofun⟩
  obtain ⟨hpaths, hkeys, -, -, hself⟩ := merged_path_by_path hupper lower
  refine ⟨hupper, ?hidden, ?replaced, ?kept, ?keys, hself⟩
  case hidden =>
    intro hz
    rcases (hpaths ["b", "z"] (.int 3) rfl).1 hz with h | ⟨-, -, h⟩
    · cases h
    · cases h ["b"] (.int 4) ⟨["z"], rfl⟩ (by decide) rfl
  case replaced => exact (hpaths ["a", "y", "w"] (.int 5) rfl).2 (.inl rfl)
  case kept =>
    refine (hpaths ["a", "x"] (.int 1) rfl).2 (.inr ⟨rfl, rfl, ?_⟩)
    refine Value.leads_cons_iff.2 ⟨rfl, fun w hw => ?_⟩
    obtain rfl := Option.some.inj hw
    exact Value.leads_cons_iff.2 ⟨rfl, nofun⟩
  case keys =>
    obtain ⟨t, ht, hall⟩ := hkeys ["a"] _ _ rfl rfl
    exact ⟨t, ht, hall⟩

end Table

end LiveLint
