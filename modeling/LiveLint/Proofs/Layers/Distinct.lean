import Mathlib.Data.List.Nodup
import LiveLint.Layers.Load
import LiveLint.Proofs.Settings.Fields

/-!
# Sources hold each key once

A table is a list of entries, and nothing keeps it from holding a key twice; one that is written by
`Table.insert` does not (`Table.Distinct.insert`). So what is read from a document holds each key
once at any depth (`Toml.distinct_read`), and with it every source that reads a file
(`Source.distinct_load`).
-/

namespace LiveLint

/-- Every table in the value holds each key once. -/
inductive Value.Distinct : Value → Prop
  | null : Distinct .null
  | bool (b : Bool) : Distinct (.bool b)
  | int (n : Int) : Distinct (.int n)
  | float (x : Double) : Distinct (.float x)
  | text (t : Text) : Distinct (.text t)
  | moment (m : Moment) : Distinct (.moment m)
  | list {items : List Value} (h : ∀ v ∈ items, Distinct v) : Distinct (.list items)
  | table {entries : Table} (hkeys : entries.keys.Nodup) (h : ∀ p ∈ entries, Distinct p.2) :
    Distinct (.table entries)

namespace Table

/-- The table, and every table in it, holds each key once. -/
def Distinct (t : Table) : Prop := Value.Distinct (.table t)

/-- An empty table holds no key twice. -/
theorem distinct_nil : Distinct [] := .table List.nodup_nil fun _ hp => absurd hp List.not_mem_nil

section

variable {t : Table}

/-- The keys of a distinct table differ. -/
theorem Distinct.nodup (h : t.Distinct) : t.keys.Nodup := by
  cases h with
  | table hkeys _ => exact hkeys

/-- The values of a distinct table are distinct themselves. -/
theorem Distinct.of_mem (h : t.Distinct) {p : Text × Value} (hp : p ∈ t) : p.2.Distinct := by
  cases h with
  | table _ hvalues => exact hvalues p hp

/-- What is found in a distinct table is distinct. -/
theorem Distinct.of_get? (h : t.Distinct) {key : Text} {v : Value} (hv : get? key t = some v) :
    v.Distinct := h.of_mem (mem_of_get? hv)

/-- Leaving out entries makes no key occur twice. -/
theorem Distinct.sublist (h : t.Distinct) {t' : Table} (ht : t'.Sublist t) : t'.Distinct :=
  .table (h.nodup.sublist (ht.map Prod.fst)) fun _ hp => h.of_mem (ht.subset hp)

/-- A distinct value under any key leaves a table distinct. -/
theorem Distinct.insert (h : t.Distinct) {v : Value} (hv : v.Distinct) (k : Text) :
    (Table.insert k v t).Distinct := by
  refine .table ?_ fun p hp => ?_
  · rw [keys_insert]
    split
    · exact h.nodup
    · rename_i hk
      exact List.nodup_append.2 ⟨h.nodup, List.nodup_singleton k, by
        rintro a ha b hb rfl
        exact hk (List.mem_singleton.1 hb ▸ ha)⟩
  · rcases mem_insert hp with heq | hmem
    · exact heq ▸ hv
    · exact h.of_mem hmem

end

end Table

/-! ## Documents -/

namespace Toml

/-- Changes that keep keys apart do so wherever they are made. -/
theorem distinct_changeAt {throughLists : Bool} {change : Table → Except Error Table}
    (hchange : ∀ t : Table, t.Distinct → Ensures Table.Distinct (change t)) (path : KeyPath) {t : Table}
    (ht : t.Distinct) : Ensures Table.Distinct (changeAt throughLists change path t) := by
  induction path generalizing t with
  | nil => exact hchange t ht
  | cons k path ih =>
    unfold changeAt
    split
    · exact (ih Table.distinct_nil).bind fun sub hsub => ensures_ok (ht.insert hsub k)
    · rename_i sub hget
      exact (ih (ht.of_get? hget)).bind fun sub hsub => ensures_ok (ht.insert hsub k)
    · rename_i items hget
      split
      · rename_i sub hlast
        have hitems : ∀ v ∈ items, v.Distinct := by
          cases ht.of_get? hget with
          | list h => exact h
        refine (ih (hitems _ (List.mem_of_getLast? hlast))).bind fun sub hsub => ?_
        refine ensures_ok (ht.insert (.list ?_) k)
        rw [List.forall_mem_append, List.forall_mem_singleton]
        exact ⟨fun v hv => hitems v (List.dropLast_subset items hv), hsub⟩
      · exact ensures_error _
    · exact ensures_error _

/-- A value is put under a key that was not there, or not at all. -/
theorem distinct_insertNew {v : Value} (hv : v.Distinct) (k : Text) {t : Table} (ht : t.Distinct) :
    Ensures Table.Distinct (insertNew k v t) := by
  unfold insertNew
  split
  · exact ensures_error _
  · exact ensures_ok (ht.insert hv k)

/-- A list of tables grows by an empty one. -/
theorem distinct_appendItem (k : Text) {t : Table} (ht : t.Distinct) :
    Ensures Table.Distinct (appendItem k t) := by
  unfold appendItem
  split
  · refine ensures_ok (ht.insert (.list ?_) k)
    rw [List.forall_mem_singleton]
    exact Table.distinct_nil
  · rename_i items hget
    refine ensures_ok (ht.insert (.list ?_) k)
    rw [List.forall_mem_append, List.forall_mem_singleton]
    refine ⟨?_, Table.distinct_nil⟩
    cases ht.of_get? hget with
    | list h => exact h
  · exact ensures_error _

/-- An inline table holds each key once with another value in it. -/
theorem distinct_add {t : InlineTable} (ht : Table.Distinct t.entries) (path : KeyPath) {v : Value}
    (hv : v.Distinct) : Ensures (fun t : InlineTable => Table.Distinct t.entries) (t.add path v) := by
  unfold InlineTable.add
  split
  · exact ensures_error _
  · refine (distinct_changeAt (fun t ht => distinct_insertNew hv _ ht) _ ht).bind fun entries h => ?_
    exact ensures_ok h

/-- A number with a point is no table. -/
theorem distinct_decimal? {negative : Bool} {t : Text} {r : Except Error (Value × Text)}
    (h : decimal? negative t = some r) : Ensures (fun r => r.1.Distinct) r := by
  unfold decimal? at h
  obtain ⟨⟨whole, after⟩, -, h⟩ := Option.bind_eq_some_iff.1 h
  dsimp only at h
  split at h
  · cases h
    exact ensures_ok (.float _)
  · cases h
    exact ensures_ok (.float _)
  · cases h
    split
    · exact ensures_error _
    · exact ensures_ok (.int _)

/-- A number is no table. -/
theorem distinct_number? {t : Text} {r : Except Error (Value × Text)} (h : number? t = some r) :
    Ensures (fun r => r.1.Distinct) r := by
  unfold number? at h
  split at h
  · cases h
    exact ensures_ok (.int _)
  · dsimp only at h
    split at h
    · rename_i hdecimal
      cases h
      exact distinct_decimal? hdecimal
    · split at h
      · cases h
        exact ensures_ok (.float _)
      · split at h
        · cases h
          exact ensures_ok (.float _)
        · cases h

/-- One induction for the readers that call one another: whatever the fuel, what they read holds
each key once if what they were handed does. -/
theorem distinct_values (fuel : Nat) :
    (∀ levels t, Ensures (fun r => r.1.Distinct) (value fuel levels t)) ∧
      (∀ levels (items : List Value) (t : Text), (∀ v ∈ items, v.Distinct) →
        Ensures (fun r => r.1.Distinct) (listItems fuel levels items t)) ∧
      (∀ levels (read : InlineTable) (t : Text), Table.Distinct read.entries →
        Ensures (fun r => r.1.Distinct) (inlineEntries fuel levels read t)) ∧
      ∀ levels t, Ensures (fun r => r.1.2.Distinct) (assignment fuel levels t) := by
  induction fuel with
  | zero =>
    refine ⟨fun levels t => ?_, fun levels items t _ => ?_, fun levels read t _ => ?_,
      fun levels t => ?_⟩
    · rw [value]; exact ensures_error _
    · rw [listItems]; exact ensures_error _
    · rw [inlineEntries]; exact ensures_error _
    · rw [assignment]; exact ensures_error _
  | succ fuel ih =>
    obtain ⟨hvalue, hitems, hentries, hassign⟩ := ih
    refine ⟨fun levels t => ?value, fun levels items t hread => ?items,
      fun levels read t hread => ?entries, fun levels t => ?assign⟩
    case value =>
      unfold value
      split
      · exact (ensures_trivial _).map fun r _ => .text r.1
      split
      · exact ensures_ok (.bool _)
      split
      · exact ensures_ok (.bool _)
      split
      · split
        · exact ensures_error _
        · refine (ensures_trivial _).bind fun after _ => ?_
          split
          · exact ensures_ok (.list (fun _ hv => absurd hv List.not_mem_nil))
          · exact hitems _ _ _ fun _ hv => absurd hv List.not_mem_nil
      split
      · split
        · split
          · exact ensures_error _
          · exact ensures_ok Table.distinct_nil
        · split
          · exact ensures_error _
          · exact hentries _ _ _ Table.distinct_nil
      split
      · exact (ensures_trivial _).map fun r _ => .moment r.1
      · cases hnumber : number? t with
        | none => exact ensures_error _
        | some r => exact distinct_number? hnumber
    -- A list is read with what stands before in hand, latest first, so that goes into the
    -- hypothesis.
    case items =>
      unfold listItems
      refine (hvalue levels t).bind fun ⟨v, after⟩ hv => (ensures_trivial _).bind fun after _ => ?_
      have hread' : ∀ w ∈ v :: items, w.Distinct := List.forall_mem_cons.2 ⟨hv, hread⟩
      have hlist : Value.Distinct (.list (v :: items).reverse) :=
        .list fun w hw => hread' w (List.mem_reverse.1 hw)
      split
      · exact ensures_ok hlist
      · exact ensures_error _
      · refine (ensures_trivial _).bind fun after _ => ?_
        split
        · exact ensures_ok hlist
        · exact hitems _ _ _ hread'
    case entries =>
      unfold inlineEntries
      refine (hassign levels t).bind fun ⟨⟨path, v⟩, after⟩ hv => (distinct_add hread path hv).bind
        fun read hread' => ?_
      dsimp only
      split
      · exact ensures_ok hread'
      · exact ensures_error _
      · exact hentries _ _ _ hread'
    case assign =>
      unfold assignment
      refine (ensures_trivial _).bind fun ⟨path, after⟩ _ => ?_
      dsimp only
      split
      · exact ensures_error _
      · exact (hvalue _ _).bind fun r hr => ensures_ok hr

/-- The value that a statement assigns holds each key once. -/
def Statement.Distinct : Statement → Prop
  | .assign _ v => v.Distinct
  | .openTable _ | .openItem _ => True

/-- A statement assigns a value that holds each key once. -/
theorem distinct_statement (levels : Nat) (t : Text) :
    Ensures (fun r => r.1.Distinct) (statement levels t) := by
  unfold statement
  dsimp only
  split
  · refine (ensures_trivial _).bind fun _ _ => ?_
    split
    · exact ensures_ok trivial
    · exact ensures_error _
  split
  · refine (ensures_trivial _).bind fun _ _ => ?_
    split
    · exact ensures_ok trivial
    · exact ensures_error _
  · exact ((distinct_values _).2.2.2 levels t).map fun r hr => hr

/-- Every statement of a text assigns a value that holds each key once. -/
theorem distinct_statements (levels fuel : Nat) (t : Text) :
    ∀ s ∈ (statements levels fuel t).1, s.Distinct := by
  induction fuel generalizing t with
  | zero =>
    rw [statements]
    exact fun _ hs => absurd hs List.not_mem_nil
  | succ fuel ih =>
    unfold statements
    split
    · exact fun _ hs => absurd hs List.not_mem_nil
    split
    · exact ih _
    split
    · split
      · exact ih _
      · exact fun _ hs => absurd hs List.not_mem_nil
    split
    · exact fun _ hs => absurd hs List.not_mem_nil
    · rename_i s after hstatement
      have hs : s.Distinct := distinct_statement _ _ _ hstatement
      split
      · exact List.forall_mem_singleton.2 hs
      · exact List.forall_mem_cons.2 ⟨hs, ih _⟩

/-- A statement leaves the table of a document distinct. -/
theorem distinct_apply {d : Document} (hd : Table.Distinct d.table) {s : Statement}
    (hs : s.Distinct) : Ensures (fun d => Table.Distinct d.table) (d.apply s) := by
  cases s with
  | openTable path =>
    unfold Document.apply
    dsimp only
    split
    · exact ensures_error _
    · exact (distinct_changeAt (fun _ ht => ensures_ok ht) _ hd).bind fun t ht => ensures_ok ht
  | openItem path =>
    unfold Document.apply
    dsimp only
    split
    · exact ensures_error _
    · exact (distinct_changeAt (fun _ ht => distinct_appendItem _ ht) _ hd).bind
        fun t ht => ensures_ok ht
  | assign path v =>
    unfold Document.apply
    dsimp only
    split
    · exact ensures_error _
    · exact (distinct_changeAt (fun _ ht => distinct_insertNew hs _ ht) _ hd).bind
        fun t ht => ensures_ok ht

/-- What is read from a document holds each key once. -/
theorem distinct_read (levels : Nat) (t : Text) : Ensures Table.Distinct (read levels t) := by
  have hrun {ss : List Statement} (hss : ∀ s ∈ ss, s.Distinct) {d : Document}
      (hd : Table.Distinct d.table) :
      Ensures (fun d => Table.Distinct d.table) (ss.foldlM Document.apply d) := by
    induction ss generalizing d with
    | nil => exact ensures_ok hd
    | cons s ss ih =>
      rw [List.forall_mem_cons] at hss
      rw [List.foldlM_cons]
      exact (distinct_apply hd hss.1).bind fun d hd => ih hss.2 hd
  unfold read
  dsimp only
  generalize joinLineEnds t = t
  refine (hrun (distinct_statements levels _ t) (d := {}) Table.distinct_nil).bind fun d hd => ?_
  split
  · exact ensures_error _
  · exact ensures_ok hd

end Toml

/-! ## Sources -/

namespace Expansion

variable (env : Environment)

/-- Expansion leaves keys as they are. -/
theorem distinct_expandValue {v : Value} (h : v.Distinct) : (expandValue env v).Distinct := by
  induction h with
  | text t => exact .text _
  | list _ ih =>
    refine .list fun w hw => ?_
    rw [expandItems_eq_map] at hw
    obtain ⟨v, hv, rfl⟩ := List.mem_map.1 hw
    exact ih v hv
  | table hkeys _ ih =>
    refine .table (by rw [keys_expandEntries]; exact hkeys) fun p hp => ?_
    rw [expandEntries_eq_map] at hp
    obtain ⟨e, he, rfl⟩ := List.mem_map.1 hp
    exact ih e he
  | null => exact .null
  | bool b => exact .bool b
  | int n => exact .int n
  | float x => exact .float x
  | moment m => exact .moment m

end Expansion

namespace Source

/-- The source holds each key once: what it reads does, and a fixed table has to. -/
def Distinct : Source → Prop
  | .fixed _ t => t.Distinct
  | .defaults | .document _ | .projectFile _ => True

/-- The defaults hold each key once. -/
theorem distinct_defaultTable : Table.Distinct defaultTable := by
  refine Table.Distinct.sublist (t := Settings.toTable {}) ?_ List.filter_sublist
  have hkeys : Table.keys (Settings.toTable {}) = Settings.Field.all.map Settings.Field.key := rfl
  refine .table (hkeys ▸ Settings.Field.nodup_all.map Settings.Field.key_injective) ?_
  simp only [Settings.toTable, List.forall_mem_cons]
  exact ⟨.text _, .text _, .list nofun, .null, .text _, .null, Table.distinct_nil, nofun⟩

/-- The table of a file holds each key once. -/
theorem distinct_readFile (stack : Stack) (tree : FileTree) (path : Path) :
    Ensures Table.Distinct (readFile stack tree path) := by
  unfold readFile
  split
  · exact ensures_error _
  split
  · exact ensures_error _
  · exact ensures_ok Table.distinct_nil
  split
  · exact ensures_error _
  split
  · rename_i hread
    exact ensures_ok (Toml.distinct_read _ _ _ hread)
  · exact ensures_error _
  · exact ensures_error _
  · exact ensures_error _

/-- The section of a distinct table is distinct. -/
theorem distinct_section? (path : Path) {t : Table} (ht : t.Distinct) :
    Ensures Table.Distinct (section? path t) := by
  unfold section?
  split
  · rename_i tools htools
    have htools : Table.Distinct tools := ht.of_get? htools
    split
    · exact ensures_ok Table.distinct_nil
    · rename_i hs
      exact ensures_ok (htools.of_get? hs)
    · exact ensures_error _
  · exact ensures_ok Table.distinct_nil

/-- What a source contributes holds each key once. -/
theorem distinct_load {s : Source} (hs : s.Distinct) (stack : Stack) (tree : FileTree)
    (env : Environment) : Ensures Table.Distinct (s.load stack tree env) := by
  have hexpand {t : Table} (ht : t.Distinct) : Ensures Table.Distinct (expand stack env t) := by
    have h := Expansion.distinct_expandValue env ht
    rw [Expansion.expandValue] at h
    unfold expand
    split
    · exact ensures_error _
    · exact ensures_ok h
  cases s with
  | defaults => exact ensures_ok distinct_defaultTable
  | fixed name t => exact ensures_ok hs
  | document path => exact (distinct_readFile stack tree path).bind fun t ht => hexpand ht
  | projectFile path =>
    exact (distinct_readFile stack tree path).bind fun t ht =>
      (distinct_section? path ht).bind fun s hs => hexpand hs

end Source

end LiveLint
