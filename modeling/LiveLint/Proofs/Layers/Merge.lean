import Mathlib.Data.List.DropRight
import LiveLint.Proofs.Layers.Distinct

/-!
# Tables laid over one another

What stands under a key when tables are laid over one another (`Layers.get?_pile`) is made of the
values that the tables have there, from the lowest to the highest. Tables among them are merged, so
that only a value that is no table is the value of one layer, the last that has the key
(`Layers.pileValues_eq_getLast?`); what stands inside a table that was merged comes from the layers
since the last one that had something else in its place (`Layers.field?_pile`).
-/

namespace LiveLint

/-! ## Two layers -/

namespace Value

/-- The value is a table. -/
def isTable : Value → Bool
  | .table _ => true
  | _ => false

/-- What is laid over nothing stays as it is. -/
theorem overlay_none (v : Value) : overlay none v = v := by
  cases v <;> simp only [overlay]

/-- What is no table takes the place of whatever was there. -/
theorem overlay_of_not_isTable {v : Value} (h : v.isTable = false) (old : Option Value) :
    overlay old v = v := by
  cases v with
  | table entries => cases h
  | _ => simp only [overlay]

/-- Whatever a table is laid over, it stays a table. -/
theorem isTable_overlay (old : Option Value) (entries : Table) :
    (overlay old (.table entries)).isTable := by
  unfold overlay
  split <;> rfl

end Value

/-- What the upper table has under a key is laid over what the lower one has there. -/
theorem Table.get?_overlay {entries : Table} (h : entries.keys.Nodup) (base : Table) (key : Text) :
    get? key (overlay base entries)
      = match get? key entries with
        | none => get? key base
        | some v => some (Value.overlay (get? key base) v) := by
  induction entries generalizing base with
  | nil => rw [overlay, get?]
  | cons entry rest ih =>
    obtain ⟨k, v⟩ := entry
    rw [keys, List.map_cons, List.nodup_cons] at h
    rw [overlay, ih h.2, get?, get?_insert]
    by_cases hk : k = key
    · have hrest : get? key rest = none := get?_eq_none_iff.2 (hk ▸ h.1)
      rw [hrest, if_pos hk, if_pos hk, hk]
    · rw [if_neg hk, if_neg hk]

/-- So it is inside of what is under the key, too. -/
theorem Table.field?_overlay {entries : Table} (h : entries.keys.Nodup) (old : Option Value)
    (key : Text) :
    Value.field? key (Value.overlay old (.table entries))
      = match get? key entries with
        | none => old.bind (Value.field? key)
        | some v => some (Value.overlay (old.bind (Value.field? key)) v) := by
  have halone (hold : old.bind (Value.field? key) = none) :
      get? key entries
        = match get? key entries with
          | none => old.bind (Value.field? key)
          | some v => some (Value.overlay (old.bind (Value.field? key)) v) := by
    rw [hold]
    cases get? key entries with
    | none => rfl
    | some v => exact congrArg some (Value.overlay_none v).symm
  rcases old with _ | old
  · rw [Value.overlay]
    · exact halone rfl
    · exact nofun
  · cases old with
    | table base =>
      rw [Value.overlay]
      exact get?_overlay h base key
    | _ =>
      rw [Value.overlay]
      · exact halone rfl
      · exact nofun

/-! ## Any number of layers -/

namespace Layers

/-- Tables laid over one another, the first at the bottom. -/
def pile (layers : List Table) : Table := layers.foldl Table.overlay []

/-- What the layers have under a key, the lowest first. -/
def valuesAt (key : Text) (layers : List Table) : List Value := layers.filterMap (Table.get? key)

/-- Values laid over one another. -/
def pileValues (vs : List Value) : Option Value :=
  vs.foldl (fun old v => some (Value.overlay old v)) none

/-- The last layer is laid over the pile of those before it. -/
theorem pile_concat (layers : List Table) (t : Table) :
    pile (layers ++ [t]) = Table.overlay (pile layers) t := by
  rw [pile, List.foldl_append]
  rfl

/-- The last value is laid over those before it. -/
theorem pileValues_concat (vs : List Value) (v : Value) :
    pileValues (vs ++ [v]) = some (Value.overlay (pileValues vs) v) := by
  rw [pileValues, List.foldl_append]
  rfl

/-- What a pile has under a key depends only on what the layers have there. -/
theorem get?_pile {layers : List Table} (h : ∀ t ∈ layers, t.keys.Nodup) (key : Text) :
    Table.get? key (pile layers) = pileValues (valuesAt key layers) := by
  induction layers using List.reverseRecOn with
  | nil => rfl
  | append_singleton layers t ih =>
    rw [List.forall_mem_append, List.forall_mem_singleton] at h
    rw [pile_concat, Table.get?_overlay h.2, ih h.1, valuesAt, valuesAt, List.filterMap_append]
    cases ht : Table.get? key t with
    | none => rw [List.filterMap_cons_none ht, List.filterMap_nil, List.append_nil]
    | some v => rw [List.filterMap_cons_some ht, List.filterMap_nil, pileValues_concat]

/-- A value that is no table hides what is below it, and comes from one layer. -/
theorem pileValues_eq_getLast? {vs : List Value} (h : ∀ v ∈ pileValues vs, v.isTable = false) :
    pileValues vs = vs.getLast? := by
  cases vs using List.reverseRecOn with
  | nil => rfl
  | append_singleton vs w =>
    have hlast := h _ (pileValues_concat vs w)
    rw [pileValues_concat, List.getLast?_concat]
    cases w with
    | table entries =>
      rw [Value.isTable_overlay] at hlast
      cases hlast
    | _ => rw [Value.overlay_of_not_isTable rfl]

/-- The layers since the last one that has something else than a table under the key. -/
def since (key : Text) (layers : List Table) : List Table :=
  layers.rtakeWhile fun t => (Table.get? key t).all Value.isTable

/-- What stands inside the table under a key. -/
theorem field?_pile {layers : List Table} (h : ∀ t ∈ layers, t.Distinct) (key k : Text) :
    (Table.get? key (pile layers)).bind (Value.field? k)
      = pileValues ((since key layers).filterMap fun t => (Table.get? key t).bind (Value.field? k)) := by
  induction layers using List.reverseRecOn with
  | nil => rfl
  | append_singleton layers t ih =>
    rw [List.forall_mem_append, List.forall_mem_singleton] at h
    obtain ⟨hlayers, ht⟩ := h
    specialize ih hlayers
    rw [pile_concat, Table.get?_overlay ht.nodup, since]
    cases hv : Table.get? key t with
    -- A layer without the key does not count, one with a table there adds to what is below, and any
    -- other value hides it.
    | none =>
      rw [List.rtakeWhile_concat_pos _ _ _ (by rw [hv]; rfl), List.filterMap_append,
        List.filterMap_cons_none (by rw [hv]; rfl), List.filterMap_nil, List.append_nil]
      exact ih
    | some v =>
      cases v with
      | table entries =>
        have hentries : Table.Distinct entries := ht.of_mem (Table.mem_of_get? hv)
        rw [List.rtakeWhile_concat_pos _ _ _ (by rw [hv]; rfl), List.filterMap_append]
        dsimp only [Option.bind_some]
        rw [Table.field?_overlay hentries.nodup, ih]
        cases hk : Table.get? k entries with
        | none =>
          rw [List.filterMap_cons_none (by rw [hv]; exact hk), List.filterMap_nil, List.append_nil]
          rfl
        | some w =>
          rw [List.filterMap_cons_some (by rw [hv]; exact hk), List.filterMap_nil,
            pileValues_concat]
          rfl
      | _ =>
        rw [List.rtakeWhile_concat_neg _ _ _ (by rw [hv]; exact nofun)]
        simp only [Value.overlay]
        rfl

end Layers

end LiveLint
