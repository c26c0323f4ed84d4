import LiveLint.Diagnostic
import LiveLint.Proofs.Json.RoundTrip
import LiveLint.Proofs.Validation

/-!
# Serialised diagnostics

A list of diagnostics is one JSON text, and the text is read back as the values of the diagnostics
(`Diagnostic.written_diagnostics_read_back`). Each value is that of one diagnostic alone, since the
checks of loose values find the diagnostic again (`Diagnostic.ofTable_fields`).
-/

namespace LiveLint

namespace Diagnostic

/-- The reader takes the texts and the integers of the diagnostic as they are written. -/
structure Exchangeable (d : Diagnostic) : Prop where
  start : Json.Short d.range.start
  stop : Json.Short d.range.stop
  line : ∀ n ∈ d.line, Json.Short n
  column : ∀ n ∈ d.column, Json.Short n
  message : d.message.Joined
  code : ∀ t ∈ d.code, t.Joined

/-- The entries of the serialised form. -/
def fields (d : Diagnostic) : Table :=
  [("range", d.range.toValue), ("line", Value.ofOption .int d.line),
   ("column", Value.ofOption .int d.column), ("severity", .text d.severity.name),
   ("message", .text d.message), ("code", Value.ofOption .text d.code)]

/-! ## The diagnostic of a value -/

/-- A severity is read back from its name. -/
theorem severity_name (s : Severity) : Validation.severity (.text s.name) = .ok s := by
  cases s <;> rfl

/-- A range is read back from its object. -/
theorem ofValue_range (r : TextRange) : TextRange.ofValue r.toValue = .ok r := by
  have hbetween : TextRange.between r.start r.stop = .ok r := dif_pos r.start_le_stop
  rw [← hbetween]
  rfl

/-- The checks of loose values find the diagnostic of its entries. -/
theorem ofTable_fields (d : Diagnostic) : ofTable d.fields = .ok d := by
  have hinteger (o : Option Int) :=
    Validation.nullable_ofOption Validation.integer .int nofun fun n (_ : n ∈ o) => rfl
  have htext (o : Option Text) :=
    Validation.nullable_ofOption Validation.text .text nofun fun t (_ : t ∈ o) => rfl
  have hrange : Validation.required d.fields "range" TextRange.ofValue = .ok d.range := by
    change Checked.inField _ (TextRange.ofValue d.range.toValue) = _
    rw [ofValue_range]
    rfl
  have hseverity : Validation.required d.fields "severity" Validation.severity
      = .ok d.severity := by
    change Checked.inField _ (Validation.severity (.text d.severity.name)) = _
    rw [severity_name]
    rfl
  have hcode : Validation.withDefault d.fields "code" none (Validation.nullable Validation.text)
      = .ok d.code := by
    change Checked.inField _ (Validation.nullable _ (Value.ofOption .text d.code)) = _
    rw [htext]
    rfl
  have hline : Validation.withDefault d.fields "line" none (Validation.nullable Validation.integer)
      = .ok d.line := by
    change Checked.inField _ (Validation.nullable _ (Value.ofOption .int d.line)) = _
    rw [hinteger]
    rfl
  have hcolumn : Validation.withDefault d.fields "column" none
      (Validation.nullable Validation.integer) = .ok d.column := by
    change Checked.inField _ (Validation.nullable _ (Value.ofOption .int d.column)) = _
    rw [hinteger]
    rfl
  rw [ofTable, hrange, hseverity, hcode, hline, hcolumn]
  rfl

/-- Different diagnostics have different objects. -/
theorem toValue_injective : Function.Injective toValue := by
  intro d e h
  have hfields : d.fields = e.fields := Value.table.inj h
  have hfound : Except.ok d = (Except.ok e : Checked Diagnostic) := by
    rw [← ofTable_fields d, hfields, ofTable_fields e]
  exact Except.ok.inj hfound

/-! ## The text of a list -/

/-- What may be absent can be read back if it can where it is there. -/
theorem portable_ofOption {α : Type} {wrap : α → Value} {o : Option α}
    (h : ∀ a ∈ o, Json.Portable (wrap a)) : Json.Portable (Value.ofOption wrap o) := by
  cases o with
  | none => exact .null
  | some a => exact h a rfl

/-- The names of severities hold no surrogates. -/
theorem joined_name (s : Severity) : s.name.Joined := by
  cases s <;> decide

/-- A table with keys that are known. -/
theorem portable_of_keys (keys : List Text) (hdistinct : keys.Nodup)
    (hjoined : ∀ key ∈ keys, key.Joined) {entries : Table} (hkeys : entries.keys = keys)
    (h : ∀ p ∈ entries, Json.Portable p.2) : Json.Portable (.table entries) := by
  subst hkeys
  exact .table hdistinct (fun p hp => hjoined p.1 (List.mem_map_of_mem hp)) h

/-- A range with numbers of few digits can be read back. -/
theorem portable_range {r : TextRange} (hstart : Json.Short r.start) (hstop : Json.Short r.stop) :
    Json.Portable r.toValue := by
  refine portable_of_keys ["start", "end"] (by decide) (by decide) rfl ?_
  intro p hp
  simp only [List.mem_cons, List.not_mem_nil, or_false] at hp
  rcases hp with rfl | rfl
  · exact .int hstart
  · exact .int hstop

/-- The object of an exchangeable diagnostic can be read back. -/
theorem Exchangeable.portable {d : Diagnostic} (h : d.Exchangeable) : Json.Portable d.toValue := by
  have hkeys : d.fields.keys = ["range", "line", "column", "severity", "message", "code"] := rfl
  refine portable_of_keys _ (by decide) (by decide) hkeys ?_
  intro p hp
  simp only [List.mem_cons, List.not_mem_nil, or_false] at hp
  rcases hp with rfl | rfl | rfl | rfl | rfl | rfl
  · exact portable_range h.start h.stop
  · exact portable_ofOption fun n hn => .int (h.line n hn)
  · exact portable_ofOption fun n hn => .int (h.column n hn)
  · exact .text (joined_name d.severity)
  · exact .text h.message
  · exact portable_ofOption fun t ht => .text (h.code t ht)

/-- The list of exchangeable diagnostics can be read back. -/
theorem portable_toValues {ds : List Diagnostic} (h : ∀ d ∈ ds, d.Exchangeable) :
    Json.Portable (.list (ds.map toValue)) := by
  refine .list ?_
  intro v hv
  obtain ⟨d, hd, rfl⟩ := List.mem_map.1 hv
  exact (h d hd).portable

/-- Diagnostics are read back from their text, in order and in every layout, and no two diagnostics
have the same value. The text is ASCII, and on one line when there is no indent. -/
theorem written_diagnostics_read_back {ds : List Diagnostic} (h : ∀ d ∈ ds, d.Exchangeable)
    (indent : Option Int) :
    Json.read (writeAll ds indent) = .ok (.list (ds.map toValue)) ∧
      Function.Injective toValue ∧
      (∀ c ∈ writeAll ds indent, c.val < 0x80) ∧
      (indent = none → ∀ c ∈ writeAll ds indent, 0x20 ≤ c.val) := by
  have hportable := portable_toValues h
  refine ⟨hportable.read_writeAt (.ofIndent indent) 0, toValue_injective, ?_, ?_⟩
  · intro c hc
    rcases hportable.allows_of_mem_writeAt hc with hprintable | ⟨rfl, -⟩
    · have hlt := hprintable.2
      omega
    · decide
  · rintro rfl c hc
    rcases hportable.allows_of_mem_writeAt hc with hprintable | ⟨-, hline⟩
    · exact hprintable.1
    · exact absurd rfl hline

/-- Half of a surrogate pair, a quotation mark, a control and a code point with a pair of its
own. -/
def awkward : Diagnostic :=
  ⟨⟨0, 7, by decide⟩, .error, [⟨0xDC00, by decide⟩, .ofChar '"', ⟨0x1F600, by decide⟩,
    .ofChar '\n', ⟨0xD800, by decide⟩], some [.ofChar '\\', ⟨0x7F, by decide⟩], some (-3), none⟩

/-- The diagnostic with awkward texts is exchangeable. -/
theorem exchangeable_awkward : awkward.Exchangeable where
  start := by decide
  stop := by decide
  line := by decide
  column := nofun
  message := by decide
  code := by decide

/-- Two diagnostics with awkward texts come back from the text that is written. -/
theorem awkward_diagnostics_read_back :
    (∀ d ∈ [awkward, awkward], d.Exchangeable) ∧
      Json.read (writeAll [awkward, awkward] (some 2))
        = .ok (.list [awkward.toValue, awkward.toValue]) ∧
      (∀ c ∈ writeAll [awkward, awkward] none, 0x20 ≤ c.val) := by
  have hall : ∀ d ∈ [awkward, awkward], d.Exchangeable := by
    simp only [List.forall_mem_cons, List.not_mem_nil, false_implies, implies_true, and_true]
    exact ⟨exchangeable_awkward, exchangeable_awkward⟩
  exact ⟨hall, (written_diagnostics_read_back hall (some 2)).1,
    (written_diagnostics_read_back hall none).2.2.2 rfl⟩

end Diagnostic

end LiveLint
