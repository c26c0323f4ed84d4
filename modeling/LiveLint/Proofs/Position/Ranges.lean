import LiveLint.Proofs.Issue.Serialization
import LiveLint.Proofs.Position.Places
import LiveLint.Proofs.Position.Selection

/-!
# Ranges fit the buffer and one line

A linter may point anywhere: before the text or far behind it, at columns that do not exist or that
are the wrong way round. The issue has a range all the same (`Mapper.ranges_fit_one_line`): the
checks of loose values accept it, it lies in the text, and it covers no end of a line. Both of its
ends stand for columns of one line (`Position.exists_nearest`), and the way from indices to offsets
keeps their order, so that the later of two columns has the later offset in every unit
(`Position.offset_max`).
-/

namespace LiveLint

/-- The lines of a proper layout hold nothing that ends a line. -/
theorem Layout.Proper.unbroken {L : Layout} (h : L.Proper) {line : Text} (hline : line ∈ L.lines) :
    Line.Unbroken line := by
  induction L with
  | last only =>
    rw [List.mem_singleton.1 hline]
    exact h
  | ended first terminator rest ih =>
    rcases List.mem_cons.1 hline with rfl | hline
    · exact h.1
    · exact ih h.2.2 hline

namespace Position

/-- The later of two indices has the greater offset. -/
theorem offset_max (u : OffsetUnit) (t : Text) (i j : Nat) :
    offset u t (max i j) = max (offset u t i) (offset u t j) := (offset_mono u t).map_max

/-- What lies between two indices in a line has no end of a line in it. -/
theorem unbroken_slice {t : Text} {n : Nat} {l : Line} (hl : (Line.ofText t)[n]? = some l)
    {i j : Nat} (hi : l.start ≤ i) (hij : i ≤ j) (hj : j ≤ l.stop) :
    Line.Unbroken ((t.drop i).take (j - i)) := by
  obtain ⟨line, before, after, hline, htext, rfl⟩ := Layout.exists_line hl
  obtain ⟨a, rfl⟩ := Nat.exists_eq_add_of_le hi
  obtain ⟨b, rfl⟩ := Nat.exists_eq_add_of_le (hi.trans hij)
  dsimp only at hi hij hj ⊢
  rw [htext, slice_line before line after (by omega) (by omega)]
  intro c hc
  exact (Layout.proper_ofText t).unbroken (List.mem_of_getElem? hline) c
    (List.mem_of_mem_drop (List.mem_of_mem_take hc))

/-- A text falls into what is in front of a range, what the range covers, and what is behind it. -/
theorem exists_covered (u : OffsetUnit) (t : Text) {i j : Nat} (h : i ≤ j) :
    ∃ front back, t = front ++ (t.drop i).take (j - i) ++ back ∧
      (u.encode front).length = offset u t i ∧
      (u.encode (front ++ (t.drop i).take (j - i))).length = offset u t j := by
  have hfront := t.take_append_take_drop h
  refine ⟨t.take i, t.drop j, ?_, length_encode_take u t i, ?_⟩
  · rw [hfront, List.take_append_drop]
  · rw [hfront, length_encode_take]

end Position

/-- The checks of loose values accept offsets that are in order. -/
theorem TextRange.ofTable_eq_ok {start stop : Nat} (h : start ≤ stop) :
    TextRange.ofTable [("start", .int start), ("end", .int stop)] = .ok ⟨start, stop, h⟩ :=
  Diagnostic.ofValue_range ⟨start, stop, h⟩

/-- Wherever a linter points, the issue has a range, and a diagnostic: the checks of loose values
accept what is made of its coordinates. The range lies in the text as it is encoded, and what it
covers belongs to one line; it covers nothing when the columns are not in order. -/
theorem Mapper.ranges_fit_one_line {m : Mapper} (hm : m.Sane) (t : Text) (i : Issue) :
    let start := (m.resolve t i.line i.startColumn).1
    let stop := max start (m.resolve t i.line i.endColumn).1
    let place := (m.lineColumn t i.line i.startColumn).1
    let range := (m.resolveRange t i).1
    TextRange.ofTable [("start", .int start), ("end", .int stop)] = .ok range ∧
      Diagnostic.ofTable
        [("range", range.toValue), ("line", .int place.1), ("column", .int place.2),
         ("severity", .text i.severity.name), ("message", .text i.message),
         ("code", Value.ofOption .text i.code)] = .ok (m.toDiagnostic t i).1 ∧
      range.start ≤ range.stop ∧ range.stop ≤ (m.unit.encode t).length ∧
      (∃ front covered back, t = front ++ covered ++ back ∧
        (m.unit.encode front).length = range.start ∧
        (m.unit.encode (front ++ covered)).length = range.stop ∧ Line.Unbroken covered) ∧
      (i.endColumn ≤ i.startColumn → range.start = range.stop) := by
  intro start stop place range
  have haligned := Line.aligned_ofText t
  obtain ⟨n, l, hl, hnearest⟩ := Position.exists_nearest haligned i.line
  let first := Position.index t.length (Line.ofText t) i.line i.startColumn
  let second := Position.index t.length (Line.ofText t) i.line i.endColumn
  -- The offsets are those of two positions in the text, and the later of two positions has the
  -- larger offset. All parts are read off the positions.
  have hstart : start = Position.offset m.unit t first := hm.resolve_eq t _ _
  have hstop : stop = Position.offset m.unit t (max first second) := by
    rw [Position.offset_max, ← hstart]
    exact congrArg (max start) (hm.resolve_eq t _ _)
  have hrange : range = Position.range m.unit t first second := (hm.resolveRange t i).1
  have horder : first ≤ max first second := Nat.le_max_left _ _
  refine ⟨?_, ?_, range.start_le_stop, ?_, ?_, fun hcolumns => ?_⟩
  · have hofTable := TextRange.ofTable_eq_ok
      ((Position.offset_mono m.unit t) horder)
    rw [hstart, hstop, hrange]
    exact hofTable
  · have hplace : place = Position.clamp t.length (Line.ofText t) i.line i.startColumn :=
      (hm.lineColumn t _ _).1
    have hfields := Diagnostic.ofTable_fields (m.toDiagnostic t i).1
    rw [(hm.toDiagnostic_eq t i).1] at hfields ⊢
    rw [hplace, hrange]
    exact hfields
  · rw [hrange, m.unit.length_encode]
    exact Position.offset_le_measure m.unit t _
  · obtain ⟨front, back, htext, hfront, hcovered⟩ := Position.exists_covered m.unit t horder
    rw [hrange]
    refine ⟨front, _, back, htext, hfront, hcovered, ?_⟩
    exact Position.unbroken_slice hl (hnearest _).1 horder
      (Nat.max_le.2 ⟨(hnearest _).2.1, (hnearest _).2.1⟩)
  · have hsame : max first second = first :=
      Nat.max_eq_left (Position.index_mono_column haligned i.line hcolumns)
    rw [hrange]
    exact congrArg (Position.offset m.unit t) hsame.symm

/-- Columns the wrong way round, far behind a line with an emoji in it. -/
theorem Mapper.inverted_columns_cover_nothing :
    let m : Mapper := { unit := .utf8 }
    let t : Text := "a\r\n😀"
    let i : Issue := ⟨2, 9, -4, "x", .warning, none⟩
    let range := (m.resolveRange t i).1
    m.Sane ∧ i.endColumn ≤ i.startColumn ∧ range.start = range.stop ∧
      (range.start, (m.unit.encode t).length) = (7, 7) ∧
      TextRange.ofTable [("start", .int 7), ("end", .int 7)] = .ok range := by
  intro m t i range
  have hm : m.Sane := sane_fresh .utf8
  obtain ⟨hrange, -, -, -, -, hempty⟩ := ranges_fit_one_line hm t i
  exact ⟨hm, by decide, hempty (by decide), by decide, hrange⟩

end LiveLint
