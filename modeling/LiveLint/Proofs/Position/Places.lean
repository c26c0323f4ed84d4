import Mathlib.Order.Monotone.Basic
import LiveLint.Proofs.Position.Layout
import LiveLint.Proofs.Position.Memory

/-!
# Places in a text

The lines of a text stand in a row (`Line.Aligned`), and a line and column that a linter names stand
for an index in the line nearest to the named one (`Position.exists_nearest`). So the line and
column that stand for them are a place in the text (`Position.exists_clamp`), and the range of an
issue lies between the ends of the text (`Position.offset_le_measure`).
-/

namespace LiveLint

/-! ## Lines in a row -/

/-- The lines of a text of this length: the first one begins where the text does, the last one ends
where it does, and each begins behind the end of the one before it. -/
structure Line.Aligned (length : Nat) (lines : List Line) : Prop where
  first : lines.head?.map Line.start = some 0
  last : lines.getLast?.map Line.stop = some length
  ordered : ∀ l ∈ lines, l.start ≤ l.stop
  apart : lines.Pairwise fun l l' => l.stop < l'.start

/-- Every terminator has some code points. -/
theorem Terminator.length_pos (terminator : Terminator) : 0 < terminator.text.length := by
  cases terminator <;> decide

namespace Layout

/-- A layout has bounds for each of its lines. -/
theorem length_spans (L : Layout) (start : Nat) : (L.spans start).length = L.lines.length := by
  induction L generalizing start with
  | last line => rfl
  | ended line terminator rest ih =>
    rw [spans, lines, List.length_cons, List.length_cons, ih]

/-- A text has one line more than it has code points, at most. -/
theorem length_lines_le (L : Layout) : L.lines.length ≤ L.text.length + 1 := by
  induction L with
  | last line => exact Nat.le_add_left _ _
  | ended line terminator rest ih =>
    have hterminator := terminator.length_pos
    rw [lines, text, List.length_cons, List.length_append, List.length_append]
    omega

/-- The first line begins where the text does. -/
theorem head?_spans (L : Layout) (start : Nat) :
    (L.spans start).head?.map Line.start = some start := by
  cases L <;> rfl

/-- The last line ends where the text does. -/
theorem getLast?_spans (L : Layout) (start : Nat) :
    (L.spans start).getLast?.map Line.stop = some (start + L.text.length) := by
  induction L generalizing start with
  | last line => rfl
  | ended line terminator rest ih =>
    obtain ⟨l, hl, hstop⟩ := Option.map_eq_some_iff.1 (ih (start + line.length + terminator.text.length))
    rw [spans, List.getLast?_cons, hl, Option.getD_some, Option.map_some, hstop, text]
    simp only [List.length_append, Nat.add_assoc]

/-- No line begins before the first one does, or ends before it begins. -/
theorem bounds_of_mem_spans {L : Layout} {start : Nat} {l : Line} (hl : l ∈ L.spans start) :
    start ≤ l.start ∧ l.start ≤ l.stop := by
  induction L generalizing start with
  | last line =>
    rw [List.mem_singleton.1 hl]
    exact ⟨Nat.le_refl _, Nat.le_add_right _ _⟩
  | ended line terminator rest ih =>
    rcases List.mem_cons.1 hl with rfl | hl
    · exact ⟨Nat.le_refl _, Nat.le_add_right _ _⟩
    · obtain ⟨hstart, hordered⟩ := ih hl
      exact ⟨by omega, hordered⟩

/-- Between two lines there is a terminator. -/
theorem apart_spans (L : Layout) (start : Nat) :
    (L.spans start).Pairwise fun l l' => l.stop < l'.start := by
  induction L generalizing start with
  | last line => exact List.pairwise_singleton _ _
  | ended line terminator rest ih =>
    refine List.pairwise_cons.2 ⟨fun l hl => ?_, ih _⟩
    have hstart := (bounds_of_mem_spans hl).1
    have hterminator := terminator.length_pos
    dsimp only
    omega

/-- The line that bounds belong to, and what is around it. -/
theorem exists_line {t : Text} {n : Nat} {l : Line} (hl : (Line.ofText t)[n]? = some l) :
    ∃ line before after, (ofText t).lines[n]? = some line ∧ t = before ++ line ++ after ∧
      l = ⟨before.length, before.length + line.length⟩ := by
  rw [lineBounds_eq_spans] at hl
  have hlt : n < (ofText t).lines.length := by
    rw [← length_spans _ 0]
    exact (List.getElem?_eq_some_iff.1 hl).1
  have hline := List.getElem?_eq_getElem hlt
  obtain ⟨before, after, htext, hspan⟩ := exists_around hline 0
  rw [text_ofText] at htext
  rw [hl, Nat.zero_add] at hspan
  exact ⟨_, before, after, hline, htext, Option.some.inj hspan⟩

end Layout

/-- The lines of a text are at most one more than its code points. -/
theorem Line.length_ofText_le (t : Text) : (Line.ofText t).length ≤ t.length + 1 := by
  have hlines := (Layout.ofText t).length_lines_le
  rwa [← Layout.length_spans _ 0, ← Layout.lineBounds_eq_spans, Layout.text_ofText] at hlines

/-- The lines of a text are aligned with it. -/
theorem Line.aligned_ofText (t : Text) : Line.Aligned t.length (Line.ofText t) := by
  rw [Layout.lineBounds_eq_spans]
  refine ⟨Layout.head?_spans _ 0, ?_, fun l hl => (Layout.bounds_of_mem_spans hl).2,
    Layout.apart_spans _ 0⟩
  rw [Layout.getLast?_spans, Layout.text_ofText, Nat.zero_add]

namespace Line.Aligned

variable {length : Nat} {lines : List Line}

/-- A line ends before any later one begins. -/
theorem stop_lt_start (h : Aligned length lines) {n n' : Nat} {l l' : Line}
    (hl : lines[n]? = some l) (hl' : lines[n']? = some l') (hlt : n < n') : l.stop < l'.start := by
  obtain ⟨hn, rfl⟩ := List.getElem?_eq_some_iff.1 hl
  obtain ⟨hn', rfl⟩ := List.getElem?_eq_some_iff.1 hl'
  exact List.pairwise_iff_getElem.1 h.apart n n' hn hn' hlt

/-- No line goes beyond the text. -/
theorem stop_le (h : Aligned length lines) {n : Nat} {l : Line} (hl : lines[n]? = some l) :
    l.stop ≤ length := by
  obtain ⟨last, hlast, hlength⟩ := Option.map_eq_some_iff.1 h.last
  rw [List.getLast?_eq_getElem?] at hlast
  have hn := (List.getElem?_eq_some_iff.1 hl).1
  rcases Nat.eq_or_lt_of_le (Nat.le_pred_of_lt hn) with heq | hlt
  · rw [heq] at hl
    cases hl.symm.trans hlast
    exact Nat.le_of_eq hlength
  · have hapart := h.stop_lt_start hl hlast hlt
    have hordered := h.ordered last (List.mem_of_getElem? hlast)
    omega

end Line.Aligned

/-- The index in a line that a column stands for. -/
def Line.place (l : Line) (column : Int) : Nat :=
  if column < 1 then l.start else min (l.start + column.toNat - 1) l.stop

/-- A later column stands for no earlier index. -/
theorem Line.place_mono (l : Line) (hl : l.start ≤ l.stop) {c c' : Int} (h : c ≤ c') :
    l.place c ≤ l.place c' := by
  unfold Line.place
  split_ifs <;> omega

/-- Every column stands for an index in the line or at its end. -/
theorem Line.place_bounds (l : Line) (hl : l.start ≤ l.stop) (column : Int) :
    l.start ≤ l.place column ∧ l.place column ≤ l.stop := by
  unfold Line.place
  split_ifs <;> omega

namespace Position

open Line (Aligned)

/-! ## The nearest line -/

section

variable {length : Nat} {lines : List Line} {line : Int}

/-- A line before the first one stands for the start of the text. -/
theorem index_of_lt_one (h : Aligned length lines) (hline : line < 1) (column : Int) :
    index length lines line column = 0 := by
  rw [index, if_pos hline, h.first, Option.getD_some]

/-- A line behind the last one stands for the end of the text. -/
theorem index_of_length_lt (hline : (lines.length : Int) < line) (column : Int) :
    index length lines line column = length := by
  rw [index, if_neg (by omega), List.getElem?_eq_none (by omega)]

/-- A column of a line that exists stands for an index in that line. -/
theorem index_of_line_eq {n : Nat} {l : Line} (hl : lines[n]? = some l) (hline : line = (n + 1 : Nat))
    (column : Int) : index length lines line column = l.place column := by
  have hn : line.toNat - 1 = n := by omega
  rw [index, if_neg (by omega), hn, hl, Line.place]

/-- A place is shown with the number of its line, and with the column of its index in it. -/
theorem clamp_of_getElem? {n : Nat} {l : Line} (hl : lines[n]? = some l)
    (hnumber : (if (lines.length : Int) < line then lines.length else (max line 1).toNat) = n + 1)
    (column : Int) :
    clamp length lines line column = (n + 1, index length lines line column - l.start + 1) := by
  rw [clamp, hnumber, Nat.add_sub_cancel, hl, Option.map_some, Option.getD_some]

/-- A column further left stands for no later index. -/
theorem index_mono_column (h : Aligned length lines) (line : Int) {c c' : Int} (hc : c ≤ c') :
    index length lines line c ≤ index length lines line c' := by
  by_cases hbefore : line < 1
  · rw [index_of_lt_one h hbefore, index_of_lt_one h hbefore]
  by_cases hbeyond : (lines.length : Int) < line
  · rw [index_of_length_lt hbeyond, index_of_length_lt hbeyond]
  · have hl : lines[line.toNat - 1]? = some lines[line.toNat - 1] := List.getElem?_eq_getElem (by omega)
    rw [index_of_line_eq hl (by omega), index_of_line_eq hl (by omega)]
    exact Line.place_mono _ (h.ordered _ (List.mem_of_getElem? hl)) hc

/-- Whatever line is named, there is one that stands for it, and it holds what stands for any column
of the named line. -/
theorem exists_nearest (h : Aligned length lines) (line : Int) :
    ∃ n l, lines[n]? = some l ∧ ∀ column,
      l.start ≤ index length lines line column ∧ index length lines line column ≤ l.stop ∧
        clamp length lines line column = (n + 1, index length lines line column - l.start + 1) := by
  obtain ⟨first, hfirst, hzero⟩ := Option.map_eq_some_iff.1 h.first
  rw [List.head?_eq_getElem?] at hfirst
  obtain ⟨last, hlast, hlength⟩ := Option.map_eq_some_iff.1 h.last
  rw [List.getLast?_eq_getElem?] at hlast
  have hpos := (List.getElem?_eq_some_iff.1 hfirst).1
  by_cases hbefore : line < 1
  · refine ⟨0, first, hfirst, fun column => ?_⟩
    rw [clamp_of_getElem? hfirst (by rw [if_neg (by omega)]; omega), index_of_lt_one h hbefore]
    exact ⟨Nat.le_of_eq hzero, Nat.zero_le _, rfl⟩
  by_cases hbeyond : (lines.length : Int) < line
  · refine ⟨lines.length - 1, last, hlast, fun column => ?_⟩
    rw [clamp_of_getElem? hlast (by rw [if_pos hbeyond]; omega), index_of_length_lt hbeyond]
    have hordered := h.ordered last (List.mem_of_getElem? hlast)
    exact ⟨hlength ▸ hordered, Nat.le_of_eq hlength.symm, rfl⟩
  · have hl : lines[line.toNat - 1]? = some lines[line.toNat - 1] := List.getElem?_eq_getElem (by omega)
    refine ⟨line.toNat - 1, _, hl, fun column => ?_⟩
    rw [clamp_of_getElem? hl (by rw [if_neg hbeyond]; omega), index_of_line_eq hl (by omega)]
    obtain ⟨hstart, hstop⟩ := Line.place_bounds _ (h.ordered _ (List.mem_of_getElem? hl)) column
    exact ⟨hstart, hstop, rfl⟩

/-- No place stands for an index beyond the text. -/
theorem index_le_length (h : Aligned length lines) (line column : Int) :
    index length lines line column ≤ length := by
  obtain ⟨n, l, hl, hnearest⟩ := exists_nearest h line
  exact (hnearest column).2.1.trans (h.stop_le hl)

/-- The line and column that are shown are bounded by the text. -/
theorem clamp_le (h : Aligned length lines) (line column : Int) :
    (clamp length lines line column).1 ≤ lines.length ∧
      (clamp length lines line column).2 ≤ length + 1 := by
  obtain ⟨n, l, hl, hnearest⟩ := exists_nearest h line
  obtain ⟨-, hstop, hclamp⟩ := hnearest column
  have hn := (List.getElem?_eq_some_iff.1 hl).1
  have hle := h.stop_le hl
  rw [hclamp]
  exact ⟨hn, by dsimp only; omega⟩

end

/-! ## Existing places -/

/-- There is such a line, and such a column in it or directly behind it. -/
def Exists (t : Text) (line column : Nat) : Prop :=
  1 ≤ line ∧ 1 ≤ column ∧
    ∃ l, (Layout.ofText t).lines[line - 1]? = some l ∧ column ≤ l.length + 1

/-- The bounds of a line tell which places it has. -/
theorem exists_iff {t : Text} {n : Nat} {l : Line} (hl : (Line.ofText t)[n]? = some l)
    (column : Nat) : Exists t (n + 1) column ↔ 1 ≤ column ∧ l.start + column ≤ l.stop + 1 := by
  obtain ⟨line, before, -, hline, -, rfl⟩ := Layout.exists_line hl
  unfold Exists
  rw [Nat.add_sub_cancel, hline]
  constructor
  · rintro ⟨-, hcolumn, _, ⟨⟩, hle⟩
    exact ⟨hcolumn, by dsimp only; omega⟩
  · rintro ⟨hcolumn, hle⟩
    exact ⟨Nat.le_add_left _ _, hcolumn, _, rfl, by dsimp only at hle; omega⟩

/-- The line and column that are shown exist. -/
theorem exists_clamp (t : Text) (line column : Int) :
    Exists t (clamp t.length (Line.ofText t) line column).1
      (clamp t.length (Line.ofText t) line column).2 := by
  obtain ⟨n, l, hl, hnearest⟩ := exists_nearest (Line.aligned_ofText t) line
  obtain ⟨hstart, hstop, hclamp⟩ := hnearest column
  rw [hclamp, exists_iff hl]
  omega

/-! ## Offsets -/

/-- A later index has no smaller offset. -/
theorem offset_mono (u : OffsetUnit) (t : Text) : Monotone (offset u t) :=
  fun _ _ h => u.measure_take_le t h

/-- No index is beyond the end. -/
theorem offset_le_measure (u : OffsetUnit) (t : Text) (i : Nat) : offset u t i ≤ u.measure t := by
  have hsplit := u.measure_append (t.take i) (t.drop i)
  rw [List.take_append_drop] at hsplit
  rw [offset, hsplit]
  exact Nat.le_add_right _ _

end Position

end LiveLint
