import Mathlib.Data.Prod.Lex
import LiveLint.Proofs.Position.Places
import LiveLint.Proofs.Position.Selection

/-!
# Places and their offsets

A place of a text is an existing line and a column in it or right behind it. The place that is shown
for a line and column is where these are resolved to (`Mapper.shown_place_is_resolved_place`).
Further on in the text means a later offset, and every index is the offset of one place, but for
those within a CR LF, which are offsets of none (`Mapper.places_ordered_and_counted_once`).

Both rest on the lines standing in a row: what stands for a place of an earlier line lies in front
of the end of that line, and so in front of every later one.
-/

namespace LiveLint

open Line (Aligned Unbroken carriageReturn lineFeed)

/-! ## Indices in order -/

namespace Position

section

variable {length : Nat} {lines : List Line}

/-- Further on in the text there is no earlier index. -/
theorem index_mono (h : Aligned length lines) {line column line' column' : Int}
    (hle : line < line' ∨ line = line' ∧ column ≤ column') :
    index length lines line column ≤ index length lines line' column' := by
  rcases hle with hline | ⟨rfl, hcolumn⟩
  · by_cases hbefore : line < 1
    · rw [index_of_lt_one h hbefore]
      exact Nat.zero_le _
    by_cases hbeyond : (lines.length : Int) < line'
    · rw [index_of_length_lt hbeyond]
      exact index_le_length h line column
    · have hl : lines[line.toNat - 1]? = some _ := List.getElem?_eq_getElem (by omega)
      have hl' : lines[line'.toNat - 1]? = some _ := List.getElem?_eq_getElem (by omega)
      rw [index_of_line_eq hl (by omega), index_of_line_eq hl' (by omega)]
      have hfirst := Line.place_bounds _ (h.ordered _ (List.mem_of_getElem? hl)) column
      have hsecond := Line.place_bounds _ (h.ordered _ (List.mem_of_getElem? hl')) column'
      have hapart := h.stop_lt_start hl hl' (by omega)
      omega
  · exact index_mono_column h line hcolumn

/-- An existing column stands for the index that many behind the beginning of its line. -/
theorem index_of_column {n : Nat} {l : Line} (hl : lines[n]? = some l) {column : Nat}
    (hcolumn : 1 ≤ column) (hle : l.start + column ≤ l.stop + 1) :
    index length lines ((n + 1 : Nat) : Int) (column : Int) = l.start + (column - 1) := by
  rw [index_of_line_eq hl rfl, Line.place, if_neg (by omega)]
  omega

/-- What stands for a line and column stands for the same index. -/
theorem index_clamp (h : Aligned length lines) (line column : Int) :
    index length lines (clamp length lines line column).1 (clamp length lines line column).2
      = index length lines line column := by
  obtain ⟨n, l, hl, hnearest⟩ := exists_nearest h line
  obtain ⟨hstart, hstop, hclamp⟩ := hnearest column
  rw [hclamp, index_of_column hl (by omega) (by omega)]
  omega

/-- What stands for a line and column stands for itself. -/
theorem clamp_clamp (h : Aligned length lines) (line column : Int) :
    clamp length lines (clamp length lines line column).1 (clamp length lines line column).2
      = clamp length lines line column := by
  have hindex := index_clamp h line column
  obtain ⟨n, l, hl, hnearest⟩ := exists_nearest h line
  have hn := (List.getElem?_eq_some_iff.1 hl).1
  rw [(hnearest column).2.2] at hindex ⊢
  rw [clamp_of_getElem? hl (by rw [if_neg (by omega)]; omega), hindex]

end

/-! ## Existing places in order -/

/-- A place in terms of the bounds of its line. -/
theorem Exists.bounds {t : Text} {line column : Nat} (h : Exists t line column) :
    ∃ n l, line = n + 1 ∧ (Line.ofText t)[n]? = some l ∧ 1 ≤ column ∧
      l.start + column ≤ l.stop + 1 := by
  obtain ⟨n, rfl⟩ : ∃ n, line = n + 1 := ⟨line - 1, (Nat.sub_add_cancel h.1).symm⟩
  obtain ⟨line, hline, -⟩ := h.2.2
  rw [Nat.add_sub_cancel] at hline
  obtain ⟨before, after, -, hspan⟩ := Layout.exists_around hline 0
  rw [← Layout.lineBounds_eq_spans] at hspan
  exact ⟨n, _, rfl, hspan, (exists_iff hspan column).1 h⟩

/-- The existing places of a text, line by line. -/
def places (t : Text) : Set (Nat ×ₗ Nat) := {p | Exists t (ofLex p).1 (ofLex p).2}

/-- The index that a place of the text stands for. -/
def indexIn (t : Text) (p : Nat ×ₗ Nat) : Nat := index t.length (Line.ofText t) (ofLex p).1 (ofLex p).2

/-- Every place stands for an index in the text or at its end. -/
theorem indexIn_le_length (t : Text) (p : Nat ×ₗ Nat) : indexIn t p ≤ t.length :=
  index_le_length (Line.aligned_ofText t) _ _

/-- Of two places the one further on stands for the later index. -/
theorem strictMonoOn_indexIn (t : Text) : StrictMonoOn (indexIn t) (places t) := by
  intro p hp q hq hlt
  obtain ⟨n, l, hline, hl, hcolumn, hle⟩ := Exists.bounds hp
  obtain ⟨n', l', hline', hl', hcolumn', hle'⟩ := Exists.bounds hq
  rw [indexIn, indexIn, hline, hline', index_of_column hl hcolumn hle,
    index_of_column hl' hcolumn' hle']
  rcases Prod.Lex.lt_iff.1 hlt with hlines | ⟨hlines, hcolumns⟩
  · have hapart := (Line.aligned_ofText t).stop_lt_start hl hl' (by omega)
    omega
  · obtain rfl : n = n' := by omega
    cases hl.symm.trans hl'
    omega

end Position

namespace OffsetUnit

/-- Every code point has a length in every unit. -/
theorem width_pos (u : OffsetUnit) (c : CodePoint) : 0 < u.width c := by
  cases u <;> simp only [width] <;> (try split_ifs) <;> omega

/-- A text that is not empty has a length in every unit. -/
theorem measure_pos (u : OffsetUnit) {t : Text} (h : t ≠ []) : 0 < u.measure t := by
  cases t with
  | nil => exact absurd rfl h
  | cons c rest => exact Nat.add_pos_left (u.width_pos c) _

end OffsetUnit

namespace Position

/-- No code point has an empty code, so that a later index in the text has a later offset. -/
theorem strictMonoOn_offset (u : OffsetUnit) (t : Text) :
    StrictMonoOn (offset u t) {i | i ≤ t.length} := by
  intro i hi j hj hlt
  have hne : (t.drop i).take (j - i) ≠ [] := by
    rw [← List.length_pos_iff, List.length_take, List.length_drop]
    have hle : j ≤ t.length := hj
    omega
  rw [offset, offset, ← t.take_append_take_drop hlt.le, u.measure_append]
  exact Nat.lt_add_of_pos_right (u.measure_pos hne)

/-- In code points the offset of an index in the text is the index. -/
theorem offset_codePoint {t : Text} {i : Nat} (hi : i ≤ t.length) : offset .codePoint t i = i := by
  rw [← length_encode_take]
  exact List.length_take_of_le hi

/-! ## Every index -/

/-- The index is between a CR and the LF that belongs to it. -/
def InsideCrLf (t : Text) (i : Nat) : Prop :=
  1 ≤ i ∧ t[i - 1]? = some carriageReturn ∧ t[i]? = some lineFeed

instance (t : Text) (i : Nat) : Decidable (InsideCrLf t i) :=
  inferInstanceAs (Decidable (_ ∧ _ ∧ _))

end Position

namespace Layout

open Position (InsideCrLf)

/-- Whether an index behind the front is inside a CR LF depends on the rest alone. -/
theorem insideCrLf_append {front rest : Text} {k : Nat} (hk : 1 ≤ k) :
    InsideCrLf (front ++ rest) (front.length + k) ↔ InsideCrLf rest k := by
  have hbefore : front.length + k - 1 - front.length = k - 1 := by omega
  have hbehind : front.length + k - front.length = k := by omega
  unfold InsideCrLf
  rw [List.getElem?_append_right (by omega), List.getElem?_append_right (by omega), hbefore, hbehind]
  exact and_congr_left' ⟨fun _ => hk, fun _ => by omega⟩

/-- There is no inside to what is in front of a line's end. -/
theorem not_insideCrLf_of_le {line rest : Text} (hline : Unbroken line) {i : Nat}
    (hi : i ≤ line.length) : ¬ InsideCrLf (line ++ rest) i := by
  rintro ⟨hpos, hcr, -⟩
  rw [List.getElem?_append_left (by omega)] at hcr
  exact (hline _ (List.mem_of_getElem? hcr)).1 rfl

/-- An index is in a line or right behind it, or it is inside of a terminator. -/
theorem exists_line_at (L : Layout) (start : Nat) {i : Nat} (hi : i ≤ L.text.length) :
    (∃ (n : Nat) (l : Line), (L.spans start)[n]? = some l ∧
      l.start ≤ start + i ∧ start + i ≤ l.stop) ∨ InsideCrLf L.text i := by
  induction L generalizing start i with
  | last line => exact .inl ⟨0, _, rfl, Nat.le_add_right _ _, Nat.add_le_add_left hi start⟩
  | ended line terminator rest ih =>
    by_cases hfirst : i ≤ line.length
    · exact .inl ⟨0, _, rfl, Nat.le_add_right _ _, Nat.add_le_add_left hfirst start⟩
    rw [text, List.length_append] at hi
    rw [text]
    by_cases hrest : (line ++ terminator.text).length ≤ i
    · obtain ⟨k, rfl⟩ := Nat.exists_eq_add_of_le hrest
      rcases ih (start + line.length + terminator.text.length) (i := k) (by omega) with
        ⟨n, l, hl, hbounds⟩ | hinside
      · rw [List.length_append] at hrest ⊢
        exact .inl ⟨n + 1, l, hl, by omega, by omega⟩
      · exact .inr ((insideCrLf_append hinside.1).2 hinside)
    · -- Only the terminator of two code points has an inside.
      rw [List.length_append] at hrest
      obtain ⟨k, rfl⟩ := Nat.exists_eq_add_of_le (Nat.le_of_not_ge hfirst)
      have hk : 1 ≤ k := by omega
      rw [List.append_assoc]
      refine .inr ((insideCrLf_append hk).2 ?_)
      cases terminator with
      | crLf =>
        obtain rfl : k = 1 := by
          change ¬ line.length + 2 ≤ line.length + k at hrest
          omega
        exact ⟨hk, rfl, rfl⟩
      | cr | lf =>
        change ¬ line.length + 1 ≤ line.length + k at hrest
        omega

/-- No place is inside of a terminator. -/
theorem Proper.not_insideCrLf {L : Layout} (h : L.Proper) {start n i : Nat} {l : Line}
    (hl : (L.spans start)[n]? = some l) (hstart : l.start ≤ start + i)
    (hstop : start + i ≤ l.stop) : ¬ InsideCrLf L.text i := by
  induction L generalizing start n i with
  | last line =>
    cases n with
    | zero =>
      cases hl
      have hunbroken : ¬ InsideCrLf (line ++ []) i :=
        not_insideCrLf_of_le (show Unbroken line from h) (Nat.le_of_add_le_add_left hstop)
      rwa [List.append_nil] at hunbroken
    | succ n => cases hl
  | ended line terminator rest ih =>
    obtain ⟨hline, hcr, hrest⟩ := h
    rw [text, List.append_assoc]
    cases n with
    | zero =>
      cases hl
      exact not_insideCrLf_of_le hline (Nat.le_of_add_le_add_left hstop)
    | succ n =>
      rw [spans, List.getElem?_cons_succ] at hl
      have hbounds := (bounds_of_mem_spans (List.mem_of_getElem? hl)).1
      obtain ⟨k, rfl⟩ : ∃ k, i = line.length + (terminator.text.length + k) :=
        ⟨i - line.length - terminator.text.length, by omega⟩
      have hpos := terminator.length_pos
      rw [insideCrLf_append (by omega)]
      rcases Nat.eq_zero_or_pos k with rfl | hk
      · -- Behind a CR that ends a line no LF follows.
        rintro ⟨-, hlast, hfirst⟩
        rw [Nat.add_zero] at hlast hfirst
        rw [List.getElem?_append_left (by omega)] at hlast
        rw [List.getElem?_append_right (Nat.le_refl _), Nat.sub_self] at hfirst
        cases terminator with
        | cr => exact hcr rfl (List.head?_eq_getElem?.trans hfirst)
        | crLf | lf => exact carriageReturn_ne_lineFeed (Option.some.inj hlast).symm
      · rw [insideCrLf_append hk]
        exact ih hrest hl (by omega) (by omega)

end Layout

/-- An index is that of a place exactly if it is in the text and not inside of a terminator. -/
theorem Position.mem_image_places_iff {t : Text} {i : Nat} :
    i ∈ indexIn t '' places t ↔ i ≤ t.length ∧ ¬ InsideCrLf t i := by
  have htext : (Layout.ofText t).text = t := Layout.text_ofText t
  constructor
  · rintro ⟨p, hp, rfl⟩
    obtain ⟨n, l, hline, hl, hcolumn, hle⟩ := Exists.bounds hp
    have hindex : indexIn t p = l.start + ((ofLex p).2 - 1) := by
      rw [indexIn, hline, index_of_column hl hcolumn hle]
    rw [Layout.lineBounds_eq_spans] at hl
    refine ⟨indexIn_le_length t p, ?_⟩
    have hinside := (Layout.proper_ofText t).not_insideCrLf hl (i := indexIn t p)
      (by omega) (by omega)
    rwa [htext] at hinside
  · rintro ⟨hi, hinside⟩
    have hat := (Layout.ofText t).exists_line_at 0 (i := i) (by rwa [htext])
    rw [htext, ← Layout.lineBounds_eq_spans] at hat
    obtain ⟨n, l, hl, hstart, hstop⟩ := hat.resolve_right hinside
    have hexists : Exists t (n + 1) (i - l.start + 1) := (exists_iff hl _).2 ⟨by omega, by omega⟩
    have hindex : index t.length (Line.ofText t) ((n + 1 : Nat) : Int)
        ((i - l.start + 1 : Nat) : Int) = l.start + (i - l.start + 1 - 1) :=
      index_of_column hl (by omega) (by omega)
    exact ⟨toLex (n + 1, i - l.start + 1), hexists, hindex.trans (by omega)⟩

namespace Mapper

variable {m : Mapper}

/-- The line and column that are shown for a line and column exist, are resolved to the same offset,
and are shown for themselves. So the place that a diagnostic shows is where its range begins. -/
theorem shown_place_is_resolved_place (hm : m.Sane) (t : Text) (line column : Int) :
    let place := (m.lineColumn t line column).1
    Position.Exists t place.1 place.2 ∧
      (m.resolve t place.1 place.2).1 = (m.resolve t line column).1 ∧
      (m.lineColumn t place.1 place.2).1 = place ∧
      ∀ i : Issue, ∃ l c : Nat, (m.toDiagnostic t i).1.line = some (l : Int) ∧
        (m.toDiagnostic t i).1.column = some (c : Int) ∧
        (m.resolve t l c).1 = (m.toDiagnostic t i).1.range.start := by
  intro place
  have haligned := Line.aligned_ofText t
  have hplace : place = Position.clamp t.length (Line.ofText t) line column :=
    (hm.lineColumn t line column).1
  refine ⟨?_, ?_, ?_, fun i => ?_⟩
  · rw [hplace]
    exact Position.exists_clamp t line column
  · rw [hm.resolve_eq, hm.resolve_eq, hplace, Position.index_clamp haligned]
  · rw [(hm.lineColumn t _ _).1, hplace]
    exact Position.clamp_clamp haligned line column
  · rw [(hm.toDiagnostic_eq t i).1]
    refine ⟨_, _, rfl, rfl, ?_⟩
    rw [hm.resolve_eq]
    exact congrArg (Position.offset m.unit t) (Position.index_clamp haligned _ _)

/-- A line behind the last one, which is empty. -/
theorem place_behind_the_end_shown :
    let m : Mapper := { unit := .utf16 }
    let t : Text := "😀\r\n"
    m.Sane ∧ (m.lineColumn t 9 9).1 = (2, 1) ∧ (m.resolve t 2 1).1 = (m.resolve t 9 9).1 ∧
      (m.resolve t 9 9).1 = 4 := by
  intro m t
  have hm : m.Sane := sane_fresh .utf16
  exact ⟨hm, by decide, (shown_place_is_resolved_place hm t 9 9).2.1, by decide⟩

/-- Further on in the text is not at an earlier offset, and further on among existing places is at a
later one, in every unit. In code points, the offsets of existing places are all indices of the text
but those inside of a CR LF, and each is that of one place. -/
theorem places_ordered_and_counted_once (hm : m.Sane) (t : Text) :
    (∀ line column line' column' : Int, line < line' ∨ line = line' ∧ column ≤ column' →
        (m.resolve t line column).1 ≤ (m.resolve t line' column').1) ∧
      StrictMonoOn (fun p : Nat ×ₗ Nat => (m.resolve t (ofLex p).1 (ofLex p).2).1)
        (Position.places t) ∧
      Set.InjOn (fun p : Nat ×ₗ Nat => (m.resolve t (ofLex p).1 (ofLex p).2).1)
        (Position.places t) ∧
      ∀ i, i ≤ t.length ∧ ¬ Position.InsideCrLf t i ↔
        ∃! p, p ∈ Position.places t ∧
          (({ m with unit := .codePoint } : Mapper).resolve t (ofLex p).1 (ofLex p).2).1 = i := by
  have hstrict : StrictMonoOn (fun p : Nat ×ₗ Nat => (m.resolve t (ofLex p).1 (ofLex p).2).1)
      (Position.places t) := by
    intro p hp q hq hlt
    dsimp only
    rw [hm.resolve_eq, hm.resolve_eq]
    exact Position.strictMonoOn_offset m.unit t (Position.indexIn_le_length t p)
      (Position.indexIn_le_length t q) (Position.strictMonoOn_indexIn t hp hq hlt)
  refine ⟨fun line column line' column' hle => ?_, hstrict, hstrict.injOn, fun i => ?_⟩
  · rw [hm.resolve_eq, hm.resolve_eq]
    exact Position.offset_mono m.unit t (Position.index_mono (Line.aligned_ofText t) hle)
  · have hunit : Sane { m with unit := .codePoint } := hm
    have hindex (p : Nat ×ₗ Nat) :
        (({ m with unit := .codePoint } : Mapper).resolve t (ofLex p).1 (ofLex p).2).1
          = Position.indexIn t p :=
      (hunit.resolve_eq t _ _).trans (Position.offset_codePoint (Position.indexIn_le_length t p))
    simp only [hindex]
    -- An index is that of a place exactly if it is in the image of the places, and that there is
    -- but one is the strict order again.
    rw [← Position.mem_image_places_iff]
    constructor
    · rintro ⟨p, hp, rfl⟩
      exact ⟨p, ⟨hp, rfl⟩, fun q hq => (Position.strictMonoOn_indexIn t).injOn hq.1 hp hq.2⟩
    · rintro ⟨p, hp, -⟩
      exact ⟨p, hp⟩

/-- A line in front of the text is at no later offset than the first one. The index between the two
lines of a text is that of no place, the next one is. -/
theorem inside_of_terminator_not_addressed :
    let m : Mapper := { unit := .utf8 }
    let t : Text := "é\r\nb"
    let offset (p : Nat ×ₗ Nat) : Nat := (m.resolve t (ofLex p).1 (ofLex p).2).1
    m.Sane ∧ Position.InsideCrLf t 2 ∧ toLex (1, 2) ∈ Position.places t ∧
      toLex (2, 1) ∈ Position.places t ∧ offset (toLex (1, 2)) < offset (toLex (2, 1)) ∧
      (m.resolve t 0 9).1 ≤ (m.resolve t 1 (-9)).1 ∧
      (∃! p, p ∈ Position.places t ∧
        (({ m with unit := .codePoint } : Mapper).resolve t (ofLex p).1 (ofLex p).2).1 = 3) ∧
      ¬ ∃! p, p ∈ Position.places t ∧
        (({ m with unit := .codePoint } : Mapper).resolve t (ofLex p).1 (ofLex p).2).1 = 2 := by
  intro m t offset
  have hm : m.Sane := sane_fresh .utf8
  have hinside : Position.InsideCrLf t 2 := by decide
  have hfirst : toLex (1, 2) ∈ Position.places t := ⟨by decide, by decide, _, rfl, by decide⟩
  have hsecond : toLex (2, 1) ∈ Position.places t := ⟨by decide, by decide, _, rfl, by decide⟩
  obtain ⟨hordered, hstrict, -, hcounted⟩ := places_ordered_and_counted_once hm t
  refine ⟨hm, hinside, hfirst, hsecond, hstrict hfirst hsecond (by decide),
    hordered 0 9 1 (-9) (.inl (by decide)), ?_, ?_⟩
  · exact (hcounted 3).1 ⟨by decide, fun h => absurd h.2.1 (by decide)⟩
  · exact fun h => ((hcounted 2).2 h).2 hinside

end Mapper

end LiveLint
