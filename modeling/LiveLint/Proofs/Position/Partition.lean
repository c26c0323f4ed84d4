import LiveLint.Proofs.Position.Ranges

/-!
# Lines partition a text

The bounds of the lines are what a reader of the text would draw (`Line.Partition`): they cover all
of it but the terminators, and between two neighbours there is exactly one of these. A text has no
other such bounds than those it is scanned for (`Line.partition_iff`). For uniqueness the layout
with these bounds is put together from the end (`Line.Partition.exists_layout`), and a text has one
proper layout.
-/

namespace LiveLint

open Line (carriageReturn lineFeed Unbroken)

/-! ## Slices -/

/-- The code points from one index up to another. -/
def Text.slice (t : Text) (i j : Nat) : Text := (t.drop i).take (j - i)

namespace Text

/-- A part of a text and what follows it make up the rest of the text. -/
theorem slice_append_drop (t : Text) {i j : Nat} (h : i ≤ j) : t.slice i j ++ t.drop j = t.drop i := by
  have hdrop : t.drop j = (t.drop i).drop (j - i) := by
    rw [List.drop_drop, Nat.add_sub_cancel' h]
  rw [slice, hdrop, List.take_append_drop]

/-- The part up to the end is the rest. -/
theorem slice_length (t : Text) (i : Nat) : t.slice i t.length = t.drop i := by
  refine List.take_of_length_le ?_
  rw [List.length_drop]

/-- The length of a part is the distance of its bounds. -/
theorem length_slice {t : Text} {i j : Nat} (h : j ≤ t.length) : (t.slice i j).length = j - i := by
  rw [slice, List.length_take, List.length_drop]
  omega

/-- What is dropped up to an index leaves the code point there in front. -/
theorem drop_of_getElem? {t : Text} {i : Nat} {c : CodePoint} (h : t[i]? = some c) :
    t.drop i = c :: t.drop (i + 1) := by
  obtain ⟨hi, rfl⟩ := List.getElem?_eq_some_iff.1 h
  exact List.drop_eq_getElem_cons hi

end Text

/-! ## Bounds that partition a text -/

/-- Exactly one terminator stands between the two indices: a CR LF, a CR that no LF follows, or an
LF that no CR precedes. -/
inductive TerminatorBetween (t : Text) : Nat → Nat → Prop
  | crLf {i : Nat} (hcr : t[i]? = some carriageReturn) (hlf : t[i + 1]? = some lineFeed) :
    TerminatorBetween t i (i + 2)
  | cr {i : Nat} (hcr : t[i]? = some carriageReturn) (hlf : t[i + 1]? ≠ some lineFeed) :
    TerminatorBetween t i (i + 1)
  | lf {i : Nat} (hlf : t[i]? = some lineFeed)
      (hcr : ∀ k, k + 1 = i → t[k]? ≠ some carriageReturn) : TerminatorBetween t i (i + 1)

namespace Line

/-- The bounds of lines into which a text falls from an index on. -/
structure Partition (t : Text) (start : Nat) (lines : List Line) : Prop where
  /-- There is a first line, and it begins at the index. -/
  first : lines.head?.map Line.start = some start
  /-- The last line ends where the text does. -/
  last : lines.getLast?.map Line.stop = some t.length
  ordered : ∀ l ∈ lines, l.start ≤ l.stop
  unbroken : ∀ l ∈ lines, Unbroken (t.slice l.start l.stop)
  /-- One terminator stands between each line and the next. -/
  terminated : lines.IsChain fun l l' => TerminatorBetween t l.stop l'.start

/-- What the bounds cover, and between two of them what stands there. -/
def assemble (t : Text) : List Line → Text
  | [] => []
  | [l] => t.slice l.start l.stop
  | l :: l' :: rest =>
    t.slice l.start l.stop ++ t.slice l.stop l'.start ++ assemble t (l' :: rest)

end Line

namespace TerminatorBetween

variable {t : Text} {i j : Nat}

/-- The terminator, in front of the rest of the text. -/
theorem exists_terminator (h : TerminatorBetween t i j) :
    ∃ terminator : Terminator, t.drop i = terminator.text ++ t.drop j ∧
      j = i + terminator.text.length ∧
      (terminator = .cr → (t.drop j).head? ≠ some lineFeed) := by
  cases h with
  | crLf hcr hlf =>
    refine ⟨.crLf, ?_, rfl, nofun⟩
    rw [Text.drop_of_getElem? hcr, Text.drop_of_getElem? hlf]
    rfl
  | cr hcr hlf =>
    refine ⟨.cr, Text.drop_of_getElem? hcr, rfl, fun _ => ?_⟩
    rw [List.head?_drop]
    exact hlf
  | lf hlf _ => exact ⟨.lf, Text.drop_of_getElem? hlf, rfl, nofun⟩

/-- A terminator takes up some place. -/
theorem lt (h : TerminatorBetween t i j) : i < j := by
  cases h <;> omega

/-- A terminator begins inside the text. -/
theorem lt_length (h : TerminatorBetween t i j) : i < t.length := by
  cases h with
  | crLf h' _ | cr h' _ | lf h' _ => exact (List.getElem?_eq_some_iff.1 h').1

end TerminatorBetween

namespace Line.Partition

variable {t : Text} {start : Nat}

/-- The lines behind the first one partition what is behind its terminator. -/
theorem tail {l l' : Line} {rest : List Line} (h : Partition t start (l :: l' :: rest)) :
    Partition t l'.start (l' :: rest) where
  first := rfl
  last := by
    have hlast := h.last
    rwa [List.getLast?_cons_cons] at hlast
  ordered m hm := h.ordered m (List.mem_cons_of_mem l hm)
  unbroken m hm := h.unbroken m (List.mem_cons_of_mem l hm)
  terminated := (List.isChain_cons_cons.1 h.terminated).2

/-- Put together, the lines and the terminators between them are the text again. -/
theorem assemble_eq {lines : List Line} (h : Partition t start lines) :
    assemble t lines = t.drop start := by
  induction lines generalizing start with
  | nil => cases h.first
  | cons l rest ih =>
    obtain rfl : l.start = start := Option.some.inj h.first
    have hordered := h.ordered l List.mem_cons_self
    cases rest with
    | nil =>
      have hstop : l.stop = t.length := Option.some.inj h.last
      rw [assemble, hstop, Text.slice_length]
    | cons l' rest =>
      have hterminated := (List.isChain_cons_cons.1 h.terminated).1
      rw [assemble, ih h.tail, List.append_assoc, Text.slice_append_drop t hterminated.lt.le,
        Text.slice_append_drop t hordered]

/-- Lines that a text falls into are those of a proper layout of it. -/
theorem exists_layout {lines : List Line} (h : Partition t start lines) :
    ∃ L : Layout, L.Proper ∧ L.text = t.drop start ∧ L.spans start = lines := by
  -- From the end of the text: the layout of the later lines is there when a line is put in front.
  induction lines generalizing start with
  | nil => cases h.first
  | cons l rest ih =>
    obtain rfl : l.start = start := Option.some.inj h.first
    have hordered := h.ordered l List.mem_cons_self
    have hunbroken := h.unbroken l List.mem_cons_self
    cases rest with
    | nil =>
      have hstop : l.stop = t.length := Option.some.inj h.last
      have hlength : l.start + (t.slice l.start l.stop).length = l.stop := by
        rw [Text.length_slice hstop.le]
        omega
      refine ⟨.last (t.slice l.start l.stop), hunbroken, ?_, ?_⟩
      · rw [Layout.text, hstop, Text.slice_length]
      · rw [Layout.spans, hlength]
    | cons l' rest =>
      obtain ⟨L, hproper, htext, hspans⟩ := ih h.tail
      have hbetween := (List.isChain_cons_cons.1 h.terminated).1
      obtain ⟨terminator, hdrop, hwidth, hcr⟩ := hbetween.exists_terminator
      have hlength : l.start + (t.slice l.start l.stop).length = l.stop := by
        rw [Text.length_slice hbetween.lt_length.le]
        omega
      refine ⟨.ended (t.slice l.start l.stop) terminator L, ⟨hunbroken, ?_, hproper⟩, ?_, ?_⟩
      · intro hterminator
        rw [htext]
        exact hcr hterminator
      · rw [Layout.text, htext, List.append_assoc, ← hdrop, Text.slice_append_drop t hordered]
      · rw [Layout.spans, hlength, ← hwidth, hspans]

/-- A text falls into no other lines than those it is scanned for. -/
theorem eq_ofText {lines : List Line} (h : Partition t 0 lines) : lines = ofText t := by
  obtain ⟨L, hproper, htext, hspans⟩ := h.exists_layout
  have hlayout := hproper.eq_ofText
  rw [htext, List.drop_zero] at hlayout
  rw [Layout.lineBounds_eq_spans, ← hlayout, hspans]

end Line.Partition

/-! ## The scan of a text -/

namespace Layout

/-- What stands behind the front of a text is found that much further on. -/
theorem getElem?_length_add (front back : Text) (i : Nat) :
    (front ++ back)[front.length + i]? = back[i]? := by
  rw [List.getElem?_append_right (Nat.le_add_right _ _), Nat.add_sub_cancel_left]

/-- The terminator of a line in a proper layout, where no LF at the beginning of the line belongs to
a CR in front of it. -/
theorem terminatorBetween {front line back : Text} {terminator : Terminator}
    (hline : Unbroken line) (hback : terminator = .cr → back.head? ≠ some lineFeed)
    (hfront : front.getLast? = some carriageReturn →
      (line ++ terminator.text ++ back).head? ≠ some lineFeed) :
    TerminatorBetween (front ++ line ++ (terminator.text ++ back)) (front ++ line).length
      ((front ++ line).length + terminator.text.length) := by
  have hat := getElem?_length_add (front ++ line) (terminator.text ++ back)
  cases terminator with
  | crLf => exact .crLf (hat 0) (hat 1)
  | cr =>
    refine .cr (hat 0) ?_
    rw [hat 1]
    change (carriageReturn :: back)[1]? ≠ some lineFeed
    rw [List.getElem?_cons_succ, ← List.head?_eq_getElem?]
    exact hback rfl
  | lf =>
    refine .lf (hat 0) ?_
    intro k hk hcr
    rw [List.getElem?_append_left (by omega)] at hcr
    have hlast : (front ++ line).getLast? = some carriageReturn := by
      rw [List.getLast?_eq_getElem?, ← hk]
      exact hcr
    -- The code point before the LF is in the line, or else the line is empty and it is in front.
    rcases List.eq_nil_or_concat' line with rfl | ⟨begun, c, rfl⟩
    · rw [List.append_nil] at hlast
      exact hfront hlast rfl
    · rw [← List.append_assoc, List.getLast?_concat] at hlast
      exact (hline c (by simp)).1 (Option.some.inj hlast)

/-- Between the lines of a proper layout there are terminators of the text, whatever is in front. -/
theorem Proper.terminated {L : Layout} (h : L.Proper) (front : Text)
    (hfront : front.getLast? = some carriageReturn → L.text.head? ≠ some lineFeed) :
    (L.spans front.length).IsChain fun l l' =>
      TerminatorBetween (front ++ L.text) l.stop l'.start := by
  induction L generalizing front with
  | last line => exact List.isChain_singleton _
  | ended line terminator rest ih =>
    obtain ⟨hline, hcr, hrest⟩ := h
    -- In front of the rest are this line and its terminator. Where that is a CR, no LF follows it.
    have hnext : (front ++ line ++ terminator.text).getLast? = some carriageReturn →
        rest.text.head? ≠ some lineFeed := by
      intro hlast
      refine hcr ?_
      cases terminator with
      | cr => rfl
      | crLf | lf =>
        simp [Terminator.text, carriageReturn_ne_lineFeed.symm] at hlast
    have hchain := ih hrest _ hnext
    rw [spans, List.isChain_cons]
    constructor
    · intro l hl
      have hstart : l.start = front.length + line.length + terminator.text.length := by
        have hhead := head?_spans rest (front.length + line.length + terminator.text.length)
        rw [Option.mem_def.1 hl] at hhead
        exact Option.some.inj hhead
      have hbetween := terminatorBetween hline hcr hfront
      rw [List.length_append, List.append_assoc, ← List.append_assoc line] at hbetween
      rw [hstart, text]
      exact hbetween
    · simp only [List.length_append, List.append_assoc] at hchain
      simp only [text, List.append_assoc, Nat.add_assoc]
      exact hchain

end Layout

namespace Line

/-- The lines that a text is scanned for partition it. -/
theorem partition_ofText (t : Text) : Partition t 0 (ofText t) where
  first := (aligned_ofText t).first
  last := (aligned_ofText t).last
  ordered := (aligned_ofText t).ordered
  unbroken l hl := by
    obtain ⟨n, hn⟩ := List.mem_iff_getElem?.1 hl
    have hordered := (aligned_ofText t).ordered l hl
    exact Position.unbroken_slice hn (Nat.le_refl _) hordered (Nat.le_refl _)
  terminated := by
    have hchain := (Layout.proper_ofText t).terminated [] nofun
    rw [Layout.lineBounds_eq_spans]
    rwa [List.nil_append, Layout.text_ofText] at hchain

/-- Every text falls into lines in exactly one way: from its beginning to its end, none of them with
what ends a line, and with one terminator between each and the next. These are the lines that it is
scanned for, and they and their terminators make up the text. -/
theorem lines_partition_text (t : Text) :
    (∀ lines, Partition t 0 lines ↔ lines = ofText t) ∧ assemble t (ofText t) = t := by
  refine ⟨fun lines => ⟨Partition.eq_ofText, ?_⟩, (partition_ofText t).assemble_eq⟩
  rintro rfl
  exact partition_ofText t

/-- Terminators at both ends, and a CR in front of a CR LF. -/
example : ofText "\r\r\n\na\n" = [⟨0, 0⟩, ⟨1, 1⟩, ⟨3, 3⟩, ⟨4, 5⟩, ⟨6, 6⟩] := by decide

end Line

end LiveLint
