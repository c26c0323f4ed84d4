import Mathlib.Data.List.Basic
import Mathlib.Tactic.Common
import LiveLint.Position.Basic

/-!
# The layout of a text in lines

A text is a sequence of lines, each of which ends at CR LF, at a lone CR or at a lone LF, but for
the last one, which has no terminator. `Layout` says so without indices, and every text has exactly
one proper layout (`eq_ofText`). The bounds that the scan of a text yields are those of the lines in
this layout (`lineBounds_eq_spans`), so that what is said of bounds can be said of lines.
-/

namespace LiveLint

/-- What ends a line. -/
inductive Terminator where
  | crLf
  | cr
  | lf
deriving DecidableEq

/-- The code points of a terminator. -/
def Terminator.text : Terminator → Text
  | .crLf => [Line.carriageReturn, Line.lineFeed]
  | .cr => [Line.carriageReturn]
  | .lf => [Line.lineFeed]

/-- The text holds no code point that ends a line. -/
def Line.Unbroken (t : Text) : Prop := ∀ c ∈ t, c ≠ Line.carriageReturn ∧ c ≠ Line.lineFeed

/-- A text as a sequence of lines. -/
inductive Layout where
  | last (line : Text)
  | ended (line : Text) (terminator : Terminator) (rest : Layout)

namespace Layout

open Line (carriageReturn lineFeed Unbroken)

/-- The text that is laid out. -/
def text : Layout → Text
  | .last line => line
  | .ended line terminator rest => line ++ terminator.text ++ rest.text

/-- The lines without their terminators. -/
def lines : Layout → List Text
  | .last line => [line]
  | .ended line _ rest => line :: rest.lines

/-- No line holds what ends a line, and a CR and the LF after it are one terminator. -/
def Proper : Layout → Prop
  | .last line => Unbroken line
  | .ended line terminator rest =>
    Unbroken line ∧ (terminator = .cr → rest.text.head? ≠ some lineFeed) ∧ rest.Proper

/-- The layout with one more code point in front of its first line. -/
def cons (c : CodePoint) : Layout → Layout
  | .last line => .last (c :: line)
  | .ended line terminator rest => .ended (c :: line) terminator rest

/-- The proper layout of a text. -/
def ofText : Text → Layout
  | [] => .last []
  | [c] =>
    if c = carriageReturn then .ended [] .cr (.last [])
    else if c = lineFeed then .ended [] .lf (.last [])
    else .last [c]
  | c :: d :: rest =>
    if c = carriageReturn ∧ d = lineFeed then .ended [] .crLf (ofText rest)
    else if c = carriageReturn then .ended [] .cr (ofText (d :: rest))
    else if c = lineFeed then .ended [] .lf (ofText (d :: rest))
    else (ofText (d :: rest)).cons c

/-- The bounds of the lines of a layout whose first line begins at an index. -/
def spans (start : Nat) : Layout → List Line
  | .last line => [⟨start, start + line.length⟩]
  | .ended line terminator rest =>
    ⟨start, start + line.length⟩ :: rest.spans (start + line.length + terminator.text.length)

/-! ## The one layout of a text -/

theorem unbroken_nil : Unbroken [] := by simp [Unbroken]

/-- A line stays unbroken with another code point that ends no line. -/
theorem unbroken_cons {c : CodePoint} {line : Text} (hcr : c ≠ carriageReturn) (hlf : c ≠ lineFeed)
    (h : Unbroken line) : Unbroken (c :: line) := by
  intro d hd
  rcases List.mem_cons.1 hd with rfl | hd
  · exact ⟨hcr, hlf⟩
  · exact h d hd

theorem carriageReturn_ne_lineFeed : carriageReturn ≠ lineFeed := by decide

@[simp] theorem text_cons (c : CodePoint) (L : Layout) : (L.cons c).text = c :: L.text := by
  cases L <;> rfl

/-- A layout stays proper with another code point that ends no line. -/
theorem Proper.cons {c : CodePoint} {L : Layout} (h : L.Proper) (hcr : c ≠ carriageReturn)
    (hlf : c ≠ lineFeed) : (L.cons c).Proper := by
  cases L with
  | last line => exact unbroken_cons hcr hlf h
  | ended line terminator rest => exact ⟨unbroken_cons hcr hlf h.1, h.2⟩

/-- The layout of a text is one of that text. -/
theorem text_ofText (t : Text) : (ofText t).text = t := by
  fun_induction ofText t with
  | case1 => rfl
  | case2 => rfl
  | case3 => rfl
  | case4 => rfl
  | case5 c d rest h ih =>
    obtain ⟨rfl, rfl⟩ := h
    rw [text, ih]
    rfl
  | case6 d rest hpair ih =>
    rw [text, ih]
    rfl
  | case7 d rest hpair hcr ih =>
    rw [text, ih]
    rfl
  | case8 c d rest hpair hcr hlf ih => rw [text_cons, ih]

/-- The layout of a text is proper. -/
theorem proper_ofText (t : Text) : (ofText t).Proper := by
  fun_induction ofText t with
  | case1 => exact unbroken_nil
  | case2 => exact ⟨unbroken_nil, by simp [text], unbroken_nil⟩
  | case3 => exact ⟨unbroken_nil, by simp [text], unbroken_nil⟩
  | case4 c hcr hlf => exact unbroken_cons hcr hlf unbroken_nil
  | case5 c d rest h ih => exact ⟨unbroken_nil, by simp, ih⟩
  | case6 d rest hpair ih =>
    refine ⟨unbroken_nil, fun _ hhead => hpair ⟨rfl, ?_⟩, ih⟩
    rw [text_ofText] at hhead
    exact Option.some.inj hhead
  | case7 d rest hpair hcr ih => exact ⟨unbroken_nil, by simp, ih⟩
  | case8 c d rest hpair hcr hlf ih => exact ih.cons hcr hlf

/-- A code point that ends no line is put in front of the first line. -/
theorem ofText_cons {c : CodePoint} (hcr : c ≠ carriageReturn) (hlf : c ≠ lineFeed) (t : Text) :
    ofText (c :: t) = (ofText t).cons c := by
  cases t with
  | nil => simp [ofText, cons, hcr, hlf]
  | cons d rest => simp [ofText, hcr, hlf]

/-- An unbroken line at the front goes into the first line of what follows. -/
theorem ofText_append {line : Text} (h : Unbroken line) (t : Text) :
    ofText (line ++ t) = line.foldr cons (ofText t) := by
  induction line with
  | nil => rfl
  | cons c line ih =>
    have hc := h c (by simp)
    rw [List.cons_append, ofText_cons hc.1 hc.2, ih fun d hd => h d (by simp [hd])]
    rfl

/-- An unbroken text in front of a last line makes it longer. -/
theorem foldr_cons_last (line tail : Text) :
    line.foldr cons (.last tail) = .last (line ++ tail) := by
  induction line with
  | nil => rfl
  | cons c line ih => rw [List.foldr_cons, ih]; rfl

/-- An unbroken text in front of an ended line makes it longer. -/
theorem foldr_cons_ended (line tail : Text) (terminator : Terminator) (rest : Layout) :
    line.foldr cons (.ended tail terminator rest) = .ended (line ++ tail) terminator rest := by
  induction line with
  | nil => rfl
  | cons c line ih => rw [List.foldr_cons, ih]; rfl

/-- A text that begins with a terminator has an empty first line. -/
theorem ofText_terminator {terminator : Terminator} {t : Text}
    (h : terminator = .cr → t.head? ≠ some lineFeed) :
    ofText (terminator.text ++ t) = .ended [] terminator (ofText t) := by
  have hne := carriageReturn_ne_lineFeed
  cases terminator with
  | crLf => simp [Terminator.text, ofText]
  | cr =>
    cases t with
    | nil => simp [Terminator.text, ofText]
    | cons d rest =>
      have hd : d ≠ lineFeed := by simpa using h rfl
      simp [Terminator.text, ofText, hd]
  | lf => cases t <;> simp [Terminator.text, ofText, hne.symm]

/-- A text has no other proper layout. -/
theorem Proper.eq_ofText {L : Layout} (h : L.Proper) : L = ofText L.text := by
  induction L with
  | last line =>
    have happend := ofText_append (show Unbroken line from h) []
    rw [List.append_nil] at happend
    rw [text, happend, ofText, foldr_cons_last, List.append_nil]
  | ended line terminator rest ih =>
    obtain ⟨hline, hcr, hrest⟩ := h
    rw [text, List.append_assoc, ofText_append hline, ofText_terminator hcr, foldr_cons_ended,
      List.append_nil, ← ih hrest]

/-! ## The bounds of its lines -/

/-- The scan passes over a code point inside a line. -/
theorem scan_cons {c : CodePoint} (hcr : c ≠ carriageReturn) (hlf : c ≠ lineFeed)
    (start cursor : Nat) (t : Text) :
    Line.scan start cursor (c :: t) = Line.scan start (cursor + 1) t := by
  cases t with
  | nil => simp [Line.scan, hcr, hlf]
  | cons d rest => simp [Line.scan, hcr, hlf]

/-- The scan goes through an unbroken text to its end. -/
theorem scan_append {line : Text} (h : Unbroken line) (start cursor : Nat) (t : Text) :
    Line.scan start cursor (line ++ t) = Line.scan start (cursor + line.length) t := by
  induction line generalizing cursor with
  | nil => rfl
  | cons c line ih =>
    have hc := h c (by simp)
    rw [List.cons_append, scan_cons hc.1 hc.2, ih fun d hd => h d (by simp [hd]),
      List.length_cons]
    congr 1
    omega

/-- At a terminator the scan ends the line and begins the next one behind it. -/
theorem scan_terminator {terminator : Terminator} {t : Text}
    (h : terminator = .cr → t.head? ≠ some lineFeed) (start cursor : Nat) :
    Line.scan start cursor (terminator.text ++ t)
      = ⟨start, cursor⟩
          :: Line.scan (cursor + terminator.text.length) (cursor + terminator.text.length) t := by
  have hne := carriageReturn_ne_lineFeed
  cases terminator with
  | crLf => simp [Terminator.text, Line.scan]
  | cr =>
    cases t with
    | nil => simp [Terminator.text, Line.scan]
    | cons d rest =>
      have hd : d ≠ lineFeed := by simpa using h rfl
      simp [Terminator.text, Line.scan, hd]
  | lf => cases t <;> simp [Terminator.text, Line.scan, hne.symm]

/-- The scan finds the bounds of a proper layout. -/
theorem Proper.scan_eq_spans {L : Layout} (h : L.Proper) (start : Nat) :
    Line.scan start start L.text = L.spans start := by
  induction L generalizing start with
  | last line =>
    have happend := scan_append (show Unbroken line from h) start start []
    rw [List.append_nil] at happend
    rw [text, happend]
    rfl
  | ended line terminator rest ih =>
    obtain ⟨hline, hcr, hrest⟩ := h
    rw [text, List.append_assoc, scan_append hline, scan_terminator hcr, ih hrest]
    rfl

/-- The bounds that a text is scanned for are those of the lines of its layout. -/
theorem lineBounds_eq_spans (t : Text) : Line.ofText t = (ofText t).spans 0 := by
  have h := (proper_ofText t).scan_eq_spans 0
  rw [text_ofText] at h
  exact h

/-- The bounds of a line say where it stands in the text. -/
theorem exists_around {L : Layout} {n : Nat} {line : Text} (h : L.lines[n]? = some line)
    (start : Nat) :
    ∃ before after, L.text = before ++ line ++ after ∧
      (L.spans start)[n]? = some ⟨start + before.length, start + before.length + line.length⟩ := by
  induction L generalizing n start with
  | last only =>
    cases n with
    | zero =>
      obtain rfl : only = line := by simpa [lines] using h
      exact ⟨[], [], by simp [text], by simp [spans]⟩
    | succ n => simp [lines] at h
  | ended first terminator rest ih =>
    cases n with
    | zero =>
      obtain rfl : first = line := by simpa [lines] using h
      exact ⟨[], terminator.text ++ rest.text, by simp [text], by simp [spans]⟩
    | succ n =>
      rw [lines, List.getElem?_cons_succ] at h
      obtain ⟨before, after, htext, hspan⟩ := ih h (start + first.length + terminator.text.length)
      refine ⟨first ++ terminator.text ++ before, after, ?_, ?_⟩
      · rw [text, htext]
        simp only [List.append_assoc]
      · rw [spans, List.getElem?_cons_succ, hspan]
        simp only [List.length_append, Nat.add_assoc]

end Layout

end LiveLint
