import LiveLint.Console.Theme
import LiveLint.Text.CellWidth

/-!
# Styled text

A text with stretches that are to be shown in a style. Some control characters are dropped when
styled text is made. On its way to a terminal it is cut into lines, tabs are replaced by spaces, and
each line into segments, which are the pieces between the ends of its spans; each segment that has
a style gets an escape sequence of its own. Lines are never wrapped.
-/

namespace LiveLint

/-- A stretch of a text in a style, which is given by its definition. -/
structure Span where
  start : Nat
  stop : Nat
  definition : Text
deriving DecidableEq

namespace Span

/-- The span with its text moved. -/
def shift (n : Nat) (s : Span) : Span := { s with start := s.start + n, stop := s.stop + n }

/-- What a span has in common with a piece of the text, seen from the start of the piece. -/
def within? (start stop : Nat) (s : Span) : Option Span :=
  let common : Span := { s with start := s.start - start, stop := min s.stop stop - start }
  if common.start < common.stop then some common else none

/-- All of the piece lies in the span. -/
def covers (s : Span) (start stop : Nat) : Bool := s.start ≤ start && stop ≤ s.stop

end Span

/-- A text, and the styles of its parts. Where spans overlap, a later one is inside the others. -/
structure StyledText where
  text : Text
  spans : List Span := []
deriving DecidableEq

namespace StyledText

/-- Bell, backspace, vertical tab, form feed and carriage return are never shown. -/
def isDropped (c : CodePoint) : Bool :=
  c.val = 0x07 || c.val = 0x08 || c.val = 0x0B || c.val = 0x0C || c.val = 0x0D

/-- The text without the characters that are never shown. -/
def clean (t : Text) : Text := t.filter fun c => !isDropped c

/-- A text without styles. -/
def plain (t : Text) : StyledText := ⟨clean t, []⟩

/-- A text in one style. -/
def inStyle (definition t : Text) : StyledText :=
  let t := clean t
  ⟨t, if t.isEmpty then [] else [⟨0, t.length, definition⟩]⟩

/-- Two styled texts one after the other. Where there is no text to add, there are no styles. -/
def append (a b : StyledText) : StyledText :=
  if b.text.isEmpty then a
  else ⟨a.text ++ b.text, a.spans ++ b.spans.map (Span.shift a.text.length)⟩

instance : Append StyledText := ⟨append⟩

/-- Styled texts one after the other. -/
def concat (ts : List StyledText) : StyledText := ts.foldl append ⟨[], []⟩

/-- Puts another text in the place of the text; of spans beyond its end what is left stays. -/
def withText (t : StyledText) (new : Text) : StyledText :=
  if new.length < t.text.length then
    ⟨new, (t.spans.filter fun s => s.start < new.length).map fun s =>
      { s with stop := min s.stop new.length }⟩
  else { t with text := new }

/-- The styled text of pieces that follow each other, `gap` code points apart. -/
def piecesFrom (spans : List Span) (gap position : Nat) : List Text → List StyledText
  | [] => []
  | t :: rest =>
    ⟨t, spans.filterMap (Span.within? position (position + t.length))⟩
      :: piecesFrom spans gap (position + t.length + gap) rest

/-! ## Lines and tabs -/

def newline : CodePoint := .ofChar '\n'
def tab : CodePoint := .ofChar '\t'
def space : CodePoint := .ofChar ' '

/-- The lines of a styled text, without the line breaks. -/
def lines (t : StyledText) : List StyledText :=
  if t.text.contains newline then
    piecesFrom t.spans 1 0 (Text.splitOn (· = newline) t.text)
  else [t]

/-- Columns between two tab stops. -/
def tabStop : Nat := 8

/-- The pieces of a text, each of which ends with its only tab; what follows the last tab is the
last piece. -/
def tabbed : Text → List Text
  | [] => []
  | c :: rest =>
    if c = tab then [c] :: tabbed rest
    else
      match tabbed rest with
      | [] => [[c]]
      | piece :: pieces => (c :: piece) :: pieces

/-- Adds spaces in the styles of the end. -/
def widen (t : StyledText) (n : Nat) : StyledText :=
  ⟨t.text ++ List.replicate n space, t.spans.map fun s =>
    if t.text.length ≤ s.stop then { s with stop := s.stop + n } else s⟩

/-- Fills pieces with spaces; `position` cells come before them. A tab is one space and those up to
the next tab stop. -/
def fill (position : Nat) : List StyledText → List StyledText
  | [] => []
  | t :: rest =>
    if t.text.getLast? = some tab then
      let t : StyledText := { t with text := t.text.dropLast ++ [space] }
      let cells := position + t.text.cells
      let more := (tabStop - cells % tabStop) % tabStop
      t.widen more :: fill (cells + more) rest
    else t :: fill (position + t.text.cells) rest

/-- A line with its tabs replaced by spaces. -/
def expandTabs (t : StyledText) : StyledText :=
  if t.text.contains tab then concat (fill 0 (piecesFrom t.spans 0 0 (tabbed t.text))) else t

/-! ## Segments -/

/-- The stretches between neighbouring places, up to the end of the text. -/
def between (t : StyledText) : List Nat → List (Nat × Nat)
  | [] => []
  | [place] => if place < t.text.length then [(place, t.text.length)] else []
  | place :: next :: rest =>
    if place < next then (place, next) :: t.between (next :: rest) else t.between (next :: rest)

/-- Pieces of a text, each in one style. -/
def segments (t : StyledText) : Except Numeral.Error (List (Text × Style)) := do
  let spans ← t.spans.mapM fun s => return (s, ← Theme.style s.definition)
  let places := (0 :: t.spans.flatMap fun s => [s.start, s.stop]).mergeSort
  return (t.between places).map fun (start, stop) =>
    ((t.text.drop start).take (stop - start),
      (spans.filter fun s => s.1.covers start stop).foldl (fun outer s => outer.inside s.2) {})

/-- A line as a terminal is sent it, with or without styles. -/
def printLine (styles : Bool) (t : StyledText) : Except Numeral.Error Text := do
  let segments ← t.expandTabs.segments
  return if styles then segments.flatMap fun s => s.2.paint s.1 else segments.flatMap Prod.fst

/-- A styled text as a terminal is sent it. -/
def print (styles : Bool) (t : StyledText) : Except Numeral.Error Text := do
  return Text.joinWith [newline] (← t.lines.mapM (printLine styles))

end StyledText

end LiveLint
