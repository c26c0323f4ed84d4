import LiveLint.Diagnostic

/-!
# Positions in a buffer

Linters point at lines and columns, counted from one; hosts address a buffer by offsets in a unit
of their own: code points, UTF-8 bytes or UTF-16 units. A line ends at CR LF, at a lone CR or at a
lone LF, and a coordinate outside the buffer stands for the nearest place inside.
-/

namespace LiveLint

/-- What is in front of an index and what goes from there to a later one is what is in front of the
later one. -/
theorem Text.take_append_take_drop (t : Text) {i j : Nat} (h : i ≤ j) :
    t.take i ++ (t.drop i).take (j - i) = t.take j := by
  rw [← List.take_add, Nat.add_sub_cancel' h]

/-- What a host counts when it addresses a place in a buffer. -/
inductive OffsetUnit where
  | codePoint
  | utf8
  | utf16
deriving DecidableEq

namespace OffsetUnit

/-- Every unit. -/
def all : List OffsetUnit := [.codePoint, .utf8, .utf16]

/-- The word for a unit. -/
def name : OffsetUnit → Text
  | .codePoint => "codepoint"
  | .utf8 => "utf8"
  | .utf16 => "utf16"

/-- The unit of that name. -/
def ofName? (t : Text) : Option OffsetUnit := all.find? fun u => u.name == t

/-- The size of a code point. -/
def width : OffsetUnit → CodePoint → Nat
  | .codePoint, _ => 1
  | .utf8, c =>
    if c.val < 0x80 then 1 else if c.val < 0x800 then 2 else if c.val < 0x10000 then 3 else 4
  | .utf16, c => if c.val < 0x10000 then 1 else 2

/-- The size of a text. -/
def measure (u : OffsetUnit) : Text → Nat
  | [] => 0
  | c :: rest => u.width c + u.measure rest

/-- Lengths add up in every unit, as no code point is measured across another. -/
theorem measure_append (u : OffsetUnit) (a b : Text) :
    u.measure (a ++ b) = u.measure a + u.measure b := by
  induction a with
  | nil => exact (Nat.zero_add _).symm
  | cons c rest ih => rw [List.cons_append, measure, measure, ih, Nat.add_assoc]

/-- Further code points never make a text smaller. -/
theorem measure_take_le (u : OffsetUnit) (t : Text) {i j : Nat} (h : i ≤ j) :
    u.measure (t.take i) ≤ u.measure (t.take j) := by
  rw [← t.take_append_take_drop h, measure_append]
  exact Nat.le_add_right _ _

end OffsetUnit

/-- The bounds of a line as indices into the text, its terminator excluded. -/
structure Line where
  start : Nat
  stop : Nat
deriving DecidableEq

namespace Line

def carriageReturn : CodePoint := .ofChar '\r'

def lineFeed : CodePoint := .ofChar '\n'

/-- The lines of a text that is read from index `cursor` on, inside a line that began at `start`. -/
def scan (start cursor : Nat) : Text → List Line
  | [] => [⟨start, cursor⟩]
  | [c] =>
    if c = carriageReturn ∨ c = lineFeed then [⟨start, cursor⟩, ⟨cursor + 1, cursor + 1⟩]
    else [⟨start, cursor + 1⟩]
  | c :: d :: rest =>
    if c = carriageReturn ∧ d = lineFeed then ⟨start, cursor⟩ :: scan (cursor + 2) (cursor + 2) rest
    else if c = carriageReturn ∨ c = lineFeed then
      ⟨start, cursor⟩ :: scan (cursor + 1) (cursor + 1) (d :: rest)
    else scan start (cursor + 1) (d :: rest)

/-- The lines of a text, the last of which has no terminator. -/
def ofText (t : Text) : List Line := scan 0 0 t

end Line

namespace Position

/-- The index of a line and column in a text of `length` code points with these lines. -/
def index (length : Nat) (lines : List Line) (line column : Int) : Nat :=
  if line < 1 then (lines.head?.map Line.start).getD 0
  else
    match lines[line.toNat - 1]? with
    | none => length
    | some l =>
      if column < 1 then l.start else min (l.start + column.toNat - 1) l.stop

/-- The existing line and column that stand for a line and column. -/
def clamp (length : Nat) (lines : List Line) (line column : Int) : Nat × Nat :=
  let lineNumber : Nat := if (lines.length : Int) < line then lines.length else (max line 1).toNat
  let start := (lines[lineNumber - 1]?.map Line.start).getD 0
  (lineNumber, index length lines line column - start + 1)

/-- The offset of an index. -/
def offset (u : OffsetUnit) (t : Text) (i : Nat) : Nat := u.measure (t.take i)

/-- The range between two indices; an end before the start is moved to the start. -/
def range (u : OffsetUnit) (t : Text) (i j : Nat) : TextRange :=
  ⟨offset u t i, offset u t (max i j), u.measure_take_le t (Nat.le_max_left i j)⟩

end Position

end LiveLint
