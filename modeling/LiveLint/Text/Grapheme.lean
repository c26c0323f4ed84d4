import LiveLint.Text.CellWidth

/-!
# Characters on a terminal

What a terminal shows as one character may take several code points: marks share the cells of what
they follow, a joiner draws the next code point into the same character, and a variation selector
widens a character to its emoji form. Text is cut between such characters only. A wide one that
would be cut in two gives way to a space.
-/

namespace LiveLint

/-- A character on a terminal. -/
structure Grapheme where
  text : Text
  cells : Nat
deriving DecidableEq

namespace Grapheme

/-- The zero-width joiner. -/
def isJoiner (c : CodePoint) : Bool := c.val = 0x200D

/-- The variation selector that asks for the emoji form. -/
def isEmojiSelector (c : CodePoint) : Bool := c.val = 0xFE0F

/-- Characters of a text, read from the front. -/
structure Row where
  /-- What was read, the latest first. -/
  read : List Grapheme := []
  /-- The latest code point that takes cells and may still be turned into its emoji form. -/
  last : Option CodePoint := none
  /-- The next code point belongs to the latest character. -/
  joining : Bool := false

namespace Row

/-- Adds a code point to the latest character, with some more cells. -/
def extend (r : Row) (c : CodePoint) (cells : Nat) : Row :=
  match r.read with
  | [] => { r with read := [⟨[c], cells⟩], joining := false }
  | g :: rest =>
    { r with read := ⟨g.text ++ [c], g.cells + cells⟩ :: rest, joining := false }

/-- Reads one more code point. -/
def step (r : Row) (c : CodePoint) : Row :=
  if r.joining then r.extend c 0
  else if isJoiner c then { r.extend c 0 with joining := !r.read.isEmpty }
  else if isEmojiSelector c then
    { r.extend c (if r.last.any CodePoint.hasEmojiForm then 1 else 0) with last := none }
  else if c.cells = 0 then r.extend c 0
  else { read := ⟨[c], c.cells⟩ :: r.read, last := some c }

end Row

/-- The characters of a text, in order. -/
def ofText (t : Text) : List Grapheme := (t.foldl Row.step {}).read.reverse

/-- The start of some characters that fits into `n` cells. -/
def fitting (n : Nat) : List Grapheme → Text
  | [] => []
  | g :: rest =>
    if g.cells ≤ n then g.text ++ fitting (n - g.cells) rest
    else if n = 0 then []
    else [.ofChar ' ']

end Grapheme

namespace Text

/-- The code points that take one cell whatever stands around them. -/
def plainIntervals : List (Nat × Nat) :=
  [(0x20, 0x7E), (0xA0, 0xAC), (0xAE, 0x2FF), (0x370, 0x482), (0x2500, 0x25FC), (0x2800, 0x28FF)]

/-- The text cut or filled with spaces to a number of cells. -/
def resize (n : Nat) (t : Text) : Text :=
  let spaces (k : Nat) : Text := List.replicate k (.ofChar ' ')
  if t.all fun c => inIntervals plainIntervals c.val then
    if t.length < n then t ++ spaces (n - t.length) else t.take n
  else if n = 0 then []
  else if t.cells ≤ n then t ++ spaces (n - t.cells)
  else Grapheme.fitting n (Grapheme.ofText t)

/-- The text cut to a number of cells, of which the last one shows that something is missing. -/
def shorten (n : Nat) (t : Text) : Text :=
  if t.cells ≤ n then t else t.resize (n - 1) ++ [.ofChar '…']

end Text

end LiveLint
