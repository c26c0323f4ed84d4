import LiveLint.Console.StyledText
import LiveLint.Text.Grapheme

/-!
# Rules

Horizontal lines as wide as a console, with or without a title in the middle.
-/

namespace LiveLint

namespace Rule

def dash : CodePoint := .ofChar '─'

/-- A part of a line, with the text before and after its dashes. -/
def line (before : Text) (dashes : Nat) (after : Text) : StyledText :=
  .inStyle "rule.line" (before ++ List.replicate dashes dash ++ after)

/-- A line without a title. -/
def plain (width : Nat) : StyledText := line [] width []

/-- A title on one line, without tabs. -/
def titleLine (t : StyledText) : StyledText :=
  StyledText.expandTabs
    { t with text := t.text.map fun c => if c = StyledText.newline then StyledText.space else c }

/-- A line with a title in its middle; of an odd number of cells left over, one more is on the
right. A line that is too short for any title has none. -/
def titled (width : Nat) (title : StyledText) : StyledText :=
  if width ≤ 4 then plain width
  else
    let title := titleLine title
    let title := title.withText (title.text.shorten (width - 4))
    let cells := title.text.cells
    let side : Int := ((width : Int) - cells) / 2
    let left := (side - 1).toNat
    let right := min (side + 1).toNat (width - left - cells)
    let whole := line [] left [StyledText.space] ++ title ++ line [StyledText.space] right []
    whole.withText (whole.text.resize width)

end Rule

end LiveLint
