import LiveLint.Text.Basic

/-!
# Blank space

The characters that separate words: the controls U+0009 to U+000D and U+001C to U+001F, NEXT LINE
and the space separators. Zero-width characters (U+200B, U+FEFF) are not blank.
-/

namespace LiveLint

/-- The intervals of blank code points. -/
def blankIntervals : List (Nat × Nat) :=
  [(0x9, 0xD), (0x1C, 0x20), (0x85, 0x85), (0xA0, 0xA0), (0x1680, 0x1680), (0x2000, 0x200A),
   (0x2028, 0x2029), (0x202F, 0x202F), (0x205F, 0x205F), (0x3000, 0x3000)]

/-- White space that separates words. -/
def CodePoint.isBlank (c : CodePoint) : Bool := inIntervals blankIntervals c.val

namespace Text

/-- The text without the blank space at its two ends. -/
def strip (t : Text) : Text := trim CodePoint.isBlank t

/-- The words of a text, in order. -/
def blankWords (t : Text) : List Text := words CodePoint.isBlank t

/-- The text holds nothing but blank space. -/
def isBlank (t : Text) : Bool := t.all CodePoint.isBlank

end Text

end LiveLint
