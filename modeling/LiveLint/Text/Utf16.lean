import LiveLint.Text.Basic

/-!
# UTF-16

The 16-bit units of a text. A code point beyond the sixteen-bit range becomes a surrogate pair; a
half of such a pair that stands alone in a text is written as it is.
-/

namespace LiveLint

namespace CodePoint

/-- The UTF-16 units of a code point; surrogates are written like any other of their size. -/
def utf16 (c : CodePoint) : List UInt16 :=
  if c.val < 0x10000 then [UInt16.ofNat c.val]
  else
    [UInt16.ofNat (0xD800 + (c.val - 0x10000) / 0x400),
     UInt16.ofNat (0xDC00 + (c.val - 0x10000) % 0x400)]

end CodePoint

/-- The UTF-16 units of a text, surrogates included. -/
def Utf16.encode (t : Text) : List UInt16 := t.flatMap CodePoint.utf16

end LiveLint
