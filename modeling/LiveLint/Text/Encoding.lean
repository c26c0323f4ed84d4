import LiveLint.Text.Utf8

/-!
# Encodings of a process's streams

The encodings in which a buffer is handed to a linter and its output is read. A text that has no
form in the encoding is refused with a reason; output that is ill-formed never is, since every
ill-formed part becomes the replacement character.
-/

namespace LiveLint

/-- How text and bytes correspond on a process's standard streams. -/
inductive Encoding where
  | utf8
  | ascii
  | latin1
deriving DecidableEq

namespace Encoding

/-- The name of an encoding. -/
def name : Encoding → Text
  | .utf8 => "utf-8"
  | .ascii => "ascii"
  | .latin1 => "latin-1"

/-- The encoding of that name. -/
def ofName? (t : Text) : Option Encoding :=
  [Encoding.utf8, .ascii, .latin1].find? fun e => e.name == t

/-- The code point has a form in the encoding. -/
def holds : Encoding → CodePoint → Bool
  | .utf8, c => !c.isSurrogate
  | .ascii, c => c.val < 0x80
  | .latin1, c => c.val < 0x100

/-- Why a code point may have no form in the encoding. -/
def refusal : Encoding → Text
  | .utf8 => "surrogates not allowed"
  | .ascii => "ordinal not in range(128)"
  | .latin1 => "ordinal not in range(256)"

/-- The bytes of a text, unless one of its code points has no form. -/
def encode? (e : Encoding) (t : Text) : Option Bytes :=
  if t.all e.holds then
    some <| match e with
      | .utf8 => Utf8.encode t
      | .ascii | .latin1 => t.map fun c => UInt8.ofNat c.val
  else none

/-- The text of a byte sequence, with U+FFFD for each ill-formed part. -/
def decode (e : Encoding) (bytes : Bytes) : Text :=
  match e with
  | .utf8 => Utf8.decodeLenient bytes
  | .ascii => bytes.map fun b => if b.toNat < 0x80 then .ofNat b.toNat else .replacement
  | .latin1 => bytes.map fun b => .ofNat b.toNat

end Encoding

end LiveLint
