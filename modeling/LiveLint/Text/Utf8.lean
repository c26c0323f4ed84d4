import LiveLint.Text.Basic

/-!
# UTF-8

The bytes of a text and the way back. Decoding reads one byte at a time and cuts the input into
pieces: a code point, or a maximal part that cannot be continued to one. A lenient reader puts the
replacement character for each ill-formed part; a strict one stops at the first.
-/

namespace LiveLint

/-- A sequence of bytes. -/
abbrev Bytes := List UInt8

namespace CodePoint

/-- The number of UTF-8 bytes of a code point, surrogates counted like their neighbours. -/
def utf8Width (c : CodePoint) : Nat :=
  if c.val < 0x80 then 1 else if c.val < 0x800 then 2 else if c.val < 0x10000 then 3 else 4

/-- The UTF-8 bytes of a code point; surrogates are written like any other of their size. -/
def utf8 (c : CodePoint) : Bytes :=
  let n := c.val
  let tail (m : Nat) : UInt8 := UInt8.ofNat (0x80 + m % 0x40)
  if n < 0x80 then [UInt8.ofNat n]
  else if n < 0x800 then [UInt8.ofNat (0xC0 + n / 0x40), tail n]
  else if n < 0x10000 then [UInt8.ofNat (0xE0 + n / 0x1000), tail (n / 0x40), tail n]
  else [UInt8.ofNat (0xF0 + n / 0x40000), tail (n / 0x1000), tail (n / 0x40), tail n]

end CodePoint

namespace Utf8

/-- Why a part of the input is no code point. -/
inductive Flaw where
  | invalidStart
  | invalidContinuation
  | endOfData
deriving DecidableEq

/-- The wording of a flaw. -/
def Flaw.message : Flaw → Text
  | .invalidStart => "invalid start byte"
  | .invalidContinuation => "invalid continuation byte"
  | .endOfData => "unexpected end of data"

/-- A piece of decoded input: a code point or `length` bytes that are none. -/
inductive Piece where
  | point (c : CodePoint)
  | illFormed (length : Nat) (flaw : Flaw)

/-- A code point that was begun: `taken` bytes are read and `owed` are to come, the next one
between `low` and `high`; `bits` is the value so far. -/
structure Begun where
  taken : Nat
  owed : Nat
  low : Nat
  high : Nat
  bits : Nat

/-- Between two code points, or inside one. -/
inductive State where
  | start
  | inside (b : Begun)

/-- Reads the first byte of a code point. -/
def first (byte : UInt8) : List Piece × State :=
  let b := byte.toNat
  if b < 0x80 then ([.point (.ofNat b)], .start)
  else if 0xC2 ≤ b && b ≤ 0xDF then ([], .inside ⟨1, 1, 0x80, 0xBF, b - 0xC0⟩)
  else if b = 0xE0 then ([], .inside ⟨1, 2, 0xA0, 0xBF, 0⟩)
  else if b = 0xED then ([], .inside ⟨1, 2, 0x80, 0x9F, 0xD⟩)
  else if 0xE1 ≤ b && b ≤ 0xEF then ([], .inside ⟨1, 2, 0x80, 0xBF, b - 0xE0⟩)
  else if b = 0xF0 then ([], .inside ⟨1, 3, 0x90, 0xBF, 0⟩)
  else if 0xF1 ≤ b && b ≤ 0xF3 then ([], .inside ⟨1, 3, 0x80, 0xBF, b - 0xF0⟩)
  else if b = 0xF4 then ([], .inside ⟨1, 3, 0x80, 0x8F, 4⟩)
  else ([.illFormed 1 .invalidStart], .start)

/-- Reads one byte: the pieces it completes and the state after it. -/
def step : State → UInt8 → List Piece × State
  | .start, byte => first byte
  | .inside s, byte =>
    let b := byte.toNat
    if s.low ≤ b && b ≤ s.high then
      let bits := s.bits * 0x40 + (b - 0x80)
      if s.owed ≤ 1 then ([.point (.ofNat bits)], .start)
      else ([], .inside ⟨s.taken + 1, s.owed - 1, 0x80, 0xBF, bits⟩)
    else
      let (pieces, state) := first byte
      (.illFormed s.taken .invalidContinuation :: pieces, state)

/-- The pieces of the bytes that follow `state`. -/
def piecesFrom : State → Bytes → List Piece
  | .start, [] => []
  | .inside s, [] => [.illFormed s.taken .endOfData]
  | state, b :: rest => (step state b).1 ++ piecesFrom (step state b).2 rest

/-- The pieces of a byte sequence. -/
def pieces (bytes : Bytes) : List Piece := piecesFrom .start bytes

/-- Decodes with one replacement character per ill-formed part. -/
def decodeLenient (bytes : Bytes) : Text :=
  (pieces bytes).map fun
    | .point c => c
    | .illFormed .. => .replacement

/-- An ill-formed part of a byte sequence. -/
structure Error where
  /-- The first byte of the part. -/
  byte : Nat
  /-- Bytes before the part. -/
  position : Nat
  /-- Bytes of the part. -/
  length : Nat
  flaw : Flaw

/-- The wording of a decoding error. -/
def Error.message (e : Error) : Text :=
  let place : Text :=
    if e.length = 1 then
      let digits := Nat.toDigits 16 e.byte
      let padded := List.replicate (2 - digits.length) '0' ++ digits
      ("byte 0x" : Text) ++ padded.map CodePoint.ofChar ++ " in position " ++ Text.ofNat e.position
    else
      ("bytes in position " : Text) ++ Text.ofNat e.position ++ "-"
        ++ Text.ofNat (e.position + e.length - 1)
  ("'utf-8' codec can't decode " : Text) ++ place ++ ": " ++ e.flaw.message

/-- Joins the pieces that follow `position` bytes of input, up to the first ill-formed part. -/
def joinPieces (bytes : Bytes) (position : Nat) : List Piece → Except Error Text
  | [] => .ok []
  | .point c :: rest => do
    let text ← joinPieces bytes (position + c.utf8Width) rest
    return c :: text
  | .illFormed length flaw :: _ =>
    .error ⟨(bytes[position]?.map UInt8.toNat).getD 0, position, length, flaw⟩

/-- Decodes well-formed bytes, or names the first ill-formed part. -/
def decode (bytes : Bytes) : Except Error Text := joinPieces bytes 0 (pieces bytes)

/-- The bytes of a text, surrogates included. -/
def encode (t : Text) : Bytes := t.flatMap CodePoint.utf8

/-- A run of surrogates, which have no form in well-formed UTF-8. -/
structure Surrogates where
  first : CodePoint
  /-- Code points before the run. -/
  position : Nat
  length : Nat

/-- The first run of surrogates in a text. -/
def surrogates? (t : Text) : Option Surrogates :=
  match t.dropWhile fun c => !c.isSurrogate with
  | [] => none
  | c :: rest =>
    some ⟨c, (t.takeWhile fun c => !c.isSurrogate).length,
      (rest.takeWhile CodePoint.isSurrogate).length + 1⟩

/-- The surrogates from U+DC80 on stand for bytes of a file name that are not UTF-8. -/
def isEscapedByte (c : CodePoint) : Bool := 0xDC80 ≤ c.val && c.val ≤ 0xDCFF

/-- The first run of surrogates in a file name, from the first one on that stands for no byte;
`position` code points come before the text. -/
def unencodableFrom? (position : Nat) : Text → Option Surrogates
  | [] => none
  | c :: rest =>
    if c.isSurrogate && !isEscapedByte c then
      some ⟨c, position, (rest.takeWhile CodePoint.isSurrogate).length + 1⟩
    else unencodableFrom? (position + 1) rest

/-- Why a text with surrogates cannot be encoded. -/
def Surrogates.message (s : Surrogates) : Text :=
  let place : Text :=
    if s.length = 1 then
      ("character '\\u" : Text) ++ (Nat.toDigits 16 s.first.val).map CodePoint.ofChar ++ "' in position "
        ++ Text.ofNat s.position
    else
      ("characters in position " : Text) ++ Text.ofNat s.position ++ "-"
        ++ Text.ofNat (s.position + s.length - 1)
  ("'utf-8' codec can't encode " : Text) ++ place ++ ": surrogates not allowed"

end Utf8

end LiveLint
