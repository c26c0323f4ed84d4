import LiveLint.Value

/-!
# Writing JSON

A value as an ASCII text. Everything outside ASCII, the controls and DELETE are written as `\uXXXX`
escapes, a code point above U+FFFF as the two halves of its surrogate pair. Without an indent the
text is one line; with one, each item stands on a line of its own.
-/

namespace LiveLint

namespace Json

/-- The escape of one 16-bit unit. -/
def unitEscape (n : Nat) : Text :=
  let digits := Nat.toDigits 16 n
  Text.ofString "\\u" ++ (List.replicate (4 - digits.length) '0' ++ digits).map CodePoint.ofChar

/-- One code point inside a string. -/
def writePoint (c : CodePoint) : Text :=
  if c = CodePoint.ofChar '"' then "\\\""
  else if c = CodePoint.ofChar '\\' then "\\\\"
  else if c.val = 0xA then "\\n"
  else if c.val = 0xD then "\\r"
  else if c.val = 0x9 then "\\t"
  else if c.val = 0x8 then "\\b"
  else if c.val = 0xC then "\\f"
  else if 0x20 ≤ c.val && c.val < 0x7F then [c]
  else if c.val < 0x10000 then unitEscape c.val
  else
    let n := c.val - 0x10000
    unitEscape (0xD800 + n / 0x400) ++ unitEscape (0xDC00 + n % 0x400)

/-- A string in quotes. -/
def writeText (t : Text) : Text :=
  CodePoint.ofChar '"' :: t.flatMap writePoint ++ [CodePoint.ofChar '"']

/-- How items are laid out: on one line, or each on a line indented by so many spaces per level. -/
inductive Layout where
  | line
  | indented (width : Nat)
deriving DecidableEq

/-- The layout for an indent; zero and negative ones break lines without indenting. -/
def Layout.ofIndent : Option Int → Layout
  | none => .line
  | some n => .indented n.toNat

/-- What separates the parts of a list or table at `level`. -/
def Layout.break (layout : Layout) (level : Nat) : Text :=
  match layout with
  | .line => []
  | .indented width =>
    CodePoint.ofChar '\n' :: List.replicate (width * level) (CodePoint.ofChar ' ')

/-- The separator between two items at `level`. -/
def Layout.separator (layout : Layout) (level : Nat) : Text :=
  match layout with
  | .line => ", "
  | .indented _ => CodePoint.ofChar ',' :: layout.break level

/-- Items between brackets, each on its own place. -/
def enclose (layout : Layout) (level : Nat) (left right : Char) (items : List Text) : Text :=
  if items.isEmpty then [.ofChar left, .ofChar right]
  else
    CodePoint.ofChar left :: layout.break (level + 1)
      ++ Text.joinWith (layout.separator (level + 1)) items
      ++ layout.break level ++ [.ofChar right]

mutual

/-- Writes a value at a level of nesting. -/
def writeAt (layout : Layout) (level : Nat) : Value → Text
  | .null => "null"
  | .bool true => "true"
  | .bool false => "false"
  | .int n => Text.ofInt n
  | .float x => (Binary.ofDouble x).exact
  | .text t => writeText t
  | .moment m => writeText m.iso
  | .list items => enclose layout level '[' ']' (writeItems layout (level + 1) items)
  | .table entries => enclose layout level '\x7b' '\x7d' (writeEntries layout (level + 1) entries)

/-- Writes the items of a list. -/
def writeItems (layout : Layout) (level : Nat) : List Value → List Text
  | [] => []
  | v :: rest => writeAt layout level v :: writeItems layout level rest

/-- Writes the entries of a table. -/
def writeEntries (layout : Layout) (level : Nat) : List (Text × Value) → List Text
  | [] => []
  | (k, v) :: rest =>
    (writeText k ++ Text.ofString ": " ++ writeAt layout level v) :: writeEntries layout level rest

end

/-- Writes a value. -/
def write (layout : Layout) (v : Value) : Text := writeAt layout 0 v

end Json

end LiveLint
