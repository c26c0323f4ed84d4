import LiveLint.Value
import LiveLint.Text.Numeral

/-!
# Reading JSON

The reader is a machine that takes one code point at a time. Its state is a stack of the lists and
tables that are still open together with the place inside the innermost one, so that a text is
accepted exactly when its last code point leaves the stack empty and one value read. Reading a
longer text is a continuation of reading a shorter one, and a refusal is final.

Beyond the standard it takes `NaN`, `Infinity` and `-Infinity`, lone halves of surrogate pairs, and
repeated keys, of which the last value counts. An integer may have 4300 digits at most.

`read` says what a text stands for. Reading it takes the stack one level down for every list and
table that is open; `load` is the same on a stack that has only so many levels left.
-/

namespace LiveLint

namespace Json

/-- Why a text is no JSON value. -/
inductive Error where
  | byteOrderMark
  | valueExpected
  | commaExpected
  | colonExpected
  | keyExpected
  | extraData
  | unterminatedString
  | controlCharacter
  | invalidEscape
  | invalidUnicodeEscape
  /-- An integer of so many digits is beyond the limit. -/
  | integerTooLong (digits : Nat)
  /-- Lists and tables stand in one another deeper than the stack goes. -/
  | tooDeep
deriving DecidableEq

/-- The wording of an error. -/
def Error.message : Error → Text
  | .byteOrderMark => "Unexpected UTF-8 BOM (decode using utf-8-sig)"
  | .valueExpected => "Expecting value"
  | .commaExpected => "Expecting ',' delimiter"
  | .colonExpected => "Expecting ':' delimiter"
  | .keyExpected => "Expecting property name enclosed in double quotes"
  | .extraData => "Extra data"
  | .unterminatedString => "Unterminated string starting at"
  | .controlCharacter => "Invalid control character at"
  | .invalidEscape => "Invalid \\escape"
  | .invalidUnicodeEscape => "Invalid \\uXXXX escape"
  | .integerTooLong digits => (Numeral.Error.tooLong digits).message
  | .tooDeep => "maximum recursion depth exceeded"

/-- The error tells that the text is no JSON; otherwise a limit was exceeded. -/
def Error.isOfSyntax : Error → Bool
  | .integerTooLong _ | .tooDeep => false
  | _ => true

/-- An open list or table with what it holds so far, latest first. -/
inductive Frame where
  | list (items : List Value)
  /-- A table whose next value belongs to `key`. -/
  | table (entries : Table) (key : Text)

/-- What a string will be: a value, or a key of the table with these entries. -/
inductive Purpose where
  | value
  | key (entries : Table)

/-- The place inside a string. -/
inductive StringPlace where
  /-- Between two code points. -/
  | between
  /-- After a backslash. -/
  | escape
  /-- After `\u` and some of its four digits, whose value is `bits`. -/
  | unicode (owed : Nat) (bits : Nat)
  /-- After a whole `\uXXXX`. -/
  | unit
deriving DecidableEq

/-- A string that is being read: the code points so far, latest first, and whether the latest is the
first half of a surrogate pair that came from an escape. -/
structure StringState where
  purpose : Purpose
  read : Text
  pendingHigh : Bool
  place : StringPlace

/-- The place inside a number. -/
inductive NumberPlace where
  /-- After a minus sign. -/
  | minus
  /-- After a leading zero. -/
  | zero
  /-- After digits of the integer part. -/
  | integer
  /-- After a point without digits. -/
  | point
  /-- After digits of the fraction. -/
  | fraction
  /-- After the mark of an exponent. -/
  | mark
  /-- After the sign of an exponent. -/
  | sign
  /-- After digits of the exponent. -/
  | exponent
deriving DecidableEq

/-- A number that is being read: its digits, latest first. -/
structure NumberState where
  negative : Bool
  integer : List Nat
  fraction : List Nat
  exponentNegative : Bool
  exponent : List Nat
  place : NumberPlace

/-- The place in the text. -/
inductive Place where
  /-- A value has to start. -/
  | value
  /-- After `[`: a value starts or the list ends. -/
  | firstItem
  /-- After `{`: a key starts or the table ends. -/
  | firstKey
  /-- After a comma in a table: a key has to start. -/
  | key (entries : Table)
  /-- After a key. -/
  | colon (entries : Table) (key : Text)
  /-- After a value of the innermost frame. -/
  | after
  | string (s : StringState)
  | number (n : NumberState)
  /-- Inside a literal of which `rest` is to come. -/
  | literal (rest : Text) (value : Value)

/-- The state of the reader. `result` is the value that was read with the stack empty. -/
structure Reader where
  stack : List Frame
  result : Option Value
  place : Place

/-- White space between the parts of a JSON text. -/
def isSpace (c : CodePoint) : Bool := c.val = 0x20 || c.val = 0x9 || c.val = 0xA || c.val = 0xD

/-- The integer of a number's digits, if there are not too many of them. -/
def NumberState.integer? (n : NumberState) : Except Error Value :=
  if Numeral.maxDigits < n.integer.length then .error (.integerTooLong n.integer.length)
  else
    let size : Int := decimalValue n.integer.reverse
    .ok (.int (if n.negative then -size else size))

/-- The floating-point number with the fraction and, if `withExponent`, the exponent read. -/
def NumberState.float (n : NumberState) (withExponent : Bool) : Value :=
  let digits := decimalValue (n.integer.reverse ++ n.fraction.reverse)
  let size : Int := decimalValue n.exponent.reverse
  let exponent := if !withExponent then 0 else if n.exponentNegative then -size else size
  .float (.ofFloat <| floatOfDecimal n.negative digits (exponent - n.fraction.length))

/-- A number as far as it was read: the longest part that is one. The flag tells that it ends where
the reader stands; otherwise a point or an exponent without digits follows it. -/
def NumberState.finish (n : NumberState) : Except Error (Value × Bool) :=
  match n.place with
  | .minus => .error .valueExpected
  | .zero | .integer => n.integer?.map (·, true)
  | .point => n.integer?.map (·, false)
  | .fraction => .ok (n.float false, true)
  | .mark | .sign =>
    if n.fraction.isEmpty then n.integer?.map (·, false) else .ok (n.float false, false)
  | .exponent => .ok (n.float true, true)

namespace Reader

/-- The reader before a text. -/
def start : Reader := ⟨[], none, .value⟩

/-- What was wrong with a code point that cannot follow a value. -/
def afterError (r : Reader) : Error := if r.stack.isEmpty then .extraData else .commaExpected

/-- A value was read in the innermost frame. -/
def push (r : Reader) (v : Value) : Reader :=
  match r.stack with
  | [] => ⟨[], some v, .after⟩
  | .list items :: rest => ⟨.list (v :: items) :: rest, r.result, .after⟩
  | .table entries key :: rest => ⟨.table (Table.insert key v entries) key :: rest, r.result, .after⟩

/-- A number ends before the next code point. -/
def endNumber (r : Reader) (n : NumberState) : Except Error Reader := do
  let (v, complete) ← n.finish
  let r := r.push v
  if complete then return r else throw r.afterError

/-- Reads the first code point of a value. -/
def stepValue (r : Reader) (c : CodePoint) : Except Error Reader :=
  let number (negative : Bool) (integer : List Nat) (place : NumberPlace) : Reader :=
    { r with place := .number ⟨negative, integer, [], false, [], place⟩ }
  let literal (rest : String) (v : Value) : Reader :=
    { r with place := .literal (Text.ofString rest) v }
  match c.asciiDigit? with
  | some 0 => .ok (number false [0] .zero)
  | some d => .ok (number false [d] .integer)
  | none =>
    if c = CodePoint.ofChar '"' then .ok { r with place := .string ⟨.value, [], false, .between⟩ }
    else if c = CodePoint.ofChar '[' then .ok ⟨.list [] :: r.stack, r.result, .firstItem⟩
    else if c = CodePoint.ofChar '\x7b' then .ok { r with place := .firstKey }
    else if c = CodePoint.ofChar '-' then .ok (number true [] .minus)
    else if c = CodePoint.ofChar 'n' then .ok (literal "ull" .null)
    else if c = CodePoint.ofChar 't' then .ok (literal "rue" (.bool true))
    else if c = CodePoint.ofChar 'f' then .ok (literal "alse" (.bool false))
    else if c = CodePoint.ofChar 'N' then .ok (literal "aN" (.float (.undefined false)))
    else if c = CodePoint.ofChar 'I' then .ok (literal "nfinity" (.float (.ofFloat infinity)))
    else .error .valueExpected

/-- Reads a code point after a value. -/
def stepAfter (r : Reader) (c : CodePoint) : Except Error Reader :=
  if isSpace c then .ok { r with place := .after }
  else
    match r.stack with
    | [] => .error .extraData
    | .list items :: rest =>
      if c = CodePoint.ofChar ',' then .ok { r with place := .value }
      else if c = CodePoint.ofChar ']' then .ok (push { r with stack := rest } (.list items.reverse))
      else .error .commaExpected
    | .table entries _ :: rest =>
      if c = CodePoint.ofChar ',' then .ok ⟨rest, r.result, .key entries⟩
      else if c = CodePoint.ofChar '\x7d' then .ok (push { r with stack := rest } (.table entries))
      else .error .commaExpected

/-- A string ends. -/
def endString (r : Reader) (s : StringState) : Reader :=
  match s.purpose with
  | .value => r.push (.text s.read.reverse)
  | .key entries => { r with place := .colon entries s.read.reverse }

/-- The code point that an escape letter stands for. -/
def escaped? (c : CodePoint) : Option CodePoint :=
  match c.toChar with
  | '"' => some '"'
  | '\\' => some '\\'
  | '/' => some '/'
  | 'b' => some (.ofNat 8)
  | 'f' => some (.ofNat 12)
  | 'n' => some (.ofNat 10)
  | 'r' => some (.ofNat 13)
  | 't' => some (.ofNat 9)
  | _ => none

/-- Adds the unit of a `\uXXXX` escape, joined with the half of a pair that stands right before. -/
def addUnit (s : StringState) (unit : CodePoint) : StringState :=
  match s.pendingHigh, s.read with
  | true, high :: read =>
    if unit.isLowSurrogate then
      { s with read := .ofSurrogates high unit :: read, pendingHigh := false, place := .unit }
    else { s with read := unit :: s.read, pendingHigh := unit.isHighSurrogate, place := .unit }
  | _, _ => { s with read := unit :: s.read, pendingHigh := unit.isHighSurrogate, place := .unit }

/-- Reads a code point of a string between escapes. -/
def stepBetween (r : Reader) (s : StringState) (c : CodePoint) : Except Error Reader :=
  if c = CodePoint.ofChar '"' then .ok (r.endString s)
  else if c = CodePoint.ofChar '\\' then .ok { r with place := .string { s with place := .escape } }
  else if c.val < 0x20 then .error .controlCharacter
  else
    .ok { r with
      place := .string { s with read := c :: s.read, pendingHigh := false, place := .between } }

/-- Reads a code point of a string. -/
def stepString (r : Reader) (s : StringState) (c : CodePoint) : Except Error Reader :=
  match s.place with
  | .between | .unit => r.stepBetween s c
  | .escape =>
    if c = CodePoint.ofChar 'u' then .ok { r with place := .string { s with place := .unicode 4 0 } }
    else
      match escaped? c with
      | some e =>
        .ok { r with
          place := .string { s with read := e :: s.read, pendingHigh := false, place := .between } }
      | none => .error .invalidEscape
  | .unicode owed bits =>
    match c.hexDigit? with
    | none => .error .invalidUnicodeEscape
    | some d =>
      let bits := bits * 16 + d
      if owed ≤ 1 then .ok { r with place := .string (addUnit s (.ofNat bits)) }
      else .ok { r with place := .string { s with place := .unicode (owed - 1) bits } }

/-- The number with one more code point, if that code point continues it. -/
def extendNumber (n : NumberState) (c : CodePoint) : Option NumberState :=
  let isMark := c = CodePoint.ofChar 'e' || c = CodePoint.ofChar 'E'
  match n.place, c.asciiDigit? with
  | .minus, some 0 => some { n with integer := [0], place := .zero }
  | .minus, some d => some { n with integer := [d], place := .integer }
  | .integer, some d => some { n with integer := d :: n.integer }
  | .point, some d | .fraction, some d => some { n with fraction := d :: n.fraction, place := .fraction }
  | .mark, some d | .sign, some d | .exponent, some d =>
    some { n with exponent := d :: n.exponent, place := .exponent }
  | .zero, none | .integer, none =>
    if c = CodePoint.ofChar '.' then some { n with place := .point }
    else if isMark then some { n with place := .mark } else none
  | .fraction, none => if isMark then some { n with place := .mark } else none
  | .mark, none =>
    if c = CodePoint.ofChar '-' then some { n with exponentNegative := true, place := .sign }
    else if c = CodePoint.ofChar '+' then some { n with place := .sign } else none
  | _, _ => none

/-- Reads a code point. -/
def step (r : Reader) (c : CodePoint) : Except Error Reader :=
  match r.place with
  | .value => if isSpace c then .ok r else r.stepValue c
  | .firstItem =>
    if isSpace c then .ok r
    else if c = CodePoint.ofChar ']' then .ok (push { r with stack := r.stack.tail } (.list []))
    else r.stepValue c
  | .firstKey =>
    if isSpace c then .ok r
    else if c = CodePoint.ofChar '"' then
      .ok { r with place := .string ⟨.key [], [], false, .between⟩ }
    else if c = CodePoint.ofChar '\x7d' then .ok (r.push (.table []))
    else .error .keyExpected
  | .key entries =>
    if isSpace c then .ok r
    else if c = CodePoint.ofChar '"' then
      .ok { r with place := .string ⟨.key entries, [], false, .between⟩ }
    else .error .keyExpected
  | .colon entries key =>
    if isSpace c then .ok r
    else if c = CodePoint.ofChar ':' then .ok ⟨.table entries key :: r.stack, r.result, .value⟩
    else .error .colonExpected
  | .after => r.stepAfter c
  | .string s => r.stepString s c
  | .number n =>
    match extendNumber n c with
    | some n' => .ok { r with place := .number n' }
    | none =>
      if n.place = .minus && c = CodePoint.ofChar 'I' then
        .ok { r with place := .literal "nfinity" (.float (.ofFloat (-infinity))) }
      else do
        let r ← r.endNumber n
        r.stepAfter c
  | .literal rest v =>
    match rest with
    | [] => (r.push v).stepAfter c
    | [x] => if c = x then .ok (r.push v) else .error .valueExpected
    | x :: rest => if c = x then .ok { r with place := .literal rest v } else .error .valueExpected

/-- Reads a text. -/
def run (r : Reader) : Text → Except Error Reader
  | [] => .ok r
  | c :: rest => do run (← r.step c) rest

/-- The value that was read, at the end of the text. -/
def finish (r : Reader) : Except Error Value :=
  match r.place with
  | .value | .firstItem | .literal .. => .error .valueExpected
  | .firstKey | .key _ => .error .keyExpected
  | .colon .. => .error .colonExpected
  | .string s =>
    match s.place with
    | .between | .escape => .error .unterminatedString
    | .unicode .. | .unit => .error .invalidUnicodeEscape
  | .number n => do
    let r ← r.endNumber n
    match r.stack, r.result with
    | [], some v => .ok v
    | _, _ => .error .commaExpected
  | .after =>
    match r.stack, r.result with
    | [], some v => .ok v
    | _, _ => .error .commaExpected

end Reader

/-- Reads a text as one JSON value. -/
def read (t : Text) : Except Error Value :=
  match t with
  | c :: _ =>
    if c.val = 0xFEFF then .error .byteOrderMark
    else do (← Reader.start.run t).finish
  | [] => .error .valueExpected

/-! ## The end of the stack -/

/-- The levels that raising an error takes. What is wrong inside a value is raised where it is
found; that there is no value, or something behind it, is only noted there. -/
def Error.levels : Error → Nat
  | .commaExpected | .colonExpected | .keyExpected | .unterminatedString | .controlCharacter
  | .invalidEscape | .invalidUnicodeEscape => 3
  | .byteOrderMark | .valueExpected | .extraData | .integerTooLong _ | .tooDeep => 0

namespace Reader

/-- The levels that are in use: one for every list and table that is open. -/
def level (r : Reader) : Nat :=
  match r.place with
  -- A table that waits for a key or reads one is not on the stack of frames.
  | .firstKey | .key _ | .colon .. | .string { purpose := .key _, .. } => r.stack.length + 1
  | _ => r.stack.length

/-- The levels that the next code point takes besides: a number that is given by a word is looked up
once the word is read. -/
def lookupLevels (r : Reader) : Nat :=
  match r.place with
  | .literal [_] (.float _) => 1
  | _ => 0

/-- Reading a text takes more levels than there are. -/
def exceeds (levels : Nat) (r : Reader) : Text → Bool
  | [] =>
    match r.finish with
    | .ok _ => false
    | .error e => levels < r.level + e.levels
  | c :: rest =>
    match r.step c with
    | .ok next => levels < max next.level (r.level + r.lookupLevels) || next.exceeds levels rest
    | .error e => levels < r.level + e.levels

end Reader

/-- Reads a text as one JSON value, with so many levels of the stack left. -/
def load (levels : Nat) (t : Text) : Except Error Value :=
  if Reader.start.exceeds levels t then .error .tooDeep else read t

end Json

end LiveLint
