import LiveLint.Json.Reader
import LiveLint.Text.Numeral
import LiveLint.Value

/-!
# Lexemes of TOML

The parts of a TOML document that are read without looking at its structure: blanks and comments,
keys, strings, numbers and moments. A reader takes the lexeme at the front of a text and returns it
with what follows.
-/

namespace LiveLint

namespace Toml

/-- Why a text is no TOML document. -/
inductive Error where
  | malformed
  /-- A decimal integer of so many digits is beyond the limit. -/
  | integerTooLong (digits : Nat)
  /-- Lists and inline tables stand in one another deeper than the stack goes. -/
  | tooDeep
deriving DecidableEq

/-- Nothing that is allowed stands here. -/
def malformed : Except Error α := .error .malformed

/-- White space inside a line. -/
def isBlank (c : CodePoint) : Bool := c.is ' ' || c.is '\t'

/-- White space inside a list. -/
def isBlankOrBreak (c : CodePoint) : Bool := isBlank c || c.is '\n'

/-- A control that may stand nowhere in a line. -/
def isForbidden (c : CodePoint) : Bool := (c.val < 0x20 && !c.is '\t') || c.val = 0x7F

/-- What follows white space. -/
def skipBlank (t : Text) : Text := t.dropWhile isBlank

/-- What follows a comment, if there is one: the end of its line. -/
def skipComment (t : Text) : Except Error Text :=
  match t with
  | [] => .ok []
  | c :: rest =>
    if c.is '#' then
      if (rest.takeWhile fun c => !c.is '\n').any isForbidden then malformed
      else .ok (rest.dropWhile fun c => !c.is '\n')
    else .ok (c :: rest)

/-- What follows white space, line ends and comments. -/
def skipFiller : Nat → Text → Except Error Text
  | 0, t => .ok t
  | fuel + 1, t => do
    let after ← skipComment (t.dropWhile isBlankOrBreak)
    if after.length = t.length then return after else skipFiller fuel after

/-- Two line controls that stand together become a line end. -/
def joinLineEnds : Text → Text
  | [] => []
  | [c] => [c]
  | c :: d :: rest =>
    if c.is '\r' && d.is '\n' then joinLineEnds (d :: rest) else c :: joinLineEnds (d :: rest)

/-! ## Strings -/

/-- The code point of a number in hexadecimal digits; halves of surrogate pairs are none. -/
def scalar? (digits : Text) : Option CodePoint := do
  let values ← digits.mapM CodePoint.hexDigit?
  let n := values.foldl (fun n d => 16 * n + d) 0
  if h : n < 0x110000 then
    if 0xD800 ≤ n && n ≤ 0xDFFF then none else some ⟨n, h⟩
  else none

/-- The code point of `count` hexadecimal digits. -/
def hexEscape (count : Nat) (t : Text) : Except Error (Text × Text) :=
  if t.length < count then malformed
  else
    match scalar? (t.take count) with
    | some c => .ok ([c], t.drop count)
    | none => malformed

/-- What an escape stands for; `t` follows the backslash. In a string over several lines a backslash
at the end of a line joins it with the next text. -/
def escape (multiline : Bool) (t : Text) : Except Error (Text × Text) :=
  match t with
  | [] => malformed
  | c :: rest =>
    match c.toChar with
    | 'b' => .ok ([.ofNat 8], rest)
    | 't' => .ok ([.ofNat 9], rest)
    | 'n' => .ok ([.ofNat 10], rest)
    | 'f' => .ok ([.ofNat 12], rest)
    | 'r' => .ok ([.ofNat 13], rest)
    | '"' => .ok ([c], rest)
    | '\\' => .ok ([c], rest)
    | 'u' => hexEscape 4 rest
    | 'U' => hexEscape 8 rest
    | '\n' => if multiline then .ok ([], rest.dropWhile isBlankOrBreak) else malformed
    | ' ' | '\t' =>
      if multiline then
        match skipBlank rest with
        | [] => .ok ([], [])
        | d :: after =>
          if d.is '\n' then .ok ([], after.dropWhile isBlankOrBreak) else malformed
      else malformed
    | _ => malformed

/-- Reads a string in double quotes after its opening ones; `read` is what was read, latest
first. -/
def basicString (multiline : Bool) : Nat → Text → Text → Except Error (Text × Text)
  | 0, _, _ => malformed
  | _, _, [] => malformed
  | fuel + 1, read, c :: rest =>
    if c.is '"' then
      if !multiline then .ok (read.reverse, rest)
      else
        match Text.dropPrefix? "\"\"\"" (c :: rest) with
        | some after => .ok (read.reverse, after)
        | none => basicString multiline fuel (c :: read) rest
    else if c.is '\\' then do
      let (part, after) ← escape multiline rest
      basicString multiline fuel (part.reverse ++ read) after
    else if isForbidden c && !(multiline && c.is '\n') then malformed
    else basicString multiline fuel (c :: read) rest

/-- Reads a string in single quotes after its opening ones. -/
def literalString (multiline : Bool) : Text → Text → Except Error (Text × Text)
  | _, [] => malformed
  | read, c :: rest =>
    let closes := if multiline then Text.startsWith "'''" (c :: rest) else c.is '\''
    if closes then .ok (read.reverse, if multiline then rest.drop 2 else rest)
    else if isForbidden c && !(multiline && c.is '\n') then malformed
    else literalString multiline (c :: read) rest

/-- Up to two quotes that stand directly after the closing ones belong to the string. -/
def trailingQuotes (quote : Char) (s t : Text) : Text × Text :=
  match t with
  | c :: d :: rest =>
    if c.is quote && d.is quote then (s ++ [c, d], rest)
    else if c.is quote then (s ++ [c], d :: rest)
    else (s, t)
  | [c] => if c.is quote then (s ++ [c], []) else (s, t)
  | [] => (s, t)

/-- A line end directly after the opening quotes is dropped. -/
def dropFirstBreak (t : Text) : Text :=
  match t with
  | c :: rest => if c.is '\n' then rest else t
  | [] => []

/-- Reads a string, if one starts here. -/
def string? (t : Text) : Option (Except Error (Text × Text)) :=
  if let some after := Text.dropPrefix? "\"\"\"" t then
    some <| (basicString true (t.length + 1) [] (dropFirstBreak after)).map fun r =>
      trailingQuotes '"' r.1 r.2
  else if let some after := Text.dropPrefix? "\"" t then
    some (basicString false (t.length + 1) [] after)
  else if let some after := Text.dropPrefix? "'''" t then
    some <| (literalString true [] (dropFirstBreak after)).map fun r => trailingQuotes '\'' r.1 r.2
  else if let some after := Text.dropPrefix? "'" t then
    some (literalString false [] after)
  else none

/-! ## Keys -/

/-- A code point of a key without quotes. -/
def isBare (c : CodePoint) : Bool := c.isAsciiLetter || c.isAsciiDigit || c.is '-' || c.is '_'

/-- Reads one part of a key: bare, or a string within a line. -/
def keyPart (t : Text) : Except Error (Text × Text) :=
  match t with
  | [] => malformed
  | c :: rest =>
    if isBare c then .ok (t.takeWhile isBare, t.dropWhile isBare)
    else if c.is '"' then basicString false (t.length + 1) [] rest
    else if c.is '\'' then literalString false [] rest
    else malformed

/-- Reads a key of one or more parts with points between them, and the white space after it. -/
def key : Nat → Text → Except Error (List Text × Text)
  | 0, _ => malformed
  | fuel + 1, t => do
    let (part, after) ← keyPart t
    match skipBlank after with
    | c :: rest =>
      if c.is '.' then
        let (parts, after) ← key fuel (skipBlank rest)
        return (part :: parts, after)
      else return ([part], c :: rest)
    | [] => return ([part], [])

/-! ## Moments -/

/-- Reads a number of exactly `count` digits between two bounds. -/
def digits? (count low high : Nat) (t : Text) : Option (Nat × Text) := do
  if t.length < count then none
  let ds ← (t.take count).mapM CodePoint.asciiDigit?
  let n := decimalValue ds
  if low ≤ n && n ≤ high then some (n, t.drop count) else none

/-- Reads one character. -/
def char? (x : Char) : Text → Option Text
  | c :: rest => if c.is x then some rest else none
  | [] => none

/-- Reads a fraction of a second in millionths; further digits are dropped. -/
def microseconds (t : Text) : Nat × Text :=
  match char? '.' t with
  | none => (0, t)
  | some rest =>
    match rest.takeWhile CodePoint.isAsciiDigit with
    | [] => (0, t)
    | ds =>
      let six := (ds.take 6).filterMap CodePoint.asciiDigit?
      (decimalValue (six ++ List.replicate (6 - six.length) 0),
        rest.dropWhile CodePoint.isAsciiDigit)

/-- Reads a time of day. -/
def time? (t : Text) : Option (Time × Text) := do
  let (hour, t) ← digits? 2 0 23 t
  let (minute, t) ← digits? 2 0 59 (← char? ':' t)
  let (second, t) ← digits? 2 0 59 (← char? ':' t)
  let (micro, t) := microseconds t
  return (⟨hour, minute, second, micro⟩, t)

/-- Reads a distance from universal time. -/
def offset? (t : Text) : Option (Int × Text) :=
  match t with
  | [] => none
  | c :: rest =>
    if c.is 'Z' || c.is 'z' then some (0, rest)
    else if c.is '+' || c.is '-' then do
      let (hour, rest) ← digits? 2 0 23 rest
      let (minute, rest) ← digits? 2 0 59 (← char? ':' rest)
      let size : Int := 60 * hour + minute
      return (if c.is '-' then -size else size, rest)
    else none

/-- The number of days of a month. -/
def daysIn (year month : Nat) : Nat :=
  if month = 2 then
    if year % 4 = 0 && (year % 100 ≠ 0 || year % 400 = 0) then 29 else 28
  else if month = 4 || month = 6 || month = 9 || month = 11 then 30
  else 31

/-- The day is in the calendar. -/
def isInCalendar (d : Date) : Bool := 1 ≤ d.year && d.day ≤ daysIn d.year d.month

/-- Reads a date in its written form. -/
def date? (t : Text) : Option (Date × Text) := do
  let (year, t) ← digits? 4 0 9999 t
  let (month, t) ← digits? 2 1 12 (← char? '-' t)
  let (day, t) ← digits? 2 1 31 (← char? '-' t)
  return (⟨year, month, day⟩, t)

/-- Reads a date, with a time of day after `T` or a space. -/
def moment? (t : Text) : Option (Except Error (Moment × Text)) :=
  match date? t with
  | some (d, after) =>
    let withTime : Option (Time × Text) :=
      match after with
      | c :: rest => if c.is 'T' || c.is 't' || c.is ' ' then time? rest else none
      | [] => none
    some <|
      if !isInCalendar d then malformed
      else
        match withTime with
        | none => .ok (.date d, after)
        | some (time, after) =>
          match offset? after with
          | some (minutes, after) => .ok (.dateTime d time (some minutes), after)
          | none => .ok (.dateTime d time none, after)
  | none => (time? t).map fun r => .ok (.time r.1, r.2)

/-! ## Numbers -/

/-- Reads digits with single underscores between them. -/
def digitRun (digit? : CodePoint → Option Nat) : Text → List Nat × Text
  | [] => ([], [])
  | [c] =>
    match digit? c with
    | some d => ([d], [])
    | none => ([], [c])
  | c :: u :: rest =>
    match digit? c with
    | none => ([], c :: u :: rest)
    | some d =>
      if u.is '_' then
        match digitRun digit? rest with
        | ([], _) => ([d], u :: rest)
        | (ds, after) => (d :: ds, after)
      else
        let (ds, after) := digitRun digit? (u :: rest)
        (d :: ds, after)

/-- A digit below a base. -/
def digitBelow (base : Nat) (c : CodePoint) : Option Nat :=
  c.hexDigit?.bind fun d => if d < base then some d else none

/-- Reads a number after `0x`, `0o` or `0b`. -/
def based? (t : Text) : Option (Nat × Text) :=
  let read (base : Nat) (after : Text) : Option (Nat × Text) :=
    match digitRun (digitBelow base) after with
    | ([], _) => none
    | (ds, rest) => some (ds.foldl (fun n d => base * n + d) 0, rest)
  match Text.dropPrefix? "0x" t, Text.dropPrefix? "0o" t, Text.dropPrefix? "0b" t with
  | some after, _, _ => read 16 after
  | _, some after, _ => read 8 after
  | _, _, some after => read 2 after
  | _, _, _ => none

/-- Reads the integer part of a decimal number: zero alone, or digits that start with another. -/
def wholePart? (t : Text) : Option (List Nat × Text) :=
  match t with
  | [] => none
  | c :: rest =>
    match c.asciiDigit? with
    | none => none
    | some 0 => some ([0], rest)
    | some _ => some (digitRun CodePoint.asciiDigit? t)

/-- Reads a fraction; none gives no digits. -/
def fractionPart (t : Text) : List Nat × Text :=
  match char? '.' t with
  | none => ([], t)
  | some rest =>
    match digitRun CodePoint.asciiDigit? rest with
    | ([], _) => ([], t)
    | r => r

/-- Reads an exponent. -/
def exponentPart? (t : Text) : Option (Int × Text) :=
  match t with
  | [] => none
  | c :: rest =>
    if c.is 'e' || c.is 'E' then
      let (negative, rest) :=
        match rest with
        | s :: after => if s.is '-' then (true, after) else if s.is '+' then (false, after) else (false, rest)
        | [] => (false, rest)
      match digitRun CodePoint.asciiDigit? rest with
      | ([], _) => none
      | (ds, after) =>
        let size : Int := decimalValue ds
        some (if negative then -size else size, after)
    else none

/-- Reads a decimal number: an integer, or with a fraction or exponent a floating-point number. -/
def decimal? (negative : Bool) (t : Text) : Option (Except Error (Value × Text)) := do
  let (whole, after) ← wholePart? t
  let (fraction, after) := fractionPart after
  match exponentPart? after, fraction with
  | some (e, after), _ =>
    some (.ok (.float (.ofFloat <| floatOfDecimal negative (decimalValue (whole ++ fraction))
      (e - fraction.length)), after))
  | none, _ :: _ =>
    some (.ok (.float (.ofFloat <| floatOfDecimal negative (decimalValue (whole ++ fraction))
      (-fraction.length)), after))
  | none, [] =>
    some <|
      if Numeral.maxDigits < whole.length then .error (.integerTooLong whole.length)
      else
        let size : Int := decimalValue whole
        .ok (.int (if negative then -size else size), after)

/-- Reads a number, if one starts here; `inf` and `nan` are numbers. -/
def number? (t : Text) : Option (Except Error (Value × Text)) :=
  match based? t with
  | some (n, after) => some (.ok (.int n, after))
  | none =>
    let (negative, rest) :=
      match t with
      | c :: rest => if c.is '-' then (true, rest) else if c.is '+' then (false, rest) else (false, t)
      | [] => (false, t)
    match decimal? negative rest with
    | some r => some r
    | none =>
      if let some after := Text.dropPrefix? "inf" rest then
        some (.ok (.float (.ofFloat (if negative then -infinity else infinity)), after))
      else if let some after := Text.dropPrefix? "nan" rest then
        some (.ok (.float (.undefined negative), after))
      else none

end Toml

end LiveLint
