import LiveLint.Text.Blank
import LiveLint.Value
import LiveLint.Text.Digit

/-!
# Validation of fields

Values from outside are turned into typed fields. A value of a neighbouring kind is accepted where
nothing is lost: an integer may come as a truth value, as a number without fraction or as text. What
is refused is a problem with a place and a complaint, and the problems of all fields are collected.
-/

namespace LiveLint

/-- What is wrong with a value. -/
inductive Complaint where
  | required
  | extra
  | unknownAttribute (name : Text)
  | notInteger
  | unreadableInteger
  | fractional
  | notFinite
  | integerTooLarge
  | negative
  | notNumber
  | unreadableNumber
  | notPositive
  | notText
  /-- A text with halves of surrogate pairs, where a Unicode string is needed. -/
  | notUnicode
  | notTuple
  | notTable
  /-- Neither a table nor a value of the named kind. -/
  | notModel (model : Text)
  | notPath
  | notOneOf (choices : List Text)
  /-- A rule of the field that the value breaks. -/
  | rule (statement : Text)
deriving DecidableEq

/-- Choices in quotes, the last after `or`. -/
def choiceText : List Text → Text
  | [] => []
  | [a] => ("'" : Text) ++ a ++ "'"
  | [a, b] => ("'" : Text) ++ a ++ "' or '" ++ b ++ "'"
  | a :: rest => ("'" : Text) ++ a ++ "', " ++ choiceText rest

/-- The wording of a complaint. -/
def Complaint.message : Complaint → Text
  | .required => "Field required"
  | .extra => "Extra inputs are not permitted"
  | .unknownAttribute name => Text.ofString "Object has no attribute '" ++ name ++ "'"
  | .notInteger => "Input should be a valid integer"
  | .unreadableInteger => "Input should be a valid integer, unable to parse string as an integer"
  | .fractional => "Input should be a valid integer, got a number with a fractional part"
  | .notFinite => "Input should be a finite number"
  | .integerTooLarge => "Unable to parse input string as an integer, exceeded maximum size"
  | .negative => "Input should be greater than or equal to 0"
  | .notNumber => "Input should be a valid number"
  | .unreadableNumber => "Input should be a valid number, unable to parse string as a number"
  | .notPositive => "Input should be greater than 0"
  | .notText => "Input should be a valid string"
  | .notUnicode => "Input should be a valid string, unable to parse raw data as a unicode string"
  | .notTuple => "Input should be a valid tuple"
  | .notTable => "Input should be a valid dictionary"
  | .notModel model =>
    Text.ofString "Input should be a valid dictionary or instance of " ++ model
  | .notPath => "Input is not a valid path for <class 'pathlib.Path'>"
  | .notOneOf choices => Text.ofString "Input should be " ++ choiceText choices
  | .rule statement => Text.ofString "Value error, " ++ statement

/-- A complaint about the value at a place. -/
structure Problem where
  place : List Text
  complaint : Complaint
deriving DecidableEq

namespace Problem

/-- The problem seen from outside the field that it was found in. -/
def inField (field : Text) (p : Problem) : Problem := { p with place := field :: p.place }

/-- Place and complaint; `whole` stands for the place of the value as a whole. -/
def message (whole : Text) (p : Problem) : Text :=
  let place := Text.joinWith "." p.place
  (if place.isEmpty then whole else place) ++ ": " ++ p.complaint.message

/-- All problems in one line. -/
def messages (whole : Text) (ps : List Problem) : Text :=
  Text.joinWith "; " (ps.map (message whole))

end Problem

/-- A validated value, or everything that is wrong with it. -/
abbrev Checked (α : Type) := Except (List Problem) α

namespace Checked

/-- A single complaint about the value itself. -/
def refuse (c : Complaint) : Checked α := .error [⟨[], c⟩]

/-- The problems of a value, none when it was accepted. -/
def problems : Checked α → List Problem
  | .ok _ => []
  | .error ps => ps

/-- The check as part of a larger one. -/
def inField (field : Text) : Checked α → Checked α
  | .ok a => .ok a
  | .error ps => .error (ps.map (Problem.inField field))

/-- Applies an accepted function to an accepted argument and collects the problems of both. -/
def apply (f : Checked (α → β)) (x : Checked α) : Checked β :=
  match f, x with
  | .ok f, .ok a => .ok (f a)
  | f, x => .error (f.problems ++ x.problems)

/-- All checks of a list, or the problems of all. -/
def sequence : List (Checked α) → Checked (List α)
  | [] => .ok []
  | x :: rest => apply (x.map List.cons) (sequence rest)

end Checked

namespace Validation

/-- A field that has to be there. -/
def required (t : Table) (field : Text) (check : Value → Checked α) : Checked α :=
  match Table.get? field t with
  | none => Checked.inField field (Checked.refuse .required)
  | some v => Checked.inField field (check v)

/-- A field that has a value of its own when it is absent. -/
def withDefault (t : Table) (field : Text) (default : α) (check : Value → Checked α) : Checked α :=
  match Table.get? field t with
  | none => .ok default
  | some v => Checked.inField field (check v)

/-- A value that may be null. -/
def nullable (check : Value → Checked α) : Value → Checked (Option α)
  | .null => .ok none
  | v => (check v).map some

/-- Reads a text that has to be a Unicode string: one without halves of surrogate pairs. -/
def unicode (read : Text → Checked α) (t : Text) : Checked α :=
  if t.any CodePoint.isSurrogate then Checked.refuse .notUnicode else read t

/-- White space around a number; the separators U+001C to U+001F are none. -/
def isMargin (c : CodePoint) : Bool := c.isBlank && !(0x1C ≤ c.val && c.val ≤ 0x1F)

def underscore : CodePoint := .ofChar '_'

/-- No underscore stands at an end or beside another one. -/
def singleUnderscores (t : Text) : Bool :=
  (Text.splitOn (· = underscore) t).all fun piece => !piece.isEmpty

/-- Drops the underscores of a text, unless one stands at an end or beside another. -/
def dropUnderscores (t : Text) : Text :=
  if singleUnderscores t then t.filter (· ≠ underscore) else t

/-- A sign in front of a text. -/
def takeSign : Text → Bool × Text
  | [] => (false, [])
  | c :: rest =>
    if c = CodePoint.ofChar '-' then (true, rest)
    else if c = CodePoint.ofChar '+' then (false, rest)
    else (false, c :: rest)

/-- The code points before and after the first that satisfies `p`. -/
def cut (p : CodePoint → Bool) (t : Text) : Text × Option Text :=
  let before := t.takeWhile fun c => !p c
  match t.dropWhile fun c => !p c with
  | [] => (before, none)
  | _ :: after => (before, some after)

def minus : CodePoint := .ofChar '-'
def zero : CodePoint := .ofChar '0'
def point : CodePoint := .ofChar '.'

/-- Drops a plus sign, which no minus sign may follow. -/
def dropPlus : Text → Option Text
  | [] => some []
  | c :: rest =>
    if c = CodePoint.ofChar '+' then
      if rest.head? = some minus then none else some rest
    else some (c :: rest)

/-- Drops zeros and underscores that lead to a digit or a minus sign; the latest one read is
`last`, and it stays in front of a point and at the end. -/
def dropZerosAfter (last : CodePoint) : Text → Option Text
  | [] => some [last]
  | c :: rest =>
    if c = zero ∨ c = underscore then dropZerosAfter c rest
    else if c.isAsciiDigit ∨ c = minus then some (c :: rest)
    else if c = point then some (last :: c :: rest)
    else none

/-- Drops the zeros at the front of a number. What starts with neither a digit nor a minus sign is
no number. -/
def dropZeros : Text → Option Text
  | [] => none
  | c :: rest =>
    if c = zero then dropZerosAfter c rest
    else if c.isAsciiDigit ∨ c = minus then some (c :: rest)
    else none

/-- Drops a fraction that consists of zeros, at least one. -/
def dropFraction (t : Text) : Text :=
  match cut (· = point) t with
  | (whole, some (c :: fraction)) => if (c :: fraction).all (· = zero) then whole else t
  | _ => t

/-- A minus sign or none, and digits. -/
def plainInteger? (t : Text) : Option (Bool × List Nat) :=
  let (negative, rest) :=
    match t with
    | [] => (false, [])
    | c :: rest => if c = minus then (true, rest) else (false, c :: rest)
  match rest.mapM CodePoint.asciiDigit? with
  | some (d :: digits) => some (negative, d :: digits)
  | _ => none

/-- The characters that an integer may be written with, leading zeros apart. -/
def maxIntegerLength : Nat := 4300

/-- An integer in decimal, with margins: a sign, zeros, digits with single underscores between them,
and a fraction of zeros. -/
def integerOfText (t : Text) : Checked Int :=
  match (dropPlus (Text.trim isMargin t)).bind dropZeros with
  | none => Checked.refuse .unreadableInteger
  | some t =>
    match plainInteger? (dropUnderscores (dropFraction t)) with
    | none => Checked.refuse .unreadableInteger
    | some (negative, digits) =>
      let length := (digits.dropWhile (· = 0)).length + (if negative then 1 else 0)
      if maxIntegerLength < length then Checked.refuse .integerTooLarge
      else
        let size : Int := decimalValue digits
        .ok (if negative then -size else size)

/-- An integer, also as a truth value, a number without fraction, or text. A number has to lie
strictly between the bounds of 64-bit integers. -/
def integer : Value → Checked Int
  | .int n => .ok n
  | .bool b => .ok (if b then 1 else 0)
  | .float x =>
    let b := Binary.ofDouble x
    if !b.isFinite then Checked.refuse .notFinite
    else
      match b.integer? with
      | none => Checked.refuse .fractional
      | some n => if n.natAbs < 0x8000000000000000 then .ok n else Checked.refuse .integerTooLarge
  | .text t => unicode integerOfText t
  | _ => Checked.refuse .notInteger

/-- An integer that is not negative. -/
def natural (v : Value) : Checked Nat :=
  match integer v with
  | .error ps => .error ps
  | .ok (.ofNat n) => .ok n
  | .ok (.negSucc _) => Checked.refuse .negative

/-- A text. -/
def text : Value → Checked Text
  | .text t => .ok t
  | _ => Checked.refuse .notText

/-- One of several values that are known by name. -/
def choice (all : List α) (name : α → Text) : Value → Checked α
  | .text t =>
    unicode (fun t =>
      match all.find? fun a => name a == t with
      | some a => .ok a
      | none => Checked.refuse (.notOneOf (all.map name))) t
  | _ => Checked.refuse (.notOneOf (all.map name))

/-- The basic small letter of a code point. -/
def asciiLower (c : CodePoint) : CodePoint :=
  if c.isAsciiUpper then .ofNat (c.val + 0x20) else c

/-- The digits at the front of a text and what follows them. -/
def takeDigits : Text → List Nat × Text
  | [] => ([], [])
  | c :: rest =>
    match c.asciiDigit? with
    | some d => let (ds, after) := takeDigits rest; (d :: ds, after)
    | none => ([], c :: rest)

/-- The exponent at the end of a number; absent, it is zero. -/
def exponentOfText : Text → Option Int
  | [] => some 0
  | c :: rest =>
    if asciiLower c = CodePoint.ofChar 'e' then
      let (negative, rest) := takeSign rest
      match takeDigits rest with
      | ([], _) => none
      | (ds, []) =>
        let size : Int := decimalValue ds
        some (if negative then -size else size)
      | _ => none
    else none

/-- A number in decimal without margins: sign, digits on at least one side of an optional point,
exponent; or one of the words for an infinite or undefined number. -/
def plainNumber (t : Text) : Option Float :=
  let (negative, rest) := takeSign t
  let word := rest.map asciiLower
  if word == Text.ofString "inf" || word == Text.ofString "infinity" then
    some (if negative then -infinity else infinity)
  else if word == Text.ofString "nan" then some notANumber
  else
    let (whole, rest) := takeDigits rest
    let (fraction, rest) :=
      match rest with
      | c :: after => if c = CodePoint.ofChar '.' then takeDigits after else ([], rest)
      | [] => ([], rest)
    if whole.isEmpty && fraction.isEmpty then none
    else
      (exponentOfText rest).map fun e =>
        floatOfDecimal negative (decimalValue (whole ++ fraction)) (e - fraction.length)

/-- A number in decimal, either with margins or with single underscores. -/
def numberOfText (t : Text) : Checked Float :=
  match plainNumber (Text.trim isMargin t) with
  | some x => .ok x
  | none =>
    match plainNumber (dropUnderscores t) with
    | some x => .ok x
    | none => Checked.refuse .unreadableNumber

/-- The double nearest to an integer. -/
def floatOfInt (n : Int) : Float := floatOfDecimal (n < 0) n.natAbs 0

/-- A number, also as an integer within the range of doubles, a truth value, or text. -/
def number : Value → Checked Float
  | .float x => .ok x.toFloat
  | .int n =>
    let x := floatOfInt n
    if (Binary.ofFloat x).isFinite then .ok x else Checked.refuse .notNumber
  | .bool b => .ok (if b then 1 else 0)
  | .text t => unicode numberOfText t
  | _ => Checked.refuse .notNumber

/-- A number above zero. -/
def positive (v : Value) : Checked Float := do
  let x ← number v
  if 0 < x then return x else Checked.refuse .notPositive

end Validation

end LiveLint
