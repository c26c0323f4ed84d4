import LiveLint.Text.Digit
import LiveLint.Text.LowerCase
import LiveLint.Text.Quoted
import LiveLint.Text.Word

/-!
# Literal values

The values that an action in a title is given: numbers, texts in quotes and names, alone or in
brackets with commas between them, with signs and operators. `Literal.fault?` finds out why a text
is no such value. Brackets and quotes that do not fit are found before anything else.
-/

namespace LiveLint

namespace Literal

/-- Why a text is no value. -/
inductive Error where
  | neverClosed (opening : CodePoint)
  | unmatched (closing : CodePoint)
  | mismatched (opening closing : CodePoint)
  /-- A quote without its end on the same line. -/
  | unterminated (line : Nat)
  /-- A number that runs into a word. -/
  | badNumber (kind : Text)
  /-- Two values without anything between them. -/
  | commaMissing
  | malformed
deriving DecidableEq

/-- The wording of an error. -/
def Error.message : Error → Text
  | .neverClosed b => Text.ofString "'" ++ [b] ++ "' was never closed"
  | .unmatched b => Text.ofString "unmatched '" ++ [b] ++ "'"
  | .mismatched a b =>
    Text.ofString "closing parenthesis '" ++ [b] ++ "' does not match opening parenthesis '" ++ [a]
      ++ "'"
  | .unterminated line =>
    Text.ofString "unterminated string literal (detected at line " ++ Text.ofNat line ++ ")"
  | .badNumber kind => Text.ofString "invalid " ++ kind ++ " literal"
  | .commaMissing => "invalid syntax. Perhaps you forgot a comma?"
  | .malformed => "invalid syntax"

/-! ## Parts of a value -/

/-- The parts that a value is written in. -/
inductive Part where
  /-- A name or a number. -/
  | word (isName : Bool)
  | quoted
  /-- A number with letters after it. -/
  | badNumber (kind : Text)
  /-- A quote that does not end on its line. -/
  | openQuote (line : Nat)
  | opening (c : CodePoint)
  | closing (c : CodePoint)
  | comma
  | colon
  /-- A sign in front of a value or between two values. -/
  | sign
  /-- Something that stands between two values only. -/
  | operator
  /-- Something that stands nowhere. -/
  | stray
deriving DecidableEq

/-- What a reader is in the middle of. -/
inductive Mode where
  | nothing
  /-- A word, read so far, the latest code point first. -/
  | word (read : Text)
  /-- A text after its opening quote; the next code point may be escaped. -/
  | quoted (quote : CodePoint) (escaped : Bool)
  | comment
deriving DecidableEq

/-- One of some characters. -/
def isOneOf (cs : String) (c : CodePoint) : Bool := (Text.ofString cs).contains c

/-- The part that a single character is. -/
def partOf (c : CodePoint) : Part :=
  if isOneOf "([\x7b" c then .opening c
  else if isOneOf ")]\x7d" c then .closing c
  else if c.is ',' then .comma
  else if c.is ':' then .colon
  else if isOneOf "+-~" c then .sign
  else if isOneOf "*/%@&|^<>" c then .operator
  else .stray

/-- What follows the digits at the front of a text, which may have low lines between them. -/
def afterDigits (isDigit : CodePoint → Bool) (t : Text) : Text :=
  t.dropWhile fun c => isDigit c || c.is '_'

/-- The kind of a number that a word starts with, and what follows the number. -/
def numberIn (word : Text) : Text × Text :=
  match Text.dropPrefix? "0x" word.lower with
  | some digits => ("hexadecimal", afterDigits (fun c => c.hexDigit?.isSome) digits)
  | none =>
    let rest := afterDigits CodePoint.isAsciiDigit word
    let rest := match rest with
      | c :: fraction => if c.is '.' then afterDigits CodePoint.isAsciiDigit fraction else rest
      | [] => []
    let rest := match rest with
      | e :: d :: power =>
        if isOneOf "eE" e && d.isAsciiDigit then afterDigits CodePoint.isAsciiDigit power else rest
      | rest => rest
    match rest with
    | j :: after => if isOneOf "jJ" j then ("imaginary", after) else ("decimal", rest)
    | [] => ("decimal", [])

/-- The part that a word is. What starts with a digit, also after points, is a number; three points
are a name, and points alone or before another name are nothing. An exponent may be cut off before
its sign. -/
def wordOf (word : Text) : Part :=
  if word.all fun c => c.is '.' then if word.length = 3 then .word true else .stray
  else
    match word.dropWhile fun c => c.is '.' with
    | c :: _ =>
      if c.isDecimal then
        let (kind, after) := numberIn word
        if after.isEmpty || after.head?.any (fun c => c.is '.') || after.sameAs "e" then .word false
        else .badNumber kind
      else if word.head? = some c then .word true
      else .stray
    | [] => .stray

/-- Words in front of a quote that belong to it. -/
def quotePrefixes : List Text := ["b", "r", "u", "br", "rb"]

/-- The part that was read before a character that belongs to no word. -/
def partBefore (mode : Mode) (c : CodePoint) : List Part :=
  match mode with
  | .word word =>
    if isOneOf "'\"" c && quotePrefixes.contains (Text.lower word.reverse) then []
    else [wordOf word.reverse]
  | _ => []

/-- The parts of a text that starts on a line. -/
def partsFrom (line : Nat) : Mode → Text → List Part
  | .word word, [] => [wordOf word.reverse]
  | .quoted _ _, [] => [.openQuote line]
  | _, [] => []
  | .quoted q escaped, c :: rest =>
    if escaped then partsFrom line (.quoted q false) rest
    else if c = q then .quoted :: partsFrom line .nothing rest
    else if c.is '\n' then [.openQuote line]
    else partsFrom line (.quoted q (c.is '\\')) rest
  | mode, c :: rest =>
    if mode = .comment && !c.is '\n' then partsFrom line .comment rest
    else if c.isWord || c.is '.' then
      match mode with
      | .word word => partsFrom line (.word (c :: word)) rest
      | _ => partsFrom line (.word [c]) rest
    else
      partBefore mode c ++
        (if c.is '\n' then partsFrom (line + 1) .nothing rest
        else if isOneOf " \t" c then partsFrom line .nothing rest
        else if c.is '#' then partsFrom line .comment rest
        else if isOneOf "'\"" c then partsFrom line (.quoted c false) rest
        else partOf c :: partsFrom line .nothing rest)

/-! ## Brackets and quotes -/

/-- The bracket that closes another one. -/
def closes (opening closing : CodePoint) : Bool :=
  (opening.is '(' && closing.is ')') || (opening.is '[' && closing.is ']')
    || (opening.is '\x7b' && closing.is '\x7d')

/-- The brackets that stay open, the latest first, if some are open before; or the first bracket,
quote or number that does not fit. -/
def opened (before : List CodePoint) : List Part → Except Error (List CodePoint)
  | [] => .ok before
  | .opening c :: rest => opened (c :: before) rest
  | .closing c :: rest =>
    match before with
    | [] => .error (.unmatched c)
    | o :: others => if closes o c then opened others rest else .error (.mismatched o c)
  | .openQuote line :: _ => .error (.unterminated line)
  | .badNumber kind :: _ => .error (.badNumber kind)
  | _ :: rest => opened before rest

/-! ## Order -/

/-- What was read before a place in a value. -/
inductive Before where
  /-- Nothing, or an opening bracket. -/
  | opening
  | comma
  /-- Something that a value has to follow. -/
  | demand
  /-- A value, which may be a name or a text in quotes. -/
  | value (isName isQuoted : Bool)
deriving DecidableEq

/-- What is wrong with the order of some parts. -/
inductive Disorder where
  /-- They end too early. -/
  | unfinished
  /-- A value follows another one inside brackets. -/
  | adjacent
  | misplaced
deriving DecidableEq

/-- The disorder of a value that follows another one. -/
def adjacent (depth : Nat) : Disorder := if depth = 0 then .misplaced else .adjacent

/-- The first part that is out of order; `depth` brackets are open. -/
def disorder? (depth : Nat) : Before → List Part → Option Disorder
  | .value _ _, [] | .comma, [] => none
  | .opening, [] | .demand, [] => some .unfinished
  | .value isName isQuoted, part :: rest =>
    match part with
    | .word _ => some (adjacent depth)
    | .quoted =>
      if isQuoted then disorder? depth (.value false true) rest
      else some (if isName then .misplaced else adjacent depth)
    | .opening c =>
      if c.is '\x7b' then some (adjacent depth) else disorder? (depth + 1) .opening rest
    | .closing _ => disorder? (depth - 1) (.value false false) rest
    | .comma => disorder? depth .comma rest
    | .colon => if depth = 0 then some .misplaced else disorder? depth .demand rest
    | .sign | .operator => disorder? depth .demand rest
    | .badNumber _ | .openQuote _ | .stray => some .misplaced
  | before, part :: rest =>
    match part with
    | .word name => disorder? depth (.value name false) rest
    | .quoted => disorder? depth (.value false true) rest
    | .opening _ => disorder? (depth + 1) .opening rest
    | .closing _ =>
      if before = .demand then some .misplaced
      else disorder? (depth - 1) (.value false false) rest
    | .sign => disorder? depth .demand rest
    | _ => some .misplaced

/-- The error of a disorder while brackets are open. A bracket that is not closed is noticed where
the parts are read to their end. -/
def errorOf (opened : List CodePoint) : Disorder → Error
  | .misplaced => .malformed
  | .unfinished => opened.head?.elim .malformed .neverClosed
  | .adjacent => opened.head?.elim .commaMissing .neverClosed

/-- Why a text is no value, if it is none. -/
def fault? (t : Text) : Option Error :=
  let parts := partsFrom 1 .nothing t
  match opened [] parts with
  | .error e => some e
  | .ok left => ((disorder? 0 .opening parts).map (errorOf left)).or (left.head?.map .neverClosed)

end Literal

end LiveLint
