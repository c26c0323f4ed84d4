import LiveLint.Console.StyledText
import LiveLint.Text.Digit
import LiveLint.Text.Pattern
import LiveLint.Text.Word

/-!
# Highlights

What stands out in a title on a terminal with colours: tags, attributes, brackets, addresses of
networks and machines, calls, numbers, paths, texts in quotes and locations. Every kind has a style
of its own in the theme.
-/

namespace LiveLint

namespace Highlight

open Pattern

/-! ## Classes of code points -/

/-- One of some characters. -/
def among (cs : String) (c : CodePoint) : Bool := (Text.ofString cs).contains c

/-- A hexadecimal digit. -/
def isHexadecimal (c : CodePoint) : Bool := c.hexDigit?.isSome

/-- A part of a name in a path. -/
def isPathName (c : CodePoint) : Bool := c.isWord || among "-._+" c

/-- A part of a location. -/
def isLocation (c : CodePoint) : Bool :=
  c.isAsciiLetter || c.isAsciiDigit || among "-$_+!\x60(),.?/;:&=%#~@" c

/-! ## Places -/

/-- A word starts or ends here. -/
def wordEdge : Pattern := .between fun a b => a.any CodePoint.isWord != b.any CodePoint.isWord

/-- No word starts or ends here. -/
def noWordEdge : Pattern := .between fun a b => a.any CodePoint.isWord == b.any CodePoint.isWord

/-- The code point before is none of these. -/
def notAfter (p : CodePoint → Bool) : Pattern := .between fun a _ => !a.any p

/-! ## Kinds -/

/-- A tag between angle brackets, with its name. -/
def tag : Pattern :=
  sequence
    [.part "tag_start" (exactly "<"),
     .part "tag_name" (star (.one fun c => c.isWord || among "-.:|" c)),
     .part "tag_contents" (star (.one fun _ => true)),
     .part "tag_end" (exactly ">")]

/-- A name before an equals sign, and the word after it. -/
def assignment : Pattern :=
  let quote := maybe (exactly "\"")
  sequence
    [.part "attrib_name" (upTo 50 (.one CodePoint.isWord)), exactly "=",
     maybe (.part "attrib_value" (sequence [quote, plus (.one CodePoint.isWord), quote]))]

/-- A bracket of any kind but angle brackets. -/
def brace : Pattern := .part "brace" (.one (among "[]\x7b\x7d()"))

/-- Four numbers with points between them. -/
def ipv4 : Pattern :=
  let number := upTo 3 (.one CodePoint.isAsciiDigit)
  .part "ipv4" (sequence
    [number, exactly ".", number, exactly ".", number, exactly ".", number])

/-- Up to eight groups of hexadecimal digits, with colons between them. -/
def ipv6 : Pattern :=
  let group := upTo 4 (.one isHexadecimal)
  .part "ipv6" (sequence
    [upTo 7 (sequence [group, exactly ":", maybe (exactly ":")]), group])

/-- The address of a machine: pairs of digits with dashes or colons between them, or groups of four
digits with points. -/
def machine (name : String) (pairs groups : Nat) : Pattern :=
  let pair := upTo 2 (.one isHexadecimal)
  let group := times 4 (.one isHexadecimal)
  .part name (anyOf
    [sequence [times pairs (sequence [pair, exactly "-"]), pair],
     sequence [times pairs (sequence [pair, exactly ":"]), pair],
     sequence [times groups (sequence [group, exactly "."]), group]])

/-- Five groups of hexadecimal digits with dashes between them. -/
def uuid : Pattern :=
  let group (n : Nat) : Pattern := times n (.one isHexadecimal)
  .part "uuid" (sequence
    [group 8, exactly "-", group 4, exactly "-", group 4, exactly "-", group 4, exactly "-",
     group 12])

/-- A name before a parenthesis. -/
def call : Pattern :=
  sequence
    [.part "call" (.many true 0 none (.one fun c => c.isWord || among "." c)), exactly "("]

/-- A word on its own. -/
def word (name text : String) : Pattern :=
  sequence [wordEdge, .part name (exactly text), wordEdge]

/-- Digits with a fraction. -/
def decimal : Pattern :=
  sequence
    [plus (.one CodePoint.isAsciiDigit), maybe (exactly "."), star (.one CodePoint.isAsciiDigit)]

/-- An exponent, as short as possible. -/
def power : Pattern :=
  sequence [exactly "e", maybe (.one (among "-+")), .many true 1 none (.one CodePoint.isDecimal)]

/-- A sum of a number and a multiple of the imaginary unit. -/
def complexNumber : Pattern :=
  let second :=
    sequence
      [.one (among "-+"), decimal,
       maybe (sequence
         [exactly "e", maybe (.one (among "-+")), plus (.one CodePoint.isDecimal)])]
  .part "number_complex" (sequence
    [notAfter CodePoint.isWord, maybe (exactly "-"), decimal, maybe power, maybe second,
     exactly "j"])

/-- A number in decimal or in hexadecimal digits. -/
def number : Pattern :=
  .part "number" (.alt
    (sequence
      [notAfter CodePoint.isWord, maybe (exactly "-"), decimal, maybe power, wordEdge])
    (sequence [exactly "0x", star (.one isHexadecimal)]))

/-- A path, and the name of a file after it. -/
def path : Pattern :=
  sequence
    [.part "path" (sequence
      [noWordEdge, star (sequence [exactly "/", plus (.one isPathName)]), exactly "/"]),
     maybe (.part "filename" (star (.one isPathName)))]

/-- A text on one line between quotes, of which the second is not escaped. -/
def between (quote : String) : Pattern :=
  sequence
    [maybe (exactly "b"), exactly quote, .many true 0 none (.one fun c => !c.is '\n'),
     notAfter fun c => c.is '\\', exactly quote]

/-- A text in quotes of some kind. -/
def quoted : Pattern :=
  sequence
    [notAfter fun c => c.isWord || c.is '\\',
     .part "str" (anyOf [between "'''", between "'", between "\"\"\"", between "\""])]

/-- A location with the way to get there. -/
def location : Pattern :=
  .part "url" (sequence
    [anyOf [exactly "file", exactly "https", exactly "http", exactly "ws", exactly "wss"],
     exactly "://", star (.one isLocation)])

/-- Everything that is looked for at once: the first kind that fits counts. -/
def thing : Pattern :=
  anyOf
    [ipv4, ipv6, machine "eui64" 7 3, machine "eui48" 5 2, uuid, call, word "bool_true" "True",
     word "bool_false" "False", word "none" "None", .part "ellipsis" (exactly "..."),
     complexNumber, number, path, quoted, location]

/-! ## Spans -/

/-- The patterns, in the order in which they are looked for. -/
def patterns : List Pattern := [tag, assignment, brace, thing]

/-- The span of a part, if there is something in it. -/
def span? (p : Part) : Option Span :=
  if p.start < p.stop then some ⟨p.start, p.stop, Text.ofString "repr." ++ p.name⟩ else none

/-- What stands out in a text. -/
def spans (t : Text) : List Span := patterns.flatMap fun p => (p.parts t).filterMap span?

end Highlight

end LiveLint
