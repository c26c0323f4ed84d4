import LiveLint.Console.Colour
import LiveLint.Text.Blank

/-!
# Styles

How writing is shown: colours, and attributes such as bold or underlined, each of which may be asked
for, refused, or left to the surroundings. A style is written in words: the names of attributes,
`not` before one that is refused, a colour, `on` before a colour of the background, and `link`
before an address. What a later word asks for counts.
-/

namespace LiveLint

/-- What writing may be besides coloured. -/
inductive Attribute where
  | bold
  | dim
  | italic
  | underline
  | blink
  | blink2
  | reverse
  | conceal
  | strike
  | underline2
  | frame
  | encircle
  | overline
deriving DecidableEq

namespace Attribute

/-- Every attribute, in the order in which a style lists them. -/
def all : List Attribute :=
  [.bold, .dim, .italic, .underline, .blink, .blink2, .reverse, .conceal, .strike, .underline2,
   .frame, .encircle, .overline]

/-- The word for an attribute. -/
def name : Attribute → Text
  | .bold => "bold"
  | .dim => "dim"
  | .italic => "italic"
  | .underline => "underline"
  | .blink => "blink"
  | .blink2 => "blink2"
  | .reverse => "reverse"
  | .conceal => "conceal"
  | .strike => "strike"
  | .underline2 => "underline2"
  | .frame => "frame"
  | .encircle => "encircle"
  | .overline => "overline"

/-- The number by which a terminal knows an attribute. -/
def code : Attribute → Nat
  | .bold => 1
  | .dim => 2
  | .italic => 3
  | .underline => 4
  | .blink => 5
  | .blink2 => 6
  | .reverse => 7
  | .conceal => 8
  | .strike => 9
  | .underline2 => 21
  | .frame => 51
  | .encircle => 52
  | .overline => 53

/-- The short word for an attribute. -/
def shortName? : Attribute → Option Text
  | .bold => some "b"
  | .dim => some "d"
  | .italic => some "i"
  | .underline => some "u"
  | .reverse => some "r"
  | .conceal => some "c"
  | .strike => some "s"
  | .underline2 => some "uu"
  | .overline => some "o"
  | _ => none

/-- The attribute that a word asks for, in small letters. -/
def ofName? (t : Text) : Option Attribute :=
  all.find? fun a => a.name == t || a.shortName? == some t

end Attribute

/-- How writing is shown. What is absent is as in the surroundings. -/
structure Style where
  /-- The attributes that are asked for or refused. -/
  asks : Attribute → Option Bool := fun _ => none
  colour : Option Colour := none
  background : Option Colour := none
  link : Option Text := none

namespace Style

/-- The style with an attribute asked for or refused. -/
def set (s : Style) (a : Attribute) (on : Bool) : Style :=
  { s with asks := fun b => if b = a then some on else s.asks b }

/-- The second style inside the first one. -/
def inside (outer inner : Style) : Style where
  asks a := (inner.asks a).or (outer.asks a)
  colour := inner.colour.or outer.colour
  background := inner.background.or outer.background
  link := inner.link.or outer.link

/-! ## Writing a style in words -/

/-- The words for one attribute. -/
def attributeWords (s : Style) (a : Attribute) : List Text :=
  match s.asks a with
  | none => []
  | some true => [a.name]
  | some false => [Text.ofString "not " ++ a.name]

/-- The words that ask for a style. -/
def wordsOf (s : Style) : List Text :=
  Attribute.all.flatMap (attributeWords s)
    ++ s.colour.elim [] (fun c => [c.name])
    ++ s.background.elim [] (fun c => [("on" : Text), c.name])
    ++ s.link.elim [] (fun address => [("link" : Text), address])

/-- A style in words. -/
def text (s : Style) : Text :=
  if s.wordsOf.isEmpty then "none" else Text.joinWith " " s.wordsOf

/-! ## Reading a style -/

/-- Reads words that add to a style; nothing if one of them has no meaning. -/
def readWords (s : Style) : List Text → Except Numeral.Error (Option Style)
  | [] => .ok (some s)
  | [word] =>
    match Attribute.ofName? word.lower with
    | some a => .ok (some (s.set a true))
    | none => do return (← Colour.read word).map fun c => { s with colour := some c }
  | word :: argument :: rest =>
    if word.lower.sameAs "on" then do
      match ← Colour.read argument with
      | some c => readWords { s with background := some c } rest
      | none => return none
    else if word.lower.sameAs "not" then
      match Attribute.ofName? argument with
      | some a => readWords (s.set a false) rest
      | none => .ok none
    else if word.lower.sameAs "link" then readWords { s with link := some argument } rest
    else
      match Attribute.ofName? word.lower with
      | some a => readWords (s.set a true) (argument :: rest)
      | none => do
        match ← Colour.read word with
        | some c => readWords { s with colour := some c } (argument :: rest)
        | none => return none

/-- Reads a style from words; nothing if they ask for none. -/
def read (t : Text) : Except Numeral.Error (Option Style) :=
  if t.strip.sameAs "none" then .ok (some {}) else readWords {} (Text.blankWords t)

/-- The name by which styles are compared: the words of the style that is read, or the text itself
in small letters. -/
def nameOf (t : Text) : Except Numeral.Error Text := do
  match ← read t with
  | some s => return s.text
  | none => return t.strip.lower

/-! ## Showing a style -/

/-- The numbers that tell a terminal to show a style. -/
def codes (s : Style) : List Nat :=
  (Attribute.all.filter fun a => s.asks a == some true).map Attribute.code
    ++ s.colour.elim [] (fun c => [c.code]) ++ s.background.elim [] (fun c => [c.backgroundCode])

/-- Text as a terminal is told to show it in a style. -/
def paint (s : Style) (t : Text) : Text :=
  if t.isEmpty || s.codes.isEmpty then t
  else
    Text.ofString "\x1b[" ++ Text.joinWith ";" (s.codes.map Text.ofNat) ++ "m" ++ t ++ "\x1b[0m"

end Style

end LiveLint
