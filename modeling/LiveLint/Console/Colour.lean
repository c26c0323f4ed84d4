import LiveLint.Console.ColourNames
import LiveLint.Text.LowerCase
import LiveLint.Text.Numeral

/-!
# Colours

A colour has a name, which is how it was asked for, and says what a terminal is to show: its own
default, one of 256 numbered colours, or a mixture of red, green and blue. Terminals are sent one of
sixteen basic colours only, the one that is nearest to what was asked for.
-/

namespace LiveLint

/-- What a terminal is to show. -/
inductive Ink where
  /-- The colour that the terminal has by itself. -/
  | own
  | numbered (n : Nat)
  | mixed (red green blue : Nat)
deriving DecidableEq

/-- An ink, and the name by which it was asked for. -/
structure Colour where
  name : Text
  ink : Ink
deriving DecidableEq

/-! ## Basic colours -/

/-- Amounts of red, green and blue, up to 255 each. -/
structure Mixture where
  red : Nat
  green : Nat
  blue : Nat

namespace Mixture

/-- The sixteen basic colours, in the order of their numbers. -/
def basic : List Mixture :=
  [⟨0, 0, 0⟩, ⟨170, 0, 0⟩, ⟨0, 170, 0⟩, ⟨170, 85, 0⟩, ⟨0, 0, 170⟩, ⟨170, 0, 170⟩, ⟨0, 170, 170⟩,
   ⟨170, 170, 170⟩, ⟨85, 85, 85⟩, ⟨255, 85, 85⟩, ⟨85, 255, 85⟩, ⟨255, 255, 85⟩, ⟨85, 85, 255⟩,
   ⟨255, 85, 255⟩, ⟨85, 255, 255⟩, ⟨255, 255, 255⟩]

/-- The six steps of each amount in a cube of 216 colours. -/
def step : Nat → Nat
  | 0 => 0
  | n + 1 => 95 + 40 * n

/-- The mixture of a numbered colour above the basic ones: a cube of colours from 16 on, and a scale
of greys from 232 on. -/
def ofNumber (n : Nat) : Mixture :=
  if n < 232 then ⟨step ((n - 16) / 36), step ((n - 16) / 6 % 6), step ((n - 16) % 6)⟩
  else ⟨8 + 10 * (n - 232), 8 + 10 * (n - 232), 8 + 10 * (n - 232)⟩

/-- How far two amounts are apart. -/
def gap (m n : Nat) : Nat := max m n - min m n

/-- How different two mixtures look: differences in red count more the redder the mixtures are,
differences in blue less. -/
def distance (a b : Mixture) : Nat :=
  let red := (a.red + b.red) / 2
  (512 + red) * gap a.red b.red * gap a.red b.red / 256 + 4 * gap a.green b.green * gap a.green b.green
    + (767 - red) * gap a.blue b.blue * gap a.blue b.blue / 256

/-- The first of some numbered mixtures that is nearest to `a`; `best` is the number of the nearest
one before them and its distance. -/
def nearestFrom (a : Mixture) (number : Nat) (best : Nat × Nat) : List Mixture → Nat
  | [] => best.1
  | b :: rest =>
    nearestFrom a (number + 1) (if distance a b < best.2 then (number, distance a b) else best) rest

/-- The number of the basic colour nearest to a mixture. -/
def nearest (a : Mixture) : Nat := nearestFrom a 1 (0, distance a ⟨0, 0, 0⟩) basic.tail

end Mixture

/-- The number of the basic colour that is shown for an ink. -/
def Ink.basic? : Ink → Option Nat
  | .own => none
  | .numbered n => some (if n < 16 then n else (Mixture.ofNumber n).nearest)
  | .mixed r g b => some (Mixture.nearest ⟨r, g, b⟩)

namespace Colour

/-- The number by which a terminal knows a colour of writing. -/
def code (c : Colour) : Nat :=
  match c.ink.basic? with
  | none => 39
  | some n => if n < 8 then 30 + n else 82 + n

/-- The number by which a terminal knows a colour behind writing. -/
def backgroundCode (c : Colour) : Nat := c.code + 10

/-! ## Colours of this library -/

/-- One of the sixteen basic colours. -/
def basic (name : Text) (n : Nat) : Colour := ⟨name, .numbered n⟩

def red : Colour := .basic "red" 1
def green : Colour := .basic "green" 2
def yellow : Colour := .basic "yellow" 3
def blue : Colour := .basic "blue" 4
def cyan : Colour := .basic "cyan" 6

/-! ## Reading -/

/-- What stands between an opening text and a closing parenthesis. -/
def between? (opening : String) (t : Text) : Option Text :=
  match (Text.dropPrefix? opening t).map List.reverse with
  | some (c :: rest) => if c.is ')' then some rest.reverse else none
  | _ => none

/-- Six hexadecimal digits after a number sign. -/
def hexadecimal? (t : Text) : Option Ink :=
  match (Text.dropPrefix? "#" t).bind fun digits => digits.mapM CodePoint.hexDigit? with
  | some [a, b, c, d, e, f] => some (.mixed (16 * a + b) (16 * c + d) (16 * e + f))
  | _ => none

/-- The number of a colour, in one to three digits. -/
def numbered? (t : Text) : Option Ink :=
  match (between? "color(" t).bind fun digits => digits.mapM CodePoint.asciiDigit? with
  | some (d :: digits) =>
    if digits.length ≤ 2 && decimalValue (d :: digits) ≤ 255 then
      some (.numbered (decimalValue (d :: digits)))
    else none
  | _ => none

/-- Three numerals with commas between them. Where commas and digits are all there is, each of three
pieces has to be a numeral. -/
def mixed? (t : Text) : Except Numeral.Error (Option Ink) :=
  let isComma (c : CodePoint) : Bool := c.is ','
  match between? "rgb(" t with
  | none => .ok none
  | some body =>
    if body.all fun c => c.isDecimal || isComma c then
      match Text.splitOn isComma body with
      | [r, g, b] => do
        let r ← Numeral.read r
        let g ← Numeral.read g
        let b ← Numeral.read b
        return if r ≤ 255 && g ≤ 255 && b ≤ 255 then some (.mixed r g b) else none
      | _ => .ok none
    else .ok none

/-- Reads a colour, in letters of any case; nothing for a word that asks for no colour. -/
def read (word : Text) : Except Numeral.Error (Option Colour) :=
  let name := word.lower
  let named (ink : Ink) : Colour := ⟨name, ink⟩
  if name.sameAs "default" then .ok (some (named .own))
  else
    match colourNames.find? fun e => name.sameAs e.1 with
    | some (_, n) => .ok (some (named (.numbered n)))
    | none =>
      match hexadecimal? name, numbered? name with
      | some ink, _ | none, some ink => .ok (some (named ink))
      | none, none => return (← mixed? name).map named

end Colour

end LiveLint
