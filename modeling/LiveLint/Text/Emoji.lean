import LiveLint.Text.EmojiNames
import LiveLint.Text.Blank
import LiveLint.Text.LowerCase

/-!
# Emoji by name

A name between two colons stands for an emoji. The name holds no blank space, and `-emoji` or
`-text` after it asks for one of the two forms of the symbol. What is no name stays as it is, both
of its colons with it.
-/

namespace LiveLint

namespace Emoji

/-- Pairs of neighbouring words. -/
def pairs : List Text → List (Text × Text)
  | name :: symbol :: rest => (name, symbol) :: pairs rest
  | _ => []

/-- Every name with its symbol. -/
def all : List (Text × Text) :=
  emojiLines.flatMap fun line => pairs (Text.blankWords (Text.ofString line))

/-- The symbol of a name, in any case. -/
def symbol? (name : Text) : Option Text :=
  let name := name.lower
  (all.find? fun e => e.1 == name).map Prod.snd

/-- The endings that ask for a form of a symbol, and the selectors of the forms. -/
def forms : List (Text × CodePoint) :=
  [("-emoji", .ofNat 0xFE0F), ("-text", .ofNat 0xFE0E)]

/-- The start of a text that ends in `ending`. -/
def dropSuffix? (ending t : Text) : Option Text :=
  (Text.dropPrefix? ending.reverse t.reverse).map List.reverse

/-- The symbol for what stands between two colons. -/
def named? (body : Text) : Option Text :=
  match forms.findSome? fun f => (dropSuffix? f.1 body).map fun name => (name, f.2) with
  | some (name, selector) => (symbol? name).map fun s => s ++ [selector]
  | none => symbol? body

def colon : CodePoint := .ofChar ':'

/-- Replaces names in what follows; `held` is what was read since a colon, the latest first. -/
def expandFrom (held : Option Text) : Text → Text
  | [] =>
    match held with
    | none => []
    | some body => colon :: body.reverse
  | c :: rest =>
    match held with
    | none => if c = colon then expandFrom (some []) rest else c :: expandFrom none rest
    | some body =>
      if c = colon then
        (named? body.reverse).getD (colon :: body.reverse ++ [colon]) ++ expandFrom none rest
      else if c.isBlank then colon :: body.reverse ++ c :: expandFrom none rest
      else expandFrom (some (c :: body)) rest

/-- Replaces the names of emoji by their symbols. -/
def expand (t : Text) : Text := expandFrom none t

/-- A text without colons stays as it is. -/
theorem expand_of_colon_notMem {t : Text} (h : colon ∉ t) : expand t = t := by
  unfold expand
  induction t with
  | nil => rfl
  | cons c rest ih =>
    simp only [List.mem_cons, not_or] at h
    simp [expandFrom, Ne.symm h.1, ih h.2]

end Emoji

end LiveLint
