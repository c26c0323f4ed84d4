import LiveLint.Console.Highlight
import LiveLint.Console.Rule
import LiveLint.Fault

/-!
# Consoles

Where messages for a user are printed. A console may show colours, if it is also a terminal, and may
decorate messages with emoji. `Printing` is a computation that prints: what it has printed before
it ends with a fault stays printed.
-/

namespace LiveLint

/-- Prints text, and may end with a fault. -/
abbrev Printing := ExceptT Fault (StateM Text)

namespace Printing

/-- Prints a text as it is. -/
def put (t : Text) : Printing Unit := modify fun out => out ++ t

/-- Prints a text in UTF-8; one that has no such form is not printed at all. -/
def write (t : Text) : Printing Unit :=
  match Utf8.surrogates? t with
  | some s => throw (.unprintable s)
  | none => put t

/-- What a computation ends with, and all that it prints. -/
def output (p : Printing α) : Except Fault α × Text := p.run.run []

end Printing

/-- What standard output may be. -/
inductive OutputStream where
  | missing
  | closed
  | terminal
  | other
deriving DecidableEq

/-- Standard output is there and is a terminal. -/
def OutputStream.isTerminal (s : OutputStream) : Bool := s = .terminal

/-- The kinds of messages. -/
inductive Notice where
  | info
  | ok
  | warning
  | failure
deriving DecidableEq

namespace Notice

/-- The emoji of a message, with the space after it. -/
def symbol : Notice → Text
  | .info => "ℹ️ "
  | .ok => "✅ "
  | .warning => "⚠️ "
  | .failure => "❌ "

/-- The colour of a message. -/
def colour : Notice → Colour
  | .info => .cyan
  | .ok => .green
  | .warning => .yellow
  | .failure => .red

end Notice

/-- What a console may show. -/
structure Console where
  colour : Bool
  emoji : Bool
  terminal : Bool
  /-- Cells in a line. -/
  width : Nat := 80
  /-- What is printed is written in UTF-8. -/
  encoded : Bool := true
deriving DecidableEq

namespace Console

/-- Colours are shown: they are wanted, and there is a terminal to show them. -/
def showsColours (c : Console) : Bool := c.colour && c.terminal

/-- Prints styled text as a line, or as several where it holds line breaks. Nothing fits on a
console without cells. -/
def print (c : Console) (t : StyledText) : Printing Unit :=
  if c.width = 0 then pure ()
  else
    match t.print c.showsColours with
    | .error e => throw (.numeral e)
    | .ok shown => (if c.encoded then Printing.write else Printing.put) (shown ++ "\n")

/-- Prints a message. -/
def notify (c : Console) (n : Notice) (message : Text) : Printing Unit :=
  c.print (.inStyle n.colour.name ((if c.emoji then n.symbol else []) ++ message))

/-- What the markup of a title shows, with highlights where colours are shown. -/
def marked (c : Console) (t : Text) : Printing StyledText :=
  match Markup.read t with
  | .error e => throw (.ofMarkup e)
  | .ok shown =>
    let highlights := if c.showsColours then Highlight.spans shown.text else []
    return { shown with spans := highlights ++ shown.spans }

/-- Prints a heading after a blank line: a rule with a title where colours are wanted, and otherwise
the title between dashes. -/
def heading (c : Console) (title : Text) : Printing Unit := do
  if c.colour then
    c.print (.plain [])
    if title.isEmpty || c.width = 0 then c.print (Rule.plain c.width)
    else c.print (Rule.titled c.width (← c.marked title))
  else c.print (← c.marked (Text.ofString "\n--- " ++ title ++ " ---"))

end Console

/-! ## Shared consoles -/

/-- The consoles in use, each once, in the order of their first use. -/
structure Consoles where
  inUse : List Console := []

namespace Consoles

/-- The number of a console, which is taken into use if it is not yet. -/
def number (s : Consoles) (c : Console) : Nat × Consoles :=
  match s.inUse.findIdx? (· == c) with
  | some i => (i, s)
  | none => (s.inUse.length, ⟨s.inUse ++ [c]⟩)

end Consoles

end LiveLint
