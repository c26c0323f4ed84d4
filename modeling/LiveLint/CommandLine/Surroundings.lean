import LiveLint.Layers.Load
import LiveLint.Issue.Output

/-!
# What a command finds

The files, the environment and the standard input of a command, whether its output goes to a
terminal, and how far the stack goes down.
-/

namespace LiveLint

namespace Text

/-- The text with every line end as a line feed. -/
def unifyLineEnds : Text → Text
  | [] => []
  | [c] => [if c.is '\r' then .ofChar '\n' else c]
  | c :: d :: rest =>
    if c.is '\r' then
      if d.is '\n' then unifyLineEnds (d :: rest) else .ofChar '\n' :: unifyLineEnds (d :: rest)
    else c :: unifyLineEnds (d :: rest)

end Text

/-- What surrounds a command. -/
structure Surroundings where
  files : FileTree
  environment : Environment
  input : Bytes := []
  terminal : Bool := false
  /-- The home directories of other people. -/
  homes : List (Text × Path) := [("root", Path.ofText "/root")]
  stack : Stack := .usual

namespace Surroundings

/-- How a command understands the output of the linter. -/
def parser (s : Surroundings) : OutputParser := { levels := s.stack.output }

/-- Decodes what was read, in UTF-8 with line ends of any kind. -/
def document (bytes : Bytes) : Except Fault Text :=
  match Utf8.decode bytes with
  | .ok t => .ok t.unifyLineEnds
  | .error e => .error (.undecodable e)

/-- The home directory, without slashes at its end. -/
def home (s : Surroundings) : Except Fault Path :=
  match s.environment.get? "HOME" with
  | none => .ok (Path.ofText "/")
  | some t =>
    if t.head?.any fun c => c.is '~' then .error .unknownHome
    else
      let t := Text.trimRight (· = Path.slash) t
      .ok (Path.ofText (if t.isEmpty then "/" else t))

/-- The home directory of a person; nobody in particular is the one who runs the command. -/
def homeOf (s : Surroundings) (person : Text) : Except Fault Path :=
  if person.isEmpty then s.home
  else
    match s.homes.find? fun e => e.1 == person with
    | some (_, p) => .ok p
    | none => .error .unknownHome

/-- The path with a leading `~`, which may be followed by the name of a person, replaced by a home
directory. -/
def expandHome (s : Surroundings) (p : Path) : Except Fault Path :=
  match p.root, p.names with
  | .relative, (c :: person) :: others =>
    if c.is '~' then do
      let home ← s.homeOf person
      return { home with names := home.names ++ others }
    else .ok p
  | _, _ => .ok p

/-- The number that a variable gives, if it holds nothing but digits. -/
def number? (s : Surroundings) (name : Text) : Except Fault (Option Nat) :=
  match s.environment.get? name with
  | none | some [] => .ok none
  | some t =>
    if t.all CodePoint.isDigit then
      match Numeral.read t with
      | .ok n => .ok (some n)
      | .error e => .error (.numeral e)
    else .ok none

/-- The width of a line, in cells. The number of lines has to make sense as well. -/
def width (s : Surroundings) : Except Fault Nat := do
  let columns ← s.number? "COLUMNS"
  let _ ← s.number? "LINES"
  return columns.getD 80

end Surroundings

end LiveLint
