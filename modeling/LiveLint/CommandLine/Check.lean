import LiveLint.CommandLine.Arguments
import LiveLint.CommandLine.Surroundings
import LiveLint.Console.Basic
import LiveLint.Position.Mapper

/-!
# The command `check`

Lints one document and prints its diagnostics. The command has two parts with the linter between
them: `begin` finds the settings and the document, and `Job.finish` prints what the linter found. A
clean document gives exit code 0, diagnostics give 1, and a check that failed gives 2.
-/

namespace LiveLint

/-- How diagnostics are printed. -/
inductive OutputFormat where
  | text
  | json
deriving DecidableEq

namespace OutputFormat

/-- Every format. -/
def all : List OutputFormat := [.text, .json]

/-- The word for a format. -/
def name : OutputFormat → Text
  | .text => "text"
  | .json => "json"

end OutputFormat

/-- How a command ends, when no fault escapes from it. -/
inductive Ending where
  | exit (code : Nat)
  | usage (e : UsageError)

namespace Check

/-- What the options of the command set. -/
inductive Key where
  | dialect
  | executable
  | timeout
  | offsetUnit
  | format
  | root
  | verbose
  | colour
  | emoji
  | help
deriving DecidableEq

/-- The options of the command. -/
def options : List (OptionSpec Key) :=
  [{ key := .dialect, names := ["--dialect", "-d"], takesValue := true
     help := "SQL dialect to lint against." },
   { key := .executable, names := ["--executable"], takesValue := true
     help := "Linter executable name or path." },
   { key := .timeout, names := ["--timeout"], takesValue := true
     help := "Kill the linter after this many seconds." },
   { key := .offsetUnit, names := ["--offset-unit"], takesValue := true
     help := "Unit used for reported range offsets." },
   { key := .format, names := ["--format", "-f"], takesValue := true, help := "Output format." },
   { key := .root, names := ["--root", "-r"], takesValue := true
     help := "Project root holding sqlqa configuration." },
   { key := .verbose, names := ["--verbose", "-v"], help := "Log session lifecycle events." },
   { key := .colour, names := ["--color"], unsetNames := ["--no-color"]
     help := "Colourise output." },
   { key := .emoji, names := ["--emoji"], unsetNames := ["--no-emoji"]
     help := "Decorate output with emoji." },
   { key := .help, names := ["--help"], help := "Show this message and exit." }]

/-- The argument of the command. -/
def file : Parameter :=
  { name := some "path", isArgument := true
    help := some ("[FILE]", "SQL file to lint; omit or pass '-' to read standard input.") }

/-- The parameters of the command, as its help shows them. -/
def parameters : List Parameter := file :: options.map OptionSpec.parameter

/-- The arguments of the command. -/
structure Arguments where
  /-- The document; nothing stands for standard input. -/
  path : Option Path := none
  dialect : Option Dialect := none
  executable : Option Text := none
  timeout : Option Float := none
  offsetUnit : Option OffsetUnit := none
  format : OutputFormat := .text
  root : Path := Path.ofText "."
  verbose : Bool := false
  colour : Bool := true
  emoji : Bool := true

/-- Every underscore stands between two digits. -/
def digitsAround : Option CodePoint → Text → Bool
  | _, [] => true
  | before, c :: rest =>
    (c ≠ CodePoint.ofChar '_' || ((before.map CodePoint.isAsciiDigit).getD false
      && (rest.head?.map CodePoint.isAsciiDigit).getD false)) && digitsAround (some c) rest

/-- A number of seconds in decimal, with margins and single underscores. -/
def seconds? (t : Text) : Option Float :=
  let t := t.strip
  if digitsAround none t then Validation.plainNumber (t.filter (· ≠ CodePoint.ofChar '_')) else none

/-- A value of a kind, by its exact name. -/
def named? (all : List α) (name : α → Text) (t : Text) : Option α := all.find? fun a => name a == t

/-! ## Understanding the arguments -/

/-- Why the arguments cannot be used: they make no sense, or the system does not take them. -/
inductive Refusal where
  | usage (e : UsageError)
  | fault (f : Fault)

/-- The refusal of the value of an option, if it has one that nothing is meant by. -/
def refuse (r : Reading Key) (key : Key) (option : Text) (means : Text → Option α) :
    Option Refusal :=
  match r.value? key with
  | some t => if (means t).isNone then some (.usage (.invalidValue option t)) else none
  | none => none

def dialect? (t : Text) : Option Dialect := named? Dialect.all Dialect.name t
def offsetUnit? (t : Text) : Option OffsetUnit := named? OffsetUnit.all OffsetUnit.name t
def format? (t : Text) : Option OutputFormat := named? OutputFormat.all OutputFormat.name t

/-- What is wrong with the value of an option. -/
def refusal? (r : Reading Key) : Key → Option Refusal
  | .dialect => refuse r .dialect "--dialect" dialect?
  | .timeout => refuse r .timeout "--timeout" seconds?
  | .offsetUnit => refuse r .offsetUnit "--offset-unit" offsetUnit?
  | .format => refuse r .format "--format" format?
  | .root => ((r.value? .root).bind Fault.ofPath?).map .fault
  | _ => none

/-- The arguments that were read. The options are looked at in the order in which they were first
given, then the document. -/
def Arguments.ofReading (r : Reading Key) : Except Refusal Arguments :=
  match (r.settings.map Prod.fst).findSome? (refusal? r) with
  | some e => .error e
  | none =>
    match r.operands.head?.bind Fault.ofPath?, r.operands with
    | some f, _ => .error (.fault f)
    | none, _ :: surplus :: _ => .error (.usage (.surplusOperand surplus))
    | none, operands =>
      .ok {
        path := operands.head?.map Path.ofText
        dialect := (r.value? .dialect).bind dialect?
        executable := r.value? .executable
        timeout := (r.value? .timeout).bind seconds?
        offsetUnit := (r.value? .offsetUnit).bind offsetUnit?
        format := ((r.value? .format).bind format?).getD .text
        root := Path.ofText ((r.value? .root).getD ".")
        verbose := (r.flag? .verbose).getD false
        colour := (r.flag? .colour).getD true
        emoji := (r.flag? .emoji).getD true }

/-- What the arguments set in the settings; null where nothing was given. -/
def Arguments.overrides (a : Arguments) : Table :=
  [(Settings.Field.dialect.key, Value.ofOption (fun d => .text d.name) a.dialect),
   (Settings.Field.executable.key, Value.ofOption .text a.executable),
   (Settings.Field.timeout.key, Value.ofOption (fun x => .float (.ofFloat x)) a.timeout),
   (Settings.Field.offsetUnit.key, Value.ofOption (fun u => .text u.name) a.offsetUnit)]

/-- The console that the arguments ask for, with lines of some width. -/
def Arguments.console (a : Arguments) (s : Surroundings) (width : Nat) : Console :=
  { colour := a.colour, emoji := a.emoji, terminal := s.terminal, width }

/-- A document that is to be linted. -/
structure Job where
  /-- What the document is called in output. -/
  label : Text
  text : Text
  settings : Settings
  arguments : Arguments
  console : Console

/-- Where the first part of the command leads to. -/
inductive Stage where
  | over (e : Ending)
  | lint (job : Job)

/-- The path of the document, unless it is read from standard input. -/
def Arguments.file? (a : Arguments) : Option Path := a.path.filter fun p => !p.text.sameAs "-"

/-- The document to lint with its label, or the path where there is none. -/
def readSource (s : Surroundings) (a : Arguments) :
    Except Fault (Except Text (Text × Text)) := do
  match a.file? with
  | none => return .ok ("<stdin>", ← Surroundings.document s.input)
  | some p =>
    let found ← s.expandHome p
    if s.files.isTooLong found then throw (.nameTooLong found.text)
    match s.files.file? found with
    | .error reason => throw (.unopened reason)
    | .ok none => return .error p.text
    | .ok (some bytes) => return .ok (p.text, ← Surroundings.document bytes)

/-- Finds the settings and the document. -/
def begin (s : Surroundings) (a : Arguments) : Printing Stage := do
  let width ← s.width
  let root := Path.resolve s.files.here a.root
  match Layers.loadProject s.stack s.files s.environment root a.overrides with
  | .error f =>
    if f.isConfiguration then return .over (.usage (.configuration f)) else throw f
  | .ok settings =>
    match readSource s a with
    | .error f => throw f
    | .ok (.error path) => return .over (.usage (.missingFile path))
    | .ok (.ok (label, text)) =>
      let console := a.console s width
      if text.isBlank then
        match a.format with
        | .text => console.notify .warning (label ++ ": document is empty, nothing to lint")
        | .json => Printing.write (Diagnostic.writeAll [] (some 2) ++ "\n")
        return .over (.exit 0)
      if a.verbose && a.format = .text then
        console.notify .info (Text.ofString "linting " ++ label ++ " with " ++ settings.executable
          ++ " (" ++ settings.dialect.name ++ ")")
      return .lint { label, text, settings, arguments := a, console }

/-- The line for a diagnostic. -/
def line (label : Text) (d : Diagnostic) : StyledText :=
  let place (n : Option Int) : Text := (n.map Text.ofInt).getD "None"
  .plain (label ++ ":" ++ place d.line ++ ":" ++ place d.column ++ ": ")
    ++ .inStyle d.severity.colour.name d.severity.name
    ++ .plain (Text.ofString " " ++ d.message ++ " [" ++ Text.ofNat d.range.start ++ ":"
      ++ Text.ofNat d.range.stop ++ "]")

/-- Prints diagnostics below a heading, or that there are none. -/
def report (c : Console) (label : Text) (ds : List Diagnostic) : Printing Unit := do
  if ds.isEmpty then c.notify .ok (label ++ ": no issues found")
  else
    c.heading label
    ds.forM fun d => c.print (line label d)

/-- Prints what became of a check. -/
def Job.finish (job : Job) (result : Except Failure (List Diagnostic)) : Printing Ending := do
  match result with
  | .error (.fault f) => throw f
  | .error (.lint e) =>
    job.console.notify .failure e.message
    return .exit 2
  | .ok ds =>
    match job.arguments.format with
    | .text => report job.console job.label ds
    | .json => Printing.write (Diagnostic.writeAll ds (some 2) ++ "\n")
    return .exit (if ds.isEmpty then 0 else 1)

end Check

end LiveLint
