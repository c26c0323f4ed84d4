import LiveLint.CommandLine.Check

/-!
# The command line

The program has the commands `check` and `dialects`. `Program.begin` understands a command line and
does all of a command that goes before the linter runs.
-/

namespace LiveLint

namespace Dialects

/-- What the options of the command `dialects` set. -/
inductive Key where
  | root
  | help
deriving DecidableEq

/-- The options of the command. -/
def options : List (OptionSpec Key) :=
  [{ key := .root, names := ["--root", "-r"], takesValue := true
     help := "Project root holding sqlqa configuration." },
   { key := .help, names := ["--help"], help := "Show this message and exit." }]

/-- The parameters of the command, as its help shows them. -/
def parameters : List Parameter := options.map OptionSpec.parameter

/-- Every dialect on a line of its own, with a star at the configured one. -/
def lines (configured : Dialect) : Text :=
  Dialect.all.flatMap fun d =>
    Text.ofString (if d = configured then "* " else "  ") ++ d.name ++ "\n"

/-- Lists the dialects, marking the one that is configured for a project. -/
def run (s : Surroundings) (root : Path) : Printing Ending := do
  match Layers.loadProject s.stack s.files s.environment (Path.resolve s.files.here root) [] with
  | .error f => if f.isConfiguration then return .usage (.configuration f) else throw f
  | .ok settings =>
    Printing.write (lines settings.dialect)
    return .exit 0

end Dialects

namespace Program

/-- The version of the program. -/
def version : Text := "0.0.0"

/-- The commands of the program. -/
inductive Command where
  | check
  | dialects
deriving DecidableEq

namespace Command

/-- Every command. -/
def all : List Command := [.check, .dialects]

/-- The word for a command. -/
def name : Command → Text
  | .check => "check"
  | .dialects => "dialects"

/-- The parameters of a command, as its help shows them. -/
def parameters : Command → List Parameter
  | .check => Check.parameters
  | .dialects => Dialects.parameters

end Command

/-- The options in front of a command. -/
def options : List (OptionSpec Unit) :=
  [{ key := (), names := ["--help"], help := "Show this message and exit." }]

/-- A listing as help prints it. -/
def helpText (l : Listing) : Text :=
  l.sections.flatMap fun s =>
    s.1 ++ ":\n" ++ s.2.flatMap fun p =>
      match p.help with
      | some (written, purpose) => Text.ofString "  " ++ written ++ "  " ++ purpose ++ "\n"
      | none => []

/-- Prints help for some parameters. -/
def printHelp (ps : List Parameter) : Printing Check.Stage := do
  Printing.write (helpText (.ofParameters ps))
  return .over (.exit 0)

/-- Understands the arguments of a command and begins it. -/
def Command.begin (s : Surroundings) (arguments : List Text) : Command → Printing Check.Stage
  | .check => do
    match Reading.read Check.options true arguments with
    | .error e => return .over (.usage e)
    | .ok r =>
      if (r.flag? .help).isSome then printHelp Check.parameters
      else
        match Check.Arguments.ofReading r with
        | .error (.usage e) => return .over (.usage e)
        | .error (.fault f) => throw f
        | .ok a => Check.begin s a
  | .dialects => do
    match Reading.read Dialects.options true arguments with
    | .error e => return .over (.usage e)
    | .ok r =>
      if (r.flag? .help).isSome then printHelp Dialects.parameters
      else
        let root := (r.value? .root).getD "."
        match Fault.ofPath? root, r.operands with
        | some f, _ => throw f
        | none, surplus :: _ => return .over (.usage (.surplusOperand surplus))
        | none, [] => return .over (← Dialects.run s (Path.ofText root))

/-- Understands a command line and begins its command. -/
def begin (s : Surroundings) (arguments : List Text) : Printing Check.Stage := do
  match Reading.read options false arguments with
  | .error e => return .over (.usage e)
  | .ok r =>
    if (r.flag? ()).isSome then printHelp (options.map OptionSpec.parameter)
    else
      match r.operands with
      | [] => return .over (.usage .noCommand)
      | name :: rest =>
        match Command.all.find? fun c => c.name == name with
        | none => return .over (.usage (.unknownCommand name))
        | some c => c.begin s rest

/-! ## What a command line needs -/

/-- The files that a command line looks at, and whether it reads standard input. -/
structure Needs where
  files : List Path := []
  input : Bool := false

/-- The configuration files of a project. -/
def projectFiles (s : Surroundings) (root : Path) : List Path :=
  let root := Path.resolve s.files.here root
  [Layers.projectFile root, Layers.settingsFile root]

/-- What a command needs. -/
def Command.needs (s : Surroundings) (arguments : List Text) : Command → Needs
  | .check =>
    match (Reading.read Check.options true arguments).toOption.bind fun r =>
      (Check.Arguments.ofReading r).toOption with
    | none => {}
    | some a =>
      let documents := (a.file?.map fun p => (s.expandHome p).toOption.toList).getD []
      { files := projectFiles s a.root ++ documents, input := a.file?.isNone }
  | .dialects =>
    match Reading.read Dialects.options true arguments with
    | .error _ => {}
    | .ok r => { files := projectFiles s (Path.ofText ((r.value? .root).getD ".")) }

/-- What a command line needs. -/
def needs (s : Surroundings) (arguments : List Text) : Needs :=
  match Reading.read options false arguments with
  | .ok { operands := name :: rest, .. } =>
    match Command.all.find? fun c => c.name == name with
    | some c => c.needs s rest
    | none => {}
  | _ => {}

/-- The exit code of a program: 2 for a command line that was not understood, 1 for a fault. -/
def exitCode : Except Fault Ending → Nat
  | .ok (.exit code) => code
  | .ok (.usage _) => 2
  | .error _ => 1

end Program

end LiveLint
