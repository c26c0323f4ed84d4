import LiveLint.CommandLine.Listing
import LiveLint.Fault
import LiveLint.Text.Quoted

/-!
# Reading command-line arguments

Options have long names (`--name`, also `--name=value`) and short ones (`-n`, also `-nvalue`, and
several flags together). An option with a value takes the next argument, whatever it looks like; two
dashes end the options, a single dash is an operand. Of several values for one option the last one
counts, and only that one has to be valid.
-/

namespace LiveLint

/-- Why a command line cannot be understood. -/
inductive UsageError where
  | noCommand
  | unknownCommand (name : Text)
  | unknownOption (name : Text)
  | missingValue (option : Text)
  | unexpectedValue (option : Text)
  | invalidValue (option value : Text)
  | surplusOperand (operand : Text)
  | missingFile (path : Text)
  | configuration (f : Fault)

/-- The wording of a usage error. -/
def UsageError.message : UsageError → Text
  | .noCommand => "Missing command."
  | .unknownCommand name => Text.ofString "No such command '" ++ name ++ "'."
  | .unknownOption name => Text.ofString "No such option: " ++ name
  | .missingValue option => Text.ofString "Option '" ++ option ++ "' requires an argument."
  | .unexpectedValue option => Text.ofString "Option '" ++ option ++ "' does not take a value."
  | .invalidValue option value =>
    Text.ofString "Invalid value for '" ++ option ++ "': " ++ Text.quoted value
  | .surplusOperand operand => Text.ofString "Got unexpected extra argument (" ++ operand ++ ")"
  | .missingFile path => Text.ofString "SQL file not found: " ++ path
  | .configuration f => f.message

/-- What an option does to its key. -/
inductive Setting where
  | value (t : Text)
  | flag (on : Bool)
deriving DecidableEq

/-- An option of a command; `κ` is the type of the keys that options set. -/
structure OptionSpec (κ : Type) where
  key : κ
  names : List Text
  /-- The names that unset a flag. -/
  unsetNames : List Text := []
  takesValue : Bool := false
  /-- What the option is for. -/
  help : Text

namespace OptionSpec

/-- The option as help shows it. -/
def parameter {κ : Type} (o : OptionSpec κ) : Parameter :=
  { names := o.names, unsetNames := o.unsetNames
    help := some (Text.joinWith ", " (o.names ++ o.unsetNames), o.help) }

/-- The option with a name, and whether the name sets it. -/
def find? {κ : Type} (options : List (OptionSpec κ)) (name : Text) :
    Option (OptionSpec κ × Bool) :=
  options.findSome? fun o =>
    if o.names.contains name then some (o, true)
    else if o.unsetNames.contains name then some (o, false)
    else none

end OptionSpec

/-- What was read from a command line. -/
structure Reading (κ : Type) where
  /-- The settings in the order of the arguments. -/
  settings : List (κ × Setting) := []
  operands : List Text := []

namespace Reading

variable {κ : Type}

def dash : CodePoint := .ofChar '-'

/-- An argument that is an option: a dash and more. -/
def isOption : Text → Bool
  | c :: _ :: _ => c = dash
  | _ => false

/-- The name of a long option, and the value that follows an equals sign. -/
def splitLong (argument : Text) : Text × Option Text :=
  let isEquals (c : CodePoint) : Bool := c = CodePoint.ofChar '='
  match argument.dropWhile fun c => !isEquals c with
  | [] => (argument, none)
  | _ :: value => (argument.takeWhile fun c => !isEquals c, some value)

/-- The settings of some short options written together, and the last of them if its value is
still to come. -/
def shortSettings (options : List (OptionSpec κ)) :
    Text → Except UsageError (List (κ × Setting) × Option (OptionSpec κ))
  | [] => .ok ([], none)
  | c :: rest =>
    match OptionSpec.find? options [dash, c] with
    | none => .error (.unknownOption [dash, c])
    | some (o, on) =>
      if o.takesValue then
        if rest.isEmpty then .ok ([], some o) else .ok ([(o.key, .value rest)], none)
      else
        (shortSettings options rest).map fun r => ((o.key, .flag on) :: r.1, r.2)

/-- The settings of an argument that is an option, and the option whose value is still to come. -/
def optionSettings (options : List (OptionSpec κ)) (argument : Text) :
    Except UsageError (List (κ × Setting) × Option (OptionSpec κ)) :=
  let (name, value) := splitLong argument
  if Parameter.isLong argument then
    match OptionSpec.find? options name, value with
    | none, _ => .error (.unknownOption name)
    | some (o, _), some v =>
      if o.takesValue then .ok ([(o.key, .value v)], none) else .error (.unexpectedValue name)
    | some (o, on), none =>
      if o.takesValue then .ok ([], some o) else .ok ([(o.key, .flag on)], none)
  else shortSettings options argument.tail

/-- Reads arguments; `awaiting` is an option whose value is the next argument. Where options and
operands do not mix, the first operand ends the options. -/
def readFrom (options : List (OptionSpec κ)) (mixed : Bool) (awaiting : Option (OptionSpec κ)) :
    List Text → Except UsageError (Reading κ)
  | [] =>
    match awaiting with
    | none => .ok {}
    | some o => .error (.missingValue (o.names.headD []))
  | a :: rest =>
    match awaiting with
    | some o => do
      let r ← readFrom options mixed none rest
      return { r with settings := (o.key, .value a) :: r.settings }
    | none =>
      if a.sameAs "--" then .ok { operands := rest }
      else if isOption a then do
        let (settings, awaiting) ← optionSettings options a
        let r ← readFrom options mixed awaiting rest
        return { r with settings := settings ++ r.settings }
      else if mixed then do
        let r ← readFrom options mixed none rest
        return { r with operands := a :: r.operands }
      else .ok { operands := a :: rest }

/-- Reads arguments. -/
def read (options : List (OptionSpec κ)) (mixed : Bool) (arguments : List Text) :
    Except UsageError (Reading κ) :=
  readFrom options mixed none arguments

variable [DecidableEq κ]

/-- The value of an option, the last one given. -/
def value? (r : Reading κ) (key : κ) : Option Text :=
  r.settings.reverse.findSome? fun s =>
    match s.2 with
    | .value t => if s.1 = key then some t else none
    | .flag _ => none

/-- A flag, as it was set last. -/
def flag? (r : Reading κ) (key : κ) : Option Bool :=
  r.settings.reverse.findSome? fun s =>
    match s.2 with
    | .flag on => if s.1 = key then some on else none
    | .value _ => none

end Reading

end LiveLint
