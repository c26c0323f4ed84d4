import LiveLint.Fault
import LiveLint.Path
import LiveLint.Position.Basic
import LiveLint.Settings.Dialect
import LiveLint.Text.LowerCase

/-!
# Settings

How the linter is run on a buffer. Settings are read from a table field by field: each field has its
own check, the problems of all fields are reported in the order of the fields, and keys that are no
field come last. Assigning one field of existing settings goes through the same check, so that
settings that were reached by any route satisfy it.
-/

namespace LiveLint

/-- The variables of a process: names with their values, each name once. -/
abbrev Environment := List (Text × Text)

namespace Environment

/-- The value of a variable. -/
def get? (name : Text) (env : Environment) : Option Text :=
  (env.find? fun e => e.1 == name).map Prod.snd

/-- Sets a variable: in its place, or at the end. -/
def set (name value : Text) : Environment → Environment
  | [] => [(name, value)]
  | (n, v) :: rest => if n = name then (n, value) :: rest else (n, v) :: set name value rest

/-- The variables of both; those of the second count. -/
def extend (env more : Environment) : Environment := more.foldl (fun e m => set m.1 m.2 e) env

end Environment

/-- The settings of a buffer. -/
structure Settings where
  executable : Text := "sqlfluff"
  dialect : Dialect := .ansi
  extraArguments : List Text := []
  /-- Seconds after which the linter is killed. -/
  timeout : Option Float := none
  offsetUnit : OffsetUnit := .codePoint
  directory : Option Path := none
  /-- Variables that the linter gets in addition to ours. -/
  environment : Environment := []

namespace Settings

/-- A field of settings. -/
inductive Field where
  | executable
  | dialect
  | extraArguments
  | timeout
  | offsetUnit
  | directory
  | environment
deriving DecidableEq

namespace Field

/-- Every field, in the order in which problems are reported. -/
def all : List Field :=
  [.executable, .dialect, .extraArguments, .timeout, .offsetUnit, .directory, .environment]

/-- The key of a field. -/
def key : Field → Text
  | .executable => "executable"
  | .dialect => "dialect"
  | .extraArguments => "extra_args"
  | .timeout => "timeout"
  | .offsetUnit => "offset_unit"
  | .directory => "cwd"
  | .environment => "env"

/-- The field with that key. -/
def ofKey? (k : Text) : Option Field := all.find? fun f => f.key == k

end Field

/-- An executable is a text that is not blank; margins are dropped. -/
def checkExecutable (v : Value) : Checked Text := do
  let t := (← Validation.text v).strip
  if t.isEmpty then Checked.refuse (.rule "executable must not be empty") else return t

/-- A dialect is named in any case, with margins. -/
def checkDialect (v : Value) : Checked Dialect :=
  Validation.choice Dialect.all Dialect.name <|
    match v with
    | .text t => .text t.strip.lower
    | v => v

/-- The texts of a list from index `start` on. -/
def checkTexts (start : Nat) : List Value → Checked (List Text)
  | [] => .ok []
  | v :: rest =>
    Checked.apply ((Checked.inField (Text.ofNat start) (Validation.text v)).map List.cons)
      (checkTexts (start + 1) rest)

/-- Further arguments are a list of texts. -/
def checkArguments : Value → Checked (List Text)
  | .list items => checkTexts 0 items
  | _ => Checked.refuse .notTuple

/-- A directory is given by a path. -/
def checkPath : Value → Checked Path
  | .text t => .ok (Path.ofText t)
  | _ => Checked.refuse .notPath

/-- The variables of a table of texts. -/
def checkVariables : Table → Checked Environment
  | [] => .ok []
  | (k, v) :: rest =>
    Checked.apply ((Checked.inField k (Validation.text v)).map fun t => List.cons (k, t))
      (checkVariables rest)

/-- An environment is a table of texts. -/
def checkEnvironment : Value → Checked Environment
  | .table t => checkVariables t
  | _ => Checked.refuse .notTable

/-- Checks a value for a field; the answer puts it into settings. -/
def check (field : Field) (v : Value) : Checked (Settings → Settings) :=
  Checked.inField field.key <|
    match field with
    | .executable => (checkExecutable v).map fun a s => { s with executable := a }
    | .dialect => (checkDialect v).map fun a s => { s with dialect := a }
    | .extraArguments => (checkArguments v).map fun a s => { s with extraArguments := a }
    | .timeout =>
      (Validation.nullable Validation.positive v).map fun a s => { s with timeout := a }
    | .offsetUnit =>
      (Validation.choice OffsetUnit.all OffsetUnit.name v).map fun a s => { s with offsetUnit := a }
    | .directory => (Validation.nullable checkPath v).map fun a s => { s with directory := a }
    | .environment => (checkEnvironment v).map fun a s => { s with environment := a }

/-- The checks of the fields that a table has. -/
def checks (t : Table) : List (Checked (Settings → Settings)) :=
  Field.all.filterMap fun f => (Table.get? f.key t).map (check f)

/-- The keys of a table that are no field. -/
def unknownKeys (t : Table) : List Text := t.keys.filter fun k => (Field.ofKey? k).isNone

/-- The settings of a table; fields that it lacks have their defaults. An unknown key that is no
Unicode string is the only problem that is reported. -/
def ofTable (t : Table) : Checked Settings :=
  let extra := (unknownKeys t).map fun k => (⟨[k], .extra⟩ : Problem)
  if (unknownKeys t).any fun k => k.any CodePoint.isSurrogate then Checked.refuse .notUnicode
  else match Checked.sequence (checks t), extra with
  | .ok puts, [] => .ok (puts.foldl (fun s put => put s) {})
  | fields, extra => .error (fields.problems ++ extra)

/-- The settings of a value, which has to be a table. -/
def ofValue : Value → Except Fault Settings
  | .table t => (ofTable t).mapError .invalidConfig
  | _ => .error (.invalidConfig [⟨[], .notModel "LintConfig"⟩])

/-- Every field as a table; reading it gives the settings back. -/
def toTable (s : Settings) : Table :=
  [(Field.executable.key, .text s.executable), (Field.dialect.key, .text s.dialect.name),
   (Field.extraArguments.key, .list (s.extraArguments.map .text)),
   (Field.timeout.key, Value.ofOption (fun x => .float (.ofFloat x)) s.timeout),
   (Field.offsetUnit.key, .text s.offsetUnit.name),
   (Field.directory.key, Value.ofOption (fun p => .text p.text) s.directory),
   (Field.environment.key, .table (s.environment.map fun e => (e.1, .text e.2)))]

/-- The word for the settings that are copied; no override can have that name. -/
def copiedName : Text := "self"

/-- A copy with other values for some fields. -/
def override (s : Settings) (overrides : Table) : Except Fault Settings :=
  if overrides.keys.contains copiedName then .error (.givenTwice copiedName)
  else ofValue (.table (overrides.foldl (fun t o => Table.insert o.1 o.2 t) s.toTable))

/-- A name for notes of the host, which no setting is called. -/
def isPrivateName (key : Text) : Bool := key.head? = some (CodePoint.ofChar '_')

/-- The settings with another value for one field. Private names can be assigned at will and change
no setting. -/
def assign (s : Settings) (key : Text) (v : Value) : Except Fault Settings :=
  match Field.ofKey? key with
  | none =>
    if isPrivateName key then .ok s else .error (.validation [⟨[key], .unknownAttribute key⟩])
  | some f =>
    match check f v with
    | .ok put => .ok (put s)
    | .error ps => .error (.validation ps)

/-- The command line that lints a text from standard input. -/
def command (s : Settings) : List Text :=
  [s.executable, "lint", "--dialect", s.dialect.name, "--format", "github-annotation",
   "--disable-progress-bar"] ++ s.extraArguments ++ [Text.ofString "-"]

end Settings

/-- How a linter process is run: in which directory, with which further variables, for how many
seconds at most, and in which encoding its streams are. -/
structure SessionOptions where
  directory : Option Path := none
  environment : Option Environment := none
  timeout : Option Float := none
  encoding : Encoding := .utf8

namespace SessionOptions

/-- The variables of the process when ours are `outer`; none when they are ours unchanged. -/
def childEnvironment (o : SessionOptions) (outer : Environment) : Option Environment :=
  match o.environment with
  | none | some [] => none
  | some more => some (outer.extend more)

/-- The options for settings. -/
def ofSettings (s : Settings) : SessionOptions :=
  { directory := s.directory
    environment := if s.environment.isEmpty then none else some s.environment
    timeout := s.timeout }

end SessionOptions

end LiveLint
