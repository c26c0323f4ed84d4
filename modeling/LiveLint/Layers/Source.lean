import LiveLint.FileTree
import LiveLint.Layers.Expansion
import LiveLint.Stack
import LiveLint.Toml.Document

/-!
# Sources of settings

Where layers of settings come from: the defaults, a fixed table, a TOML document of its own, or a
section of a project file. A file that does not exist contributes nothing.
-/

namespace LiveLint

/-- A source of settings. -/
inductive Source where
  | defaults
  | fixed (name : Text) (table : Table)
  /-- A document that holds nothing but settings. -/
  | document (path : Path)
  /-- The section `tool.sqlqa` of a project file. -/
  | projectFile (path : Path)

namespace Source

/-- What a source is called. -/
def name : Source → Text
  | .defaults => "defaults"
  | .fixed name _ => name
  | .document path | .projectFile path => path.text

/-- The defaults as a table, without what is absent by default. -/
def defaultTable : Table := (Settings.toTable {}).filter fun e => match e.2 with
  | .null => false
  | _ => true

/-- The table of a TOML file; empty when there is no such file. -/
def readFile (stack : Stack) (tree : FileTree) (path : Path) : Except Fault Table :=
  if tree.isTooLong path then .error (.nameTooLong path.text) else
  match tree.file? path with
  | .error reason => .error (.unopened reason)
  | .ok none => .ok []
  | .ok (some content) =>
    match Utf8.decode content with
    | .error e => .error (.undecodable e)
    | .ok text =>
      match Toml.read stack.document text with
      | .ok t => .ok t
      | .error .malformed => .error (.unreadableConfig path.text)
      | .error (.integerTooLong digits) => .error (.numeral (.tooLong digits))
      | .error .tooDeep => .error .stackExhausted

/-- The section of a project file: `none` when the file has none. -/
def section? (path : Path) (t : Table) : Except Fault Table :=
  match Table.get? "tool" t with
  | some (.table tools) =>
    match Table.get? "sqlqa" tools with
    | none => .ok []
    | some (.table s) => .ok s
    | some _ => .error (.sectionNotTable path.text)
  | _ => .ok []

/-- The table with references to variables replaced, if the stack goes as deep as the table. -/
def expand (stack : Stack) (env : Environment) (t : Table) : Except Fault Table :=
  if stack.expansion < Expansion.levelsOfEntries t then .error .stackExhausted
  else .ok (Expansion.expandEntries env t)

/-- What a source contributes, with references to variables replaced in what was read from files. -/
def load (stack : Stack) (tree : FileTree) (env : Environment) : Source → Except Fault Table
  | .defaults => .ok defaultTable
  | .fixed _ table => .ok table
  | .document path => do expand stack env (← readFile stack tree path)
  | .projectFile path => do expand stack env (← section? path (← readFile stack tree path))

end Source

end LiveLint
