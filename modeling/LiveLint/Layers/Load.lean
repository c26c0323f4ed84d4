import LiveLint.Layers.Merge
import LiveLint.Layers.Source

/-!
# Layered settings

The settings of a project: every source laid over the ones before it, and the overrides of the
caller on top. An override that is null counts as absent, and a relative directory is seen from the
root of the project.
-/

namespace LiveLint

namespace Layers

/-- The file of a project that holds settings beside other things. -/
def projectFile (root : Path) : Path := root.join (Path.ofText "pyproject.toml")

/-- The file of a project that holds nothing but settings. -/
def settingsFile (root : Path) : Path := root.join (Path.ofText ".sqlqa.toml")

/-- The sources of a project, the later ones on top. -/
def projectSources (root : Path) : List Source :=
  [.defaults, .projectFile (projectFile root), .document (settingsFile root)]

/-- The tables of the sources, laid over one another. -/
def merge (stack : Stack) (tree : FileTree) (env : Environment) (sources : List Source) :
    Except Fault Table :=
  sources.foldlM (fun t s => do return Table.overlay t (← s.load stack tree env)) []

/-- The overrides that are not null. -/
def given (overrides : Table) : Table := overrides.filter fun e => match e.2 with
  | .null => false
  | _ => true

/-- The table with its relative directory seen from a root. -/
def anchor (root : Path) (t : Table) : Table :=
  let key := Settings.Field.directory.key
  match Table.get? key t with
  | some (.text d) =>
    if (Path.ofText d).isAbsolute then t
    else Table.insert key (.text (root.join (Path.ofText d)).text) t
  | _ => t

/-- The fault of a path that is followed name by name, from a chain of names on. -/
def faultFrom? (done : List Text) : List Text → Option Fault
  | [] => none
  | name :: rest =>
    let next := Path.follow done name
    (Fault.ofPath? (Path.text ⟨.absolute, next⟩)).or (faultFrom? next rest)

/-- The path from the root, without steps to a parent; each name on the way has to be one that the
system takes. -/
def resolve (tree : FileTree) (p : Path) : Except Fault Path :=
  match faultFrom? [] (tree.here.join p).names with
  | some f => .error f
  | none => .ok (Path.resolve tree.here p)

/-- The settings from some sources with overrides; `root` is the root of the project. -/
def load (stack : Stack) (tree : FileTree) (env : Environment) (root : Path)
    (sources : List Source) (overrides : Table) : Except Fault Settings := do
  if sources.isEmpty then throw .noSources
  let root ← resolve tree root
  let t := Table.overlay (← merge stack tree env sources) (given overrides)
  Settings.ofValue (.table (anchor root t))

/-- The settings of a project. -/
def loadProject (stack : Stack) (tree : FileTree) (env : Environment) (root : Path)
    (overrides : Table) : Except Fault Settings :=
  load stack tree env root (projectSources root) overrides

end Layers

end LiveLint
