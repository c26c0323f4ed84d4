import LiveLint.Session.Command

/-!
# Search paths

How a system finds executables. A name with a slash in it is a path already; any other name is
looked for in the directories of a search path, and is joined with the first one that holds it. A
relative path is seen from the current directory while it is looked up, and from the directory of
the new process when it is run.
-/

namespace LiveLint

/-- Where executables are looked for. -/
structure SearchPath where
  /-- Directories, in order. The empty one is the current directory. -/
  entries : List Text
  /-- Seen from the current directory, the path leads to a file that can be run. -/
  runs : Text → Bool

namespace SearchPath

/-- A name in a directory. -/
def inEntry (entry name : Text) : Text :=
  if entry = [] ∨ entry.getLast? = some Path.slash then entry ++ name
  else entry ++ Path.slash :: name

/-- Finds an executable. -/
def find (s : SearchPath) : Lookup := fun name =>
  if name.contains Path.slash then if s.runs name then some name else none
  else (s.entries.map fun entry => inEntry entry name).find? s.runs

/-- The files that are tried, one after the other, when a process in `directory` with the search
path `entries` is to run a program. -/
def tried (entries : List Text) (directory : Path) (program : Text) : List Path :=
  if program.contains Path.slash then [directory.join (Path.ofText program)]
  else entries.map fun entry => directory.join (Path.ofText (inEntry entry program))

end SearchPath

/-- The directory of a process that is created from the directory `here`. -/
def SessionOptions.workplace (o : SessionOptions) (here : Path) : Path :=
  match o.directory with
  | none => here
  | some d => here.join d

end LiveLint
