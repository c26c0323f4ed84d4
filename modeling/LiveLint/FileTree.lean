import LiveLint.Path
import LiveLint.Text.Utf8

/-!
# File trees

What is on disk, as far as it is looked at: files with their bytes, and directories. Every directory
on the way to an entry exists. The system may refuse to open a file, or to look anything up in a
directory; what it says then is kept.
-/

namespace LiveLint

/-- What a path leads to. -/
inductive FileNode where
  | file (content : Bytes)
  /-- A file that the system does not open. -/
  | locked (reason : Text)
  | directory
  /-- A directory in which the system looks nothing up. -/
  | sealed (reason : Text)

/-- The entries below the root directory, and the current directory. -/
structure FileTree where
  entries : List (List Text × FileNode)
  here : Path

namespace FileTree

/-- The node at the end of a chain of names. -/
def node? (tree : FileTree) (names : List Text) : Option FileNode :=
  match tree.entries.find? fun e => e.1 == names with
  | some (_, node) => some node
  | none =>
    if names.isEmpty || tree.entries.any fun e => names.isPrefixOf e.1 then some .directory
    else none

/-- Walks from a chain of names; each step but the last has to lead to a directory. What lies in a
sealed directory cannot be told from a locked file. -/
def walk (tree : FileTree) (names : List Text) : List Text → Option FileNode
  | [] => tree.node? names
  | name :: rest =>
    match tree.node? names with
    | some .directory => walk tree (Path.follow names name) rest
    | some (.sealed reason) => some (.locked reason)
    | _ => none

/-- What a path leads to, seen from the current directory. -/
def lookup (tree : FileTree) (p : Path) : Option FileNode :=
  walk tree [] (tree.here.join p).names

/-- The bytes of a file; nothing for a directory or where there is no entry, and what the system
says where it refuses. -/
def file? (tree : FileTree) (p : Path) : Except Text (Option Bytes) :=
  match tree.lookup p with
  | some (.file content) => .ok (some content)
  | some (.locked reason) => .error reason
  | _ => .ok none

/-! ## Limits -/

/-- The bytes of the longest name. -/
def maxName : Nat := 255

/-- The bytes of the longest path. -/
def maxPath : Nat := 4095

/-- The walk from a chain of names comes to a name that is too long. -/
def walksTooLong (tree : FileTree) (names : List Text) : List Text → Bool
  | [] => false
  | name :: rest =>
    match tree.node? names with
    | some .directory =>
      maxName < (Utf8.encode name).length || walksTooLong tree (Path.follow names name) rest
    | _ => false

/-- A path cannot be followed, because it or a name in it is too long. -/
def isTooLong (tree : FileTree) (p : Path) : Bool :=
  maxPath < (Utf8.encode p.text).length || tree.walksTooLong [] (tree.here.join p).names

end FileTree

end LiveLint
