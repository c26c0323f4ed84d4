import LiveLint.Text.Basic

/-!
# Paths

A path is a root and the names that lead from it. Reading drops empty names and `.`; two leading
slashes are a root of their own, and `..` is kept, since it may lead elsewhere than to the name
before it.
-/

namespace LiveLint

/-- Where a path starts. -/
inductive PathRoot where
  /-- The current directory. -/
  | relative
  | absolute
  /-- Exactly two slashes. -/
  | double
deriving DecidableEq

/-- A root and the names below it. -/
structure Path where
  root : PathRoot
  names : List Text
deriving DecidableEq

namespace Path

def slash : CodePoint := .ofChar '/'

/-- The parent directory. -/
def up : Text := ".."

/-- The root that a text starts with. -/
def rootOf (t : Text) : PathRoot :=
  match (t.takeWhile (· = slash)).length with
  | 0 => .relative
  | 2 => .double
  | _ => .absolute

/-- Reads a path. -/
def ofText (t : Text) : Path :=
  ⟨rootOf t, (Text.words (· = slash) t).filter fun n => !n.sameAs "."⟩

/-- The text of a root. -/
def rootText : PathRoot → Text
  | .relative => []
  | .absolute => "/"
  | .double => "//"

/-- The text of a path; the current directory is a point. -/
def text (p : Path) : Text :=
  if p.root = .relative ∧ p.names = [] then "." else rootText p.root ++ Text.joinWith [slash] p.names

/-- The path does not depend on the current directory. -/
def isAbsolute (p : Path) : Bool := p.root != .relative

/-- The second path, seen from the directory that the first one leads to. -/
def join (p q : Path) : Path := if q.isAbsolute then q else ⟨p.root, p.names ++ q.names⟩

/-- Follows a name from a chain of directories; the parent of the root is the root. -/
def follow (names : List Text) (name : Text) : List Text :=
  if name = up then names.dropLast else names ++ [name]

/-- The path from the root, without steps to a parent. -/
def resolve (here p : Path) : Path :=
  ⟨.absolute, (here.join p).names.foldl follow []⟩

end Path

end LiveLint
