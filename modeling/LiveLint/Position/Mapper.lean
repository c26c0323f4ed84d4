import LiveLint.Position.Basic

/-!
# Mapping issues to diagnostics

A mapper turns the lines and columns of issues into offsets in its unit. It remembers the lines of
the text that it was asked about last, since all issues of a check belong to one text; every
operation returns its answer together with the mapper that remembers.

A text is handed over as an object that holds it, and the latest one is known again by being the
same object, which takes no look at what it holds. Another object is scanned, even if it holds the
same text.
-/

namespace LiveLint

/-- Objects that hold a text each. Different objects may hold the same one. -/
class TextObject (ι : Type) where
  /-- The text that an object holds; it never holds another one. -/
  content : ι → Text

open TextObject (content)

/-- A text by itself, known by what it says. -/
instance : TextObject Text := ⟨fun t => t⟩

/-- A unit, and the object asked about last with the lines of its text. -/
structure Mapper (ι : Type := Text) where
  unit : OffsetUnit
  memo : Option (ι × List Line) := none

namespace Mapper

variable {ι : Type} [DecidableEq ι] [TextObject ι]

/-- The lines of a text, from memory when its object is the latest one. -/
def lines (m : Mapper ι) (t : ι) : List Line × Mapper ι :=
  match m.memo with
  | some (latest, ls) =>
    if latest = t then (ls, m)
    else (Line.ofText (content t), { m with memo := some (t, Line.ofText (content t)) })
  | none => (Line.ofText (content t), { m with memo := some (t, Line.ofText (content t)) })

/-- The offset of a line and column. -/
def resolve (m : Mapper ι) (t : ι) (line column : Int) : Nat × Mapper ι :=
  let (ls, m) := m.lines t
  (Position.offset m.unit (content t) (Position.index (content t).length ls line column), m)

/-- The range that an issue covers. -/
def resolveRange (m : Mapper ι) (t : ι) (i : Issue) : TextRange × Mapper ι :=
  let (ls, m) := m.lines t
  let start := Position.index (content t).length ls i.line i.startColumn
  let stop := Position.index (content t).length ls i.line i.endColumn
  (Position.range m.unit (content t) start stop, m)

/-- The existing line and column nearest to a line and column. -/
def lineColumn (m : Mapper ι) (t : ι) (line column : Int) : (Nat × Nat) × Mapper ι :=
  let (ls, m) := m.lines t
  (Position.clamp (content t).length ls line column, m)

/-- The diagnostic of an issue. Its line and column are those of the start of the range, which is
inside the buffer, rather than the linter's own. -/
def toDiagnostic (m : Mapper ι) (t : ι) (i : Issue) : Diagnostic × Mapper ι :=
  let ((line, column), m) := m.lineColumn t i.line i.startColumn
  let (range, m) := m.resolveRange t i
  ({ range, severity := i.severity, message := i.message, code := i.code,
     line := some line, column := some column }, m)

/-- The diagnostics of issues, in their order. -/
def toDiagnostics (m : Mapper ι) (t : ι) : List Issue → List Diagnostic × Mapper ι
  | [] => ([], m)
  | i :: rest =>
    let (d, m) := m.toDiagnostic t i
    let (ds, m) := m.toDiagnostics t rest
    (d :: ds, m)

/-- What a mapper can be asked about a text. -/
inductive Question (ι : Type) where
  | resolve (t : ι) (line column : Int)
  | resolveRange (t : ι) (i : Issue)
  | lineColumn (t : ι) (line column : Int)
  | toDiagnostic (t : ι) (i : Issue)
  | toDiagnostics (t : ι) (issues : List Issue)

/-- What a mapper answers. -/
inductive Answer where
  | offset (n : Nat)
  | range (r : TextRange)
  | place (line column : Nat)
  | diagnostic (d : Diagnostic)
  | diagnostics (ds : List Diagnostic)

/-- The answer to a question. -/
def answer (m : Mapper ι) : Question ι → Answer × Mapper ι
  | .resolve t line column =>
    let (n, m) := m.resolve t line column
    (.offset n, m)
  | .resolveRange t i =>
    let (r, m) := m.resolveRange t i
    (.range r, m)
  | .lineColumn t line column =>
    let ((line, column), m) := m.lineColumn t line column
    (.place line column, m)
  | .toDiagnostic t i =>
    let (d, m) := m.toDiagnostic t i
    (.diagnostic d, m)
  | .toDiagnostics t issues =>
    let (ds, m) := m.toDiagnostics t issues
    (.diagnostics ds, m)

/-- What a host does with a mapper: it asks, and at times it changes the unit. -/
inductive Event (ι : Type) where
  | ask (q : Question ι)
  | setUnit (u : OffsetUnit)

/-- An event, and the answer if it was a question. -/
def step (m : Mapper ι) : Event ι → Mapper ι × List Answer
  | .ask q =>
    let (a, m) := m.answer q
    (m, [a])
  | .setUnit u => ({ m with unit := u }, [])

end Mapper

end LiveLint
