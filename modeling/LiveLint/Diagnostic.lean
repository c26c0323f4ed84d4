import LiveLint.Json.Writer
import LiveLint.Severity
import LiveLint.Validation

/-!
# Diagnostics

An issue as the linter reports it stands at a line and columns; the diagnostic that a host receives
stands at a range of offsets. Ranges carry the proof that they do not end before they start. Both
are built from loose values by validation, and diagnostics are serialised for hosts that read JSON.
-/

namespace LiveLint

/-- An issue from linter output, positioned by line and column. -/
structure Issue where
  line : Int
  startColumn : Int
  endColumn : Int
  message : Text
  severity : Severity
  code : Option Text
deriving DecidableEq

/-- The half-open span of offsets from `start` up to `stop`. -/
structure TextRange where
  start : Nat
  stop : Nat
  start_le_stop : start ≤ stop
deriving DecidableEq

/-- A finished diagnostic for the host. -/
structure Diagnostic where
  range : TextRange
  severity : Severity
  message : Text
  code : Option Text
  line : Option Int
  column : Option Int
deriving DecidableEq

namespace Validation

/-- The severity of that name. -/
def severity : Value → Checked Severity := choice Severity.all Severity.name

end Validation

namespace Issue

/-- An issue from a table of fields; fields that issues do not have are passed over. -/
def ofTable (t : Table) : Checked Issue :=
  open Validation in
  Checked.apply (Checked.apply (Checked.apply (Checked.apply (Checked.apply
    ((required t "line" integer).map Issue.mk)
    (required t "start_column" integer))
    (required t "end_column" integer))
    (required t "message" text))
    (withDefault t "severity" Severity.ofIssue Validation.severity))
    (withDefault t "code" none (nullable text))

/-- The fields of an issue. -/
def toValue (i : Issue) : Value :=
  .table
    [("line", .int i.line), ("start_column", .int i.startColumn), ("end_column", .int i.endColumn),
     ("message", .text i.message), ("severity", .text i.severity.name),
     ("code", Value.ofOption .text i.code)]

end Issue

namespace TextRange

/-- The number of offsets in a range. -/
def length (r : TextRange) : Nat := r.stop - r.start

/-- The range between two offsets, if it does not end before it starts. -/
def between (start stop : Nat) : Checked TextRange :=
  if h : start ≤ stop then .ok ⟨start, stop, h⟩
  else
    Checked.refuse (.rule (Text.ofString "range end " ++ Text.ofNat stop ++ " precedes start "
      ++ Text.ofNat start))

/-- A range from a table of fields. -/
def ofTable (t : Table) : Checked TextRange :=
  open Validation in
  match Checked.apply ((required t "start" natural).map Prod.mk) (required t "end" natural) with
  | .ok (start, stop) => between start stop
  | .error ps => .error ps

/-- A range from a value, which has to be a table. -/
def ofValue : Value → Checked TextRange
  | .table t => ofTable t
  | _ => Checked.refuse (.notModel "TextRange")

/-- The fields of a range. -/
def toValue (r : TextRange) : Value := .table [("start", .int r.start), ("end", .int r.stop)]

end TextRange

namespace Diagnostic

/-- A diagnostic from a table of fields. -/
def ofTable (t : Table) : Checked Diagnostic :=
  open Validation in
  Checked.apply (Checked.apply (Checked.apply (Checked.apply (Checked.apply
    ((required t "range" TextRange.ofValue).map Diagnostic.mk)
    (required t "severity" Validation.severity))
    (required t "message" text))
    (withDefault t "code" none (nullable text)))
    (withDefault t "line" none (nullable integer)))
    (withDefault t "column" none (nullable integer))

/-- The serialised form of a diagnostic. -/
def toValue (d : Diagnostic) : Value :=
  .table
    [("range", d.range.toValue), ("line", Value.ofOption .int d.line),
     ("column", Value.ofOption .int d.column), ("severity", .text d.severity.name),
     ("message", .text d.message), ("code", Value.ofOption .text d.code)]

/-- Diagnostics as a JSON list, laid out with an indent or on one line. -/
def writeAll (ds : List Diagnostic) (indent : Option Int) : Text :=
  Json.write (.ofIndent indent) (.list (ds.map toValue))

end Diagnostic

end LiveLint
