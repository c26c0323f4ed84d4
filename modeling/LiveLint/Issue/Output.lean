import LiveLint.Diagnostic
import LiveLint.Fault
import LiveLint.Issue.RuleCode
import LiveLint.Log
import LiveLint.Stack

/-!
# Issues from linter output

A linter prints its issues as one JSON list of tables with the integers `line`, `start_column`,
`end_column` and the text `message`. Reading is all or nothing: a single malformed issue refuses the
whole output, so that truncated output is never taken for a complete report.
-/

namespace LiveLint

/-- What a linter process left behind. -/
structure LinterOutput where
  stdout : Text
  exitCode : Option Int
  stderr : Text

/-- How output is understood. -/
structure OutputParser where
  /-- The severity of the issues. -/
  severity : Severity := .ofIssue
  /-- The levels of the stack that are left when output is read. -/
  levels : Nat := Stack.usual.output

namespace LinterOutput

/-- The exit status, when it tells of a failure. -/
def failingStatus (o : LinterOutput) : Option Int :=
  match o.exitCode with
  | some n => if n = 0 then none else some n
  | none => none

/-- The integer fields of an issue. -/
def integerFields : List Text :=
  [Text.ofString "line", Text.ofString "start_column", Text.ofString "end_column"]

/-- The text field of an issue. -/
def messageField : Text := "message"

/-- The field holds an integer; a truth value is none. -/
def hasInteger (t : Table) (field : Text) : Bool := ((Table.get? field t).bind Value.int?).isSome

/-- The fields that a table lacks, or has of the wrong kind, in their fixed order. -/
def missingFields (t : Table) : List Text :=
  integerFields.filter (fun f => !hasInteger t f)
    ++ (if ((Table.get? messageField t).bind Value.text?).isSome then [] else [messageField])

/-- The issue of one item, or the fields that it is missing. -/
def issueOfItem (severity : Severity) (item : Value) : Except (List Text) Issue :=
  match item with
  | .table t =>
    let number (field : Text) : Option Int := (Table.get? field t).bind Value.int?
    match number "line", number "start_column", number "end_column",
        (Table.get? messageField t).bind Value.text? with
    | some line, some startColumn, some endColumn, some message =>
      .ok ⟨line, startColumn, endColumn, message, severity, RuleCode.ofMessage? message⟩
    | _, _, _, _ => .error (missingFields t)
  | _ => .error (integerFields ++ [messageField])

/-- The issues of the items from index `start` on; the first malformed one refuses all. -/
def issuesFrom (severity : Severity) (stdout : Text) (start : Nat) :
    List Value → Except LintError (List Issue)
  | [] => .ok []
  | item :: rest =>
    match issueOfItem severity item with
    | .error missing => .error (.malformedIssue start missing (some stdout))
    | .ok issue => (issuesFrom severity stdout (start + 1) rest).map (issue :: ·)

/-- The issues that the output reports. -/
def issues (parser : OutputParser) (o : LinterOutput) : Except Failure (List Issue) :=
  let text := o.stdout.strip
  if text.isEmpty then
    match o.failingStatus with
    | some status =>
      .error (.lint (.parse (.noOutput status) (if o.stderr.isEmpty then none else some o.stderr)))
    | none => .ok []
  else
    match Json.load parser.levels text with
    | .error (.integerTooLong digits) => .error (.fault (.numeral (.tooLong digits)))
    | .error .tooDeep => .error (.fault .stackExhausted)
    | .error e => .error (.lint (.parse (.invalidJson e) (some text)))
    | .ok (.list items) =>
      match issuesFrom parser.severity o.stdout 0 items with
      | .ok found => .ok found
      | .error e => .error (.lint e)
    | .ok v => .error (.lint (.parse (.notAList v.kindName) (some text)))

/-- What is logged while the output is read: that a failing status does not count when there is
output. -/
def log (o : LinterOutput) : List LogLine :=
  match o.failingStatus with
  | some status =>
    if o.stdout.strip.isEmpty then []
    else
      [LogLine.debug "parsers" (Text.ofString "linter exited with status " ++ Text.ofInt status
        ++ "; trusting parseable output")]
  | none => []

end LinterOutput

end LiveLint
