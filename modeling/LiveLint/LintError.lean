import LiveLint.Json.Reader
import LiveLint.Text.Blank
import LiveLint.Text.Encoding

/-!
# Errors of a check

What can go wrong with a single check: the linter cannot be started, it fails, or its output is no
list of issues. Each error keeps its cause and the evidence; the wording is computed. A message that
quotes linter output quotes a one-line excerpt, while the error holds the whole text.
-/

namespace LiveLint

/-- The most code points of an excerpt. -/
def excerptLimit : Nat := 200

/-- The words of a text joined by single spaces, cut to the limit; a marker when there is no
text. -/
def excerpt : Option Text → Text
  | none => "<empty>"
  | some [] => "<empty>"
  | some (c :: rest) =>
    let flat := Text.joinWith " " (Text.blankWords (c :: rest))
    if flat.length ≤ excerptLimit then flat else flat.take excerptLimit ++ "..."

/-- Why linter output is not a list of issues. -/
inductive ParseCause where
  /-- The linter failed with this status and printed nothing. -/
  | noOutput (status : Int)
  | invalidJson (e : Json.Error)
  /-- The output is one JSON value of another kind. -/
  | notAList (kind : Text)
  | stated (reason : Text)

/-- The wording of a cause. -/
def ParseCause.message : ParseCause → Text
  | .noOutput status =>
    Text.ofString "Linter exited with status " ++ Text.ofInt status ++ " without output"
  | .invalidJson e => Text.ofString "Linter output is not valid JSON: " ++ e.message
  | .notAList kind => Text.ofString "Expected a JSON array of issues, got " ++ kind
  | .stated reason => reason

/-- Why a session failed. -/
inductive SessionCause where
  /-- The buffer has no form in the encoding of the linter's input. -/
  | unencodable (e : Encoding)
  /-- The linter ran longer than so many seconds. -/
  | timedOut (limit : Float)
  /-- The session ended in a state without output. -/
  | ended (status : Text)
  | stated (reason : Text)

/-- The wording of a cause; a time limit is given in tenths of a second. -/
def SessionCause.message : SessionCause → Text
  | .unencodable e =>
    Text.ofString "Buffer text cannot be encoded as " ++ e.name ++ ": " ++ e.refusal
  | .timedOut limit =>
    Text.ofString "Linter timed out after " ++ (Binary.ofFloat limit).fixed 1 ++ "s"
  | .ended status => Text.ofString "Linter session ended as " ++ status
  | .stated reason => reason

/-- A failure that ends a single check. -/
inductive LintError where
  | general (reason : Text)
  /-- The executable cannot be started. -/
  | spawn (executable reason : Text)
  /-- The output is not a list of issues; `output` is the text that shows it. -/
  | parse (cause : ParseCause) (output : Option Text)
  /-- The issue at `index` lacks fields or has some of the wrong kind. -/
  | malformedIssue (index : Int) (missing : List Text) (output : Option Text)
  /-- The linter process failed before it had produced output. -/
  | sessionFailed (cause : SessionCause) (timedOut : Bool) (stderr : Option Text)
  /-- A released session was asked for what it no longer has. -/
  | sessionReleased (reason : Text)

namespace LintError

/-- The text of an error. -/
def message : LintError → Text
  | .general reason | .sessionReleased reason => reason
  | .spawn executable reason =>
    Text.ofString "Unable to start '" ++ executable ++ "': " ++ reason
  | .parse cause output => cause.message ++ " (output: " ++ excerpt output ++ ")"
  | .malformedIssue index missing output =>
    Text.ofString "Issue #" ++ Text.ofInt index ++ " is missing or has invalid fields: "
      ++ Text.joinWith ", " missing ++ " (output: " ++ excerpt output ++ ")"
  | .sessionFailed cause _ _ => cause.message

/-- The kinds an error belongs to, from its own to the most general. -/
def kinds : LintError → List Text
  | .general _ => [Text.ofString "LintError"]
  | .spawn .. => [Text.ofString "SpawnError", Text.ofString "LintError"]
  | .parse .. => [Text.ofString "ParseError", Text.ofString "LintError"]
  | .malformedIssue .. =>
    [Text.ofString "MalformedRecordError", Text.ofString "ParseError", Text.ofString "LintError"]
  | .sessionFailed .. => [Text.ofString "SessionFailedError", Text.ofString "LintError"]
  | .sessionReleased _ => [Text.ofString "SessionReleasedError", Text.ofString "LintError"]

/-- The name of an error's own kind, as log lines give it. -/
def kindName (e : LintError) : Text := e.kinds.headD []

end LintError

end LiveLint
