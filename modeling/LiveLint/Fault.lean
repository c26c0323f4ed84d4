import LiveLint.LintError
import LiveLint.Console.Markup
import LiveLint.Text.Numeral
import LiveLint.Validation

/-!
# Faults

Failures that are not those of a check: input that validation refuses, configuration that cannot be
used, calls that make no sense, and limits of the surrounding system. Each has a cause, and its
message is computed.
-/

namespace LiveLint

/-- A failure outside the errors of a check. -/
inductive Fault where
  /-- A model cannot be built from its fields. -/
  | validation (problems : List Problem)
  /-- Configuration that does not validate. -/
  | invalidConfig (problems : List Problem)
  /-- A configuration file is no TOML document. -/
  | unreadableConfig (path : Text)
  /-- The section of a project file is not a table. -/
  | sectionNotTable (path : Text)
  | noSources
  /-- A word that is not one of the values of a kind. -/
  | notAChoice (shown kind : Text)
  /-- A numeral that cannot be read. -/
  | numeral (e : Numeral.Error)
  /-- Nested data go deeper than the stack. -/
  | stackExhausted
  | undecodable (e : Utf8.Error)
  | noArguments
  /-- A session without a command. -/
  | emptyCommand
  | executableNotFound (name : Text)
  /-- A session that has left its first state was started again. -/
  | alreadyStarted (session : Text)
  /-- The system refused to create a process because of its arguments. -/
  | spawnRefused (reason : Text)
  /-- Host code that was called back raised an error of its own. -/
  | host (reason : Text)
  /-- A title holds markup that cannot be shown. -/
  | markup (e : Markup.Error)
  /-- Text that cannot be printed. -/
  | unprintable (s : Utf8.Surrogates)
  /-- An override with the name that stands for the copied settings themselves. -/
  | givenTwice (argument : Text)
  /-- A path that holds the null character. -/
  | nullInPath
  /-- A path with surrogates that stand for no byte. -/
  | unencodable (s : Utf8.Surrogates)
  /-- A name in a path is longer than names may be. -/
  | nameTooLong (path : Text)
  /-- A file is there, but the system does not open it. -/
  | unopened (reason : Text)
  /-- A path starts in the home directory of somebody who is not known. -/
  | unknownHome

namespace Fault

/-- The fault of markup that cannot be shown. -/
def ofMarkup : Markup.Error → Fault
  | .numeral e => .numeral e
  | e => .markup e

/-- The message of a fault. -/
def message : Fault → Text
  | .validation ps => Problem.messages [] ps
  | .invalidConfig ps =>
    Text.ofString "Invalid sqlqa configuration: " ++ Problem.messages "<root>" ps
  | .unreadableConfig path => Text.ofString "Unable to parse " ++ path
  | .sectionNotTable path => Text.ofString "[tool.sqlqa] in " ++ path ++ " must be a table"
  | .noSources => "at least one configuration source is required"
  | .notAChoice shown kind => shown ++ " is not a valid " ++ kind
  | .numeral e => e.message
  | .stackExhausted => "maximum recursion depth exceeded"
  | .undecodable e => e.message
  | .noArguments => "subprocess command requires at least one argument"
  | .emptyCommand => "session command requires at least one argument"
  | .executableNotFound name => Text.ofString "Executable '" ++ name ++ "' was not found on PATH"
  | .alreadyStarted session => session ++ " was already started"
  | .spawnRefused reason | .unopened reason | .host reason => reason
  | .givenTwice argument =>
    Text.ofString "LintConfig.with_overrides() got multiple values for argument '" ++ argument ++ "'"
  | .nullInPath => "embedded null byte"
  | .unencodable s => s.message
  | .nameTooLong path => Text.ofString "[Errno 36] File name too long: " ++ path.quoted
  | .unknownHome => "Could not determine home directory."
  | .markup e => e.message
  | .unprintable s =>
    s.message ++ "\n*** You may need to add PYTHONIOENCODING=utf-8 to your environment ***"

/-- The fault of a path that the system does not take. -/
def ofPath? (path : Text) : Option Fault :=
  match Utf8.unencodableFrom? 0 path with
  | some s => some (.unencodable s)
  | none => if path.any fun c => c.val = 0 then some .nullInPath else none

/-- The fault lies in the configuration of a project. -/
def isConfiguration : Fault → Bool
  | .invalidConfig _ | .unreadableConfig _ | .sectionNotTable _ => true
  | _ => false

end Fault

/-- What a call may end with instead of a result. -/
inductive Failure where
  /-- The check failed. -/
  | lint (e : LintError)
  | fault (f : Fault)

end LiveLint
