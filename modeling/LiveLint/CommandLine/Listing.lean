import LiveLint.Text.LowerCase

/-!
# Listings of parameters

How the parameters of a command are listed in its help: arguments in the order of their declaration,
then options sorted by their primary name. A parameter without help is not listed.
-/

namespace LiveLint

/-- A parameter of a command, as far as help shows it. -/
structure Parameter where
  /-- The names that set it, such as `--verbose` and `-v`. -/
  names : List Text := []
  /-- The names that unset it. -/
  unsetNames : List Text := []
  /-- What the parameter itself is called. -/
  name : Option Text := none
  isArgument : Bool := false
  /-- How the parameter is written, and what it is for. -/
  help : Option (Text × Text) := none
deriving DecidableEq

namespace Parameter

/-- A name with two dashes. -/
def isLong (name : Text) : Bool := Text.startsWith "--" name

/-- The name that a parameter is known by: its first long name, else its first name, else what it is
called. -/
def primaryName (p : Parameter) : Text :=
  let names := p.names ++ p.unsetNames
  match names.find? isLong with
  | some name => name
  | none =>
    match names.head? with
    | some (c :: rest) => c :: rest
    | _ => p.name.getD []

/-- The primary name in small letters, without dashes in front. -/
def sortKey (p : Parameter) : Text :=
  Text.lower (Text.trimLeft (· = CodePoint.ofChar '-') p.primaryName)

end Parameter

/-- The parameters of a command as its help lists them. -/
structure Listing where
  arguments : List Parameter
  options : List Parameter

namespace Listing

/-- Lists parameters. Options with the same key stay in the order of their declaration. -/
def ofParameters (ps : List Parameter) : Listing :=
  let shown := ps.filter fun p => p.help.isSome
  { arguments := shown.filter fun p => p.isArgument
    options := (shown.filter fun p => !p.isArgument).mergeSort fun p q =>
      Text.le p.sortKey q.sortKey }

/-- The sections of a listing that have an entry, with their titles. -/
def sections (l : Listing) : List (Text × List Parameter) :=
  [(("Arguments" : Text), l.arguments), (("Options" : Text), l.options)].filter fun s =>
    !s.2.isEmpty

end Listing

end LiveLint
