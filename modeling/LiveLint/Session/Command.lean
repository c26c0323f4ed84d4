import LiveLint.Fault
import LiveLint.Path
import LiveLint.Settings.Basic

/-!
# Finding the executable

A command names its executable by an absolute path or by a name that the system looks up. The look
up is a question to the host, answered here by a function.
-/

namespace LiveLint

/-- What the host answers when it is asked for an executable. -/
abbrev Lookup := Text → Option Text

/-- The arguments of a process: the executable by its path, and the rest as given. -/
def processArguments (find : Lookup) : List Text → Except Fault (List Text)
  | [] => .error .noArguments
  | head :: rest =>
    let path := Path.ofText head
    if path.isAbsolute then .ok (path.text :: rest)
    else
      match find head with
      | some found => .ok (found :: rest)
      | none => .error (.executableNotFound head)

end LiveLint
