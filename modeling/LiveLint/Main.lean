import LiveLint.Simulation.Commands

/-!
# The program

Gathers what a command needs from the system, runs the command and prints what it printed. No
process is ever created: every attempt to run the linter is answered by a failure.
-/

namespace LiveLint

namespace Main

/-- The bytes before and after the first zero byte. -/
def cutAtZero (bytes : Bytes) : List Bytes :=
  bytes.splitOn 0

/-- The variables in the form in which the system lists them: name, equals sign, value. -/
def variablesOf (bytes : Bytes) : Environment :=
  (cutAtZero bytes).filterMap fun entry =>
    let t := Utf8.decodeLenient entry
    match t.dropWhile (· ≠ CodePoint.ofChar '=') with
    | [] => none
    | _ :: value => some (t.takeWhile (· ≠ CodePoint.ofChar '='), value)

/-- The variables of this process. -/
def environment : IO Environment := do
  try return variablesOf (← IO.FS.readBinFile "/proc/self/environ").toList
  catch _ => return []

/-- The file at a path, if there is one. -/
def fileAt (here p : Path) : IO (Option (List Text × FileNode)) := do
  let p := Path.resolve here p
  try return some (p.names, .file (← IO.FS.readBinFile (Text.toString p.text)).toList)
  catch e =>
    match e with
    | .permissionDenied .. =>
      return some (p.names, .locked (Text.ofString "[Errno 13] Permission denied: " ++ p.text.quoted))
    | _ => return none

/-- Answers every attempt to create a process. -/
def noProcesses : SpawnMode := { failure := some (.system "processes cannot be created here") }

/-- Runs a command line in the surroundings of this process. -/
def run (arguments : List Text) : IO Performance := do
  let here := Path.ofText (toString (← IO.currentDir))
  let output ← IO.getStdout
  let s : Surroundings :=
    { files := ⟨[(here.names, .directory)], here⟩
      environment := ← environment
      terminal := ← output.isTty }
  let needs := Program.needs s arguments
  let files ← needs.files.filterMapM (fileAt here)
  let input ← if needs.input then (← IO.getStdin).readBinToEnd else pure ByteArray.empty
  let s := { s with files := ⟨(here.names, .directory) :: files, here⟩, input := input.toList }
  return Performance.ofCommandLine s some noProcesses arguments

end Main

end LiveLint

open LiveLint in
def main (arguments : List String) : IO UInt32 := do
  let p ← Main.run (arguments.map Text.ofString)
  IO.print (Text.toString p.output)
  match p.complaint? with
  | some t => IO.eprintln (Text.toString t)
  | none => pure ()
  return UInt32.ofNat p.code
