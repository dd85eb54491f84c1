import Storyline.CommandLine.Run

/-!
# The program

Runs a command line on the files of the system. Results go to the standard output, the log and
failures to the standard error.
-/

namespace Storyline.CommandLine

/-- Whether an error has a number, which some operations of the system negate. -/
def hasNumber (code number : UInt32) : Bool := code = number || code = -number

/-- The cause of a system error. -/
def FileError.ofSystem (e : IO.Error) : FileError :=
  match e with
  | .noFileOrDirectory .. | .noSuchThing .. => .notFound
  | .alreadyExists .. => .exists
  | .inappropriateType _ code _ => if hasNumber code 20 then .notFolder else .isFolder
  | .invalidArgument _ code _ =>
    if hasNumber code 36 then .nameTooLong else .other (toString e)
  | _ => .other (toString e)

/-- The result of an action, or the cause of its failure. -/
def attemptAction {α : Type} (action : IO α) : IO (Except FileError α) := do
  try
    return .ok (← action)
  catch e =>
    return .error (.ofSystem e)

instance : FileSystem IO where
  isPresent path := do
    return (← attemptAction (IO.FS.Handle.mk path .read)) matches .ok _
  isFolder path := do
    match ← attemptAction (IO.FS.realPath path) with
    | .ok place => place.isDir
    | .error _ => return false
  readText path := do
    return match ← attemptAction (IO.FS.readBinFile path) with
      | .ok bytes => match String.fromUTF8? bytes with
        | some text => .ok text
        | none => .error .notText
      | .error e => .error e
  makeFolder path := attemptAction (IO.FS.createDir path)
  writeText path text := attemptAction (IO.FS.writeFile path text)

/-- Runs a command line and gives its exit code. -/
def runProgram (args : List String) : IO UInt32 := do
  let report ← (execute args : IO Report)
  IO.print report.output
  for notice in report.notices do
    IO.eprintln notice.text
  if report.exitCode = 2 then
    IO.eprint helpText
  return report.exitCode.toUInt32

end Storyline.CommandLine

/-- Runs the program and ends with its exit code. -/
def main (args : List String) : IO UInt32 :=
  Storyline.CommandLine.runProgram args
