import Storyline.CommandLine.Path

/-!
# Files

What the program asks of the place where it runs. Paths are given as they are written.
-/

namespace Storyline.CommandLine

/-- Why a file operation failed. -/
inductive FileError where
  /-- Nothing is there. -/
  | notFound
  /-- Something on the way is no folder. -/
  | notFolder
  /-- A folder is where a file is wanted. -/
  | isFolder
  /-- Something is there already. -/
  | exists
  /-- The path, or a name on it, is too long. -/
  | nameTooLong
  /-- The contents are no text. -/
  | notText
  /-- Another cause, in the words of the system. -/
  | other (text : String)
  deriving DecidableEq, Repr

/-- The words of the system for a cause. -/
def FileError.message : FileError → String
  | notFound => "No such file or directory (os error 2)"
  | notFolder => "Not a directory (os error 20)"
  | isFolder => "Is a directory (os error 21)"
  | .exists => "File exists (os error 17)"
  | nameTooLong => "File name too long (os error 36)"
  | notText => "stream did not contain valid UTF-8"
  | other text => text

/-- A place where files can be read and written. -/
class FileSystem (m : Type → Type) where
  /-- Whether a path leads to a file or a folder. -/
  isPresent : String → m Bool
  /-- Whether a path leads to a folder. -/
  isFolder : String → m Bool
  /-- The text of a file. -/
  readText : String → m (Except FileError String)
  /-- Makes a folder in one that is there. -/
  makeFolder : String → m (Except FileError Unit)
  /-- Gives a file a text, making it if need be. -/
  writeText : String → String → m (Except FileError Unit)

section

variable {m : Type → Type} [Monad m] [FileSystem m]

/-- Makes a folder unless it is there. -/
def ensureFolder (path : String) : m (Except FileError Unit) := do
  match ← (FileSystem.makeFolder path : m _) with
  | .ok () => return .ok ()
  | .error e => return if ← (FileSystem.isFolder path : m Bool) then .ok () else .error e

/-- Makes the first of some folders, each in the next. Where that one is missing, it is made
before. -/
def ensureFolders : List String → m (Except FileError Unit)
  | [] => return .ok ()
  | path :: parents => do
    match ← (ensureFolder path : m _) with
    | .error .notFound =>
      match ← (ensureFolders parents : m _) with
      | .ok () => ensureFolder path
      | .error e => return .error e
    | result => return result

/-- Makes a folder, and those on the way to it, unless it is there. -/
def createFolder (path : String) : m (Except FileError Unit) :=
  ensureFolders (path :: (Path.ofText path).parents)

end

end Storyline.CommandLine
