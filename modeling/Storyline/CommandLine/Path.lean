import Storyline.Text.Line

/-!
# Written paths

A path leads from name to name. It starts in the folder where the program runs or, if it begins
with a slash, at the root of all folders. A single dot stays in a folder and two dots go up from
it; both need the folder to be there, so they are kept as names.
-/

namespace Storyline.CommandLine

/-- A written path, taken apart. -/
structure Path where
  /-- Whether it starts at the root. -/
  absolute : Bool
  /-- The names on the way. -/
  names : List String
  /-- Whether it ends in a slash, which asks for a folder. -/
  slashed : Bool
  deriving DecidableEq, Repr

namespace Path

/-- The name that stays in a folder. -/
def here : String := "."

/-- The name that goes up from a folder. -/
def up : String := ".."

/-- How many bytes a written path can have. -/
def maxLength : Nat := 4095

/-- How many bytes a name can have. -/
def maxNameLength : Nat := 255

/-- Takes a path apart: the names are what stands between slashes. -/
def ofText (text : String) : Path where
  absolute := text.toList.head? = some '/'
  names := ((Text.pieces '/' text.toList).map String.ofList).filter (· ≠ "")
  slashed := text.toList.getLast? = some '/'

/-- The written path of names that follow each other. -/
def toText (absolute : Bool) (names : List String) : String :=
  (if absolute then "/" else "") ++ "/".intercalate names

/-- The written paths of the folders on the way to the last name, the nearest one first. Single
dots do not count as names here. -/
def parents (path : Path) : List String :=
  let names := path.names.filter (· ≠ here)
  (List.range (names.length - 1)).reverse.map fun i ↦ toText path.absolute (names.take (i + 1))

/-- The written path of something in a folder. -/
def join (folder name : String) : String :=
  match folder.toList.getLast? with
  | none | some '/' => folder ++ name
  | some _ => folder ++ "/" ++ name

end Path

end Storyline.CommandLine
