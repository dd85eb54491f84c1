import Storyline.Text.Control
import Storyline.Text.Line

/-!
# The log

What happens while a command runs is told in messages. Of an entry only what is visible is written,
and a message of several lines is indented from its second line on. An entry can end within a
sequence for the terminal; the end of its line is then not visible either, and what comes next
stands on the same line.
-/

namespace Storyline.CommandLine

/-- How much a message of the log matters. -/
inductive Level where
  | info
  | warn
  deriving DecidableEq, Repr

/-- The name of a level. -/
def Level.name : Level → String
  | info => "INFO"
  | warn => "WARN"

/-- A message of the log. -/
structure LogEntry where
  /-- How much it matters. -/
  level : Level
  /-- The part of the program that it comes from. -/
  source : String
  /-- What it says. -/
  message : String
  deriving DecidableEq, Repr

namespace LogEntry

/-- The blanks before a further line of a message. -/
def indent : List Char := [' ', ' ', ' ', ' ']

/-- The text of an entry with the end of its line, invisible parts included. -/
def text (entry : LogEntry) : List Char :=
  (entry.level.name ++ " " ++ entry.source ++ ": ").toList ++
    ('\n' :: indent).intercalate (Text.lines entry.message.toList) ++ ['\n']

end LogEntry

/-- A line that is written beside the results. -/
structure Notice where
  /-- Whether it begins with an entry of the log. -/
  isEntry : Bool
  /-- What is written. -/
  text : String
  deriving DecidableEq, Repr

namespace Notice

/-- The lines of a text, the first of which may begin an entry. The last one is what stands after
the last line feed. -/
def ofText (startsEntry : Bool) (text : List Char) : List Notice :=
  match Text.lines text with
  | [] => []
  | line :: lines => ⟨startsEntry, .ofList line⟩ :: lines.map fun line ↦ ⟨false, .ofList line⟩

/-- Lines followed by later ones. A last line that has not ended goes on with the first of them. -/
def followedBy : List Notice → List Notice → List Notice
  | [], later => later
  | [last], later =>
    if last.text = "" then later
    else
      match later with
      | [] => [last]
      | first :: later => { last with text := last.text ++ first.text } :: later
  | line :: lines, later => line :: followedBy lines later

/-- The lines of a log and of a text after it. -/
def ofLog (log : List LogEntry) (after : List Char) : List Notice :=
  log.foldr (fun entry later ↦ followedBy (ofText true (Text.visible entry.text)) later)
    (followedBy (ofText false after) [])

end Notice

end Storyline.CommandLine
