import Storyline.BlockId
import Storyline.Lector
import Storyline.Line

/-!
# Blocks

A story is a list of blocks. Episodes, chapters and backgrounds open a container that lasts until
the next one of their rank; pauses and lines stand inside. The nesting is not stored: it follows
from the order.
-/

namespace Storyline

/-- A background sound with the time stamps of its fades. -/
structure Background where
  /-- The name of the sound. -/
  name : String := ""
  /-- How long it takes to fade in. -/
  fadeIn : String := "00:00:01"
  /-- How long it takes to fade out. -/
  fadeOut : String := "00:00:02"
  deriving DecidableEq, Repr

/-- The length of a pause that does not say how long it is, in seconds. -/
def defaultPause : UInt32 := 2

/-- What a block says, without its identity. -/
inductive BlockKind where
  /-- The start of an episode. -/
  | episode (title : String)
  /-- The start of a chapter. -/
  | chapter (title : String)
  /-- The start of a background sound. -/
  | background (cue : Background)
  /-- Silence for a number of seconds. -/
  | pause (seconds : UInt32)
  /-- An utterance. -/
  | line (line : Line)
  deriving DecidableEq

namespace BlockKind

/-- The name of a kind of block. -/
def name : BlockKind → String
  | episode _ => "episode"
  | chapter _ => "chapter"
  | background _ => "background"
  | pause _ => "pause"
  | line _ => "line"

/-- The line that a block holds. -/
def line? : BlockKind → Option Line
  | line l => some l
  | _ => none

/-- The block with its line, if it has one, changed by `edit`. -/
def mapLine (edit : Line → Line) : BlockKind → BlockKind
  | line l => line (edit l)
  | kind => kind

/-- A block holds a line exactly if it is that line. -/
theorem line?_eq_some_iff {kind : BlockKind} {l : Line} : kind.line? = some l ↔ kind = line l := by
  cases kind <;> simp [line?]

/-- Editing a block edits its line, if it is one. -/
@[simp] theorem line?_mapLine (edit : Line → Line) (kind : BlockKind) :
    (kind.mapLine edit).line? = kind.line?.map edit := by
  cases kind <;> rfl

/-- Editing a block keeps its kind. -/
@[simp] theorem name_mapLine (edit : Line → Line) (kind : BlockKind) :
    (kind.mapLine edit).name = kind.name := by
  cases kind <;> rfl

end BlockKind

/-- A block: what it says, under an identifier of its own. -/
structure Block where
  /-- The identifier. -/
  id : BlockId
  /-- What the block says. -/
  kind : BlockKind
  deriving DecidableEq

namespace Block

/-- The line that a block holds. -/
def line? (block : Block) : Option Line := block.kind.line?

/-- The block with its line, if it has one, changed by `edit`. -/
def mapLine (edit : Line → Line) (block : Block) : Block :=
  { block with kind := block.kind.mapLine edit }

/-- The lines of a story, in order. -/
def lines (blocks : List Block) : List Line := blocks.filterMap line?

/-- The lines of a story are what its blocks say that are lines. -/
theorem mem_lines_iff {blocks : List Block} {line : Line} :
    line ∈ lines blocks ↔ .line line ∈ blocks.map (·.kind) := by
  simp [lines, line?, BlockKind.line?_eq_some_iff]

/-- Editing a block keeps its identifier. -/
@[simp] theorem id_mapLine (edit : Line → Line) (block : Block) :
    (block.mapLine edit).id = block.id := rfl

/-- The lines of two lists of blocks are those of the first and then those of the second. -/
@[simp] theorem lines_append (a b : List Block) : lines (a ++ b) = lines a ++ lines b :=
  List.filterMap_append

end Block

end Storyline
