import Storyline.Block
import Storyline.Stamp

/-!
# The canonical script

A story is saved as indented statements, in which every episode, chapter and background is a
container with an `End` of its own. A chapter stands in the latest episode, a background in the
latest chapter; opening a container closes those of its rank and below first.

The saved script carries structure alone: titles of episodes, lines without a code and the text of
all lines are left out.
-/

namespace Storyline.Dsl

/-- One line of the saved script. -/
structure Entry where
  /-- The number of containers around the line. -/
  depth : Nat
  /-- What the line says. -/
  text : String
  deriving DecidableEq, Repr

/-- The indentation for one container. -/
def indent : String := "    "

/-- The line as it is written, with its line feed. -/
def Entry.render (e : Entry) : String :=
  String.join (List.replicate e.depth indent) ++ e.text ++ "\n"

/-- The containers that are open. -/
structure Nesting where
  /-- Whether an episode is open. -/
  episode : Bool := false
  /-- Whether a chapter is open. -/
  chapter : Bool := false
  /-- Whether a background is open. -/
  background : Bool := false
  deriving DecidableEq, Repr

namespace Nesting

/-- The number of containers around a chapter. -/
def chapterDepth (n : Nesting) : Nat := n.episode.toNat

/-- The number of containers around a background. -/
def backgroundDepth (n : Nesting) : Nat := n.chapterDepth + n.chapter.toNat

/-- The number of containers around a pause or a line. -/
def lineDepth (n : Nesting) : Nat := n.backgroundDepth + n.background.toNat

/-- The statement that closes a container which `depth` others surround, if it is open. -/
def close (isOpen : Bool) (depth : Nat) : List Entry :=
  if isOpen then [⟨depth, "End"⟩] else []

/-- Closes the background. -/
def closeBackground (n : Nesting) : List Entry :=
  close n.background n.backgroundDepth

/-- Closes the chapter and what it contains. -/
def closeChapter (n : Nesting) : List Entry :=
  n.closeBackground ++ close n.chapter n.chapterDepth

/-- Closes the episode and what it contains. -/
def closeEpisode (n : Nesting) : List Entry :=
  n.closeChapter ++ close n.episode 0

/-- The containers that are open after a block. -/
def after (n : Nesting) : BlockKind → Nesting
  | .episode _ => { episode := true }
  | .chapter _ => { n with chapter := true, background := false }
  | .background _ => { n with background := true }
  | .pause _ | .line _ => n

end Nesting

/-- The statement of a background. -/
def backgroundStatement (cue : Background) : String :=
  "BackgroundSampleLine: Code=" ++ cue.name ++ ", FadeIn=" ++ cue.fadeIn ++
    ", FadeOut=" ++ cue.fadeOut

/-- The statement of a line; a line without a code has none. -/
def lineStatement? (line : Line) : Option String :=
  line.markedCode?.map fun code ↦
    (if line.IsDynamic then "DynamicSampleLine" else "SampleLine") ++ ": Code=" ++ code

/-- The lines that a block adds to the script: what it closes and what it says. -/
def entries (n : Nesting) : BlockKind → List Entry
  | .episode _ => n.closeEpisode ++ [⟨0, "Episode:"⟩]
  | .chapter title => n.closeChapter ++ [⟨n.chapterDepth, "Chapter: " ++ title⟩]
  | .background cue => n.closeBackground ++ [⟨n.backgroundDepth, backgroundStatement cue⟩]
  | .pause seconds => [⟨n.lineDepth, "PauseLine: " ++ Stamp.toText seconds⟩]
  | .line line => (lineStatement? line).toList.map fun text ↦ ⟨n.lineDepth, text⟩

/-- The lines of the script from blocks that follow inside `n`, up to the end of all containers. -/
def entriesFrom (n : Nesting) : List Block → List Entry
  | [] => n.closeEpisode
  | block :: rest => entries n block.kind ++ entriesFrom (n.after block.kind) rest

/-- The lines of the saved script. -/
def outline (blocks : List Block) : List Entry :=
  entriesFrom {} blocks

/-- The saved script. -/
def render (blocks : List Block) : String :=
  String.join ((outline blocks).map Entry.render)

end Storyline.Dsl
