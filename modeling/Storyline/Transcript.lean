import Storyline.Block

/-!
# Transcripts

A transcript is what an author edits: one readable line for each block, with an empty line between
them. It shows what a boy of no partner hears.
-/

namespace Storyline.Transcript

/-- The name shown for a line when the story has no lectors. -/
def narratorName : String := "Narrator"

/-- The name of the lector who reads a line. -/
def speaker (lectors : List Lector) (line : Line) : String :=
  ((Lector.effective? lectors line.lectorId).map (·.name)).getD narratorName

/-- The line of the transcript for one block. -/
def entry (lectors : List Lector) : BlockKind → String
  | .episode title => "Episode: " ++ title
  | .chapter title => "Chapter: " ++ title
  | .background cue => "Background: " ++ cue.name ++ ": " ++ cue.fadeIn
  | .pause seconds => "Pause: " ++ toString seconds.toNat
  | .line line =>
    let text := line.text .boy none
    match line.tag? with
    | some code => speaker lectors line ++ " (" ++ code ++ "): " ++ text
    | none => speaker lectors line ++ ": " ++ text

/-- The transcript of a story. -/
def render (lectors : List Lector) (blocks : List Block) : String :=
  "\n\n".intercalate (blocks.map fun block ↦ entry lectors block.kind)

end Storyline.Transcript
