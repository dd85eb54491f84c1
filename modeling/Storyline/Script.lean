import Storyline.Script.Statement
import Storyline.Text.Line

/-!
# Scripts

A script is read line by line: blanks at either end of a line, empty lines and the word `End` on a
line of its own say nothing, and every other line says one thing. Nothing is ever refused.
-/

namespace Storyline.Script

/-- Whether a trimmed line says something. -/
def isStatement (cs : List Char) : Bool :=
  !cs.isEmpty && !Text.eqIgnoringCase cs "end".toList

/-- The lines of a text that say something, trimmed. -/
def statementLines (text : List Char) : List (List Char) :=
  ((Text.lines text).map Text.trim).filter isStatement

/-- What a text says, statement by statement. -/
def statements (text : String) : List Statement :=
  (statementLines text.toList).map Statement.read

/-- What the blocks of a text say in a story with these lectors. -/
def kinds (lectors : List Lector) (text : String) : List BlockKind :=
  (statements text).map (Statement.toKind lectors)

/-- Gives each block in turn the next identifier of a supply. -/
def label (fresh : Nat → BlockId) (kinds : List BlockKind) : List Block :=
  kinds.mapIdx fun i kind ↦ ⟨fresh i, kind⟩

/-- The blocks of a text in a story with these lectors. -/
def parse (fresh : Nat → BlockId) (lectors : List Lector) (text : String) : List Block :=
  label fresh (kinds lectors text)

/-- Labelled blocks say what they said. -/
@[simp] theorem map_kind_label (fresh : Nat → BlockId) (kinds : List BlockKind) :
    (label fresh kinds).map (·.kind) = kinds := by
  apply List.ext_getElem?
  intro i
  cases h : kinds[i]? <;> simp [label, h]

/-- Identifiers do not influence what is read. -/
theorem map_kind_parse (fresh : Nat → BlockId) (lectors : List Lector) (text : String) :
    (parse fresh lectors text).map (·.kind) = kinds lectors text := by
  simp [parse]

end Storyline.Script
