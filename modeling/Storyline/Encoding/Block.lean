import Storyline.Block
import Storyline.Encoding.Line
import Storyline.Json.Reader

/-!
# Stored blocks

A block is stored as one object: its identifier, its kind under `type`, and the fields of its kind
beside them. Because the kind may come last, the fields are kept until it is known; a block that
holds something that cannot be kept is unreadable, even in a field that nobody asks for.
-/

namespace Storyline

namespace Background

/-- The fields of a stored background. -/
def ofRecord? (record : Record Json) : Option Background := do
  let cue : Background := {}
  return {
    name := ← record.required ⟨0, ["name"]⟩ Json.text?
    fadeIn := ← record.optional ⟨1, ["fadeIn"]⟩ cue.fadeIn Json.text?
    fadeOut := ← record.optional ⟨2, ["fadeOut"]⟩ cue.fadeOut Json.text? }

/-- Reads a stored background. -/
def ofJson? (j : Json) : Option Background := (j.record? 3).bind ofRecord?

/-- The fields that store a background. -/
def toFields (cue : Background) : List (String × Json) :=
  [("name", .string cue.name), ("fadeIn", .string cue.fadeIn), ("fadeOut", .string cue.fadeOut)]

/-- The stored form of a background. -/
def toJson (cue : Background) : Json := .object cue.toFields

end Background

namespace BlockKind

/-- The names of the kinds, in the order of their numbers. -/
def names : List String := ["episode", "chapter", "background", "pause", "line"]

/-- The name of a kind that is given by name or by number. -/
def nameOfJson? : Json → Option String
  | .string name => some name
  | .number n => n.natural?.bind (names[·]?)
  | _ => none

/-- Reads what a block says from its kind and its fields. -/
def ofRecord? (name : String) (record : Record Json) : Option BlockKind :=
  match name with
  | "episode" => (record.required ⟨0, ["title"]⟩ Json.text?).map episode
  | "chapter" => (record.required ⟨0, ["title"]⟩ Json.text?).map chapter
  | "background" => (Background.ofRecord? record).map background
  | "pause" => (record.required ⟨0, ["durationSeconds"]⟩ Json.uint32?).map pause
  | "line" => (Line.ofRecord? record).map line
  | _ => none

/-- The fields that store what a block says, beside its kind. -/
def toFields : BlockKind → List (String × Json)
  | episode title => [("title", .string title)]
  | chapter title => [("title", .string title)]
  | background cue => cue.toFields
  | pause seconds => [("durationSeconds", .ofNat seconds.toNat)]
  | line l => l.toFields

/-- The stored form of what a block says, without an identifier. -/
def toJson (kind : BlockKind) : Json :=
  .object (("type", .string kind.name) :: kind.toFields)

end BlockKind

namespace Block

/-- The deepest nesting of a document that holds blocks. -/
def maxDepth : Nat := 127

/-- Reads a stored block. -/
def ofJson? (j : Json) : Option Block := do
  let fields ← j.fields?
  let record : Record Json := .named fields
  if Json.areFieldsKeepable fields then
    let id ← record.required ⟨0, ["id"]⟩ Json.text?
    let name ← record.required ⟨1, ["type"]⟩ BlockKind.nameOfJson?
    return { id := ← BlockId.ofText? id, kind := ← BlockKind.ofRecord? name record }
  else none

/-- Reads a stored list of blocks. -/
def listOfJson? (j : Json) : Option (List Block) :=
  j.items?.bind fun items ↦ items.mapM ofJson?

/-- The stored form of a block. -/
def toJson (block : Block) : Json :=
  .object (("id", .string block.id.toText) :: ("type", .string block.kind.name) ::
    block.kind.toFields)

/-- The stored form of a list of blocks. -/
def listToJson (blocks : List Block) : Json := .array (blocks.map toJson)

/-- Reads the text of a document that holds a block. -/
def ofText? (text : String) : Option Block := do
  let j ← Json.parse? text
  if j.depth ≤ maxDepth then ofJson? j else none

/-- Reads the text of a document that holds a list of blocks. -/
def listOfText? (text : String) : Option (List Block) := do
  let j ← Json.parse? text
  if j.depth ≤ maxDepth then listOfJson? j else none

end Block

end Storyline
