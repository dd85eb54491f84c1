import Storyline.Json.Access
import Storyline.Line

/-!
# Stored lines

How lines and the pairs in them are stored as JSON. Fields that are absent or empty are left out
where the line can be read back without them.
-/

namespace Storyline

namespace Gender

/-- Reads a gender: its name, or an object with its name over null. -/
def ofJson? : Json → Option Gender
  | .string name => ofName? name
  | .object [(name, .null)] => ofName? name
  | _ => none

/-- The stored form of a gender. -/
def toJson (g : Gender) : Json := .string g.name

end Gender

namespace ByGender

/-- Reads a pair of texts. -/
def ofJson? (j : Json) : Option (ByGender String) := do
  let record ← j.record? 2
  return {
    boy := ← record.required ⟨0, ["boy"]⟩ Json.text?
    girl := ← record.required ⟨1, ["girl"]⟩ Json.text? }

/-- The stored form of a pair of texts. -/
def toJson (pair : ByGender String) : Json :=
  .object [("boy", .string pair.boy), ("girl", .string pair.girl)]

end ByGender

namespace PartnerTable

/-- Reads a table of pairs. -/
def ofJson? (j : Json) : Option PartnerTable := j.table? ByGender.ofJson?

/-- The stored form of a table of pairs. -/
def toJson (table : PartnerTable) : Json := .ofTable ByGender.toJson table

end PartnerTable

/-- A field that is written if there is a value. -/
def fieldOfOption {α : Type} (name : String) (write : α → Json) : Option α → List (String × Json)
  | some a => [(name, write a)]
  | none => []

/-- A field that is written unless the table is empty. -/
def fieldOfTable (name : String) (table : PartnerTable) : List (String × Json) :=
  if table.isEmpty then [] else [(name, table.toJson)]

namespace Line

/-- The fields of a stored line. -/
def ofRecord? (record : Record Json) : Option Line := do
  return {
    content := ← record.optional ⟨0, ["content"]⟩ "" Json.text?
    code := ← record.optional ⟨1, ["code"]⟩ none (Json.nullable? Json.text?)
    lectorId := ← record.optional ⟨2, ["lectorId"]⟩ none (Json.nullable? Json.text?)
    partnerSpecific := ← record.optional ⟨3, ["isPartnerSpecific"]⟩ false Json.flag?
    universal := ← record.optional ⟨4, ["isGenderUniversal"]⟩ false Json.flag?
    variants := ← record.optional ⟨5, ["genderVariants"]⟩ none (Json.nullable? ByGender.ofJson?)
    overrides := ← record.optional ⟨6, ["partnerOverrides"]⟩ ∅ PartnerTable.ofJson?
    images := ← record.optional ⟨7, ["imageByGender"]⟩ none (Json.nullable? ByGender.ofJson?)
    imageOverrides :=
      ← record.optional ⟨8, ["imageOverridesByPartner"]⟩ ∅ PartnerTable.ofJson? }

/-- Reads a stored line. -/
def ofJson? (j : Json) : Option Line := (j.record? 9).bind ofRecord?

/-- The fields that store a line. -/
def toFields (line : Line) : List (String × Json) :=
  [("content", .string line.content)] ++
    fieldOfOption "code" .string line.code ++
    fieldOfOption "lectorId" .string line.lectorId ++
    [("isPartnerSpecific", .bool line.partnerSpecific),
      ("isGenderUniversal", .bool line.universal)] ++
    fieldOfOption "genderVariants" ByGender.toJson line.variants ++
    fieldOfTable "partnerOverrides" line.overrides ++
    fieldOfOption "imageByGender" ByGender.toJson line.images ++
    fieldOfTable "imageOverridesByPartner" line.imageOverrides

/-- The stored form of a line. -/
def toJson (line : Line) : Json := .object line.toFields

end Line

end Storyline
