import Storyline.Encoding.Line
import Storyline.Json.Reader
import Storyline.Json.Writer
import Storyline.Scenario

/-!
# Stored scenarios

A scenario is stored as an object with one entry for each code. Every entry writes its flags, texts
and lector; images and tables of partners are left out when there are none.
-/

namespace Storyline

namespace ScenarioEntry

/-- Reads a stored entry. -/
def ofJson? (j : Json) : Option ScenarioEntry := do
  let record ← j.record? 10
  return {
    universal := ← record.optional ⟨0, ["isUniversal"]⟩ false Json.flag?
    partnerSpecific := ← record.optional ⟨1, ["isPartnerSpecific"]⟩ false Json.flag?
    texts := {
      boy := ← record.optional ⟨2, ["boy"]⟩ "" Json.text?
      girl := ← record.optional ⟨3, ["girl"]⟩ "" Json.text? }
    lector := ← record.optional ⟨4, ["lector"]⟩ "" Json.text?
    lectorId := ← record.optional ⟨5, ["lectorId"]⟩ "" Json.text?
    voiceId := ← record.optional ⟨6, ["elevenId"]⟩ "" Json.text?
    images := ← record.optional ⟨7, ["images"]⟩ none (Json.nullable? ByGender.ofJson?)
    overrides := ← record.optional ⟨8, ["partnerOverrides"]⟩ ∅ PartnerTable.ofJson?
    imageOverrides := ← record.optional ⟨9, ["partnerImages"]⟩ ∅ PartnerTable.ofJson? }

/-- The stored form of an entry. -/
def toJson (entry : ScenarioEntry) : Json :=
  .object ([
    ("isUniversal", .bool entry.universal),
    ("isPartnerSpecific", .bool entry.partnerSpecific),
    ("boy", .string entry.texts.boy),
    ("girl", .string entry.texts.girl),
    ("lector", .string entry.lector),
    ("lectorId", .string entry.lectorId),
    ("elevenId", .string entry.voiceId)] ++
    fieldOfOption "images" ByGender.toJson entry.images ++
    fieldOfTable "partnerOverrides" entry.overrides ++
    fieldOfTable "partnerImages" entry.imageOverrides)

end ScenarioEntry

namespace Scenario

/-- Reads a stored scenario. -/
def ofJson? (j : Json) : Option Scenario := j.table? ScenarioEntry.ofJson?

/-- The stored form of a scenario. -/
def toJson (scenario : Scenario) : Json := .ofTable ScenarioEntry.toJson scenario

/-- Reads the text of a scenario. -/
def ofText? (text : String) : Option Scenario := (Json.parse? text).bind ofJson?

/-- The text of a scenario, in the pretty layout. -/
def toText (scenario : Scenario) : String := scenario.toJson.pretty

end Scenario

end Storyline
