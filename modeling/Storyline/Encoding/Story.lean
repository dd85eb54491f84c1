import Storyline.Json.Access
import Storyline.Json.Writer
import Storyline.Story

/-!
# Stored stories

How the registration of a story, its lectors and its voice settings are stored as JSON. The fields
are the same in every format, so they are read through functions that know the format.
-/

namespace Storyline

namespace Lector

/-- Reads the fields of a lector from a document of some format. -/
def ofRecord? {α : Type} (text? : α → Option String) (record : Record α) : Option Lector := do
  return {
    id := ← record.required ⟨0, ["id"]⟩ text?
    name := ← record.required ⟨1, ["name"]⟩ text?
    voiceId :=
      ← record.optional ⟨2, ["externalVoiceId", "elevenId", "external_voice_id"]⟩ "" text? }

/-- Reads a stored lector. -/
def ofJson? (j : Json) : Option Lector := (j.record? 3).bind (ofRecord? Json.text?)

/-- The stored form of a lector. -/
def toJson (lector : Lector) : Json :=
  .object [("id", .string lector.id), ("name", .string lector.name),
    ("externalVoiceId", .string lector.voiceId)]

end Lector

namespace Story

/-- Reads the fields of a story from a document of some format. -/
def ofRecord? {α : Type} (text? : α → Option String) (record : Record α) : Option Story := do
  let blank : Story := { title := "", code := "" }
  return {
    title := ← record.required ⟨0, ["title"]⟩ text?
    code := ← record.required ⟨1, ["code"]⟩ text?
    form := ← record.optional ⟨2, ["type"]⟩ blank.form text?
    ageGroup := ← record.optional ⟨3, ["age_group"]⟩ blank.ageGroup text?
    description := ← record.optional ⟨4, ["description"]⟩ blank.description text? }

/-- Reads a stored story. -/
def ofJson? (j : Json) : Option Story := (j.record? 5).bind (ofRecord? Json.text?)

/-- The stored form of a story. -/
def toJson (story : Story) : Json :=
  .object [("title", .string story.title), ("code", .string story.code),
    ("type", .string story.form), ("age_group", .string story.ageGroup),
    ("description", .string story.description)]

end Story

namespace VoiceSettings

/-- Reads the fields of voice settings from a document of some format. A number or a flag that
may be missing is read by `style?` and `boost?`, which know how the format says so. -/
def ofRecord? {α : Type} (number? : α → Option Float) (style? : α → Option (Option Float))
    (boost? : α → Option (Option Bool)) (record : Record α) : Option VoiceSettings := do
  let defaults : VoiceSettings := {}
  return {
    stability := ← record.optional ⟨0, ["stability"]⟩ defaults.stability number?
    similarityBoost := ← record.optional ⟨1, ["similarity_boost"]⟩ defaults.similarityBoost number?
    style := ← record.optional ⟨2, ["style"]⟩ none style?
    useSpeakerBoost := ← record.optional ⟨3, ["use_speaker_boost"]⟩ none boost? }

/-- Reads stored voice settings. -/
def ofJson? (j : Json) : Option VoiceSettings :=
  (j.record? 4).bind
    (ofRecord? Json.float? (Json.nullable? Json.float?) (Json.nullable? Json.flag?))

/-- The stored form of voice settings. -/
def toJson (settings : VoiceSettings) : Json :=
  .object ([("stability", .ofFloat settings.stability),
      ("similarity_boost", .ofFloat settings.similarityBoost)] ++
    (settings.style.map fun x ↦ ("style", Json.ofFloat x)).toList ++
    (settings.useSpeakerBoost.map fun b ↦ ("use_speaker_boost", Json.bool b)).toList)

/-- The text of stored voice settings. -/
def toText (settings : VoiceSettings) : String := settings.toJson.compact

end VoiceSettings

end Storyline
