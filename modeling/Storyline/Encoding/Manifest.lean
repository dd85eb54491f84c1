import Storyline.Encoding.Story
import Storyline.Toml.Document

/-!
# Manifests

A manifest is a TOML document with the registration of a story under `story`, its voice settings
under `voice_settings` and its lectors under `lectors`. A story without lectors cannot be told.
-/

namespace Storyline

namespace Toml.Value

/-- The text of a string. -/
def text? : Value → Option String
  | text s => some s
  | _ => none

/-- The value of a flag. -/
def flag? : Value → Option Bool
  | flag b => some b
  | _ => none

/-- The value of a number; a whole number may stand for a floating-point one. -/
def float? : Value → Option Float
  | float x => some x
  | integer n => some (Float.ofInt n)
  | _ => none

/-- The items of an array. -/
def items? : Value → Option (List Value)
  | array items => some items
  | _ => none

/-- A record: a table, or an array of its first few fields and anything after them. A date has none
of the fields that a record may have. -/
def record? : Value → Option (Record Value)
  | table entries => some (.named entries)
  | array items => some (.positional items)
  | moment => some (.named [])
  | _ => none

end Toml.Value

/-- Why a text is no manifest. -/
inductive ManifestError where
  /-- The text is not TOML, or its fields are not those of a manifest. -/
  | invalid
  /-- The list of lectors is empty. -/
  | noLectors
  deriving DecidableEq, Repr

/-- The message for a text that is no manifest. -/
def ManifestError.message : ManifestError → String
  | invalid => "invalid manifest TOML"
  | noLectors => "manifest defines no lectors"

namespace Lector

/-- Reads a lector of a manifest. -/
def ofToml? (v : Toml.Value) : Option Lector := v.record?.bind (ofRecord? Toml.Value.text?)

end Lector

namespace VoiceSettings

/-- Reads the voice settings of a manifest. -/
def ofToml? (v : Toml.Value) : Option VoiceSettings :=
  v.record?.bind (ofRecord? Toml.Value.float? (fun x ↦ x.float?.map some)
    (fun x ↦ x.flag?.map some))

end VoiceSettings

namespace Manifest

/-- Reads the table of a manifest; the list of lectors may be empty. -/
def ofEntries? (entries : List (String × Toml.Value)) : Option Manifest := do
  let record : Record Toml.Value := .named entries
  return {
    story := ← record.required ⟨0, ["story"]⟩ fun v ↦
      v.record?.bind (Story.ofRecord? Toml.Value.text?)
    voiceSettings := ← record.optional ⟨1, ["voice_settings"]⟩ {} VoiceSettings.ofToml?
    lectors := ← record.optional ⟨2, ["lectors"]⟩ [] fun v ↦
      v.items?.bind fun items ↦ items.mapM Lector.ofToml? }

/-- Reads the text of a manifest. -/
def ofText (text : String) : Except ManifestError Manifest :=
  match (Toml.parse? text).bind ofEntries? with
  | none => .error .invalid
  | some manifest => if manifest.lectors.isEmpty then .error .noLectors else .ok manifest

/-- A manifest that was read has lectors. -/
theorem lectors_ne_nil_of_ofText {text : String} {manifest : Manifest}
    (h : ofText text = .ok manifest) : manifest.lectors ≠ [] := by
  unfold ofText at h
  split at h
  · contradiction
  · split at h
    · contradiction
    · next hne => cases h; simpa using hne

end Manifest

end Storyline
