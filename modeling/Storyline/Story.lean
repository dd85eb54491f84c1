import Storyline.Lector

/-!
# Stories

What is known of a story apart from its blocks: how it is registered, how its voices are made to
sound, and who its lectors are.
-/

namespace Storyline

/-- The registration of a story. -/
structure Story where
  /-- The title. -/
  title : String
  /-- The short name. -/
  code : String
  /-- The kind of story. -/
  form : String := "audio"
  /-- The age of the listeners. -/
  ageGroup : String := ""
  /-- A description. -/
  description : String := ""
  deriving DecidableEq, Repr

/-- The settings of the speech synthesis. -/
structure VoiceSettings where
  /-- How much the voice keeps to one manner. -/
  stability : Float := 0.5
  /-- How close the voice stays to its sample. -/
  similarityBoost : Float := 0.75
  /-- How much the manner of the sample is exaggerated, if that is set. -/
  style : Option Float := none
  /-- Whether likeness to the speaker is enhanced, if that is set. -/
  useSpeakerBoost : Option Bool := none
  deriving Repr

/-- All that a story needs beside its script. -/
structure Manifest where
  /-- The registration. -/
  story : Story
  /-- The settings of all voices. -/
  voiceSettings : VoiceSettings := {}
  /-- The lectors; the first one is the default. -/
  lectors : List Lector
  deriving Repr

end Storyline
