import Storyline.Proofs.Sql.Row

/-!
# Every reference finds its row

Rows of the four scripts refer to each other by literals. In a story with lectors none of these
references is null or leads nowhere: every voice is one that the first script enters, and the title
is always the one that the second script enters.
-/

namespace Storyline.Sql

/-- The rows of the four scripts. -/
structure Tables where
  /-- The voices. -/
  voices : List Row
  /-- The registration. -/
  storyType : Row
  /-- The canonical script. -/
  schema : Row
  /-- The dynamic lines. -/
  lines : List Row

namespace Tables

/-- The rows of a story whose canonical script is `dsl`. -/
def ofStory (manifest : Manifest) (blocks : List Block) (dsl : String) : Tables where
  voices := manifest.lectors.map (Row.ofVoice manifest.voiceSettings)
  storyType := Row.ofStory manifest.story (voiceText (Lector.default? manifest.lectors))
  schema := Row.ofSchema manifest.story dsl
  lines := (dynamicOf blocks).flatMap fun line ↦
    Gender.all.map (lineRow manifest.story manifest.lectors line)

/-- All rows, in the order in which they are inserted. -/
def rows (tables : Tables) : List Row :=
  tables.voices ++ tables.storyType :: tables.schema :: tables.lines

/-- The names and texts of the scripts of a story with some title. -/
def files (tables : Tables) (title : String) : List (String × String) :=
  [("voices.sql", scriptText "voices" title "-- no lectors defined\n" tables.voices),
    ("story_type.sql", scriptText "story_types" title "" [tables.storyType]),
    ("schema.sql", scriptText "story_schemas" title "" [tables.schema]),
    ("dynamic_lines.sql", scriptText "dynamic_lines" title "-- no dynamic lines\n" tables.lines)]

/-- The text is a value written as a literal. -/
def IsLiteral (text : String) : Prop := ∃ value, text = literal value

private theorem isLiteral_literal (value : String) : IsLiteral (literal value) := ⟨value, rfl⟩

/-- The columns of a table that refer to rows of other tables. -/
def references : String → List String
  | "story_types" => ["voice_id"]
  | "story_schemas" => ["story_type_id"]
  | "dynamic_lines" => ["schema_id", "voice_id"]
  | _ => []

/-- Every reference finds a row, by the same literal that stands in it. -/
structure Complete (tables : Tables) : Prop where
  /-- Every voice is found by the identifier under which it was entered. -/
  voice : ∀ row ∈ tables.storyType :: tables.lines, ∃ id,
    row.get? "voice_id" = some (voiceSelect id) ∧
      ∃ voice ∈ tables.voices, voice.get? "eleven_id" = some id
  /-- The story is found by the title under which it was registered. -/
  title : ∃ title, tables.storyType.get? "title" = some title ∧
    tables.schema.get? "story_type_id" = some (storySelect title) ∧
      ∀ row ∈ tables.lines, row.get? "schema_id" = some (schemaSelect title)
  /-- Nothing else refers to a row: it is a literal. -/
  literal : ∀ row ∈ tables.rows, ∀ field ∈ row.fields,
    field.1 ∉ references row.table → IsLiteral field.2

end Tables

/-- The scripts of a story have the rows of its tables. -/
theorem files_ofStory (manifest : Manifest) (blocks : List Block) (dsl : String) :
    (Bundle.ofStory manifest blocks dsl).files =
      (Tables.ofStory manifest blocks dsl).files manifest.story.title := by
  rw [Bundle.files, Bundle.ofStory, render_voices, render_storyType, render_schema,
    render_dynamicLines]
  rfl

/-- What is written for a lector's voice finds the row of this voice. -/
theorem exists_voice {lectors : List Lector} {lector : Lector} (h : lector ∈ lectors)
    (settings : VoiceSettings) :
    ∃ id, voiceText (some lector) = voiceSelect id ∧
      ∃ voice ∈ lectors.map (Row.ofVoice settings), voice.get? "eleven_id" = some id :=
  ⟨literal lector.voiceId, rfl, Row.ofVoice settings lector, List.mem_map_of_mem h, rfl⟩

/-- The rows of dynamic lines are those of one line and one gender. -/
theorem exists_lineRow {manifest : Manifest} {blocks : List Block} {dsl : String} {row : Row}
    (h : row ∈ (Tables.ofStory manifest blocks dsl).lines) :
    ∃ line g, row = lineRow manifest.story manifest.lectors line g := by
  obtain ⟨line, -, hrow⟩ := List.mem_flatMap.1 h
  obtain ⟨g, -, rfl⟩ := List.mem_map.1 hrow
  exact ⟨line, g, rfl⟩

/-- Outside of the references there is nothing but literals. -/
theorem isLiteral_of_mem_rows {manifest : Manifest} {blocks : List Block} {dsl : String} {row : Row}
    (h : row ∈ (Tables.ofStory manifest blocks dsl).rows) :
    ∀ field ∈ row.fields, field.1 ∉ Tables.references row.table → Tables.IsLiteral field.2 := by
  simp only [Tables.rows, List.mem_append, List.mem_cons] at h
  rcases h with h | rfl | rfl | h
  · obtain ⟨lector, -, rfl⟩ := List.mem_map.1 h
    simp [Row.ofVoice, Tables.references, Tables.isLiteral_literal]
  · simp [Tables.ofStory, Row.ofStory, Tables.references, Tables.isLiteral_literal]
  · simp [Tables.ofStory, Row.ofSchema, Tables.references, Tables.isLiteral_literal]
  · obtain ⟨line, g, rfl⟩ := exists_lineRow h
    simp [lineRow, Row.ofLine, Tables.references, Tables.isLiteral_literal]

/-- In a story with lectors, whatever lectors its lines name, the four scripts consist of rows in
which every reference finds a row. -/
theorem complete_ofStory (manifest : Manifest) (h : manifest.lectors ≠ []) (blocks : List Block)
    (dsl : String) :
    (Bundle.ofStory manifest blocks dsl).files =
        (Tables.ofStory manifest blocks dsl).files manifest.story.title ∧
      (Tables.ofStory manifest blocks dsl).Complete := by
  refine ⟨files_ofStory manifest blocks dsl, ?_, ?_, fun _ ↦ isLiteral_of_mem_rows⟩
  · intro row hrow
    rcases List.mem_cons.1 hrow with rfl | hrow
    · obtain ⟨lector, hdefault⟩ : ∃ lector, Lector.default? manifest.lectors = some lector :=
        ⟨_, List.head?_eq_some_head h⟩
      have hmem : lector ∈ manifest.lectors := List.mem_of_head? hdefault
      obtain ⟨id, hid, hvoice⟩ := exists_voice hmem manifest.voiceSettings
      refine ⟨id, ?_, hvoice⟩
      rw [← hid, ← hdefault]
      rfl
    · obtain ⟨line, g, rfl⟩ := exists_lineRow hrow
      cases heffective : Lector.effective? manifest.lectors line.lectorId with
      | none => exact absurd (Lector.effective?_eq_none_iff.1 heffective) h
      | some lector =>
        obtain ⟨id, hid, hvoice⟩ :=
          exists_voice (Lector.mem_of_effective? heffective) manifest.voiceSettings
        refine ⟨id, ?_, hvoice⟩
        rw [← hid, ← heffective]
        rfl
  · refine ⟨literal manifest.story.title, rfl, rfl, ?_⟩
    intro row hrow
    obtain ⟨line, g, rfl⟩ := exists_lineRow hrow
    rfl

/-- Lines that name no lector of the story are read by one of its voices, too. -/
theorem complete_ofStory_unknown_lector :
    let manifest : Manifest :=
      { story := { title := "Harbor", code := "harbor" }, lectors := [⟨"n", "Narrator", "v'1"⟩] }
    let blocks : List Block :=
      [⟨.ofNat 1, .line { content := "Hi!", code := some "Z1", lectorId := some "nobody" }⟩]
    manifest.lectors ≠ [] ∧
      (Bundle.ofStory manifest blocks "").files =
        (Tables.ofStory manifest blocks "").files "Harbor" ∧
      (Tables.ofStory manifest blocks "").Complete := by
  intro manifest blocks
  have hlectors : manifest.lectors ≠ [] := List.cons_ne_nil _ _
  exact ⟨hlectors, complete_ofStory manifest hlectors blocks ""⟩

end Storyline.Sql
