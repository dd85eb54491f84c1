import Storyline.Block
import Storyline.Encoding.Story

/-!
# SQL scripts

Four scripts enter a story into the tables of a production database: its voices, its registration,
its canonical script and its dynamic lines. The numeric keys of rows are not known beforehand, so
rows refer to each other by titles and voice identifiers through sub-selects.

A script is a list of pieces: code, which is the same for all stories, and values, which are always
written as literals.
-/

namespace Storyline.Sql

/-- A piece of a script. -/
inductive Piece where
  /-- Text of the script itself. -/
  | code (text : String)
  /-- A value, written as a string literal. -/
  | literal (value : String)
  deriving DecidableEq, Repr

/-- A script in pieces. -/
abbrev Script := List Piece

/-- The characters of a value inside a literal: a single quote is doubled. -/
def escape (cs : List Char) : List Char :=
  cs.flatMap fun c ↦ if c = '\'' then ['\'', '\''] else [c]

/-- A value as a string literal. -/
def literal (value : String) : String :=
  String.ofList ('\'' :: escape value.toList ++ ['\''])

/-- The text of a piece. -/
def Piece.render : Piece → String
  | code text => text
  | .literal value => Sql.literal value

/-- The text of a script. -/
def Script.render (script : Script) : String :=
  String.join (script.map Piece.render)

/-- The name of a gender in the table of dynamic lines. -/
def genderName : Gender → String
  | .boy => "He"
  | .girl => "She"

/-- Values between parentheses, with commas between them. -/
def tuple : List Script → Script
  | [] => [.code "()"]
  | value :: values =>
    [.code "("] ++ value ++ (values.flatMap fun v ↦ .code ", " :: v) ++ [.code ")"]

/-- The comment at the head of a script. -/
def header (table : String) (story : Story) : Script :=
  [.code ("-- " ++ table ++ " for story "), .literal story.title, .code "\n"]

/-- The statement that inserts a row. -/
def insert (table : String) (columns : List String) (values : List Script) : Script :=
  [.code ("INSERT INTO " ++ table ++ " (" ++ ", ".intercalate columns ++ ") VALUES ")] ++
    tuple values ++ [.code ";\n"]

/-- The key of a lector's voice; the database has none where there is no lector. -/
def voiceRef : Option Lector → Script
  | some lector =>
    [.code "(SELECT id FROM voices WHERE eleven_id = ", .literal lector.voiceId,
      .code " LIMIT 1)"]
  | none => [.code "NULL"]

/-- The key of a story's registration. -/
def storyRef (story : Story) : Script :=
  [.code "(SELECT id FROM story_types WHERE title = ", .literal story.title, .code " LIMIT 1)"]

/-- The key of a story's canonical script. -/
def schemaRef (story : Story) : Script :=
  [.code ("(SELECT s.id FROM story_schemas s JOIN story_types t ON t.id = s.story_type_id " ++
      "WHERE t.title = "),
    .literal story.title, .code " LIMIT 1)"]

/-- The comment in place of voices. -/
def noLectors : Script := [.code "-- no lectors defined\n"]

/-- The comment in place of dynamic lines. -/
def noDynamicLines : Script := [.code "-- no dynamic lines\n"]

/-- The row of a lector's voice. -/
def voiceRow (settings : VoiceSettings) (lector : Lector) : Script :=
  insert "voices" ["eleven_id", "name", "settings"]
    [[.literal lector.voiceId], [.literal lector.name], [.literal settings.toText]]

/-- The script that registers the voices, one row for each lector. -/
def voices (story : Story) (lectors : List Lector) (settings : VoiceSettings) : Script :=
  header "voices" story ++
    if lectors.isEmpty then noLectors else lectors.flatMap (voiceRow settings)

/-- The script that registers the story, under the voice of the default lector. -/
def storyType (story : Story) (lectors : List Lector) : Script :=
  header "story_types" story ++
    insert "story_types" ["title", "code", "voice_id", "type", "age_group", "description"]
      [[.literal story.title], [.literal story.code], voiceRef (Lector.default? lectors),
        [.literal story.form], [.literal story.ageGroup], [.literal story.description]]

/-- The script that stores the canonical script of the story. -/
def schema (story : Story) (dsl : String) : Script :=
  header "story_schemas" story ++
    insert "story_schemas" ["story_type_id", "schema"] [storyRef story, [.literal dsl]]

/-- The row of a dynamic line for one gender. -/
def dynamicRow (story : Story) (lectors : List Lector) (line : Line) (g : Gender) : Script :=
  insert "dynamic_lines" ["code", "text", "schema_id", "voice_id", "gender"]
    [[.literal ((line.tag?.map Code.base).getD "")], [.literal (line.text g none)],
      schemaRef story, voiceRef (Lector.effective? lectors line.lectorId),
      [.literal (genderName g)]]

/-- The dynamic lines of a story. -/
def dynamicOf (blocks : List Block) : List Line :=
  (Block.lines blocks).filter (·.IsDynamic)

/-- The script that registers the dynamic lines, two rows for each. -/
def dynamicLines (story : Story) (lectors : List Lector) (blocks : List Block) : Script :=
  let lines := dynamicOf blocks
  header "dynamic_lines" story ++
    if lines.isEmpty then noDynamicLines
    else lines.flatMap fun line ↦ Gender.all.flatMap (dynamicRow story lectors line)

/-- The four scripts of a story. -/
structure Bundle where
  /-- Registers the voices. -/
  voices : Script
  /-- Registers the story. -/
  storyType : Script
  /-- Stores the canonical script. -/
  schema : Script
  /-- Registers the dynamic lines. -/
  dynamicLines : Script
  deriving DecidableEq, Repr

namespace Bundle

/-- The scripts of a story whose canonical script is `dsl`. -/
def ofStory (manifest : Manifest) (blocks : List Block) (dsl : String) : Bundle where
  voices := Sql.voices manifest.story manifest.lectors manifest.voiceSettings
  storyType := Sql.storyType manifest.story manifest.lectors
  schema := Sql.schema manifest.story dsl
  dynamicLines := Sql.dynamicLines manifest.story manifest.lectors blocks

/-- The names and texts of the scripts, in the order in which they have to be run. -/
def files (bundle : Bundle) : List (String × String) :=
  [("voices.sql", bundle.voices.render), ("story_type.sql", bundle.storyType.render),
    ("schema.sql", bundle.schema.render), ("dynamic_lines.sql", bundle.dynamicLines.render)]

end Bundle

end Storyline.Sql
