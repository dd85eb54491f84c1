import Storyline.Sql

/-!
# Scripts as rows

A script is a header with rows below it. In each row the columns get literals, or sub-selects that
find the key of another row by a literal that stands in that row.
-/

namespace Storyline.Sql

/-! ### Pieces -/

section Pieces

variable {f : Piece → String}

/-- Values between parentheses, whatever stands for each piece that is not code. -/
theorem join_tuple (hf : ∀ text, f (.code text) = text) (values : List Script) :
    String.join ((tuple values).map f) =
      "(" ++ ", ".intercalate (values.map fun value ↦ String.join (value.map f)) ++ ")" := by
  have hrest : ∀ (value : Script) (values : List Script),
      String.join ((value ++ values.flatMap fun v ↦ .code ", " :: v).map f) =
        ", ".intercalate ((value :: values).map fun value ↦ String.join (value.map f)) := by
    intro value values
    induction values generalizing value with
    | nil => simp
    | cons next values ih =>
      have hnext := ih next
      rw [List.map_cons] at hnext
      rw [List.map_cons, List.map_cons, String.intercalate_cons_cons, ← hnext]
      simp [hf, String.append_assoc]
  cases values with
  | nil => simp [tuple, hf]
  | cons value values =>
    rw [tuple, List.append_assoc _ value, ← hrest]
    simp [hf, String.append_assoc]

end Pieces

/-! ### Rows -/

/-- A row that is inserted into a table: the text that is written to each column. -/
structure Row where
  /-- The table. -/
  table : String
  /-- The columns, each with what is written to it. -/
  fields : List (String × String)
  deriving DecidableEq, Repr

namespace Row

/-- The statement that inserts a row. -/
def toText (row : Row) : String :=
  "INSERT INTO " ++ row.table ++ " (" ++ ", ".intercalate (row.fields.map Prod.fst) ++
    ") VALUES " ++ ("(" ++ ", ".intercalate (row.fields.map Prod.snd) ++ ")") ++ ";\n"

/-- What is written to a column. -/
def get? (row : Row) (column : String) : Option String := row.fields.lookup column

end Row

/-- The text of a script with rows, or with a comment in place of them if there are none. -/
def scriptText (table title comment : String) (rows : List Row) : String :=
  "-- " ++ table ++ " for story " ++ literal title ++ "\n" ++
    if rows = [] then comment else String.join (rows.map Row.toText)

/-- Finds a voice by its identifier at the speech service, a literal. -/
def voiceSelect (id : String) : String :=
  "(SELECT id FROM voices WHERE eleven_id = " ++ id ++ " LIMIT 1)"

/-- Finds the registration of a story by its title, a literal. -/
def storySelect (title : String) : String :=
  "(SELECT id FROM story_types WHERE title = " ++ title ++ " LIMIT 1)"

/-- Finds the canonical script of a story by its title, a literal. -/
def schemaSelect (title : String) : String :=
  "(SELECT s.id FROM story_schemas s JOIN story_types t ON t.id = s.story_type_id " ++
    "WHERE t.title = " ++ title ++ " LIMIT 1)"

/-- What is written in place of a lector's voice. -/
def voiceText : Option Lector → String
  | some lector => voiceSelect (literal lector.voiceId)
  | none => "NULL"

namespace Row

/-- The voice of a lector. -/
def ofVoice (settings : VoiceSettings) (lector : Lector) : Row where
  table := "voices"
  fields := [("eleven_id", literal lector.voiceId), ("name", literal lector.name),
    ("settings", literal settings.toText)]

/-- The registration of a story. -/
def ofStory (story : Story) (voice : String) : Row where
  table := "story_types"
  fields := [("title", literal story.title), ("code", literal story.code), ("voice_id", voice),
    ("type", literal story.form), ("age_group", literal story.ageGroup),
    ("description", literal story.description)]

/-- The canonical script of a story. -/
def ofSchema (story : Story) (dsl : String) : Row where
  table := "story_schemas"
  fields := [("story_type_id", storySelect (literal story.title)), ("schema", literal dsl)]

/-- The text that listeners of one gender hear under a code. -/
def ofLine (story : Story) (code text voice gender : String) : Row where
  table := "dynamic_lines"
  fields := [("code", literal code), ("text", literal text),
    ("schema_id", schemaSelect (literal story.title)), ("voice_id", voice),
    ("gender", literal gender)]

end Row

/-! ### Texts -/

private theorem render_literal (value : String) :
    Script.render [.literal value] = literal value := by
  simp [Script.render, Piece.render]

/-- A value within code is its literal there. -/
theorem render_lookup (front value back : String) :
    Script.render [.code front, .literal value, .code back] = front ++ literal value ++ back := by
  simp [Script.render, Piece.render, String.append_assoc]

private theorem render_voiceRef (lector : Option Lector) :
    Script.render (voiceRef lector) = voiceText lector := by
  cases lector with
  | none => simp [voiceRef, Script.render, Piece.render, voiceText]
  | some lector => exact render_lookup ..

private theorem render_storyRef (story : Story) :
    Script.render (storyRef story) = storySelect (literal story.title) :=
  render_lookup ..

private theorem render_schemaRef (story : Story) :
    Script.render (schemaRef story) = schemaSelect (literal story.title) :=
  render_lookup ..

private theorem render_append (a b : Script) : Script.render (a ++ b) = a.render ++ b.render := by
  simp [Script.render]

/-- A row is inserted by its statement. -/
theorem render_insert (row : Row) {columns : List String} {values : List Script}
    (hcolumns : row.fields.map Prod.fst = columns)
    (hvalues : row.fields.map Prod.snd = values.map Script.render) :
    Script.render (insert row.table columns values) = row.toText := by
  have htuple : Script.render (tuple values) =
      "(" ++ ", ".intercalate (values.map Script.render) ++ ")" := join_tuple (fun _ ↦ rfl) values
  -- the equation of the definition would compare its texts character by character
  delta Row.toText
  rw [insert, render_append, render_append, htuple, hcolumns, hvalues]
  simp [Script.render, Piece.render, String.append_assoc]

private theorem render_header (table : String) (story : Story) (body : Script) :
    Script.render (header table story ++ body) =
      "-- " ++ table ++ " for story " ++ literal story.title ++ "\n" ++ body.render := by
  simp [header, Script.render, Piece.render, String.append_assoc]

/-- A script with the rows of some items, or with a comment if there are no items. -/
theorem render_rows {α : Type} (table : String) (story : Story) (comment : String) {items : List α}
    {script : α → Script} {rows : α → List Row}
    (h : ∀ a, (script a).render = String.join ((rows a).map Row.toText)) (hne : ∀ a, rows a ≠ []) :
    Script.render (header table story ++
        if items.isEmpty then [.code comment] else items.flatMap script) =
      scriptText table story.title comment (items.flatMap rows) := by
  have hrows : Script.render (items.flatMap script) =
      String.join ((items.flatMap rows).map Row.toText) := by
    induction items with
    | nil => rfl
    | cons a items ih =>
      rw [List.flatMap_cons, render_append, h, ih, List.flatMap_cons, List.map_append,
        String.join_append]
  rw [render_header, scriptText]
  cases items with
  | nil => simp [Script.render, Piece.render]
  | cons a items =>
    have hcons : (a :: items).flatMap rows ≠ [] := fun hnil ↦
      hne a (List.append_eq_nil_iff.1 hnil).1
    rw [if_neg hcons, ← hrows]
    rfl

/-- A script with one row. -/
theorem render_row {table : String} {story : Story} (comment : String) {script : Script} {row : Row}
    (h : script.render = row.toText) :
    Script.render (header table story ++ script) = scriptText table story.title comment [row] := by
  rw [render_header, h, scriptText, if_neg (List.cons_ne_nil _ _)]
  simp

/-! ### Whole scripts -/

section Scripts

variable (story : Story) (lectors : List Lector)

/-- The row of a dynamic line for one gender. -/
def lineRow (line : Line) (g : Gender) : Row :=
  Row.ofLine story ((line.tag?.map Code.base).getD "") (line.text g none)
    (voiceText (Lector.effective? lectors line.lectorId)) (genderName g)

/-- The script of the voices has one row for each lector. -/
theorem render_voices (settings : VoiceSettings) :
    (voices story lectors settings).render =
      scriptText "voices" story.title "-- no lectors defined\n"
        (lectors.map (Row.ofVoice settings)) := by
  have hrow : ∀ lector, Script.render (voiceRow settings lector) =
      String.join ([Row.ofVoice settings lector].map Row.toText) := by
    intro lector
    have htext : (voiceRow settings lector).render = (Row.ofVoice settings lector).toText :=
      render_insert (Row.ofVoice settings lector) rfl (by simp [Row.ofVoice, render_literal])
    simp [htext]
  rw [voices, noLectors, render_rows _ _ _ hrow fun _ ↦ List.cons_ne_nil _ _,
    List.map_eq_flatMap]

/-- The script of the registration has one row, under the voice of the default lector. -/
theorem render_storyType :
    (storyType story lectors).render =
      scriptText "story_types" story.title ""
        [Row.ofStory story (voiceText (Lector.default? lectors))] := by
  apply render_row
  exact render_insert (Row.ofStory story (voiceText (Lector.default? lectors))) rfl
    (by simp [Row.ofStory, render_literal, render_voiceRef])

/-- The script of the canonical script has one row. -/
theorem render_schema (dsl : String) :
    (schema story dsl).render =
      scriptText "story_schemas" story.title "" [Row.ofSchema story dsl] := by
  apply render_row
  exact render_insert (Row.ofSchema story dsl) rfl
    (by simp [Row.ofSchema, render_literal, render_storyRef])

/-- The script of the dynamic lines has two rows for each of them. -/
theorem render_dynamicLines (blocks : List Block) :
    (dynamicLines story lectors blocks).render =
      scriptText "dynamic_lines" story.title "-- no dynamic lines\n"
        ((dynamicOf blocks).flatMap fun line ↦ Gender.all.map (lineRow story lectors line)) := by
  have hrow : ∀ line, Script.render (Gender.all.flatMap (dynamicRow story lectors line)) =
      String.join ((Gender.all.map (lineRow story lectors line)).map Row.toText) := by
    intro line
    have htext : ∀ g, (dynamicRow story lectors line g).render =
        (lineRow story lectors line g).toText :=
      fun g ↦ render_insert (lineRow story lectors line g) rfl
        (by simp [lineRow, Row.ofLine, render_literal, render_schemaRef, render_voiceRef])
    simp [Gender.all, render_append, htext]
  rw [dynamicLines, noDynamicLines, render_rows _ _ _ hrow fun _ ↦ List.cons_ne_nil _ _]

end Scripts

end Storyline.Sql
