import Storyline.Proofs.Sql.Reader
import Storyline.Proofs.Sql.Row

/-!
# Scripts as prepared statements

The values of a story are never code. A script is read as fixed statements with question marks, to
which the values are bound, below comments. Only the title stands in a comment, and comments have no
quotes to end: a title on more than one line goes on as code behind its first line.
-/

namespace Storyline.Sql

/-! ### Prepared statements -/

/-- Inserts a row, with a question mark for each of the values. -/
structure Prepared where
  /-- The table. -/
  table : String
  /-- The names of the columns. -/
  columns : List String
  /-- What is written to each column, with question marks. -/
  fields : List String
  /-- The values, in order. -/
  values : List String

/-- The statement without its values. -/
def Prepared.template (statement : Prepared) : String :=
  "INSERT INTO " ++ statement.table ++ " (" ++ ", ".intercalate statement.columns ++
    ") VALUES " ++ ("(" ++ ", ".intercalate statement.fields ++ ")") ++ ";\n"

/-- Values bound to the question marks of a statement. -/
def bind : List Char → List String → List Token
  | [], _ => []
  | '?' :: cs, value :: values => .value value.toList :: bind cs values
  | c :: cs, values => .code c :: bind cs values

/-- How a prepared statement is read. -/
def Prepared.tokens (statement : Prepared) : List Token :=
  bind statement.template.toList statement.values

/-- Inserts the voice of a lector. -/
def voiceStatement (settings : VoiceSettings) (lector : Lector) : Prepared where
  table := "voices"
  columns := ["eleven_id", "name", "settings"]
  fields := ["?", "?", "?"]
  values := [lector.voiceId, lector.name, settings.toText]

example (settings : VoiceSettings) (lector : Lector) :
    (voiceStatement settings lector).template =
      "INSERT INTO voices (eleven_id, name, settings) VALUES (?, ?, ?);\n" := by
  rfl

/-- Finds the voice of a lector; it is null where there is no lector. -/
def voiceKey : Option Lector → String
  | some _ => "(SELECT id FROM voices WHERE eleven_id = ? LIMIT 1)"
  | none => "NULL"

/-- Finds the registration of a story. -/
def storyKey : String := "(SELECT id FROM story_types WHERE title = ? LIMIT 1)"

/-- Finds the canonical script of a story. -/
def schemaKey : String :=
  "(SELECT s.id FROM story_schemas s JOIN story_types t ON t.id = s.story_type_id " ++
    "WHERE t.title = ? LIMIT 1)"

/-- Registers a story under the voice of a lector. -/
def storyStatement (story : Story) (lector : Option Lector) : Prepared where
  table := "story_types"
  columns := ["title", "code", "voice_id", "type", "age_group", "description"]
  fields := ["?", "?", voiceKey lector, "?", "?", "?"]
  values := [story.title, story.code] ++ (lector.map (·.voiceId)).toList ++
    [story.form, story.ageGroup, story.description]

/-- Stores the canonical script of a story. -/
def schemaStatement (story : Story) (dsl : String) : Prepared where
  table := "story_schemas"
  columns := ["story_type_id", "schema"]
  fields := [storyKey, "?"]
  values := [story.title, dsl]

/-- Inserts the text of a line for a gender, under the voice of a lector. -/
def lineStatement (story : Story) (line : Line) (g : Gender) (lector : Option Lector) :
    Prepared where
  table := "dynamic_lines"
  columns := ["code", "text", "schema_id", "voice_id", "gender"]
  fields := ["?", "?", schemaKey, voiceKey lector, "?"]
  values := [(line.tag?.map Code.base).getD "", line.text g none, story.title] ++
    (lector.map (·.voiceId)).toList ++ [genderName g]

/-- The text of the comment at the head of a script. -/
def caption (table : String) (story : Story) : List Char :=
  (" " ++ table ++ " for story " ++ literal story.title).toList

/-- How the four scripts of a story are meant to be read. -/
def intended (manifest : Manifest) (blocks : List Block) (dsl : String) :
    List (String × List Token) :=
  let ⟨story, settings, lectors⟩ := manifest
  [("voices.sql", .comment (caption "voices" story) ::
      if lectors.isEmpty then [.comment " no lectors defined".toList]
      else lectors.flatMap fun lector ↦ (voiceStatement settings lector).tokens),
    ("story_type.sql", .comment (caption "story_types" story) ::
      (storyStatement story (Lector.default? lectors)).tokens),
    ("schema.sql", .comment (caption "story_schemas" story) ::
      (schemaStatement story dsl).tokens),
    ("dynamic_lines.sql", .comment (caption "dynamic_lines" story) ::
      if (dynamicOf blocks).isEmpty then [.comment " no dynamic lines".toList]
      else (dynamicOf blocks).flatMap fun line ↦ Gender.all.flatMap fun g ↦
        (lineStatement story line g (Lector.effective? lectors line.lectorId)).tokens)]

/-! ### Templates -/

/-- A piece with a question mark in place of a value. -/
def Piece.template : Piece → String
  | .code text => text
  | .literal _ => "?"

/-- A script with question marks in place of its values. -/
def Script.template (script : Script) : String := String.join (script.map Piece.template)

/-- The value of a piece, if it has one. -/
def Piece.value? : Piece → Option String
  | .code _ => none
  | .literal value => some value

/-- The pieces of a tidy script are its values bound to its template. -/
theorem tokens_eq_bind {script : Script} (h : Tidy script) :
    script.flatMap Piece.tokens =
      bind (Script.template script).toList (script.filterMap Piece.value?) := by
  have hcode : ∀ {cs : List Char}, (∀ c ∈ cs, c ≠ '?') → ∀ rest values,
      bind (cs ++ rest) values = cs.map .code ++ bind rest values := by
    intro cs hcs rest values
    induction cs with
    | nil => rfl
    | cons c cs ih =>
      rw [List.forall_mem_cons] at hcs
      rw [List.cons_append, bind, ih hcs.2]
      · rfl
      · exact fun _ _ _ hc ↦ absurd hc hcs.1
  induction script with
  | nil => rfl
  | cons piece script ih =>
    rw [List.flatMap_cons, Script.template, List.map_cons, String.join_cons, String.toList_append,
      ← Script.template]
    cases piece with
    | code text =>
      rw [Piece.template, hcode fun c hc ↦ (h.1 c hc).2.2, ih h.2]
      rfl
    | literal value =>
      have hmark : "?".toList = ['?'] := by decide
      rw [Piece.template, hmark, ih h.2]
      rfl

/-- What stands in front of a script and behind it stands there in the template. -/
theorem template_between (front back : String) (script : Script) :
    Script.template ([.code front] ++ script ++ [.code back]) =
      front ++ Script.template script ++ back := by
  simp [Script.template, Piece.template, String.append_assoc]

private theorem template_tuple (values : List Script) :
    Script.template (tuple values) =
      "(" ++ ", ".intercalate (values.map Script.template) ++ ")" :=
  join_tuple (fun _ ↦ rfl) values

/-- A value of its own is a question mark in the template. -/
theorem template_literal (value : String) : Script.template [.literal value] = "?" := rfl

/-- A value within code is a question mark in the template. -/
theorem template_lookup (front value back : String) :
    Script.template [.code front, .literal value, .code back] = front ++ "?" ++ back :=
  template_between front back [.literal value]

private theorem template_voiceRef (lector : Option Lector) :
    Script.template (voiceRef lector) = voiceKey lector := by
  cases lector <;> rfl

private theorem template_storyRef (story : Story) :
    Script.template (storyRef story) = storyKey := rfl

private theorem template_schemaRef (story : Story) :
    Script.template (schemaRef story) = schemaKey := by
  -- The front is split off as a variable: opened, it would be compared character by character.
  have hsplit : ∀ a b c d : String, a ++ b ++ c ++ d = a ++ (b ++ c ++ d) := fun a b c d ↦ by
    simp only [String.append_assoc]
  have hend : "WHERE t.title = " ++ "?" ++ " LIMIT 1)" = "WHERE t.title = ? LIMIT 1)" := by decide
  exact (template_lookup ..).trans ((hsplit ..).trans (congrArg (_ ++ ·) hend))

/-! ### Statements -/

/-- An inserted row is read as the statement whose fields are the templates of what is inserted. -/
theorem tokens_insert {table : String} {columns : List String} {values : List Script}
    {statement : Prepared} (h : Tidy (insert table columns values))
    (htable : statement.table = table) (hcolumns : statement.columns = columns)
    (hfields : statement.fields = values.map Script.template)
    (hvalues : statement.values = (insert table columns values).filterMap Piece.value?) :
    (insert table columns values).flatMap Piece.tokens = statement.tokens := by
  have htemplate : Script.template (insert table columns values) = statement.template := by
    rw [insert, template_between, template_tuple, ← htable, ← hcolumns, ← hfields]
    rfl
  rw [tokens_eq_bind h, htemplate, ← hvalues, Prepared.tokens]

/-- A value that is no more than a literal. -/
theorem tidy_literal (value : String) : Tidy [.literal value] := ⟨trivial, trivial⟩

private theorem tidy_voiceRef (lector : Option Lector) : Tidy (voiceRef lector) := by
  cases lector with
  | none => exact ⟨by decide, trivial⟩
  | some lector => exact ⟨by decide, by simp [Apart], by decide, trivial⟩

private theorem tidy_storyRef (story : Story) : Tidy (storyRef story) :=
  ⟨by decide, by simp [Apart], by decide, trivial⟩

private theorem tidy_schemaRef (story : Story) : Tidy (schemaRef story) :=
  ⟨by decide, by simp [Apart], by decide, trivial⟩

private theorem tidy_voiceRow (settings : VoiceSettings) (lector : Lector) :
    Tidy (voiceRow settings lector) :=
  tidy_insert (by decide) (by decide) (by simp [tidy_literal])

private theorem tokens_voiceRow (settings : VoiceSettings) (lector : Lector) :
    (voiceRow settings lector).flatMap Piece.tokens = (voiceStatement settings lector).tokens :=
  tokens_insert (tidy_voiceRow settings lector) rfl rfl rfl rfl

private theorem tidy_dynamicRow (story : Story) (lectors : List Lector) (line : Line) (g : Gender) :
    Tidy (dynamicRow story lectors line g) :=
  tidy_insert (by decide) (by decide) (by simp [tidy_literal, tidy_schemaRef, tidy_voiceRef])

private theorem tokens_dynamicRow (story : Story) (lectors : List Lector) (line : Line)
    (g : Gender) :
    (dynamicRow story lectors line g).flatMap Piece.tokens =
      (lineStatement story line g (Lector.effective? lectors line.lectorId)).tokens := by
  refine tokens_insert (tidy_dynamicRow story lectors line g) rfl rfl ?_ ?_
  · simp only [List.map_cons, List.map_nil, template_literal, template_schemaRef,
      template_voiceRef, lineStatement]
  · cases Lector.effective? lectors line.lectorId <;> rfl

/-! ### Comments -/

/-- The characters of a script with a header. -/
theorem toList_render_header (table : String) (story : Story) (body : Script) :
    (Script.render (header table story ++ body)).toList =
      '-' :: '-' :: (caption table story ++ '\n' :: (Script.render body).toList) := by
  have hdashes : "-- ".toList = '-' :: '-' :: " ".toList := by decide
  have hfeed : "\n".toList = ['\n'] := by decide
  rw [toList_render_append, header, toList_render_cons, toList_render_cons, toList_render_cons,
    caption]
  simp only [Piece.render, String.toList_append, hdashes, hfeed, List.append_assoc,
    List.cons_append]
  rfl

/-- The caption is one line if the title is. -/
theorem mem_caption_iff (table : String) (htable : '\n' ∉ table.toList) (story : Story) :
    '\n' ∈ caption table story ↔ '\n' ∈ story.title.toList := by
  have hescape : ∀ cs : List Char, '\n' ∈ escape cs ↔ '\n' ∈ cs := by
    intro cs
    rw [escape, List.mem_flatMap]
    constructor
    · rintro ⟨c, hc, hmem⟩
      split at hmem
      · exact absurd hmem (by decide)
      · rwa [List.mem_singleton.1 hmem]
    · exact fun h ↦ ⟨'\n', h, by decide⟩
  rw [caption, String.toList_append, String.toList_append, String.toList_append, literal,
    String.toList_ofList, List.mem_append, List.mem_append, List.mem_append]
  simp [htable, hescape]

/-- Below a header that is one line, a script is read on its own. -/
theorem read_header {table : String} {story : Story} (h : '\n' ∉ caption table story)
    (body : Script) :
    read (Script.render (header table story ++ body)) =
      (readFrom .code (Script.render body).toList).map (.comment (caption table story) :: ·) := by
  rw [read, toList_render_header, readFrom, readFrom_comment h, List.nil_append]

/-- Below a header that is one line, a tidy script is read piece by piece. -/
theorem read_header_of_tidy {table : String} {story : Story} (h : '\n' ∉ caption table story)
    {body : Script} (hbody : Tidy body) :
    read (Script.render (header table story ++ body)) =
      some (.comment (caption table story) :: body.flatMap Piece.tokens) := by
  have hread : readFrom .code ((Script.render body).toList ++ []) =
      (readFrom .code []).map (body.flatMap Piece.tokens ++ ·) :=
    readFrom_render hbody (by decide)
  rw [List.append_nil] at hread
  rw [read_header h, hread]
  simp [readFrom]

/-- Below a header that is one line, an inserted row is read as its statement. -/
theorem read_header_insert {table into : String} {story : Story} (h : '\n' ∉ caption table story)
    {columns : List String} {values : List Script} {statement : Prepared}
    (hrow : Tidy (insert into columns values)) (htable : statement.table = into)
    (hcolumns : statement.columns = columns)
    (hfields : statement.fields = values.map Script.template)
    (hvalues : statement.values = (insert into columns values).filterMap Piece.value?) :
    read (Script.render (header table story ++ insert into columns values)) =
      some (.comment (caption table story) :: statement.tokens) := by
  rw [read_header_of_tidy h hrow, tokens_insert hrow htable hcolumns hfields hvalues]

/-- A header that is more than one line is not read as a comment. -/
theorem read_header_ne {table : String} {story : Story} (h : '\n' ∈ caption table story)
    (body : Script) (tokens : List Token) :
    read (Script.render (header table story ++ body)) ≠
      some (.comment (caption table story) :: tokens) := by
  intro hread
  rw [read, toList_render_header, readFrom] at hread
  obtain ⟨shown, rest, hshown, heq⟩ := notMem_of_readFrom_comment (by simp) hread
  obtain ⟨hcaption, -⟩ := List.cons.inj heq
  rw [Token.comment.inj hcaption] at h
  exact hshown h

/-! ### Whole scripts -/

section Bundle

variable {story : Story}

private theorem read_voices (h : '\n' ∉ story.title.toList) (lectors : List Lector)
    (settings : VoiceSettings) :
    read (voices story lectors settings).render = some (.comment (caption "voices" story) ::
      if lectors.isEmpty then [.comment " no lectors defined".toList]
      else lectors.flatMap fun lector ↦ (voiceStatement settings lector).tokens) := by
  have hcaption := mt (mem_caption_iff "voices" (by decide) story).1 h
  rw [voices]
  split
  · have hread : readFrom .code (Script.render noLectors).toList =
        some [.comment " no lectors defined".toList] := by decide
    rw [read_header hcaption, hread, Option.map_some]
  · have htidy : Tidy (lectors.flatMap (voiceRow settings)) :=
      (tidy_flatMap fun lector _ ↦ ⟨tidy_voiceRow settings lector, apart_insert _ _ _⟩).1
    rw [read_header_of_tidy hcaption htidy, List.flatMap_assoc]
    simp only [tokens_voiceRow]

private theorem read_storyType (h : '\n' ∉ story.title.toList) (lectors : List Lector) :
    read (storyType story lectors).render = some (.comment (caption "story_types" story) ::
      (storyStatement story (Lector.default? lectors)).tokens) := by
  have hcaption := mt (mem_caption_iff "story_types" (by decide) story).1 h
  rw [storyType]
  refine read_header_insert hcaption (tidy_insert (by decide) (by decide) ?_) rfl rfl ?_ ?_
  · simp [tidy_literal, tidy_voiceRef]
  · simp only [List.map_cons, List.map_nil, template_literal, template_voiceRef, storyStatement]
  · cases Lector.default? lectors <;> rfl

private theorem read_schema (h : '\n' ∉ story.title.toList) (dsl : String) :
    read (schema story dsl).render = some (.comment (caption "story_schemas" story) ::
      (schemaStatement story dsl).tokens) := by
  have hcaption := mt (mem_caption_iff "story_schemas" (by decide) story).1 h
  rw [schema]
  refine read_header_insert hcaption (tidy_insert (by decide) (by decide) ?_) rfl rfl ?_ rfl
  · simp [tidy_literal, tidy_storyRef]
  · simp only [List.map_cons, List.map_nil, template_literal, template_storyRef, schemaStatement]

private theorem read_dynamicLines (h : '\n' ∉ story.title.toList) (lectors : List Lector)
    (blocks : List Block) :
    read (dynamicLines story lectors blocks).render =
      some (.comment (caption "dynamic_lines" story) ::
        if (dynamicOf blocks).isEmpty then [.comment " no dynamic lines".toList]
        else (dynamicOf blocks).flatMap fun line ↦ Gender.all.flatMap fun g ↦
          (lineStatement story line g (Lector.effective? lectors line.lectorId)).tokens) := by
  have hcaption := mt (mem_caption_iff "dynamic_lines" (by decide) story).1 h
  rw [dynamicLines]
  split
  · have hread : readFrom .code (Script.render noDynamicLines).toList =
        some [.comment " no dynamic lines".toList] := by decide
    rw [read_header hcaption, hread, Option.map_some]
  · have htidy : Tidy ((dynamicOf blocks).flatMap fun line ↦
        Gender.all.flatMap (dynamicRow story lectors line)) :=
      (tidy_flatMap fun line _ ↦ tidy_flatMap fun g _ ↦
        ⟨tidy_dynamicRow story lectors line g, apart_insert _ _ _⟩).1
    rw [read_header_of_tidy hcaption htidy]
    simp only [List.flatMap_assoc, tokens_dynamicRow]

end Bundle

/-- The scripts of a story are read as its statements, with all values in their places, exactly if
the title of the story is one line. -/
theorem map_read_files_iff (manifest : Manifest) (blocks : List Block) (dsl : String) :
    ((Bundle.ofStory manifest blocks dsl).files.map fun (name, script) ↦ (name, read script)) =
        ((intended manifest blocks dsl).map fun (name, tokens) ↦ (name, some tokens)) ↔
      '\n' ∉ manifest.story.title.toList := by
  obtain ⟨story, settings, lectors⟩ := manifest
  constructor
  · intro h htitle
    have hcaption := (mem_caption_iff "voices" (by decide) story).2 htitle
    have hvoices := congrArg Prod.snd (List.cons.inj h).1
    exact read_header_ne hcaption _ _ hvoices
  · intro h
    simp only [Bundle.files, Bundle.ofStory, intended, List.map_cons, List.map_nil, read_voices h,
      read_storyType h, read_schema h, read_dynamicLines h]

/-- The second line of a title is code. -/
theorem read_voices_of_broken_title :
    let story : Story := { title := "A\nDROP TABLE voices; --", code := "a" }
    read (voices story [] {}).render =
      some (.comment " voices for story 'A".toList :: "DROP TABLE voices; ".toList.map .code ++
        [.comment "'".toList, .comment " no lectors defined".toList]) := by
  decide

end Storyline.Sql
