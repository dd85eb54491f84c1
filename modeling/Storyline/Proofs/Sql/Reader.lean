import Storyline.Proofs.Sql.Literal

/-!
# Reading SQL

A script as a database reads it: two dashes start a comment that lasts up to the end of the line, a
single quote starts a literal in which two quotes stand for one, and everything else is code. Pieces
are read one by one as long as code has neither dashes nor quotes and no literal directly follows
another.
-/

namespace Storyline.Sql

/-- What a part of a script is to a database. -/
inductive Token where
  /-- A comment, from behind its dashes to the end of its line. -/
  | comment (text : List Char)
  /-- A literal, as the text that it stands for. -/
  | value (text : List Char)
  /-- A character that is neither in a comment nor in a literal. -/
  | code (c : Char)
  deriving DecidableEq, Repr

/-- Where a reader of a script is. -/
inductive Mode where
  /-- Neither in a comment nor in a literal. -/
  | code
  /-- In a comment, behind this text. -/
  | comment (text : List Char)
  /-- In a literal, behind what stands for this text. -/
  | literal (text : List Char)

/-- Reads the rest of a script. A literal that does not end is an error. -/
def readFrom : Mode → List Char → Option (List Token)
  | .code, [] => some []
  | .code, '-' :: '-' :: cs => readFrom (.comment []) cs
  | .code, '\'' :: cs => readFrom (.literal []) cs
  | .code, c :: cs => (readFrom .code cs).map (.code c :: ·)
  | .comment text, [] => some [.comment text]
  | .comment text, '\n' :: cs => (readFrom .code cs).map (.comment text :: ·)
  | .comment text, c :: cs => readFrom (.comment (text ++ [c])) cs
  | .literal _, [] => none
  | .literal text, '\'' :: '\'' :: cs => readFrom (.literal (text ++ ['\''])) cs
  | .literal text, '\'' :: cs => (readFrom .code cs).map (.value text :: ·)
  | .literal text, c :: cs => readFrom (.literal (text ++ [c])) cs

/-- Reads a script. -/
def read (script : String) : Option (List Token) := readFrom .code script.toList

/-! ### Comments -/

/-- A comment ends at the next line feed. -/
theorem readFrom_comment {a : List Char} (h : '\n' ∉ a) (text rest : List Char) :
    readFrom (.comment text) (a ++ '\n' :: rest) =
      (readFrom .code rest).map (.comment (text ++ a) :: ·) := by
  induction a generalizing text with
  | nil => simp [readFrom]
  | cons c a ih =>
    rw [List.mem_cons, not_or] at h
    rw [List.cons_append, readFrom, ih h.2]
    · simp
    · exact fun hc ↦ h.1 hc.symm

/-- No comment contains a line feed. -/
theorem notMem_of_readFrom_comment {text cs : List Char} (htext : '\n' ∉ text)
    {tokens : List Token} (h : readFrom (.comment text) cs = some tokens) :
    ∃ shown rest, '\n' ∉ shown ∧ tokens = .comment shown :: rest := by
  induction cs generalizing text with
  | nil => exact ⟨text, [], htext, (Option.some.inj h).symm⟩
  | cons c cs ih =>
    by_cases hc : c = '\n'
    · subst hc
      obtain ⟨rest, -, rfl⟩ := Option.map_eq_some_iff.1 h
      exact ⟨text, rest, htext, rfl⟩
    · rw [readFrom] at h
      · exact ih (by simp [htext, Ne.symm hc]) h
      · exact hc

/-! ### Literals -/

/-- A script is read from within a literal as the rest of the literal is, and then goes on as
code. -/
theorem readFrom_literal_eq (text cs : List Char) :
    readFrom (.literal text) cs = (literalBody? cs).bind fun (value, rest) ↦
      (readFrom .code rest).map (.value (text ++ value) :: ·) := by
  fun_induction literalBody? cs generalizing text with
  | case1 => rfl
  | case2 cs ih =>
    rw [readFrom, ih, Option.bind_map]
    simp only [Function.comp_def, List.append_assoc, List.singleton_append]
  | case3 cs hcs =>
    rw [readFrom, Option.bind_some]
    · simp only [List.append_nil]
    · exact hcs
  | case4 c cs hpair hquote ih =>
    rw [readFrom, ih, Option.bind_map]
    · simp only [Function.comp_def, List.append_assoc, List.singleton_append]
    · exact hpair
    · exact hquote

/-- A literal is read as its value, if no quote follows it. -/
theorem readFrom_literal (text cs rest : List Char) (hrest : rest.head? ≠ some '\'') :
    readFrom (.literal text) (escape cs ++ '\'' :: rest) =
      (readFrom .code rest).map (.value (text ++ cs) :: ·) := by
  rw [readFrom_literal_eq, literalBody?_escape cs hrest, Option.bind_some]

/-! ### Code -/

/-- Code is read character by character. -/
theorem readFrom_code {cs : List Char} (h : ∀ c ∈ cs, c ≠ '-' ∧ c ≠ '\'') (rest : List Char) :
    readFrom .code (cs ++ rest) = (readFrom .code rest).map (cs.map .code ++ ·) := by
  induction cs with
  | nil => simp
  | cons c cs ih =>
    rw [List.forall_mem_cons] at h
    rw [List.cons_append, readFrom, ih h.2]
    · simp [Function.comp_def]
    · exact fun _ hc ↦ absurd hc h.1.1
    · exact fun hc ↦ absurd hc h.1.2

/-! ### Reading pieces -/

/-- No character of the text starts a comment or a literal or stands for a value. -/
def Neutral (text : String) : Prop := ∀ c ∈ text.toList, c ≠ '-' ∧ c ≠ '\'' ∧ c ≠ '?'

instance (text : String) : Decidable (Neutral text) :=
  inferInstanceAs (Decidable (∀ c ∈ text.toList, c ≠ '-' ∧ c ≠ '\'' ∧ c ≠ '?'))

/-- The script does not start with a literal. -/
def Apart : Script → Prop
  | [] => True
  | .code text :: _ => text ≠ ""
  | .literal _ :: _ => False

/-- The code of the script is neutral, and no literal directly follows another. -/
def Tidy : Script → Prop
  | [] => True
  | .code text :: script => Neutral text ∧ Tidy script
  | .literal _ :: script => Apart script ∧ Tidy script

/-- How a piece is meant to be read. -/
def Piece.tokens : Piece → List Token
  | .code text => text.toList.map .code
  | .literal value => [.value value.toList]

/-- The first piece of a script is written first. -/
theorem toList_render_cons (piece : Piece) (script : Script) :
    (Script.render (piece :: script)).toList = piece.render.toList ++ script.render.toList := by
  rw [Script.render, List.map_cons, String.join_cons, String.toList_append, Script.render]

/-- Scripts are written one after the other. -/
theorem toList_render_append (a b : Script) :
    (Script.render (a ++ b)).toList = a.render.toList ++ b.render.toList := by
  induction a with
  | nil => rfl
  | cons piece a ih =>
    rw [List.cons_append, toList_render_cons, toList_render_cons, ih, List.append_assoc]

/-- A tidy script that starts with no literal starts with no quote. -/
theorem head?_render_ne {script : Script} (h : Tidy script) (hapart : Apart script)
    {rest : List Char} (hrest : rest.head? ≠ some '\'') :
    ((Script.render script).toList ++ rest).head? ≠ some '\'' := by
  cases script with
  | nil => exact hrest
  | cons piece script =>
    cases piece with
    | code text =>
      rw [toList_render_cons, Piece.render]
      cases hchars : text.toList with
      | nil => exact absurd (by simpa using hchars) hapart
      | cons c cs =>
        have hc := (h.1 c (hchars ▸ List.mem_cons_self)).2.1
        simpa using hc
    | literal value => exact absurd hapart id

/-- A tidy script is read piece by piece. -/
theorem readFrom_render {script : Script} (h : Tidy script) {rest : List Char}
    (hrest : rest.head? ≠ some '\'') :
    readFrom .code ((Script.render script).toList ++ rest) =
      (readFrom .code rest).map (script.flatMap Piece.tokens ++ ·) := by
  induction script with
  | nil => simp [Script.render, String.join]
  | cons piece script ih =>
    cases piece with
    | code text =>
      have hread := readFrom_code (fun c hc ↦ ⟨(h.1 c hc).1, (h.1 c hc).2.1⟩)
        ((Script.render script).toList ++ rest)
      rw [toList_render_cons, Piece.render, List.append_assoc, hread, ih h.2, Option.map_map,
        List.flatMap_cons, Piece.tokens]
      simp only [Function.comp_def, List.append_assoc]
    | literal value =>
      have hread := readFrom_literal [] value.toList ((Script.render script).toList ++ rest)
        (head?_render_ne h.2 h.1 hrest)
      rw [toList_render_cons, Piece.render, literal, String.toList_ofList]
      simp only [List.cons_append, List.append_assoc, List.nil_append]
      rw [readFrom, hread, ih h.2, Option.map_map, List.flatMap_cons, Piece.tokens]
      simp only [Function.comp_def, List.nil_append, List.cons_append]

/-! ### Tidy scripts -/

/-- Two tidy scripts are tidy together if no literal starts the second one. -/
theorem Tidy.append {a b : Script} (ha : Tidy a) (hb : Tidy b) (hapart : Apart b) :
    Tidy (a ++ b) := by
  induction a with
  | nil => exact hb
  | cons piece a ih =>
    cases piece with
    | code text => exact ⟨ha.1, ih ha.2⟩
    | literal value =>
      refine ⟨?_, ih ha.2⟩
      cases a with
      | nil => exact hapart
      | cons next a =>
        cases next with
        | code text => exact ha.1
        | literal value => exact absurd ha.1 id

private theorem tidy_tuple {values : List Script} (h : ∀ value ∈ values, Tidy value) :
    Tidy (tuple values) := by
  cases values with
  | nil => exact ⟨by decide, trivial⟩
  | cons value values =>
    rw [List.forall_mem_cons] at h
    have hrest : Tidy ((values.flatMap fun v ↦ .code ", " :: v) ++ [.code ")"]) ∧
        Apart ((values.flatMap fun v ↦ .code ", " :: v) ++ [.code ")"]) := by
      induction values with
      | nil => exact ⟨⟨by decide, trivial⟩, by simp [Apart]⟩
      | cons v vs ih =>
        have hvalues := List.forall_mem_cons.1 h.2
        obtain ⟨htidy, hapart⟩ := ih ⟨h.1, hvalues.2⟩
        rw [List.flatMap_cons, List.append_assoc, List.cons_append]
        exact ⟨⟨by decide, hvalues.1.append htidy hapart⟩, by simp [Apart]⟩
    rw [tuple, List.append_assoc, List.append_assoc, List.singleton_append]
    exact ⟨by decide, h.1.append hrest.1 hrest.2⟩

private theorem neutral_append {a b : String} (ha : Neutral a) (hb : Neutral b) :
    Neutral (a ++ b) := by
  intro c hc
  rw [String.toList_append, List.mem_append] at hc
  exact hc.elim (ha c) (hb c)

private theorem neutral_intercalate {separator : String} {texts : List String}
    (hsep : Neutral separator)
    (h : ∀ text ∈ texts, Neutral text) : Neutral (separator.intercalate texts) := by
  induction texts with
  | nil => exact fun c hc ↦ absurd hc (by simp)
  | cons text texts ih =>
    rw [List.forall_mem_cons] at h
    cases texts with
    | nil => simpa using h.1
    | cons next texts =>
      rw [String.intercalate_cons_cons]
      exact neutral_append (neutral_append h.1 hsep) (ih h.2)

/-- A statement that inserts tidy values is tidy. -/
theorem tidy_insert {table : String} {columns : List String} {values : List Script}
    (htable : Neutral table) (hcolumns : ∀ column ∈ columns, Neutral column)
    (h : ∀ value ∈ values, Tidy value) : Tidy (insert table columns values) := by
  rw [insert, List.append_assoc, List.singleton_append]
  refine ⟨?_, (tidy_tuple h).append ⟨by decide, trivial⟩ (by simp [Apart])⟩
  exact neutral_append (neutral_append (neutral_append (neutral_append (by decide) htable)
    (by decide)) (neutral_intercalate (by decide) hcolumns)) (by decide)

/-- No literal starts a statement that inserts. -/
theorem apart_insert (table : String) (columns : List String) (values : List Script) :
    Apart (insert table columns values) := by
  simp [insert, Apart]

/-- Tidy scripts that start with code can follow each other. -/
theorem tidy_flatMap {α : Type} {l : List α} {f : α → Script}
    (h : ∀ a ∈ l, Tidy (f a) ∧ Apart (f a)) : Tidy (l.flatMap f) ∧ Apart (l.flatMap f) := by
  induction l with
  | nil => exact ⟨trivial, trivial⟩
  | cons a l ih =>
    rw [List.forall_mem_cons] at h
    obtain ⟨htidy, hapart⟩ := ih h.2
    rw [List.flatMap_cons]
    refine ⟨h.1.1.append htidy hapart, ?_⟩
    cases hscript : f a with
    | nil => exact hapart
    | cons piece script =>
      have hfirst := h.1.2
      rw [hscript] at hfirst
      cases piece with
      | code text => exact hfirst
      | literal value => exact absurd hfirst id

end Storyline.Sql
