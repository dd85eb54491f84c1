import Storyline.Dsl
import Storyline.Script
import Storyline.Proofs.Script.Canonical
import Storyline.Proofs.Text.Line

/-!
# The lines of the saved script

A block adds to the script the `End` of every container that it leaves, and then its own statement,
if it has one. A statement starts with a keyword, and so neither the indentation nor the trimming
of lines can hide it. Read line by line, the script is therefore the statements of its blocks, as
long as none of them was broken by a line feed.
-/

namespace Storyline.Dsl

/-! ### Statements -/

/-- What a block says in the script. A line without a code says nothing. -/
def statement? : BlockKind → Option String
  | .episode _ => some "Episode:"
  | .chapter title => some ("Chapter: " ++ title)
  | .background cue => some (backgroundStatement cue)
  | .pause seconds => some ("PauseLine: " ++ Stamp.toText seconds)
  | .line line => lineStatement? line

/-- How deep in the nesting a block stands: a container lies in the latest one of a lower rank, and
what is no container comes last. -/
def rank : BlockKind → Nat
  | .episode _ => 0
  | .chapter _ => 1
  | .background _ => 2
  | .pause _ | .line _ => 3

/-- A block is a container if others can stand in it. -/
def IsContainer (kind : BlockKind) : Prop := rank kind < 3

instance (kind : BlockKind) : Decidable (IsContainer kind) :=
  inferInstanceAs (Decidable (rank kind < 3))

/-- The number of open containers whose rank is below `r`. -/
def Nesting.depth (n : Nesting) : Nat → Nat
  | 0 => 0
  | 1 => n.chapterDepth
  | 2 => n.backgroundDepth
  | _ => n.lineDepth

/-- The statements that close the containers at the depths from `low` on, `count` of them, the
innermost first. -/
def ends (low count : Nat) : List Entry :=
  (List.range' low count).reverse.map fun depth ↦ ⟨depth, "End"⟩

/-- A block closes the containers that are not of a lower rank, and then says what it says at the
depth that is left. -/
theorem entries_eq (n : Nesting) (kind : BlockKind) :
    entries n kind =
      ends (n.depth (rank kind)) (n.depth 3 - n.depth (rank kind)) ++
        (statement? kind).toList.map fun text ↦ ⟨n.depth (rank kind), text⟩ := by
  obtain ⟨_ | _, _ | _, _ | _⟩ := n <;> cases kind <;> rfl

/-- At the end of the script every container is closed. -/
theorem closeEpisode_eq (n : Nesting) : n.closeEpisode = ends 0 (n.depth 3) := by
  obtain ⟨_ | _, _ | _, _ | _⟩ := n <;> rfl

/-! ### Keywords -/

/-- The word with which the statement of a block starts. -/
def keyword : BlockKind → String
  | .episode _ => "Episode:"
  | .chapter _ => "Chapter:"
  | .background _ => "BackgroundSampleLine:"
  | .pause _ => "PauseLine:"
  | .line line => if line.IsDynamic then "DynamicSampleLine:" else "SampleLine:"

/-- The words with which statements start. -/
def keywords : List String :=
  ["Episode:", "Chapter:", "BackgroundSampleLine:", "PauseLine:", "DynamicSampleLine:",
    "SampleLine:"]

private theorem keyword_mem (kind : BlockKind) : keyword kind ∈ keywords := by
  cases kind with
  | line line => by_cases h : line.IsDynamic <;> simp [keyword, keywords, h]
  | _ => simp [keyword, keywords]

/-- A keyword is a word on one line that is longer than the word that ends a container. -/
theorem clean_keyword (kind : BlockKind) :
    Text.Clean (keyword kind).toList ∧ 3 < (keyword kind).toList.length := by
  have hkeywords : ∀ word ∈ keywords, Text.Clean word.toList ∧ 3 < word.toList.length := by decide
  exact hkeywords _ (keyword_mem kind)

/-- Every keyword has a character. -/
theorem keyword_ne_nil (kind : BlockKind) : (keyword kind).toList ≠ [] :=
  List.ne_nil_of_length_pos (Nat.lt_trans (by decide) (clean_keyword kind).2)

-- With literals in place of the variables, rewriting would look into them at every step.
private theorem toList_append_six (a b c d e f : String) :
    (a ++ b ++ c ++ d ++ e ++ f).toList =
      a.toList ++ (b.toList ++ (c.toList ++ (d.toList ++ (e.toList ++ f.toList)))) := by
  simp only [String.toList_append, List.append_assoc]

/-- The characters of the statement of a background. -/
theorem toList_backgroundStatement (cue : Background) :
    (backgroundStatement cue).toList = "BackgroundSampleLine: Code=".toList ++
      (cue.name.toList ++ (", FadeIn=".toList ++ (cue.fadeIn.toList ++ (", FadeOut=".toList ++
        cue.fadeOut.toList)))) :=
  toList_append_six _ _ _ _ _ _

/-- The characters of the statement of a line. -/
theorem toList_of_lineStatement? {line : Line} {text : String}
    (h : lineStatement? line = some text) :
    ∃ code, line.tag? = some code ∧ text.toList = (keyword (.line line)).toList ++
      (" Code=".toList ++ (code.toList ++ Statement.suffix line.partnerSpecific)) := by
  obtain ⟨marked, hmarked, rfl⟩ := Option.map_eq_some_iff.1 h
  obtain ⟨code, hcode, rfl⟩ := Option.map_eq_some_iff.1 hmarked
  have hsuffix : (if line.partnerSpecific = true then code ++ Code.partnerSuffix else code).toList =
      code.toList ++ Statement.suffix line.partnerSpecific := by
    cases line.partnerSpecific with
    | false => simp [Statement.suffix]
    | true => exact String.toList_append
  refine ⟨code, hcode, ?_⟩
  rw [String.toList_append, hsuffix, String.toList_append, keyword]
  generalize code.toList ++ _ = rest
  split <;> rfl

/-- A statement starts with the keyword of its block. -/
theorem exists_toList_eq {kind : BlockKind} {text : String} (h : statement? kind = some text) :
    ∃ rest, text.toList = (keyword kind).toList ++ rest := by
  cases kind with
  | episode =>
    obtain rfl := Option.some.inj h
    exact ⟨[], (List.append_nil _).symm⟩
  | chapter title =>
    obtain rfl := Option.some.inj h
    refine ⟨' ' :: title.toList, ?_⟩
    rw [String.toList_append, keyword]
    rfl
  | background cue =>
    rw [statement?, Option.some.injEq] at h
    have hsplit : "BackgroundSampleLine: Code=".toList =
        "BackgroundSampleLine:".toList ++ " Code=".toList := by decide
    rw [← h, toList_backgroundStatement, keyword, hsplit, List.append_assoc]
    exact ⟨_, rfl⟩
  | pause seconds =>
    obtain rfl := Option.some.inj h
    refine ⟨' ' :: (Stamp.toText seconds).toList, ?_⟩
    rw [String.toList_append, keyword]
    rfl
  | line line =>
    obtain ⟨code, -, rfl⟩ := Option.map_eq_some_iff.1 h
    refine ⟨" Code=".toList ++ code.toList, ?_⟩
    simp only [keyword, String.toList_append]
    split <;> rfl

/-- Trimming a statement leaves its keyword in front. -/
theorem exists_trim_eq {kind : BlockKind} {text : String} (h : statement? kind = some text) :
    ∃ rest, Text.trim text.toList = (keyword kind).toList ++ rest := by
  obtain ⟨rest, hrest⟩ := exists_toList_eq h
  have hclean := (clean_keyword kind).1
  refine ⟨Text.trimEnd rest, ?_⟩
  rw [hrest, Text.trim_append (keyword_ne_nil kind) hclean.noBlankFirst hclean.noBlankLast]

/-- A trimmed statement says something. -/
theorem isStatement_trim {kind : BlockKind} {text : String} (h : statement? kind = some text) :
    Script.isStatement (Text.trim text.toList) = true := by
  obtain ⟨rest, hrest⟩ := exists_trim_eq h
  have hlength := (clean_keyword kind).2
  rw [hrest, Script.isStatement]
  generalize (keyword kind).toList = word at hlength
  have hne : Text.eqIgnoringCase (word ++ rest) "end".toList = false := by
    rw [Bool.eq_false_iff, ne_eq, Text.eqIgnoringCase_iff]
    intro heq
    have := congrArg List.length heq
    simp only [List.length_map, List.length_append] at this
    change _ = 3 at this
    omega
  rw [hne]
  cases word with
  | nil => simp at hlength
  | cons c cs => rfl

/-! ### Blocks that stay on a line -/

/-- No line feed stands in what the statement of a block says. -/
def Unbroken : BlockKind → Prop
  | .chapter title => '\n' ∉ title.toList
  | .background cue =>
    '\n' ∉ cue.name.toList ∧ '\n' ∉ cue.fadeIn.toList ∧ '\n' ∉ cue.fadeOut.toList
  | .line line => ∀ code ∈ line.tag?, '\n' ∉ code.toList
  | .episode _ | .pause _ => True

instance : DecidablePred Unbroken
  | .chapter title => inferInstanceAs (Decidable ('\n' ∉ title.toList))
  | .background cue =>
    inferInstanceAs (Decidable ('\n' ∉ cue.name.toList ∧ '\n' ∉ cue.fadeIn.toList ∧
      '\n' ∉ cue.fadeOut.toList))
  | .line line => inferInstanceAs (Decidable (∀ code ∈ line.tag?, '\n' ∉ code.toList))
  | .episode _ | .pause _ => inferInstanceAs (Decidable True)

/-- The statement of a block is a single line. -/
theorem notMem_of_statement? {kind : BlockKind} {text : String} (hkind : Unbroken kind)
    (h : statement? kind = some text) : '\n' ∉ text.toList := by
  cases kind with
  | episode =>
    obtain rfl := Option.some.inj h
    decide
  | chapter title =>
    obtain rfl := Option.some.inj h
    rw [String.toList_append, List.mem_append, not_or]
    exact ⟨by decide, hkind⟩
  | background cue =>
    obtain ⟨hname, hfadeIn, hfadeOut⟩ := hkind
    rw [statement?, Option.some.injEq] at h
    rw [← h, toList_backgroundStatement]
    simp only [List.mem_append, not_or]
    exact ⟨by decide, hname, by decide, hfadeIn, by decide, hfadeOut⟩
  | pause seconds =>
    obtain rfl := Option.some.inj h
    rw [String.toList_append, List.mem_append, not_or, Stamp.toList_toText]
    refine ⟨by decide, fun hmem ↦ ?_⟩
    rcases Stamp.isDigit_or_colon_of_mem_toChars hmem with h | h
    · exact absurd h (by decide)
    · exact absurd h (by decide)
  | line line =>
    obtain ⟨code, hcode, htext⟩ := toList_of_lineStatement? h
    have hsuffix : '\n' ∉ Statement.suffix line.partnerSpecific := by
      cases line.partnerSpecific <;> decide
    rw [htext]
    simp only [List.mem_append, not_or]
    exact ⟨(clean_keyword _).1.unbroken, by decide, hkind code hcode, hsuffix⟩

/-! ### Lines -/

/-- An entry as a line of the script, without the line feed behind it. -/
def Entry.line (e : Entry) : List Char := List.replicate (4 * e.depth) ' ' ++ e.text.toList

/-- An entry is written as its line, with a line feed behind it. -/
theorem toList_render_entry (e : Entry) : e.render.toList = e.line ++ ['\n'] := by
  have hindent : (String.join (List.replicate e.depth indent)).toList =
      List.replicate (4 * e.depth) ' ' := by
    rw [String.toList_join]
    induction e.depth with
    | zero => rfl
    | succ depth ih =>
      rw [List.replicate_succ, List.flatMap_cons, ih, Nat.mul_succ, Nat.add_comm,
        ← List.replicate_append_replicate]
      rfl
  rw [Entry.render, String.toList_append, String.toList_append, hindent, Entry.line]
  rfl

/-- Trimming takes the indentation away. -/
theorem trim_line (e : Entry) : Text.trim e.line = Text.trim e.text.toList := by
  apply Text.trim_append_of_blank
  intro c hc
  rw [List.eq_of_mem_replicate hc]
  decide

/-- What is written from a place on is `End`s and the statements of the blocks that follow. -/
theorem mem_entriesFrom {n : Nesting} {blocks : List Block} {e : Entry}
    (h : e ∈ entriesFrom n blocks) :
    e.text = "End" ∨ ∃ block ∈ blocks, statement? block.kind = some e.text := by
  have hends : ∀ {low count : Nat}, e ∈ ends low count → e.text = "End" := by
    intro low count h
    obtain ⟨depth, -, rfl⟩ := List.mem_map.1 h
    rfl
  induction blocks generalizing n with
  | nil =>
    rw [entriesFrom, closeEpisode_eq] at h
    exact Or.inl (hends h)
  | cons block blocks ih =>
    rw [entriesFrom, entries_eq, List.mem_append, List.mem_append] at h
    rcases h with (h | h) | h
    · exact Or.inl (hends h)
    · obtain ⟨text, htext, rfl⟩ := List.mem_map.1 h
      exact Or.inr ⟨block, List.mem_cons_self, Option.mem_toList.1 htext⟩
    · rcases ih h with h | ⟨found, hfound, h⟩
      · exact Or.inl h
      · exact Or.inr ⟨found, List.mem_cons_of_mem block hfound, h⟩

/-- The lines of the saved script are those of its outline. -/
theorem lines_render {blocks : List Block} (h : ∀ block ∈ blocks, Unbroken block.kind) :
    Text.lines (render blocks).toList = (outline blocks).map Entry.line ++ [[]] := by
  have hlines : (render blocks).toList =
      ((outline blocks).map Entry.line).flatMap fun l ↦ l ++ ['\n'] := by
    rw [render, String.toList_join, List.flatMap_map, List.flatMap_map]
    simp only [toList_render_entry]
  rw [hlines, Text.lines_flatMap]
  intro l hl
  obtain ⟨e, he, rfl⟩ := List.mem_map.1 hl
  rw [Entry.line, List.mem_append, not_or]
  refine ⟨by simp, ?_⟩
  rcases mem_entriesFrom he with htext | ⟨block, hblock, htext⟩
  · rw [htext]
    decide
  · exact notMem_of_statement? (h block hblock) htext

/-- The end of a container says nothing. -/
theorem filter_isStatement_ends (low count : Nat) :
    ((ends low count).map fun e ↦ Text.trim e.text.toList).filter Script.isStatement = [] := by
  rw [List.filter_eq_nil_iff]
  simp only [ends, List.map_map, List.mem_map]
  rintro _ ⟨depth, -, rfl⟩
  simp only [Function.comp_apply]
  decide

/-- The lines that say something are the statements of the blocks that follow. -/
theorem filter_isStatement_entriesFrom (n : Nesting) (blocks : List Block) :
    ((entriesFrom n blocks).map fun e ↦ Text.trim e.text.toList).filter Script.isStatement =
      (blocks.filterMap fun block ↦ statement? block.kind).map fun text ↦
        Text.trim text.toList := by
  induction blocks generalizing n with
  | nil =>
    rw [entriesFrom, closeEpisode_eq, filter_isStatement_ends]
    rfl
  | cons block blocks ih =>
    rw [entriesFrom, entries_eq, List.map_append, List.map_append, List.filter_append,
      List.filter_append, filter_isStatement_ends, ih, List.nil_append]
    cases hs : statement? block.kind with
    | none => simp [hs]
    | some text => simp [hs, isStatement_trim hs]

/-- The script says what its blocks say, in order. -/
theorem statementLines_render {blocks : List Block} (h : ∀ block ∈ blocks, Unbroken block.kind) :
    Script.statementLines (render blocks).toList =
      (blocks.filterMap fun block ↦ statement? block.kind).map fun text ↦
        Text.trim text.toList := by
  rw [Script.statementLines, lines_render h, List.map_append, List.filter_append, List.map_map]
  simp only [Function.comp_def, trim_line]
  rw [outline, filter_isStatement_entriesFrom]
  simp [Script.isStatement]

/-- What is read from the saved script is what is read from the statement of each block. -/
theorem statements_render {blocks : List Block} (h : ∀ block ∈ blocks, Unbroken block.kind) :
    Script.statements (render blocks) = blocks.filterMap fun block ↦
      (statement? block.kind).map fun text ↦ Statement.read (Text.trim text.toList) := by
  rw [Script.statements, statementLines_render h, List.map_map, List.map_filterMap]
  rfl

end Storyline.Dsl
