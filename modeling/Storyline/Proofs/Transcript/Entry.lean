import Storyline.Script
import Storyline.Transcript
import Storyline.Proofs.Script.Shorthand
import Storyline.Proofs.Text.Line

/-!
# The lines of a transcript

A transcript has one line for each block, and no line of a transcript is empty or ends a container.
Read line by line, it is therefore the entries of its blocks, as long as none of them was broken by
a line feed.
-/

namespace Storyline.Transcript

variable {lectors : List Lector}

/-! ### Entries -/

/-- The code of a line, as it is shown. -/
def codeOf (line : Line) : Option (List Char) := line.tag?.map String.toList

-- With literals in place of the variables, rewriting would look into them at every step.
private theorem toList_append_five (a b c d e : String) :
    (a ++ b ++ c ++ d ++ e).toList =
      a.toList ++ (b.toList ++ (c.toList ++ (d.toList ++ e.toList))) := by
  simp only [String.toList_append, List.append_assoc]

/-- The entry of a line starts with the name of its speaker and ends with its text. -/
theorem toList_entry_line (lectors : List Lector) (line : Line) :
    (entry lectors (.line line)).toList = (speaker lectors line).toList ++
      (Statement.label (codeOf line) ++ ' ' :: (line.text .boy none).toList) := by
  rw [entry, codeOf]
  cases line.tag? with
  | none =>
    simp only [String.toList_append, List.append_assoc]
    rfl
  | some code =>
    rw [toList_append_five]
    simp only [Option.map_some, Statement.label, List.cons_append, List.append_assoc]
    rfl

/-- The entry of a background shows its name and its first stamp. -/
theorem toList_entry_background (lectors : List Lector) (cue : Background) :
    (entry lectors (.background cue)).toList =
      "Background:".toList ++ (' ' :: cue.name.toList ++ ':' :: ' ' :: cue.fadeIn.toList) := by
  simp only [entry, String.toList_append, List.append_assoc]
  rfl

/-- The entry of a pause shows its length. -/
theorem toList_entry_pause (lectors : List Lector) (seconds : UInt32) :
    (entry lectors (.pause seconds)).toList =
      "Pause: ".toList ++ Nat.toDigits 10 seconds.toNat := by
  simp only [entry, String.toList_append, Nat.toString_eq_ofList_toDigits, String.toList_ofList]

/-- Every entry has a colon. -/
theorem colon_mem_entry (lectors : List Lector) (kind : BlockKind) :
    ':' ∈ (entry lectors kind).toList := by
  cases kind with
  | episode title | chapter title =>
    rw [entry, String.toList_append]
    exact List.mem_append_left _ (by decide)
  | background cue =>
    rw [toList_entry_background]
    exact List.mem_append_left _ (by decide)
  | pause seconds =>
    rw [toList_entry_pause]
    exact List.mem_append_left _ (by decide)
  | line line =>
    rw [toList_entry_line]
    refine List.mem_append_right _ (List.mem_append_left _ ?_)
    cases codeOf line <;> simp [Statement.label]

/-- The entry of an episode stays on its line if the title does. -/
theorem unbroken_entry_episode {title : String} (h : '\n' ∉ title.toList) :
    '\n' ∉ (entry lectors (.episode title)).toList := by
  rw [entry, String.toList_append, List.mem_append, not_or]
  exact ⟨by decide, h⟩

/-- The entry of a chapter stays on its line if the title does. -/
theorem unbroken_entry_chapter {title : String} (h : '\n' ∉ title.toList) :
    '\n' ∉ (entry lectors (.chapter title)).toList := by
  rw [entry, String.toList_append, List.mem_append, not_or]
  exact ⟨by decide, h⟩

/-- The entry of a background stays on its line if the name and the first stamp do. -/
theorem unbroken_entry_background {cue : Background} (hname : '\n' ∉ cue.name.toList)
    (hfadeIn : '\n' ∉ cue.fadeIn.toList) :
    '\n' ∉ (entry lectors (.background cue)).toList := by
  rw [toList_entry_background]
  simp [hname, hfadeIn]

/-- The entry of a pause stays on its line. -/
theorem unbroken_entry_pause (lectors : List Lector) (seconds : UInt32) :
    '\n' ∉ (entry lectors (.pause seconds)).toList := by
  rw [toList_entry_pause, List.mem_append, not_or]
  exact ⟨by decide, fun hmem ↦
    absurd (Nat.isDigit_of_mem_toDigits (by decide) (by decide) hmem) (by decide)⟩

/-- A line with a colon says something. -/
theorem isStatement_trim_of_colon {cs : List Char} (h : ':' ∈ cs) :
    Script.isStatement (Text.trim cs) = true := by
  have hmem : ':' ∈ Text.trim cs := Text.mem_trim (by decide) h
  have hend : Text.eqIgnoringCase (Text.trim cs) "end".toList = false := by
    rw [Bool.eq_false_iff, ne_eq, Text.eqIgnoringCase_iff]
    intro heq
    have hcolon : ':' ∈ (Text.trim cs).map Char.toLower := List.mem_map.2 ⟨':', hmem, rfl⟩
    rw [heq] at hcolon
    exact absurd hcolon (by decide)
  rw [Script.isStatement, hend]
  cases htrim : Text.trim cs with
  | nil => simp [htrim] at hmem
  | cons c cs => rfl

/-! ### Joined entries -/

/-- Lines with an empty line between any two of them say what each of them says. -/
theorem statementLines_intercalate {ls : List (List Char)} (h : ∀ l ∈ ls, '\n' ∉ l) :
    Script.statementLines (['\n', '\n'].intercalate ls) =
      (ls.map Text.trim).filter Script.isStatement := by
  induction ls with
  | nil => rfl
  | cons l ls ih =>
    rw [List.forall_mem_cons] at h
    cases ls with
    | nil =>
      have hlines : Text.lines l = [l] := Text.pieces_of_notMem h.1
      simp [Script.statementLines, hlines]
    | cons k ls =>
      have hrest : ((Text.lines (['\n', '\n'].intercalate (k :: ls))).map Text.trim).filter
          Script.isStatement = ((k :: ls).map Text.trim).filter Script.isStatement := ih h.2
      rw [List.intercalate_cons_cons, List.append_assoc, Script.statementLines,
        Text.lines_append_blank h.1, List.map_cons, List.map_cons, List.map_cons, List.filter_cons,
        List.filter_cons_of_neg (by simp [Script.isStatement]), hrest, List.filter_cons]

/-- The lines of a transcript are not broken if no entry is. -/
theorem unbroken_entries {blocks : List Block}
    (h : ∀ block ∈ blocks, '\n' ∉ (entry lectors block.kind).toList) :
    ∀ l ∈ (blocks.map fun block ↦ entry lectors block.kind).map String.toList, '\n' ∉ l := by
  intro l hl
  simp only [List.map_map, List.mem_map] at hl
  obtain ⟨block, hblock, rfl⟩ := hl
  exact h block hblock

/-- A transcript says what its entries say, in order. -/
theorem statements_render {blocks : List Block}
    (h : ∀ block ∈ blocks, '\n' ∉ (entry lectors block.kind).toList) :
    Script.statements (render lectors blocks) = blocks.map fun block ↦
      Statement.read (Text.trim (entry lectors block.kind).toList) := by
  have hblank : "\n\n".toList = ['\n', '\n'] := by decide
  rw [Script.statements, render, String.toList_intercalate, hblank,
    statementLines_intercalate (unbroken_entries h), List.filter_eq_self.2]
  · simp only [List.map_map]
    rfl
  · intro l hl
    simp only [List.map_map, List.mem_map] at hl
    obtain ⟨block, -, rfl⟩ := hl
    exact isStatement_trim_of_colon (colon_mem_entry lectors block.kind)

/-- Two stories with as many blocks have the same transcript exactly if each two blocks have the
same entry, as long as no entry was broken by a line feed. -/
theorem render_inj {blocks blocks' : List Block}
    (h : ∀ block ∈ blocks, '\n' ∉ (entry lectors block.kind).toList)
    (h' : ∀ block ∈ blocks', '\n' ∉ (entry lectors block.kind).toList)
    (hlength : blocks.length = blocks'.length) :
    render lectors blocks = render lectors blocks' ↔
      (blocks.map fun block ↦ entry lectors block.kind) =
        blocks'.map fun block ↦ entry lectors block.kind := by
  have hblank : "\n\n".toList = ['\n', '\n'] := by decide
  rw [render, render, ← String.toList_inj, String.toList_intercalate, String.toList_intercalate,
    hblank, Text.intercalate_blank_inj (unbroken_entries h) (unbroken_entries h')
      (by simpa using hlength), List.map_inj_right fun _ _ ↦ String.toList_inj.1]

/-- What a block says when its entry was read in a story with these lectors. -/
def reread (lectors : List Lector) (kind : BlockKind) : BlockKind :=
  Statement.toKind lectors (Statement.read (Text.trim (entry lectors kind).toList))

/-- The blocks of a transcript are those that its entries say. -/
theorem kinds_render_eq {blocks : List Block}
    (h : ∀ block ∈ blocks, '\n' ∉ (entry lectors block.kind).toList) :
    Script.kinds lectors (render lectors blocks) =
      blocks.map fun block ↦ reread lectors block.kind := by
  rw [Script.kinds, statements_render h, List.map_map]
  rfl

/-! ### Reading entries of titles, backgrounds and pauses -/

/-- An episode with a clean title is read back. -/
theorem reread_episode {title : String} (h : Text.Clean title.toList) :
    reread lectors (.episode title) = .episode title := by
  have hsplit : "Episode: ".toList = "Episode:".toList ++ [' '] := by decide
  rw [reread, entry, String.toList_append, hsplit, List.append_assoc,
    Text.trim_append (by decide) (by decide) (by decide), Statement.read_episode,
    List.singleton_append, h.trim_trimEnd_space, Statement.toKind, String.ofList_toList]

/-- A chapter with a clean title is read back. -/
theorem reread_chapter {title : String} (h : Text.Clean title.toList) :
    reread lectors (.chapter title) = .chapter title := by
  have hsplit : "Chapter: ".toList = "Chapter:".toList ++ [' '] := by decide
  rw [reread, entry, String.toList_append, hsplit, List.append_assoc,
    Text.trim_append (by decide) (by decide) (by decide), Statement.read_chapter,
    List.singleton_append, h.trim_trimEnd_space, Statement.toKind, String.ofList_toList]

/-- An entry that ends with a stamp has no blank at its ends. -/
theorem trim_entry_background (lectors : List Lector) {cue : Background}
    (hfadeIn : Text.Clean cue.fadeIn.toList) (hne : cue.fadeIn.toList ≠ []) :
    Text.trim (entry lectors (.background cue)).toList =
      (entry lectors (.background cue)).toList := by
  have hlast : Text.NoBlankLast (' ' :: cue.name.toList ++ ':' :: ' ' :: cue.fadeIn.toList) := by
    have hstamp := hfadeIn.noBlankLast.append hne (' ' :: cue.name.toList ++ [':', ' '])
    simpa using hstamp
  rw [toList_entry_background]
  exact Text.trim_append_eq_self (by decide) (by decide) (by simp) hlast

/-- A background is read back as one, whatever its name is. -/
theorem exists_reread_background (lectors : List Lector) (cue : Background) :
    ∃ found, reread lectors (.background cue) = .background found := by
  obtain ⟨found, hfound⟩ := Statement.exists_read_backgroundShorthand
    (Text.trimEnd (' ' :: cue.name.toList ++ ':' :: ' ' :: cue.fadeIn.toList))
  refine ⟨found, ?_⟩
  rw [reread, toList_entry_background, Text.trim_append (by decide) (by decide) (by decide), hfound,
    Statement.toKind]

/-- A pause is read back, however long it is. -/
theorem reread_pause (lectors : List Lector) (seconds : UInt32) :
    reread lectors (.pause seconds) = .pause seconds := by
  have hlast : Text.NoBlankLast (Nat.toDigits 10 seconds.toNat) :=
    Text.noBlankLast_of_forall fun c hc ↦ Text.isBlank_of_isDecimal
      (Text.isDecimal_of_isDigit (Nat.isDigit_of_mem_toDigits (by decide) (by decide) hc))
  rw [reread, toList_entry_pause,
    Text.trim_append_eq_self (by decide) (by decide) Nat.toDigits_ne_nil hlast,
    Statement.read_pauseShorthand, Statement.toKind]

/-! ### Reading entries of lines -/

/-- A line whose entry says nothing but a line. -/
structure Legible (lectors : List Lector) (line : Line) : Prop where
  /-- A line can start at the name of its speaker. -/
  name : Lector.PlainName (speaker lectors line).toList
  /-- The code, if there is one, is plain. -/
  code : ∀ c ∈ codeOf line, Code.Plain c
  /-- The text is trimmed and stays on one line. -/
  clean : Text.Clean (line.text .boy none).toList
  /-- The text makes its line no background and no pause. -/
  unmarked : Statement.Unmarked (line.text .boy none).toList

section Line

variable {line : Line}

/-- The entry of such a line is one line. -/
theorem Legible.unbroken (h : Legible lectors line) :
    '\n' ∉ (entry lectors (.line line)).toList := by
  have hlabel : '\n' ∉ Statement.label (codeOf line) := by
    cases hcode : codeOf line with
    | none => decide
    | some c =>
      have hc : '\n' ∉ c := fun hmem ↦ absurd ((h.code c hcode).chars _ hmem).1 (by decide)
      simpa [Statement.label] using hc
  rw [toList_entry_line, List.mem_append, List.mem_append, List.mem_cons]
  rintro (hmem | hmem | hmem | hmem)
  · exact h.name.clean.unbroken hmem
  · exact hlabel hmem
  · exact absurd hmem (by decide)
  · exact h.clean.unbroken hmem

/-- The text of a line as it stands behind the colon. -/
def shownText (line : Line) : List Char := Text.trimEnd (' ' :: (line.text .boy none).toList)

/-- The entry of a line, trimmed. -/
def shown (lectors : List Lector) (line : Line) : List Char :=
  (speaker lectors line).toList ++ (Statement.label (codeOf line) ++ shownText line)

private theorem Legible.trim_entry (h : Legible lectors line) :
    Text.trim (entry lectors (.line line)).toList = shown lectors line := by
  have hfront : Text.NoBlankFirst
      ((speaker lectors line).toList ++ Statement.label (codeOf line)) :=
    h.name.clean.noBlankFirst.append h.name.ne_nil _
  have hlast : Text.NoBlankLast
      ((speaker lectors line).toList ++ Statement.label (codeOf line)) := by
    intro c hc
    obtain ⟨init, hinit⟩ := Statement.exists_label_concat (codeOf line)
    rw [hinit, ← List.append_assoc, List.getLast?_concat] at hc
    cases hc
    rfl
  rw [toList_entry_line, ← List.append_assoc, Text.trim_append _ hfront hlast, shown, shownText,
    List.append_assoc]
  simp [h.name.ne_nil]

/-- Trimming what is shown of a text gives the text. -/
theorem Legible.trim_shownText (h : Legible lectors line) :
    Text.trim (shownText line) = (line.text .boy none).toList :=
  h.clean.trim_trimEnd_space

private theorem Legible.unmarked_shownText (h : Legible lectors line) :
    Statement.Unmarked (shownText line) := by
  have hspace : Statement.Unmarked (' ' :: (line.text .boy none).toList) := by
    have hsplit : ∀ text : List Char, ' ' :: text = [] ++ ' ' :: text := fun _ ↦ rfl
    constructor
    · rw [hsplit, Text.infix_append_cons_iff (by decide)]
      exact fun hword ↦
        hword.elim (Text.contains_eq_false_iff.1 rfl) h.unmarked.noBackground
    · rw [hsplit, Text.infix_append_cons_iff (by decide)]
      exact fun hword ↦ hword.elim (Text.contains_eq_false_iff.1 rfl) h.unmarked.noPause
  exact hspace.of_infix (Text.trimEnd_isPrefix _).isInfix

/-- A statement of a line in a text stands at its start or behind a blank, and so it does where a
blank is in front of the text. -/
theorem Legible.sampleLine?_text (h : Legible lectors line) :
    Statement.sampleLine? (line.text .boy none).toList =
      (Text.findAfterBlank? Statement.sampleHere? (shownText line)).map
        fun (code, partnerSpecific) ↦ { code, partnerSpecific } := by
  have hlast := h.clean.noBlankLast
  rw [shownText]
  generalize (line.text .boy none).toList = text at hlast
  cases text with
  | nil => rfl
  | cons c text =>
    have hend : Text.NoBlankLast (' ' :: c :: text) :=
      hlast.append (List.cons_ne_nil c text) [' ']
    rw [hend.trimEnd_eq]
    rfl

/-- A line says what the statement of a line in its text says, if there is one, and otherwise what
its speaker and its code say. -/
theorem Legible.read_entry (h : Legible lectors line) :
    Statement.read (Text.trim (entry lectors (.line line)).toList) =
      match Statement.sampleLine? (line.text .boy none).toList with
      | some found => .coded found
      | none =>
        (((Statement.roleWithCode? (shown lectors line)).map .coded).or
          ((Statement.roleWithoutCode? (shown lectors line)).map fun (role, content) ↦
            .spoken role content (shown lectors line))).getD
          (.narration (shown lectors line)) := by
  rw [h.trim_entry, h.sampleLine?_text, shown,
    Statement.read_label h.name h.code h.unmarked_shownText]
  cases Text.findAfterBlank? Statement.sampleHere? (shownText line) <;> rfl

/-- A statement of a line in the text of a line goes before the code and the speaker of the line. -/
theorem Legible.reread_of_sampleLine? (h : Legible lectors line) {found : CodedLine}
    (hfound : Statement.sampleLine? (line.text .boy none).toList = some found) :
    reread lectors (.line line) = .line (Statement.CodedLine.toLine lectors found) := by
  rw [reread, h.read_entry, hfound]
  rfl

/-- A line without a code is read back as one by its speaker. -/
theorem Legible.read_untagged (h : Legible lectors line)
    (hsample : Statement.sampleLine? (line.text .boy none).toList = none)
    (hcode : codeOf line = none) :
    Statement.read (Text.trim (entry lectors (.line line)).toList) =
      .spoken (speaker lectors line).toList (line.text .boy none).toList (shown lectors line) := by
  rw [h.read_entry, hsample]
  simp only [shown, hcode, Statement.roleWithCode?_label_none h.name,
    Statement.roleWithoutCode?_label h.name, h.trim_shownText, Option.map_none, Option.map_some,
    Option.none_or, Option.getD_some]

/-- A code without parentheses is read back, with the speaker in front of it. -/
theorem Legible.read_tagged (h : Legible lectors line)
    (hsample : Statement.sampleLine? (line.text .boy none).toList = none) {c : List Char}
    (hcode : codeOf line = some c) (hne : c ≠ [])
    (hparen : ∀ d ∈ c, Statement.isInnerChar d = true) :
    Statement.read (Text.trim (entry lectors (.line line)).toList) =
      .coded { code := c, partnerSpecific := false
               role := some ((speaker lectors line).toList ++ [' '])
               content := (line.text .boy none).toList } := by
  rw [h.read_entry, hsample]
  simp only [shown, hcode, Statement.roleWithCode?_label h.name hne (h.code c hcode) hparen,
    h.trim_shownText, Option.map_some, Option.some_or, Option.getD_some]

/-- A code with a parenthesis is not read back. -/
theorem Legible.reread_parenthesis (h : Legible lectors line)
    (hsample : Statement.sampleLine? (line.text .boy none).toList = none) {c : List Char}
    (hcode : codeOf line = some c) (hparen : ¬ ∀ d ∈ c, Statement.isInnerChar d = true)
    {line' : Line} (hline : reread lectors (.line line) = .line line') :
    line'.code ≠ some (String.ofList c) := by
  have hrole : Statement.roleWithoutCode? ((speaker lectors line).toList ++
      (Statement.label (some c) ++ shownText line)) = none :=
    Statement.roleWithoutCode?_label_some h.name c
  rw [reread, h.read_entry, hsample] at hline
  simp only [shown, hcode, hrole, Option.map_none, Option.or_none] at hline
  cases hread : Statement.roleWithCode?
      ((speaker lectors line).toList ++ (Statement.label (some c) ++ shownText line)) with
  | none =>
    rw [hread] at hline
    obtain rfl := BlockKind.line.inj hline
    simp [Statement.narrationLine]
  | some found =>
    rw [hread] at hline
    obtain rfl := BlockKind.line.inj hline
    intro heq
    have hfound : found.code = c := String.ofList_injective (Option.some.inj heq)
    exact hparen (hfound ▸ Statement.isInnerChar_of_roleWithCode? hread)

end Line

end Storyline.Transcript
