import Storyline.Script
import Storyline.Proofs.Script.Grammar
import Storyline.Proofs.Text.Line

/-!
# What reading guarantees

Whatever a line says, and in whichever form, what is read from it can be written down again: names,
titles and texts are trimmed and stay on one line, both fades of a background have a stamp, and a
code is one that the statement of a line can carry. Of a code this holds because the line was not
claimed by the forms of backgrounds and pauses, which are tried first.
-/

namespace Storyline

/-- A background whose parts can be written down again. -/
structure Background.Sound (cue : Background) : Prop where
  /-- The name is trimmed and stays on one line. -/
  name : Text.Clean cue.name.toList
  /-- The first fade has a stamp. -/
  fadeIn : Text.Clean cue.fadeIn.toList ∧ cue.fadeIn ≠ ""
  /-- The second fade has a stamp. -/
  fadeOut : Text.Clean cue.fadeOut.toList ∧ cue.fadeOut ≠ ""

namespace Statement

/-- A statement whose parts can be written down again. -/
def Sound : Statement → Prop
  | episode title | chapter title => Text.Clean title
  | background cue => cue.Sound
  | pause _ => True
  | coded line => (line.code ≠ [] ∧ Code.Plain line.code) ∧ Text.Clean line.content
  | spoken _ content whole => Text.Clean content ∧ Text.Clean whole
  | narration content => Text.Clean content

/-! ### Pieces of a line -/

/-- The value of an assignment that was read stands at the end of the text. -/
theorem suffix_of_assignment?_eq_some {name cs value : List Char}
    (h : assignment? name cs = some value) : value <:+ cs := by
  obtain ⟨before, behind, -, -, -, rfl⟩ := assignment?_eq_some_iff.1 h
  exact ⟨name ++ (before ++ '=' :: behind), by simp⟩

/-- The value of an assignment that is looked for stands at the end of the text. -/
theorem suffix_getD_assignment (name cs : List Char) :
    (Text.findAnywhere? (assignment? name) cs).getD [] <:+ cs := by
  cases hvalue : Text.findAnywhere? (assignment? name) cs with
  | none => exact List.nil_suffix
  | some value =>
    obtain ⟨rest, hrest, hfound⟩ := Text.exists_of_findAnywhere?_eq_some hvalue
    exact (suffix_of_assignment?_eq_some hfound).trans hrest

/-- A fade that was read has a stamp without blanks. -/
theorem of_fade?_eq_some {name cs : List Char} {stamp : String} (h : fade? name cs = some stamp) :
    Text.Clean stamp.toList ∧ stamp ≠ "" := by
  simp only [fade?, Option.bind_eq_bind, Option.bind_eq_some_iff] at h
  obtain ⟨rest, -, h⟩ := h
  split at h
  · exact absurd h (by simp)
  · next hne =>
    obtain rfl := Option.some.inj h
    rw [String.toList_ofList]
    refine ⟨Text.clean_of_forall fun c hc ↦ ?_, fun hempty ↦ hne ?_⟩
    · exact (isFadeChar_iff.1 (List.all_eq_true.1 List.all_takeWhile c hc)).1
    · simpa using congrArg String.toList hempty

/-- The stamp of a fade, or the one that stands for a missing fade, is no blank text. -/
theorem clean_fade {name cs : List Char} {otherwise : String}
    (h : Text.Clean otherwise.toList ∧ otherwise ≠ "") :
    Text.Clean ((Text.findAnywhere? (fade? name) cs).getD otherwise).toList ∧
      (Text.findAnywhere? (fade? name) cs).getD otherwise ≠ "" := by
  cases hfade : Text.findAnywhere? (fade? name) cs with
  | none => exact h
  | some stamp =>
    obtain ⟨rest, -, hrest⟩ := Text.exists_of_findAnywhere?_eq_some hfade
    exact of_fade?_eq_some hrest

private theorem suffix_afterColon (cs : List Char) : afterColon cs <:+ cs :=
  (List.drop_suffix 1 _).trans (List.dropWhile_suffix _)

/-! ### Backgrounds -/

/-- The stamps that stand for missing fades. -/
theorem clean_defaultFades :
    (Text.Clean ({} : Background).fadeIn.toList ∧ ({} : Background).fadeIn ≠ "") ∧
      (Text.Clean ({} : Background).fadeOut.toList ∧ ({} : Background).fadeOut ≠ "") :=
  ⟨⟨Text.clean_of_forall (by decide), by decide⟩, ⟨Text.clean_of_forall (by decide), by decide⟩⟩

/-- A background that is read from its statement is sound. -/
theorem sound_of_backgroundSample? {cs : List Char} {cue : Background} (hcs : '\n' ∉ cs)
    (h : backgroundSample? cs = some cue) : cue.Sound := by
  obtain ⟨-, rfl⟩ := backgroundSample?_eq_some_iff.1 h
  refine ⟨?_, clean_fade clean_defaultFades.1, clean_fade clean_defaultFades.2⟩
  rw [String.toList_ofList]
  exact Text.clean_trim
    (List.Subset.trans (List.takeWhile_subset _) (suffix_getD_assignment _ cs).subset) hcs

private theorem sound_of_backgroundShorthand? {cs : List Char} {cue : Background} (hcs : '\n' ∉ cs)
    (h : backgroundShorthand? cs = some cue) : cue.Sound := by
  obtain ⟨_, -, rfl⟩ := Option.map_eq_some_iff.1 h
  have hname : Text.Clean (Text.trim ((afterColon cs).takeWhile (· != ':'))) :=
    Text.clean_trim (List.Subset.trans (List.takeWhile_subset _) (suffix_afterColon cs).subset) hcs
  have hstamp : Text.Clean (Text.trim (afterColon (afterColon cs))) :=
    Text.clean_trim ((suffix_afterColon _).trans (suffix_afterColon cs)).subset hcs
  dsimp only
  split
  · refine ⟨?_, clean_defaultFades.1, clean_defaultFades.2⟩
    rwa [String.toList_ofList]
  · next hne =>
    refine ⟨?_, ⟨?_, fun hempty ↦ hne ?_⟩, clean_defaultFades.2⟩
    · rwa [String.toList_ofList]
    · rwa [String.toList_ofList]
    · simpa using congrArg String.toList hempty

/-! ### Lines with a code -/

/-- The line contains none of the words that mark backgrounds and pauses. -/
structure Unmarked (cs : List Char) : Prop where
  /-- The line is no background. -/
  noBackground : ¬ "BackgroundSampleLine".toList <:+: cs
  /-- The line is no pause. -/
  noPause : ¬ "PauseLine".toList <:+: cs

/-- A code that stands in a line without marks is plain. -/
theorem Unmarked.plain {cs code : List Char} (h : Unmarked cs) (hcode : code <:+: cs)
    (hchars : ∀ c ∈ code, isCodeChar c = true) : Code.Plain code where
  chars := fun c hc ↦ isCodeChar_iff.1 (hchars c hc)
  noBackground := fun hword ↦ h.noBackground (hword.trans hcode)
  noPause := fun hword ↦ h.noPause (hword.trans hcode)

/-- A part of a line without marks has none. -/
theorem Unmarked.of_infix {cs part : List Char} (h : Unmarked cs) (hpart : part <:+: cs) :
    Unmarked part where
  noBackground := fun hword ↦ h.noBackground (hword.trans hpart)
  noPause := fun hword ↦ h.noPause (hword.trans hpart)

/-- The text is what trimming leaves of the end of the line. -/
def EndsWith (cs text : List Char) : Prop := ∃ part, part <:+ cs ∧ text = Text.trim part

/-- What trimming leaves of the end of a line is clean. -/
theorem EndsWith.clean {cs text : List Char} (h : EndsWith cs text) (hcs : '\n' ∉ cs) :
    Text.Clean text := by
  obtain ⟨part, hpart, rfl⟩ := h
  exact Text.clean_trim hpart.subset hcs

/-- What trimming leaves of the end of a line stands in the line. -/
theorem EndsWith.isInfix {cs text : List Char} (h : EndsWith cs text) : text <:+: cs := by
  obtain ⟨part, hpart, rfl⟩ := h
  exact (Text.trim_isInfix part).trans hpart.isInfix

/-- A line with a code: the code can be written down again, and the text ends the line. -/
structure Holds (cs : List Char) (line : CodedLine) : Prop where
  /-- The code is not empty. -/
  code_ne : line.code ≠ []
  /-- The code can be written down again. -/
  plain : Code.Plain line.code
  /-- The text ends the line. -/
  content : EndsWith cs line.content

/-- A code that stands in a line can be written down again. -/
theorem CodeAt.plain {cs part code : List Char} {partnerSpecific : Bool}
    (h : CodeAt part code partnerSpecific) (hcs : Unmarked cs) (hpart : part <:+: cs) :
    code ≠ [] ∧ Code.Plain code :=
  ⟨h.ne_nil, hcs.plain (h.run.front.isInfix.trans hpart) h.run.chars⟩

private theorem holds_of_sampleLine? {cs : List Char} {line : CodedLine} (hcs : Unmarked cs)
    (h : sampleLine? cs = some line) : Holds cs line := by
  obtain ⟨⟨code, partnerSpecific⟩, hfound, rfl⟩ := Option.map_eq_some_iff.1 h
  obtain ⟨place, hplace, hhere⟩ : ∃ place, place <:+ cs ∧
      sampleHere? place = some (code, partnerSpecific) := by
    rcases Option.or_eq_some_iff.1 hfound with h | ⟨-, h⟩
    · exact ⟨cs, List.suffix_refl cs, h⟩
    · exact Text.exists_of_findAfterBlank?_eq_some h
  obtain ⟨keyword, value, ⟨⟨lead, -, rfl⟩, -⟩, hcode⟩ := sampleHere?_eq_some_iff.1 hhere
  have hvalue : value <:+ cs := (List.suffix_append lead value).trans hplace
  obtain ⟨hne, hplain⟩ := hcode.plain hcs hvalue.isInfix
  exact ⟨hne, hplain, [], List.nil_suffix, rfl⟩

private theorem holds_of_compact? {cs : List Char} {line : CodedLine} (hcs : Unmarked cs)
    (h : compact? cs = some line) : Holds cs line := by
  obtain ⟨code, rest, hcode, rfl, rfl⟩ := compact?_eq_some_iff.1 h
  have hne : code ≠ [] := by
    rintro rfl
    exact hcode.2.1 rfl
  exact ⟨hne, hcs.plain (List.prefix_append code _).isInfix (isCodeChar_of_likeCode hcode), rest,
    ⟨code ++ [':'], by simp⟩, rfl⟩

private theorem holds_of_roleWithCode? {cs : List Char} {line : CodedLine} (hcs : Unmarked cs)
    (h : roleWithCode? cs = some line) : Holds cs line := by
  obtain ⟨role, inner, rest, code, partnerSpecific, ⟨rfl, -⟩, hcode, rfl⟩ :=
    roleWithCode?_eq_some_iff.1 h
  have hinner : inner <:+: role ++ '(' :: (inner ++ ("):".toList ++ rest)) :=
    ⟨role ++ ['('], "):".toList ++ rest, by simp⟩
  obtain ⟨hne, hplain⟩ := hcode.plain hcs hinner
  exact ⟨hne, hplain, rest, ⟨role ++ '(' :: (inner ++ "):".toList), by simp⟩, rfl⟩

private theorem endsWith_of_roleWithoutCode? {cs role content : List Char}
    (h : roleWithoutCode? cs = some (role, content)) : EndsWith cs content := by
  simp only [roleWithoutCode?, Option.bind_eq_bind] at h
  split at h
  · exact absurd h (by simp)
  · simp only [Option.pure_def, Option.bind_eq_some_iff, Option.some.injEq,
      Prod.mk.injEq] at h
    obtain ⟨rest, hrest, -, rfl⟩ := h
    exact ⟨rest, (Text.suffix_of_dropPrefix?_eq_some hrest).trans
      (List.dropWhile_suffix isRoleChar), rfl⟩

/-! ### Whole lines -/

/-- The form by which a line is read. The forms of lines come last, so none of the words that mark
backgrounds and pauses stands in a line that has one of them. -/
inductive Reads (cs : List Char) : Statement → Prop where
  | episode {title : List Char} (h : Text.dropWord? "episode:".toList cs = some title) :
      Reads cs (episode (Text.trim title))
  | chapter {title : List Char} (h : Text.dropWord? "chapter:".toList cs = some title) :
      Reads cs (chapter (Text.trim title))
  | backgroundSample {cue : Background} (h : backgroundSample? cs = some cue) :
      Reads cs (background cue)
  | backgroundShorthand {cue : Background} (h : backgroundShorthand? cs = some cue) :
      Reads cs (background cue)
  | pause (seconds : UInt32) : Reads cs (pause seconds)
  | coded {line : CodedLine} (hcs : Unmarked cs) (h : Holds cs line) : Reads cs (coded line)
  | spoken {role content : List Char} (hcs : Unmarked cs) (h : EndsWith cs content) :
      Reads cs (spoken role content cs)
  | narration (hcs : Unmarked cs) : Reads cs (narration cs)

/-- Every line is read by one of the forms. -/
theorem reads_read (cs : List Char) : Reads cs (read cs) := by
  simp only [read, forms, List.findSome?_cons]
  cases hepisode : Text.dropWord? "episode:".toList cs with
  | some title => exact .episode hepisode
  | none =>
  cases hchapter : Text.dropWord? "chapter:".toList cs with
  | some title => exact .chapter hchapter
  | none =>
  cases hsample : backgroundSample? cs with
  | some cue => exact .backgroundSample hsample
  | none =>
  cases hshorthand : backgroundShorthand? cs with
  | some cue => exact .backgroundShorthand hshorthand
  | none =>
  cases hpause : pauseLine? cs with
  | some seconds => exact .pause seconds
  | none =>
  -- from here on the line has none of the marks that end up in a code
  have hunmarked : Unmarked cs := by
    constructor
    · intro h
      obtain ⟨cue, hcue⟩ := exists_backgroundSample? h
      rw [hsample] at hcue
      exact absurd hcue (by simp)
    · intro h
      rw [pauseLine?, if_pos (Text.contains_iff.2 h)] at hpause
      exact absurd hpause (by simp)
  cases hseconds : pauseShorthand? cs with
  | some seconds => exact .pause seconds
  | none =>
  cases hline : sampleLine? cs with
  | some line => exact .coded hunmarked (holds_of_sampleLine? hunmarked hline)
  | none =>
  cases hcompact : compact? cs with
  | some line => exact .coded hunmarked (holds_of_compact? hunmarked hcompact)
  | none =>
  cases hrole : roleWithCode? cs with
  | some line => exact .coded hunmarked (holds_of_roleWithCode? hunmarked hrole)
  | none =>
  cases hspoken : roleWithoutCode? cs with
  | some found => exact .spoken hunmarked (endsWith_of_roleWithoutCode? hspoken)
  | none => exact .narration hunmarked

/-- A statement that is read by one of the forms is sound. -/
theorem Reads.sound {cs : List Char} {statement : Statement} (hcs : Text.Clean cs)
    (h : Reads cs statement) : statement.Sound := by
  have htitle : ∀ {word title : List Char}, Text.dropWord? word cs = some title →
      Text.Clean (Text.trim title) := fun h ↦
    Text.clean_trim (Text.suffix_of_dropWord?_eq_some h).subset hcs.unbroken
  cases h with
  | episode h | chapter h => exact htitle h
  | backgroundSample h => exact sound_of_backgroundSample? hcs.unbroken h
  | backgroundShorthand h => exact sound_of_backgroundShorthand? hcs.unbroken h
  | pause => trivial
  | coded _ h => exact ⟨⟨h.code_ne, h.plain⟩, h.content.clean hcs.unbroken⟩
  | spoken _ h => exact ⟨h.clean hcs.unbroken, hcs⟩
  | narration => exact hcs

/-- Whatever is read from a trimmed line can be written down again. -/
theorem sound_read {cs : List Char} (hcs : Text.Clean cs) : (read cs).Sound :=
  (reads_read cs).sound hcs

/-- No text of the statement contains the words that mark backgrounds and pauses. -/
def Quiet : Statement → Prop
  | coded line => Unmarked line.content
  | spoken _ content whole => Unmarked content ∧ Unmarked whole
  | narration content => Unmarked content
  | _ => True

private theorem Reads.quiet {cs : List Char} {statement : Statement} (h : Reads cs statement) :
    statement.Quiet := by
  cases h with
  | coded hcs h => exact hcs.of_infix h.content.isInfix
  | spoken hcs h => exact ⟨hcs.of_infix h.isInfix, hcs⟩
  | narration hcs => exact hcs
  | _ => trivial

/-- The texts of lines stand in their lines, and no line with such a word is read as one. -/
theorem quiet_read (cs : List Char) : (read cs).Quiet := (reads_read cs).quiet

end Statement

namespace Script

/-- The lines of a script that say something are clean. -/
theorem clean_of_mem_statementLines {text line : List Char} (h : line ∈ statementLines text) :
    Text.Clean line := by
  obtain ⟨raw, hraw, rfl⟩ := List.mem_map.1 (List.mem_filter.1 h).1
  exact Text.clean_trim (List.Subset.refl raw) (Text.notMem_of_mem_lines hraw)

/-- Every statement of a text can be written down again. -/
theorem sound_of_mem_statements {text : String} {statement : Statement}
    (h : statement ∈ statements text) : statement.Sound := by
  obtain ⟨line, hline, rfl⟩ := List.mem_map.1 h
  exact Statement.sound_read (clean_of_mem_statementLines hline)

end Script

namespace BlockKind

/-- A block as a script can produce it. -/
def Authored : BlockKind → Prop
  | episode title | chapter title => Text.Clean title.toList
  | background cue => cue.Sound
  | pause _ => True
  | line l =>
    (∀ code, l.code = some code → code ≠ "" ∧ Code.Plain code.toList) ∧
      Text.Clean l.content.toList

/-- A line without a code is as a script can produce it if its text is. -/
theorem authored_line {l : Line} (hcode : l.code = none) (hcontent : Text.Clean l.content.toList) :
    Authored (line l) :=
  ⟨fun code h ↦ by simp [hcode] at h, hcontent⟩

/-- What can be written down again gives such a block. -/
theorem authored_toKind (lectors : List Lector) {statement : Statement} (h : statement.Sound) :
    Authored (statement.toKind lectors) := by
  cases statement with
  | episode title | chapter title =>
    change Text.Clean (String.ofList title).toList
    rw [String.toList_ofList]
    exact h
  | background cue => exact h
  | pause seconds => trivial
  | coded line =>
    obtain ⟨⟨hne, hplain⟩, hcontent⟩ := h
    constructor
    · intro code hcode
      obtain rfl : String.ofList line.code = code := Option.some.inj hcode
      rw [String.toList_ofList]
      exact ⟨by simpa using hne, hplain⟩
    · change Text.Clean (String.ofList line.content).toList
      rwa [String.toList_ofList]
  | spoken role content whole =>
    rw [Statement.toKind]
    split
    · exact authored_line rfl (by rw [String.toList_ofList]; exact h.1)
    · exact authored_line rfl (by rw [Statement.narrationLine, String.toList_ofList]; exact h.2)
  | narration content =>
    exact authored_line rfl (by rw [Statement.narrationLine, String.toList_ofList]; exact h)

end BlockKind

/-- The blocks of a script are what it says. -/
theorem Script.kind_mem_kinds {fresh : Nat → BlockId} {lectors : List Lector} {text : String}
    {block : Block} (h : block ∈ parse fresh lectors text) : block.kind ∈ kinds lectors text := by
  rw [← map_kind_parse fresh]
  exact List.mem_map_of_mem h

/-- Every block of a script is as a script can produce it. -/
theorem Script.authored_of_mem_kinds {lectors : List Lector} {text : String} {kind : BlockKind}
    (h : kind ∈ kinds lectors text) : kind.Authored := by
  obtain ⟨statement, hstatement, rfl⟩ := List.mem_map.1 h
  exact BlockKind.authored_toKind lectors (sound_of_mem_statements hstatement)

/-! ### Lines of a script -/

/-- A line that stores nothing but its text, its code, its lector and its partner flag. -/
structure Line.Bare (line : Line) : Prop where
  /-- The line is not universal. -/
  universal : line.universal = false
  /-- There are no texts by gender. -/
  variants : line.variants = none
  /-- There are no texts of partners. -/
  overrides : line.overrides = ∅
  /-- There are no images. -/
  images : line.images = none
  /-- There are no images of partners. -/
  imageOverrides : line.imageOverrides = ∅

/-- Whatever a statement says of a line, it stores no more. -/
theorem Line.bare_of_toKind {lectors : List Lector} {statement : Statement} {line : Line}
    (h : statement.toKind lectors = .line line) : line.Bare := by
  cases statement with
  | coded found =>
    obtain rfl := BlockKind.line.inj h
    exact ⟨rfl, rfl, rfl, rfl, rfl⟩
  | spoken role content whole =>
    rw [Statement.toKind] at h
    split at h <;> obtain rfl := BlockKind.line.inj h <;> exact ⟨rfl, rfl, rfl, rfl, rfl⟩
  | narration content =>
    obtain rfl := BlockKind.line.inj h
    exact ⟨rfl, rfl, rfl, rfl, rfl⟩
  | episode | chapter | background | pause => exact absurd h (by simp [Statement.toKind])

/-- A line as a script can produce it in a story with these lectors. -/
structure Line.Authored (lectors : List Lector) (line : Line) : Prop where
  /-- The code can be written down again. -/
  code : ∀ code, line.code = some code → code ≠ "" ∧ Code.Plain code.toList
  /-- The text is trimmed and stays on one line. -/
  clean : Text.Clean line.content.toList
  /-- The text makes its line no background and no pause. -/
  unmarked : Statement.Unmarked line.content.toList
  /-- The text is the same for all listeners. -/
  variants : line.variants = none
  /-- A lector of the story reads the line. -/
  lector : lectors ≠ [] → ∃ lector ∈ lectors, line.lectorId = some lector.id

/-- A story with lectors has a default lector. -/
theorem Lector.exists_default? {lectors : List Lector} (h : lectors ≠ []) :
    ∃ lector ∈ lectors, Lector.default? lectors = some lector := by
  obtain ⟨lector, rest, rfl⟩ := List.exists_cons_of_ne_nil h
  exact ⟨lector, List.mem_cons_self, rfl⟩

/-- What can be written down again gives such a line. -/
theorem Line.authored_of_toKind {lectors : List Lector} {statement : Statement} {line : Line}
    (hsound : statement.Sound) (hquiet : statement.Quiet)
    (h : statement.toKind lectors = .line line) : line.Authored lectors := by
  have hauthored := BlockKind.authored_toKind lectors hsound
  rw [h] at hauthored
  obtain ⟨hcode, hclean⟩ := hauthored
  have hnarrated : ∀ content, Statement.Unmarked content →
      Statement.narrationLine lectors content = line → line.Authored lectors := by
    rintro content hunmarked rfl
    refine ⟨hcode, hclean, ?_, rfl, fun hne ↦ ?_⟩
    · rwa [Statement.narrationLine, String.toList_ofList]
    · obtain ⟨lector, hmem, hdefault⟩ := Lector.exists_default? hne
      exact ⟨lector, hmem, by rw [Statement.narrationLine, Statement.defaultLector, hdefault]; rfl⟩
  cases statement with
  | coded found =>
    obtain rfl := BlockKind.line.inj h
    refine ⟨hcode, hclean, ?_, rfl, fun hne ↦ ?_⟩
    · rwa [Statement.CodedLine.toLine, String.toList_ofList]
    · obtain ⟨lector, hmem, hdefault⟩ := Lector.exists_default? hne
      rw [Statement.CodedLine.toLine, hdefault]
      cases hnamed : found.role.bind (Lector.findNamed? lectors) with
      | none => exact ⟨lector, hmem, rfl⟩
      | some named =>
        obtain ⟨role, -, hrole⟩ := Option.bind_eq_some_iff.1 hnamed
        exact ⟨named, List.mem_of_find?_eq_some hrole, rfl⟩
  | spoken role content whole =>
    rw [Statement.toKind] at h
    split at h
    · next lector hlector =>
      obtain rfl := BlockKind.line.inj h
      refine ⟨hcode, hclean, ?_, rfl, fun _ ↦ ⟨lector, List.mem_of_find?_eq_some hlector, rfl⟩⟩
      rw [String.toList_ofList]
      exact hquiet.1
    · exact hnarrated whole hquiet.2 (BlockKind.line.inj h)
  | narration content => exact hnarrated content hquiet (BlockKind.line.inj h)
  | episode | chapter | background | pause => exact absurd h (by simp [Statement.toKind])

/-- Every line of a script is as a script can produce it. -/
theorem Script.authored_of_line_mem_kinds {lectors : List Lector} {text : String} {line : Line}
    (h : .line line ∈ kinds lectors text) : line.Authored lectors := by
  obtain ⟨statement, hstatement, hkind⟩ := List.mem_map.1 h
  have hsound := sound_of_mem_statements hstatement
  obtain ⟨cs, -, rfl⟩ := List.mem_map.1 hstatement
  exact Line.authored_of_toKind hsound (Statement.quiet_read cs) hkind

end Storyline
