import Mathlib.Data.List.Forall2
import Storyline.Proofs.Dsl.Outline
import Storyline.Proofs.Script.Guarantee

/-!
# Reading a saved script back

The saved script is the structure of a story. What its statements can carry is read back unchanged:
`restored?` says what that is for each kind of block. What a script can produce in the first place
always survives, except for the parts that the saved script leaves out on purpose.
-/

namespace Storyline.Dsl

/-! ### Statements that are read back -/

/-- A block whose statement is read back as a block of its kind, with the code that it had. -/
def Legible : BlockKind → Prop
  | .line line => ∀ code ∈ line.tag?, Code.Plain code.toList
  | kind => Unbroken kind

instance : DecidablePred Legible
  | .line line => inferInstanceAs (Decidable (∀ code ∈ line.tag?, Code.Plain code.toList))
  | .episode title => inferInstanceAs (Decidable (Unbroken (.episode title)))
  | .chapter title => inferInstanceAs (Decidable (Unbroken (.chapter title)))
  | .background cue => inferInstanceAs (Decidable (Unbroken (.background cue)))
  | .pause seconds => inferInstanceAs (Decidable (Unbroken (.pause seconds)))

/-- No blank stands in a plain code, and so no line feed does. -/
theorem Legible.unbroken {kind : BlockKind} (h : Legible kind) : Unbroken kind := by
  cases kind with
  | line line =>
    intro code hcode hmem
    exact absurd ((h code hcode).chars _ hmem).1 (by decide)
  | _ => exact h

/-- What a block says when its statement was read in a story with these lectors. -/
def reread? (lectors : List Lector) (kind : BlockKind) : Option BlockKind :=
  (statement? kind).map fun text ↦
    Statement.toKind lectors (Statement.read (Text.trim text.toList))

/-- The blocks of a saved script are those that its statements say. -/
theorem kinds_render_eq (lectors : List Lector) {blocks : List Block}
    (h : ∀ block ∈ blocks, Unbroken block.kind) :
    Script.kinds lectors (render blocks) =
      blocks.filterMap fun block ↦ reread? lectors block.kind := by
  simp only [Script.kinds, statements_render h, List.map_filterMap, reread?, Option.map_map]
  rfl

/-- An episode is read back without its title, which is not in the script. -/
theorem reread?_episode (lectors : List Lector) (title : String) :
    reread? lectors (.episode title) = some (.episode "") := rfl

/-- A chapter is read back with its title trimmed. -/
theorem reread?_chapter (lectors : List Lector) (title : String) :
    reread? lectors (.chapter title) =
      some (.chapter (String.ofList (Text.trim title.toList))) := by
  have hsplit : "Chapter: ".toList = "Chapter:".toList ++ [' '] := by decide
  have htrim : Text.trim ([' '] ++ title.toList) = Text.trim title.toList :=
    Text.trim_append_of_blank (by decide) _
  rw [reread?, statement?, Option.map_some, String.toList_append, hsplit, List.append_assoc,
    Text.trim_append (by decide) (by decide) (by decide), Statement.read_chapter,
    Text.trim_trimEnd, htrim]
  rfl

private theorem exists_reread?_background (lectors : List Lector) (cue : Background) :
    ∃ found, reread? lectors (.background cue) = some (.background found) := by
  have hstatement : statement? (.background cue) = some (backgroundStatement cue) := rfl
  obtain ⟨rest, hrest⟩ := exists_trim_eq hstatement
  obtain ⟨found, -, hread⟩ := Statement.read_background rest
  refine ⟨found, ?_⟩
  rw [reread?, hstatement, Option.map_some, hrest, keyword, hread, Statement.toKind]

/-- There is nothing to trim of the statement of a background whose last stamp is trimmed. -/
theorem trim_backgroundStatement {cue : Background} (hlast : Text.NoBlankLast cue.fadeOut.toList)
    (hne : cue.fadeOut.toList ≠ []) :
    Text.trim (backgroundStatement cue).toList = Statement.backgroundChars cue := by
  have htrim : Text.trim (backgroundStatement cue).toList = (backgroundStatement cue).toList := by
    rw [toList_backgroundStatement]
    apply Text.trim_append_eq_self (by decide) (by decide) (by simp)
    simp only [← List.append_assoc]
    exact hlast.append hne _
  exact htrim.trans (toList_backgroundStatement cue)

/-- A background says what is read from its statement. -/
theorem reread?_background_eq (lectors : List Lector) {cue : Background}
    (hlast : Text.NoBlankLast cue.fadeOut.toList) (hne : cue.fadeOut.toList ≠ []) :
    reread? lectors (.background cue) =
      (Statement.backgroundSample? (Statement.backgroundChars cue)).map .background := by
  have htrim := trim_backgroundStatement hlast hne
  have hstatement : statement? (.background cue) = some (backgroundStatement cue) := rfl
  obtain ⟨rest, hrest⟩ := exists_trim_eq hstatement
  obtain ⟨found, hfound, hread⟩ := Statement.read_background rest
  rw [keyword] at hrest
  rw [reread?, hstatement, Option.map_some, hrest, hread, Statement.toKind, ← htrim, hrest, hfound,
    Option.map_some]

private theorem reread?_background (lectors : List Lector) {cue : Background} (h : cue.Carried) :
    reread? lectors (.background cue) = some (.background cue) := by
  rw [reread?_background_eq lectors (Text.noBlankLast_of_forall fun c hc ↦ (h.fadeOut c hc).1)
    h.fadeOut_ne, Statement.backgroundSample?_of_carried h, Option.map_some]

/-- There is nothing to trim of the statement of a pause. -/
theorem trim_pauseStatement (seconds : UInt32) :
    Text.trim ("PauseLine: " ++ Stamp.toText seconds).toList =
      "PauseLine: ".toList ++ Stamp.toChars seconds := by
  rw [String.toList_append, Stamp.toList_toText]
  exact Text.trim_append_eq_self (by decide) (by decide) (by simp [Stamp.toChars])
    (Stamp.noBlankLast_toChars seconds)

/-- A pause is read back less all whole hundreds of hours. -/
theorem reread?_pause (lectors : List Lector) (seconds : UInt32) :
    reread? lectors (.pause seconds) = some (.pause (seconds % 360000)) := by
  rw [reread?, statement?, Option.map_some, trim_pauseStatement, Statement.read_pause,
    Statement.toKind]

/-- What comes back of a line with a code: the code and the partner flag. -/
def restoredLine (lectors : List Lector) (line : Line) : Line :=
  { code := line.code
    partnerSpecific := line.partnerSpecific
    lectorId := Statement.defaultLector lectors }

/-- The statement of a line is read back where its code is plain. -/
theorem read_of_lineStatement? {line : Line} {text code : String}
    (htext : lineStatement? line = some text) (hcode : line.tag? = some code)
    (hplain : Code.Plain code.toList) :
    Statement.read (Text.trim text.toList) =
      .coded { code := code.toList, partnerSpecific := line.partnerSpecific } := by
  obtain ⟨found, hfound, hchars⟩ := toList_of_lineStatement? htext
  obtain rfl : found = code := Option.some.inj (hfound.symm.trans hcode)
  have hne : found.toList ≠ [] := by simpa using Line.tag?_ne_empty hcode
  obtain ⟨word, hword, hkeyword⟩ : ∃ word, (word = "SampleLine" ∨ word = "DynamicSampleLine") ∧
      (keyword (.line line)).toList = word.toList ++ [':'] := by
    rw [keyword]
    split
    · exact ⟨"DynamicSampleLine", Or.inr rfl, by decide⟩
    · exact ⟨"SampleLine", Or.inl rfl, by decide⟩
  have hlast : Text.NoBlankLast (found.toList ++ Statement.suffix line.partnerSpecific) := by
    cases line.partnerSpecific with
    | false =>
      rw [Statement.suffix, if_neg (by decide), List.append_nil]
      exact Text.noBlankLast_of_forall fun c hc ↦ (hplain.chars c hc).1
    | true => exact Text.NoBlankLast.append (by decide) (by decide) _
  have htrim : Text.trim text.toList = text.toList := by
    rw [hchars]
    exact Text.trim_append_eq_self (keyword_ne_nil _) (clean_keyword _).1.noBlankFirst (by simp)
      (hlast.append (by simp [hne]) _)
  have hcolon : ": Code=".toList = [':'] ++ " Code=".toList := by decide
  rw [htrim, ← Statement.read_sampleLine hword hne hplain, hchars, hkeyword, hcolon]
  simp only [List.append_assoc]

/-- A line is read back with its code and its flag, if it has a code. -/
theorem reread?_line (lectors : List Lector) {line : Line} (h : Legible (.line line)) :
    reread? lectors (.line line) = line.tag?.map fun _ ↦ .line (restoredLine lectors line) := by
  rw [reread?, statement?]
  cases htext : lineStatement? line with
  | none =>
    have htag : line.tag? = none := by
      simpa [lineStatement?, Line.markedCode?] using htext
    rw [htag, Option.map_none, Option.map_none]
  | some text =>
    obtain ⟨code, hcode, -⟩ := toList_of_lineStatement? htext
    have hstored : line.code = some code := (Option.filter_eq_some_iff.1 hcode).1
    rw [hcode, Option.map_some, Option.map_some, read_of_lineStatement? htext hcode (h code hcode),
      Statement.toKind, Statement.CodedLine.toLine, restoredLine, hstored, String.ofList_toList]
    rfl

/-- The lines of a story that have a code, in order. -/
def codedLines (blocks : List Block) : List Line :=
  (Block.lines blocks).filter (·.tag?.isSome)

/-- What comes back of a block has a line exactly if the block has a line with a code. -/
theorem line?_reread? (lectors : List Lector) {kind : BlockKind} (h : Legible kind) :
    (reread? lectors kind).bind BlockKind.line? =
      (kind.line?.filter (·.tag?.isSome)).map (restoredLine lectors) := by
  cases kind with
  | background cue =>
    obtain ⟨found, hfound⟩ := exists_reread?_background lectors cue
    rw [hfound]
    rfl
  | line line =>
    rw [reread?_line lectors h, BlockKind.line?]
    cases htag : line.tag? <;> simp [BlockKind.line?, Option.filter, htag]
  | episode title =>
    rw [reread?_episode]
    rfl
  | chapter title =>
    rw [reread?_chapter]
    rfl
  | pause seconds =>
    rw [reread?_pause]
    rfl

/-- The lines of a saved script are those that had a code. -/
theorem lines_parse_render (fresh : Nat → BlockId) (lectors : List Lector) {blocks : List Block}
    (h : ∀ block ∈ blocks, Legible block.kind) :
    Block.lines (Script.parse fresh lectors (render blocks)) =
      (codedLines blocks).map (restoredLine lectors) := by
  have hlines : ∀ found : List Block, Block.lines found =
      (found.map (·.kind)).filterMap BlockKind.line? := fun found ↦ List.filterMap_map.symm
  rw [hlines, Script.map_kind_parse, kinds_render_eq lectors fun block hblock ↦
    (h block hblock).unbroken, List.filterMap_filterMap, codedLines, Block.lines,
    List.filter_filterMap, List.map_filterMap]
  exact List.filterMap_congr fun block hblock ↦ line?_reread? lectors (h block hblock)

/-! ### What the script can carry -/

/-- A block that the saved script can carry. -/
def Carried : BlockKind → Prop
  | .episode _ => True
  | .chapter title => Text.Clean title.toList
  | .background cue => cue.Carried
  | .pause seconds => seconds < 360000
  | .line line => ∀ code ∈ line.tag?, Code.Plain code.toList

instance : DecidablePred Carried
  | .episode _ => inferInstanceAs (Decidable True)
  | .chapter title => inferInstanceAs (Decidable (Text.Clean title.toList))
  | .background cue => inferInstanceAs (Decidable cue.Carried)
  | .pause seconds => inferInstanceAs (Decidable (seconds < 360000))
  | .line line => inferInstanceAs (Decidable (∀ code ∈ line.tag?, Code.Plain code.toList))

/-- What comes back of a block that the saved script can carry. The titles of episodes and the
lines without a code do not, and of a line there comes back no more than its code and its flag. -/
def restored? (lectors : List Lector) : BlockKind → Option BlockKind
  | .episode _ => some (.episode "")
  | .chapter title => some (.chapter title)
  | .background cue => some (.background cue)
  | .pause seconds => some (.pause seconds)
  | .line line => line.tag?.map fun _ ↦ .line (restoredLine lectors line)

/-- What the script can carry is read back as a block of its kind. -/
theorem Carried.legible {kind : BlockKind} (h : Carried kind) : Legible kind := by
  cases kind with
  | episode => trivial
  | chapter => exact h.unbroken
  | background cue =>
    have hfeed : ∀ {stamp : List Char}, (∀ c ∈ stamp, Text.isBlank c = false ∧ c ≠ ',') →
        '\n' ∉ stamp := fun hstamp hmem ↦ absurd (hstamp _ hmem).1 (by decide)
    exact ⟨h.clean.unbroken, hfeed h.fadeIn, hfeed h.fadeOut⟩
  | pause => trivial
  | line => exact h

private theorem reread?_of_carried (lectors : List Lector) {kind : BlockKind} (h : Carried kind) :
    reread? lectors kind = restored? lectors kind := by
  cases kind with
  | episode title => exact reread?_episode lectors title
  | chapter title => rw [reread?_chapter, h.trimmed, String.ofList_toList, restored?]
  | background cue => rw [reread?_background lectors h, restored?]
  | pause seconds => rw [reread?_pause, Stamp.mod_eq_of_lt h, restored?]
  | line line => rw [reread?_line lectors h, restored?]

/-- A block that comes back adds the same lines to the script, and one that does not adds none. -/
theorem entries_restored (lectors : List Lector) (n : Nesting) (kind : BlockKind) :
    match restored? lectors kind with
    | some kind' => entries n kind' = entries n kind ∧ n.after kind' = n.after kind
    | none => entries n kind = [] ∧ n.after kind = n := by
  cases kind with
  | line line =>
    cases htag : line.tag? with
    | none => simp [restored?, htag, entries, lineStatement?, Line.markedCode?, Nesting.after]
    | some code =>
      rw [restored?, htag]
      exact ⟨rfl, rfl⟩
  | _ => exact ⟨rfl, rfl⟩

/-- Blocks that came back are saved as the script from which they were read. -/
theorem entriesFrom_restored (lectors : List Lector) {blocks : List Block} :
    ∀ {found : List Block} (n : Nesting), found.map (·.kind) =
      blocks.filterMap (fun block ↦ restored? lectors block.kind) →
      entriesFrom n found = entriesFrom n blocks := by
  induction blocks with
  | nil =>
    intro found n h
    obtain rfl : found = [] := by simpa using h
    rfl
  | cons block blocks ih =>
    intro found n h
    have hentries := entries_restored lectors n block.kind
    rw [List.filterMap_cons] at h
    cases hkind : restored? lectors block.kind with
    | none =>
      rw [hkind] at h hentries
      rw [entriesFrom, hentries.1, hentries.2, List.nil_append]
      exact ih n h
    | some kind =>
      rw [hkind] at h hentries
      obtain ⟨first, rest, rfl, rfl, hrest⟩ := List.map_eq_cons_iff.1 h
      rw [entriesFrom, entriesFrom, hentries.1, hentries.2, ih _ hrest]

/-- What the saved script can carry is read back from it, and then saved as the same script. -/
theorem kinds_render (lectors : List Lector) {blocks : List Block}
    (h : ∀ block ∈ blocks, Carried block.kind) :
    Script.kinds lectors (render blocks) =
        blocks.filterMap (fun block ↦ restored? lectors block.kind) ∧
      ∀ fresh, render (Script.parse fresh lectors (render blocks)) = render blocks := by
  have hkinds : Script.kinds lectors (render blocks) =
      blocks.filterMap (fun block ↦ restored? lectors block.kind) := by
    rw [kinds_render_eq lectors fun block hblock ↦ (h block hblock).legible.unbroken]
    exact List.filterMap_congr fun block hblock ↦ reread?_of_carried lectors (h block hblock)
  refine ⟨hkinds, fun fresh ↦ ?_⟩
  have hparse := (Script.map_kind_parse fresh lectors (render blocks)).trans hkinds
  simp only [render, outline] at hparse ⊢
  rw [entriesFrom_restored lectors {} hparse]

/-- A story of every kind of block: the title of the episode and the line without a code are
lost. -/
theorem kinds_render_every_kind :
    Script.kinds [⟨"l1", "Narrator", ""⟩] (render
        [⟨.ofNat 1, .episode "One"⟩, ⟨.ofNat 2, .chapter "Forest"⟩,
          ⟨.ofNat 3, .background { name := "Rain" }⟩, ⟨.ofNat 4, .pause 90⟩,
          ⟨.ofNat 5, .line { content := "Hush." }⟩,
          ⟨.ofNat 6, .line { content := "Hi!", code := some "Z1", partnerSpecific := true }⟩]) =
      [.episode "", .chapter "Forest", .background { name := "Rain" }, .pause 90,
        .line { code := some "Z1", lectorId := some "l1", partnerSpecific := true }] := by
  exact (kinds_render [⟨"l1", "Narrator", ""⟩] (by decide)).1

/-! ### What a script can produce -/

/-- What becomes of a block of a script that is saved and read again. -/
inductive Survives : BlockKind → BlockKind → Prop where
  /-- The title of an episode is free to change. -/
  | episode (title title' : String) : Survives (.episode title) (.episode title')
  /-- The title of a chapter is kept. -/
  | chapter (title : String) : Survives (.chapter title) (.chapter title)
  /-- A background stays a background. -/
  | background (cue cue' : Background) : Survives (.background cue) (.background cue')
  /-- Of the length of a pause, whole hundreds of hours are lost. -/
  | pause (seconds : UInt32) : Survives (.pause seconds) (.pause (seconds % 360000))
  /-- A line keeps its code and its partner flag. -/
  | line {line line' : Line} {code : String} (tagged : line.tag? = some code)
    (code_eq : line'.code = some code) (flag_eq : line'.partnerSpecific = line.partnerSpecific) :
    Survives (.line line) (.line line')

/-- Whether a block is left out of the saved script. -/
def isUntagged : BlockKind → Bool
  | .line line => line.tag?.isNone
  | _ => false

/-- The codes of a story, in order. -/
def codes (blocks : List Block) : List String :=
  (Block.lines blocks).filterMap Line.tag?

/-- The code of a block, if it is a line that has one. -/
def tagOf? (kind : BlockKind) : Option String :=
  kind.line?.bind Line.tag?

private theorem codes_eq (blocks : List Block) :
    codes blocks = (blocks.map (·.kind)).filterMap tagOf? := by
  rw [codes, Block.lines, List.filterMap_filterMap, List.filterMap_map]
  rfl

/-- Whatever is written in a script, its blocks can be told apart in the saved script. -/
theorem legible_of_authored {kind : BlockKind} (h : kind.Authored) : Legible kind := by
  cases kind with
  | episode | pause => trivial
  | chapter title => exact h.unbroken
  | background cue => exact ⟨h.name.unbroken, h.fadeIn.1.unbroken, h.fadeOut.1.unbroken⟩
  | line line =>
    intro code hcode
    exact (h.1 code (Option.filter_eq_some_iff.1 hcode).1).2

/-- What comes back of a block that a script can produce. -/
theorem survives_reread? (lectors : List Lector) {kind : BlockKind} (h : kind.Authored) :
    if isUntagged kind then reread? lectors kind = none
    else ∃ kind', reread? lectors kind = some kind' ∧ Survives kind kind' := by
  cases kind with
  | episode title => exact ⟨_, reread?_episode lectors title, .episode title ""⟩
  | chapter title =>
    refine ⟨_, reread?_chapter lectors title, ?_⟩
    rw [h.trimmed, String.ofList_toList]
    exact .chapter title
  | background cue =>
    obtain ⟨cue', hcue⟩ := exists_reread?_background lectors cue
    exact ⟨_, hcue, .background cue cue'⟩
  | pause seconds => exact ⟨_, reread?_pause lectors seconds, .pause seconds⟩
  | line line =>
    rw [reread?_line lectors (legible_of_authored h)]
    cases htag : line.tag? with
    | none => simp [isUntagged, htag]
    | some code =>
      simp only [isUntagged, htag]
      exact ⟨_, rfl, .line htag (Option.filter_eq_some_iff.1 htag).1 rfl⟩

/-- Blocks of a script come back in order, all but the lines without a code. -/
theorem forall₂_survives (lectors : List Lector) {kinds : List BlockKind}
    (h : ∀ kind ∈ kinds, kind.Authored) :
    List.Forall₂ Survives (kinds.filter (!isUntagged ·)) (kinds.filterMap (reread? lectors)) := by
  induction kinds with
  | nil => exact .nil
  | cons kind kinds ih =>
    have hkind := survives_reread? lectors (h kind List.mem_cons_self)
    have hrest := ih fun k hk ↦ h k (List.mem_cons_of_mem kind hk)
    rw [List.filterMap_cons]
    cases huntagged : isUntagged kind with
    | true =>
      rw [if_pos huntagged] at hkind
      rwa [List.filter_cons_of_neg (by simp [huntagged]), hkind]
    | false =>
      rw [if_neg (by simp [huntagged])] at hkind
      obtain ⟨kind', hkind', hsurvives⟩ := hkind
      rw [List.filter_cons_of_pos (by simp [huntagged]), hkind']
      exact .cons hsurvives hrest

/-- A block comes back with its code. -/
theorem Survives.tagOf?_eq {kind kind' : BlockKind} (h : Survives kind kind') :
    tagOf? kind' = tagOf? kind := by
  cases h with
  | @line line line' code tagged code_eq flag_eq =>
    have hfound : line'.tag? = some code := by
      simp [Line.tag?, code_eq, Line.tag?_ne_empty tagged]
    rw [tagOf?, tagOf?, BlockKind.line?, BlockKind.line?, Option.bind_some, Option.bind_some,
      hfound, tagged]
  | _ => rfl

/-- Blocks come back with their codes, in the same order. -/
theorem filterMap_tagOf?_eq {kinds kinds' : List BlockKind}
    (h : List.Forall₂ Survives (kinds.filter (!isUntagged ·)) kinds') :
    kinds'.filterMap tagOf? = kinds.filterMap tagOf? := by
  have hskip : (kinds.filter (!isUntagged ·)).filterMap tagOf? = kinds.filterMap tagOf? := by
    rw [List.filterMap_filter]
    apply List.filterMap_congr
    intro kind _
    cases kind with
    | line line => cases htag : line.tag? <;> simp [isUntagged, tagOf?, BlockKind.line?, htag]
    | _ => rfl
  rw [← hskip]
  generalize kinds.filter (!isUntagged ·) = written at h
  induction h with
  | nil => rfl
  | cons hkind _ ih => rw [List.filterMap_cons, List.filterMap_cons, hkind.tagOf?_eq, ih]

/-- No structure of a script is lost when it is saved and read again: every block comes back in its
place but the lines without a code, and so do all the codes. -/
theorem survives_render (fresh fresh' : Nat → BlockId) (lectors lectors' : List Lector)
    (text : String) :
    let blocks := Script.parse fresh lectors text
    let found := Script.parse fresh' lectors' (render blocks)
    List.Forall₂ Survives ((blocks.map (·.kind)).filter (!isUntagged ·)) (found.map (·.kind)) ∧
      codes found = codes blocks := by
  intro blocks found
  have hauthored : ∀ kind ∈ blocks.map (·.kind), kind.Authored := by
    intro kind hkind
    rw [Script.map_kind_parse] at hkind
    exact Script.authored_of_mem_kinds hkind
  have hkinds : found.map (·.kind) = (blocks.map (·.kind)).filterMap (reread? lectors') := by
    rw [Script.map_kind_parse, kinds_render_eq, List.filterMap_map]
    · rfl
    · intro block hblock
      exact (legible_of_authored (hauthored _ (List.mem_map_of_mem hblock))).unbroken
  have hsurvives := forall₂_survives lectors' hauthored
  rw [← hkinds] at hsurvives
  refine ⟨hsurvives, ?_⟩
  rw [codes_eq, codes_eq]
  exact filterMap_tagOf?_eq hsurvives

end Storyline.Dsl
