import Mathlib.Data.List.Forall2
import Storyline.Proofs.Transcript.RoundTrip

/-!
# Reading the transcript of a script

A script is shown as a transcript, and the transcript is read as a script again. Every block comes
back as one of its kind, and so do the codes and the lectors of lines, but for two exceptions. A
parenthesis ends a code within parentheses, and a statement of a line in the text of a line goes
before what stands in front of the text.
-/

namespace Storyline.Transcript

variable {lectors : List Lector}

/-- What a transcript is to keep of a line: its code and its lector. -/
def attribution (line : Line) : Option String × Option String := (line.code, line.lectorId)

/-- The second block says as much as a transcript is to keep of the first. -/
structure Alike (kind kind' : BlockKind) : Prop where
  /-- The kind is the same. -/
  name : kind'.name = kind.name
  /-- A line has the same code and the same lector. -/
  attribution : kind'.line?.map attribution = kind.line?.map attribution

instance : DecidableRel Alike := fun kind kind' ↦
  decidable_of_iff
    (kind'.name = kind.name ∧ kind'.line?.map attribution = kind.line?.map attribution)
    ⟨fun h ↦ ⟨h.1, h.2⟩, fun h ↦ ⟨h.name, h.attribution⟩⟩

/-- The code and the lector of a line can be told from its entry: a statement of a line in the text
says the same, or else there is no parenthesis in the code. -/
def Recoverable (lectors : List Lector) (line : Line) : Prop :=
  match Statement.sampleLine? line.content.toList with
  | some found => line.code = some (String.ofList found.code) ∧
      line.lectorId = Statement.defaultLector lectors
  | none => ∀ code ∈ line.code, ∀ c ∈ code.toList, c ≠ '(' ∧ c ≠ ')'

instance (lectors : List Lector) : DecidablePred (Recoverable lectors) := fun line ↦
  match h : Statement.sampleLine? line.content.toList with
  | some found => decidable_of_iff (line.code = some (String.ofList found.code) ∧
      line.lectorId = Statement.defaultLector lectors) (by rw [Recoverable, h])
  | none => decidable_of_iff (∀ code ∈ line.code, ∀ c ∈ code.toList, c ≠ '(' ∧ c ≠ ')')
      (by rw [Recoverable, h])

/-- A block that is no line is kept if a block of its kind comes back. -/
theorem Alike.of_name {kind kind' : BlockKind} (hname : kind'.name = kind.name)
    (hline : kind.line? = none) (hline' : kind'.line? = none) : Alike kind kind' where
  name := hname
  attribution := by rw [hline, hline']

private theorem alike_line_iff {line line' : Line} :
    Alike (.line line) (.line line') ↔ line'.code = line.code ∧ line'.lectorId = line.lectorId := by
  constructor
  · intro h
    have hpair : attribution line' = attribution line := Option.some.inj h.attribution
    exact ⟨congrArg Prod.fst hpair, congrArg Prod.snd hpair⟩
  · rintro ⟨hcode, hlector⟩
    exact ⟨rfl, by simp [BlockKind.line?, attribution, hcode, hlector]⟩

/-! ### Lines of a script -/

section Line

variable {line : Line}

/-- All listeners hear the same text. -/
theorem text_of_authored (h : line.Authored lectors) : line.text .boy none = line.content := by
  simp [Line.text, Line.textPair?, h.variants]

/-- No code of a script is empty. -/
theorem tag?_of_authored (h : line.Authored lectors) : line.tag? = line.code := by
  cases hcode : line.code with
  | none => simp [Line.tag?, hcode]
  | some code => simp [Line.tag?, hcode, (h.code code hcode).1]

/-- The speaker of a line of a script is the lector whom it names. -/
theorem effective?_of_authored (hne : lectors ≠ []) (h : line.Authored lectors) :
    (Lector.effective? lectors line.lectorId).map (·.id) = line.lectorId := by
  obtain ⟨lector, hmem, hid⟩ := h.lector hne
  obtain ⟨found, hfound, hsame⟩ := Lector.exists_effective?_of_mem hmem
  rw [hid, hfound, Option.map_some, hsame]

/-- A line of a script is legible in its transcript. -/
theorem legible_of_authored (hcast : Lector.Cast lectors) (h : line.Authored lectors) :
    Legible lectors line := by
  refine ⟨plain_speaker hcast line, ?_, ?_, ?_⟩
  · intro c hc
    obtain ⟨code, hcode, rfl⟩ := Option.map_eq_some_iff.1 hc
    rw [tag?_of_authored h] at hcode
    exact (h.code code hcode).2
  · rw [text_of_authored h]
    exact h.clean
  · rw [text_of_authored h]
    exact h.unmarked

/-- A line of a script comes back with its code and its lector exactly if both can be told from its
entry. -/
theorem alike_reread_iff (hne : lectors ≠ []) (hcast : Lector.Cast lectors)
    (h : line.Authored lectors) :
    Alike (.line line) (reread lectors (.line line)) ↔ Recoverable lectors line := by
  have hlegible := legible_of_authored hcast h
  have hsample : Statement.sampleLine? (line.text .boy none).toList =
      Statement.sampleLine? line.content.toList := by rw [text_of_authored h]
  rw [Recoverable]
  cases hfound : Statement.sampleLine? line.content.toList with
  | some found =>
    rw [hfound] at hsample
    obtain ⟨_, -, rfl⟩ := Option.map_eq_some_iff.1 hfound
    rw [hlegible.reread_of_sampleLine? hsample, alike_line_iff]
    exact and_congr eq_comm eq_comm
  | none =>
    rw [hfound] at hsample
    constructor
    · intro halike code hcode
      by_contra hparen
      have hshown : codeOf line = some code.toList := by
        rw [codeOf, tag?_of_authored h, hcode, Option.map_some]
      have hinner : ¬ ∀ d ∈ code.toList, Statement.isInnerChar d = true := fun hall ↦
        hparen fun c hc ↦ Statement.isInnerChar_iff.1 (hall c hc)
      cases hkind : reread lectors (.line line) with
      | line line' =>
        rw [hkind, alike_line_iff] at halike
        apply hlegible.reread_parenthesis hsample hshown hinner hkind
        rw [halike.1, hcode, String.ofList_toList]
      | _ =>
        rw [hkind] at halike
        exact absurd halike.name (by simp [BlockKind.name])
    · intro hparen
      rw [hlegible.reread_line hcast (fun _ ↦ hne) hsample (by rwa [tag?_of_authored h]), restored,
        alike_line_iff]
      exact ⟨tag?_of_authored h, effective?_of_authored hne h⟩

end Line

/-! ### Whole scripts -/

/-- A block of a script comes back as one of its kind, and a line as above. -/
theorem alike_reread_kind_iff (hne : lectors ≠ []) (hcast : Lector.Cast lectors) {text : String}
    {kind : BlockKind} (h : kind ∈ Script.kinds lectors text) :
    Alike kind (reread lectors kind) ↔ ∀ line ∈ kind.line?, Recoverable lectors line := by
  have hauthored := Script.authored_of_mem_kinds h
  cases kind with
  | line line =>
    rw [alike_reread_iff hne hcast (Script.authored_of_line_mem_kinds h)]
    simp [BlockKind.line?]
  | episode title =>
    refine iff_of_true ?_ (by simp [BlockKind.line?])
    rw [reread_episode hauthored]
    exact .of_name rfl rfl rfl
  | chapter title =>
    refine iff_of_true ?_ (by simp [BlockKind.line?])
    rw [reread_chapter hauthored]
    exact .of_name rfl rfl rfl
  | background cue =>
    obtain ⟨found, hfound⟩ := exists_reread_background lectors cue
    refine iff_of_true ?_ (by simp [BlockKind.line?])
    rw [hfound]
    exact .of_name rfl rfl rfl
  | pause seconds =>
    refine iff_of_true ?_ (by simp [BlockKind.line?])
    rw [reread_pause]
    exact .of_name rfl rfl rfl

/-- The entry of a block of a script is one line. -/
theorem unbroken_entry_of_mem_kinds (hcast : Lector.Cast lectors)
    {text : String} {kind : BlockKind} (h : kind ∈ Script.kinds lectors text) :
    '\n' ∉ (entry lectors kind).toList := by
  have hauthored := Script.authored_of_mem_kinds h
  cases kind with
  | episode title => exact unbroken_entry_episode hauthored.unbroken
  | chapter title => exact unbroken_entry_chapter hauthored.unbroken
  | background cue =>
    exact unbroken_entry_background hauthored.name.unbroken hauthored.fadeIn.1.unbroken
  | pause seconds => exact unbroken_entry_pause lectors seconds
  | line line =>
    exact (legible_of_authored hcast (Script.authored_of_line_mem_kinds h)).unbroken

/-- What comes back from the transcript of a script is what its entries say. -/
theorem map_kind_reopen (hcast : Lector.Cast lectors) (fresh fresh' : Nat → BlockId)
    (text : String) :
    (Script.parse fresh' lectors (render lectors (Script.parse fresh lectors text))).map (·.kind) =
      (Script.parse fresh lectors text).map fun block ↦ reread lectors block.kind := by
  rw [Script.map_kind_parse, kinds_render_eq fun block hblock ↦
    unbroken_entry_of_mem_kinds hcast (Script.kind_mem_kinds hblock)]

/-- The blocks of a script come back from its transcript, each as one of its kind and the lines with
their codes and their lectors, exactly if the code and the lector of each line can be told from its
entry. -/
theorem forall₂_alike_parse_render_iff (hne : lectors ≠ []) (hcast : Lector.Cast lectors)
    (fresh fresh' : Nat → BlockId) (text : String) :
    let blocks := Script.parse fresh lectors text
    let found := Script.parse fresh' lectors (render lectors blocks)
    List.Forall₂ Alike (blocks.map (·.kind)) (found.map (·.kind)) ↔
      ∀ line ∈ Block.lines blocks, Recoverable lectors line := by
  intro blocks found
  have hkinds : ∀ block ∈ blocks, block.kind ∈ Script.kinds lectors text := fun _ hblock ↦
    Script.kind_mem_kinds hblock
  rw [map_kind_reopen hcast, List.forall₂_map_left_iff, List.forall₂_map_right_iff,
    List.forall₂_same]
  simp only [Block.lines, List.mem_filterMap]
  constructor
  · rintro h line ⟨block, hblock, hline⟩
    exact (alike_reread_kind_iff hne hcast (hkinds block hblock)).1 (h block hblock) line hline
  · intro h block hblock
    exact (alike_reread_kind_iff hne hcast (hkinds block hblock)).2 fun line hline ↦
      h line ⟨block, hblock, hline⟩

/-- A script with lines of both lectors, one of them with a code. -/
theorem forall₂_alike_parse_render_two_lectors :
    let lectors : List Lector := [⟨"n", "Narrator", ""⟩, ⟨"f", "Fox", ""⟩]
    let blocks := Script.parse .ofNat lectors "Episode: One\nFox (S1): Hello.\nIt rains."
    List.Forall₂ Alike (blocks.map (·.kind))
      ((Script.parse .ofNat lectors (render lectors blocks)).map (·.kind)) := by
  exact (forall₂_alike_parse_render_iff (by decide) (by decide) .ofNat .ofNat
    "Episode: One\nFox (S1): Hello.\nIt rains.").2 (by decide)

/-- A code that is read from a statement may have a parenthesis, and in a transcript this ends the
code: the line comes back as narration. -/
theorem not_forall₂_alike_parenthesis :
    let lectors : List Lector := [⟨"n", "Narrator", ""⟩, ⟨"f", "Fox", ""⟩]
    let blocks := Script.parse .ofNat lectors "SampleLine: Code=S(1"
    lectors ≠ [] ∧ Lector.Cast lectors ∧ ¬ List.Forall₂ Alike (blocks.map (·.kind))
      ((Script.parse .ofNat lectors (render lectors blocks)).map (·.kind)) := by
  decide

end Storyline.Transcript
