import Storyline.Proofs.Finding.Criteria
import Storyline.Proofs.Script.Guarantee

/-!
# What is found of a script

Of a line a script says its code, its text, who reads it and whether partners may have a text of
their own, and no more. So a line that was just read contradicts neither its flags nor the lectors
of its story. What can be found of a script is therefore wrong with its codes or with the lectors.
-/

namespace Storyline

/-- A line that a script can say in a story with these lectors. -/
structure Line.Scripted (lectors : List Lector) (line : Line) : Prop where
  /-- A code is not empty and can be written down again. -/
  code : ∀ code ∈ line.code, code ≠ "" ∧ Code.Plain code.toList
  /-- Only a line with a code is partner-specific. -/
  coded : line.partnerSpecific = true → line.code ≠ none
  /-- The text is trimmed and stays on one line. -/
  content : Text.Clean line.content.toList
  /-- Nothing else is stored. -/
  bare : line.Bare
  /-- The lector is one of the story. -/
  lector : ∀ id ∈ line.lectorId, id ∈ lectors.map (·.id)
  /-- Nobody reads the line only where there are no lectors. -/
  unread : line.lectorId = none ↔ lectors = []

/-- A block that a script can say in a story with these lectors. -/
def BlockKind.Scripted (lectors : List Lector) : BlockKind → Prop
  | episode title | chapter title => Text.Clean title.toList
  | background cue => cue.Sound
  | pause _ => True
  | line l => l.Scripted lectors

namespace Statement

variable {lectors : List Lector} {statement : Statement} {line : Line}

/-- Lines of plain text are not partner-specific. -/
theorem code_ne_none_of_toKind (h : statement.toKind lectors = .line line)
    (hpartner : line.partnerSpecific = true) : line.code ≠ none := by
  cases statement with
  | coded found =>
    obtain rfl := BlockKind.line.inj h
    exact Option.some_ne_none _
  | spoken role content whole =>
    rw [toKind] at h
    split at h <;> obtain rfl := BlockKind.line.inj h <;> contradiction
  | narration content =>
    obtain rfl := BlockKind.line.inj h
    contradiction
  | episode | chapter | background | pause => exact absurd h (by simp [toKind])

/-- Where there are no lectors, no statement finds one. -/
theorem lectorId_of_toKind_nil (h : statement.toKind [] = .line line) : line.lectorId = none := by
  cases statement with
  | coded found =>
    obtain rfl := BlockKind.line.inj h
    cases hrole : found.role <;> simp [CodedLine.toLine, hrole, Lector.findNamed?, Lector.default?]
  | spoken role content whole =>
    obtain rfl := BlockKind.line.inj h
    rfl
  | narration content =>
    obtain rfl := BlockKind.line.inj h
    rfl
  | episode | chapter | background | pause => exact absurd h (by simp [toKind])

end Statement

/-- Every line of a script is one that a script can say. -/
theorem Line.scripted_of_mem_kinds {lectors : List Lector} {text : String} {line : Line}
    (h : .line line ∈ Script.kinds lectors text) : line.Scripted lectors := by
  have hauthored := Script.authored_of_line_mem_kinds h
  obtain ⟨statement, -, hkind⟩ := List.mem_map.1 h
  have hunread : line.lectorId = none ↔ lectors = [] := by
    constructor
    · intro hnone
      by_contra hne
      obtain ⟨lector, -, hlector⟩ := hauthored.lector hne
      simp [hnone] at hlector
    · rintro rfl
      exact Statement.lectorId_of_toKind_nil hkind
  refine ⟨hauthored.code, Statement.code_ne_none_of_toKind hkind, hauthored.clean,
    Line.bare_of_toKind hkind, fun id hid ↦ ?_, hunread⟩
  have hne : lectors ≠ [] := fun hnil ↦ by simp [hunread.2 hnil] at hid
  obtain ⟨lector, hmem, hlector⟩ := hauthored.lector hne
  obtain rfl : lector.id = id := Option.some.inj (hlector.symm.trans hid)
  exact List.mem_map_of_mem hmem

/-- Every block of a script is one that a script can say. -/
theorem BlockKind.scripted_of_mem_kinds {lectors : List Lector} {text : String} {kind : BlockKind}
    (h : kind ∈ Script.kinds lectors text) : kind.Scripted lectors := by
  have hauthored := Script.authored_of_mem_kinds h
  cases kind with
  | line line => exact Line.scripted_of_mem_kinds h
  | _ => exact hauthored

namespace Finding

/-- Whatever is found of lines is found of one of them after others. -/
theorem exists_mem_ofLine {lectors : List Lector} {lines : List Line} {seen : List String}
    {f : Finding} (h : f ∈ ofLines lectors seen lines) :
    ∃ line ∈ lines, ∃ seen, f ∈ ofLine lectors seen line := by
  induction lines generalizing seen with
  | nil => exact absurd h List.not_mem_nil
  | cons line lines ih =>
    rcases List.mem_append.1 h with h | h
    · exact ⟨line, List.mem_cons_self, seen, h⟩
    · obtain ⟨found, hfound, hf⟩ := ih h
      exact ⟨found, List.mem_cons_of_mem line hfound, hf⟩

/-- What can be found of a line that was just read. -/
theorem of_mem_ofLine_scripted {lectors : List Lector} {line : Line} {seen : List String}
    {f : Finding} (hline : line.Scripted lectors) (h : f ∈ ofLine lectors seen line) :
    (∃ code, f = .duplicateCode code) ∨ ∃ code, f = .malformedCode code := by
  rcases mem_ofLine_iff.1 h with ⟨code, -, -, hf⟩ | ⟨code, -, -, hf⟩ | ⟨id, hid, hmem, -⟩ |
    ⟨hstray, -⟩ | ⟨huneven, -⟩
  · exact Or.inr ⟨code, hf⟩
  · exact Or.inl ⟨code, hf⟩
  · exact absurd (hline.lector id hid) hmem
  · rcases hstray.2 with hstored | hstored
    · simp [hline.bare.overrides] at hstored
    · simp [hline.bare.imageOverrides] at hstored
  · exact absurd huneven.1 (by simp [hline.bare.universal])

end Finding

/-- Every block of a script is one that a script can say. If the identifiers that the blocks get are
distinct, nothing is found of the script but lectors with one identifier, codes that are used twice
and codes that are not a letter and a number. -/
theorem Script.scripted_parse (fresh : Nat → BlockId) (lectors : List Lector) (text : String) :
    let blocks := parse fresh lectors text
    (∀ block ∈ blocks, block.kind.Scripted lectors) ∧
      ((blocks.map (·.id)).Nodup → ∀ f ∈ findings lectors blocks,
        (∃ id, f = .duplicateLector id) ∨ (∃ code, f = .duplicateCode code) ∨
          ∃ code, f = .malformedCode code) := by
  intro blocks
  have hscripted : ∀ block ∈ blocks, block.kind.Scripted lectors := by
    intro block hblock
    have hkind : block.kind ∈ blocks.map (·.kind) := List.mem_map_of_mem hblock
    rw [map_kind_parse] at hkind
    exact BlockKind.scripted_of_mem_kinds hkind
  refine ⟨hscripted, fun hdistinct f hf ↦ ?_⟩
  rcases Finding.mem_findings_iff.1 hf with ⟨block, hblock, -⟩ | ⟨lector, -, hlector⟩ | hlines
  · rw [repeats_eq_nil_iff.2 hdistinct] at hblock
    exact absurd hblock List.not_mem_nil
  · exact Or.inl ⟨lector.id, hlector⟩
  · obtain ⟨line, hline, seen, hfound⟩ := Finding.exists_mem_ofLine hlines
    obtain ⟨block, hblock, hkind⟩ := List.mem_map.1 (Block.mem_lines_iff.1 hline)
    have hscriptedLine := hscripted block hblock
    rw [hkind] at hscriptedLine
    exact Or.inr (Finding.of_mem_ofLine_scripted hscriptedLine hfound)

/-- A background with a comma in its name, a code without a letter and one that is used twice. -/
theorem Script.scripted_parse_three_findings :
    let lectors : List Lector := [⟨"n", "Narrator", "v1"⟩, ⟨"f", "Fox", "v2"⟩, ⟨"f", "Owl", "v3"⟩]
    let blocks := parse .ofNat lectors
      "Background: Wind, rain: \t\n fox (7[x]): Run!\nS1: Hush.\nOwl (S1): Who?"
    (blocks.map (·.id)).Nodup ∧
      findings lectors blocks =
        [.duplicateLector "f", .malformedCode "7", .duplicateCode "S1"] ∧
      (∀ block ∈ blocks, block.kind.Scripted lectors) ∧
      ∀ f ∈ findings lectors blocks, (∃ id, f = .duplicateLector id) ∨
        (∃ code, f = .duplicateCode code) ∨ ∃ code, f = .malformedCode code := by
  intro lectors blocks
  have hdistinct : (blocks.map (·.id)).Nodup := by decide
  obtain ⟨hscripted, hfindings⟩ := scripted_parse .ofNat lectors
    "Background: Wind, rain: \t\n fox (7[x]): Run!\nS1: Hush.\nOwl (S1): Who?"
  exact ⟨hdistinct, by decide, hscripted, hfindings hdistinct⟩

end Storyline
