import Storyline.Proofs.Code
import Storyline.Proofs.Finding.Criteria
import Storyline.Proofs.Scenario.Reload

/-!
# Nothing is found after loading

A story of which nothing was found is saved and loaded with its scenario. Every line that comes back
has its flags, texts and overrides from one place: from the entry under its code, or from the script
if there is none. Either is faultless, and so is a line that was filled, because what an entry
overwrites agrees with itself and what it leaves was faultless before.
-/

namespace Storyline

variable {lectors : List Lector} {line blank : Line}

/-! ### Lines -/

/-- On a universal line listeners of no partner hear the same text. -/
theorem Line.isUniform_texts (h : line.universal = true) : line.texts.IsUniform := by
  have hslot : line.slot .girl = line.slot .boy := by rw [slot, slot, if_pos h, if_pos h]
  change line.text .boy none = line.text .girl none
  rw [text, text, hslot]

namespace Line.Faultless

/-- The entry of a faultless line names a lector of the story, or none in a story without any. -/
theorem lectorId_ofLine (h : line.Faultless lectors) :
    (ScenarioEntry.ofLine lectors line).lectorId = "" ∨
      (ScenarioEntry.ofLine lectors line).lectorId ∈ lectors.map (·.id) := by
  cases hlector : Lector.effective? lectors line.lectorId with
  | some lector =>
    have hid : (ScenarioEntry.ofLine lectors line).lectorId = lector.id := by
      rw [ScenarioEntry.ofLine, hlector]
      rfl
    rw [hid]
    exact Or.inr (List.mem_map_of_mem (Lector.mem_of_effective? hlector))
  | none =>
    have hnone : line.lectorId = none := by
      obtain rfl := Lector.effective?_eq_none_iff.1 hlector
      exact Option.eq_none_iff_forall_not_mem.2 fun id hid ↦ List.not_mem_nil (h.lector id hid)
    refine Or.inl ?_
    rw [ScenarioEntry.ofLine, hlector, hnone]
    rfl

/-- What comes back of a faultless line from a script is faultless. -/
theorem restoredLine (h : line.Faultless lectors) :
    (Dsl.restoredLine lectors line).Faultless lectors where
  code := h.code
  lector := by
    intro id hid
    obtain ⟨lector, hlector, rfl⟩ := Option.map_eq_some_iff.1 hid
    exact List.mem_map_of_mem (List.mem_of_head? hlector)
  notStray := by simp [Finding.IsStray, Dsl.restoredLine]
  notUneven := by simp [Finding.IsUneven, Dsl.restoredLine]

/-- A faultless line that was filled from the entry of a faultless line is faultless. -/
theorem fill (hblank : blank.Faultless lectors) (h : line.Faultless lectors) :
    ((ScenarioEntry.ofLine lectors line).fill blank).Faultless lectors where
  code := hblank.code
  lector := by
    intro id hid
    rw [ScenarioEntry.fill, Option.mem_def] at hid
    split at hid
    · exact hblank.lector id hid
    · next hne =>
      obtain rfl := Option.some.inj hid
      exact h.lectorId_ofLine.resolve_left hne
  notStray := by
    rintro ⟨hflag, hstored⟩
    -- the flags are joined, so a line without one was filled from a line without one
    have hline : line.partnerSpecific = false := (Bool.or_eq_false_iff.1 hflag).2
    exact h.notStray ⟨hline, hstored⟩
  notUneven := by
    rintro ⟨huniversal, pair, hpair, hgender⟩
    rw [List.mem_append] at hpair
    rcases hpair with hpair | hpair
    · obtain rfl : line.texts = pair := Option.some.inj (Option.mem_toList.1 hpair)
      exact hgender (Line.isUniform_texts huniversal)
    · exact h.notUneven ⟨huniversal, pair, List.mem_append_right _ hpair, hgender⟩

end Line.Faultless

namespace Scenario

variable {includeStatic : Bool} {blocks : List Block}

/-- Where all lines are faultless, the entries are those of faultless lines. -/
theorem exists_faultless_of_getElem? (h : ∀ line ∈ Block.lines blocks, line.Faultless lectors)
    {key : String} {entry : ScenarioEntry}
    (hentry : (ofBlocks lectors includeStatic blocks)[key]? = some entry) :
    ∃ line, line.Faultless lectors ∧ ScenarioEntry.ofLine lectors line = entry := by
  rw [getElem?_ofBlocks] at hentry
  obtain ⟨line, hlookup, hline⟩ := Option.map_eq_some_iff.1 hentry
  have hmem := (mem_included_iff.1 (mem_of_lookup hlookup)).1
  exact ⟨line, h line (List.mem_filter.1 hmem).1, hline⟩

/-- Where all lines are faultless, they still are after loading. -/
theorem faultless_reloaded (h : ∀ line ∈ Block.lines blocks, line.Faultless lectors)
    (hline : line.Faultless lectors) :
    (reloaded lectors (ofBlocks lectors includeStatic blocks) line).Faultless lectors := by
  unfold reloaded Scenario.fill
  split
  · next entry hentry =>
    obtain ⟨key, -, hkey⟩ := Option.bind_eq_some_iff.1 hentry
    obtain ⟨source, hsource, rfl⟩ := exists_faultless_of_getElem? h hkey
    exact hline.restoredLine.fill hsource
  · exact hline.restoredLine

/-! ### Stories -/

/-- Where codes are well formed and the rest stands on one line each, every block is read back. -/
theorem legible_of_wellFormed (hcodes : ∀ code ∈ Dsl.codes blocks, Code.WellFormed code)
    (hfeeds : ∀ block ∈ blocks, block.line? = none → Dsl.Unbroken block.kind) :
    ∀ block ∈ blocks, Dsl.Legible block.kind := by
  intro block hblock
  cases hkind : block.kind with
  | line line =>
    intro code hcode
    have hline : line ∈ Block.lines blocks :=
      Block.mem_lines_iff.2 (List.mem_map.2 ⟨block, hblock, hkind⟩)
    exact (hcodes code (List.mem_filterMap.2 ⟨line, hline, hcode⟩)).plain
  | _ =>
    have hunbroken := hfeeds block hblock (by rw [Block.line?, hkind]; rfl)
    rwa [hkind] at hunbroken

/-- The codes of a story are its codes after loading. -/
theorem codes_load (fresh : Nat → BlockId) (scenario : Scenario)
    (h : ∀ block ∈ blocks, Dsl.Legible block.kind) :
    Dsl.codes (load fresh lectors (some scenario) (Dsl.render blocks)) = Dsl.codes blocks := by
  have htag : Line.tag? ∘ reloaded lectors scenario = Line.tag? :=
    funext fun line ↦ Line.tag?_eq_of_code (code_reloaded lectors scenario line)
  rw [Dsl.codes, lines_load fresh scenario h, List.filterMap_map, htag, Dsl.codedLines,
    List.filterMap_filter, Dsl.codes]
  apply List.filterMap_congr
  intro line _
  cases line.tag? <;> rfl

/-- Every statement gets the next identifier of the supply. -/
theorem map_id_load (fresh : Nat → BlockId) (scenario : Scenario) (text : String) :
    (load fresh lectors (some scenario) text).map (·.id) =
      (List.range (Script.statements text).length).map fresh := by
  have hlength : (Script.kinds lectors text).length = (Script.statements text).length :=
    List.length_map ..
  rw [load, map_id_hydrate, Script.parse, Script.label, ← hlength]
  apply List.ext_getElem <;> simp

/-- Of a story of which nothing was found, nothing is found after it was saved and loaded with its
scenario. Its titles of chapters, names of sounds and fades must stand on one line each, and the
identifiers that the blocks get must be distinct. -/
theorem findings_load_eq_nil (lectors : List Lector) (includeStatic : Bool) (blocks : List Block)
    (fresh : Nat → BlockId)
    (hfresh : ((List.range (Script.statements (Dsl.render blocks)).length).map fresh).Nodup)
    (hfeeds : ∀ block ∈ blocks, block.line? = none → Dsl.Unbroken block.kind)
    (h : findings lectors blocks = []) :
    findings lectors (load fresh lectors (some (ofBlocks lectors includeStatic blocks))
      (Dsl.render blocks)) = [] := by
  obtain ⟨-, hlectors, hcodes, hlines⟩ := Finding.findings_eq_nil_iff.1 h
  have hformed : ∀ code ∈ Dsl.codes blocks, Code.WellFormed code := by
    intro code hcode
    obtain ⟨line, hline, htag⟩ := List.mem_filterMap.1 hcode
    exact (hlines line hline).code code htag
  have hlegible := legible_of_wellFormed hformed hfeeds
  refine Finding.findings_eq_nil_iff.2 ⟨?_, hlectors, ?_, ?_⟩
  · rwa [map_id_load]
  · rwa [codes_load fresh _ hlegible]
  · rw [lines_load fresh _ hlegible]
    intro loaded hloaded
    obtain ⟨line, hline, rfl⟩ := List.mem_map.1 hloaded
    exact faultless_reloaded hlines (hlines line (List.mem_filter.1 hline).1)

/-- A universal line, a line with a text of its own for a partner and a line without a code. -/
theorem findings_load_eq_nil_partner_text :
    let lectors : List Lector := [⟨"n", "Narrator", "v1"⟩]
    let blocks : List Block :=
      [⟨.ofNat 1, .chapter "Harbor"⟩,
        ⟨.ofNat 2, .line
          { content := "Hi!", code := some "Z1", universal := true, lectorId := some "n" }⟩,
        ⟨.ofNat 3, .line
          { content := "Bye.", code := some "Z2", partnerSpecific := true,
            overrides := (∅ : PartnerTable).insert "acme" ⟨"Bye, sir.", "Bye, madam."⟩ }⟩,
        ⟨.ofNat 4, .line { content := "The wind rose." }⟩]
    findings lectors blocks = [] ∧
      findings lectors (load .ofNat lectors (some (ofBlocks lectors true blocks))
        (Dsl.render blocks)) = [] := by
  intro lectors blocks
  have hfindings : findings lectors blocks = [] := by decide
  have hfresh : ((List.range (Script.statements (Dsl.render blocks)).length).map
      BlockId.ofNat).Nodup := by decide
  exact ⟨hfindings, findings_load_eq_nil lectors true blocks .ofNat hfresh (by decide) hfindings⟩

end Scenario

end Storyline
