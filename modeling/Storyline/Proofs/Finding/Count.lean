import Storyline.Proofs.Finding.Criteria
import Storyline.Proofs.Repeats

/-!
# How much is found

A story without findings is sound in every respect that is checked, and a sound story has none. In
general each identifier and each code is found once for every time that it comes back, and of every
other kind there is one finding for each line that gives cause for it.
-/

namespace Storyline.Finding

variable {lectors : List Lector} {blocks : List Block}

/-! ### Repetitions -/

/-- The blocks that are found are those with the identifier of an earlier one. -/
theorem named_duplicateBlock :
    named "DuplicateBlock" (findings lectors blocks) =
      (repeats (·.id) blocks).map fun block ↦ .duplicateBlock block.kind.name block.id := by
  rw [findings, named_append, named_append, named_eq_self (by simp [name]),
    named_eq_nil (by simp [name]), named_eq_nil fun f hf ↦ (name_ne_of_mem_ofLines hf).1,
    List.append_nil, List.append_nil]

/-- The lectors that are found are those with the identifier of an earlier one. -/
theorem named_duplicateLector :
    named "DuplicateLector" (findings lectors blocks) =
      (repeats (·.id) lectors).map fun lector ↦ .duplicateLector lector.id := by
  rw [findings, named_append, named_append, named_eq_nil (by simp [name]),
    named_eq_self (by simp [name]), named_eq_nil fun f hf ↦ (name_ne_of_mem_ofLines hf).2,
    List.nil_append, List.append_nil]

/-! ### Lines -/

/-- One malformed code is found of each line that has one. -/
theorem named_malformedCode :
    named "MalformedCode" (findings lectors blocks) =
      (Block.lines blocks).filterMap fun line ↦
        (line.tag?.filter (¬ Code.WellFormed ·)).map .malformedCode := by
  have hcode : ∀ line : Line, named "MalformedCode" (ofCode [] line) =
      ((line.tag?.filter (¬ Code.WellFormed ·)).map Finding.malformedCode).toList := by
    intro line
    unfold ofCode
    cases line.tag? with
    | none => rfl
    | some code =>
      rw [named_append, named_ite_eq_nil (f := .duplicateCode code) (by simp [name]),
        List.append_nil]
      by_cases hformed : Code.WellFormed code <;>
        simp [hformed, Code.isWellFormed_iff, named, name, Option.filter_some]
  rw [named_findings (by decide) (by decide), named_ofLines (by decide),
    List.filterMap_eq_flatMap_toList]
  apply List.flatMap_congr
  intro line _
  rw [ofLine, named_append, named_append, named_append, hcode, named_ofLector_eq_nil (by decide),
    named_ite_eq_nil (by simp [name]), named_ite_eq_nil (by simp [name]), List.append_nil,
    List.append_nil, List.append_nil]

/-- One unknown lector is found of each line that names one. -/
theorem named_unknownLector :
    named "UnknownLector" (findings lectors blocks) =
      (Block.lines blocks).filterMap fun line ↦
        (line.lectorId.filter (· ∉ lectors.map (·.id))).map (.unknownLector · line.label) := by
  have hlector : ∀ line : Line, named "UnknownLector" (ofLector lectors line) =
      ((line.lectorId.filter (· ∉ lectors.map (·.id))).map
        (Finding.unknownLector · line.label)).toList := by
    intro line
    unfold ofLector
    cases line.lectorId with
    | none => rfl
    | some id =>
      by_cases hid : id ∈ lectors.map (·.id) <;>
        simp [-List.mem_map, hid, named, name, Option.filter_some]
  rw [named_findings (by decide) (by decide), named_ofLines (by decide),
    List.filterMap_eq_flatMap_toList]
  apply List.flatMap_congr
  intro line _
  rw [ofLine, named_append, named_append, named_append,
    named_ofCode_eq_nil (by decide) (by decide), hlector, named_ite_eq_nil (by simp [name]),
    named_ite_eq_nil (by simp [name]), List.append_nil, List.append_nil, List.nil_append]

/-- One finding is made of each stray line. -/
theorem named_strayOverrides :
    named "StrayPartnerOverrides" (findings lectors blocks) =
      ((Block.lines blocks).filter (IsStray ·)).map fun line ↦ .strayOverrides line.label := by
  have hline : ∀ line, named "StrayPartnerOverrides" (ofLine lectors [] line) =
      if IsStray line then [.strayOverrides line.label] else [] := by
    intro line
    rw [ofLine, named_append, named_append, named_append,
      named_ofCode_eq_nil (by decide) (by decide), named_ofLector_eq_nil (by decide),
      named_ite_eq_nil (f := .unevenLine line.label) (by simp [name]), List.append_nil]
    split <;> simp [named, name]
  rw [named_findings (by decide) (by decide), named_ofLines (by decide)]
  simp only [hline, flatMap_ite_eq_map_filter]

/-- Nothing is found of a story exactly if its identifiers and codes are distinct and each line has
a well-formed code, a lector of the story, nothing for partners unless it is partner-specific and
only uniform texts if it is universal. In any case there are as many repetitions found as there are
blocks, lectors and codes beyond the first of each, and one finding of each other kind for every
line that gives cause for it. -/
theorem findings_eq_nil_iff_and_counts (lectors : List Lector) (blocks : List Block) :
    (findings lectors blocks = [] ↔
      (blocks.map (·.id)).Nodup ∧ (lectors.map (·.id)).Nodup ∧ (Dsl.codes blocks).Nodup ∧
        ∀ line ∈ Block.lines blocks,
          (∀ code ∈ line.tag?, Code.WellFormed code) ∧
          (∀ id ∈ line.lectorId, id ∈ lectors.map (·.id)) ∧
          (line.partnerSpecific = false → line.overrides = ∅ ∧ line.imageOverrides = ∅) ∧
          (line.universal = true → (∀ pair ∈ line.variants, pair.IsUniform) ∧
            ∀ (slug : String) (pair : ByGender String),
              line.overrides[slug]? = some pair → pair.IsUniform)) ∧
      (named "DuplicateBlock" (findings lectors blocks)).length +
          (blocks.map (·.id)).toFinset.card = blocks.length ∧
      (named "DuplicateLector" (findings lectors blocks)).length +
          (lectors.map (·.id)).toFinset.card = lectors.length ∧
      (named "DuplicateCode" (findings lectors blocks)).length +
          (Dsl.codes blocks).toFinset.card = (Dsl.codes blocks).length ∧
      named "MalformedCode" (findings lectors blocks) =
        (Block.lines blocks).filterMap (fun line ↦
          (line.tag?.filter (¬ Code.WellFormed ·)).map .malformedCode) ∧
      named "UnknownLector" (findings lectors blocks) =
        (Block.lines blocks).filterMap (fun line ↦
          (line.lectorId.filter (· ∉ lectors.map (·.id))).map (.unknownLector · line.label)) ∧
      named "StrayPartnerOverrides" (findings lectors blocks) =
        ((Block.lines blocks).filter (IsStray ·)).map (fun line ↦ .strayOverrides line.label) ∧
      named "UnevenUniversalLine" (findings lectors blocks) =
        ((Block.lines blocks).filter (IsUneven ·)).map (fun line ↦ .unevenLine line.label) := by
  refine ⟨?_, ?_, ?_, ?_, named_malformedCode, named_unknownLector, named_strayOverrides, ?_⟩
  · rw [findings_eq_nil_iff]
    simp only [faultless_iff]
  · rw [named_duplicateBlock, List.length_map, length_repeats_add_card]
  · rw [named_duplicateLector, List.length_map, length_repeats_add_card]
  · rw [named_duplicateCode, List.length_map]
    simpa using length_repeats_add_card id (Dsl.codes blocks)
  · rw [named_findings (by decide) (by decide), named_unevenLine_ofLines]

end Storyline.Finding
