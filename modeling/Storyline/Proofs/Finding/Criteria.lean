import Storyline.Finding
import Storyline.Proofs.Dsl.RoundTrip

/-!
# When nothing is found

What is found of a line does not depend on the lines before it, except that its code is a repeated
one. So the findings of one kind are those of the lines one by one, or the repetitions in a list of
keys, and a story without findings is one with distinct keys whose lines are faultless.
-/

namespace Storyline

/-- A line that contradicts neither itself nor the lectors of its story. -/
structure Line.Faultless (lectors : List Lector) (line : Line) : Prop where
  /-- The code is a letter and a number. -/
  code : ∀ code ∈ line.tag?, Code.WellFormed code
  /-- The lector is one of the story. -/
  lector : ∀ id ∈ line.lectorId, id ∈ lectors.map (·.id)
  /-- Only a partner-specific line stores something for partners. -/
  notStray : ¬ Finding.IsStray line
  /-- A universal line stores one text for both genders. -/
  notUneven : ¬ Finding.IsUneven line

namespace Finding

variable {lectors : List Lector} {blocks : List Block} {lines : List Line} {line : Line}
  {seen : List String}

/-! ### Faultless lines -/

/-- A line is not stray exactly if it stores nothing for partners or is partner-specific. -/
theorem not_isStray_iff :
    ¬ IsStray line ↔
      (line.partnerSpecific = false → line.overrides = ∅ ∧ line.imageOverrides = ∅) := by
  rw [IsStray, not_and, not_or, Bool.not_eq_false, Bool.not_eq_false,
    Std.ExtTreeMap.isEmpty_iff, Std.ExtTreeMap.isEmpty_iff]

/-- A line is not uneven exactly if it is not universal or stores only uniform texts. -/
theorem not_isUneven_iff :
    ¬ IsUneven line ↔
      (line.universal = true → (∀ pair ∈ line.variants, pair.IsUniform) ∧
        ∀ (slug : String) (pair : ByGender String),
          line.overrides[slug]? = some pair → pair.IsUniform) := by
  simp only [IsUneven, not_and, not_exists, not_not, List.mem_append, Option.mem_toList,
    List.mem_map, Prod.exists, exists_eq_right, Std.ExtTreeMap.mem_toList_iff_getElem?_eq_some,
    Option.mem_def]
  refine imp_congr_right fun _ ↦ ⟨fun h ↦ ⟨fun pair hpair ↦ h pair (Or.inl hpair),
    fun slug pair hpair ↦ h pair (Or.inr ⟨slug, hpair⟩)⟩, fun h pair hpair ↦ ?_⟩
  rcases hpair with hpair | ⟨slug, hpair⟩
  · exact h.1 pair hpair
  · exact h.2 slug pair hpair

/-- What makes a line faultless, field by field. -/
theorem faultless_iff :
    line.Faultless lectors ↔
      (∀ code ∈ line.tag?, Code.WellFormed code) ∧
      (∀ id ∈ line.lectorId, id ∈ lectors.map (·.id)) ∧
      (line.partnerSpecific = false → line.overrides = ∅ ∧ line.imageOverrides = ∅) ∧
      (line.universal = true → (∀ pair ∈ line.variants, pair.IsUniform) ∧
        ∀ (slug : String) (pair : ByGender String),
          line.overrides[slug]? = some pair → pair.IsUniform) := by
  rw [← not_isStray_iff, ← not_isUneven_iff]
  exact ⟨fun h ↦ ⟨h.code, h.lector, h.notStray, h.notUneven⟩,
    fun ⟨hcode, hlector, hstray, huneven⟩ ↦ ⟨hcode, hlector, hstray, huneven⟩⟩

/-! ### Findings of a kind -/

/-- The findings with a short name. -/
def named (name : String) (found : List Finding) : List Finding :=
  found.filter (·.name = name)

/-- The findings of a name in two lists are those in the first and then those in the second. -/
theorem named_append (name : String) (a b : List Finding) :
    named name (a ++ b) = named name a ++ named name b :=
  List.filter_append ..

/-- Nothing of a kind is among findings of other kinds. -/
theorem named_eq_nil {name : String} {found : List Finding} (h : ∀ f ∈ found, f.name ≠ name) :
    named name found = [] := by
  rw [named, List.filter_eq_nil_iff]
  intro f hf
  simpa using h f hf

/-- Findings of one kind are all of that kind. -/
theorem named_eq_self {name : String} {found : List Finding} (h : ∀ f ∈ found, f.name = name) :
    named name found = found := by
  rw [named, List.filter_eq_self]
  intro f hf
  simpa using h f hf

/-- A finding of another name, made or not, has no part in those of a name. -/
theorem named_ite_eq_nil {name : String} {f : Finding} {p : Prop} [Decidable p]
    (h : f.name ≠ name) : named name (if p then [f] else []) = [] := by
  apply named_eq_nil
  split <;> simp [h]

/-- The lector of a line leads to no finding but that it is unknown. -/
theorem named_ofLector_eq_nil {name : String} (h : name ≠ "UnknownLector") :
    named name (ofLector lectors line) = [] := by
  unfold ofLector
  cases line.lectorId with
  | none => rfl
  | some id =>
    apply named_eq_nil
    split <;> simp [Finding.name, h.symm]

/-- What was seen before a line matters to its repeated code only. -/
theorem named_ofCode {name : String} (h : name ≠ "DuplicateCode") :
    named name (ofCode seen line) = named name (ofCode [] line) := by
  unfold ofCode
  cases line.tag? with
  | none => rfl
  | some code =>
    have hrepeated : (duplicateCode code).name ≠ name := h.symm
    rw [named_append, named_append, named_ite_eq_nil hrepeated, named_ite_eq_nil hrepeated]

/-- The code of a line leads to no finding but that it is malformed or a duplicate. -/
theorem named_ofCode_eq_nil {name : String} (hformed : name ≠ "MalformedCode")
    (hseen : name ≠ "DuplicateCode") : named name (ofCode seen line) = [] := by
  apply named_eq_nil
  unfold ofCode
  cases line.tag? <;> simp +contextual [Finding.name, or_imp, hformed.symm, hseen.symm]

private theorem mem_named_iff {name : String} {found : List Finding} {f : Finding} :
    f ∈ named name found ↔ f ∈ found ∧ f.name = name := by
  rw [named, List.mem_filter, decide_eq_true_iff]

/-! ### Lines -/

/-- What can be found of a line after others, and when. -/
theorem mem_ofLine_iff {f : Finding} :
    f ∈ ofLine lectors seen line ↔
      (∃ code ∈ line.tag?, ¬ Code.WellFormed code ∧ f = .malformedCode code) ∨
        (∃ code ∈ line.tag?, code ∈ seen ∧ f = .duplicateCode code) ∨
        (∃ id ∈ line.lectorId, id ∉ lectors.map (·.id) ∧ f = .unknownLector id line.label) ∨
        (IsStray line ∧ f = .strayOverrides line.label) ∨
        (IsUneven line ∧ f = .unevenLine line.label) := by
  have hcode : f ∈ ofCode seen line ↔
      (∃ code ∈ line.tag?, ¬ Code.WellFormed code ∧ f = .malformedCode code) ∨
        ∃ code ∈ line.tag?, code ∈ seen ∧ f = .duplicateCode code := by
    unfold ofCode
    cases line.tag? with
    | none => simp
    | some code => simp [← Code.isWellFormed_iff]
  have hlector : f ∈ ofLector lectors line ↔
      ∃ id ∈ line.lectorId, id ∉ lectors.map (·.id) ∧ f = .unknownLector id line.label := by
    unfold ofLector
    cases line.lectorId <;> simp
  rw [ofLine, List.mem_append, List.mem_append, List.mem_append, hcode, hlector]
  simp [or_assoc]

/-- Nothing is found of a line by itself exactly if it is faultless. -/
theorem ofLine_eq_nil_iff : ofLine lectors [] line = [] ↔ line.Faultless lectors := by
  rw [List.eq_nil_iff_forall_not_mem]
  simp only [mem_ofLine_iff]
  constructor
  · intro h
    refine ⟨fun code hcode ↦ ?_, fun id hid ↦ ?_, fun hstray ↦ ?_, fun huneven ↦ ?_⟩
    · by_contra hformed
      exact h (.malformedCode code) (Or.inl ⟨code, hcode, hformed, rfl⟩)
    · by_contra hmem
      exact h (.unknownLector id line.label) (Or.inr (Or.inr (Or.inl ⟨id, hid, hmem, rfl⟩)))
    · exact h (.strayOverrides line.label) (by simp [hstray])
    · exact h (.unevenLine line.label) (by simp [huneven])
  · rintro ⟨hcode, hlector, hstray, huneven⟩ f
    rintro (⟨code, hmem, hformed, -⟩ | ⟨_, _, hseen, -⟩ | ⟨id, hid, hmem, -⟩ | ⟨h, -⟩ | ⟨h, -⟩)
    · exact hformed (hcode code hmem)
    · exact absurd hseen List.not_mem_nil
    · exact hmem (hlector id hid)
    · exact hstray h
    · exact huneven h

/-- A line after others has a repeated code if its code was seen. -/
theorem named_duplicateCode_ofLine :
    named "DuplicateCode" (ofLine lectors seen line) =
      (line.tag?.toList.filter (· ∈ seen)).map .duplicateCode := by
  have hcode : named "DuplicateCode" (ofCode seen line) =
      (line.tag?.toList.filter (· ∈ seen)).map .duplicateCode := by
    unfold ofCode
    cases line.tag? with
    | none => rfl
    | some code =>
      by_cases hformed : Code.isWellFormed code = true <;> by_cases hseen : code ∈ seen <;>
        simp [named, hformed, hseen, name]
  rw [ofLine, named_append, named_append, named_append, hcode, named_ofLector_eq_nil (by decide),
    named_ite_eq_nil (by simp [name]), named_ite_eq_nil (by simp [name]), List.append_nil,
    List.append_nil, List.append_nil]

/-- The repeated codes are the repetitions among the codes. Only what was seen counts, not in which
order or how often. -/
theorem named_duplicateCode_ofLines {seen seen' : List String}
    (hseen : ∀ code, code ∈ seen ↔ code ∈ seen') :
    named "DuplicateCode" (ofLines lectors seen lines) =
      (repeatsAfter id seen' (lines.filterMap Line.tag?)).map .duplicateCode := by
  induction lines generalizing seen seen' with
  | nil => rfl
  | cons line lines ih =>
    rw [ofLines, named_append, named_duplicateCode_ofLine]
    cases htag : line.tag? with
    | none =>
      rw [List.filterMap_cons_none htag]
      exact ih hseen
    | some code =>
      have hcons : ∀ code', code' ∈ code :: seen ↔ code' ∈ code :: seen' := fun code' ↦ by
        rw [List.mem_cons, List.mem_cons, hseen]
      rw [List.filterMap_cons_some htag, repeatsAfter, id_eq]
      by_cases hcode : code ∈ seen
      · -- a repeated code is seen already, and seeing it once more changes nothing
        have hsame : ∀ code', code' ∈ code :: seen ↔ code' ∈ seen' := fun code' ↦ by
          rw [hcons, List.mem_cons, or_iff_right_of_imp]
          rintro rfl
          exact (hseen _).1 hcode
        rw [if_pos ((hseen code).1 hcode)]
        simpa [hcode] using ih hsame
      · rw [if_neg fun h ↦ hcode ((hseen code).2 h)]
        simpa [hcode] using ih hcons

/-- Findings of a kind other than repeated codes are those of the lines one by one. -/
theorem named_ofLines {name : String} (h : name ≠ "DuplicateCode") :
    named name (ofLines lectors seen lines) =
      lines.flatMap fun line ↦ named name (ofLine lectors [] line) := by
  induction lines generalizing seen with
  | nil => rfl
  | cons line lines ih =>
    -- of this kind the same is found whatever was seen before
    have hline : named name (ofLine lectors seen line) = named name (ofLine lectors [] line) := by
      rw [ofLine, ofLine]
      simp only [named_append, named_ofCode h]
    rw [ofLines, named_append, hline, ih, List.flatMap_cons]

/-- A finding other than a repeated code is found of one of the lines by itself. -/
theorem mem_ofLines_iff {f : Finding} (hf : f.name ≠ "DuplicateCode") :
    f ∈ ofLines lectors seen lines ↔ ∃ line ∈ lines, f ∈ ofLine lectors [] line := by
  have hnamed : ∀ found : List Finding, f ∈ found ↔ f ∈ named f.name found := by
    simp [mem_named_iff]
  rw [hnamed, named_ofLines hf, List.mem_flatMap]
  exact exists_congr fun line ↦ and_congr_right fun _ ↦ (hnamed _).symm

/-- Identifiers are not what lines are checked for. -/
theorem name_ne_of_mem_ofLines {f : Finding} (h : f ∈ ofLines lectors [] lines) :
    f.name ≠ "DuplicateBlock" ∧ f.name ≠ "DuplicateLector" := by
  by_cases hname : f.name = "DuplicateCode"
  · rw [hname]
    decide
  · obtain ⟨line, -, hf⟩ := (mem_ofLines_iff hname).1 h
    rcases mem_ofLine_iff.1 hf with ⟨_, _, _, rfl⟩ | ⟨_, _, _, rfl⟩ | ⟨_, _, _, rfl⟩ | ⟨_, rfl⟩ |
      ⟨_, rfl⟩ <;> simp [name]

/-- Nothing is found of lines exactly if their codes are distinct and they are faultless. -/
theorem ofLines_eq_nil_iff :
    ofLines lectors [] lines = [] ↔
      (lines.filterMap Line.tag?).Nodup ∧ ∀ line ∈ lines, line.Faultless lectors := by
  have hcodes : named "DuplicateCode" (ofLines lectors [] lines) = [] ↔
      (lines.filterMap Line.tag?).Nodup := by
    rw [named_duplicateCode_ofLines fun _ ↦ Iff.rfl, List.map_eq_nil_iff]
    exact repeats_eq_nil_iff.trans (by rw [List.map_id])
  constructor
  · intro h
    refine ⟨hcodes.1 (by rw [h]; rfl), fun line hline ↦ ?_⟩
    rw [← ofLine_eq_nil_iff, List.eq_nil_iff_forall_not_mem]
    intro f hf
    have hname : f.name ≠ "DuplicateCode" := by
      intro hname
      have hmem := mem_named_iff.2 ⟨hf, hname⟩
      simp [named_duplicateCode_ofLine] at hmem
    have hmem : f ∈ ofLines lectors [] lines := (mem_ofLines_iff hname).2 ⟨line, hline, hf⟩
    rw [h] at hmem
    exact List.not_mem_nil hmem
  · rintro ⟨hnodup, hlines⟩
    rw [List.eq_nil_iff_forall_not_mem]
    intro f hf
    by_cases hname : f.name = "DuplicateCode"
    · have hmem := mem_named_iff.2 ⟨hf, hname⟩
      rw [hcodes.2 hnodup] at hmem
      exact List.not_mem_nil hmem
    · obtain ⟨line, hline, hmem⟩ := (mem_ofLines_iff hname).1 hf
      rw [ofLine_eq_nil_iff.2 (hlines line hline)] at hmem
      exact List.not_mem_nil hmem

/-- One finding on each of some lines. -/
theorem flatMap_ite_eq_map_filter (p : Line → Prop) [DecidablePred p] (f : Line → Finding) :
    (lines.flatMap fun line ↦ if p line then [f line] else []) =
      (lines.filter (p ·)).map f := by
  induction lines with
  | nil => rfl
  | cons line lines ih =>
    rw [List.flatMap_cons, ih]
    by_cases h : p line <;> simp [h]

/-- The uneven lines are found one by one. -/
theorem named_unevenLine_ofLines :
    named "UnevenUniversalLine" (ofLines lectors seen lines) =
      (lines.filter (IsUneven ·)).map fun line ↦ .unevenLine line.label := by
  have hline : ∀ line, named "UnevenUniversalLine" (ofLine lectors [] line) =
      if IsUneven line then [.unevenLine line.label] else [] := by
    intro line
    rw [ofLine, named_append, named_append, named_append,
      named_ofCode_eq_nil (by decide) (by decide), named_ofLector_eq_nil (by decide),
      named_ite_eq_nil (by simp [name])]
    split <;> simp [named, name]
  simp only [named_ofLines (show "UnevenUniversalLine" ≠ "DuplicateCode" by decide), hline,
    flatMap_ite_eq_map_filter]

/-! ### Stories -/

/-- What is found of a story is found of two blocks, of two lectors or of its lines. -/
theorem mem_findings_iff {f : Finding} :
    f ∈ findings lectors blocks ↔
      (∃ block ∈ repeats (·.id) blocks, f = .duplicateBlock block.kind.name block.id) ∨
        (∃ lector ∈ repeats (·.id) lectors, f = .duplicateLector lector.id) ∨
          f ∈ ofLines lectors [] (Block.lines blocks) := by
  simp [findings, eq_comm]

/-- Findings of a kind that only lines have are those of the lines. -/
theorem named_findings {name : String} (hblock : name ≠ "DuplicateBlock")
    (hlector : name ≠ "DuplicateLector") :
    named name (findings lectors blocks) = named name (ofLines lectors [] (Block.lines blocks)) := by
  rw [findings, named_append, named_append, named_eq_nil, named_eq_nil]
  · rfl
  · simpa [Finding.name] using fun _ _ ↦ hlector.symm
  · simpa [Finding.name] using fun _ _ ↦ hblock.symm

/-- A code is found to be malformed exactly if a line has it and it is not well formed. -/
theorem malformedCode_mem_findings_iff {code : String} :
    .malformedCode code ∈ findings lectors blocks ↔
      code ∈ Dsl.codes blocks ∧ ¬ Code.WellFormed code := by
  have hname : (malformedCode code).name ≠ "DuplicateCode" := by simp [name]
  rw [mem_findings_iff, mem_ofLines_iff hname, Dsl.codes, List.mem_filterMap]
  constructor
  · rintro (⟨_, _, ⟨⟩⟩ | ⟨_, _, ⟨⟩⟩ | ⟨line, hline, hf⟩)
    obtain ⟨_, htag, hformed, ⟨⟩⟩ : ∃ found ∈ line.tag?, ¬ Code.WellFormed found ∧
        malformedCode code = .malformedCode found := by
      simpa [mem_ofLine_iff] using hf
    exact ⟨⟨line, hline, htag⟩, hformed⟩
  · rintro ⟨⟨line, hline, htag⟩, hformed⟩
    exact Or.inr (Or.inr ⟨line, hline, mem_ofLine_iff.2 (Or.inl ⟨code, htag, hformed, rfl⟩)⟩)

/-- No code is malformed exactly if all are well formed. -/
theorem forall_malformedCode_notMem_iff :
    (∀ code, .malformedCode code ∉ findings lectors blocks) ↔
      ∀ code ∈ Dsl.codes blocks, Code.WellFormed code := by
  simp only [malformedCode_mem_findings_iff, not_and, not_not]

/-- The repeated codes of a story are the repetitions among its codes. -/
theorem named_duplicateCode :
    named "DuplicateCode" (findings lectors blocks) =
      (repeats id (Dsl.codes blocks)).map .duplicateCode := by
  rw [named_findings (by decide) (by decide), named_duplicateCode_ofLines fun _ ↦ Iff.rfl]
  rfl

/-- No code is repeated exactly if they are pairwise distinct. -/
theorem forall_duplicateCode_notMem_iff :
    (∀ code, .duplicateCode code ∉ findings lectors blocks) ↔ (Dsl.codes blocks).Nodup := by
  have hmem : ∀ code, .duplicateCode code ∈ findings lectors blocks ↔
      code ∈ repeats id (Dsl.codes blocks) := by
    intro code
    have hfilter : .duplicateCode code ∈ findings lectors blocks ↔
        .duplicateCode code ∈ named "DuplicateCode" (findings lectors blocks) := by
      simp [mem_named_iff, name]
    rw [hfilter, named_duplicateCode]
    simp
  simp only [hmem]
  rw [← List.eq_nil_iff_forall_not_mem, repeats_eq_nil_iff, List.map_id]

/-- No block is repeated exactly if the identifiers are pairwise distinct. -/
theorem forall_duplicateBlock_notMem_iff :
    (∀ kind id, .duplicateBlock kind id ∉ findings lectors blocks) ↔
      (blocks.map (·.id)).Nodup := by
  rw [← repeats_eq_nil_iff, List.eq_nil_iff_forall_not_mem]
  have hlines : ∀ kind id, .duplicateBlock kind id ∉ ofLines lectors [] (Block.lines blocks) :=
    fun _ _ h ↦ (name_ne_of_mem_ofLines h).1 rfl
  simp only [mem_findings_iff, hlines, or_false, not_or, not_exists, not_and]
  constructor
  · intro h block hblock
    exact (h block.kind.name block.id).1 block hblock rfl
  · intro h kind id
    exact ⟨fun block hblock _ ↦ h block hblock, by simp⟩

/-- Nothing is found of a story exactly if its identifiers and codes are distinct and its lines
faultless. -/
theorem findings_eq_nil_iff :
    findings lectors blocks = [] ↔
      (blocks.map (·.id)).Nodup ∧ (lectors.map (·.id)).Nodup ∧ (Dsl.codes blocks).Nodup ∧
        ∀ line ∈ Block.lines blocks, line.Faultless lectors := by
  rw [findings, List.append_eq_nil_iff, List.append_eq_nil_iff, List.map_eq_nil_iff,
    List.map_eq_nil_iff, repeats_eq_nil_iff, repeats_eq_nil_iff, ofLines_eq_nil_iff, and_assoc]
  rfl

end Finding

end Storyline
