import Storyline.Proofs.Finding.Criteria
import Storyline.Proofs.Script.Guarantee

/-!
# Editing a line

A line that is new or read from a script is written to, its flags are switched, and it gets codes
and lectors, in any order. Two things stay true: its content is what a boy of no partner hears, and
as long as it is universal each of its pairs is the same for both genders. The first holds because
whatever writes the boy's variant writes the content, the second because pairs from before the flag
was turned on were made uniform then and later ones are written to both slots.
-/

namespace Storyline

/-- The gender makes no difference to what is read from a uniform pair. -/
theorem ByGender.IsUniform.get_eq {α : Type} {pair : ByGender α} (h : pair.IsUniform)
    (g k : Gender) : pair.get g = pair.get k := by
  cases g <;> cases k <;> first | rfl | exact h | exact h.symm

/-! ### Tables -/

/-- Every partner has the same for both genders. -/
def PartnerTable.IsUniform (table : PartnerTable) : Prop :=
  ∀ (slug : String) (pair : ByGender String), table[slug]? = some pair → pair.IsUniform

private theorem PartnerTable.isUniform_insert {table : PartnerTable} (h : IsUniform table)
    (slug : String) {pair : ByGender String} (hpair : pair.IsUniform) :
    IsUniform (table.insert slug pair) := by
  intro slug' pair' hfound
  rw [Std.ExtTreeMap.getElem?_insert] at hfound
  split at hfound
  · obtain rfl := Option.some.inj hfound
    exact hpair
  · exact h slug' pair' hfound

private theorem PartnerTable.isUniform_map_collapse (table : PartnerTable) :
    IsUniform (table.map fun _ pair ↦ pair.collapse) := by
  intro slug pair hfound
  rw [Std.ExtTreeMap.getElem?_map] at hfound
  obtain ⟨_, -, rfl⟩ := Option.map_eq_some_iff.1 hfound
  exact ByGender.isUniform_collapse _

namespace Line

variable {line : Line}

/-! ### Uniform lines -/

/-- A line that stores the same for both genders in each of its pairs. -/
structure IsUniform (line : Line) : Prop where
  /-- The texts for listeners of no partner. -/
  variants : ∀ pair ∈ line.variants, pair.IsUniform
  /-- The images for listeners of no partner. -/
  images : ∀ pair ∈ line.images, pair.IsUniform
  /-- The texts for listeners of each partner. -/
  overrides : PartnerTable.IsUniform line.overrides
  /-- The images for listeners of each partner. -/
  imageOverrides : PartnerTable.IsUniform line.imageOverrides

private theorem IsUniform.not_isUneven (h : line.IsUniform) : ¬ Finding.IsUneven line :=
  Finding.not_isUneven_iff.2 fun _ ↦ ⟨h.variants, h.overrides⟩

/-- A listener reads from the pair of a partner or from the one for all others, so from a uniform
pair where all of these are. -/
theorem isUniform_of_pair? {table : PartnerTable} (htable : PartnerTable.IsUniform table)
    {others : Option (ByGender String)} (hothers : ∀ pair ∈ others, pair.IsUniform)
    {partner : Option String} {pair : ByGender String}
    (h : (partner.bind (table[·]?)).or others = some pair) : pair.IsUniform := by
  rcases Option.or_eq_some_iff.1 h with h | ⟨-, h⟩
  · obtain ⟨slug, -, hslug⟩ := Option.bind_eq_some_iff.1 h
    exact htable slug pair hslug
  · exact hothers pair h

/-- Nobody hears another text when a uniform line is no longer universal. -/
theorem IsUniform.text_setUniversal_false (h : line.IsUniform) (g : Gender)
    (partner : Option String) : (line.setUniversal false).text g partner = line.text g partner := by
  have hpair : (line.setUniversal false).textPair? partner = line.textPair? partner := rfl
  rw [text, text, hpair]
  cases hfound : line.textPair? partner with
  | none => rfl
  | some pair => exact (isUniform_of_pair? h.overrides h.variants hfound).get_eq ..

/-- Nobody sees another image when a uniform line is no longer universal. -/
theorem IsUniform.image?_setUniversal_false (h : line.IsUniform) (g : Gender)
    (partner : Option String) :
    (line.setUniversal false).image? g partner = line.image? g partner := by
  have hpair : (line.setUniversal false).imagePair? partner = line.imagePair? partner := rfl
  rw [image?, image?, hpair]
  cases hfound : line.imagePair? partner with
  | none => rfl
  | some pair =>
    exact congrArg some ((isUniform_of_pair? h.imageOverrides h.images hfound).get_eq ..)

/-! ### What stays true -/

/-- What all edits of a line keep. -/
structure Coherent (line : Line) : Prop where
  /-- The content is what a boy of no partner hears. -/
  content : line.content = line.text .boy none
  /-- A universal line stores the same for both genders. -/
  uniform : line.universal = true → line.IsUniform

/-- A boy of no partner hears the first variant or the content, on universal lines and others. -/
theorem text_boy_none (line : Line) :
    line.text .boy none = (line.variants.map (·.boy)).getD line.content := by
  have hslot : line.slot .boy = .boy := by
    unfold slot
    split <;> rfl
  rw [text, textPair?, hslot, Option.bind_none, Option.none_or]
  cases line.variants <;> rfl

/-- What is put into a universal line is put into both slots. -/
theorem isUniform_put (h : line.universal = true) (g : Gender) (value : String)
    (pair : ByGender String) : (line.put g value pair).IsUniform := by
  rw [put, if_pos h]
  exact ByGender.isUniform_uniform value

/-- What is put for a girl into a line that is not universal leaves the boy's slot alone. -/
theorem boy_put (line : Line) (g : Gender) (value : String) (pair : ByGender String) :
    (line.put g value pair).boy =
      if line.universal = true ∨ g = .boy then value else pair.boy := by
  by_cases huniversal : line.universal = true
  · rw [put, if_pos huniversal, if_pos (Or.inl huniversal)]
    rfl
  · cases g <;> simp [put, huniversal, ByGender.set]

/-- A line that is neither universal nor has variants is one to start from. -/
theorem coherent_of_variants_eq_none (hvariants : line.variants = none)
    (huniversal : line.universal = false) : line.Coherent where
  content := by rw [text_boy_none, hvariants]; rfl
  uniform := fun h ↦ absurd (huniversal.symm.trans h) Bool.false_ne_true

namespace Coherent

/-- A first pair of variants starts with the content. -/
theorem boy_getD_variants (h : line.Coherent) :
    (line.variants.getD line.texts).boy = line.content := by
  rw [h.content, text_boy_none]
  cases hvariants : line.variants with
  | some pair => rfl
  | none =>
    rw [Option.getD_none, texts, text_boy_none, hvariants]

/-- Writing a text keeps a line coherent. -/
theorem writeText (h : line.Coherent) (g : Gender) (partner : Option String) (text : String) :
    (line.writeText g partner text).Coherent := by
  cases partner with
  | some slug =>
    refine ⟨h.content, fun huniversal ↦ ?_⟩
    have hline := h.uniform huniversal
    exact ⟨hline.variants, hline.images,
      PartnerTable.isUniform_insert hline.overrides slug (isUniform_put huniversal g text _),
      hline.imageOverrides⟩
  | none =>
    refine ⟨?_, fun huniversal ↦ ?_⟩
    · rw [text_boy_none, Line.writeText, Option.map_some, Option.getD_some, boy_put,
        h.boy_getD_variants]
    · have hline := h.uniform huniversal
      refine ⟨?_, hline.images, hline.overrides, hline.imageOverrides⟩
      intro pair hpair
      obtain rfl := Option.some.inj hpair
      exact isUniform_put huniversal g text _

/-- Writing an image keeps a line coherent. -/
theorem writeImage (h : line.Coherent) (g : Gender) (partner : Option String) (url : String) :
    (line.writeImage g partner url).Coherent := by
  cases partner with
  | some slug =>
    refine ⟨h.content, fun huniversal ↦ ?_⟩
    have hline := h.uniform huniversal
    exact ⟨hline.variants, hline.images, hline.overrides,
      PartnerTable.isUniform_insert hline.imageOverrides slug (isUniform_put huniversal g url _)⟩
  | none =>
    refine ⟨h.content, fun huniversal ↦ ?_⟩
    have hline := h.uniform huniversal
    refine ⟨hline.variants, ?_, hline.overrides, hline.imageOverrides⟩
    intro pair hpair
    obtain rfl := Option.some.inj hpair
    exact isUniform_put huniversal g url _

/-- Setting the universal flag keeps a line coherent. -/
theorem setUniversal (h : line.Coherent) (on : Bool) : (line.setUniversal on).Coherent := by
  cases on with
  | false =>
    refine ⟨h.content.trans ?_, fun hon ↦ absurd hon Bool.false_ne_true⟩
    rw [text_boy_none, text_boy_none]
    rfl
  | true =>
    have hcollapse : ∀ {pair? : Option (ByGender String)}, ∀ pair ∈ pair?.map (·.collapse),
        pair.IsUniform := by
      intro pair? pair hpair
      obtain ⟨_, -, rfl⟩ := Option.map_eq_some_iff.1 hpair
      exact ByGender.isUniform_collapse _
    refine ⟨h.content.trans ?_, fun _ ↦ ⟨hcollapse, hcollapse,
      PartnerTable.isUniform_map_collapse _, PartnerTable.isUniform_map_collapse _⟩⟩
    have hboy : (line.setUniversal true).variants.map (·.boy) = line.variants.map (·.boy) := by
      rw [Line.setUniversal, if_pos rfl, Option.map_map]
      rfl
    rw [text_boy_none, text_boy_none, hboy]
    rfl

end Coherent

/-! ### Runs -/

/-- An edit of a line. -/
inductive Edit where
  /-- A text is written. -/
  | writeText (g : Gender) (partner : Option String) (text : String)
  /-- An image is written. -/
  | writeImage (g : Gender) (partner : Option String) (url : String)
  /-- The universal flag is set. -/
  | setUniversal (on : Bool)
  /-- The partner flag is set. -/
  | setPartnerSpecific (on : Bool)
  /-- A code is assigned. -/
  | withCode (code : String)
  /-- A lector is assigned, or none. -/
  | withLector (id : Option String)

/-- The line after an edit. -/
def Edit.apply : Edit → Line → Line
  | writeText g partner text, line => line.writeText g partner text
  | writeImage g partner url, line => line.writeImage g partner url
  | setUniversal on, line => line.setUniversal on
  | setPartnerSpecific on, line => line.setPartnerSpecific on
  | withCode code, line => line.withCode code
  | withLector id, line => line.withLector id

/-- A line that authors can have: a new one, one from a script, or one of these after edits. -/
inductive Reachable : Line → Prop where
  | new (content : String) : Reachable { content }
  | read {fresh : Nat → BlockId} {lectors : List Lector} {text : String} {line : Line}
      (h : line ∈ Block.lines (Script.parse fresh lectors text)) : Reachable line
  | edit {line : Line} (h : Reachable line) (e : Edit) : Reachable (e.apply line)

/-- Every edit keeps a line coherent. -/
theorem Coherent.apply (h : line.Coherent) (e : Edit) : (e.apply line).Coherent := by
  cases e with
  | writeText g partner text => exact h.writeText g partner text
  | writeImage g partner url => exact h.writeImage g partner url
  | setUniversal on => exact h.setUniversal on
  | setPartnerSpecific | withCode | withLector =>
    exact ⟨h.content, fun huniversal ↦ { h.uniform huniversal with }⟩

private theorem coherent_of_mem_parse {fresh : Nat → BlockId} {lectors : List Lector}
    {text : String} (h : line ∈ Block.lines (Script.parse fresh lectors text)) : line.Coherent := by
  rw [Block.mem_lines_iff, Script.map_kind_parse] at h
  obtain ⟨statement, -, hkind⟩ := List.mem_map.1 h
  have hbare := bare_of_toKind hkind
  exact coherent_of_variants_eq_none hbare.variants hbare.universal

private theorem Reachable.coherent (h : line.Reachable) : line.Coherent := by
  induction h with
  | new content => exact coherent_of_variants_eq_none rfl rfl
  | read h => exact coherent_of_mem_parse h
  | edit _ e ih => exact ih.apply e

/-- Any number of edits can follow. -/
theorem Reachable.foldl (h : line.Reachable) (edits : List Edit) :
    (edits.foldl (fun line e ↦ e.apply line) line).Reachable := by
  induction edits generalizing line with
  | nil => exact h
  | cons e edits ih => exact ih (h.edit e)

/-- However a line was edited, its content is what a boy of no partner hears, it adds no uneven line
to the findings of a story, and while it is universal each of its pairs is the same for both
genders, so that it could stop being universal without anybody noticing. -/
theorem content_and_genders_of_reachable (h : line.Reachable) :
    line.content = line.text .boy none ∧
      (line.universal = true → line.IsUniform ∧
        ∀ g partner, (line.setUniversal false).text g partner = line.text g partner ∧
          (line.setUniversal false).image? g partner = line.image? g partner) ∧
      ∀ lectors front id back,
        Finding.named "UnevenUniversalLine" (findings lectors (front ++ ⟨id, .line line⟩ :: back)) =
          Finding.named "UnevenUniversalLine" (findings lectors (front ++ back)) := by
  have hcoherent := h.coherent
  refine ⟨hcoherent.content, fun huniversal ↦ ?_, fun lectors front id back ↦ ?_⟩
  · have huniform := hcoherent.uniform huniversal
    exact ⟨huniform, fun g partner ↦
      ⟨huniform.text_setUniversal_false g partner, huniform.image?_setUniversal_false g partner⟩⟩
  · have heven : ¬ Finding.IsUneven line := fun huneven ↦
      (hcoherent.uniform huneven.1).not_isUneven huneven
    have hlines : Block.lines (front ++ ⟨id, .line line⟩ :: back) =
        Block.lines front ++ line :: Block.lines back := Block.lines_append ..
    rw [Finding.named_findings (by decide) (by decide), Finding.named_unevenLine_ofLines,
      Finding.named_findings (by decide) (by decide), Finding.named_unevenLine_ofLines, hlines,
      Block.lines_append, List.filter_append, List.filter_append,
      List.filter_cons_of_neg (by simpa using heven)]

/-- A greeting that was read, got other texts for girls and for a partner, and became universal. -/
theorem content_and_genders_of_reachable_universal :
    let read : Line := { content := "Hi!", code := some "Z1" }
    let line := [.writeText .girl none "Hi there!", .setPartnerSpecific true,
      .writeText .girl (some "acme") "Hey!", .setUniversal true,
      .writeText .girl none "Hello!"].foldl (fun line e ↦ Edit.apply e line) read
    line.Reachable ∧ line.text .boy none = "Hello!" ∧ line.content = line.text .boy none ∧
      line.universal = true ∧
      (line.setUniversal false).text .girl (some "acme") = line.text .girl (some "acme") ∧
      Finding.named "UnevenUniversalLine" (findings [] [⟨.ofNat 1, .line line⟩]) =
        Finding.named "UnevenUniversalLine" (findings [] []) := by
  intro read line
  have hread : read.Reachable :=
    .read (show read ∈ Block.lines (Script.parse .ofNat [] "Z1: Hi!") by decide)
  have hline : line.Reachable := hread.foldl _
  have huniversal : line.universal = true := rfl
  obtain ⟨hcontent, huniform, hfindings⟩ := content_and_genders_of_reachable hline
  exact ⟨hline, by decide, hcontent, huniversal, ((huniform huniversal).2 .girl (some "acme")).1,
    hfindings [] [] (.ofNat 1) []⟩

end Line

end Storyline
