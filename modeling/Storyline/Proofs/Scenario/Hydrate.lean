import Storyline.Proofs.Code
import Storyline.Proofs.Scenario.Reload

/-!
# Exporting what was filled in

Filling a scenario into a story changes no code. So the story has the same keys afterwards, and
under each key the entry of the same line: filled from the scenario if that has the key, as it was
otherwise. A filled line gives back what the scenario has, with two exceptions. The texts of a
universal entry come back as the one that everybody hears, and a line that was partner-specific
stays so.
-/

namespace Storyline

/-- What listeners of no partner hear of a line that was filled. -/
theorem ScenarioEntry.texts_fill (entry : ScenarioEntry) (line : Line) :
    (entry.fill line).texts =
      ⟨entry.texts.boy, if entry.universal = true then entry.texts.boy else entry.texts.girl⟩ := by
  have htext : ∀ g, (entry.fill line).text g none = entry.texts.get ((entry.fill line).slot g) :=
    fun _ ↦ rfl
  rw [Line.texts, htext, htext, Line.slot, Line.slot]
  by_cases huniversal : entry.universal = true <;> simp [fill, huniversal, ByGender.get]

namespace Scenario

variable {lectors : List Lector} {includeStatic : Bool} {blocks : List Block} {key : String}

/-! ### Keys -/

/-- A line is of the kind that its key tells. -/
theorem kind?_of_key? {line : Line} (h : key? line = some key) : line.kind? = Code.kind? key := by
  obtain ⟨code, hcode, rfl⟩ := Option.map_eq_some_iff.1 h
  rw [Line.kind?, hcode, Option.bind_some, Code.kind?_base]

/-- Of two lines with one key both have an entry or none. -/
theorem isIncluded_eq_of_key? {line line' : Line} (h : key? line = some key)
    (h' : key? line' = some key) :
    isIncluded includeStatic line' = isIncluded includeStatic line := by
  rw [isIncluded, isIncluded, kind?_of_key? h, kind?_of_key? h']

/-- Looking up a key among lines with their keys is looking for the first line of that key. -/
theorem lookup_filterMap_key? (lines : List Line) (key : String) :
    (lines.filterMap fun line ↦ (key? line).map fun key ↦ (key, line)).lookup key =
      lines.find? (key? · = some key) := by
  induction lines with
  | nil => rfl
  | cons line lines ih =>
    cases hkey : key? line with
    | none =>
      rw [List.filterMap_cons_none (by rw [hkey]; rfl), ih, List.find?_cons_of_neg (by simp [hkey])]
    | some k =>
      rw [List.filterMap_cons_some (by rw [hkey]; rfl), List.lookup_cons, ih]
      by_cases hk : key = k
      · subst hk
        rw [beq_self_eq_true, List.find?_cons_of_pos (by simp [hkey])]
      · rw [beq_false_of_ne hk, List.find?_cons_of_neg (by simp [hkey, Ne.symm hk])]

/-- The line whose entry stands under a key is the first line of that key, among all lines. -/
theorem find?_of_lookup {line : Line} (h : (included includeStatic blocks).lookup key = some line) :
    (Block.lines blocks).find? (key? · = some key) = some line := by
  obtain ⟨hline, hkey⟩ := mem_included_iff.1 (mem_of_lookup h)
  have hincluded := (List.mem_filter.1 hline).2
  -- lines of this key all have an entry, so leaving out those without one changes nothing
  have hsame : (fun other ↦ decide (isIncluded includeStatic other = true ∧
      decide (key? other = some key) = true)) = fun other ↦ decide (key? other = some key) := by
    funext other
    rw [decide_eq_decide, decide_eq_true_iff, and_iff_right_iff_imp]
    exact fun hother ↦ (isIncluded_eq_of_key? hkey hother).trans hincluded
  rw [included, lookup_filterMap_key?, List.find?_filter, hsame] at h
  exact h

/-! ### Entries -/

/-- The lines that have an entry are the same after filling. -/
theorem included_hydrate (scenario : Scenario) (blocks : List Block) :
    included includeStatic (hydrate scenario blocks) =
      (included includeStatic blocks).map fun (key, line) ↦ (key, fill scenario line) := by
  have hincluded : isIncluded includeStatic ∘ fill scenario = isIncluded includeStatic :=
    funext fun line ↦ isIncluded_eq_of_code (code_fill scenario line)
  rw [included, lines_hydrate, List.filter_map, hincluded, included, List.filterMap_map,
    List.map_filterMap]
  apply List.filterMap_congr
  intro line _
  rw [Function.comp_apply, key?_eq_of_code (code_fill scenario line), Option.map_map]
  rfl

/-- A filled story has under a key the entry of the line that it had one of before. -/
theorem getElem?_ofBlocks_hydrate (lectors : List Lector) (includeStatic : Bool)
    (scenario : Scenario) (blocks : List Block) (key : String) :
    (ofBlocks lectors includeStatic (hydrate scenario blocks))[key]? =
      ((included includeStatic blocks).lookup key).map fun line ↦
        ScenarioEntry.ofLine lectors (fill scenario line) := by
  rw [getElem?_ofBlocks, included_hydrate, lookup_map_snd, Option.map_map]
  rfl

/-- A filled story has the keys that it had before. Under a key of the scenario it has again what
the scenario has, but for the text for girls of a universal entry, who hear the one for boys, and
for the partner flag, which also the first line of the key can bring along. Under every other key it
has what it had before. -/
theorem ofBlocks_hydrate (lectors : List Lector) (scenario : Scenario) (blocks : List Block) :
    let before := ofBlocks lectors true blocks
    let after := ofBlocks lectors true (hydrate scenario blocks)
    (∀ key, key ∈ after ↔ key ∈ before) ∧
      (∀ (key : String) (entry stored : ScenarioEntry),
        after[key]? = some entry → scenario[key]? = some stored →
        entry.texts.boy = stored.texts.boy ∧
        entry.texts.girl =
          (if stored.universal = true then stored.texts.boy else stored.texts.girl) ∧
        entry.universal = stored.universal ∧ entry.images = stored.images ∧
        entry.overrides = stored.overrides ∧ entry.imageOverrides = stored.imageOverrides ∧
        ∃ line, (Block.lines blocks).find? (key? · = some key) = some line ∧
          entry.partnerSpecific = (stored.partnerSpecific || line.partnerSpecific)) ∧
      ∀ key, key ∉ scenario → after[key]? = before[key]? := by
  intro before after
  have hafter : ∀ key, after[key]? = ((included true blocks).lookup key).map fun line ↦
      ScenarioEntry.ofLine lectors (fill scenario line) :=
    getElem?_ofBlocks_hydrate lectors true scenario blocks
  have hbefore : ∀ key, before[key]? =
      ((included true blocks).lookup key).map (ScenarioEntry.ofLine lectors) :=
    getElem?_ofBlocks lectors true blocks
  refine ⟨fun key ↦ ?_, fun key entry stored hentry hstored ↦ ?_, fun key hkey ↦ ?_⟩
  · rw [Std.ExtTreeMap.mem_iff_isSome_getElem?, Std.ExtTreeMap.mem_iff_isSome_getElem?, hafter,
      hbefore, Option.isSome_map, Option.isSome_map]
  · rw [hafter] at hentry
    obtain ⟨line, hline, rfl⟩ := Option.map_eq_some_iff.1 hentry
    have hkey := (mem_included_iff.1 (mem_of_lookup hline)).2
    have hfill : fill scenario line = stored.fill line := by
      rw [fill, hkey, Option.bind_some, hstored]
    have hboy : (stored.fill line).texts.boy = stored.texts.boy := by rw [stored.texts_fill]
    have hgirl : (stored.fill line).texts.girl =
        if stored.universal = true then stored.texts.boy else stored.texts.girl := by
      rw [stored.texts_fill]
    rw [hfill]
    exact ⟨hboy, hgirl, rfl, rfl, rfl, rfl, line, find?_of_lookup hline, Bool.or_comm ..⟩
  · rw [hafter, hbefore]
    cases hline : (included true blocks).lookup key with
    | none => rfl
    | some line =>
      have hfound := (mem_included_iff.1 (mem_of_lookup hline)).2
      have hfill : fill scenario line = line := by
        rw [fill, hfound, Option.bind_some, Std.ExtTreeMap.getElem?_eq_none hkey]
      rw [Option.map_some, Option.map_some, hfill]

/-- A line with a suffix is filled under its key and keeps its flag, and a line that the scenario
does not know keeps its entry. -/
theorem ofBlocks_hydrate_suffix :
    let blocks : List Block :=
      [⟨.ofNat 1, .line { content := "Hi!", code := some "Z1[Slug]", partnerSpecific := true }⟩,
        ⟨.ofNat 2, .line { content := "Hush.", code := some "S2" }⟩]
    let stored : ScenarioEntry := { texts := ⟨"Hello!", "Hey!"⟩, universal := true }
    let scenario : Scenario := (∅ : Scenario).insert "Z1" stored
    let after := ofBlocks [] true (hydrate scenario blocks)
    ∃ entry, after["Z1"]? = some entry ∧ scenario["Z1"]? = some stored ∧ "S2" ∉ scenario ∧
      entry.texts.girl = "Hello!" ∧ entry.partnerSpecific = true ∧
      after["S2"]? = (ofBlocks [] true blocks)["S2"]? := by
  intro blocks stored scenario after
  obtain ⟨hkeys, hfilled, hothers⟩ := ofBlocks_hydrate [] scenario blocks
  have hkey : "Z1" ∈ after := (hkeys "Z1").2 (by decide)
  have hstored : scenario["Z1"]? = some stored := Std.ExtTreeMap.getElem?_insert_self
  have habsent : "S2" ∉ scenario := by decide
  obtain ⟨entry, hentry⟩ :=
    Option.isSome_iff_exists.1 (Std.ExtTreeMap.mem_iff_isSome_getElem?.1 hkey)
  obtain ⟨-, hgirl, -, -, -, -, line, hline, hflag⟩ := hfilled "Z1" entry stored hentry hstored
  have hfirst : line.partnerSpecific = true := by
    obtain rfl : _ = line := Option.some.inj hline
    rfl
  exact ⟨entry, hentry, hstored, habsent, hgirl, by rw [hflag, hfirst, Bool.or_true],
    hothers "S2" habsent⟩

end Scenario

end Storyline
