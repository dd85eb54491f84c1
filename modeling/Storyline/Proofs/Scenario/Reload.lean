import Mathlib.Data.List.Nodup
import Storyline.Sql
import Storyline.Proofs.Dsl.RoundTrip
import Storyline.Proofs.Scenario.Entry
import Storyline.Proofs.Scenario.Lookup

/-!
# Saving, loading and saving again

A story is saved as two files: its structure as a script and its texts as a scenario. Loaded from
both it gives the same scenario again. Lines that share a code with an earlier line lose what they
have of their own; where no two lines share a code, every line that has an entry is restored for
its listeners, and so are the dynamic lines in the database.
-/

namespace Storyline.Scenario

variable {lectors : List Lector} {includeStatic : Bool} {blocks : List Block}

/-! ### Lines -/

/-- A line with a code after it was saved and loaded with a scenario. -/
def reloaded (lectors : List Lector) (scenario : Scenario) (line : Line) : Line :=
  fill scenario (Dsl.restoredLine lectors line)

/-- A reloaded line has the code that it had. -/
theorem code_reloaded (lectors : List Lector) (scenario : Scenario) (line : Line) :
    (reloaded lectors scenario line).code = line.code :=
  code_fill scenario (Dsl.restoredLine lectors line)

/-- The key of a line depends on its code only. -/
theorem key?_eq_of_code {line line' : Line} (h : line'.code = line.code) :
    key? line' = key? line := by
  rw [key?, key?, Line.tag?_eq_of_code h]

/-- Filling blocks fills their lines. -/
theorem lines_hydrate (scenario : Scenario) (blocks : List Block) :
    Block.lines (hydrate scenario blocks) = (Block.lines blocks).map (fill scenario) := by
  rw [hydrate, Block.lines, Block.lines, List.filterMap_map, List.map_filterMap]
  apply List.filterMap_congr
  intro block _
  exact BlockKind.line?_mapLine (fill scenario) block.kind

/-- The lines that come back are those with a code. -/
theorem lines_load (fresh : Nat → BlockId) (scenario : Scenario)
    (h : ∀ block ∈ blocks, Dsl.Legible block.kind) :
    Block.lines (load fresh lectors (some scenario) (Dsl.render blocks)) =
      (Dsl.codedLines blocks).map (reloaded lectors scenario) := by
  rw [load, lines_hydrate, Dsl.lines_parse_render fresh lectors h, List.map_map]
  rfl

/-- Whatever is asked of lines by their codes alone, and is not so without one, selects the same
lines after loading. -/
theorem filter_lines_load (fresh : Nat → BlockId) (scenario : Scenario)
    (h : ∀ block ∈ blocks, Dsl.Legible block.kind) {p : Line → Bool}
    (hcode : ∀ line line' : Line, line'.code = line.code → p line' = p line)
    (htag : ∀ line : Line, p line = true → line.tag?.isSome = true) :
    (Block.lines (load fresh lectors (some scenario) (Dsl.render blocks))).filter p =
      ((Block.lines blocks).filter p).map (reloaded lectors scenario) := by
  have hp : p ∘ reloaded lectors scenario = p :=
    funext fun line ↦ hcode line _ (code_reloaded lectors scenario line)
  have hcoded : (Dsl.codedLines blocks).filter p = (Block.lines blocks).filter p := by
    rw [Dsl.codedLines, List.filter_filter]
    apply List.filter_congr
    intro line _
    cases hline : p line with
    | false => rfl
    | true => rw [htag line hline, Bool.and_self]
  rw [lines_load fresh scenario h, List.filter_map, hp, hcoded]

/-! ### The scenario -/

/-- Whether a line is exported depends on its code only. -/
theorem isIncluded_eq_of_code {line line' : Line} (h : line'.code = line.code) :
    isIncluded includeStatic line' = isIncluded includeStatic line := by
  rw [isIncluded, isIncluded, Line.kind?_eq_of_code h]

private theorem isSome_tag?_of_isIncluded {line : Line} (h : isIncluded includeStatic line = true) :
    line.tag?.isSome = true := by
  cases hkind : line.kind? with
  | none => simp [isIncluded, hkind] at h
  | some kind => exact Line.isSome_tag?_of_kind? hkind

/-- The lines that have an entry are the same after loading. -/
theorem included_load (fresh : Nat → BlockId) (scenario : Scenario)
    (h : ∀ block ∈ blocks, Dsl.Legible block.kind) :
    included includeStatic (load fresh lectors (some scenario) (Dsl.render blocks)) =
      (included includeStatic blocks).map fun (key, line) ↦
        (key, reloaded lectors scenario line) := by
  rw [included, filter_lines_load fresh scenario h (fun _ _ ↦ isIncluded_eq_of_code)
    (fun _ ↦ isSome_tag?_of_isIncluded), included, List.filterMap_map, List.map_filterMap]
  apply List.filterMap_congr
  intro line _
  rw [Function.comp_apply, key?_eq_of_code (code_reloaded lectors scenario line), Option.map_map]
  rfl

/-- A line that was the first of its code is filled from its own entry. -/
theorem reloaded_of_lookup {key : String} {line : Line}
    (h : (included includeStatic blocks).lookup key = some line) :
    reloaded lectors (ofBlocks lectors includeStatic blocks) line =
      (ScenarioEntry.ofLine lectors line).fill (Dsl.restoredLine lectors line) := by
  have hkey : key? (Dsl.restoredLine lectors line) = some key :=
    (key?_eq_of_code rfl).trans (mem_included_iff.1 (mem_of_lookup h)).2
  have hentry := getElem?_ofBlocks lectors includeStatic blocks key
  rw [h, Option.map_some] at hentry
  rw [reloaded, fill, hkey, Option.bind_some, hentry]

/-- The scenario of a story is its scenario after loading, too. -/
theorem ofBlocks_load (fresh : Nat → BlockId) (h : ∀ block ∈ blocks, Dsl.Legible block.kind)
    (hids : ∀ lector ∈ lectors, lector.id ≠ "") :
    ofBlocks lectors includeStatic
        (load fresh lectors (some (ofBlocks lectors includeStatic blocks)) (Dsl.render blocks)) =
      ofBlocks lectors includeStatic blocks := by
  apply Std.ExtTreeMap.ext_getElem?
  intro key
  rw [getElem?_ofBlocks, getElem?_ofBlocks, included_load fresh _ h, lookup_map_snd,
    Option.map_map]
  cases hline : (included includeStatic blocks).lookup key with
  | none => rfl
  | some line =>
    have hblank : lectors = [] → (Dsl.restoredLine lectors line).lectorId = none := by
      rintro rfl
      rfl
    have hflag : (Dsl.restoredLine lectors line).partnerSpecific = line.partnerSpecific := rfl
    rw [Option.map_some, Option.map_some, Function.comp_apply, reloaded_of_lookup hline,
      ScenarioEntry.ofLine_fill hids hflag hblank]

/-! ### What listeners get -/

/-- The lines of a story that have an entry, in order. -/
def exported (includeStatic : Bool) (blocks : List Block) : List Line :=
  (Block.lines blocks).filter (isIncluded includeStatic)

/-- Every exported line has a key. -/
theorem exists_key?_of_mem_exported {line : Line} (hline : line ∈ exported includeStatic blocks) :
    ∃ key, key? line = some key := by
  have hcoded := isSome_tag?_of_isIncluded (List.mem_filter.1 hline).2
  exact Option.isSome_iff_exists.1 (by rwa [key?, Option.isSome_map])

/-- The keys of the entries are those of the lines that have one. -/
theorem map_some_fst_included (includeStatic : Bool) (blocks : List Block) :
    ((included includeStatic blocks).map Prod.fst).map some =
      (exported includeStatic blocks).map key? := by
  rw [included, List.map_filterMap, List.map_filterMap, ← List.filterMap_eq_map]
  apply List.filterMap_congr
  intro line hline
  obtain ⟨key, hkey⟩ := exists_key?_of_mem_exported hline
  rw [hkey, Function.comp_apply, hkey]
  rfl

/-- A plain code is its own key. -/
theorem key?_of_mem_exported (h : ∀ block ∈ blocks, Dsl.Legible block.kind) {line : Line}
    (hline : line ∈ exported includeStatic blocks) : key? line = line.code := by
  obtain ⟨hmem, hincluded⟩ := List.mem_filter.1 hline
  obtain ⟨code, hcode⟩ := Option.isSome_iff_exists.1 (isSome_tag?_of_isIncluded hincluded)
  obtain ⟨block, hblock, hkind⟩ := List.mem_map.1 (Block.mem_lines_iff.1 hmem)
  have hlegible : Dsl.Legible (.line line) := hkind ▸ h block hblock
  have hbracket : '[' ∉ code.toList := fun hc ↦ ((hlegible code hcode).chars _ hc).2.2 rfl
  rw [key?, hcode, Option.map_some, Code.base_of_notMem hbracket,
    (Option.filter_eq_some_iff.1 hcode).1]

/-- Where no two lines with an entry share a code, no two entries share a key. -/
theorem nodup_keys (h : ∀ block ∈ blocks, Dsl.Legible block.kind)
    (hcodes : ((exported includeStatic blocks).map (·.code)).Nodup) :
    ((included includeStatic blocks).map Prod.fst).Nodup := by
  have hkeys : (exported includeStatic blocks).map key? =
      (exported includeStatic blocks).map (·.code) :=
    List.map_congr_left fun line hline ↦ key?_of_mem_exported h hline
  rw [← hkeys, ← map_some_fst_included] at hcodes
  exact hcodes.of_map some

/-- Where no two lines with an entry share a code, each of them is restored for its listeners. -/
theorem alike_reloaded (h : ∀ block ∈ blocks, Dsl.Legible block.kind)
    (hids : ∀ lector ∈ lectors, lector.id ≠ "")
    (hcodes : ((exported includeStatic blocks).map (·.code)).Nodup) {line : Line}
    (hline : line ∈ exported includeStatic blocks) :
    Line.Alike lectors line (reloaded lectors (ofBlocks lectors includeStatic blocks) line) := by
  obtain ⟨key, hkey⟩ := exists_key?_of_mem_exported hline
  have hlookup := lookup_included (nodup_keys h hcodes) (mem_included_iff.2 ⟨hline, hkey⟩)
  rw [reloaded_of_lookup hlookup]
  exact ScenarioEntry.alike_fill hids rfl rfl

/-! ### The database -/

/-- The rows of a dynamic line are made of what its listeners get. -/
theorem dynamicRow_of_alike (story : Story) {line line' : Line}
    (h : Line.Alike lectors line line') (g : Gender) :
    Sql.dynamicRow story lectors line' g = Sql.dynamicRow story lectors line g := by
  rw [Sql.dynamicRow, Sql.dynamicRow, Line.tag?_eq_of_code h.code, h.text, h.lector]

/-- Where no two lines with an entry share a code, the database gets the same rows. -/
theorem dynamicLines_load (story : Story) (fresh : Nat → BlockId)
    (h : ∀ block ∈ blocks, Dsl.Legible block.kind) (hids : ∀ lector ∈ lectors, lector.id ≠ "")
    (hcodes : ((exported includeStatic blocks).map (·.code)).Nodup) :
    Sql.dynamicLines story lectors
        (load fresh lectors (some (ofBlocks lectors includeStatic blocks)) (Dsl.render blocks)) =
      Sql.dynamicLines story lectors blocks := by
  have hdynamic : Sql.dynamicOf
      (load fresh lectors (some (ofBlocks lectors includeStatic blocks)) (Dsl.render blocks)) =
        (Sql.dynamicOf blocks).map
          (reloaded lectors (ofBlocks lectors includeStatic blocks)) := by
    apply filter_lines_load fresh _ h
    · intro line line' hcode
      exact decide_eq_decide.2 (by rw [Line.IsDynamic, Line.IsDynamic, Line.kind?_eq_of_code hcode])
    · intro line hline
      exact Line.isSome_tag?_of_kind? (of_decide_eq_true hline)
  have hexported : ∀ line ∈ Sql.dynamicOf blocks, line ∈ exported includeStatic blocks := by
    intro line hline
    obtain ⟨hmem, hkind⟩ := List.mem_filter.1 hline
    refine List.mem_filter.2 ⟨hmem, ?_⟩
    rw [isIncluded, show line.kind? = some .dynamic from of_decide_eq_true hkind]
  have hrows : (Sql.dynamicOf blocks).flatMap (fun line ↦ Gender.all.flatMap
      (Sql.dynamicRow story lectors (reloaded lectors (ofBlocks lectors includeStatic blocks) line)))
        = (Sql.dynamicOf blocks).flatMap fun line ↦
          Gender.all.flatMap (Sql.dynamicRow story lectors line) := by
    apply List.flatMap_congr
    intro line hline
    apply List.flatMap_congr
    intro g _
    exact dynamicRow_of_alike story (alike_reloaded h hids hcodes (hexported line hline)) g
  rw [Sql.dynamicLines, Sql.dynamicLines, hdynamic]
  simp only [List.isEmpty_map, List.flatMap_map, hrows]

/-- A story that is loaded from its script and its scenario is exported as before. Where no two
lines with an entry share a code, each of these lines is at its place among the lines with a code
again, alike for every listener, and the database gets the same dynamic lines. -/
theorem export_load (lectors : List Lector) (includeStatic : Bool) (blocks : List Block)
    (fresh : Nat → BlockId) (h : ∀ block ∈ blocks, Dsl.Legible block.kind)
    (hids : ∀ lector ∈ lectors, lector.id ≠ "") :
    let scenario := ofBlocks lectors includeStatic blocks
    let found := load fresh lectors (some scenario) (Dsl.render blocks)
    ofBlocks lectors includeStatic found = scenario ∧
      (((exported includeStatic blocks).map (·.code)).Nodup →
        (∀ (i : Nat) (line : Line), (Dsl.codedLines blocks)[i]? = some line →
          isIncluded includeStatic line = true →
          ∃ line', (Dsl.codedLines found)[i]? = some line' ∧ Line.Alike lectors line line') ∧
        ∀ story, Sql.dynamicLines story lectors found = Sql.dynamicLines story lectors blocks) := by
  intro scenario found
  refine ⟨ofBlocks_load fresh h hids, fun hcodes ↦ ⟨?_, fun story ↦ ?_⟩⟩
  · intro i line hline hincluded
    have hcoded : Dsl.codedLines found = (Dsl.codedLines blocks).map (reloaded lectors scenario) :=
      filter_lines_load fresh scenario h (fun _ _ hcode ↦ by rw [Line.tag?_eq_of_code hcode])
        fun _ htag ↦ htag
    have hexported : line ∈ exported includeStatic blocks := by
      have hmem := (List.mem_filter.1 (List.mem_of_getElem? hline)).1
      exact List.mem_filter.2 ⟨hmem, hincluded⟩
    refine ⟨reloaded lectors scenario line, ?_, alike_reloaded h hids hcodes hexported⟩
    rw [hcoded, List.getElem?_map, hline, Option.map_some]
  · exact dynamicLines_load story fresh h hids hcodes

/-- The text of a dynamic line comes back with what is loaded, and with it both of its rows. -/
theorem export_load_dynamic_line :
    let lectors : List Lector := [⟨"l1", "Ann", "v1"⟩]
    let blocks : List Block :=
      [⟨.ofNat 1, .chapter "Sea"⟩, ⟨.ofNat 2, .line { content := "Hi!", code := some "Z1" }⟩,
        ⟨.ofNat 3, .line { content := "Hush.", code := some "S1" }⟩]
    let scenario := ofBlocks lectors false blocks
    let found := load .ofNat lectors (some scenario) (Dsl.render blocks)
    ofBlocks lectors false found = scenario ∧
      (∃ line, (Dsl.codedLines found)[0]? = some line ∧ line.text .girl none = "Hi!") ∧
      ∀ story, Sql.dynamicLines story lectors found = Sql.dynamicLines story lectors blocks := by
  intro lectors blocks scenario found
  have hlegible : ∀ block ∈ blocks, Dsl.Legible block.kind := by decide
  obtain ⟨hscenario, hlisteners⟩ := export_load lectors false blocks .ofNat hlegible (by decide)
  obtain ⟨hlines, hrows⟩ := hlisteners (by decide)
  obtain ⟨line, hline, halike⟩ := hlines 0 { content := "Hi!", code := some "Z1" } rfl rfl
  exact ⟨hscenario, ⟨line, hline, halike.text .girl none⟩, hrows⟩

end Storyline.Scenario
