import Storyline.Proofs.Code
import Storyline.Proofs.Finding.Criteria
import Storyline.Proofs.Sql.Agreement
import Storyline.Proofs.Sql.Reader

/-!
# Without findings on codes nothing is lost

A code is looked at in three ways: findings compare codes as they are, the scenario and the database
use them without a suffix, and the first letter alone makes a line dynamic. On well-formed codes the
three agree. So where no code is malformed or repeated, every line with a code that is exported has
an entry and rows of its own.
-/

namespace Storyline

namespace Scenario

variable {lectors : List Lector} {includeStatic : Bool} {blocks : List Block} {line : Line}
  {key : String}

private theorem wellFormed_of_tag? (hformed : ∀ code ∈ Dsl.codes blocks, Code.WellFormed code)
    (hline : line ∈ Block.lines blocks) {code : String} (htag : line.tag? = some code) :
    Code.WellFormed code :=
  hformed code (List.mem_filterMap.2 ⟨line, hline, htag⟩)

/-- Where codes are well formed, they are the keys of their lines. -/
theorem key?_eq_tag? (hformed : ∀ code ∈ Dsl.codes blocks, Code.WellFormed code)
    (hline : line ∈ Block.lines blocks) : key? line = line.tag? := by
  rw [key?]
  cases htag : line.tag? with
  | none => rfl
  | some code => rw [Option.map_some, (wellFormed_of_tag? hformed hline htag).base_eq]

/-- Where codes are well formed, the lines that are included are those with a code that are dynamic,
or all if static lines are asked for, and their codes are their keys. -/
theorem mem_included_iff_of_wellFormed
    (hformed : ∀ code ∈ Dsl.codes blocks, Code.WellFormed code) :
    (key, line) ∈ included includeStatic blocks ↔
      line ∈ Block.lines blocks ∧ line.tag? = some key ∧
        (line.IsDynamic ∨ includeStatic = true) := by
  rw [mem_included_iff, List.mem_filter, and_assoc]
  refine and_congr_right fun hline ↦ ?_
  rw [key?_eq_tag? hformed hline, and_comm]
  refine and_congr_right fun htag ↦ ?_
  obtain ⟨kind, hkind⟩ := (wellFormed_of_tag? hformed hline htag).exists_kind?
  rw [isIncluded, Line.IsDynamic, Line.kind?, htag, Option.bind_some, hkind]
  cases kind <;> simp

/-- Where codes are distinct as well, no two of the lines that are included share a key. -/
theorem nodup_keys_of_wellFormed (hformed : ∀ code ∈ Dsl.codes blocks, Code.WellFormed code)
    (hnodup : (Dsl.codes blocks).Nodup) :
    ((included includeStatic blocks).map Prod.fst).Nodup := by
  have hkeys : (included includeStatic blocks).map Prod.fst =
      (exported includeStatic blocks).filterMap Line.tag? := by
    rw [included, List.map_filterMap]
    apply List.filterMap_congr
    intro line hline
    rw [Option.map_map, key?_eq_tag? hformed (List.mem_filter.1 hline).1]
    exact Option.map_id'
  rw [hkeys]
  exact hnodup.sublist (List.filter_sublist.filterMap Line.tag?)

end Scenario

/-- Where codes are distinct, a line is the only one with its code. -/
theorem Dsl.filter_tag?_eq_singleton {blocks : List Block} (hnodup : (codes blocks).Nodup)
    {line : Line} (hline : line ∈ Block.lines blocks) {code : String}
    (htag : line.tag? = some code) :
    (Block.lines blocks).filter (·.tag? = some code) = [line] := by
  obtain ⟨front, back, hsplit⟩ := List.append_of_mem hline
  rw [codes, hsplit, List.filterMap_append, List.filterMap_cons_some htag,
    List.nodup_append, List.nodup_cons] at hnodup
  obtain ⟨-, ⟨hback, -⟩, hfront⟩ := hnodup
  have hnone : ∀ other, (other ∈ front ∨ other ∈ back) → other.tag? ≠ some code := by
    rintro other (hother | hother) hcode
    · exact hfront code (List.mem_filterMap.2 ⟨other, hother, hcode⟩) code List.mem_cons_self rfl
    · exact hback (List.mem_filterMap.2 ⟨other, hother, hcode⟩)
  have hempty : ∀ others : List Line, (∀ other ∈ others, other ∈ front ∨ other ∈ back) →
      others.filter (·.tag? = some code) = [] := by
    intro others hothers
    rw [List.filter_eq_nil_iff]
    intro other hother
    simpa using hnone other (hothers other hother)
  rw [hsplit, List.filter_append, hempty front fun _ ↦ Or.inl, List.filter_cons_of_pos (by simpa),
    hempty back fun _ ↦ Or.inr, List.nil_append]

namespace Sql

variable {lectors : List Lector} {blocks : List Block}

/-- What tells rows of dynamic lines apart: the code and the gender. -/
def Row.lineKey (row : Row) : Option String × Option String :=
  (row.get? "code", row.get? "gender")

/-- Where no two dynamic lines share a key, no two rows have the same code and gender. -/
theorem nodup_lineKey (story : Story) (h : ((dynamicOf blocks).map Scenario.key?).Nodup) :
    (((dynamicOf blocks).flatMap fun line ↦
      Gender.all.map (lineRow story lectors line)).map Row.lineKey).Nodup := by
  have hkey : ∀ line g, (lineRow story lectors line g).lineKey =
      (some (literal ((Scenario.key? line).getD "")), some (literal (genderName g))) :=
    fun line g ↦ rfl
  rw [List.map_flatMap, List.nodup_flatMap]
  constructor
  · intro line _
    have hgender : literal "He" ≠ literal "She" := literal_injective.ne (by decide)
    simp [Gender.all, hkey, genderName, hgender]
  · refine (List.pairwise_map.1 h).imp_of_mem fun {line line'} hline hline' hne ↦ ?_
    rw [← exported_eq_dynamicOf] at hline hline'
    obtain ⟨code, hcode⟩ := Scenario.exists_key?_of_mem_exported hline
    obtain ⟨code', hcode'⟩ := Scenario.exists_key?_of_mem_exported hline'
    rintro found hfound hfound'
    simp only [List.map_map, List.mem_map, Function.comp_apply, hkey, hcode, hcode',
      Option.getD_some] at hfound hfound'
    obtain ⟨g, -, rfl⟩ := hfound
    obtain ⟨g', -, hsame⟩ := hfound'
    have hcodes : code' = code :=
      literal_injective (Option.some.inj (congrArg Prod.fst hsame))
    exact hne (by rw [hcode, hcode', hcodes])

end Sql

namespace Scenario

variable {lectors : List Lector} {blocks : List Block}

/-- Where findings see no malformed and no repeated code, a scenario keeps out no line, has the
codes of the exported lines as its keys, and has under each of them the entry of the only line with
that code. In the database no two rows of dynamic lines have the same code and gender. -/
theorem ofBlocks_of_sound_codes (lectors : List Lector) (blocks : List Block)
    (hformed : ∀ code, .malformedCode code ∉ findings lectors blocks)
    (hdistinct : ∀ code, .duplicateCode code ∉ findings lectors blocks)
    (includeStatic : Bool) (story : Story) :
    let scenario := ofBlocks lectors includeStatic blocks
    let rows := (Sql.dynamicOf blocks).flatMap fun line ↦
      Gender.all.map (Sql.lineRow story lectors line)
    duplicates includeStatic blocks = [] ∧
      (∀ key, key ∈ scenario ↔ ∃ line ∈ Block.lines blocks,
        line.tag? = some key ∧ (line.IsDynamic ∨ includeStatic = true)) ∧
      (∀ key entry, scenario[key]? = some entry → ∃ line,
        (Block.lines blocks).filter (·.tag? = some key) = [line] ∧
          ScenarioEntry.ofLine lectors line = entry) ∧
      (Sql.dynamicLines story lectors blocks).render =
        Sql.scriptText "dynamic_lines" story.title "-- no dynamic lines\n" rows ∧
      (rows.map Sql.Row.lineKey).Nodup := by
  intro scenario rows
  rw [Finding.forall_malformedCode_notMem_iff] at hformed
  rw [Finding.forall_duplicateCode_notMem_iff] at hdistinct
  have hkeys : ((included includeStatic blocks).map Prod.fst).Nodup :=
    nodup_keys_of_wellFormed hformed hdistinct
  have hentry : ∀ {key entry}, scenario[key]? = some entry ↔ ∃ line,
      (line ∈ Block.lines blocks ∧ line.tag? = some key ∧
        (line.IsDynamic ∨ includeStatic = true)) ∧ ScenarioEntry.ofLine lectors line = entry := by
    intro key entry
    rw [getElem?_ofBlocks_eq_some_iff hkeys]
    simp only [mem_included_iff_of_wellFormed hformed]
  refine ⟨?_, fun key ↦ ?_, fun key entry h ↦ ?_, Sql.render_dynamicLines story lectors blocks, ?_⟩
  · rw [duplicates, repeats_eq_nil_iff.2 hkeys, List.map_nil]
  · rw [Std.ExtTreeMap.mem_iff_isSome_getElem?, Option.isSome_iff_exists]
    simp only [hentry]
    constructor
    · rintro ⟨_, line, ⟨hline, hfound⟩, -⟩
      exact ⟨line, hline, hfound⟩
    · rintro ⟨line, hline, hfound⟩
      exact ⟨_, line, ⟨hline, hfound⟩, rfl⟩
  · obtain ⟨line, ⟨hline, htag, -⟩, rfl⟩ := hentry.1 h
    exact ⟨line, Dsl.filter_tag?_eq_singleton hdistinct hline htag, rfl⟩
  · apply Sql.nodup_lineKey
    rw [← Sql.map_key_entries lectors, Sql.entries, List.map_map]
    have hdynamic : ((included false blocks).map Prod.fst).Nodup :=
      nodup_keys_of_wellFormed hformed hdistinct
    have hsome := hdynamic.map fun _ _ ↦ Option.some.inj
    rwa [List.map_map] at hsome

/-- Findings of other kinds do no harm: a line that names no lector of the story has its entry. -/
theorem ofBlocks_of_sound_codes_unknown_lector :
    let story : Story := { title := "Harbor", code := "harbor" }
    let lectors : List Lector := [⟨"n", "Narrator", "v1"⟩]
    let line : Line := { content := "Hi!", code := some "Z1", lectorId := some "nobody" }
    let blocks : List Block :=
      [⟨.ofNat 1, .line line⟩, ⟨.ofNat 2, .line { content := "Hush.", code := some "S1" }⟩,
        ⟨.ofNat 3, .line { content := "The wind rose." }⟩]
    let scenario := ofBlocks lectors true blocks
    findings lectors blocks = [.unknownLector "nobody" "Z1"] ∧
      duplicates true blocks = [] ∧ "S1" ∈ scenario ∧
      (∀ entry, scenario["Z1"]? = some entry → ScenarioEntry.ofLine lectors line = entry) ∧
      (((Sql.dynamicOf blocks).flatMap fun line ↦
        Gender.all.map (Sql.lineRow story lectors line)).map Sql.Row.lineKey).Nodup := by
  intro story lectors line blocks scenario
  have hfindings : findings lectors blocks = [.unknownLector "nobody" "Z1"] := by decide
  obtain ⟨hduplicates, hkeys, hentries, -, hrows⟩ := ofBlocks_of_sound_codes lectors blocks
    (by simp [hfindings]) (by simp [hfindings]) true story
  refine ⟨hfindings, hduplicates, (hkeys "S1").2 ?_, fun entry hentry ↦ ?_, hrows⟩
  · exact ⟨{ content := "Hush.", code := some "S1" }, by decide, by decide, Or.inr rfl⟩
  · obtain ⟨found, hfound, rfl⟩ := hentries "Z1" entry hentry
    have hline : (Block.lines blocks).filter (·.tag? = some "Z1") = [line] := by decide
    rw [hline] at hfound
    obtain ⟨rfl, -⟩ := List.cons.inj hfound
    rfl

end Scenario

end Storyline
