import Storyline.Proofs.Scenario.Reload
import Storyline.Proofs.Sql.Row

/-!
# The database and the scenario agree

The script of the dynamic lines and the scenario are made from the blocks independently. Where no
two dynamic lines share a key, the rows of the script are those of the entries of the scenario.
-/

namespace Storyline.Sql

variable {lectors : List Lector} {blocks : List Block}

/-- The lines with an entry are the dynamic lines, if static lines are not asked for. -/
theorem exported_eq_dynamicOf (blocks : List Block) :
    Scenario.exported false blocks = dynamicOf blocks := by
  apply List.filter_congr
  intro line _
  rw [Scenario.isIncluded, Bool.eq_iff_iff, decide_eq_true_iff, Line.IsDynamic]
  cases line.kind? with
  | none => simp
  | some kind => cases kind <;> simp

/-- The entries of the dynamic lines under their keys, in the order of the lines. -/
def entries (lectors : List Lector) (blocks : List Block) : List (String × ScenarioEntry) :=
  (Scenario.included false blocks).map fun (key, line) ↦ (key, ScenarioEntry.ofLine lectors line)

/-- The rows of an entry, a boy's before a girl's. There is no voice where there are no lectors. -/
def entryRows (story : Story) (lectors : List Lector) (key : String) (entry : ScenarioEntry) :
    List Row :=
  let voice := if lectors = [] then "NULL" else voiceSelect (literal entry.voiceId)
  [Row.ofLine story key entry.texts.boy voice "He",
    Row.ofLine story key entry.texts.girl voice "She"]

/-- The rows of a line are those of its entry. -/
theorem entryRows_ofLine (story : Story) {line : Line} {key : String}
    (hkey : Scenario.key? line = some key) :
    entryRows story lectors key (ScenarioEntry.ofLine lectors line) =
      Gender.all.map (lineRow story lectors line) := by
  have hvoice : (if lectors = [] then "NULL"
      else voiceSelect (literal (ScenarioEntry.ofLine lectors line).voiceId)) =
        voiceText (Lector.effective? lectors line.lectorId) := by
    -- only a story without lectors leaves a line without one
    cases heffective : Lector.effective? lectors line.lectorId with
    | none => rw [if_pos (Lector.effective?_eq_none_iff.1 heffective), voiceText]
    | some lector =>
      have hne : lectors ≠ [] := by
        rintro rfl
        rw [Lector.effective?_eq_none_iff.2 rfl] at heffective
        contradiction
      rw [if_neg hne, ScenarioEntry.ofLine, heffective]
      rfl
  rw [entryRows, hvoice]
  rw [Scenario.key?] at hkey
  simp [Gender.all, lineRow, hkey, genderName, ScenarioEntry.ofLine, Line.texts]

/-- Every dynamic line has a key, under which its entry is built. -/
theorem included_eq (blocks : List Block) :
    Scenario.included false blocks =
      (dynamicOf blocks).map fun line ↦ ((Scenario.key? line).getD "", line) := by
  rw [Scenario.included, ← exported_eq_dynamicOf, ← List.filterMap_eq_map]
  apply List.filterMap_congr
  intro line hline
  obtain ⟨key, hkey⟩ := Scenario.exists_key?_of_mem_exported hline
  rw [hkey, Function.comp_apply, hkey]
  rfl

/-- The keys of the entries are those of the dynamic lines. -/
theorem map_key_entries (lectors : List Lector) (blocks : List Block) :
    (entries lectors blocks).map (fun entry ↦ some entry.1) =
      (dynamicOf blocks).map Scenario.key? := by
  rw [← exported_eq_dynamicOf, ← Scenario.map_some_fst_included, entries, List.map_map,
    List.map_map]
  rfl

/-- The rows of the entries are those of the dynamic lines. -/
theorem flatMap_entryRows (story : Story) (lectors : List Lector) (blocks : List Block) :
    ((entries lectors blocks).flatMap fun (key, entry) ↦ entryRows story lectors key entry) =
      (dynamicOf blocks).flatMap fun line ↦ Gender.all.map (lineRow story lectors line) := by
  rw [entries, included_eq, List.map_map, List.flatMap_map]
  apply List.flatMap_congr
  intro line hline
  rw [← exported_eq_dynamicOf] at hline
  obtain ⟨key, hkey⟩ := Scenario.exists_key?_of_mem_exported hline
  rw [Function.comp_apply, hkey]
  exact entryRows_ofLine story hkey

/-- Where no two dynamic lines share a key, the scenario has the entries under their keys. -/
theorem mem_entries_iff (h : ((dynamicOf blocks).map Scenario.key?).Nodup) {key : String}
    {entry : ScenarioEntry} :
    (key, entry) ∈ entries lectors blocks ↔
      (Scenario.ofBlocks lectors false blocks)[key]? = some entry := by
  have hkeys : ((Scenario.included false blocks).map Prod.fst).Nodup := by
    rw [← map_key_entries lectors, entries, List.map_map] at h
    apply List.Nodup.of_map some
    rwa [List.map_map]
  rw [Scenario.getElem?_ofBlocks_eq_some_iff hkeys, entries, List.mem_map]
  constructor
  · rintro ⟨⟨k, line⟩, hline, ⟨⟩⟩
    exact ⟨line, hline, rfl⟩
  · rintro ⟨line, hline, rfl⟩
    exact ⟨(key, line), hline, rfl⟩

/-- Where no two dynamic lines share a key, the entries are all that the scenario has. -/
theorem perm_toList_ofBlocks (h : ((dynamicOf blocks).map Scenario.key?).Nodup) :
    (entries lectors blocks).Perm (Scenario.ofBlocks lectors false blocks).toList := by
  have hentries : (entries lectors blocks).Nodup := by
    rw [← map_key_entries lectors] at h
    exact List.Nodup.of_map _ h
  have htable : (Scenario.ofBlocks lectors false blocks).toList.Nodup := by
    have hkeys : (Scenario.ofBlocks lectors false blocks).toList.Pairwise fun a b ↦
        ¬ compare a.1 b.1 = .eq := Std.ExtTreeMap.distinct_keys_toList
    apply hkeys.imp
    rintro a b hne rfl
    exact hne Std.ReflCmp.compare_self
  rw [List.perm_ext_iff_of_nodup hentries htable]
  rintro ⟨key, entry⟩
  rw [mem_entries_iff h, Std.ExtTreeMap.mem_toList_iff_getElem?_eq_some]

/-- Where no two dynamic lines share a key, the scenario has exactly one entry for each of them, and
the script of the dynamic lines has two rows for each entry, in the order of the lines. -/
theorem render_dynamicLines_of_scenario (story : Story) (lectors : List Lector)
    (blocks : List Block) (h : ((dynamicOf blocks).map Scenario.key?).Nodup) :
    let scenario := Scenario.ofBlocks lectors false blocks
    ∃ entries : List (String × ScenarioEntry),
      entries.map (fun entry ↦ some entry.1) = (dynamicOf blocks).map Scenario.key? ∧
      entries.Perm scenario.toList ∧
      (∀ key entry, (key, entry) ∈ entries → scenario[key]? = some entry) ∧
      (dynamicLines story lectors blocks).render =
        scriptText "dynamic_lines" story.title "-- no dynamic lines\n"
          (entries.flatMap fun (key, entry) ↦ entryRows story lectors key entry) := by
  intro scenario
  refine ⟨entries lectors blocks, map_key_entries lectors blocks, perm_toList_ofBlocks h,
    fun _ _ ↦ (mem_entries_iff h).1, ?_⟩
  rw [render_dynamicLines, flatMap_entryRows]

/-- The codes of two dynamic lines, one of them with a suffix, are two keys. -/
theorem render_dynamicLines_of_scenario_suffix :
    let story : Story := { title := "Harbor", code := "harbor" }
    let lectors : List Lector := [⟨"n", "Narrator", "v1"⟩, ⟨"f", "Fox", "v2"⟩]
    let blocks : List Block :=
      [⟨.ofNat 1, .line { content := "Hi!", code := some "Z2", lectorId := some "f" }⟩,
        ⟨.ofNat 2, .line { content := "Hush.", code := some "S1" }⟩,
        ⟨.ofNat 3, .line { content := "Bye!", code := some "Z1[a]" }⟩]
    ((dynamicOf blocks).map Scenario.key?).Nodup ∧
    ∃ entries : List (String × ScenarioEntry),
      entries.map (fun entry ↦ some entry.1) = [some "Z2", some "Z1"] ∧
      entries.Perm (Scenario.ofBlocks lectors false blocks).toList ∧
      (dynamicLines story lectors blocks).render =
        scriptText "dynamic_lines" "Harbor" "-- no dynamic lines\n"
          (entries.flatMap fun (key, entry) ↦ entryRows story lectors key entry) := by
  intro story lectors blocks
  have hkeys : (dynamicOf blocks).map Scenario.key? = [some "Z2", some "Z1"] := by decide
  have hnodup : ((dynamicOf blocks).map Scenario.key?).Nodup := by
    rw [hkeys]
    decide
  obtain ⟨entries, hentries, hperm, -, hrender⟩ :=
    render_dynamicLines_of_scenario story lectors blocks hnodup
  exact ⟨hnodup, entries, hentries.trans hkeys, hperm, hrender⟩

end Storyline.Sql
