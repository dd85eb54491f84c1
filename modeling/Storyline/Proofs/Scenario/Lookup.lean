import Storyline.Scenario

/-!
# What a scenario has under a key

Of several lines with one key the first counts, and so the scenario of a story has under each key
the entry of the first included line of that key. If no two of them share a key, every included
line finds its own entry.
-/

namespace Storyline.Scenario

variable {lectors : List Lector} {includeStatic : Bool} {blocks : List Block} {line : Line}
  {key : String}

/-- Changing the values of a list of entries changes what is found under a key. -/
theorem lookup_map_snd {α β : Type} (f : α → β) (entries : List (String × α)) (key : String) :
    (entries.map fun (k, a) ↦ (k, f a)).lookup key = (entries.lookup key).map f := by
  induction entries with
  | nil => rfl
  | cons entry entries ih =>
    rw [List.map_cons, List.lookup_cons, List.lookup_cons, ih]
    split <;> rfl

/-- What is found under a key stands in the list under this key. -/
theorem mem_of_lookup {α : Type} {entries : List (String × α)} {key : String} {a : α}
    (h : entries.lookup key = some a) : (key, a) ∈ entries := by
  obtain ⟨front, back, rfl, -⟩ := List.lookup_eq_some_iff.1 h
  exact List.mem_append_right front List.mem_cons_self

private theorem getElem?_foldl_insertIfNew (entries : List (String × Line)) (scenario : Scenario)
    (key : String) :
    (entries.foldl (fun scenario (key, line) ↦
        scenario.insertIfNew key (ScenarioEntry.ofLine lectors line)) scenario)[key]? =
      scenario[key]?.or ((entries.lookup key).map (ScenarioEntry.ofLine lectors)) := by
  induction entries generalizing scenario with
  | nil => rw [List.foldl_nil, List.lookup_nil, Option.map_none, Option.or_none]
  | cons entry entries ih =>
    obtain ⟨k, line⟩ := entry
    rw [List.foldl_cons, ih, Std.ExtTreeMap.getElem?_insertIfNew, List.lookup_cons]
    by_cases hk : key = k
    · subst hk
      by_cases hmem : key ∈ scenario
      · rw [if_neg (by simp [hmem]), beq_self_eq_true]
        obtain ⟨entry, hentry⟩ :=
          Option.isSome_iff_exists.1 (Std.ExtTreeMap.mem_iff_isSome_getElem?.1 hmem)
        rw [hentry, Option.some_or, Option.some_or]
      · rw [if_pos ⟨Std.ReflCmp.compare_self, hmem⟩, beq_self_eq_true,
          Std.ExtTreeMap.getElem?_eq_none hmem]
        rfl
    · have hcompare : ¬ compare k key = .eq := fun h ↦ hk (Std.LawfulEqCmp.eq_of_compare h).symm
      rw [if_neg fun h ↦ hcompare h.1, beq_false_of_ne hk]

/-- A scenario has under a key the entry of the first included line of that key. -/
theorem getElem?_ofBlocks (lectors : List Lector) (includeStatic : Bool) (blocks : List Block)
    (key : String) :
    (ofBlocks lectors includeStatic blocks)[key]? =
      ((included includeStatic blocks).lookup key).map (ScenarioEntry.ofLine lectors) := by
  rw [ofBlocks, getElem?_foldl_insertIfNew, Std.ExtTreeMap.getElem?_empty, Option.none_or]

/-- The lines that are included are those of a kind that is asked for, under their keys. -/
theorem mem_included_iff :
    (key, line) ∈ included includeStatic blocks ↔
      line ∈ (Block.lines blocks).filter (isIncluded includeStatic) ∧ key? line = some key := by
  simp only [included, List.mem_filterMap, Option.map_eq_some_iff, Prod.mk.injEq]
  constructor
  · rintro ⟨found, hfound, k, hk, rfl, rfl⟩
    exact ⟨hfound, hk⟩
  · rintro ⟨hline, hkey⟩
    exact ⟨line, hline, key, hkey, rfl, rfl⟩

/-- Where keys are not shared, a line is found under its key. -/
theorem lookup_included (h : ((included includeStatic blocks).map Prod.fst).Nodup)
    (hline : (key, line) ∈ included includeStatic blocks) :
    (included includeStatic blocks).lookup key = some line := by
  obtain ⟨front, back, hsplit⟩ := List.append_of_mem hline
  rw [hsplit, List.map_append, List.map_cons] at h
  refine List.lookup_eq_some_iff.2 ⟨front, back, hsplit, ?_⟩
  intro entry hentry
  have hapart := (List.nodup_append.1 h).2.2 entry.1 (List.mem_map_of_mem hentry) key
    List.mem_cons_self
  exact bne_iff_ne.2 hapart.symm

/-- Where keys are not shared, the entries are those of the lines that are included. -/
theorem getElem?_ofBlocks_eq_some_iff
    (h : ((included includeStatic blocks).map Prod.fst).Nodup) {entry : ScenarioEntry} :
    (ofBlocks lectors includeStatic blocks)[key]? = some entry ↔
      ∃ line, (key, line) ∈ included includeStatic blocks ∧
        ScenarioEntry.ofLine lectors line = entry := by
  rw [getElem?_ofBlocks, Option.map_eq_some_iff]
  exact exists_congr fun line ↦ and_congr_left fun _ ↦ ⟨mem_of_lookup, lookup_included h⟩

end Storyline.Scenario
