import Storyline.Proofs.Repeats
import Storyline.Proofs.Scenario.Hydrate

/-!
# The scenario of a story in parts

The first line of a key gives its entry. So the scenario of two parts of a story is that of the
first part, with what the second has under further keys; every other line that would have an entry
raises a warning. Static lines come under keys of their own, and where no two lines share a key,
their order does not matter.
-/

namespace Storyline.Scenario

variable {lectors : List Lector} {includeStatic : Bool} {blocks : List Block} {key : String}

/-! ### Keys -/

/-- Every line that has an entry is included under its key. -/
theorem length_included (includeStatic : Bool) (blocks : List Block) :
    (included includeStatic blocks).length = (exported includeStatic blocks).length := by
  have hlength := congrArg List.length (map_some_fst_included includeStatic blocks)
  simpa only [List.length_map] using hlength

/-- The scenario of a story has the keys of the lines that have an entry. -/
theorem mem_ofBlocks_iff :
    key ∈ ofBlocks lectors includeStatic blocks ↔
      key ∈ (included includeStatic blocks).map Prod.fst := by
  rw [Std.ExtTreeMap.mem_iff_isSome_getElem?, getElem?_ofBlocks, Option.isSome_map]
  constructor
  · intro h
    obtain ⟨line, hline⟩ := Option.isSome_iff_exists.1 h
    exact List.mem_map_of_mem (mem_of_lookup hline)
  · intro h
    obtain ⟨⟨_, line⟩, hline, rfl⟩ := List.mem_map.1 h
    rw [Option.isSome_iff_ne_none, ne_eq, List.lookup_eq_none_iff]
    exact fun hnone ↦ by simpa using hnone _ hline

/-- There are as many entries as there are different keys. -/
theorem size_ofBlocks (lectors : List Lector) (includeStatic : Bool) (blocks : List Block) :
    (ofBlocks lectors includeStatic blocks).size =
      ((included includeStatic blocks).map Prod.fst).toFinset.card := by
  rw [← Std.ExtTreeMap.length_keys, ← List.toFinset_card_of_nodup Std.ExtTreeMap.nodup_keys]
  congr 1
  ext key
  rw [List.mem_toFinset, List.mem_toFinset, Std.ExtTreeMap.mem_keys, mem_ofBlocks_iff]

/-- A line that could have an entry either has the entry of its key or raises a warning. -/
theorem length_duplicates_add_size (lectors : List Lector) (includeStatic : Bool)
    (blocks : List Block) :
    (duplicates includeStatic blocks).length + (ofBlocks lectors includeStatic blocks).size =
      (exported includeStatic blocks).length := by
  rw [duplicates, List.length_map, size_ofBlocks, length_repeats_add_card, length_included]

/-! ### Two parts -/

private theorem included_append (includeStatic : Bool) (blocks others : List Block) :
    included includeStatic (blocks ++ others) =
      included includeStatic blocks ++ included includeStatic others := by
  rw [included, Block.lines_append, List.filter_append, List.filterMap_append]
  rfl

private theorem getElem?_ofBlocks_append (lectors : List Lector) (includeStatic : Bool)
    (blocks others : List Block) (key : String) :
    (ofBlocks lectors includeStatic (blocks ++ others))[key]? =
      (ofBlocks lectors includeStatic blocks)[key]?.or
        (ofBlocks lectors includeStatic others)[key]? := by
  rw [getElem?_ofBlocks, getElem?_ofBlocks, getElem?_ofBlocks, included_append, List.lookup_append,
    Option.map_or]

/-! ### Static lines -/

/-- Under the key of a dynamic line no static line is found. -/
theorem lookup_included_false (blocks : List Block) (key : String) :
    (included false blocks).lookup key =
      if key.toList.head? = some 'Z' then (included true blocks).lookup key else none := by
  rw [included, included, lookup_filterMap_key?, lookup_filterMap_key?, List.find?_filter,
    List.find?_filter]
  by_cases hdynamic : key.toList.head? = some 'Z'
  · have hkind := Code.kind?_eq_some_dynamic_iff.2 hdynamic
    rw [if_pos hdynamic]
    congr 1
    funext line
    by_cases hkey : key? line = some key
    · simp [hkey, isIncluded, kind?_of_key? hkey, hkind]
    · simp [hkey]
  · rw [if_neg hdynamic, List.find?_eq_none]
    intro line _ hline
    obtain ⟨hincluded, hkey⟩ : isIncluded false line = true ∧ key? line = some key := by
      simpa using hline
    have hkind := kind?_of_key? hkey
    rw [isIncluded, hkind] at hincluded
    split at hincluded
    · next h => exact hdynamic (Code.kind?_eq_some_dynamic_iff.1 h)
    · exact Bool.false_ne_true hincluded
    · exact Bool.false_ne_true hincluded

/-- Without static lines, a scenario has the entries whose keys start with the letter of dynamic
lines. -/
theorem ofBlocks_false (lectors : List Lector) (blocks : List Block) :
    ofBlocks lectors false blocks =
      (ofBlocks lectors true blocks).filter fun key _ ↦ key.toList.head? = some 'Z' := by
  apply Std.ExtTreeMap.ext_getElem?
  intro key
  rw [Std.ExtTreeMap.getElem?_filter', getElem?_ofBlocks, getElem?_ofBlocks, lookup_included_false]
  cases (included true blocks).lookup key with
  | none => simp
  | some line =>
    by_cases hdynamic : key.toList.head? = some 'Z' <;> simp [hdynamic, Option.filter]

/-! ### Order -/

/-- Moving blocks moves the lines that have an entry. -/
theorem perm_included {moved : List Block} (h : moved.Perm blocks) (includeStatic : Bool) :
    (included includeStatic moved).Perm (included includeStatic blocks) :=
  ((h.filterMap Block.line?).filter _).filterMap _

/-- Where no two lines that have an entry share a key, moving blocks does not change the
scenario. -/
theorem ofBlocks_perm {moved : List Block} (h : moved.Perm blocks)
    (hkeys : ((included includeStatic blocks).map Prod.fst).Nodup) :
    ofBlocks lectors includeStatic moved = ofBlocks lectors includeStatic blocks := by
  have hperm := perm_included h includeStatic
  have hkeysMoved : ((included includeStatic moved).map Prod.fst).Nodup :=
    (hperm.map Prod.fst).nodup_iff.2 hkeys
  apply Std.ExtTreeMap.ext_getElem?
  intro key
  apply Option.ext
  intro entry
  rw [getElem?_ofBlocks_eq_some_iff hkeysMoved, getElem?_ofBlocks_eq_some_iff hkeys]
  exact exists_congr fun line ↦ and_congr_left fun _ ↦ hperm.mem_iff

/-- The scenario of two parts of a story has the entries of the first part, and under further keys
those of the second. There are as many warnings as lines that could have an entry and have none.
Without static lines it has the entries whose keys start with the letter of dynamic lines, and where
no two of the lines share a key, moving blocks does not change it. -/
theorem ofBlocks_append (lectors : List Lector) (includeStatic : Bool)
    (blocks others : List Block) :
    (∀ key : String, (ofBlocks lectors includeStatic (blocks ++ others))[key]? =
      (ofBlocks lectors includeStatic blocks)[key]?.or
        (ofBlocks lectors includeStatic others)[key]?) ∧
    (duplicates includeStatic blocks).length + (ofBlocks lectors includeStatic blocks).size =
      (exported includeStatic blocks).length ∧
    ofBlocks lectors false blocks =
      (ofBlocks lectors true blocks).filter (fun key _ ↦ key.toList.head? = some 'Z') ∧
    (((exported includeStatic blocks).map key?).Nodup → ∀ moved : List Block, moved.Perm blocks →
      ofBlocks lectors includeStatic moved = ofBlocks lectors includeStatic blocks) := by
  refine ⟨getElem?_ofBlocks_append lectors includeStatic blocks others,
    length_duplicates_add_size lectors includeStatic blocks, ofBlocks_false lectors blocks, ?_⟩
  intro hkeys moved hmoved
  rw [← map_some_fst_included] at hkeys
  exact ofBlocks_perm hmoved (hkeys.of_map some)

/-- A suffix is no part of a key, so the second line raises a warning; and a story without it can be
told from its end. -/
theorem ofBlocks_append_suffix :
    let first : Block := ⟨.ofNat 1, .line { content := "Hi!", code := some "Z1[Slug]" }⟩
    let second : Block := ⟨.ofNat 2, .line { content := "Hey!", code := some "Z1" }⟩
    let last : Block := ⟨.ofNat 3, .line { content := "Hush.", code := some "S2" }⟩
    (ofBlocks [] true [first, second])["Z1"]? = (ofBlocks [] true [first])["Z1"]? ∧
      (duplicates true [first, second]).length = 1 ∧
      ofBlocks [] false [first, last] =
        (ofBlocks [] true [first, last]).filter (fun key _ ↦ key.toList.head? = some 'Z') ∧
      ofBlocks [] true [last, first] = ofBlocks [] true [first, last] := by
  intro first second last
  obtain ⟨hunion, -, -, -⟩ := ofBlocks_append [] true [first] [second]
  obtain ⟨-, hcount, -, -⟩ := ofBlocks_append [] true [first, second] []
  obtain ⟨-, -, hdynamic, hmove⟩ := ofBlocks_append [] true [first, last] []
  have hfirst : ((ofBlocks [] true [first])["Z1"]?).isSome = true := by decide
  have hsize : (ofBlocks [] true [first, second]).size = 1 := by decide
  have hexported : (exported true [first, second]).length = 2 := by decide
  refine ⟨?_, by omega, hdynamic, hmove (by decide) _ (List.Perm.swap ..)⟩
  rw [← List.singleton_append, hunion, Option.or_of_isSome hfirst]

end Storyline.Scenario
