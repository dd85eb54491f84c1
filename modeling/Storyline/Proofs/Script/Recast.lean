import Mathlib.Data.List.Forall2
import Storyline.Dsl
import Storyline.Script

/-!
# Scripts of a recast story

Who the lectors of a story are decides who reads its lines. It also decides whether what stands in
front of a colon is a name or the start of the text, but the form in which a name stands without a
code is tried last, so nothing else depends on it. The same script read with other lectors has the
same blocks, but for the lectors of its lines and the texts of those without a code, and is saved as
the same canonical script.
-/

namespace Storyline

/-- A line and what becomes of it with other lectors: nothing else changes but, on a line without a
code, the text. -/
structure Line.Recast (line other : Line) : Prop where
  /-- All but the lector and the text is the same. -/
  rest : other = { line with lectorId := other.lectorId, content := other.content }
  /-- A line with a code keeps its text. -/
  content : line.code ≠ none → other.content = line.content

/-- A block and what becomes of it with other lectors. -/
inductive BlockKind.Recast : BlockKind → BlockKind → Prop where
  /-- What is no line stays as it is. -/
  | other {kind : BlockKind} (h : kind.line? = none) : Recast kind kind
  /-- A line stays a line. -/
  | line {line other : Line} (h : line.Recast other) : Recast (.line line) (.line other)

/-- A line without a code is free to change its text. -/
theorem BlockKind.recast_untagged (content content' : String) (id id' : Option String) :
    Recast (.line { content, lectorId := id }) (.line { content := content', lectorId := id' }) :=
  .line ⟨rfl, fun h ↦ absurd rfl h⟩

/-- What a line of a script says is assigned to lectors afterwards. -/
theorem Statement.recast_toKind (lectors lectors' : List Lector) (statement : Statement) :
    (statement.toKind lectors).Recast (statement.toKind lectors') := by
  cases statement with
  | episode | chapter | background | pause => exact .other rfl
  | coded line => exact .line ⟨rfl, fun _ ↦ rfl⟩
  | spoken role content whole =>
    -- either list of lectors may have one of this name
    simp only [toKind, narrationLine]
    split <;> split <;> exact BlockKind.recast_untagged ..
  | narration content => exact BlockKind.recast_untagged ..

private theorem Script.recast_kinds (lectors lectors' : List Lector) (text : String) :
    List.Forall₂ BlockKind.Recast (kinds lectors text) (kinds lectors' text) := by
  rw [kinds, kinds, List.forall₂_map_left_iff, List.forall₂_map_right_iff, List.forall₂_same]
  exact fun statement _ ↦ Statement.recast_toKind lectors lectors' statement

namespace Dsl

/-- The statement of a line says nothing of its lector and its text. -/
theorem lineStatement?_recast {line other : Line} (h : line.Recast other) :
    lineStatement? other = lineStatement? line := by
  rw [h.rest]
  rfl

/-- A block adds the same lines to the script with any lectors. -/
theorem entries_recast (n : Nesting) {kind other : BlockKind} (h : kind.Recast other) :
    entries n other = entries n kind ∧ n.after other = n.after kind := by
  cases h with
  | other => exact ⟨rfl, rfl⟩
  | line h => exact ⟨by rw [entries, entries, lineStatement?_recast h], rfl⟩

/-- Blocks add the same lines to the script with any lectors. -/
theorem entriesFrom_recast {blocks others : List Block}
    (h : List.Forall₂ (fun block other ↦ block.kind.Recast other.kind) blocks others)
    (n : Nesting) : entriesFrom n others = entriesFrom n blocks := by
  induction h generalizing n with
  | nil => rfl
  | cons hkind _ ih =>
    obtain ⟨hentries, hafter⟩ := entries_recast n hkind
    rw [entriesFrom, entriesFrom, hentries, hafter, ih]

end Dsl

/-- Blocks of a script correspond to each other, place by place, whatever the lectors are, and are
saved as the same script. -/
theorem Script.recast_parse (fresh fresh' : Nat → BlockId) (lectors lectors' : List Lector)
    (text : String) :
    let blocks := parse fresh lectors text
    let others := parse fresh' lectors' text
    List.Forall₂ (fun block other ↦ block.kind.Recast other.kind) blocks others ∧
      Dsl.render others = Dsl.render blocks := by
  intro blocks others
  have hblocks : List.Forall₂ (fun block other ↦ block.kind.Recast other.kind) blocks others := by
    have hkinds := recast_kinds lectors lectors' text
    rwa [← map_kind_parse fresh, ← map_kind_parse fresh', List.forall₂_map_left_iff,
      List.forall₂_map_right_iff] at hkinds
  refine ⟨hblocks, ?_⟩
  rw [Dsl.render, Dsl.render, Dsl.outline, Dsl.outline, Dsl.entriesFrom_recast hblocks]

end Storyline
