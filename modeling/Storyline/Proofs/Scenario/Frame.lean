import Mathlib.Data.List.Forall2
import Storyline.Proofs.Scenario.Reload

/-!
# What filling leaves alone

Filling a scenario into a story changes the lines that the scenario knows and nothing else, and
these it changes once: filled again, they stay as they are. In the saved script nothing can be seen
of it but the suffix of lines that became partner-specific.
-/

namespace Storyline

/-! ### Scripts line by line -/

namespace Dsl

/-- The lines of the script from blocks that follow inside `n`, each with the line of the story that
it is the statement of, if it is one. -/
def attributedFrom (n : Nesting) : List Block → List (Option Line × Entry)
  | [] => n.closeEpisode.map fun e ↦ (none, e)
  | block :: rest =>
    (entries n block.kind).map (fun e ↦ (block.line?, e)) ++
      attributedFrom (n.after block.kind) rest

/-- The lines of the saved script with the lines of the story that they are the statements of. -/
def attributed (blocks : List Block) : List (Option Line × Entry) := attributedFrom {} blocks

/-- The statement of a line with the suffix of partner-specific lines behind it. -/
def Entry.mark (e : Entry) : Entry := { e with text := e.text ++ Code.partnerSuffix }

private theorem map_snd_attributedFrom (n : Nesting) (blocks : List Block) :
    (attributedFrom n blocks).map Prod.snd = entriesFrom n blocks := by
  induction blocks generalizing n with
  | nil => simp [attributedFrom, entriesFrom, Function.comp_def]
  | cons block blocks ih => simp [attributedFrom, entriesFrom, ih, Function.comp_def]

/-- The saved script is made of these lines. -/
theorem render_eq_join_attributed (blocks : List Block) :
    render blocks = String.join ((attributed blocks).map fun (_, e) ↦ e.render) := by
  rw [render, outline, ← map_snd_attributedFrom, List.map_map]
  rfl

end Dsl

/-! ### Lines -/

/-- What an entry stores is filled in once. -/
theorem ScenarioEntry.fill_fill (entry : ScenarioEntry) (line : Line) :
    entry.fill (entry.fill line) = entry.fill line := by
  by_cases hlector : entry.lectorId = "" <;> simp [fill, hlector]

namespace Scenario

/-- The entry from which a line is filled, if the scenario knows the line. -/
def stored? (scenario : Scenario) (line : Line) : Option ScenarioEntry :=
  (key? line).bind (scenario[·]?)

/-- The scenario makes the line partner-specific. -/
def Marks (scenario : Scenario) (line : Line) : Prop :=
  line.partnerSpecific = false ∧ ∃ entry ∈ stored? scenario line, entry.partnerSpecific = true

instance (scenario : Scenario) : DecidablePred (Marks scenario) := fun line ↦
  inferInstanceAs (Decidable
    (line.partnerSpecific = false ∧ ∃ entry ∈ stored? scenario line, entry.partnerSpecific = true))

variable {scenario : Scenario} {line : Line}

private theorem fill_of_stored?_eq_none (h : stored? scenario line = none) :
    fill scenario line = line := by
  rw [stored?] at h
  rw [fill, h]

private theorem fill_of_stored?_eq_some {entry : ScenarioEntry}
    (h : stored? scenario line = some entry) :
    fill scenario line = entry.fill line := by
  rw [stored?] at h
  rw [fill, h]

/-- A line is known by its code. -/
theorem stored?_fill (scenario : Scenario) (line : Line) :
    stored? scenario (fill scenario line) = stored? scenario line := by
  rw [stored?, key?_eq_of_code (code_fill scenario line), stored?]

/-- A line that was filled stays as it is. -/
theorem fill_fill (scenario : Scenario) (line : Line) :
    fill scenario (fill scenario line) = fill scenario line := by
  cases hentry : stored? scenario line with
  | none => rw [fill_of_stored?_eq_none hentry, fill_of_stored?_eq_none hentry]
  | some entry =>
    have hagain := (stored?_fill scenario line).trans hentry
    rw [fill_of_stored?_eq_some hagain, fill_of_stored?_eq_some hentry, entry.fill_fill]

/-- No line loses its partner flag. -/
theorem partnerSpecific_fill (scenario : Scenario) (line : Line) :
    (fill scenario line).partnerSpecific =
      (line.partnerSpecific || decide (Marks scenario line)) := by
  cases hentry : stored? scenario line with
  | none => simp [fill_of_stored?_eq_none hentry, Marks, hentry]
  | some entry =>
    rw [fill_of_stored?_eq_some hentry, ScenarioEntry.fill]
    cases hflag : line.partnerSpecific <;> simp [Marks, hentry, hflag]

/-- The statement of a line that was filled is what it was, or the same with a suffix. -/
theorem lineStatement?_fill (scenario : Scenario) (line : Line) :
    Dsl.lineStatement? (fill scenario line) = (Dsl.lineStatement? line).map fun text ↦
      if Marks scenario line then text ++ Code.partnerSuffix else text := by
  have hcode := code_fill scenario line
  have hdynamic : (fill scenario line).IsDynamic ↔ line.IsDynamic := by
    rw [Line.IsDynamic, Line.IsDynamic, Line.kind?_eq_of_code hcode]
  rw [Dsl.lineStatement?, Dsl.lineStatement?, Line.markedCode?, Line.markedCode?,
    Line.tag?_eq_of_code hcode, partnerSpecific_fill, Option.map_map, Option.map_map,
    Option.map_map]
  congr 1
  funext code
  by_cases hmarks : Marks scenario line
  · simp [hdynamic, hmarks, hmarks.1, String.append_assoc]
  · simp [hdynamic, hmarks]

/-! ### Stories -/

/-- What filling leaves of a block, whatever the scenario knows. -/
structure Frame (scenario : Scenario) (block block' : Block) : Prop where
  /-- The identifier is the same. -/
  id : block'.id = block.id
  /-- The kind is the same. -/
  name : block'.kind.name = block.kind.name
  /-- A line has the same code. -/
  code : block'.line?.map (·.code) = block.line?.map (·.code)
  /-- A block without a line that the scenario knows is the same. -/
  unknown : (∀ line ∈ block.line?, ∀ key ∈ key? line, key ∉ scenario) → block' = block

private theorem frame_mapLine_fill (scenario : Scenario) (block : Block) :
    Frame scenario block (block.mapLine (fill scenario)) where
  id := rfl
  name := BlockKind.name_mapLine ..
  code := by
    rw [Block.line?, Block.mapLine, BlockKind.line?_mapLine, Option.map_map, Block.line?]
    exact congrArg (Option.map · _) (funext (code_fill scenario))
  unknown := by
    intro h
    obtain ⟨id, kind⟩ := block
    cases kind with
    | line line =>
      have hentry : stored? scenario line = none := by
        rw [stored?, Option.bind_eq_none_iff]
        exact fun key hkey ↦ Std.ExtTreeMap.getElem?_eq_none (h line rfl key hkey)
      rw [Block.mapLine, BlockKind.mapLine, fill_of_stored?_eq_none hentry]
    | _ => rfl

/-- The lines of the script of a story that was filled are those of before, with a suffix at lines
that the scenario makes partner-specific. -/
theorem entriesFrom_hydrate (scenario : Scenario) (n : Dsl.Nesting) (blocks : List Block) :
    Dsl.entriesFrom n (hydrate scenario blocks) =
      (Dsl.attributedFrom n blocks).map fun (line?, e) ↦
        if ∃ line ∈ line?, Marks scenario line then e.mark else e := by
  induction blocks generalizing n with
  | nil => simp [hydrate, Dsl.entriesFrom, Dsl.attributedFrom, Function.comp_def]
  | cons block blocks ih =>
    obtain ⟨id, kind⟩ := block
    have hrest : hydrate scenario (⟨id, kind⟩ :: blocks) =
        ⟨id, kind.mapLine (fill scenario)⟩ :: hydrate scenario blocks := rfl
    have hafter : n.after (kind.mapLine (fill scenario)) = n.after kind := by cases kind <;> rfl
    rw [hrest, Dsl.entriesFrom, Dsl.attributedFrom, List.map_append, hafter, ih]
    congr 1
    cases kind with
    | line line =>
      rw [BlockKind.mapLine, Dsl.entries, Dsl.entries, lineStatement?_fill]
      by_cases hmarks : Marks scenario line <;>
        cases Dsl.lineStatement? line <;>
        simp [Block.line?, BlockKind.line?, hmarks, Dsl.Entry.mark]
    | _ => simp [Block.line?, BlockKind.line?, BlockKind.mapLine, Function.comp_def]

/-- Filling a story again changes nothing. A story that was filled has the same blocks in the same
order, with the same codes; a block without a line that the scenario knows is the same altogether;
and the saved script has the same lines, but for a suffix behind the statements of lines that the
scenario makes partner-specific. -/
theorem hydrate_hydrate (scenario : Scenario) (blocks : List Block) :
    hydrate scenario (hydrate scenario blocks) = hydrate scenario blocks ∧
      List.Forall₂ (Frame scenario) blocks (hydrate scenario blocks) ∧
      Dsl.render blocks = String.join ((Dsl.attributed blocks).map fun (_, e) ↦ e.render) ∧
      Dsl.render (hydrate scenario blocks) =
        String.join ((Dsl.attributed blocks).map fun (line?, e) ↦
          (if ∃ line ∈ line?, Marks scenario line then e.mark else e).render) := by
  refine ⟨?_, ?_, Dsl.render_eq_join_attributed blocks, ?_⟩
  · rw [hydrate, hydrate, List.map_map]
    apply List.map_congr_left
    intro block _
    obtain ⟨id, kind⟩ := block
    cases kind with
    | line line => simp [Block.mapLine, BlockKind.mapLine, fill_fill]
    | _ => rfl
  · rw [hydrate, List.forall₂_map_right_iff, List.forall₂_same]
    exact fun block _ ↦ frame_mapLine_fill scenario block
  · rw [Dsl.render, Dsl.outline, entriesFrom_hydrate, List.map_map]
    rfl

end Scenario

end Storyline
