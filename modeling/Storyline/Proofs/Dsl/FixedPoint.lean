import Storyline.Proofs.Dsl.RoundTrip

/-!
# Saving a script again

A script is saved, read and saved once more. Both saved scripts are the same exactly if each of
their statements is, and a statement is the same where its block is `Settled`: pauses are shorter
than a hundred hours, and the fields of a background neither end early nor mention a fade of their
own.
-/

namespace Storyline.Dsl

/-- What the statement of a block says, if it has one. -/
def said? (kind : BlockKind) : Option (List Char) :=
  (statement? kind).map fun text ↦ Text.trim text.toList

/-- A block whose statement stays the same when it is read and written again. -/
def Settled : BlockKind → Prop
  | .background cue => cue.Settled
  | .pause seconds => seconds < 360000
  | .episode _ | .chapter _ | .line _ => True

/-- The statements of a saved script are those of its blocks. -/
theorem statementLines_render_eq {blocks : List Block} (h : ∀ block ∈ blocks, Unbroken block.kind) :
    Script.statementLines (render blocks).toList = (blocks.map (·.kind)).filterMap said? := by
  rw [statementLines_render h, List.map_filterMap, List.filterMap_map]
  rfl

/-! ### One block -/

/-- The statement of a background that a script can produce, with nothing to trim. -/
theorem said?_background {cue : Background} (h : cue.Sound) :
    said? (.background cue) = some (Statement.backgroundChars cue) := by
  have hne : cue.fadeOut.toList ≠ [] := by simpa using h.fadeOut.2
  rw [said?, statement?, Option.map_some,
    trim_backgroundStatement h.fadeOut.1.noBlankLast hne]

private theorem said?_pause (seconds : UInt32) :
    said? (.pause seconds) = some ("PauseLine: ".toList ++ Stamp.toChars seconds) := by
  rw [said?, statement?, Option.map_some, trim_pauseStatement]

/-- What comes back of a settled block that a script can produce is what the saved script can
carry of it. -/
theorem reread?_of_settled (lectors : List Lector) {kind : BlockKind} (hauthored : kind.Authored)
    (h : Settled kind) : reread? lectors kind = restored? lectors kind := by
  cases kind with
  | episode title => exact reread?_episode lectors title
  | chapter title => rw [reread?_chapter, hauthored.trimmed, String.ofList_toList, restored?]
  | background cue =>
    have hin : cue.fadeIn.toList ≠ [] := by simpa using hauthored.fadeIn.2
    have hout : cue.fadeOut.toList ≠ [] := by simpa using hauthored.fadeOut.2
    rw [reread?_background_eq lectors hauthored.fadeOut.1.noBlankLast hout,
      Statement.backgroundSample?_of_settled h hauthored.name hin hout]
    rfl
  | pause seconds => rw [reread?_pause, Stamp.mod_eq_of_lt h, restored?]
  | line line => rw [reread?_line lectors (legible_of_authored hauthored), restored?]

/-- The statement of what comes back of a block is that of the block only if the block is
settled. -/
theorem settled_of_said? {lectors : List Lector} {kind : BlockKind} (hauthored : kind.Authored)
    (h : (reread? lectors kind).bind said? = said? kind) : Settled kind := by
  cases kind with
  | background cue =>
    have hin : cue.fadeIn.toList ≠ [] := by simpa using hauthored.fadeIn.2
    have hout : cue.fadeOut.toList ≠ [] := by simpa using hauthored.fadeOut.2
    rw [reread?_background_eq lectors hauthored.fadeOut.1.noBlankLast hout] at h
    cases hfound : Statement.backgroundSample? (Statement.backgroundChars cue) with
    | none => simp [hfound, said?_background hauthored] at h
    | some found =>
      have hunbroken : '\n' ∉ Statement.backgroundChars cue := by
        have hchars : (backgroundStatement cue).toList = Statement.backgroundChars cue :=
          toList_backgroundStatement cue
        rw [← hchars]
        exact notMem_of_statement? (legible_of_authored hauthored).unbroken rfl
      have hsound := Statement.sound_of_backgroundSample? hunbroken hfound
      rw [hfound, Option.map_some, Option.bind_some, said?_background hsound,
        said?_background hauthored] at h
      exact Statement.settled_of_backgroundSample? hauthored.name hin hout hfound
        (Option.some.inj h)
  | pause seconds =>
    rw [reread?_pause, Option.bind_some, said?_pause, said?_pause, Option.some.injEq,
      List.append_cancel_left_eq] at h
    exact Stamp.toText_mod_eq_iff.1 (congrArg String.ofList h)
  | episode | chapter | line => trivial

/-- A block comes back with a statement if it has one. -/
theorem isSome_said?_reread? (lectors : List Lector) {kind : BlockKind}
    (hauthored : kind.Authored) :
    ((reread? lectors kind).bind said?).isSome = (said? kind).isSome := by
  have hsurvives := survives_reread? lectors hauthored
  have hsame : (said? kind).isSome = (reread? lectors kind).isSome := by simp [said?, reread?]
  rw [hsame]
  split at hsurvives
  · rw [hsurvives]
    rfl
  · obtain ⟨found, hfound, hkind⟩ := hsurvives
    rw [hfound, Option.bind_some]
    cases hkind with
    | @line line line' code tagged code_eq flag_eq =>
      have htag : line'.tag? = some code := by simp [Line.tag?, code_eq, Line.tag?_ne_empty tagged]
      simp [said?, statement?, lineStatement?, Line.markedCode?, htag]
    | _ => simp only [said?, statement?, Option.map_some, Option.isSome_some]

/-! ### Whole scripts -/

/-- Two functions that give values for the same elements of a list give the same values only if
they do so for each element. -/
private theorem eq_of_filterMap_eq {α β : Type} {f g : α → Option β} {l : List α}
    (hsome : ∀ a ∈ l, (f a).isSome = (g a).isSome) (h : l.filterMap f = l.filterMap g) :
    ∀ a ∈ l, f a = g a := by
  induction l with
  | nil => exact fun _ ha ↦ absurd ha List.not_mem_nil
  | cons a l ih =>
    rw [List.forall_mem_cons] at hsome ⊢
    rw [List.filterMap_cons, List.filterMap_cons] at h
    cases hf : f a with
    | none =>
      have hg : g a = none := by simpa [hf] using hsome.1
      rw [hf, hg] at h
      exact ⟨hg.symm, ih hsome.2 h⟩
    | some b =>
      obtain ⟨c, hg⟩ : ∃ c, g a = some c := by simpa [hf, Option.isSome_iff_exists] using hsome.1
      rw [hf, hg] at h
      obtain ⟨rfl, hrest⟩ := List.cons.inj h
      exact ⟨hg.symm, ih hsome.2 hrest⟩

/-- Saving a script, reading it and saving it once more gives the same saved script exactly if all
blocks of the script are settled. -/
theorem render_parse_render_iff (fresh fresh' : Nat → BlockId) (lectors lectors' : List Lector)
    (text : String) :
    let blocks := Script.parse fresh lectors text
    render (Script.parse fresh' lectors' (render blocks)) = render blocks ↔
      ∀ block ∈ blocks, Settled block.kind := by
  intro blocks
  have hauthored : ∀ kind ∈ blocks.map (·.kind), kind.Authored := by
    intro kind hkind
    rw [Script.map_kind_parse] at hkind
    exact Script.authored_of_mem_kinds hkind
  have hunbroken : ∀ block ∈ blocks, Unbroken block.kind := fun block hblock ↦
    (legible_of_authored (hauthored _ (List.mem_map_of_mem hblock))).unbroken
  have hfound : (Script.parse fresh' lectors' (render blocks)).map (·.kind) =
      (blocks.map (·.kind)).filterMap (reread? lectors') := by
    rw [Script.map_kind_parse, kinds_render_eq lectors' hunbroken, List.filterMap_map]
    rfl
  constructor
  · intro h block hblock
    have hfoundUnbroken : ∀ block ∈ Script.parse fresh' lectors' (render blocks),
        Unbroken block.kind := by
      intro block hblock
      have hkind := List.mem_map_of_mem (f := (·.kind)) hblock
      rw [Script.map_kind_parse] at hkind
      exact (legible_of_authored (Script.authored_of_mem_kinds hkind)).unbroken
    have hlines := congrArg (fun script ↦ Script.statementLines script.toList) h
    simp only [statementLines_render_eq hunbroken, statementLines_render_eq hfoundUnbroken, hfound,
      List.filterMap_filterMap] at hlines
    have hkind := List.mem_map_of_mem (f := (·.kind)) hblock
    exact settled_of_said? (hauthored _ hkind) (eq_of_filterMap_eq
      (fun kind hkind ↦ isSome_said?_reread? lectors' (hauthored kind hkind)) hlines _ hkind)
  · intro h
    have hrestored : (blocks.map (·.kind)).filterMap (reread? lectors') =
        blocks.filterMap fun block ↦ restored? lectors' block.kind := by
      rw [List.filterMap_map]
      exact List.filterMap_congr fun block hblock ↦ reread?_of_settled lectors'
        (hauthored _ (List.mem_map_of_mem hblock)) (h block hblock)
    have houtline : outline (Script.parse fresh' lectors' (render blocks)) = outline blocks :=
      entriesFrom_restored lectors' {} (hfound.trans hrestored)
    rw [render, houtline, render]

/-- The shorthand of a background may have a comma in the name, at which the name of the saved
background ends. -/
theorem render_parse_render_comma :
    let blocks := Script.parse .ofNat [] "Background: Wind, rain: 00:00:03"
    render (Script.parse .ofNat [] (render blocks)) ≠ render blocks := by
  decide

end Storyline.Dsl
