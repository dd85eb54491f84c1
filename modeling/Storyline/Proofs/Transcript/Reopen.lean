import Storyline.Proofs.Transcript.Cue
import Storyline.Proofs.Transcript.Reparse

/-!
# Opening a transcript again

An author opens a transcript, changes nothing and saves it. Whether it is the same afterwards can be
told block by block: episodes, chapters and pauses are always shown the same again. A line is, if no
statement of a line stands in its text, which would be read in place of the text, and if it has a
code or a lector: the name that is shown in a story without lectors is the name of nobody.
-/

namespace Storyline

/-- A line whose entry is read as a line that is shown the same. -/
structure Line.Stable (lectors : List Lector) (line : Line) : Prop where
  /-- No statement of a line goes before what the entry says. -/
  noSample : Statement.sampleLine? line.content.toList = none
  /-- Without a code, the name in front of the text is that of a lector. -/
  lector : line.code = none → lectors ≠ []

instance (lectors : List Lector) (line : Line) : Decidable (line.Stable lectors) :=
  decidable_of_iff
    (Statement.sampleLine? line.content.toList = none ∧ (line.code = none → lectors ≠ []))
    ⟨fun h ↦ ⟨h.1, h.2⟩, fun h ↦ ⟨h.noSample, h.lector⟩⟩

namespace Transcript

variable {lectors : List Lector}

/-! ### Lines -/

section Line

variable {line : Line}

/-- What comes back of a block from a transcript is shown the same. -/
theorem entry_restored (lectors : List Lector) (kind : BlockKind) :
    entry lectors (restored lectors kind) = entry lectors kind := by
  cases kind with
  | line line =>
    have htag : line.tag?.filter (· ≠ "") = line.tag? := by
      rw [Line.tag?, Option.filter_filter]
      simp
    rw [restored, entry, entry, speaker, speaker, Line.tag?, htag, Lector.effective?_map_id]
    rfl
  | _ => rfl

/-- What the entry of a block says of a line is a line of a script. -/
theorem authored_of_reread {kind : BlockKind} (h : '\n' ∉ (entry lectors kind).toList)
    (hline : reread lectors kind = .line line) : line.Authored lectors :=
  Line.authored_of_toKind (Statement.sound_read (Text.clean_trim (List.Subset.refl _) h))
    (Statement.quiet_read _) hline

/-- The text of a line can be told from its entry. -/
theorem text_eq_of_entry_eq {line' : Line} (h : Legible lectors line) (h' : Legible lectors line')
    (heq : entry lectors (.line line') = entry lectors (.line line)) :
    line'.text .boy none = line.text .boy none := by
  rw [← String.toList_inj, toList_entry_line, toList_entry_line] at heq
  obtain ⟨-, -, htext⟩ := Statement.label_inj h'.name h.name h'.code h.code heq
  exact String.toList_inj.1 htext

/-- A line is shown the same when its entry is read exactly if no statement of a line stands in its
text and the name in front of it is that of a lector or stands in front of a code. -/
theorem entry_reread_line_iff (hcast : Lector.Cast lectors) (h : line.Authored lectors)
    (hparen : ∀ code ∈ line.code, ∀ c ∈ code.toList, c ≠ '(' ∧ c ≠ ')') :
    entry lectors (reread lectors (.line line)) = entry lectors (.line line) ↔
      line.Stable lectors := by
  have hlegible := legible_of_authored hcast h
  have htext := text_of_authored h
  have htag := tag?_of_authored h
  constructor
  · intro heq
    -- whatever line comes back, it has the same text
    have hsame : ∀ line', reread lectors (.line line) = .line line' →
        line'.text .boy none = line.content := by
      intro line' hline
      have hlegible' := legible_of_authored hcast (authored_of_reread hlegible.unbroken hline)
      rw [hline] at heq
      rw [← htext]
      exact text_eq_of_entry_eq hlegible hlegible' heq
    have hsample : Statement.sampleLine? line.content.toList = none := by
      rw [Option.eq_none_iff_forall_ne_some]
      intro found hfound
      have hline := hlegible.reread_of_sampleLine? (by rwa [htext])
      obtain ⟨_, -, rfl⟩ := Option.map_eq_some_iff.1 hfound
      have hempty : "" = line.content := hsame _ hline
      rw [← hempty] at hfound
      exact Option.some_ne_none _ (hfound.symm.trans (by decide))
    refine ⟨hsample, ?_⟩
    rintro hcode rfl
    -- the name of nobody becomes a part of the text
    have hline : reread [] (.line line) = .line (Statement.narrationLine [] (shown [] line)) := by
      rw [reread, hlegible.read_untagged (by rwa [htext]) (by simp [codeOf, htag, hcode])]
      rfl
    have hwhole : String.ofList (shown [] line) = line.content := hsame _ hline
    have hpart := (Text.trim_isInfix (shownText line)).length_le
    rw [hlegible.trim_shownText, htext, ← hwhole, String.toList_ofList, shown] at hpart
    have hspeaker := List.length_pos_iff.2 hlegible.name.ne_nil
    simp only [List.length_append] at hpart
    omega
  · intro hstable
    rw [hlegible.reread_line hcast (by rw [htag]; exact hstable.lector)
      (by rw [htext]; exact hstable.noSample) (by rwa [htag]), entry_restored]

end Line

/-! ### Whole transcripts -/

/-- A block whose entry is read as a block that is shown the same. -/
def Stable (lectors : List Lector) : BlockKind → Prop
  | .background cue => cue.Stable
  | .line line => line.Stable lectors
  | .episode _ | .chapter _ | .pause _ => True

instance (lectors : List Lector) : DecidablePred (Stable lectors)
  | .background cue => inferInstanceAs (Decidable cue.Stable)
  | .line line => inferInstanceAs (Decidable (line.Stable lectors))
  | .episode _ | .chapter _ | .pause _ => inferInstanceAs (Decidable True)

/-- A block of a script is shown the same when its entry is read exactly if it is stable. -/
theorem entry_reread_iff (hcast : Lector.Cast lectors) {text : String} {kind : BlockKind}
    (h : kind ∈ Script.kinds lectors text)
    (hparen : ∀ line ∈ kind.line?, ∀ code ∈ line.code, ∀ c ∈ code.toList, c ≠ '(' ∧ c ≠ ')') :
    entry lectors (reread lectors kind) = entry lectors kind ↔ Stable lectors kind := by
  have hauthored := Script.authored_of_mem_kinds h
  cases kind with
  | episode title => exact iff_of_true (by rw [reread_episode hauthored]) trivial
  | chapter title => exact iff_of_true (by rw [reread_chapter hauthored]) trivial
  | background cue => exact entry_reread_background_iff hauthored
  | pause seconds => exact iff_of_true (by rw [reread_pause]) trivial
  | line line =>
    exact entry_reread_line_iff hcast (Script.authored_of_line_mem_kinds h) (hparen line rfl)

/-- The transcript of a script without parentheses in its codes is the same after it was read again
exactly if each of its blocks is stable. -/
theorem render_reopen_iff (hcast : Lector.Cast lectors) (fresh fresh' : Nat → BlockId)
    (text : String)
    (hparen : ∀ line ∈ Block.lines (Script.parse fresh lectors text),
      ∀ code ∈ line.code, ∀ c ∈ code.toList, c ≠ '(' ∧ c ≠ ')') :
    let blocks := Script.parse fresh lectors text
    render lectors (Script.parse fresh' lectors (render lectors blocks)) = render lectors blocks ↔
      ∀ block ∈ blocks, Stable lectors block.kind := by
  intro blocks
  have hunbroken : ∀ {fresh : Nat → BlockId} {text : String},
      ∀ block ∈ Script.parse fresh lectors text, '\n' ∉ (entry lectors block.kind).toList :=
    fun _ hblock ↦ unbroken_entry_of_mem_kinds hcast (Script.kind_mem_kinds hblock)
  have hfound := map_kind_reopen hcast fresh fresh' text
  have hlength := congrArg List.length hfound
  have hentries := congrArg (List.map (entry lectors)) hfound
  simp only [List.length_map] at hlength
  simp only [List.map_map, Function.comp_def] at hentries
  rw [render_inj hunbroken hunbroken hlength, hentries, List.map_inj_left]
  refine forall₂_congr fun block hblock ↦ entry_reread_iff hcast (Script.kind_mem_kinds hblock) ?_
  intro line hline
  exact hparen line (List.mem_filterMap.2 ⟨block, hblock, hline⟩)

/-- A script with a colon in the name of a background, which stands as the transcript writes one. -/
theorem render_reopen_name_with_colon :
    let lectors : List Lector := [⟨"n", "Narrator", ""⟩, ⟨"f", "Fox", ""⟩]
    let blocks := Script.parse .ofNat lectors
      "BackgroundSampleLine: Code=Wind: rain\nFox (S1): Hello.\nIt rains."
    render lectors (Script.parse .ofNat lectors (render lectors blocks)) =
      render lectors blocks := by
  exact (render_reopen_iff (by decide) .ofNat .ofNat
    "BackgroundSampleLine: Code=Wind: rain\nFox (S1): Hello.\nIt rains." (by decide)).2 (by decide)

/-- Without lectors, the name in front of a text is read as a part of it, and any other colon in the
name of a background comes back with a space behind it. -/
theorem render_reopen_ne :
    let lectors : List Lector := [⟨"n", "Narrator", ""⟩]
    let spoken := Script.parse .ofNat [] "It rains."
    let cued := Script.parse .ofNat lectors "BackgroundSampleLine: Code=Wind:rain"
    (Lector.Cast [] ∧
        render [] (Script.parse .ofNat [] (render [] spoken)) ≠ render [] spoken) ∧
      Lector.Cast lectors ∧
        render lectors (Script.parse .ofNat lectors (render lectors cued)) ≠
          render lectors cued := by
  decide

end Transcript

end Storyline
