import Storyline.Proofs.Transcript.Entry

/-!
# Reading a transcript back

What a transcript shows of a story is what comes back from it, if each of its entries can be told
from the other forms that a line of a script can have. `restored` says what that is for each kind of
block: the second fade of a background is not shown, and neither are the other texts of a line, its
images and its partner flag.
-/

namespace Storyline

/-- A background whose entry in a transcript shows its name and its first stamp. -/
structure Background.Shown (cue : Background) : Prop where
  /-- The name is trimmed and stays on one line. -/
  name : Text.Clean cue.name.toList
  /-- The name does not end at a colon. -/
  colon : ':' ∉ cue.name.toList
  /-- The name does not make its line a statement of the saved script. -/
  nameMark : ¬ "BackgroundSampleLine".toList <:+: cue.name.toList
  /-- The stamp is trimmed and stays on one line. -/
  fadeIn : Text.Clean cue.fadeIn.toList
  /-- There is a stamp. -/
  fadeIn_ne : cue.fadeIn.toList ≠ []
  /-- The stamp does not make its line a statement of the saved script. -/
  fadeInMark : ¬ "BackgroundSampleLine".toList <:+: cue.fadeIn.toList

instance (cue : Background) : Decidable cue.Shown :=
  decidable_of_iff
    ((Text.Clean cue.name.toList ∧ ':' ∉ cue.name.toList ∧
        Text.contains "BackgroundSampleLine".toList cue.name.toList = false) ∧
      Text.Clean cue.fadeIn.toList ∧ cue.fadeIn.toList ≠ [] ∧
        Text.contains "BackgroundSampleLine".toList cue.fadeIn.toList = false)
    ⟨fun ⟨⟨hname, hcolon, hnameMark⟩, hfadeIn, hne, hfadeInMark⟩ ↦
        ⟨hname, hcolon, Text.contains_eq_false_iff.1 hnameMark, hfadeIn, hne,
          Text.contains_eq_false_iff.1 hfadeInMark⟩,
      fun h ↦ ⟨⟨h.name, h.colon, Text.contains_eq_false_iff.2 h.nameMark⟩, h.fadeIn, h.fadeIn_ne,
        Text.contains_eq_false_iff.2 h.fadeInMark⟩⟩

/-- A line whose entry in a transcript shows its code and its text. -/
structure Line.Shown (line : Line) : Prop where
  /-- The text is trimmed and stays on one line. -/
  clean : Text.Clean (line.text .boy none).toList
  /-- The text contains no statement of a line or of a background. -/
  noSample : ¬ "SampleLine".toList <:+: (line.text .boy none).toList
  /-- The text does not make its line a pause. -/
  noPause : ¬ "PauseLine".toList <:+: (line.text .boy none).toList
  /-- The code is plain and does not end at a parenthesis. -/
  code : ∀ code ∈ line.tag?, Code.Plain code.toList ∧ ∀ c ∈ code.toList, c ≠ '(' ∧ c ≠ ')'

instance (line : Line) : Decidable line.Shown :=
  decidable_of_iff
    (Text.Clean (line.text .boy none).toList ∧
      Text.contains "SampleLine".toList (line.text .boy none).toList = false ∧
      Text.contains "PauseLine".toList (line.text .boy none).toList = false ∧
      ∀ code ∈ line.tag?, Code.Plain code.toList ∧ ∀ c ∈ code.toList, c ≠ '(' ∧ c ≠ ')')
    ⟨fun ⟨hclean, hsample, hpause, hcode⟩ ↦
        ⟨hclean, Text.contains_eq_false_iff.1 hsample, Text.contains_eq_false_iff.1 hpause, hcode⟩,
      fun h ↦ ⟨h.clean, Text.contains_eq_false_iff.2 h.noSample,
        Text.contains_eq_false_iff.2 h.noPause, h.code⟩⟩

namespace Transcript

variable {lectors : List Lector}

/-- A block whose entry is read back. -/
def Carried : BlockKind → Prop
  | .episode title => Text.Clean title.toList
  | .chapter title => Text.Clean title.toList
  | .background cue => cue.Shown
  | .pause _ => True
  | .line line => line.Shown

instance : DecidablePred Carried
  | .episode title => inferInstanceAs (Decidable (Text.Clean title.toList))
  | .chapter title => inferInstanceAs (Decidable (Text.Clean title.toList))
  | .background cue => inferInstanceAs (Decidable cue.Shown)
  | .pause _ => inferInstanceAs (Decidable True)
  | .line line => inferInstanceAs (Decidable line.Shown)

/-- What comes back of a block from a transcript. -/
def restored (lectors : List Lector) : BlockKind → BlockKind
  | .episode title => .episode title
  | .chapter title => .chapter title
  | .background cue => .background { name := cue.name, fadeIn := cue.fadeIn }
  | .pause seconds => .pause seconds
  | .line line =>
    .line
      { content := line.text .boy none
        code := line.tag?
        lectorId := (Lector.effective? lectors line.lectorId).map (·.id) }

/-- In a story with lectors, one of them is shown as the speaker of a line. -/
theorem exists_speaker (hne : lectors ≠ []) (line : Line) :
    ∃ lector ∈ lectors, Lector.effective? lectors line.lectorId = some lector ∧
      speaker lectors line = lector.name := by
  obtain ⟨lector, hlector⟩ := Option.ne_none_iff_exists'.1
    (mt Lector.effective?_eq_none_iff.1 hne : Lector.effective? lectors line.lectorId ≠ none)
  exact ⟨lector, Lector.mem_of_effective? hlector, hlector, by simp [speaker, hlector]⟩

/-- A line can start at the name of every speaker. -/
theorem plain_speaker (hcast : Lector.Cast lectors) (line : Line) :
    Lector.PlainName (speaker lectors line).toList := by
  rw [speaker]
  cases heffective : Lector.effective? lectors line.lectorId with
  | none =>
    change Lector.PlainName narratorName.toList
    decide
  | some lector => exact hcast.plain lector (Lector.mem_of_effective? heffective)

/-- The lector to whom a line with a code is assigned is its speaker. -/
theorem findNamed?_speaker_or (hcast : Lector.Cast lectors) (line : Line) :
    (Lector.findNamed? lectors ((speaker lectors line).toList ++ [' '])).or
      (Lector.default? lectors) = Lector.effective? lectors line.lectorId := by
  rcases eq_or_ne lectors [] with rfl | hne
  · rw [Lector.effective?_eq_none_iff.2 rfl]
    rfl
  · obtain ⟨lector, hmem, heffective, hspeaker⟩ := exists_speaker hne line
    have htrim : Text.trim ((speaker lectors line).toList ++ [' ']) = lector.name.toList := by
      rw [Text.trim_append_blanks _ (by decide), (plain_speaker hcast line).clean.trimmed, hspeaker]
    rw [hcast.findNamed? hmem htrim, heffective, Option.some_or]

private theorem reread_background {cue : Background} (h : cue.Shown) :
    reread lectors (.background cue) = restored lectors (.background cue) := by
  rw [reread, trim_entry_background lectors h.fadeIn h.fadeIn_ne, toList_entry_background,
    Statement.read_backgroundShorthand h.name h.colon h.nameMark h.fadeIn h.fadeIn_ne h.fadeInMark,
    Statement.toKind, String.ofList_toList, String.ofList_toList, restored]

/-- A line that is shown is legible if its speaker has a name at which a line can start. -/
theorem legible_of_shown {line : Line} (h : line.Shown)
    (hname : Lector.PlainName (speaker lectors line).toList) : Legible lectors line where
  name := hname
  code := by
    intro c hc
    obtain ⟨code, hcode, rfl⟩ := Option.map_eq_some_iff.1 hc
    exact (h.code code hcode).1
  clean := h.clean
  unmarked :=
    { noBackground := fun hword ↦
        h.noSample (List.IsInfix.trans ⟨"Background".toList, [], rfl⟩ hword)
      noPause := h.noPause }

/-- A line is read back with its text, its code and its speaker, if no statement of a line stands in
the text and no parenthesis in the code. Without a code, the speaker has to be a lector. -/
theorem Legible.reread_line {line : Line} (h : Legible lectors line)
    (hcast : Lector.Cast lectors) (hlector : line.tag? = none → lectors ≠ [])
    (hsample : Statement.sampleLine? (line.text .boy none).toList = none)
    (hparen : ∀ code ∈ line.tag?, ∀ c ∈ code.toList, c ≠ '(' ∧ c ≠ ')') :
    reread lectors (.line line) = restored lectors (.line line) := by
  rw [restored]
  cases htag : line.tag? with
  | none =>
    obtain ⟨lector, hmem, heffective, hspeaker⟩ := exists_speaker (hlector htag) line
    have htrim : Text.trim (speaker lectors line).toList = lector.name.toList := by
      rw [h.name.clean.trimmed, hspeaker]
    rw [reread, h.read_untagged hsample (by simp [codeOf, htag]), Statement.toKind,
      hcast.findNamed? hmem htrim, heffective, String.ofList_toList, Option.map_some]
  | some code =>
    have hinner : ∀ d ∈ code.toList, Statement.isInnerChar d = true := fun d hd ↦
      Statement.isInnerChar_iff.2 (hparen code htag d hd)
    have hcode : code.toList ≠ [] := by simpa using Line.tag?_ne_empty htag
    rw [reread, h.read_tagged hsample (by simp [codeOf, htag]) hcode hinner, Statement.toKind,
      Statement.CodedLine.toLine]
    simp only [Option.bind_some, findNamed?_speaker_or hcast, String.ofList_toList]

/-- The entry of a block that can be carried is read back. -/
theorem reread_of_carried (hne : lectors ≠ []) (hcast : Lector.Cast lectors) {kind : BlockKind}
    (h : Carried kind) : reread lectors kind = restored lectors kind := by
  cases kind with
  | episode title => exact reread_episode h
  | chapter title => exact reread_chapter h
  | background cue => exact reread_background h
  | pause seconds => exact reread_pause lectors seconds
  | line line =>
    exact (legible_of_shown h (plain_speaker hcast line)).reread_line hcast (fun _ ↦ hne)
      (Statement.sampleLine?_of_not_infix h.noSample) fun code hcode ↦ (h.code code hcode).2

/-- The entry of a block that can be carried is one line. -/
theorem unbroken_entry_of_carried (hcast : Lector.Cast lectors)
    {kind : BlockKind} (h : Carried kind) : '\n' ∉ (entry lectors kind).toList := by
  cases kind with
  | episode title => exact unbroken_entry_episode h.unbroken
  | chapter title => exact unbroken_entry_chapter h.unbroken
  | background cue => exact unbroken_entry_background h.name.unbroken h.fadeIn.unbroken
  | pause seconds => exact unbroken_entry_pause lectors seconds
  | line line => exact (legible_of_shown h (plain_speaker hcast line)).unbroken

/-- What is read from the transcript of a story is what the transcript shows of each of its blocks,
in order, if the names of the lectors can be told apart and each block can be carried. -/
theorem map_kind_parse_render (hne : lectors ≠ []) (hcast : Lector.Cast lectors)
    {blocks : List Block} (h : ∀ block ∈ blocks, Carried block.kind) (fresh : Nat → BlockId) :
    (Script.parse fresh lectors (render lectors blocks)).map (·.kind) =
      blocks.map fun block ↦ restored lectors block.kind := by
  rw [Script.map_kind_parse, kinds_render_eq fun block hblock ↦
    unbroken_entry_of_carried hcast (h block hblock)]
  exact List.map_congr_left fun block hblock ↦ reread_of_carried hne hcast (h block hblock)

/-- A story of every kind of block: of the line with a code the partner flag is lost, and of the
background the second fade. -/
theorem map_kind_parse_render_every_kind :
    (Script.parse .ofNat [⟨"n", "Narrator", ""⟩, ⟨"f", "Old Fox", ""⟩]
        (render [⟨"n", "Narrator", ""⟩, ⟨"f", "Old Fox", ""⟩]
          [⟨.ofNat 1, .episode "One"⟩, ⟨.ofNat 2, .chapter "Forest: S1"⟩,
            ⟨.ofNat 3, .background { name := "Wind, rain", fadeIn := "5 s", fadeOut := "9" }⟩,
            ⟨.ofNat 4, .pause 400000⟩, ⟨.ofNat 5, .line { content := "Hush: it (the owl) sleeps." }⟩,
            ⟨.ofNat 6, .line
              { content := "Hi!", code := some "Z1", lectorId := some "f"
                partnerSpecific := true }⟩])).map (·.kind) =
      [.episode "One", .chapter "Forest: S1", .background { name := "Wind, rain", fadeIn := "5 s" },
        .pause 400000, .line { content := "Hush: it (the owl) sleeps.", lectorId := some "n" },
        .line { content := "Hi!", code := some "Z1", lectorId := some "f" }] := by
  exact map_kind_parse_render (by decide) (by decide) (by decide) .ofNat

end Transcript

end Storyline
