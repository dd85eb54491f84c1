import Storyline.Scenario
import Storyline.Proofs.Lector

/-!
# Entries of a scenario

An entry has everything that a listener can notice of a line, and so has a line that was filled
from it. It does not have the line itself: texts that come from the plain content become variants,
and a lector who reads the line by default becomes the lector of the line.
-/

namespace Storyline

namespace Line

/-- Nothing else in a line changes whether its code counts as one. -/
theorem tag?_eq_of_code {line line' : Line} (h : line'.code = line.code) :
    line'.tag? = line.tag? := by
  rw [tag?, tag?, h]

/-- Nor does it change the kind of the code. -/
theorem kind?_eq_of_code {line line' : Line} (h : line'.code = line.code) :
    line'.kind? = line.kind? := by
  rw [kind?, kind?, tag?_eq_of_code h]

/-- Only lines with a code are of a kind. -/
theorem isSome_tag?_of_kind? {line : Line} {kind : CodeKind} (h : line.kind? = some kind) :
    line.tag?.isSome := by
  obtain ⟨code, hcode, -⟩ := Option.bind_eq_some_iff.1 h
  rw [hcode]
  rfl

/-- Two lines of which a listener gets the same, read by the same lector, in a story with these
lectors. -/
structure Alike (lectors : List Lector) (line line' : Line) : Prop where
  /-- The lines have the same code. -/
  code : line'.code = line.code
  /-- The lines have the same partner flag. -/
  partnerSpecific : line'.partnerSpecific = line.partnerSpecific
  /-- The lines are universal alike. -/
  universal : line'.universal = line.universal
  /-- Every listener hears the same. -/
  text : ∀ g partner, line'.text g partner = line.text g partner
  /-- Every listener sees the same. -/
  image : ∀ g partner, line'.image? g partner = line.image? g partner
  /-- The same lector reads the lines. -/
  lector : Lector.effective? lectors line'.lectorId = Lector.effective? lectors line.lectorId

end Line

namespace ScenarioEntry

variable {lectors : List Lector} {line blank : Line}

/-- On a universal line both texts for listeners of no partner are the one that a boy hears. -/
theorem get_texts_slot (line : Line) (g : Gender) :
    line.texts.get (line.slot g) = line.text g none := by
  have hslot : line.slot (line.slot g) = line.slot g := by
    unfold Line.slot
    split <;> rfl
  have htext : line.text (line.slot g) none = line.text g none := by
    rw [Line.text, Line.text, hslot]
  rw [← htext]
  cases line.slot g <;> rfl

/-- A listener whose partner has no text of its own hears what listeners of no partner hear. -/
theorem text_fill (g : Gender) (partner : Option String) :
    ((ofLine lectors line).fill blank).text g partner = line.text g partner := by
  cases htext : partner.bind (line.overrides[·]?) with
  | some pair =>
    have hfilled : ((ofLine lectors line).fill blank).textPair? partner = some pair := by
      rw [Line.textPair?]
      exact congrArg (Option.or · _) htext
    rw [Line.text, hfilled, Line.text, Line.textPair?, htext]
    rfl
  | none =>
    have hfilled : ((ofLine lectors line).fill blank).textPair? partner = some line.texts := by
      rw [Line.textPair?]
      exact congrArg (Option.or · _) htext
    have hline : line.text g partner = line.text g none := by
      rw [Line.text, Line.text, Line.textPair?, Line.textPair?, htext]
      rfl
    rw [Line.text, hfilled, hline, ← get_texts_slot]
    rfl

private theorem effective?_fill (hids : ∀ lector ∈ lectors, lector.id ≠ "") :
    Lector.effective? lectors ((ofLine lectors line).fill blank).lectorId =
      Lector.effective? lectors line.lectorId := by
  cases hlector : Lector.effective? lectors line.lectorId with
  | none => exact Lector.effective?_eq_none_iff.2 (Lector.effective?_eq_none_iff.1 hlector)
  | some lector =>
    have hne := hids lector (Lector.mem_of_effective? hlector)
    have hid : (ofLine lectors line).lectorId = lector.id := by
      rw [ofLine, hlector]
      rfl
    rw [fill, hid, if_neg hne]
    exact Lector.effective?_id hlector

/-- Nothing that a listener can notice is lost when a line is filled from its own entry. -/
theorem alike_fill (hids : ∀ lector ∈ lectors, lector.id ≠ "") (hcode : blank.code = line.code)
    (hflag : blank.partnerSpecific = line.partnerSpecific) :
    Line.Alike lectors line ((ofLine lectors line).fill blank) where
  code := hcode
  partnerSpecific := (congrArg (· || line.partnerSpecific) hflag).trans (Bool.or_self _)
  universal := rfl
  text := fun g partner ↦ text_fill g partner
  image := fun _ _ ↦ rfl
  lector := effective?_fill hids

/-- A line that was filled from its own entry contributes this entry again. Where the story has no
lectors, the line must not have had one before. -/
theorem ofLine_fill (hids : ∀ lector ∈ lectors, lector.id ≠ "")
    (hflag : blank.partnerSpecific = line.partnerSpecific)
    (hblank : lectors = [] → blank.lectorId = none) :
    ofLine lectors ((ofLine lectors line).fill blank) = ofLine lectors line := by
  generalize hfilled : (ofLine lectors line).fill blank = filled
  have htexts : filled.texts = line.texts := by
    rw [← hfilled, Line.texts, text_fill, text_fill, Line.texts]
  have hpartner : filled.partnerSpecific = line.partnerSpecific := by
    rw [← hfilled]
    exact (congrArg (· || line.partnerSpecific) hflag).trans (Bool.or_self _)
  have heffective : Lector.effective? lectors filled.lectorId =
      Lector.effective? lectors line.lectorId := by
    rw [← hfilled]
    exact effective?_fill hids
  have hid : (((Lector.effective? lectors line.lectorId).map (·.id)).or filled.lectorId).getD "" =
      (((Lector.effective? lectors line.lectorId).map (·.id)).or line.lectorId).getD "" := by
    cases hlector : Lector.effective? lectors line.lectorId with
    | some lector => rfl
    | none =>
      have hentry : (ofLine lectors line).lectorId = line.lectorId.getD "" := by
        rw [ofLine, hlector]
        rfl
      rw [Option.map_none, Option.none_or, Option.none_or, ← hfilled, fill, hentry]
      split
      · next hempty =>
        rw [hblank (Lector.effective?_eq_none_iff.1 hlector), hempty]
        rfl
      · rfl
  rw [ofLine, htexts, hpartner, heffective, hid, ← hfilled]
  rfl

end ScenarioEntry

end Storyline
