import Storyline.Lector
import Storyline.Text.Digit
import Storyline.Proofs.Text.Occurrence
import Storyline.Proofs.Text.Trim

/-!
# Names of lectors

A line that starts with the name of a lector and a colon could also be one of another form, and two
names could be taken for each other. For the lectors of a cast neither happens: their names are
words of no other form, and differ in more than the case of letters. So a lector of a cast is found
again by name.
-/

namespace Storyline.Lector

/-- The words that start a line of another form when a colon follows them. -/
def reservedWords : List String := ["episode", "chapter", "pause", "pauza"]

/-- The text is the letter of a kind of codes with decimal digits behind it, at least one. -/
def LikeCode (cs : List Char) : Prop :=
  (cs.head? = some 'S' ∨ cs.head? = some 'Z') ∧ cs.tail ≠ [] ∧
    ∀ c ∈ cs.tail, Text.isDecimal c = true

instance (cs : List Char) : Decidable (LikeCode cs) :=
  inferInstanceAs (Decidable ((cs.head? = some 'S' ∨ cs.head? = some 'Z') ∧ cs.tail ≠ [] ∧
    ∀ c ∈ cs.tail, Text.isDecimal c = true))

/-- What looks like a code has no other characters than the two letters and decimal digits. -/
theorem LikeCode.letter_or_isDecimal {cs : List Char} (h : LikeCode cs) {c : Char} (hc : c ∈ cs) :
    c = 'S' ∨ c = 'Z' ∨ Text.isDecimal c = true := by
  obtain ⟨hletter, -, hnumber⟩ := h
  cases cs with
  | nil => exact absurd hc List.not_mem_nil
  | cons letter number =>
    rcases List.mem_cons.1 hc with rfl | hc
    · exact (hletter.imp Option.some.inj Option.some.inj).imp_right Or.inl
    · exact Or.inr (Or.inr (hnumber c hc))

/-- A name at which a line of a lector can start. -/
structure PlainName (name : List Char) : Prop where
  /-- There is a name. -/
  ne_nil : name ≠ []
  /-- The name is trimmed and stays on one line. -/
  clean : Text.Clean name
  /-- No character of the name ends it. -/
  chars : ∀ c ∈ name, c ≠ '(' ∧ c ≠ ')' ∧ c ≠ ':'
  /-- The name does not make its line a statement of a line or of a background. -/
  noSample : ¬ "SampleLine".toList <:+: name
  /-- The name does not make its line a pause. -/
  noPause : ¬ "PauseLine".toList <:+: name
  /-- The name does not make its line the shorthand of a background. -/
  noBackground : Text.dropWord? "background".toList name = none
  /-- The name is no word that starts a line of another form. -/
  noWord : ∀ word ∈ reservedWords, Text.eqIgnoringCase name word.toList = false
  /-- The name is no code. -/
  noCode : ¬ LikeCode name

instance (name : List Char) : Decidable (PlainName name) :=
  decidable_of_iff
    (name ≠ [] ∧ Text.Clean name ∧ (∀ c ∈ name, c ≠ '(' ∧ c ≠ ')' ∧ c ≠ ':') ∧
      Text.contains "SampleLine".toList name = false ∧
      Text.contains "PauseLine".toList name = false ∧
      Text.dropWord? "background".toList name = none ∧
      (∀ word ∈ reservedWords, Text.eqIgnoringCase name word.toList = false) ∧ ¬ LikeCode name)
    ⟨fun ⟨hne, hclean, hchars, hsample, hpause, hbackground, hword, hcode⟩ ↦
        ⟨hne, hclean, hchars, Text.contains_eq_false_iff.1 hsample,
          Text.contains_eq_false_iff.1 hpause, hbackground, hword, hcode⟩,
      fun h ↦ ⟨h.ne_nil, h.clean, h.chars, Text.contains_eq_false_iff.2 h.noSample,
        Text.contains_eq_false_iff.2 h.noPause, h.noBackground, h.noWord, h.noCode⟩⟩

/-- Lectors who can be told apart by names at which a line can start. -/
structure Cast (lectors : List Lector) : Prop where
  /-- A line can start at each of the names. -/
  plain : ∀ lector ∈ lectors, PlainName lector.name.toList
  /-- No two names differ in nothing but the case of letters. -/
  distinct : lectors.Pairwise fun a b ↦
    Text.eqIgnoringCase a.name.toList b.name.toList = false

instance (lectors : List Lector) : Decidable (Cast lectors) :=
  decidable_of_iff
    ((∀ lector ∈ lectors, PlainName lector.name.toList) ∧
      lectors.Pairwise fun a b ↦ Text.eqIgnoringCase a.name.toList b.name.toList = false)
    ⟨fun h ↦ ⟨h.1, h.2⟩, fun h ↦ ⟨h.plain, h.distinct⟩⟩

/-- A lector of a cast is found by name. -/
theorem Cast.findNamed? {lectors : List Lector} (h : Cast lectors) {lector : Lector}
    (hmem : lector ∈ lectors) {name : List Char} (hname : Text.trim name = lector.name.toList) :
    findNamed? lectors name = some lector := by
  have hself : Text.eqIgnoringCase lector.name.toList lector.name.toList = true := by
    simp [Text.eqIgnoringCase]
  obtain ⟨front, back, rfl⟩ := List.append_of_mem hmem
  rw [Lector.findNamed?, hname, List.find?_eq_some_iff_append]
  refine ⟨hself, front, back, rfl, fun other hother ↦ ?_⟩
  -- the lectors in front have other names
  have hapart := (List.pairwise_append.1 h.distinct).2.2 other hother lector List.mem_cons_self
  simp [hapart]

/-- The lector who reads a line reads it as well when the line names that lector. -/
theorem effective?_id {lectors : List Lector} {id : Option String} {lector : Lector}
    (h : effective? lectors id = some lector) :
    effective? lectors (some lector.id) = some lector := by
  have hfind : find? lectors lector.id = some lector := by
    rcases Option.or_eq_some_iff.1 h with h | ⟨-, h⟩
    · obtain ⟨wanted, -, hwanted⟩ := Option.bind_eq_some_iff.1 h
      rwa [id_of_find? hwanted]
    · obtain ⟨rest, rfl⟩ := List.head?_eq_some_iff.1 h
      exact List.find?_cons_of_pos (beq_self_eq_true lector.id)
  rw [effective?, Option.bind_some, hfind, Option.some_or]

/-- Naming the lector who reads a line changes nothing. -/
theorem effective?_map_id (lectors : List Lector) (id : Option String) :
    effective? lectors ((effective? lectors id).map (·.id)) = effective? lectors id := by
  cases hlector : effective? lectors id with
  | none => exact effective?_eq_none_iff.2 (effective?_eq_none_iff.1 hlector)
  | some lector => exact effective?_id hlector

/-- Whoever a line names by an identifier of the cast, a lector with this identifier reads it. -/
theorem exists_effective?_of_mem {lectors : List Lector} {lector : Lector}
    (h : lector ∈ lectors) :
    ∃ found, effective? lectors (some lector.id) = some found ∧ found.id = lector.id := by
  have hsome : (find? lectors lector.id).isSome = true := by
    rw [find?, List.find?_isSome]
    exact ⟨lector, h, beq_self_eq_true lector.id⟩
  obtain ⟨found, hfound⟩ := Option.isSome_iff_exists.1 hsome
  refine ⟨found, ?_, id_of_find? hfound⟩
  rw [effective?, Option.bind_some, hfound, Option.some_or]

end Storyline.Lector
