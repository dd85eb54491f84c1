import Storyline.Line

/-!
# What is written and who reads it

Listeners read from the pair of their partner or, where it has none, from the pair of all others.
So what is written for a partner reaches its listeners, and what is written for no partner reaches
also those of every partner without a pair; of these listeners it reaches the gender it was written
for, on universal lines both. Everybody else reads as before. This holds of texts without exception,
because a pair that is missing starts from what was heard. For images there may be nothing to start
from: then the other gender gets an empty image instead of none.
-/

namespace Storyline

/-! ### Tables -/

/-- What is written for `partner` beside a table of pairs is read by listeners of `other`. -/
def PartnerTable.Reaches (table : PartnerTable) (partner other : Option String) : Prop :=
  other = partner ∨ partner = none ∧ other.bind (table[·]?) = none

instance (table : PartnerTable) (partner other : Option String) :
    Decidable (table.Reaches partner other) :=
  inferInstanceAs (Decidable (_ ∨ _))

namespace PartnerTable

variable {table : PartnerTable}

private theorem reaches_self (table : PartnerTable) (partner : Option String) :
    table.Reaches partner partner :=
  Or.inl rfl

/-- What is written for a partner is read by its listeners only. -/
theorem reaches_some_iff {slug : String} {other : Option String} :
    table.Reaches (some slug) other ↔ other = some slug := by
  simp [Reaches]

/-- What is written for no partner is read by listeners of every partner without a pair. -/
theorem reaches_none_iff {other : Option String} :
    table.Reaches none other ↔ other.bind (table[·]?) = none := by
  simp only [Reaches, true_and, or_iff_right_iff_imp]
  rintro rfl
  rfl

private theorem reaches_none_some_iff {slug : String} :
    table.Reaches none (some slug) ↔ slug ∉ table := by
  rw [reaches_none_iff, Option.bind_some, Std.ExtTreeMap.mem_iff_isSome_getElem?,
    Option.not_isSome_iff_eq_none]

/-- The second of two pairs for a partner stays. -/
theorem insert_insert (table : PartnerTable) (slug : String) (a b : ByGender String) :
    (table.insert slug a).insert slug b = table.insert slug b := by
  apply Std.ExtTreeMap.ext_getElem?
  intro key
  rw [Std.ExtTreeMap.getElem?_insert, Std.ExtTreeMap.getElem?_insert,
    Std.ExtTreeMap.getElem?_insert]
  split <;> rfl

/-- A pair that was made for a partner from what its listeners read is what they read from. -/
theorem pair?_insert (table : PartnerTable) (others : Option (ByGender String))
    (seed : ByGender String) (write : ByGender String → ByGender String) (slug : String)
    (other : Option String) :
    (other.bind ((table.insert slug (write (table[slug]?.getD (others.getD seed))))[·]?)).or
        others =
      if table.Reaches (some slug) other then
        some (write (((other.bind (table[·]?)).or others).getD seed))
      else (other.bind (table[·]?)).or others := by
  by_cases hreach : table.Reaches (some slug) other
  · obtain rfl := reaches_some_iff.1 hreach
    rw [if_pos hreach, Option.bind_some, Std.ExtTreeMap.getElem?_insert_self, Option.some_or,
      Option.bind_some]
    cases table[slug]? <;> rfl
  · rw [if_neg hreach]
    cases other with
    | none => rfl
    | some slug' =>
      have hcompare : ¬ compare slug slug' = .eq := fun h ↦
        hreach (reaches_some_iff.2 (congrArg some (Std.LawfulEqCmp.eq_of_compare h).symm))
      rw [Option.bind_some, Std.ExtTreeMap.getElem?_insert, if_neg hcompare, Option.bind_some]

/-- A pair that was made for no partner is what listeners of partners without a pair read from. -/
theorem pair?_others (table : PartnerTable) (others : Option (ByGender String))
    (seed : ByGender String) (write : ByGender String → ByGender String) (other : Option String) :
    (other.bind (table[·]?)).or (some (write (others.getD seed))) =
      if table.Reaches none other then
        some (write (((other.bind (table[·]?)).or others).getD seed))
      else (other.bind (table[·]?)).or others := by
  simp only [reaches_none_iff]
  cases other.bind (table[·]?) <;> rfl

end PartnerTable

namespace Line

/-! ### Slots -/

/-- A listener reads what was put if the line is universal or it was put for the gender. -/
theorem get_put (line : Line) (g k : Gender) (value : String) (pair : ByGender String) :
    (line.put g value pair).get (line.slot k) =
      if line.universal = true ∨ k = g then value else pair.get (line.slot k) := by
  by_cases huniversal : line.universal = true
  · rw [get_put_of_universal huniversal, if_pos (Or.inl huniversal)]
  · by_cases hk : k = g
    · rw [hk, get_slot_put, if_pos (Or.inr rfl)]
    · have hslot : line.slot k = k := if_neg huniversal
      rw [put, if_neg huniversal, hslot, ByGender.get_set_of_ne pair hk,
        if_neg (not_or.2 ⟨huniversal, hk⟩)]

/-- The second of two values for a gender stays. -/
theorem put_put (line : Line) (g : Gender) (x y : String) (pair : ByGender String) :
    line.put g y (line.put g x pair) = line.put g y pair := by
  unfold put
  split
  · rfl
  · exact ByGender.set_set ..

/-! ### Texts -/

/-- A listener hears the content where the line has no texts. -/
theorem text_eq_get (line : Line) (g : Gender) (partner : Option String) :
    line.text g partner =
      ((line.textPair? partner).getD (.uniform line.content)).get (line.slot g) := by
  rw [text]
  cases line.textPair? partner with
  | none => exact (ByGender.get_uniform ..).symm
  | some pair => rfl

/-- Whether a text starts from what listeners of no partner hear or from what is stored for them
makes no difference to what is put. -/
theorem put_texts (line : Line) (g : Gender) (text : String) :
    line.put g text line.texts =
      line.put g text (line.variants.getD (.uniform line.content)) := by
  by_cases huniversal : line.universal = true
  · rw [put, put, if_pos huniversal, if_pos huniversal]
  · have hslot : ∀ k, line.slot k = k := fun k ↦ if_neg huniversal
    have htexts : line.texts = line.variants.getD (.uniform line.content) := by
      rw [texts, text_eq_get, text_eq_get, hslot, hslot]
      rfl
    rw [htexts]

/-- The pair from which a listener reads after a text was written. -/
theorem textPair?_writeText (line : Line) (g : Gender) (partner : Option String) (text : String)
    (other : Option String) :
    (line.writeText g partner text).textPair? other =
      if line.overrides.Reaches partner other then
        some (line.put g text ((line.textPair? other).getD (.uniform line.content)))
      else line.textPair? other := by
  have hseed : ∀ stored : Option (ByGender String), line.put g text (stored.getD line.texts) =
      line.put g text (stored.getD (line.variants.getD (.uniform line.content))) := by
    intro stored
    cases stored with
    | some pair => rfl
    | none => exact put_texts line g text
  cases partner with
  | some slug =>
    rw [textPair?, writeText, hseed]
    exact PartnerTable.pair?_insert ..
  | none =>
    have hvariants : line.put g text (line.variants.getD line.texts) =
        line.put g text (line.variants.getD (.uniform line.content)) := by
      rw [hseed]
      cases line.variants <;> rfl
    rw [textPair?, writeText, hvariants]
    exact PartnerTable.pair?_others ..

/-- What a listener hears after a text was written. -/
theorem text_writeText (line : Line) (g : Gender) (partner : Option String) (text : String)
    (k : Gender) (other : Option String) :
    (line.writeText g partner text).text k other =
      if line.overrides.Reaches partner other ∧ (line.universal = true ∨ k = g) then text
      else line.text k other := by
  have hslot : (line.writeText g partner text).slot k = line.slot k := by
    cases partner <;> rfl
  rw [text_eq_get, textPair?_writeText, hslot]
  by_cases hreach : line.overrides.Reaches partner other
  · rw [if_pos hreach, Option.getD_some, get_put, ← text_eq_get]
    simp only [hreach, true_and]
  · rw [if_neg hreach, if_neg fun h ↦ hreach h.1, text_eq_get]
    cases partner with
    | some slug => rfl
    | none =>
      -- the content may have changed, but these listeners have a pair of their own
      cases hpair : other.bind (line.overrides[·]?) with
      | none => exact absurd (PartnerTable.reaches_none_iff.2 hpair) hreach
      | some pair => rw [textPair?, hpair, Option.some_or, Option.getD_some, Option.getD_some]

/-- The second of two texts for the same listeners stays, and nothing is left of the first. -/
theorem writeText_writeText (line : Line) (g : Gender) (partner : Option String) (x y : String) :
    (line.writeText g partner x).writeText g partner y = line.writeText g partner y := by
  cases partner with
  | some slug =>
    let pair := line.put g x (line.overrides[slug]?.getD line.texts)
    have hstored : (line.overrides.insert slug pair)[slug]? = some pair :=
      Std.ExtTreeMap.getElem?_insert_self
    calc (line.writeText g (some slug) x).writeText g (some slug) y
      _ = { line with
            overrides := (line.overrides.insert slug pair).insert slug
              (line.put g y (((line.overrides.insert slug pair)[slug]?).getD line.texts)) } := rfl
      _ = line.writeText g (some slug) y := by
        rw [hstored, Option.getD_some, put_put, PartnerTable.insert_insert]
        rfl
  | none =>
    have hcontent : (if line.universal = true ∨ g = Gender.boy then y
        else if line.universal = true ∨ g = Gender.boy then x else line.content) =
          if line.universal = true ∨ g = Gender.boy then y else line.content := by
      split <;> rfl
    calc (line.writeText g none x).writeText g none y
      _ = { line with
            variants := some (line.put g y (line.put g x (line.variants.getD line.texts)))
            content := if line.universal = true ∨ g = Gender.boy then y
              else if line.universal = true ∨ g = Gender.boy then x else line.content } := rfl
      _ = line.writeText g none y := by
        rw [put_put, hcontent]
        rfl

/-- What was written is what the listeners hear it was written for, on universal lines both genders.
The other gender of a line that is not universal hears what it heard, and so do all others if it was
written for a partner. If it was written for no partner, those of partners with a text of their own
hear what they heard, and those of other partners what listeners of no partner hear. Writing again
for the same listeners leaves nothing of what was written before, and nothing but texts is
written. -/
theorem lens_writeText (line : Line) (g : Gender) (partner : Option String) (x y : String) :
    let line' := line.writeText g partner x
    (∀ k, k = g ∨ line.universal = true → line'.text k partner = x) ∧
      (∀ k, k ≠ g → line.universal = false → line'.text k partner = line.text k partner) ∧
      (∀ slug, partner = some slug → ∀ k other, other ≠ some slug →
        line'.text k other = line.text k other) ∧
      (partner = none → ∀ k slug,
        (slug ∈ line.overrides → line'.text k (some slug) = line.text k (some slug)) ∧
        (slug ∉ line.overrides → line'.text k (some slug) = line'.text k none)) ∧
      line'.writeText g partner y = line.writeText g partner y ∧
      line' = { line with
        content := line'.content, variants := line'.variants, overrides := line'.overrides } := by
  intro line'
  have htext : ∀ k other, line'.text k other =
      if line.overrides.Reaches partner other ∧ (line.universal = true ∨ k = g) then x
      else line.text k other := text_writeText line g partner x
  have hself := PartnerTable.reaches_self line.overrides partner
  refine ⟨?_, ?_, ?_, ?_, writeText_writeText line g partner x y, ?_⟩
  · intro k hk
    rw [htext, if_pos ⟨hself, hk.symm⟩]
  · intro k hk huniversal
    rw [htext, if_neg]
    simp [hk, huniversal]
  · rintro slug rfl k other hother
    rw [htext, if_neg fun h ↦ hother (PartnerTable.reaches_some_iff.1 h.1)]
  · rintro rfl k slug
    refine ⟨fun hslug ↦ ?_, fun hslug ↦ ?_⟩
    · rw [htext, if_neg fun h ↦ PartnerTable.reaches_none_some_iff.1 h.1 hslug]
    · have hreach := PartnerTable.reaches_none_some_iff.2 hslug
      have hsame : line.text k (some slug) = line.text k none := by
        rw [text_eq_get, text_eq_get, textPair?, textPair?, PartnerTable.reaches_none_iff.1 hreach]
        rfl
      rw [htext, htext, hsame]
      simp only [hreach, hself]
  · cases partner <;> rfl

/-- A text of a partner for girls: the partner's boys hear what they heard before. -/
theorem lens_writeText_partner :
    let line : Line := { content := "Hi!", code := some "Z1", partnerSpecific := true }
    let line' := line.writeText .girl (some "acme") "Hey!"
    line'.text .girl (some "acme") = "Hey!" ∧
      line'.text .boy (some "acme") = line.text .boy (some "acme") ∧
      line'.text .girl none = line.text .girl none ∧
      (line.writeText .girl none "Ho!").text .girl (some "acme") =
        (line.writeText .girl none "Ho!").text .girl none ∧
      line'.writeText .girl (some "acme") "Ho!" = line.writeText .girl (some "acme") "Ho!" := by
  intro line line'
  obtain ⟨hput, hgender, hothers, -, hagain, -⟩ :=
    lens_writeText line .girl (some "acme") "Hey!" "Ho!"
  obtain ⟨-, -, -, hpartners, -⟩ := lens_writeText line .girl none "Ho!" "Ho!"
  have habsent : "acme" ∉ line.overrides := Std.ExtTreeMap.not_mem_empty
  exact ⟨hput .girl (Or.inl rfl), hgender .boy (by decide) rfl,
    hothers "acme" rfl .girl none (by decide), (hpartners rfl .girl "acme").2 habsent, hagain⟩

/-! ### Images -/

/-- The pair from which a listener sees images after one was written. -/
theorem imagePair?_writeImage (line : Line) (g : Gender) (partner : Option String) (url : String)
    (other : Option String) :
    (line.writeImage g partner url).imagePair? other =
      if line.imageOverrides.Reaches partner other then
        some (line.put g url ((line.imagePair? other).getD (.uniform "")))
      else line.imagePair? other := by
  cases partner with
  | some slug => exact PartnerTable.pair?_insert _ line.images (.uniform "") (line.put g url) ..
  | none => exact PartnerTable.pair?_others _ line.images (.uniform "") (line.put g url) ..

/-- What a listener sees after an image was written. -/
theorem image?_writeImage (line : Line) (g : Gender) (partner : Option String) (url : String)
    (k : Gender) (other : Option String) :
    (line.writeImage g partner url).image? k other =
      if line.imageOverrides.Reaches partner other then
        some (if line.universal = true ∨ k = g then url else (line.image? k other).getD "")
      else line.image? k other := by
  have hslot : (line.writeImage g partner url).slot k = line.slot k := by
    cases partner <;> rfl
  rw [image?, imagePair?_writeImage, hslot]
  by_cases hreach : line.imageOverrides.Reaches partner other
  · rw [if_pos hreach, if_pos hreach, Option.map_some, get_put, image?]
    cases line.imagePair? other with
    | some pair => rfl
    | none => rw [Option.getD_none, ByGender.get_uniform]; rfl
  · rw [if_neg hreach, if_neg hreach, image?]

/-- On a line that is not universal an image is seen by those it was written for. The other gender
of the same partner sees what it saw exactly if it saw an image at all. All others see what they saw
if it was written for a partner, and if it was not, those of partners with an image of their own. -/
theorem image?_writeImage_eq_iff (line : Line) (huniversal : line.universal = false) (g : Gender)
    (partner : Option String) (url : String) :
    let line' := line.writeImage g partner url
    line'.image? g partner = some url ∧
      (∀ k, k ≠ g →
        (line'.image? k partner = line.image? k partner ↔ line.image? k partner ≠ none)) ∧
      (∀ slug, partner = some slug → ∀ k other, other ≠ some slug →
        line'.image? k other = line.image? k other) ∧
      (partner = none → ∀ slug ∈ line.imageOverrides, ∀ k,
        line'.image? k (some slug) = line.image? k (some slug)) := by
  intro line'
  have himage : ∀ k other, line'.image? k other =
      if line.imageOverrides.Reaches partner other then
        some (if line.universal = true ∨ k = g then url else (line.image? k other).getD "")
      else line.image? k other := image?_writeImage line g partner url
  have hself := PartnerTable.reaches_self line.imageOverrides partner
  refine ⟨?_, ?_, ?_, ?_⟩
  · rw [himage, if_pos hself, if_pos (Or.inr rfl)]
  · intro k hk
    have hother : ¬ (line.universal = true ∨ k = g) := by simp [huniversal, hk]
    rw [himage, if_pos hself, if_neg hother]
    cases line.image? k partner <;> simp
  · rintro slug rfl k other hother
    rw [himage, if_neg fun h ↦ hother (PartnerTable.reaches_some_iff.1 h)]
  · rintro rfl slug hslug k
    rw [himage, if_neg fun h ↦ PartnerTable.reaches_none_some_iff.1 h hslug]

/-- A second image of a partner for girls: the partner's boys see what they saw. -/
theorem image?_writeImage_eq_iff_partner :
    let line : Line := { images := some ⟨"b.png", "g.png"⟩, partnerSpecific := true }
    let line' := line.writeImage .girl (some "acme") "acme.png"
    line.universal = false ∧ line'.image? .girl (some "acme") = some "acme.png" ∧
      line'.image? .boy (some "acme") = line.image? .boy (some "acme") ∧
      line'.image? .girl none = line.image? .girl none := by
  intro line line'
  obtain ⟨hput, hgender, hothers, -⟩ :=
    image?_writeImage_eq_iff line rfl .girl (some "acme") "acme.png"
  exact ⟨rfl, hput, (hgender .boy (by decide)).2 (by decide),
    hothers "acme" rfl .girl none (by decide)⟩

/-- A first image for boys gives girls an empty one, where they had none before. -/
theorem image?_girl_writeImage_boy :
    let line : Line := { content := "Hi!" }
    line.universal = false ∧ line.image? .girl none = none ∧
      (line.writeImage .boy none "b.png").image? .girl none = some "" := by
  decide

end Line

end Storyline
