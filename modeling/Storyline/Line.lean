import Std.Data.ExtTreeMap
import Storyline.Code
import Storyline.Gender

/-!
# Lines

A line is one utterance of the story. Its text and its image may differ by the listener's gender
and, on partner-specific lines, by the partner for whom the story is told. `Line.text` and
`Line.image?` read what one listener gets, `Line.writeText` and `Line.writeImage` change it.

An entry for a partner goes before the gender variants, and these before the plain content. A
gender-universal line reads and writes one text for both genders.
-/

namespace Storyline

/-- What each partner's listeners get, by the partner's slug. -/
abbrev PartnerTable := Std.ExtTreeMap String (ByGender String)

instance : DecidableEq PartnerTable := inferInstance

/-- A line of dialogue or narration. -/
structure Line where
  /-- The text that is heard when the line has no variants. -/
  content : String := ""
  /-- The code of the line. An empty code can be stored and means the same as none. -/
  code : Option String := none
  /-- The identifier of the lector who reads the line. -/
  lectorId : Option String := none
  /-- Whether partners may have a text of their own here. -/
  partnerSpecific : Bool := false
  /-- Whether both genders hear the same. -/
  universal : Bool := false
  /-- The texts by gender. -/
  variants : Option (ByGender String) := none
  /-- The texts of single partners. -/
  overrides : PartnerTable := ∅
  /-- The images by gender. -/
  images : Option (ByGender String) := none
  /-- The images of single partners. -/
  imageOverrides : PartnerTable := ∅
  deriving DecidableEq

namespace Line

/-- The code of a line, if it has one that is not empty. -/
def tag? (line : Line) : Option String :=
  line.code.filter (· ≠ "")

/-- The kind of the code of a line. -/
def kind? (line : Line) : Option CodeKind :=
  line.tag?.bind Code.kind?

/-- A line is dynamic when its code is. -/
def IsDynamic (line : Line) : Prop := line.kind? = some .dynamic

instance (line : Line) : Decidable line.IsDynamic :=
  inferInstanceAs (Decidable (line.kind? = some .dynamic))

/-- The line with another code; an empty code leaves it without one. -/
def withCode (line : Line) (code : String) : Line :=
  { line with code := if code = "" then none else some code }

/-- The line assigned to a lector, or to none. -/
def withLector (line : Line) (id : Option String) : Line :=
  { line with lectorId := id }

/-- The code as it is written in the script, marked when the line is partner-specific. -/
def markedCode? (line : Line) : Option String :=
  line.tag?.map fun code ↦ if line.partnerSpecific then code ++ Code.partnerSuffix else code

/-- How a line without a code is called in messages. -/
def untaggedLabel : String := "untagged line"

/-- How the line is called in messages. -/
def label (line : Line) : String := line.tag?.getD untaggedLabel

/-! ### Reading -/

/-- The slot that a listener of gender `g` reads: a universal line has only one. -/
def slot (line : Line) (g : Gender) : Gender :=
  if line.universal then .boy else g

/-- The pair of texts from which a listener of `partner` reads, if the line has any. -/
def textPair? (line : Line) (partner : Option String) : Option (ByGender String) :=
  (partner.bind (line.overrides[·]?)).or line.variants

/-- The pair of images from which a listener of `partner` reads, if the line has any. -/
def imagePair? (line : Line) (partner : Option String) : Option (ByGender String) :=
  (partner.bind (line.imageOverrides[·]?)).or line.images

/-- The text that a listener hears. -/
def text (line : Line) (g : Gender) (partner : Option String) : String :=
  match line.textPair? partner with
  | some pair => pair.get (line.slot g)
  | none => line.content

/-- The image that a listener sees, if the line has any. -/
def image? (line : Line) (g : Gender) (partner : Option String) : Option String :=
  (line.imagePair? partner).map (·.get (line.slot g))

/-- The texts that listeners of no partner hear. -/
def texts (line : Line) : ByGender String :=
  ⟨line.text .boy none, line.text .girl none⟩

/-! ### Writing -/

/-- The pair with one slot written, or with both on a universal line. -/
def put (line : Line) (g : Gender) (value : String) (pair : ByGender String) : ByGender String :=
  if line.universal then .uniform value else pair.set g value

/-- The line after `text` was written for a listener. A pair that did not exist starts from the
texts that listeners of no partner hear, so the other gender keeps what it heard. The content
follows the text that a boy of no partner hears. -/
def writeText (line : Line) (g : Gender) (partner : Option String) (text : String) : Line :=
  match partner with
  | some slug =>
    { line with
      overrides := line.overrides.insert slug
        (line.put g text (line.overrides[slug]?.getD line.texts)) }
  | none =>
    { line with
      variants := some (line.put g text (line.variants.getD line.texts))
      content := if line.universal ∨ g = .boy then text else line.content }

/-- The line after an image was written for a listener. A pair that did not exist starts from the
images that listeners of no partner see, or from empty ones. -/
def writeImage (line : Line) (g : Gender) (partner : Option String) (url : String) : Line :=
  let seed := line.images.getD (.uniform "")
  match partner with
  | some slug =>
    { line with
      imageOverrides := line.imageOverrides.insert slug
        (line.put g url (line.imageOverrides[slug]?.getD seed)) }
  | none => { line with images := some (line.put g url seed) }

/-- The line with the universal flag set. Turning it on gives both genders what a boy got. -/
def setUniversal (line : Line) (on : Bool) : Line :=
  if on then
    { line with
      universal := true
      variants := line.variants.map (·.collapse)
      images := line.images.map (·.collapse)
      overrides := line.overrides.map fun _ pair ↦ pair.collapse
      imageOverrides := line.imageOverrides.map fun _ pair ↦ pair.collapse }
  else { line with universal := false }

/-- The line with the partner flag set. -/
def setPartnerSpecific (line : Line) (on : Bool) : Line :=
  { line with partnerSpecific := on }

/-- A partner's text was written to a line that is not partner-specific. -/
structure StrayWrite where
  /-- The partner for whom the text was written. -/
  slug : String
  /-- The code of the line, if it has one. -/
  tag : Option String
  deriving DecidableEq, Repr

/-- The warning shown for a stray write. -/
def StrayWrite.message (w : StrayWrite) : String :=
  "partner override '" ++ w.slug ++ "' written to line " ++ w.tag.getD "(untagged)" ++
    " which is not partner-specific"

/-- The warning that a text written for `partner` to the line would raise. -/
def strayWrite? (line : Line) (partner : Option String) : Option StrayWrite :=
  if line.partnerSpecific then none else partner.map fun slug ↦ ⟨slug, line.tag?⟩

/-! ### Elementary laws -/

/-- The empty text is no code. -/
theorem tag?_ne_empty {line : Line} {code : String} (h : line.tag? = some code) : code ≠ "" := by
  simpa using (Option.filter_eq_some_iff.1 h).2

/-- An assigned code is the code of the line, unless it is empty. -/
@[simp] theorem tag?_withCode (line : Line) (code : String) :
    (line.withCode code).tag? = if code = "" then none else some code := by
  by_cases h : code = "" <;> simp [withCode, tag?, h]

/-- The slots of a universal line agree on what was put into them. -/
theorem get_put_of_universal {line : Line} (h : line.universal = true) (g k : Gender)
    (value : String) (pair : ByGender String) : (line.put g value pair).get k = value := by
  simp [put, h]

/-- What was put for one gender is what that gender's slot holds. -/
theorem get_slot_put (line : Line) (g : Gender) (value : String) (pair : ByGender String) :
    (line.put g value pair).get (line.slot g) = value := by
  by_cases h : line.universal = true
  · exact get_put_of_universal h ..
  · simp [put, slot, h]

end Line

end Storyline
