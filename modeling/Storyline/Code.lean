import Storyline.Text.Blank
import Storyline.Text.Digit

/-!
# Line codes

A code ties a line of the script to its recordings and texts. `S` codes mark static lines, whose
text is the same for everybody; `Z` codes mark dynamic lines, whose text is personalised.
-/

namespace Storyline

/-- What the first letter of a code says about its line. -/
inductive CodeKind where
  | static
  | dynamic
  deriving DecidableEq, Repr

namespace CodeKind

/-- The name of a kind of code. -/
def name : CodeKind → String
  | static => "Static"
  | dynamic => "Dynamic"

end CodeKind

namespace Code

/-- The kind of a code, by its first letter alone. -/
def kind? (code : String) : Option CodeKind :=
  match code.toList with
  | 'S' :: _ => some .static
  | 'Z' :: _ => some .dynamic
  | _ => none

/-- A code is well formed when it is the letter `S` or `Z` followed by one or more ASCII digits. -/
def WellFormed (code : String) : Prop :=
  ∃ letter number, code.toList = letter :: number ∧ (letter = 'S' ∨ letter = 'Z') ∧
    number ≠ [] ∧ ∀ c ∈ number, c.isDigit = true

/-- Decides `WellFormed`. -/
def isWellFormed (code : String) : Bool :=
  match code.toList with
  | letter :: number =>
    (letter == 'S' || letter == 'Z') && !number.isEmpty && number.all Char.isDigit
  | [] => false

/-- The check of a code decides whether it is well-formed. -/
theorem isWellFormed_iff {code : String} : isWellFormed code = true ↔ WellFormed code := by
  unfold isWellFormed WellFormed
  split
  · next letter number h => simp [h, and_assoc]
  · next h => simp [h]

instance (code : String) : Decidable (WellFormed code) :=
  decidable_of_iff _ isWellFormed_iff

/-- The mark that a partner-specific line carries after its code. -/
def partnerSuffix : String := "[Slug]"

/-- The code without a suffix in square brackets and the blanks before it: the key under which the
line's texts are stored. -/
def base (code : String) : String :=
  if '[' ∈ code.toList then
    String.ofList (Text.trimEnd (code.toList.takeWhile (· != '[')))
  else code

/-- A code without an opening bracket is its own base. -/
theorem base_of_notMem {code : String} (h : '[' ∉ code.toList) : base code = code := by
  simp [base, h]

end Code

end Storyline
