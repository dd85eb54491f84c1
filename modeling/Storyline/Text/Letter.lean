/-!
# Letters up to ASCII case

Keywords, the word that ends a container and lector names are compared without regard to the case
of the letters A to Z. No other character has a case here.
-/

namespace Storyline.Text

/-- Whether two texts agree up to the case of ASCII letters. -/
def eqIgnoringCase (a b : List Char) : Bool :=
  a.map Char.toLower == b.map Char.toLower

/-- The text after a leading `word`, matched up to the case of ASCII letters. -/
def dropWord? : (word cs : List Char) → Option (List Char)
  | [], cs => some cs
  | _ :: _, [] => none
  | w :: ws, c :: cs => if w.toLower = c.toLower then dropWord? ws cs else none

/-- Two texts are the same but for case exactly if they are the same in lower case. -/
theorem eqIgnoringCase_iff {a b : List Char} :
    eqIgnoringCase a b = true ↔ a.map Char.toLower = b.map Char.toLower := by
  simp [eqIgnoringCase]

end Storyline.Text
