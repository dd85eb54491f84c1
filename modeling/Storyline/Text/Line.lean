/-!
# Pieces and physical lines

A text is cut at every occurrence of a separator. A line ends at a line feed; a carriage return
before it stays with the line, but it is blank, so it goes when the line is trimmed.
-/

namespace Storyline.Text

/-- The pieces of a text between its separators: always one more than there are separators. -/
def pieces (separator : Char) : List Char → List (List Char)
  | [] => [[]]
  | c :: cs =>
    if c = separator then [] :: pieces separator cs
    else
      match pieces separator cs with
      | [] => [[c]]
      | l :: ls => (c :: l) :: ls

/-- The pieces of a text between its line feeds. -/
def lines (cs : List Char) : List (List Char) := pieces '\n' cs

/-- A text has one piece more than separators. -/
theorem length_pieces (separator : Char) (cs : List Char) :
    (pieces separator cs).length = cs.count separator + 1 := by
  induction cs with
  | nil => rfl
  | cons c cs ih =>
    by_cases h : c = separator
    · simp [pieces, h, ih]
    · cases hl : pieces separator cs with
      | nil => simp [hl] at ih
      | cons l ls => simp_all [pieces]

end Storyline.Text
