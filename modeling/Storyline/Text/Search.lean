import Storyline.Text.Blank

/-!
# Searching a text

A recogniser is a function that reads from the front of a text and may fail. These functions try
one at successive places and keep the first success.
-/

namespace Storyline.Text

variable {α : Type}

/-- The text after a leading `word`. -/
def dropPrefix? : (word cs : List Char) → Option (List Char)
  | [], cs => some cs
  | _ :: _, [] => none
  | w :: ws, c :: cs => if w = c then dropPrefix? ws cs else none

/-- A word is read exactly where the text starts with it. -/
theorem dropPrefix?_eq_some_iff {word cs rest : List Char} :
    dropPrefix? word cs = some rest ↔ cs = word ++ rest := by
  fun_induction dropPrefix? word cs <;> simp_all [eq_comm]

/-- The result of `f` at the first place of the text where it succeeds, the end included. -/
def findAnywhere? (f : List Char → Option α) : List Char → Option α
  | [] => f []
  | c :: cs => (f (c :: cs)).or (findAnywhere? f cs)

/-- The result of `f` at the first place that directly follows a blank. -/
def findAfterBlank? (f : List Char → Option α) : List Char → Option α
  | [] => none
  | c :: cs => (if isBlank c then f cs else none).or (findAfterBlank? f cs)

/-- A search fails exactly when it fails at every place. -/
theorem findAnywhere?_eq_none_iff {f : List Char → Option α} {cs : List Char} :
    findAnywhere? f cs = none ↔ ∀ rest, rest <:+ cs → f rest = none := by
  induction cs with
  | nil => simp [findAnywhere?]
  | cons c cs ih => simp [findAnywhere?, ih, List.suffix_cons_iff]

/-- Whether `word` occurs somewhere in the text. -/
def contains (word cs : List Char) : Bool :=
  (findAnywhere? (dropPrefix? word) cs).isSome

/-- A word is found exactly if it occurs. -/
theorem contains_iff {word cs : List Char} : contains word cs = true ↔ word <:+: cs := by
  constructor
  · intro h
    -- a success of the search is one at some suffix
    have hne : ¬ findAnywhere? (dropPrefix? word) cs = none := by
      simpa [contains, Option.isSome_iff_ne_none] using h
    rw [findAnywhere?_eq_none_iff] at hne
    obtain ⟨rest, ⟨front, rfl⟩, hrest⟩ : ∃ rest, rest <:+ cs ∧ dropPrefix? word rest ≠ none := by
      simpa using hne
    obtain ⟨after, hafter⟩ := Option.ne_none_iff_exists'.1 hrest
    exact ⟨front, after, by simp [dropPrefix?_eq_some_iff.1 hafter]⟩
  · rintro ⟨front, after, rfl⟩
    rw [contains, Option.isSome_iff_ne_none, ne_eq, findAnywhere?_eq_none_iff]
    intro h
    have := h (word ++ after) ⟨front, by simp⟩
    rw [dropPrefix?_eq_some_iff.2 rfl] at this
    simp at this

end Storyline.Text
