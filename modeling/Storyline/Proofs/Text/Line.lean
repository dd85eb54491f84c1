import Storyline.Text.Line
import Storyline.Proofs.Text.Occurrence

/-!
# The lines of a text that was put together

Cutting a text at its line feeds undoes ending each of its lines with one. The text after the last
line feed is a line of its own, so a text in which every line is ended has an empty one behind them.
-/

namespace Storyline.Text

/-- Cutting begins a new piece at every separator. -/
theorem pieces_append (separator : Char) (a b : List Char) :
    pieces separator (a ++ separator :: b) = pieces separator a ++ pieces separator b := by
  induction a with
  | nil => simp [pieces]
  | cons c a ih =>
    by_cases hc : c = separator
    · simp [pieces, hc, ih]
    · cases hp : pieces separator a with
      | nil =>
        have := length_pieces separator a
        simp [hp] at this
      | cons p ps => simp [pieces, hc, ih, hp]

/-- A character that is no separator belongs to the first piece. -/
theorem pieces_cons_of_ne {separator c : Char} (hc : c ≠ separator) {cs piece : List Char}
    {rest : List (List Char)} (h : pieces separator cs = piece :: rest) :
    pieces separator (c :: cs) = (c :: piece) :: rest := by
  rw [pieces, if_neg hc, h]

/-- A text without separators is one piece. -/
theorem pieces_of_notMem {separator : Char} {cs : List Char} (h : separator ∉ cs) :
    pieces separator cs = [cs] := by
  induction cs with
  | nil => rfl
  | cons c cs ih =>
    rw [List.mem_cons, not_or] at h
    simp [pieces, Ne.symm h.1, ih h.2]

/-- No piece of a text contains the separator. -/
theorem notMem_of_mem_pieces {separator : Char} {cs piece : List Char}
    (h : piece ∈ pieces separator cs) : separator ∉ piece := by
  induction cs generalizing piece with
  | nil => simp_all [pieces]
  | cons c cs ih =>
    by_cases hc : c = separator
    · simp only [pieces, hc, if_true, List.mem_cons] at h
      rcases h with rfl | h
      · simp
      · exact ih h
    · cases hp : pieces separator cs with
      | nil => simp_all [pieces, Ne.symm hc]
      | cons p ps =>
        simp only [pieces, hc, if_false, hp, List.mem_cons] at h
        rcases h with rfl | h
        · have hp' : separator ∉ p := ih (by simp [hp])
          simp [Ne.symm hc, hp']
        · exact ih (by simp [hp, h])

/-- No line of a text contains a line feed. -/
theorem notMem_of_mem_lines {cs line : List Char} (h : line ∈ lines cs) : '\n' ∉ line :=
  notMem_of_mem_pieces h

/-- Lines that are each ended by a line feed are the lines of the text they make, before an empty
one. -/
theorem lines_flatMap {ls : List (List Char)} (h : ∀ l ∈ ls, '\n' ∉ l) :
    lines (ls.flatMap fun l ↦ l ++ ['\n']) = ls ++ [[]] := by
  induction ls with
  | nil => rfl
  | cons l ls ih =>
    have hl : '\n' ∉ l := h l List.mem_cons_self
    have hls : lines (ls.flatMap fun l ↦ l ++ ['\n']) = ls ++ [[]] :=
      ih fun k hk ↦ h k (List.mem_cons_of_mem l hk)
    rw [lines] at hls ⊢
    rw [List.flatMap_cons, List.append_assoc, List.singleton_append, pieces_append,
      pieces_of_notMem hl, hls, List.singleton_append, List.cons_append]

/-- A line with an empty line behind it. -/
theorem lines_append_blank {line : List Char} (h : '\n' ∉ line) (rest : List Char) :
    lines (line ++ (['\n', '\n'] ++ rest)) = line :: [] :: lines rest := by
  have hrest : lines ('\n' :: rest) = [] :: lines rest := pieces_append '\n' [] rest
  rw [← hrest, lines, List.cons_append, List.singleton_append, pieces_append, pieces_of_notMem h]
  rfl

/-- Texts of one line with an empty line between any two of them can be told from what they make
together, if it is known how many they are. -/
theorem intercalate_blank_inj {ls ls' : List (List Char)} (h : ∀ l ∈ ls, '\n' ∉ l)
    (h' : ∀ l ∈ ls', '\n' ∉ l) (hlength : ls.length = ls'.length) :
    ['\n', '\n'].intercalate ls = ['\n', '\n'].intercalate ls' ↔ ls = ls' := by
  refine ⟨fun heq ↦ ?_, fun heq ↦ by rw [heq]⟩
  induction ls generalizing ls' with
  | nil => exact (List.length_eq_zero_iff.1 hlength.symm).symm
  | cons l ls ih =>
    obtain ⟨l', ls', rfl⟩ := List.exists_cons_of_length_eq_add_one hlength.symm
    rw [List.forall_mem_cons] at h h'
    have hrest : ls.length = ls'.length := Nat.succ.inj hlength
    cases ls with
    | nil =>
      obtain rfl := List.length_eq_zero_iff.1 hrest.symm
      simpa using heq
    | cons k ks =>
      obtain ⟨k', ks', rfl⟩ := List.exists_cons_of_length_eq_add_one hrest.symm
      rw [List.intercalate_cons_cons, List.intercalate_cons_cons, List.append_assoc,
        List.append_assoc] at heq
      obtain ⟨rfl, hblank⟩ := (append_cons_inj h.1 h'.1).1 heq
      rw [ih h.2 h'.2 hrest (List.append_cancel_left hblank)]

end Storyline.Text
