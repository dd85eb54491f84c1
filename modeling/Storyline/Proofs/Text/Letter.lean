import Mathlib
import Storyline.Text.Letter

/-!
# Words in letters of either case

A character that is no letter is written in one way only. So a word cannot reach beyond a character
of that kind which it lacks, and a word that ends at one stands in front of it as a whole.
-/

namespace Storyline.Text

/-- What is no letter has no second case. -/
theorem toLower_eq_iff {c d : Char} (hd : d.isAlpha = false) : c.toLower = d ↔ c = d := by
  have hsame : ∀ {c : Char}, c.isAlpha = false → c.toLower = c := by
    intro c hc
    rw [Char.isAlpha, Bool.or_eq_false_iff] at hc
    exact Char.toLower_eq_of_not_isUpper (Bool.eq_false_iff.1 hc.1)
  constructor
  · rintro rfl
    rw [Char.isAlpha_toLower_eq_isAlpha] at hd
    exact (hsame hd).symm
  · rintro rfl
    exact hsame hd

/-- A word that was not read from a text is not read where a character follows that it lacks. -/
theorem dropWord?_append_cons {word cs : List Char} {d : Char} (hd : d.isAlpha = false)
    (hword : d ∉ word) (h : dropWord? word cs = none) (rest : List Char) :
    dropWord? word (cs ++ d :: rest) = none := by
  fun_induction dropWord? word cs with
  | case1 => exact absurd h (by simp)
  | case2 w ws =>
    have hne : w.toLower ≠ d.toLower := by
      rw [(toLower_eq_iff hd).2 rfl, ne_eq, toLower_eq_iff hd]
      rintro rfl
      exact hword List.mem_cons_self
    rw [List.nil_append, dropWord?, if_neg hne]
  | case3 w ws c cs heq ih =>
    rw [List.cons_append, dropWord?, if_pos heq]
    exact ih (fun hmem ↦ hword (List.mem_cons_of_mem w hmem)) h
  | case4 w ws c cs hne => rw [List.cons_append, dropWord?, if_neg hne]

/-- A word with a character that is no letter is not read from a text that lacks it. -/
theorem dropWord?_eq_none_of_notMem {word cs : List Char} {d : Char} (hd : d.isAlpha = false)
    (hword : d ∈ word) (hcs : d ∉ cs) : dropWord? word cs = none := by
  fun_induction dropWord? word cs with
  | case1 => exact absurd hword (by simp)
  | case2 => rfl
  | case3 w ws c cs heq ih =>
    rw [List.mem_cons, not_or] at hcs
    refine ih ((List.mem_cons.1 hword).resolve_left ?_) hcs.2
    rintro rfl
    exact hcs.1 ((toLower_eq_iff hd).1 (heq.symm.trans ((toLower_eq_iff hd).2 rfl))).symm
  | case4 => rfl

/-- A word that ends at a character which is no letter is read where it stands in front of the first
such character. -/
theorem dropWord?_concat {word cs : List Char} {d : Char} (hd : d.isAlpha = false)
    (hword : d ∉ word) (hcs : d ∉ cs) (rest : List Char) :
    dropWord? (word ++ [d]) (cs ++ d :: rest) =
      if eqIgnoringCase cs word = true then some rest else none := by
  have hsame : d.toLower = d := (toLower_eq_iff hd).2 rfl
  induction word generalizing cs with
  | nil =>
    cases cs with
    | nil => simp [dropWord?, eqIgnoringCase]
    | cons c cs =>
      have hne : d.toLower ≠ c.toLower := by
        rw [hsame]
        exact fun h ↦ hcs (by simp [(toLower_eq_iff hd).1 h.symm])
      simp [dropWord?, eqIgnoringCase, hne]
  | cons w ws ih =>
    rw [List.mem_cons, not_or] at hword
    cases cs with
    | nil =>
      have hne : w.toLower ≠ d.toLower := by
        rw [hsame]
        exact fun h ↦ hword.1 ((toLower_eq_iff hd).1 h).symm
      simp [dropWord?, eqIgnoringCase, hne]
    | cons c cs =>
      rw [List.mem_cons, not_or] at hcs
      rw [List.cons_append, List.cons_append, dropWord?, ih hword.2 hcs.2]
      by_cases heq : w.toLower = c.toLower
      · simp [eqIgnoringCase, heq]
      · simp [eqIgnoringCase, heq, Ne.symm heq]

end Storyline.Text
