import Storyline.Code
import Storyline.Proofs.Script.Canonical

/-!
# Well-formed codes

A code that is a letter and a number is its own key, tells of which kind its line is, and is read
back from a script. Whatever a code looks like, its key tells the same kind.
-/

namespace Storyline.Code

variable {code : String}

/-- A well-formed code has no other characters than the two letters and digits. -/
theorem WellFormed.letter_or_isDigit (h : WellFormed code) {c : Char} (hc : c ∈ code.toList) :
    c = 'S' ∨ c = 'Z' ∨ c.isDigit = true := by
  obtain ⟨letter, number, hcode, hletter, -, hnumber⟩ := h
  rw [hcode, List.mem_cons] at hc
  rcases hc with rfl | hc
  · exact hletter.imp_right Or.inl
  · exact Or.inr (Or.inr (hnumber c hc))

/-- A well-formed code has no suffix. -/
theorem WellFormed.base_eq (h : WellFormed code) : base code = code := by
  apply base_of_notMem
  intro hc
  exact absurd (h.letter_or_isDigit hc) (by decide)

/-- Every well-formed code is of a kind. -/
theorem WellFormed.exists_kind? (h : WellFormed code) : ∃ kind, kind? code = some kind := by
  obtain ⟨letter, number, hcode, rfl | rfl, -⟩ := h
  · exact ⟨.static, by simp [kind?, hcode]⟩
  · exact ⟨.dynamic, by simp [kind?, hcode]⟩

/-- A well-formed code can be carried by a statement. -/
theorem WellFormed.plain (h : WellFormed code) : Plain code.toList := by
  have hnone : ∀ c, ¬ (c = 'S' ∨ c = 'Z' ∨ c.isDigit = true) → c ∉ code.toList :=
    fun c hc hmem ↦ hc (h.letter_or_isDigit hmem)
  refine ⟨fun c hc ↦ ?_, Text.not_infix_of_notMem (c := 'B') (by decide) (hnone 'B' (by decide)),
    Text.not_infix_of_notMem (c := 'P') (by decide) (hnone 'P' (by decide))⟩
  rcases h.letter_or_isDigit hc with rfl | rfl | hdigit
  · decide
  · decide
  · refine ⟨Text.isBlank_of_isDecimal (Text.isDecimal_of_isDigit hdigit), ?_, ?_⟩
    · rintro rfl
      exact absurd hdigit (by decide)
    · rintro rfl
      exact absurd hdigit (by decide)

/-- The kind of a code is told by its first letter. -/
theorem kind?_eq_bind_head? (code : String) :
    kind? code = code.toList.head?.bind fun c ↦
      if c = 'S' then some .static else if c = 'Z' then some .dynamic else none := by
  unfold kind?
  split
  · next h => rw [h]; rfl
  · next h => rw [h]; rfl
  · next hstatic hdynamic =>
    cases hcode : code.toList with
    | nil => rfl
    | cons c cs =>
      have hS : c ≠ 'S' := fun h ↦ hstatic cs (h ▸ hcode)
      have hZ : c ≠ 'Z' := fun h ↦ hdynamic cs (h ▸ hcode)
      simp [hS, hZ]

/-- A code is dynamic when it starts with the letter of dynamic codes. -/
theorem kind?_eq_some_dynamic_iff {code : String} :
    kind? code = some .dynamic ↔ code.toList.head? = some 'Z' := by
  rw [kind?_eq_bind_head?]
  cases code.toList.head? with
  | none => simp
  | some c =>
    rw [Option.bind_some, Option.some.injEq]
    split
    · next h => simp [h]
    · split <;> simp_all

/-- A code and its key are of the same kind: what is cut off behind a letter does not reach it. -/
theorem kind?_base (code : String) : kind? (base code) = kind? code := by
  by_cases hbracket : '[' ∈ code.toList
  · have hbase : (base code).toList = Text.trimEnd (code.toList.takeWhile (· != '[')) := by
      simp [base, hbracket]
    have hprefix : (base code).toList <+: code.toList := by
      rw [hbase]
      exact (Text.trimEnd_isPrefix _).trans (List.takeWhile_prefix _)
    rw [kind?_eq_bind_head?, kind?_eq_bind_head?]
    cases hkey : (base code).toList with
    | cons d ds =>
      obtain ⟨rest, hrest⟩ := hkey ▸ hprefix
      rw [← hrest]
      rfl
    | nil =>
      cases hcode : code.toList with
      | nil => rfl
      | cons c cs =>
        have hletter : ¬ (c = 'S' ∨ c = 'Z') := by
          intro hletter
          have hc : c ≠ '[' ∧ Text.isBlank c = false := by
            rcases hletter with rfl | rfl <;> decide
          have hlast : Text.NoBlankLast [c] := by simp [Text.NoBlankLast, hc.2]
          rw [hcode, List.takeWhile_cons_of_pos (by simpa using hc.1), ← List.singleton_append,
            hlast.trimEnd_append, hkey] at hbase
          exact List.cons_ne_nil _ _ hbase.symm
        simp [not_or.1 hletter]
  · rw [base_of_notMem hbracket]

end Storyline.Code
