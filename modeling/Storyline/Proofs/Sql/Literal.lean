import Storyline.Sql

/-!
# Literals in SQL

A literal is read without knowing what was written: it starts with a quote, two quotes in a row
stand for one, and the first other quote ends it. The reader gets back what a literal was written
for, whatever quotes the value has, and stops right behind the literal unless a quote follows there.
-/

namespace Storyline.Sql

/-- Reads the rest of a literal behind its first quote: the value up to the first quote that stands
alone, and what follows that quote. -/
def literalBody? : List Char → Option (List Char × List Char)
  | [] => none
  | '\'' :: '\'' :: cs => (literalBody? cs).map fun (value, rest) ↦ ('\'' :: value, rest)
  | '\'' :: cs => some ([], cs)
  | c :: cs => (literalBody? cs).map fun (value, rest) ↦ (c :: value, rest)

/-- Reads a literal from the front of a text: its value, and what follows the literal. -/
def literal? : List Char → Option (List Char × List Char)
  | '\'' :: cs => literalBody? cs
  | _ => none

/-- Quotes are doubled and all other characters are kept. -/
theorem escape_cons (c : Char) (cs : List Char) :
    escape (c :: cs) = (if c = '\'' then ['\'', '\''] else [c]) ++ escape cs :=
  List.flatMap_cons

private theorem toList_literal (value : String) :
    (literal value).toList = '\'' :: (escape value.toList ++ ['\'']) := by
  simp [literal]

/-- The rest of a literal is read as its value, if no quote follows it. -/
theorem literalBody?_escape (value : List Char) {rest : List Char}
    (h : rest.head? ≠ some '\'') :
    literalBody? (escape value ++ '\'' :: rest) = some (value, rest) := by
  induction value with
  | nil =>
    -- a quote behind the last one would make both stand for one
    rw [escape, List.flatMap_nil, List.nil_append, literalBody?]
    rintro _ rfl
    exact h rfl
  | cons c value ih =>
    by_cases hc : c = '\''
    · subst hc
      rw [escape_cons, if_pos rfl, List.append_assoc, List.cons_append, List.singleton_append,
        literalBody?, ih, Option.map_some]
    · rw [escape_cons, if_neg hc, List.append_assoc, List.singleton_append, literalBody?, ih,
        Option.map_some]
      · exact fun _ h ↦ absurd h hc
      · exact hc

/-- Whatever is read as the rest of a literal is the rest of one, and no quote follows it. -/
theorem of_literalBody?_eq_some {cs value rest : List Char}
    (h : literalBody? cs = some (value, rest)) :
    cs = escape value ++ '\'' :: rest ∧ rest.head? ≠ some '\'' := by
  fun_induction literalBody? cs generalizing value with
  | case1 => exact absurd h (by simp)
  | case2 cs ih =>
    obtain ⟨⟨tail, rest'⟩, htail, heq⟩ := Option.map_eq_some_iff.1 h
    obtain ⟨rfl, rfl⟩ := Prod.mk.inj heq
    obtain ⟨rfl, hrest⟩ := ih htail
    exact ⟨by rw [escape_cons, if_pos rfl]; rfl, hrest⟩
  | case3 cs hcs =>
    obtain ⟨rfl, rfl⟩ := Prod.mk.inj (Option.some.inj h)
    refine ⟨rfl, fun hquote ↦ ?_⟩
    obtain ⟨cs', rfl⟩ := List.head?_eq_some_iff.1 hquote
    exact hcs cs' rfl
  | case4 c cs hpair hquote ih =>
    obtain ⟨⟨tail, rest'⟩, htail, heq⟩ := Option.map_eq_some_iff.1 h
    obtain ⟨rfl, rfl⟩ := Prod.mk.inj heq
    obtain ⟨rfl, hrest⟩ := ih htail
    exact ⟨by rw [escape_cons, if_neg hquote]; rfl, hrest⟩

/-- A literal is read where one stands and no quote follows it, and nowhere else. -/
theorem literal?_eq_some_iff {cs rest : List Char} {value : String} :
    literal? cs = some (value.toList, rest) ↔
      cs = (literal value).toList ++ rest ∧ rest.head? ≠ some '\'' := by
  rw [toList_literal, List.cons_append, List.append_assoc, List.singleton_append]
  constructor
  · intro h
    cases cs with
    | nil => exact absurd h (by simp [literal?])
    | cons c cs =>
      by_cases hc : c = '\''
      · subst hc
        obtain ⟨rfl, hrest⟩ := of_literalBody?_eq_some h
        exact ⟨rfl, hrest⟩
      · simp [literal?, hc] at h
  · rintro ⟨rfl, hrest⟩
    exact literalBody?_escape value.toList hrest

/-- A literal stands for one value only. -/
theorem literal_injective : Function.Injective literal := by
  intro a b h
  have hread : ∀ value, literal? (literal value).toList = some (value.toList, []) := fun value ↦
    literal?_eq_some_iff.2 ⟨(List.append_nil _).symm, by decide⟩
  have hvalues := hread a
  rw [h, hread b, Option.some.injEq, Prod.mk.injEq] at hvalues
  exact String.toList_inj.1 hvalues.1.symm

/-- A literal is read back wherever it stands, exactly unless a quote follows it: no more and no
less than the literal is read, as the value that it was written for. No other text is read so, and
different values have different literals. -/
theorem literals_read_back (value : String) (rest : List Char) :
    (literal? ((literal value).toList ++ rest) = some (value.toList, rest) ↔
        rest.head? ≠ some '\'') ∧
      (∀ cs, literal? cs = some (value.toList, rest) → cs = (literal value).toList ++ rest) ∧
      Function.Injective literal := by
  refine ⟨?_, fun cs h ↦ (literal?_eq_some_iff.1 h).1, literal_injective⟩
  rw [literal?_eq_some_iff, eq_self_iff_true, true_and]

/-- A value that is a quote is told from the quotes around it. -/
example : literal? "''''; --".toList = some ("'".toList, "; --".toList) := by decide

end Storyline.Sql
