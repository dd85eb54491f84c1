import Mathlib.Data.List.TakeWhile
import Mathlib.Data.Nat.Find
import Storyline.Proofs.Text.Occurrence
import Storyline.Proofs.Text.Trim

/-!
# Runs and places

What a recogniser reads can be told without running it. Characters of one class are read up to the
end of the longest run of them, and a search at the start of a text and behind its blanks finds what
stands at the first of these places where anything is found.
-/

namespace Storyline.Text

variable {α : Type}

/-! ### Runs at the front of a text -/

/-- The longest part at the front of a text that has characters of one class only. -/
structure LongestRun (p : Char → Bool) (cs run : List Char) : Prop where
  /-- The run stands at the front. -/
  front : run <+: cs
  /-- Its characters are of the class. -/
  chars : ∀ c ∈ run, p c = true
  /-- No other such part is longer. -/
  longest : ∀ other, other <+: cs → (∀ c ∈ other, p c = true) → other.length ≤ run.length

/-- What is read while the characters are of a class is the longest run of them. -/
theorem longestRun_iff {p : Char → Bool} {cs run : List Char} :
    LongestRun p cs run ↔ run = cs.takeWhile p := by
  have htake : LongestRun p cs (cs.takeWhile p) := by
    refine ⟨List.takeWhile_prefix p, fun c hc ↦ List.mem_takeWhile_imp hc, fun other hother hp ↦ ?_⟩
    obtain ⟨rest, rfl⟩ := hother
    rw [List.takeWhile_append_of_pos hp, List.length_append]
    exact Nat.le_add_right _ _
  constructor
  · intro h
    have hlength : run.length = (cs.takeWhile p).length :=
      Nat.le_antisymm (htake.longest run h.front h.chars) (h.longest _ htake.front htake.chars)
    exact (List.prefix_of_prefix_length_le h.front htake.front hlength.le).eq_of_length hlength
  · rintro rfl
    exact htake

/-! ### Places of a text -/

/-- What is written behind this much of a text stands at its start or directly behind a blank. -/
def Opens (front : List Char) : Prop := ∀ c ∈ front.getLast?, isBlank c = true

instance (front : List Char) : Decidable (Opens front) :=
  inferInstanceAs (Decidable (∀ c ∈ front.getLast?, isBlank c = true))

/-- A text is cut at the first of its places where `P` holds of what stands there. -/
structure FirstPlace (P : List Char → Prop) (cs front rest : List Char) : Prop where
  /-- The text is cut. -/
  split : cs = front ++ rest
  /-- The cut is at the start or behind a blank. -/
  opens : Opens front
  /-- `P` holds of what stands behind the cut. -/
  holds : P rest
  /-- `P` holds at no earlier place. -/
  first : ∀ earlier later, cs = earlier ++ later → Opens earlier → P later →
    front.length ≤ earlier.length

/-- A place is the first one if `P` holds there and at none of the places that are counted up to
it. -/
theorem firstPlace_iff {P : List Char → Prop} {cs front rest : List Char} :
    FirstPlace P cs front rest ↔
      (cs = front ++ rest ∧ Opens front ∧ P rest) ∧
        ∀ n < front.length, Opens (cs.take n) → ¬ P (cs.drop n) := by
  constructor
  · rintro ⟨hsplit, hopens, hrest, hfirst⟩
    refine ⟨⟨hsplit, hopens, hrest⟩, fun n hn hearlier hlater ↦ ?_⟩
    have hle := hfirst _ _ (List.take_append_drop n cs).symm hearlier hlater
    rw [List.length_take] at hle
    omega
  · rintro ⟨⟨hsplit, hopens, hrest⟩, hnone⟩
    refine ⟨hsplit, hopens, hrest, fun earlier later hcut hearlier hlater ↦ ?_⟩
    subst hcut
    by_contra hlt
    have hn := hnone earlier.length (Nat.lt_of_not_le hlt)
    rw [List.take_left, List.drop_left] at hn
    exact hn hearlier hlater

instance (P : List Char → Prop) [DecidablePred P] (cs front rest : List Char) :
    Decidable (FirstPlace P cs front rest) :=
  decidable_of_iff _ firstPlace_iff.symm

/-- If there is a place at all, there is a first one. -/
theorem exists_firstPlace {P : List Char → Prop} {cs : List Char}
    (h : ∃ front rest, cs = front ++ rest ∧ Opens front ∧ P rest) :
    ∃ front rest, FirstPlace P cs front rest := by
  classical
  have hlength : ∃ n front rest, cs = front ++ rest ∧ Opens front ∧ P rest ∧ front.length = n := by
    obtain ⟨front, rest, hsplit, hopens, hrest⟩ := h
    exact ⟨front.length, front, rest, hsplit, hopens, hrest, rfl⟩
  obtain ⟨front, rest, hsplit, hopens, hrest, hfind⟩ := Nat.find_spec hlength
  refine ⟨front, rest, hsplit, hopens, hrest, fun earlier later hcut hearlier hlater ↦ ?_⟩
  rw [hfind]
  exact Nat.find_min' hlength ⟨earlier, later, hcut, hearlier, hlater, rfl⟩

/-- A search at the start and behind blanks finds what stands at the first place where it
succeeds. -/
theorem search_of_firstPlace {f : List Char → Option α} {cs front rest : List Char}
    (h : FirstPlace (fun rest ↦ (f rest).isSome = true) cs front rest) :
    (f cs).or (findAfterBlank? f cs) = f rest := by
  obtain ⟨rfl, hopens, hrest, hfirst⟩ := h
  obtain ⟨x, hx⟩ := Option.isSome_iff_exists.1 hrest
  -- before the first place the search fails
  have hearlier : ∀ earlier more, front = earlier ++ more → more ≠ [] → Opens earlier →
      f (more ++ rest) = none := by
    intro earlier more hfront hne hopens
    rw [← Option.not_isSome_iff_eq_none]
    intro hsome
    have hle := hfirst earlier (more ++ rest) (by rw [hfront, List.append_assoc]) hopens hsome
    rw [hfront, List.length_append] at hle
    have hpos : 0 < more.length := List.length_pos_iff.2 hne
    omega
  rcases List.eq_nil_or_concat front with rfl | ⟨init, c, rfl⟩
  · rw [List.nil_append, hx, Option.some_or]
  · rw [List.concat_eq_append] at hopens hearlier ⊢
    have hblank : isBlank c = true := hopens c (by simp)
    have hstart : f (init ++ [c] ++ rest) = none :=
      hearlier [] (init ++ [c]) rfl (by simp) (by simp [Opens])
    rw [hstart, Option.none_or, ← List.append_cons, findAfterBlank?_append, findAfterBlank?,
      if_pos hblank, hx, Option.some_or]
    rintro d more ⟨before, rfl⟩ hd
    rw [List.append_cons]
    exact hearlier (before ++ [d]) (more ++ [c]) (by simp) (by simp) (by simpa [Opens] using hd)

/-- Such a search fails exactly if it fails at each of these places. -/
theorem search_eq_none_iff {f : List Char → Option α} {cs : List Char} :
    (f cs).or (findAfterBlank? f cs) = none ↔
      ∀ front rest, cs = front ++ rest → Opens front → f rest = none := by
  constructor
  · intro h front rest hsplit hopens
    rw [← Option.not_isSome_iff_eq_none]
    intro hsome
    obtain ⟨first, found, hfirst⟩ := exists_firstPlace
      (P := fun rest ↦ (f rest).isSome = true) ⟨front, rest, hsplit, hopens, hsome⟩
    have hfound := hfirst.holds
    rw [← search_of_firstPlace hfirst, h] at hfound
    exact absurd hfound (by simp)
  · intro h
    have hbehind : findAfterBlank? f (cs ++ []) = findAfterBlank? f [] := by
      refine findAfterBlank?_append fun c rest hsuffix hblank ↦ ?_
      obtain ⟨before, rfl⟩ := hsuffix
      rw [List.append_nil]
      exact h (before ++ [c]) rest (by simp) (by simpa [Opens] using hblank)
    rw [h [] cs rfl (by simp [Opens]), Option.none_or, ← List.append_nil cs, hbehind]
    rfl

end Storyline.Text
