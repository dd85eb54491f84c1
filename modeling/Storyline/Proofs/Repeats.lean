import Mathlib.Data.Finset.Card
import Mathlib.Data.Finset.Dedup
import Storyline.Repeats

/-!
# Counting repetitions

An element of a list either is the first of its key or repeats an earlier one. So the repetitions
and the distinct keys together are as many as the elements.
-/

namespace Storyline

variable {α β : Type} [DecidableEq β]

/-- An element that does not repeat has a key of its own, apart from those that were seen. -/
theorem length_repeatsAfter_add_card (key : α → β) (seen : List β) (l : List α) :
    (repeatsAfter key seen l).length + ((l.map key).toFinset \ seen.toFinset).card =
      l.length := by
  induction l generalizing seen with
  | nil => simp [repeatsAfter]
  | cons a as ih =>
    rw [repeatsAfter, List.map_cons, List.toFinset_cons, List.length_cons]
    by_cases h : key a ∈ seen
    · rw [if_pos h, List.length_cons, Finset.insert_sdiff_of_mem _ (List.mem_toFinset.2 h),
        ← ih seen]
      omega
    · -- the key of the head is counted once, however often it comes back
      have hkeys : insert (key a) (as.map key).toFinset \ seen.toFinset =
          insert (key a) ((as.map key).toFinset \ (key a :: seen).toFinset) := by
        ext b
        by_cases hb : b = key a <;> simp [hb, h]
      rw [if_neg h, hkeys, Finset.card_insert_of_notMem (by simp), ← ih (key a :: seen)]
      omega

/-- The repetitions and the distinct keys together are as many as the elements. -/
theorem length_repeats_add_card (key : α → β) (l : List α) :
    (repeats key l).length + (l.map key).toFinset.card = l.length := by
  simpa [repeats] using length_repeatsAfter_add_card key [] l

end Storyline
