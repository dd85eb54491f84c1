/-!
# Repeated keys

Which elements of a list have a key that occurred before them.
-/

namespace Storyline

variable {α β : Type} [DecidableEq β]

/-- The elements whose key is among `seen` or belongs to an earlier element, in order. -/
def repeatsAfter (key : α → β) (seen : List β) : List α → List α
  | [] => []
  | a :: as =>
    if key a ∈ seen then a :: repeatsAfter key seen as
    else repeatsAfter key (key a :: seen) as

/-- The elements whose key belongs to an earlier element, in order. -/
def repeats (key : α → β) (l : List α) : List α :=
  repeatsAfter key [] l

private theorem repeatsAfter_eq_nil_iff (key : α → β) (seen : List β) (l : List α) :
    repeatsAfter key seen l = [] ↔ (l.map key).Nodup ∧ ∀ a ∈ l, key a ∉ seen := by
  induction l generalizing seen with
  | nil => simp [repeatsAfter]
  | cons a as ih =>
    by_cases h : key a ∈ seen
    · simp [repeatsAfter, h]
    · -- the key of the head joins those that later elements must avoid
      simp only [repeatsAfter, h, if_false, ih, List.map_cons, List.nodup_cons, List.mem_map,
        List.mem_cons, not_or, forall_eq_or_imp, not_false_eq_true, true_and]
      constructor
      · rintro ⟨hnodup, hall⟩
        exact ⟨⟨fun ⟨b, hb, e⟩ ↦ (hall b hb).1 e, hnodup⟩, fun b hb ↦ (hall b hb).2⟩
      · rintro ⟨⟨hhead, hnodup⟩, hall⟩
        exact ⟨hnodup, fun b hb ↦ ⟨fun e ↦ hhead ⟨b, hb, e⟩, hall b hb⟩⟩

/-- Nothing repeats exactly when the keys are pairwise distinct. -/
theorem repeats_eq_nil_iff {key : α → β} {l : List α} :
    repeats key l = [] ↔ (l.map key).Nodup := by
  simp [repeats, repeatsAfter_eq_nil_iff]

end Storyline
