import Storyline.Proofs.Dsl.Outline

/-!
# Which containers enclose a block

The nesting of a story is not stored. It follows from the ranks of the blocks: a container stays
open until a block comes that is not of a higher rank. Here the open containers are read off the
blocks that come before a place, and `Nesting.depth` is shown to count them.
-/

namespace Storyline.Dsl

/-- The rank of the block at a place of a story. -/
def rankAt (kinds : List BlockKind) (i : Nat) : Nat :=
  (kinds[i]?.map rank).getD 3

/-- The container at the place `i` is of a rank below `r` and still open in front of the place `j`:
behind it only blocks of higher ranks came. -/
def IsOpen (kinds : List BlockKind) (r j i : Nat) : Prop :=
  rankAt kinds i < r ∧ ∀ k < j, i < k → rankAt kinds i < rankAt kinds k

instance (kinds : List BlockKind) (r j i : Nat) : Decidable (IsOpen kinds r j i) :=
  inferInstanceAs
    (Decidable (rankAt kinds i < r ∧ ∀ k < j, i < k → rankAt kinds i < rankAt kinds k))

/-- The containers of a rank below `r` that are open in front of a place, the latest first. -/
def openBelow (kinds : List BlockKind) (r j : Nat) : List Nat :=
  ((List.range j).filter (IsOpen kinds r j ·)).reverse

/-- The containers that enclose the block at a place, the innermost first. An episode encloses the
blocks up to the next episode, a chapter those up to the next chapter or episode, and a background
those up to the next container; and no container encloses one that is not of a higher rank. -/
def enclosing (kinds : List BlockKind) (j : Nat) : List Nat :=
  openBelow kinds (rankAt kinds j) j

variable {kinds : List BlockKind}

/-- A container encloses a block if it is the latest of its rank before the block, no container of a
lower rank came in between, and the block itself is of a higher rank. -/
theorem mem_enclosing_iff {i j : Nat} :
    i ∈ enclosing kinds j ↔ i < j ∧ rankAt kinds i < rankAt kinds j ∧
      ∀ k < j, i < k → rankAt kinds i < rankAt kinds k := by
  rw [enclosing, openBelow, List.mem_reverse, List.mem_filter, List.mem_range, decide_eq_true_iff,
    IsOpen]

/-- No container has a rank below that of an episode. -/
@[simp] theorem openBelow_zero_rank (j : Nat) : openBelow kinds 0 j = [] := by
  simp [openBelow, IsOpen]

/-- A block leaves those containers open that are of a lower rank. -/
theorem isOpen_succ_iff {r j i : Nat} (h : i < j) :
    IsOpen kinds r (j + 1) i ↔ IsOpen kinds (min r (rankAt kinds j)) j i := by
  constructor
  · rintro ⟨hr, hlater⟩
    exact ⟨Nat.lt_min.2 ⟨hr, hlater j (Nat.lt_succ_self j) h⟩, fun k hk ↦ hlater k (by omega)⟩
  · rintro ⟨hr, hlater⟩
    obtain ⟨hr, hj⟩ := Nat.lt_min.1 hr
    refine ⟨hr, fun k hk hik ↦ ?_⟩
    rcases Nat.lt_succ_iff_lt_or_eq.1 hk with hk | rfl
    · exact hlater k hk hik
    · exact hj

/-- A block closes the containers that are not of a lower rank, and is then open itself if its rank
counts. -/
theorem openBelow_succ (r j : Nat) :
    openBelow kinds r (j + 1) =
      if rankAt kinds j < r then j :: openBelow kinds (rankAt kinds j) j
      else openBelow kinds r j := by
  have hearlier : (List.range j).filter (IsOpen kinds r (j + 1) ·) =
      (List.range j).filter (IsOpen kinds (min r (rankAt kinds j)) j ·) := by
    apply List.filter_congr
    intro i hi
    exact decide_eq_decide.2 (isOpen_succ_iff (List.mem_range.1 hi))
  have hself : IsOpen kinds r (j + 1) j ↔ rankAt kinds j < r :=
    and_iff_left fun k hk hjk ↦ by omega
  rw [openBelow, List.range_succ, List.filter_append, hearlier, List.reverse_append]
  split
  · next hr =>
    rw [Nat.min_eq_right (Nat.le_of_lt hr), List.filter_cons_of_pos (by simpa [hself])]
    rfl
  · next hr =>
    rw [Nat.min_eq_left (Nat.le_of_not_lt hr), List.filter_cons_of_neg (by simpa [hself] using hr)]
    rfl

/-- The containers of low ranks were opened before the others. -/
theorem exists_openBelow_eq_append {r low : Nat} (h : low ≤ r) (j : Nat) :
    ∃ front, openBelow kinds r j = front ++ openBelow kinds low j := by
  induction j generalizing r low with
  | zero => exact ⟨[], rfl⟩
  | succ j ih =>
    rw [openBelow_succ, openBelow_succ]
    by_cases hlow : rankAt kinds j < low
    · rw [if_pos hlow, if_pos (by omega)]
      exact ⟨[], rfl⟩
    · rw [if_neg hlow]
      split
      · obtain ⟨front, hfront⟩ := ih (show low ≤ rankAt kinds j by omega)
        exact ⟨j :: front, by rw [hfront, List.cons_append]⟩
      · exact ih h

/-- A block changes the depths as it changes the open containers. -/
theorem depth_after (n : Nesting) (kind : BlockKind) {r : Nat} (h : r ≤ 3) :
    (n.after kind).depth r = if rank kind < r then n.depth (rank kind) + 1 else n.depth r := by
  obtain rfl | rfl | rfl | rfl : r = 0 ∨ r = 1 ∨ r = 2 ∨ r = 3 := by omega
  all_goals
    obtain ⟨_ | _, _ | _, _ | _⟩ := n <;> cases kind <;> rfl

/-- The nesting counts the containers that are open in front of a place. -/
def Nesting.Counts (kinds : List BlockKind) (j : Nat) (n : Nesting) : Prop :=
  ∀ r ≤ 3, n.depth r = (openBelow kinds r j).length

/-- No rank is above that of a block that is no container. -/
theorem rank_le (kind : BlockKind) : rank kind ≤ 3 := by
  cases kind with
  | episode | chapter | background => exact Nat.le_of_ble_eq_true rfl
  | pause | line => exact Nat.le_refl 3

/-- The rank at a place is that of the block there. -/
theorem rankAt_of_getElem? {j : Nat} {kind : BlockKind} (h : kinds[j]? = some kind) :
    rankAt kinds j = rank kind := by
  rw [rankAt, h, Option.map_some, Option.getD_some]

/-- A nesting that counts the open containers still counts them behind one more block. -/
theorem Nesting.Counts.after {j : Nat} {n : Nesting} {kind : BlockKind} (h : n.Counts kinds j)
    (hkind : kinds[j]? = some kind) : (n.after kind).Counts kinds (j + 1) := by
  intro r hr
  rw [depth_after n kind hr, openBelow_succ, rankAt_of_getElem? hkind, h r hr,
    h (rank kind) (rank_le kind)]
  split
  · rw [List.length_cons]
  · rfl

end Storyline.Dsl
