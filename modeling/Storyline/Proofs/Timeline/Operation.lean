import Mathlib.Data.List.Forall2
import Storyline.Timeline

/-!
# What one edit does to a story

An edit that names a block cuts the story at the first block with the identifier. It changes the
block in its place, or takes it out and puts it between two others. Whatever it does, the blocks
with other identifiers are the same before and after, in the same order.
-/

namespace Storyline.Timeline

variable {id : BlockId} {blocks front back : List Block} {block : Block} {change : Block → Block}

/-- A story is cut at the first block with an identifier, if there is one. -/
theorem exists_cut (h : id ∈ blocks.map (·.id)) :
    ∃ front block back, blocks = front ++ block :: back ∧ block.id = id ∧
      id ∉ front.map (·.id) := by
  obtain ⟨ids, others, hids, hfirst⟩ := List.eq_append_cons_of_mem h
  obtain ⟨front, rest, rfl, rfl, hrest⟩ := List.map_eq_append_iff.1 hids
  obtain ⟨block, back, rfl, hid, -⟩ := List.map_eq_cons_iff.1 hrest
  exact ⟨front, block, back, rfl, hid, hfirst⟩

/-! ### Changing a block in its place -/

/-- Changing a block that is not there changes nothing. -/
theorem update_of_notMem (h : id ∉ blocks.map (·.id)) : update id change blocks = blocks := by
  induction blocks with
  | nil => rfl
  | cons block rest ih =>
    rw [List.map_cons, List.mem_cons, not_or] at h
    rw [update, if_neg (Ne.symm h.1), ih h.2]

/-- A change of a block keeps whatever it keeps of this block. -/
theorem forall₂_update {R : Block → Block → Prop} (hrefl : ∀ block, R block block)
    (hchange : ∀ block, block.id = id → R block (change block)) (blocks : List Block) :
    List.Forall₂ R blocks (update id change blocks) := by
  induction blocks with
  | nil => exact .nil
  | cons block rest ih =>
    rw [update]
    split
    · next hid => exact .cons (hchange block hid) (List.forall₂_same.2 fun block _ ↦ hrefl block)
    · exact .cons (hrefl block) ih

/-- Changing a block keeps all others and their order. -/
theorem filter_update (h : ∀ block, block.id = id → (change block).id = id)
    (blocks : List Block) :
    (update id change blocks).filter (·.id ≠ id) = blocks.filter (·.id ≠ id) := by
  induction blocks with
  | nil => rfl
  | cons block rest ih =>
    by_cases hid : block.id = id
    · simp [update, hid, h block hid]
    · rw [update, if_neg hid, List.filter_cons_of_pos (by simpa using hid), ih,
        List.filter_cons_of_pos (by simpa using hid)]

/-- Where there is no line, there is nothing to edit. -/
theorem mapLine_of_line?_eq_none {edit : Line → Line} (h : block.line? = none) :
    block.mapLine edit = block := by
  obtain ⟨id, kind⟩ := block
  cases kind with
  | line => exact absurd h (by simp [Block.line?, BlockKind.line?])
  | _ => rfl

/-! ### Inserting a block -/

/-- A block is inserted between the first blocks and the others. -/
theorem insertAt_eq (place : Nat) (block : Block) (blocks : List Block) :
    insertAt place block blocks = blocks.take place ++ block :: blocks.drop place := by
  rw [insertAt]
  induction blocks generalizing place with
  | nil => simp
  | cons first blocks ih =>
    cases place with
    | zero => rfl
    | succ place =>
      rw [List.length_cons, Nat.add_min_add_right, List.insertIdx_succ_cons, ih]
      rfl

/-- An insertion adds the block and loses no other. -/
theorem perm_insertAt (place : Nat) (block : Block) (blocks : List Block) :
    (insertAt place block blocks).Perm (block :: blocks) := by
  rw [insertAt_eq]
  exact List.perm_middle.trans (by rw [List.take_append_drop])

/-- Inserting a block keeps all others and their order. -/
theorem filter_insertAt (place : Nat) (block : Block) (blocks : List Block) :
    (insertAt place block blocks).filter (·.id ≠ block.id) =
      blocks.filter (·.id ≠ block.id) := by
  rw [insertAt_eq, List.filter_append, List.filter_cons_of_neg (by simp), ← List.filter_append,
    List.take_append_drop]

/-! ### Moving a block -/

private theorem takeOut?_append (hfront : id ∉ front.map (·.id)) (hid : block.id = id) :
    takeOut? id (front ++ block :: back) = some (block, front ++ back) := by
  induction front with
  | nil => rw [List.nil_append, takeOut?, if_pos hid, List.nil_append]
  | cons first front ih =>
    rw [List.map_cons, List.mem_cons, not_or] at hfront
    rw [List.cons_append, takeOut?, if_neg (Ne.symm hfront.1), ih hfront.2]
    rfl

/-- A block moves to a place among the others. -/
theorem move_append (hfront : id ∉ front.map (·.id)) (hid : block.id = id) (place : Nat) :
    move id place (front ++ block :: back) = insertAt place block (front ++ back) := by
  rw [move, takeOut?_append hfront hid]

/-- Moving a block that is not there changes nothing. -/
theorem move_of_notMem (h : id ∉ blocks.map (·.id)) (place : Nat) :
    move id place blocks = blocks := by
  rw [move, takeOut?_eq_none_iff.2 h]

/-- Moving a block neither loses nor changes any. -/
theorem perm_move (id : BlockId) (place : Nat) (blocks : List Block) :
    (move id place blocks).Perm blocks := by
  by_cases h : id ∈ blocks.map (·.id)
  · obtain ⟨front, block, back, rfl, hid, hfront⟩ := exists_cut h
    rw [move_append hfront hid]
    exact (perm_insertAt place block _).trans List.perm_middle.symm
  · rw [move_of_notMem h]

/-- Moving a block keeps all others and their order. -/
theorem filter_move (id : BlockId) (place : Nat) (blocks : List Block) :
    (move id place blocks).filter (·.id ≠ id) = blocks.filter (·.id ≠ id) := by
  by_cases h : id ∈ blocks.map (·.id)
  · obtain ⟨front, block, back, rfl, rfl, hfront⟩ := exists_cut h
    rw [move_append hfront rfl, filter_insertAt, List.filter_append, List.filter_append,
      List.filter_cons_of_neg (by simp)]
  · rw [move_of_notMem h]

/-! ### Removing a block -/

/-- Removing a block that is not there changes nothing. -/
theorem remove_of_notMem (h : id ∉ blocks.map (·.id)) : remove id blocks = blocks := by
  refine List.filter_eq_self.2 fun block hblock ↦ ?_
  rw [decide_eq_true_iff]
  rintro rfl
  exact h (List.mem_map_of_mem hblock)

/-- Removing a block keeps all others and their order. -/
theorem filter_remove (id : BlockId) (blocks : List Block) :
    (remove id blocks).filter (·.id ≠ id) = blocks.filter (·.id ≠ id) := by
  simp [remove]

/-- The identifiers after a removal are all the others. -/
theorem map_id_remove (id : BlockId) (blocks : List Block) :
    (remove id blocks).map (·.id) = (blocks.map (·.id)).filter (· ≠ id) := by
  rw [remove, List.filter_map]
  rfl

end Storyline.Timeline
