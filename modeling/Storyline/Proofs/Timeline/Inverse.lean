import Storyline.Proofs.Timeline.Operation

/-!
# Undoing moves and insertions

In a story with distinct identifiers every block stands where it was inserted among the others.
Moving the block forgets this place and inserts it at another one, and removing it leaves the
others. So a move is undone by moving the block back, a removal by inserting it again, and of
several moves of one block only the last one counts.
-/

namespace Storyline.Timeline

variable {blocks others : List Block} {block : Block}

/-! ### A block among the others -/

/-- Behind the first blocks, a block is inserted in front of the others. -/
theorem insertAt_length (front back : List Block) (block : Block) :
    insertAt front.length block (front ++ back) = front ++ block :: back := by
  rw [insertAt_eq, List.take_left, List.drop_left]

/-- A block stands where it was inserted, or at the end. -/
theorem getElem?_insertAt (place : Nat) (block : Block) (blocks : List Block) :
    (insertAt place block blocks)[min place blocks.length]? = some block := by
  rw [insertAt, List.getElem?_insertIdx_self, if_pos (Nat.min_le_right place blocks.length)]

/-- A story with distinct identifiers is what inserting one of its blocks among the others gives. -/
theorem exists_eq_insertAt {place : Nat} (h : (blocks.map (·.id)).Nodup)
    (hblock : blocks[place]? = some block) :
    ∃ others, block.id ∉ others.map (·.id) ∧ blocks = insertAt place block others := by
  obtain ⟨hplace, hget⟩ := List.getElem?_eq_some_iff.1 hblock
  have hsplit : blocks = blocks.take place ++ block :: blocks.drop (place + 1) := by
    rw [← hget, List.getElem_cons_drop, List.take_append_drop]
  have hlength : (blocks.take place).length = place := List.length_take_of_le (Nat.le_of_lt hplace)
  refine ⟨blocks.take place ++ blocks.drop (place + 1), ?_, ?_⟩
  · rw [hsplit] at h
    exact (List.nodup_cons.1 ((List.perm_middle.map _).nodup_iff.1 h)).1
  · have hinsert := insertAt_length (blocks.take place) (blocks.drop (place + 1)) block
    rw [hlength] at hinsert
    rw [hinsert, ← hsplit]

section Fresh

variable (hfresh : block.id ∉ others.map (·.id))

include hfresh

/-- Wherever a block was inserted, it is moved as if it were inserted only now. -/
theorem move_insertAt (place place' : Nat) :
    move block.id place' (insertAt place block others) = insertAt place' block others := by
  have hfront : block.id ∉ (others.take place).map (·.id) := fun h ↦
    hfresh (((List.take_sublist place others).map _).subset h)
  rw [insertAt_eq place, move_append hfront rfl, List.take_append_drop]

/-- A block that was inserted is removed again. -/
theorem remove_insertAt (place : Nat) : remove block.id (insertAt place block others) = others := by
  rw [remove, filter_insertAt]
  exact remove_of_notMem hfresh

end Fresh

/-! ### Edits of two blocks -/

/-- Changes of blocks with different identifiers do not depend on their order. -/
theorem update_comm {a b : BlockId} {f g : Block → Block} (hne : a ≠ b)
    (hf : ∀ block, block.id = a → (f block).id = a) (hg : ∀ block, block.id = b → (g block).id = b)
    (blocks : List Block) :
    update a f (update b g blocks) = update b g (update a f blocks) := by
  induction blocks with
  | nil => rfl
  | cons block rest ih =>
    by_cases ha : block.id = a
    · have hb : block.id ≠ b := fun h ↦ hne (ha.symm.trans h)
      have hfb : (f block).id ≠ b := by
        rw [hf block ha]
        exact hne
      simp [update, ha, hfb, hne]
    · by_cases hb : block.id = b
      · have hga : (g block).id ≠ a := by
          rw [hg block hb]
          exact hne.symm
        simp [update, hb, hga, hne.symm]
      · simp [update, ha, hb, ih]

/-- Edits of two lines do not depend on their order. -/
theorem editLine_comm {a b : BlockId} (hne : a ≠ b) (f g : Line → Line) (blocks : List Block) :
    editLine a f (editLine b g blocks) = editLine b g (editLine a f blocks) := by
  have hid : ∀ (edit : Line → Line) (id : BlockId) (block : Block), block.id = id →
      (block.mapLine edit).id = id := fun _ _ _ h ↦ h
  exact update_comm hne (hid f a) (hid g b) blocks

/-- In a story with distinct identifiers, moving a block rearranges the story: the block stands at
its new place, or at the end, and the others stay in their order. Moving the block back gives the
story again, and so does inserting it where it was removed. Of two moves of one block the last one
counts. A block that is new to the story is removed after it was inserted, and edits of two lines do
not depend on their order. -/
theorem edits_undone {blocks : List Block} (h : (blocks.map (·.id)).Nodup) :
    (∀ place block, blocks[place]? = some block → ∀ place',
      let moved := move block.id place' blocks
      moved.Perm blocks ∧ moved[min place' (blocks.length - 1)]? = some block ∧
        moved.filter (·.id ≠ block.id) = blocks.filter (·.id ≠ block.id) ∧
        move block.id place moved = blocks ∧
        (∀ place'', move block.id place'' moved = move block.id place'' blocks) ∧
        insertAt place block (remove block.id blocks) = blocks) ∧
      (∀ block, block.id ∉ blocks.map (·.id) → ∀ place,
        remove block.id (insertAt place block blocks) = blocks) ∧
      ∀ a b f g, a ≠ b →
        editLine a f (editLine b g blocks) = editLine b g (editLine a f blocks) := by
  refine ⟨fun place block hblock place' ↦ ?_, fun block hfresh place ↦ remove_insertAt hfresh place,
    fun a b f g hne ↦ editLine_comm hne f g blocks⟩
  obtain ⟨others, hfresh, hblocks⟩ := exists_eq_insertAt h hblock
  have hlength : blocks.length - 1 = others.length := by
    rw [hblocks, (perm_insertAt place block others).length_eq, List.length_cons,
      Nat.add_sub_cancel]
  have hmoved : ∀ place', move block.id place' blocks = insertAt place' block others := by
    intro place'
    rw [hblocks, move_insertAt hfresh]
  refine ⟨perm_move block.id place' blocks, ?_, filter_move block.id place' blocks, ?_, ?_, ?_⟩
  · rw [hlength, hmoved, getElem?_insertAt]
  · rw [hmoved, move_insertAt hfresh, ← hblocks]
  · intro place''
    rw [hmoved, move_insertAt hfresh, hmoved]
  · rw [hblocks, remove_insertAt hfresh]

/-- A line is moved beyond the end and back, and removed and inserted again; a pause is inserted
beyond the end and removed; two lines are edited. -/
theorem edits_undone_beyond_end :
    let hush : Block := ⟨.ofNat 1, .line { content := "Hush." }⟩
    let blocks : List Block :=
      [⟨.ofNat 0, .chapter "Harbor"⟩, hush, ⟨.ofNat 2, .line { content := "Run!" }⟩]
    let moved := move (.ofNat 1) 9 blocks
    moved.map (·.id) = [.ofNat 0, .ofNat 2, .ofNat 1] ∧
      move (.ofNat 1) 1 moved = blocks ∧
      move (.ofNat 1) 0 moved = move (.ofNat 1) 0 blocks ∧
      insertAt 1 hush (remove (.ofNat 1) blocks) = blocks ∧
      remove (.ofNat 3) (insertAt 9 ⟨.ofNat 3, .pause 2⟩ blocks) = blocks ∧
      editLine (.ofNat 1) (·.setUniversal true) (editLine (.ofNat 2) (·.withCode "S2") blocks) =
        editLine (.ofNat 2) (·.withCode "S2") (editLine (.ofNat 1) (·.setUniversal true) blocks) := by
  intro hush blocks moved
  have hdistinct : (blocks.map (·.id)).Nodup := by decide
  obtain ⟨hmove, hinsert, hedit⟩ := edits_undone hdistinct
  obtain ⟨-, -, -, hback, hlast, hremoved⟩ := hmove 1 hush rfl 9
  exact ⟨by decide, hback, hlast 0, hremoved, hinsert ⟨.ofNat 3, .pause 2⟩ (by decide) 9,
    hedit (.ofNat 1) (.ofNat 2) _ _ (by decide)⟩

end Storyline.Timeline
