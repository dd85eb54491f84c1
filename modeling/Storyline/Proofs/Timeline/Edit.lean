import Mathlib.Data.Set.Insert
import Storyline.Proofs.Finding.Criteria
import Storyline.Proofs.Timeline.Operation

/-!
# Editing a story

A story is edited step by step, by edits that each name one block. As long as every block that is
inserted is new to the story, identifiers stay distinct, and the story has the blocks that it had
at first and those that were inserted, without those that were removed.
-/

namespace Storyline.Timeline

/-- The identifiers of a story. -/
def idSet (blocks : List Block) : Set BlockId := {id | id ∈ blocks.map (·.id)}

/-- An edit of a story. -/
inductive Edit where
  /-- A block is inserted at a place. -/
  | insert (place : Nat) (block : Block)
  /-- A block replaces the one with its identifier. -/
  | replace (block : Block)
  /-- A block is moved to a place among the others. -/
  | move (id : BlockId) (place : Nat)
  /-- A block is removed. -/
  | remove (id : BlockId)
  /-- The line of a block is changed. -/
  | editLine (id : BlockId) (edit : Line → Line)
  /-- The partner flag of a line is flipped. -/
  | togglePartnerSpecific (id : BlockId)
  /-- The universal flag of a line is flipped. -/
  | toggleUniversal (id : BlockId)

namespace Edit

/-- The story after an edit. -/
def apply : Edit → List Block → List Block
  | insert place block => insertAt place block
  | replace block => Timeline.replace block
  | move id place => Timeline.move id place
  | remove id => Timeline.remove id
  | editLine id edit => Timeline.editLine id edit
  | togglePartnerSpecific id => Timeline.togglePartnerSpecific id
  | toggleUniversal id => Timeline.toggleUniversal id

/-- The identifier of the block that an edit names. -/
def target : Edit → BlockId
  | insert _ block | replace block => block.id
  | move id _ | remove id | editLine id _ | togglePartnerSpecific id | toggleUniversal id => id

/-- Whether an edit inserts a block. -/
def IsInsertion : Edit → Prop
  | insert .. => True
  | _ => False

/-- Whether an edit changes a line in its place. -/
def IsLineEdit : Edit → Prop
  | editLine .. | togglePartnerSpecific _ | toggleUniversal _ => True
  | _ => False

/-- A block that is inserted has an identifier that no block of the story has. -/
def IsFresh (blocks : List Block) : Edit → Prop
  | insert _ block => block.id ∉ blocks.map (·.id)
  | _ => True

instance (blocks : List Block) : DecidablePred (IsFresh blocks)
  | insert _ block => inferInstanceAs (Decidable (block.id ∉ blocks.map (·.id)))
  | replace _ | move .. | remove _ | editLine .. | togglePartnerSpecific _ | toggleUniversal _ =>
    inferInstanceAs (Decidable True)

/-- The identifiers after an edit, if these were the ones before. -/
def idsAfter (ids : Set BlockId) : Edit → Set BlockId
  | insert _ block => ids ∪ {block.id}
  | remove id => ids \ {id}
  | _ => ids

variable {e : Edit} {blocks : List Block}

/-! ### One edit -/

/-- What an edit does: it inserts, moves or removes a block, or changes one in its place without
changing its identifier. -/
inductive Acts : Edit → Prop where
  | insert (place : Nat) (block : Block) : Acts (insert place block)
  | move (id : BlockId) (place : Nat) : Acts (move id place)
  | remove (id : BlockId) : Acts (remove id)
  | update {e : Edit} (change : Block → Block) (happly : e.apply = Timeline.update e.target change)
      (hid : ∀ block, block.id = e.target → (change block).id = e.target)
      (hids : ∀ ids, e.idsAfter ids = ids) : Acts e

private theorem acts (e : Edit) : e.Acts := by
  cases e with
  | insert place block => exact .insert place block
  | move id place => exact .move id place
  | remove id => exact .remove id
  | replace block => exact .update (fun _ ↦ block) rfl (fun _ _ ↦ rfl) fun _ ↦ rfl
  | editLine | togglePartnerSpecific | toggleUniversal =>
    exact .update _ rfl (fun _ hid ↦ hid) fun _ ↦ rfl

/-- Whatever an edit does to the block it names, it leaves the others as they are. -/
theorem filter_apply (e : Edit) (blocks : List Block) :
    (e.apply blocks).filter (·.id ≠ e.target) = blocks.filter (·.id ≠ e.target) := by
  cases e.acts with
  | insert place block => exact filter_insertAt place block blocks
  | move id place => exact filter_move id place blocks
  | remove id => exact filter_remove id blocks
  | update change happly hid =>
    rw [happly]
    exact filter_update hid blocks

/-- Nothing happens where no block has the identifier. -/
theorem apply_of_notMem (h : ¬ e.IsInsertion) (htarget : e.target ∉ blocks.map (·.id)) :
    e.apply blocks = blocks := by
  cases e.acts with
  | insert => exact absurd trivial h
  | move id place => exact move_of_notMem htarget place
  | remove id => exact remove_of_notMem htarget
  | update change happly =>
    rw [happly]
    exact update_of_notMem htarget

/-- A line edit keeps every block in its place, with its identifier and its kind, and changes no
block but a line. -/
theorem forall₂_apply (h : e.IsLineEdit) (blocks : List Block) :
    List.Forall₂ (fun block block' ↦ block'.id = block.id ∧ block'.kind.name = block.kind.name ∧
      (block.line? = none → block' = block)) blocks (e.apply blocks) := by
  obtain ⟨edit, hedit⟩ : ∃ edit, e.apply = Timeline.update e.target (Block.mapLine edit) := by
    cases e with
    | editLine | togglePartnerSpecific | toggleUniversal => exact ⟨_, rfl⟩
    | insert | replace | move | remove => exact h.elim
  rw [hedit]
  refine forall₂_update (fun _ ↦ ⟨rfl, rfl, fun _ ↦ rfl⟩) (fun block _ ↦ ⟨rfl, ?_, ?_⟩) blocks
  · exact BlockKind.name_mapLine edit block.kind
  · exact mapLine_of_line?_eq_none

/-! ### Identifiers -/

private theorem nodup_apply (hfresh : e.IsFresh blocks) (h : (blocks.map (·.id)).Nodup) :
    ((e.apply blocks).map (·.id)).Nodup := by
  cases e.acts with
  | insert place block =>
    exact ((perm_insertAt place block blocks).map _).nodup_iff.2 (List.nodup_cons.2 ⟨hfresh, h⟩)
  | move id place => exact ((perm_move id place blocks).map _).nodup_iff.2 h
  | remove id =>
    rw [apply, map_id_remove]
    exact h.filter _
  | update change happly hid => rwa [happly, map_id_update hid]

/-- An edit adds the identifier of a block that is inserted, and takes away that of one that is
removed. -/
theorem idSet_apply (e : Edit) (blocks : List Block) :
    idSet (e.apply blocks) = e.idsAfter (idSet blocks) := by
  cases e.acts with
  | insert place block =>
    ext id
    have hmem := ((perm_insertAt place block blocks).map (·.id)).mem_iff (a := id)
    rw [List.map_cons, List.mem_cons] at hmem
    exact hmem.trans or_comm
  | move id place =>
    ext other
    exact ((perm_move id place blocks).map (·.id)).mem_iff
  | remove id =>
    rw [idSet, apply, map_id_remove]
    ext other
    simp [idsAfter, idSet]
  | update change happly hid hids => rw [happly, idSet, map_id_update hid, hids, idSet]

end Edit

/-! ### Runs -/

/-- The story after edits. -/
def run (edits : List Edit) (blocks : List Block) : List Block :=
  edits.foldl (fun blocks e ↦ e.apply blocks) blocks

/-- Every block that is inserted has an identifier that no block has at that time. -/
def InsertsFresh : List Edit → List Block → Prop
  | [], _ => True
  | e :: edits, blocks => e.IsFresh blocks ∧ InsertsFresh edits (e.apply blocks)

private theorem nodup_run {edits : List Edit} {blocks : List Block}
    (hfresh : InsertsFresh edits blocks)
    (h : (blocks.map (·.id)).Nodup) : ((run edits blocks).map (·.id)).Nodup := by
  induction edits generalizing blocks with
  | nil => exact h
  | cons e edits ih => exact ih hfresh.2 (Edit.nodup_apply hfresh.1 h)

private theorem idSet_run (edits : List Edit) (blocks : List Block) :
    idSet (run edits blocks) = edits.foldl Edit.idsAfter (idSet blocks) := by
  induction edits generalizing blocks with
  | nil => rfl
  | cons e edits ih =>
    rw [List.foldl_cons, ← Edit.idSet_apply]
    exact ih (e.apply blocks)

/-- After any edits of a story with distinct identifiers, the identifiers are distinct, so that no
block is found to be repeated, and they are those that were there at first or inserted, without
those that were removed. Whatever edit comes next leaves the blocks that it does not name as they
are. If it changes a line, all blocks keep their places, their identifiers and their kinds, and only
a line is changed. If it names no block of the story, nothing is changed, unless it inserts one. -/
theorem run_keeps_blocks {edits : List Edit} {blocks : List Block}
    (h : (blocks.map (·.id)).Nodup) (hfresh : InsertsFresh edits blocks) :
    let found := run edits blocks
    (found.map (·.id)).Nodup ∧
      (∀ lectors kind id, .duplicateBlock kind id ∉ findings lectors found) ∧
      idSet found = edits.foldl Edit.idsAfter (idSet blocks) ∧
      ∀ e : Edit,
        (e.apply found).filter (·.id ≠ e.target) = found.filter (·.id ≠ e.target) ∧
          (e.IsLineEdit → List.Forall₂ (fun block block' ↦ block'.id = block.id ∧
            block'.kind.name = block.kind.name ∧ (block.line? = none → block' = block))
              found (e.apply found)) ∧
          (¬ e.IsInsertion → e.target ∉ idSet found → e.apply found = found) := by
  intro found
  have hnodup : (found.map (·.id)).Nodup := nodup_run hfresh h
  refine ⟨hnodup, fun lectors ↦ Finding.forall_duplicateBlock_notMem_iff.2 hnodup,
    idSet_run edits blocks, fun e ↦ ⟨e.filter_apply found, fun hline ↦ ?_, fun hinsert htarget ↦ ?_⟩⟩
  · exact Edit.forall₂_apply hline found
  · exact Edit.apply_of_notMem hinsert htarget

/-- A pause is put at the end, a line is moved in front and its chapter is removed. -/
theorem run_keeps_blocks_insert_move_remove :
    let blocks : List Block :=
      [⟨.ofNat 1, .chapter "Storm"⟩, ⟨.ofNat 2, .line { content := "Hold on!" }⟩]
    let edits : List Edit :=
      [.insert 9 ⟨.ofNat 3, .pause 3⟩, .move (.ofNat 2) 0, .toggleUniversal (.ofNat 2),
        .remove (.ofNat 1)]
    let found := run edits blocks
    (found.map (·.id)).Nodup ∧ idSet found = (idSet blocks ∪ {.ofNat 3}) \ {.ofNat 1} ∧
      (Edit.remove (.ofNat 1)).apply found = found := by
  intro blocks edits found
  have hfresh : InsertsFresh edits blocks := ⟨by decide, trivial, trivial, trivial, trivial⟩
  obtain ⟨hnodup, -, hids, hnext⟩ := run_keeps_blocks (by decide) hfresh
  have hgone : .ofNat 1 ∉ idSet found := by
    rw [hids]
    exact fun h ↦ h.2 rfl
  exact ⟨hnodup, hids, (hnext (.remove (.ofNat 1))).2.2 id hgone⟩

end Storyline.Timeline
