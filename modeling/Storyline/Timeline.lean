import Storyline.Block

/-!
# Edits of a story

Edits name a block by its identifier; an identifier that no block has changes nothing. Places are
counted from zero, and a place beyond the end means the end.
-/

namespace Storyline.Timeline

/-- Inserts a block at a place. -/
def insertAt (place : Nat) (block : Block) (blocks : List Block) : List Block :=
  blocks.insertIdx (min place blocks.length) block

/-- Changes the first block with an identifier. -/
def update (id : BlockId) (change : Block → Block) : List Block → List Block
  | [] => []
  | block :: rest =>
    if block.id = id then change block :: rest else block :: update id change rest

/-- Puts a block in the place of the first block with its identifier. -/
def replace (block : Block) (blocks : List Block) : List Block :=
  update block.id (fun _ ↦ block) blocks

/-- Takes the first block with an identifier out of a story. -/
def takeOut? (id : BlockId) : List Block → Option (Block × List Block)
  | [] => none
  | block :: rest =>
    if block.id = id then some (block, rest)
    else (takeOut? id rest).map fun (found, others) ↦ (found, block :: others)

/-- Moves a block to a place among the other blocks. -/
def move (id : BlockId) (place : Nat) (blocks : List Block) : List Block :=
  match takeOut? id blocks with
  | some (block, others) => insertAt place block others
  | none => blocks

/-- Removes every block with an identifier. -/
def remove (id : BlockId) (blocks : List Block) : List Block :=
  blocks.filter (·.id ≠ id)

/-- Changes the line of a block; a block that is no line stays as it is. -/
def editLine (id : BlockId) (edit : Line → Line) (blocks : List Block) : List Block :=
  update id (Block.mapLine edit) blocks

/-- Flips the partner flag of a line. -/
def togglePartnerSpecific (id : BlockId) (blocks : List Block) : List Block :=
  editLine id (fun line ↦ line.setPartnerSpecific (!line.partnerSpecific)) blocks

/-- Flips the universal flag of a line. -/
def toggleUniversal (id : BlockId) (blocks : List Block) : List Block :=
  editLine id (fun line ↦ line.setUniversal (!line.universal)) blocks

/-- The line that an edit of `id` would change. -/
def lineAt? (id : BlockId) (blocks : List Block) : Option Line :=
  (blocks.find? (·.id = id)).bind Block.line?

/-- Changing a block keeps the number of blocks. -/
@[simp] theorem length_update (id : BlockId) (change : Block → Block) (blocks : List Block) :
    (update id change blocks).length = blocks.length := by
  induction blocks with
  | nil => rfl
  | cons block rest ih =>
    by_cases h : block.id = id <;> simp [update, h, ih]

/-- A change that keeps the identifier of the block keeps the list of them. -/
theorem map_id_update {id : BlockId} {change : Block → Block}
    (h : ∀ block, block.id = id → (change block).id = id) (blocks : List Block) :
    (update id change blocks).map (·.id) = blocks.map (·.id) := by
  induction blocks with
  | nil => rfl
  | cons block rest ih =>
    by_cases hid : block.id = id
    · simp [update, hid, h block hid]
    · simp [update, hid, ih]

/-- Taking a block out fails only if no block has the identifier. -/
theorem takeOut?_eq_none_iff {id : BlockId} {blocks : List Block} :
    takeOut? id blocks = none ↔ id ∉ blocks.map (·.id) := by
  induction blocks with
  | nil => simp [takeOut?]
  | cons block rest ih =>
    by_cases h : block.id = id
    · simp [takeOut?, h]
    · simp [takeOut?, h, ih, Ne.symm h]

end Storyline.Timeline
