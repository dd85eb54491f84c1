import Storyline.Encoding.Block
import Storyline.Proofs.BlockId
import Storyline.Proofs.Encoding.Line

/-!
# Stored blocks read back

The fields of a block stand beside its identifier and its kind in one object. No kind has a field
of these names, so each of them is found, and the kind tells which fields to ask for.
-/

namespace Storyline

variable {p : Json.Numeral → Prop} {n : Nat} {fields : List (String × Option Json)}

namespace Json

private theorem natural?_ofNat (n : Nat) : (Numeral.ofNat n).natural? = some n :=
  Text.natural?_toDigits n

/-- A stored number of 32 bits is read back. -/
theorem uint32?_ofNat (n : UInt32) : (ofNat n.toNat).uint32? = some n := by
  rw [ofNat, uint32?, Numeral.uint32?, natural?_ofNat, Option.bind_some, if_pos n.toNat_lt,
    UInt32.ofNat_toNat]

/-- A number of 32 bits can be kept. -/
theorem isKeepable_ofNat (n : UInt32) : (Numeral.ofNat n.toNat).isKeepable = true := by
  have hsize : n.toNat < UInt64.size := Nat.lt_trans n.toNat_lt (by decide)
  rw [Numeral.isKeepable, natural?_ofNat, Option.any_some, decide_eq_true hsize, Bool.true_or]

end Json

namespace Background

/-- The fields of a stored background. -/
def slots (cue : Background) : List (String × Option Json) :=
  [("name", some (.string cue.name)), ("fadeIn", some (.string cue.fadeIn)),
    ("fadeOut", some (.string cue.fadeOut))]

/-- A background is read from any record that has its fields. -/
theorem ofRecord?_written (hnodup : (fields.map Prod.fst).Nodup) {cue : Background}
    (h : cue.slots ⊆ fields) : ofRecord? (.named (Record.written fields)) = some cue := by
  simp only [slots, List.cons_subset] at h
  obtain ⟨hname, hfadeIn, hfadeOut, -⟩ := h
  unfold ofRecord?
  dsimp only
  rw [Record.required_written hnodup hname, Record.optional_written hnodup hfadeIn,
    Record.optional_written hnodup hfadeOut]
  rfl

end Background

namespace BlockKind

/-- The fields that store what a block says with those that are left out. -/
def slots : BlockKind → List (String × Option Json)
  | episode title | chapter title => [("title", some (.string title))]
  | background cue => cue.slots
  | pause seconds => [("durationSeconds", some (.ofNat seconds.toNat))]
  | line l => l.slots

/-- What a block says is stored in its fields, but for those that are left out. -/
theorem toFields_eq (kind : BlockKind) : kind.toFields = Record.written kind.slots := by
  cases kind with
  | episode | chapter | background | pause => rfl
  | line l => exact l.toFields_eq

/-- What a block says is read back from its fields wherever they stand. -/
theorem ofRecord?_written (hnodup : (fields.map Prod.fst).Nodup) {kind : BlockKind}
    (h : kind.slots ⊆ fields) :
    ofRecord? kind.name (.named (Record.written fields)) = some kind := by
  cases kind with
  | episode title =>
    rw [name, ofRecord?, Record.required_written hnodup (h List.mem_cons_self)]
    rfl
  | chapter title =>
    rw [name, ofRecord?, Record.required_written hnodup (h List.mem_cons_self)]
    rfl
  | background cue => rw [name, ofRecord?, Background.ofRecord?_written hnodup h, Option.map_some]
  | pause seconds =>
    rw [name, ofRecord?, Record.required_written hnodup (h List.mem_cons_self), Option.bind_some,
      Json.uint32?_ofNat, Option.map_some]
  | line l => rw [name, ofRecord?, Line.ofRecord?_written hnodup h, Option.map_some]

/-- Every field of what a block says is sound. -/
theorem sound_of_mem_slots (hp : ∀ n : UInt32, p (.ofNat n.toNat)) (kind : BlockKind) :
    ∀ slot ∈ kind.slots, ∀ value, slot.2 = some value → value.Sound p (n + 2) := by
  cases kind with
  | episode | chapter =>
    simp only [slots, List.forall_mem_cons]
    exact ⟨Json.sound_of_some (.string _), nofun⟩
  | background cue =>
    simp only [slots, Background.slots, List.forall_mem_cons]
    exact ⟨Json.sound_of_some (.string _), Json.sound_of_some (.string _),
      Json.sound_of_some (.string _), nofun⟩
  | pause seconds =>
    simp only [slots, List.forall_mem_cons]
    exact ⟨Json.sound_of_some (.number (hp seconds)), nofun⟩
  | line l => exact l.sound_of_mem_slots

end BlockKind

namespace Block

/-- The fields of a stored block with those that are left out. -/
def slots (block : Block) : List (String × Option Json) :=
  ("id", some (.string block.id.toText)) :: ("type", some (.string block.kind.name)) ::
    block.kind.slots

/-- A block is stored as the record of its fields. -/
theorem toJson_eq (block : Block) : block.toJson = .object (Record.written block.slots) := by
  rw [toJson, BlockKind.toFields_eq, slots]
  rfl

/-- No two fields of a block have the same name. -/
theorem nodup_slots (block : Block) : (block.slots.map Prod.fst).Nodup := by
  obtain ⟨id, kind⟩ := block
  cases kind <;> simp [slots, BlockKind.slots, Background.slots, Line.slots]

/-- A stored block is a sound value. -/
theorem sound_toJson (hp : ∀ n : UInt32, p (.ofNat n.toNat)) (block : Block) :
    block.toJson.Sound p (n + 3) := by
  rw [toJson_eq]
  apply Json.sound_written
  rw [slots, List.forall_mem_cons, List.forall_mem_cons]
  exact ⟨Json.sound_of_some (.string _), Json.sound_of_some (.string _),
    block.kind.sound_of_mem_slots hp⟩

/-- A stored block is read back. -/
theorem ofJson?_toJson (block : Block) : ofJson? block.toJson = some block := by
  have hkeep := Json.isKeepable_of_sound (block.sound_toJson (n := 0) Json.isKeepable_ofNat)
  rw [toJson_eq, Json.isKeepable] at hkeep
  -- no field of a kind is called like the identifier or the kind, so each name is there once
  have hnodup := block.nodup_slots
  have hkind : block.kind.slots ⊆ block.slots :=
    fun _ h ↦ List.mem_cons_of_mem _ (List.mem_cons_of_mem _ h)
  rw [toJson_eq, ofJson?]
  simp only [Json.fields?, Option.bind_eq_bind, Option.bind_some, hkeep, if_pos]
  rw [Record.required_written hnodup List.mem_cons_self,
    Record.required_written hnodup (List.mem_cons_of_mem _ List.mem_cons_self)]
  simp [Json.text?, BlockKind.nameOfJson?, BlockId.ofText?_toText,
    BlockKind.ofRecord?_written hnodup hkind]

private theorem listOfJson?_listToJson (blocks : List Block) :
    listOfJson? (listToJson blocks) = some blocks := by
  rw [listOfJson?, listToJson, Json.items?, Option.bind_some, Text.mapM_map_eq_some ofJson?_toJson]

private theorem sound_listToJson (hp : ∀ n : UInt32, p (.ofNat n.toNat)) (blocks : List Block) :
    (listToJson blocks).Sound p 4 := by
  apply Json.Sound.array
  intro item hitem
  obtain ⟨block, -, rfl⟩ := List.mem_map.1 hitem
  exact block.sound_toJson hp

/-- The text of a list of blocks, in either layout, is read as the list. -/
theorem listOfText?_listToJson (blocks : List Block) :
    listOfText? (listToJson blocks).compact = some blocks ∧
      listOfText? (listToJson blocks).pretty = some blocks := by
  have hsound := sound_listToJson (fun n ↦ Json.Numeral.wellFormed_ofNat n.toNat) blocks
  have hdepth : (listToJson blocks).depth ≤ maxDepth :=
    Nat.le_trans (Json.depth_le_of_sound hsound) (by decide)
  constructor
  · rw [listOfText?, Json.parse?_compact hsound]
    simp [hdepth, listOfJson?_listToJson]
  · rw [listOfText?, Json.parse?_pretty hsound]
    simp [hdepth, listOfJson?_listToJson]

end Block

end Storyline
