import Storyline.Proofs.Encoding.Record

/-!
# Stored lines read back

A stored line leaves out what it can be read back without: what is absent or empty.
-/

namespace Storyline

variable {p : Json.Numeral → Prop} {n : Nat}

namespace ByGender

/-- The fields of a stored pair. -/
def slots (pair : ByGender String) : List (String × Option Json) :=
  [("boy", some (.string pair.boy)), ("girl", some (.string pair.girl))]

/-- A pair is stored as the record of its fields. -/
theorem toJson_eq (pair : ByGender String) : pair.toJson = .object (Record.written pair.slots) :=
  rfl

/-- A stored pair of texts is read back. -/
theorem ofJson?_toJson (pair : ByGender String) : ofJson? pair.toJson = some pair := by
  have hnodup : (pair.slots.map Prod.fst).Nodup := by simp [slots]
  rw [toJson_eq, ofJson?, Json.record?]
  simp only [Option.bind_eq_bind, Option.bind_some]
  rw [Record.required_written hnodup List.mem_cons_self,
    Record.required_written hnodup (List.mem_cons_of_mem _ List.mem_cons_self)]
  rfl

/-- A stored pair is not null, so it is told from a pair that is missing. -/
theorem toJson_ne_null (pair : ByGender String) : pair.toJson ≠ .null := fun h ↦ nomatch h

/-- A stored pair is a sound value. -/
theorem sound_toJson (pair : ByGender String) : pair.toJson.Sound p (n + 1) := by
  rw [toJson_eq]
  apply Json.sound_written
  simp only [slots, List.forall_mem_cons]
  exact ⟨Json.sound_of_some (.string _), Json.sound_of_some (.string _), nofun⟩

end ByGender

namespace PartnerTable

/-- A stored table of pairs is read back. -/
theorem ofJson?_toJson (table : PartnerTable) : ofJson? table.toJson = some table :=
  Json.table?_ofTable ByGender.ofJson?_toJson table

/-- A stored table is a sound value. -/
theorem sound_toJson (table : PartnerTable) : table.toJson.Sound p (n + 2) :=
  Json.sound_ofTable ByGender.sound_toJson table

/-- The value under which a table is stored in a record, unless it is empty. -/
def stored (table : PartnerTable) : Option Json :=
  if table.isEmpty then none else some table.toJson

/-- A table that is left out of a record is the empty one. -/
theorem elim_stored (table : PartnerTable) :
    table.stored.elim (some ∅) ofJson? = some table := by
  unfold stored
  split
  · next hempty =>
    rw [Std.ExtTreeMap.isEmpty_iff.1 hempty]
    rfl
  · exact ofJson?_toJson table

/-- So is the value of a table in a record. -/
theorem sound_stored (table : PartnerTable) :
    ∀ value, table.stored = some value → value.Sound p (n + 2) := by
  unfold stored
  split
  · exact nofun
  · exact Json.sound_of_some (sound_toJson table)

end PartnerTable

/-- A field that may be missing is written exactly if it is there. -/
theorem fieldOfOption_eq {α : Type} (name : String) (write : α → Json) (o : Option α) :
    fieldOfOption name write o = ((o.map write).map (name, ·)).toList := by
  cases o <;> rfl

/-- The field of a table is written exactly if the table is not empty. -/
theorem fieldOfTable_eq (name : String) (table : PartnerTable) :
    fieldOfTable name table = (table.stored.map (name, ·)).toList := by
  unfold fieldOfTable PartnerTable.stored
  split <;> rfl

namespace Line

/-- The fields of a stored line with those that are left out. -/
def slots (line : Line) : List (String × Option Json) :=
  [("content", some (.string line.content)),
    ("code", line.code.map .string),
    ("lectorId", line.lectorId.map .string),
    ("isPartnerSpecific", some (.bool line.partnerSpecific)),
    ("isGenderUniversal", some (.bool line.universal)),
    ("genderVariants", line.variants.map ByGender.toJson),
    ("partnerOverrides", line.overrides.stored),
    ("imageByGender", line.images.map ByGender.toJson),
    ("imageOverridesByPartner", line.imageOverrides.stored)]

/-- A line is stored in its fields, but for those that are left out. -/
theorem toFields_eq (line : Line) : line.toFields = Record.written line.slots := by
  simp only [toFields, slots, Record.written_cons, fieldOfOption_eq, fieldOfTable_eq]
  simp [Record.written]

/-- The fields of a line are read back wherever they stand, if no name is given twice. -/
theorem ofRecord?_written {slots : List (String × Option Json)}
    (hnodup : (slots.map Prod.fst).Nodup) {line : Line} (h : line.slots ⊆ slots) :
    ofRecord? (.named (Record.written slots)) = some line := by
  simp only [Line.slots, List.cons_subset] at h
  obtain ⟨hcontent, hcode, hlector, hpartner, huniversal, hvariants, hoverrides, himages,
    himageOverrides, -⟩ := h
  unfold ofRecord?
  rw [Record.optional_written hnodup hcontent, Record.optional_written hnodup hcode,
    Record.optional_written hnodup hlector, Record.optional_written hnodup hpartner,
    Record.optional_written hnodup huniversal, Record.optional_written hnodup hvariants,
    Record.optional_written hnodup hoverrides, Record.optional_written hnodup himages,
    Record.optional_written hnodup himageOverrides]
  have hstring : ∀ s, Json.string s ≠ .null := fun _ h ↦ nomatch h
  have htext : ∀ s, Json.text? (.string s) = some s := fun _ ↦ rfl
  rw [Json.elim_map_nullable? htext hstring, Json.elim_map_nullable? htext hstring,
    Json.elim_map_nullable? ByGender.ofJson?_toJson ByGender.toJson_ne_null,
    Json.elim_map_nullable? ByGender.ofJson?_toJson ByGender.toJson_ne_null,
    PartnerTable.elim_stored, PartnerTable.elim_stored]
  rfl

/-- No field of a line is deeper than a table of pairs. -/
theorem sound_of_mem_slots (line : Line) :
    ∀ slot ∈ line.slots, ∀ value, slot.2 = some value → value.Sound p (n + 2) := by
  simp only [slots, List.forall_mem_cons]
  exact ⟨Json.sound_of_some (.string _), Json.sound_of_map .string _,
    Json.sound_of_map .string _, Json.sound_of_some (.bool _), Json.sound_of_some (.bool _),
    Json.sound_of_map ByGender.sound_toJson _, PartnerTable.sound_stored _,
    Json.sound_of_map ByGender.sound_toJson _, PartnerTable.sound_stored _, nofun⟩

end Line

end Storyline
