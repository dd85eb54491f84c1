import Storyline.Encoding.Scenario
import Storyline.Proofs.Encoding.Line

/-!
# Stored scenarios read back

The text of a scenario is read as that scenario. Its codes, and the partners of each entry, stand
in the text in the order of their bytes.
-/

namespace Storyline

variable {p : Json.Numeral → Prop} {n : Nat}

namespace ScenarioEntry

/-- The fields of a stored entry with those that are left out. -/
def slots (entry : ScenarioEntry) : List (String × Option Json) :=
  [("isUniversal", some (.bool entry.universal)),
    ("isPartnerSpecific", some (.bool entry.partnerSpecific)),
    ("boy", some (.string entry.texts.boy)),
    ("girl", some (.string entry.texts.girl)),
    ("lector", some (.string entry.lector)),
    ("lectorId", some (.string entry.lectorId)),
    ("elevenId", some (.string entry.voiceId)),
    ("images", entry.images.map ByGender.toJson),
    ("partnerOverrides", entry.overrides.stored),
    ("partnerImages", entry.imageOverrides.stored)]

/-- An entry is stored as the record of its fields. -/
theorem toJson_eq (entry : ScenarioEntry) :
    entry.toJson = .object (Record.written entry.slots) := by
  simp only [toJson, slots, Record.written_cons, fieldOfOption_eq, fieldOfTable_eq]
  simp [Record.written]

/-- No two fields of an entry have the same name. -/
theorem nodup_slots (entry : ScenarioEntry) : (entry.slots.map Prod.fst).Nodup := by
  simp [slots]

/-- The fields of an entry are read back wherever they stand, if no name is given twice. -/
theorem ofJson?_written {slots : List (String × Option Json)}
    (hnodup : (slots.map Prod.fst).Nodup) {entry : ScenarioEntry} (h : entry.slots ⊆ slots) :
    ofJson? (.object (Record.written slots)) = some entry := by
  simp only [ScenarioEntry.slots, List.cons_subset] at h
  obtain ⟨huniversal, hpartner, hboy, hgirl, hlector, hlectorId, hvoice, himages, hoverrides,
    himageOverrides, -⟩ := h
  unfold ofJson?
  rw [Json.record?]
  simp only [Option.bind_eq_bind, Option.bind_some]
  rw [Record.optional_written hnodup huniversal, Record.optional_written hnodup hpartner,
    Record.optional_written hnodup hboy, Record.optional_written hnodup hgirl,
    Record.optional_written hnodup hlector, Record.optional_written hnodup hlectorId,
    Record.optional_written hnodup hvoice, Record.optional_written hnodup himages,
    Record.optional_written hnodup hoverrides, Record.optional_written hnodup himageOverrides,
    Json.elim_map_nullable? ByGender.ofJson?_toJson ByGender.toJson_ne_null,
    PartnerTable.elim_stored, PartnerTable.elim_stored]
  rfl

/-- A stored entry is read back. -/
theorem ofJson?_toJson (entry : ScenarioEntry) : ofJson? entry.toJson = some entry := by
  rw [toJson_eq]
  exact ofJson?_written entry.nodup_slots (List.Subset.refl _)

/-- A stored entry is a sound value. -/
theorem sound_toJson (entry : ScenarioEntry) : entry.toJson.Sound p (n + 3) := by
  rw [toJson_eq]
  apply Json.sound_written
  simp only [slots, List.forall_mem_cons]
  exact ⟨Json.sound_of_some (.bool _), Json.sound_of_some (.bool _),
    Json.sound_of_some (.string _), Json.sound_of_some (.string _),
    Json.sound_of_some (.string _), Json.sound_of_some (.string _),
    Json.sound_of_some (.string _), Json.sound_of_map ByGender.sound_toJson _,
    PartnerTable.sound_stored _, PartnerTable.sound_stored _, nofun⟩

/-- The tables of partners in an entry, under the names of their fields. -/
def partnerTables (entry : ScenarioEntry) : List (String × PartnerTable) :=
  [("partnerOverrides", entry.overrides), ("partnerImages", entry.imageOverrides)]

private theorem stored_mem_slots {entry : ScenarioEntry} {name : String} {table : PartnerTable}
    (h : (name, table) ∈ entry.partnerTables) : (name, table.stored) ∈ entry.slots := by
  simp only [partnerTables, List.mem_cons, List.not_mem_nil, or_false, Prod.mk.injEq] at h
  rcases h with ⟨rfl, rfl⟩ | ⟨rfl, rfl⟩ <;> simp [slots]

end ScenarioEntry

namespace Scenario

/-- A stored scenario is read back. -/
theorem ofJson?_toJson (scenario : Scenario) : ofJson? scenario.toJson = some scenario :=
  Json.table?_ofTable ScenarioEntry.ofJson?_toJson scenario

/-- A stored scenario is a sound value. -/
theorem sound_toJson (scenario : Scenario) : scenario.toJson.Sound p 4 :=
  Json.sound_ofTable ScenarioEntry.sound_toJson scenario

/-- The text of a scenario is read as the scenario. The codes, and the partners in each table, stand
in the text in the increasing order of their bytes; empty tables are left out. -/
theorem ofText?_toText_ascending (scenario : Scenario) :
    ofText? scenario.toText = some scenario ∧
    ∃ fields, scenario.toText = (Json.object fields).pretty ∧
      Json.parse? scenario.toText = some (.object fields) ∧
      fields.map Prod.fst = scenario.keys ∧ Json.Ascending fields ∧
      ∀ code entry, scenario[code]? = some entry →
        ∃ inner, (code, .object inner) ∈ fields ∧
          ∀ name table, (name, table) ∈ entry.partnerTables →
            (table = ∅ ∧ name ∉ inner.map Prod.fst) ∨
            ∃ pairs, (name, .object pairs) ∈ inner ∧ pairs.map Prod.fst = table.keys ∧
              Json.Ascending pairs := by
  have hparse : Json.parse? scenario.toText = some scenario.toJson :=
    Json.parse?_pretty scenario.sound_toJson
  refine ⟨?_, _, rfl, hparse, Json.map_fst_entries _ _, Json.ascending_entries _ _, ?_⟩
  · rw [ofText?, hparse]
    exact scenario.ofJson?_toJson
  · intro code entry hentry
    refine ⟨Record.written entry.slots, ?_, ?_⟩
    · rw [← entry.toJson_eq]
      exact List.mem_map.2 ⟨(code, entry),
        Std.ExtTreeMap.mem_toList_iff_getElem?_eq_some.2 hentry, rfl⟩
    · intro name table htable
      have hslot := ScenarioEntry.stored_mem_slots htable
      -- an empty table is left out, any other is an object of its own
      by_cases hempty : table.isEmpty = true
      · rw [PartnerTable.stored, if_pos hempty] at hslot
        exact .inl ⟨Std.ExtTreeMap.isEmpty_iff.1 hempty,
          Record.notMem_written entry.nodup_slots hslot⟩
      · rw [PartnerTable.stored, if_neg hempty] at hslot
        exact .inr ⟨_, Record.mem_written_iff.2 hslot, Json.map_fst_entries _ _,
          Json.ascending_entries _ _⟩

end Scenario

end Storyline
