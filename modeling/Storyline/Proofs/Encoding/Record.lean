import Storyline.Encoding.Line
import Storyline.Proofs.Json.RoundTrip
import Storyline.Proofs.Text.Utf8

/-!
# Records and tables read back

A record is written as the fields that have a value, and a table as its entries in the order of
their keys. Each field is found again under its name, whatever other fields stand beside it.
-/

namespace Storyline

/-! ### Records -/

namespace Record

variable {α β : Type} {slots : List (String × Option α)} {name : String} {value : Option α}

/-- The fields of a record as they are written: those that have a value. -/
def written (slots : List (String × Option α)) : List (String × α) :=
  slots.filterMap fun slot ↦ slot.2.map (slot.1, ·)

/-- The first field is written first, if it has a value. -/
theorem written_cons (slot : String × Option α) (slots : List (String × Option α)) :
    written (slot :: slots) = (slot.2.map (slot.1, ·)).toList ++ written slots := by
  obtain ⟨name, value⟩ := slot
  cases value <;> rfl

/-- A field is written exactly if it has a value. -/
theorem mem_written_iff {a : α} : (name, a) ∈ written slots ↔ (name, some a) ∈ slots := by
  unfold written
  rw [List.mem_filterMap]
  constructor
  · rintro ⟨⟨first, value⟩, hslot, heq⟩
    obtain ⟨value, rfl, ⟨⟩⟩ := Option.map_eq_some_iff.1 heq
    exact hslot
  · exact fun h ↦ ⟨_, h, rfl⟩

private theorem filter_written_eq_nil (h : name ∉ slots.map Prod.fst) :
    (written slots).filter (fun entry ↦ entry.1 ∈ [name]) = [] := by
  rw [List.filter_eq_nil_iff]
  rintro ⟨first, a⟩ hentry hname
  obtain rfl : first = name := by simpa using hname
  exact h (List.mem_map.2 ⟨_, mem_written_iff.1 hentry, rfl⟩)

/-- A field is found with what was written for it. -/
theorem lookup?_written (hnodup : (slots.map Prod.fst).Nodup) (h : (name, value) ∈ slots)
    (place : Nat) : (named (written slots)).lookup? ⟨place, [name]⟩ = some value := by
  -- of the fields with this name there is the one of the slot, and none if the slot is empty
  have hfilter : (written slots).filter (fun entry ↦ entry.1 ∈ [name]) =
      (value.map (name, ·)).toList := by
    induction slots with
    | nil => exact absurd h List.not_mem_nil
    | cons slot slots ih =>
      rw [List.map_cons, List.nodup_cons] at hnodup
      rw [written_cons, List.filter_append]
      rcases List.mem_cons.1 h with rfl | h
      · rw [filter_written_eq_nil hnodup.1, List.append_nil]
        cases value with
        | none => rfl
        | some value => simp
      · have hne : slot.1 ≠ name := by
          rintro rfl
          exact hnodup.1 (List.mem_map.2 ⟨_, h, rfl⟩)
        have hother : (slot.2.map (slot.1, ·)).toList.filter
            (fun entry ↦ entry.1 ∈ [name]) = [] := by
          cases slot.2 <;> simp [hne]
        rw [hother, List.nil_append, ih hnodup.2 h]
  unfold lookup?
  simp only [hfilter]
  cases value <;> rfl

/-- A field without a value is left out. -/
theorem notMem_written (hnodup : (slots.map Prod.fst).Nodup) (h : (name, none) ∈ slots) :
    name ∉ (written slots).map Prod.fst := by
  intro hname
  obtain ⟨⟨first, a⟩, ha, rfl⟩ := List.mem_map.1 hname
  have hfound := lookup?_written hnodup (mem_written_iff.1 ha) 0
  rw [lookup?_written hnodup h 0] at hfound
  exact absurd (Option.some.inj hfound) (Option.some_ne_none a).symm

/-- A required field is read from its value, and fails without one. -/
theorem required_written (hnodup : (slots.map Prod.fst).Nodup) (h : (name, value) ∈ slots)
    (place : Nat) (read : α → Option β) :
    (named (written slots)).required ⟨place, [name]⟩ read = value.bind read := by
  rw [required, lookup?_written hnodup h, Option.bind_some]

/-- An optional field is read from its value, and takes its default without one. -/
theorem optional_written (hnodup : (slots.map Prod.fst).Nodup) (h : (name, value) ∈ slots)
    (place : Nat) (otherwise : β) (read : α → Option β) :
    (named (written slots)).optional ⟨place, [name]⟩ otherwise read =
      value.elim (some otherwise) read := by
  rw [optional, lookup?_written hnodup h, Option.bind_some]
  cases value <;> rfl

end Record

namespace Json

variable {α : Type} {p : Numeral → Prop} {n : Nat}

/-- A record is sound if the values of its fields are. -/
theorem sound_written {slots : List (String × Option Json)}
    (h : ∀ slot ∈ slots, ∀ value, slot.2 = some value → value.Sound p n) :
    (object (Record.written slots)).Sound p (n + 1) := by
  apply Sound.object
  intro field hfield
  exact h _ (Record.mem_written_iff.1 hfield) field.2 rfl

/-- A field that is always there is sound if its value is. -/
theorem sound_of_some {value : Json} (h : value.Sound p n) :
    ∀ v, some value = some v → v.Sound p n := by
  rintro v ⟨⟩
  exact h

/-- A field that may be missing is sound if every value of it is. -/
theorem sound_of_map {write : α → Json} (h : ∀ a, (write a).Sound p n) (o : Option α) :
    ∀ v, o.map write = some v → v.Sound p n := by
  intro v hv
  obtain ⟨a, -, rfl⟩ := Option.map_eq_some_iff.1 hv
  exact h a

/-- A field that may be null is read back if its values are and none of them is null. -/
theorem elim_map_nullable? {read : Json → Option α} {write : α → Json}
    (hread : ∀ a, read (write a) = some a) (hne : ∀ a, write a ≠ null) (o : Option α) :
    (o.map write).elim (some none) (nullable? read) = some o := by
  cases o with
  | none => rfl
  | some a =>
    rw [Option.map_some, Option.elim_some, nullable?, hread, Option.map_some]
    exact hne a

/-! ### Tables -/

/-- A table is read back if its values are. -/
theorem table?_ofTable {read : Json → Option α} {write : α → Json}
    (h : ∀ a, read (write a) = some a) (table : Std.ExtTreeMap String α) :
    table? read (ofTable write table) = some table := by
  -- no key comes twice, so the last value of a key is its only one
  have hfold : Std.ExtTreeMap.ofList table.toList = table := by
    apply Std.ExtTreeMap.ext_getElem?
    intro key
    cases hkey : table[key]? with
    | none =>
      apply Std.ExtTreeMap.getElem?_ofList_of_contains_eq_false
      rw [Std.ExtTreeMap.map_fst_toList_eq_keys, Bool.eq_false_iff]
      intro hcontains
      rw [List.contains_iff_mem, Std.ExtTreeMap.mem_keys,
        Std.ExtTreeMap.mem_iff_isSome_getElem?, hkey] at hcontains
      exact Bool.false_ne_true hcontains
    | some a =>
      exact Std.ExtTreeMap.getElem?_ofList_of_mem Std.ReflCmp.compare_self
        Std.ExtTreeMap.distinct_keys_toList (Std.ExtTreeMap.mem_toList_iff_getElem?_eq_some.2 hkey)
  rw [table?, ofTable]
  simp only [fields?, Option.bind_eq_bind, Option.bind_some]
  rw [Text.mapM_map_eq_some, Option.bind_some, ← Std.ExtTreeMap.ofList_eq_foldl, hfold]
  · rfl
  · intro entry
    rw [h, Option.map_some]

/-- A stored table is sound if its values are. -/
theorem sound_ofTable {write : α → Json} (h : ∀ a, (write a).Sound p n)
    (table : Std.ExtTreeMap String α) : (ofTable write table).Sound p (n + 1) := by
  apply Sound.object
  intro field hfield
  obtain ⟨entry, -, rfl⟩ := List.mem_map.1 hfield
  exact h entry.2

/-- The fields stand in the order of the bytes of their names, and no name is there twice. -/
def Ascending (fields : List (String × Json)) : Prop :=
  (fields.map Prod.fst).Pairwise fun a b ↦ Text.bytes a < Text.bytes b

/-- The fields of a stored table are named by its keys. -/
theorem map_fst_entries (write : α → Json) (table : Std.ExtTreeMap String α) :
    (table.toList.map fun (name, a) ↦ (name, write a)).map Prod.fst = table.keys := by
  rw [← Std.ExtTreeMap.map_fst_toList_eq_keys, List.map_map]
  rfl

/-- A table is stored with its keys in the order of their bytes. -/
theorem ascending_entries (write : α → Json) (table : Std.ExtTreeMap String α) :
    Ascending (table.toList.map fun (name, a) ↦ (name, write a)) := by
  have hkeys : table.keys.Pairwise fun a b ↦ compare a b = .lt := Std.ExtTreeMap.ordered_keys
  unfold Ascending
  rw [map_fst_entries]
  exact hkeys.imp fun h ↦ Text.bytes_lt_bytes (compareOfLessAndEq_eq_lt.1 h)

end Json

end Storyline
