/-!
# Records in documents

A document gives the fields of a record by name or by position. Names that the record does not know
are skipped; a field that is given twice, under whatever names, makes the record unreadable.
-/

namespace Storyline

/-- The fields of a record as a document gives them. -/
inductive Record (α : Type) where
  /-- Values under names, in the order in which they are written. -/
  | named (entries : List (String × α))
  /-- Values in the order in which the record declares its fields. -/
  | positional (items : List α)

/-- A field of a record: its place in the declaration and the names it goes by. -/
structure Field where
  /-- The place in the declaration. -/
  place : Nat
  /-- The names, the one that is written first. -/
  names : List String

namespace Record

variable {α β : Type}

/-- The value given for a field. The outer result is missing if it is given twice. -/
def lookup? (record : Record α) (field : Field) : Option (Option α) :=
  match record with
  | positional items => some items[field.place]?
  | named entries =>
    match entries.filter fun entry ↦ entry.1 ∈ field.names with
    | [] => some none
    | [(_, value)] => some (some value)
    | _ => none

/-- The value of a field that must be given. -/
def required (record : Record α) (field : Field) (read : α → Option β) : Option β :=
  (record.lookup? field).bind fun value ↦ value.bind read

/-- The value of a field that may be left out. -/
def optional (record : Record α) (field : Field) (otherwise : β) (read : α → Option β) :
    Option β :=
  (record.lookup? field).bind fun value ↦
    match value with
    | some value => read value
    | none => some otherwise

end Record

end Storyline
