import Std.Data.ExtTreeMap
import Storyline.Json.Basic
import Storyline.Record

/-!
# Reading JSON values

What a JSON value means to someone who expects a text, a flag, a number, a record or a table.
Nothing is converted, except that a whole number may stand for a floating-point one.
-/

namespace Storyline.Json

variable {α : Type}

/-- The text of a string. -/
def text? : Json → Option String
  | string s => some s
  | _ => none

/-- The value of a flag. -/
def flag? : Json → Option Bool
  | bool b => some b
  | _ => none

/-- The 32-bit number that a value spells. -/
def uint32? : Json → Option UInt32
  | number n => n.uint32?
  | _ => none

/-- The floating-point number that a value spells. -/
def float? : Json → Option Float
  | number n => n.float?
  | _ => none

/-- The items of an array. -/
def items? : Json → Option (List Json)
  | array items => some items
  | _ => none

/-- The fields of an object. -/
def fields? : Json → Option (List (String × Json))
  | object fields => some fields
  | _ => none

/-- A value that may be null instead. -/
def nullable? (read : Json → Option α) : Json → Option (Option α)
  | null => some none
  | j => (read j).map some

/-- A record of at most `size` fields: an object, or an array of the first few fields. -/
def record? (size : Nat) : Json → Option (Record Json)
  | object fields => some (.named fields)
  | array items => if items.length ≤ size then some (.positional items) else none
  | _ => none

/-- An object read as a table; the last of several values under one name counts. -/
def table? (read : Json → Option α) (j : Json) : Option (Std.ExtTreeMap String α) := do
  let fields ← j.fields?
  let entries ← fields.mapM fun (name, value) ↦ (read value).map fun a ↦ (name, a)
  return entries.foldl (fun table (name, a) ↦ table.insert name a) ∅

/-- A table written as an object, in the order of its keys. -/
def ofTable (write : α → Json) (table : Std.ExtTreeMap String α) : Json :=
  object (table.toList.map fun (name, a) ↦ (name, write a))

end Storyline.Json
