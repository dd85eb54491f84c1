import Storyline.Json.Numeral

/-!
# JSON values

The values of JSON text. Objects keep their fields in the order in which they are written, repeated
names included: what a repetition means is decided by whoever reads the object.
-/

namespace Storyline

/-- A JSON value. -/
inductive Json where
  | null
  | bool (b : Bool)
  | number (n : Json.Numeral)
  | string (s : String)
  | array (items : List Json)
  | object (fields : List (String × Json))
  /-- A value that is spelled correctly and stands for no text: a string with half a surrogate
  pair, or an object with such a name. It can be skipped and not read. -/
  | unreadable

namespace Json

/-- The number of a natural number. -/
def ofNat (n : Nat) : Json := number (.ofNat n)

/-- The number of a floating-point number, or null if it has none. -/
def ofFloat (x : Float) : Json :=
  match Numeral.ofFloat? x with
  | some n => number n
  | none => null

mutual

/-- The number of arrays and objects that stand inside each other. -/
def depth : Json → Nat
  | array items => depthOfItems items + 1
  | object fields => depthOfFields fields + 1
  | _ => 0

/-- The greatest depth of some values. -/
def depthOfItems : List Json → Nat
  | [] => 0
  | item :: items => max (depth item) (depthOfItems items)

/-- The greatest depth of the values of some fields. -/
def depthOfFields : List (String × Json) → Nat
  | [] => 0
  | (_, value) :: fields => max (depth value) (depthOfFields fields)

end

mutual

/-- Whether a value can be kept without knowing what it is for: every number in it can be kept and
no text is unreadable. -/
def isKeepable : Json → Bool
  | number n => n.isKeepable
  | array items => areItemsKeepable items
  | object fields => areFieldsKeepable fields
  | unreadable => false
  | _ => true

/-- Whether all of some values can be kept. -/
def areItemsKeepable : List Json → Bool
  | [] => true
  | item :: items => isKeepable item && areItemsKeepable items

/-- Whether the values of some fields can all be kept. -/
def areFieldsKeepable : List (String × Json) → Bool
  | [] => true
  | (_, value) :: fields => isKeepable value && areFieldsKeepable fields

end

end Json

end Storyline
