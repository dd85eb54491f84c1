import Storyline.Json.Reader
import Storyline.Json.Writer

/-!
# Layouts

The two writers differ in nothing but the spaces between the parts of a value. With these spaces as
a parameter both of them are one writer, so that what is said of all layouts is said of both texts.
-/

namespace Storyline.Json

/-- Which spaces stand between the parts of a value. -/
structure Layout where
  /-- What stands in front of an item or a field inside so many arrays and objects, and in front of
  the bracket that closes them. -/
  gap : Nat → List Char
  /-- What stands behind a colon. -/
  space : List Char
  /-- There are only spaces in a gap. -/
  isSpace_gap : ∀ level, ∀ c ∈ gap level, isSpace c = true
  /-- There are only spaces behind a colon. -/
  isSpace_space : ∀ c ∈ space, isSpace c = true

namespace Layout

variable (layout : Layout)

mutual

/-- A value in a layout, inside `level` arrays and objects. -/
def chars (level : Nat) : Json → List Char
  | .null => "null".toList
  | .bool true => "true".toList
  | .bool false => "false".toList
  | .number n => n.toChars
  | .string s => quote s
  | .array [] => ['[', ']']
  | .array items => '[' :: (itemsChars (level + 1) items ++ layout.gap level ++ [']'])
  | .object [] => ['\x7b', '\x7d']
  | .object fields => '\x7b' :: (fieldsChars (level + 1) fields ++ layout.gap level ++ ['\x7d'])
  | .unreadable => "null".toList

/-- Values with commas between them. -/
def itemsChars (level : Nat) : List Json → List Char
  | [] => []
  | [item] => layout.gap level ++ chars level item
  | item :: items => layout.gap level ++ chars level item ++ ',' :: itemsChars level items

/-- Fields with commas between them. -/
def fieldsChars (level : Nat) : List (String × Json) → List Char
  | [] => []
  | [(name, value)] => layout.gap level ++ quote name ++ ':' :: (layout.space ++ chars level value)
  | (name, value) :: fields =>
    layout.gap level ++ quote name ++ ':' :: (layout.space ++ chars level value) ++
      ',' :: fieldsChars level fields

end

/-- The items of an array stand between brackets. -/
theorem chars_array_cons (level : Nat) (item : Json) (items : List Json) :
    layout.chars level (.array (item :: items)) =
      '[' :: (layout.itemsChars (level + 1) (item :: items) ++ layout.gap level ++ [']']) := by
  rw [chars]
  exact List.cons_ne_nil _ _

/-- The fields of an object stand between braces. -/
theorem chars_object_cons (level : Nat) (field : String × Json) (fields : List (String × Json)) :
    layout.chars level (.object (field :: fields)) =
      '\x7b' :: (layout.fieldsChars (level + 1) (field :: fields) ++ layout.gap level ++
        ['\x7d']) := by
  rw [chars]
  exact List.cons_ne_nil _ _

/-- A comma stands behind every item but the last. -/
theorem itemsChars_cons_cons (level : Nat) (item next : Json) (items : List Json) :
    layout.itemsChars level (item :: next :: items) =
      layout.gap level ++ layout.chars level item ++
        ',' :: layout.itemsChars level (next :: items) := by
  rw [itemsChars]
  exact List.cons_ne_nil _ _

/-- A comma stands behind every field but the last. -/
theorem fieldsChars_cons_cons (level : Nat) (name : String) (value : Json)
    (next : String × Json) (fields : List (String × Json)) :
    layout.fieldsChars level ((name, value) :: next :: fields) =
      layout.gap level ++ quote name ++ ':' :: (layout.space ++ layout.chars level value) ++
        ',' :: layout.fieldsChars level (next :: fields) := by
  rw [fieldsChars]
  exact List.cons_ne_nil _ _

/-- No spaces at all. -/
def compact : Layout where
  gap _ := []
  space := []
  isSpace_gap _ _ hc := absurd hc List.not_mem_nil
  isSpace_space _ hc := absurd hc List.not_mem_nil

/-- Items and fields on lines of their own. -/
def pretty : Layout where
  gap := newline
  space := [' ']
  isSpace_gap level c hc := by
    rcases List.mem_cons.1 hc with rfl | hc
    · rfl
    · rw [List.eq_of_mem_replicate hc]
      rfl
  isSpace_space c hc := by
    rw [List.mem_singleton.1 hc]
    rfl

end Layout

mutual

/-- The writer on one line writes the layout without spaces. -/
theorem compactChars_eq : ∀ (level : Nat) (j : Json),
    j.compactChars = Layout.compact.chars level j
  | _, .null | _, .bool true | _, .bool false | _, .number _ | _, .string _ | _, .unreadable
  | _, .array [] | _, .object [] => rfl
  | level, .array (item :: items) => by
    rw [compactChars, Layout.chars_array_cons, compactItems_eq (level + 1) (item :: items)]
    simp [Layout.compact]
  | level, .object (field :: fields) => by
    rw [compactChars, Layout.chars_object_cons, compactFields_eq (level + 1) (field :: fields)]
    simp [Layout.compact]

private theorem compactItems_eq : ∀ (level : Nat) (items : List Json),
    compactItems items = Layout.compact.itemsChars level items
  | _, [] => rfl
  | level, [item] => by
    rw [compactItems, Layout.itemsChars, compactChars_eq level item]
    rfl
  | level, item :: next :: items => by
    rw [compactItems, Layout.itemsChars_cons_cons, compactChars_eq level item,
      compactItems_eq level (next :: items)]
    · rfl
    · exact List.cons_ne_nil _ _

private theorem compactFields_eq : ∀ (level : Nat) (fields : List (String × Json)),
    compactFields fields = Layout.compact.fieldsChars level fields
  | _, [] => rfl
  | level, [(name, value)] => by
    rw [compactFields, Layout.fieldsChars, compactChars_eq level value]
    rfl
  | level, (name, value) :: next :: fields => by
    rw [compactFields, Layout.fieldsChars_cons_cons, compactChars_eq level value,
      compactFields_eq level (next :: fields)]
    · simp [Layout.compact]
    · exact List.cons_ne_nil _ _

end

mutual

/-- The writer on many lines writes the layout with items and fields on their own. -/
theorem prettyChars_eq : ∀ (level : Nat) (j : Json),
    prettyChars level j = Layout.pretty.chars level j
  | _, .null | _, .bool true | _, .bool false | _, .number _ | _, .string _ | _, .unreadable
  | _, .array [] | _, .object [] => rfl
  | level, .array (item :: items) => by
    rw [prettyChars, Layout.chars_array_cons, prettyItems_eq (level + 1) (item :: items)]
    · simp [Layout.pretty]
    · exact List.cons_ne_nil _ _
  | level, .object (field :: fields) => by
    rw [prettyChars, Layout.chars_object_cons, prettyFields_eq (level + 1) (field :: fields)]
    · simp [Layout.pretty]
    · exact List.cons_ne_nil _ _

private theorem prettyItems_eq : ∀ (level : Nat) (items : List Json),
    prettyItems level items = Layout.pretty.itemsChars level items
  | _, [] => rfl
  | level, [item] => by
    rw [prettyItems, Layout.itemsChars, prettyChars_eq level item]
    rfl
  | level, item :: next :: items => by
    rw [prettyItems, Layout.itemsChars_cons_cons, prettyChars_eq level item,
      prettyItems_eq level (next :: items)]
    · rfl
    · exact List.cons_ne_nil _ _

private theorem prettyFields_eq : ∀ (level : Nat) (fields : List (String × Json)),
    prettyFields level fields = Layout.pretty.fieldsChars level fields
  | _, [] => rfl
  | level, [(name, value)] => by
    rw [prettyFields, Layout.fieldsChars, prettyChars_eq level value]
    simp [Layout.pretty]
  | level, (name, value) :: next :: fields => by
    rw [prettyFields, Layout.fieldsChars_cons_cons, prettyChars_eq level value,
      prettyFields_eq level (next :: fields)]
    · simp [Layout.pretty]
    · exact List.cons_ne_nil _ _

end

end Storyline.Json
