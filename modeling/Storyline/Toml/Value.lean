/-!
# TOML values and tables

A TOML document is built statement by statement. How a table came into being decides what later
statements may do with it: a table is headed once, a key is set once, and dotted keys extend only
tables that dotted keys made.
-/

namespace Storyline.Toml

/-- A TOML value. -/
inductive Value where
  | text (s : String)
  | integer (n : Int)
  | float (x : Float)
  | flag (b : Bool)
  /-- A date, a time, or both. Nothing here depends on which. -/
  | moment
  | array (items : List Value)
  | table (entries : List (String × Value))

/-- How a table came into being. -/
inductive Origin where
  /-- By a header of its own. -/
  | header
  /-- By a header of a table inside it. -/
  | implied
  /-- By a dotted key. -/
  | dotted
  deriving DecidableEq, Repr

/-- What a key stands for in a document that is being built. -/
inductive Node where
  | value (v : Value)
  | table (origin : Origin) (entries : List (String × Node))
  /-- An array of tables, each headed by double brackets. -/
  | tables (rows : List (List (String × Node)))

/-- The keys of a table with what they stand for, in the order in which they were first set. -/
abbrev Entries := List (String × Node)

namespace Entries

/-- Sets a key, in its old place if it was set before. -/
def put (key : String) (node : Node) (entries : Entries) : Entries :=
  if entries.any (·.1 == key) then
    entries.map fun entry ↦ if entry.1 = key then (key, node) else entry
  else entries ++ [(key, node)]

/-- Changes the table at the end of a path, which starts in a table of a given origin. Tables that
are missing on the way are made with the origin `made`. Through an array of tables the path leads
to its last table. A dotted path stops at a table that has a header. -/
def changeAt (made : Origin) (change : Origin → Entries → Option Entries) :
    List String → Origin → Entries → Option Entries
  | [], origin, entries => change origin entries
  | key :: path, _, entries =>
    match entries.lookup key with
    | none =>
      (changeAt made change path made []).map fun inner ↦ entries.put key (.table made inner)
    | some (.table origin inner) =>
      if made = .dotted ∧ origin = .header then none
      else
        (changeAt made change path origin inner).map fun inner ↦
          entries.put key (.table origin inner)
    | some (.tables rows) =>
      match rows.getLast? with
      | none => none
      | some row =>
        (changeAt made change path .header row).map fun row ↦
          entries.put key (.tables (rows.dropLast ++ [row]))
    | some (.value _) => none

/-- Sets the key at the end of a dotted path to a value. Only a table that dotted keys made can be
reached by a dot. -/
def assign (path : List String) (key : String) (v : Value) (entries : Entries) : Option Entries :=
  changeAt .dotted
    (fun origin inner ↦
      if (path ≠ [] ∧ origin ≠ .dotted) ∨ inner.any (·.1 == key) then none
      else some (inner.put key (.value v)))
    path .header entries

/-- Heads the table `key` at the end of a path. -/
def head (path : List String) (key : String) (entries : Entries) : Option Entries :=
  changeAt .implied
    (fun _ inner ↦
      match inner.lookup key with
      | none => some (inner.put key (.table .header []))
      | some (.table .implied old) => some (inner.put key (.table .header old))
      | some _ => none)
    path .header entries

/-- Adds a table to the array of tables `key` at the end of a path. -/
def headRow (path : List String) (key : String) (entries : Entries) : Option Entries :=
  changeAt .implied
    (fun _ inner ↦
      match inner.lookup key with
      | none => some (inner.put key (.tables [[]]))
      | some (.tables rows) => some (inner.put key (.tables (rows ++ [[]])))
      | some _ => none)
    path .header entries

/-- Changes the table that a header path names, which was headed before. -/
def within (path : List String) (change : Entries → Option Entries) (entries : Entries) :
    Option Entries :=
  changeAt .implied (fun _ inner ↦ change inner) path .header entries

end Entries

mutual

/-- The value that a finished node stands for. -/
def Node.toValue : Node → Value
  | .value v => v
  | .table _ entries => .table (Node.valuesOfEntries entries)
  | .tables rows => .array (Node.valuesOfRows rows)

/-- The values of the keys of a finished table. -/
def Node.valuesOfEntries : List (String × Node) → List (String × Value)
  | [] => []
  | (key, node) :: entries => (key, node.toValue) :: Node.valuesOfEntries entries

/-- The tables of a finished array of tables. -/
def Node.valuesOfRows : List (List (String × Node)) → List Value
  | [] => []
  | row :: rows => .table (Node.valuesOfEntries row) :: Node.valuesOfRows rows

end

end Storyline.Toml
