import Storyline.Toml.Lexeme
import Storyline.Toml.Value

/-!
# TOML documents

A reader for TOML documents. Values nest to a limited depth; within one level, every item takes at
least one character, which bounds the recursion.
-/

namespace Storyline.Toml

/-! ### Values -/

/-- Reads a flag, a number or a date. -/
def readScalar (cs : List Char) : Option (Value × List Char) :=
  match cs with
  | 't' :: 'r' :: 'u' :: 'e' :: rest => some (.flag true, rest)
  | 'f' :: 'a' :: 'l' :: 's' :: 'e' :: rest => some (.flag false, rest)
  | _ =>
    ((moment? cs).map fun rest ↦ (.moment, rest)).or
      (((readFloat cs).map fun (x, rest) ↦ (.float x, rest)).or
        ((readInteger cs).map fun (n, rest) ↦ (.integer n, rest)))

mutual

/-- Reads a value inside at most `level` further arrays and inline tables. The bound falls at each
value, item and key. -/
def readValue (level : Nat) : Nat → List Char → Option (Value × List Char)
  | 0, _ => none
  | bound + 1, cs =>
    match cs with
    | '[' :: rest =>
      if level = 0 then none
      else do
        let (items, rest) ← readItems (level - 1) bound rest
        return (.array items, rest)
    | '\x7b' :: rest =>
      if level = 0 then none
      else
        match skipBlanks rest with
        | '\x7d' :: rest => some (.table [], rest)
        | rest => do
          let (entries, rest) ← readPairs (level - 1) bound [] rest
          return ((Node.table .header entries).toValue, rest)
    | '"' :: _ | '\'' :: _ => (readString cs).map fun (s, rest) ↦ (.text (String.ofList s), rest)
    | _ => readScalar cs

/-- Reads the items of an array up to its closing bracket. A comma may follow the last one. -/
def readItems (level : Nat) : Nat → List Char → Option (List Value × List Char)
  | 0, _ => none
  | bound + 1, cs => do
    match ← skipFiller? false cs with
    | ']' :: rest => return ([], rest)
    | rest =>
      let (item, rest) ← readValue level bound rest
      match ← skipFiller? false rest with
      | ']' :: rest => return ([item], rest)
      | ',' :: rest =>
        let (items, rest) ← readItems level bound rest
        return (item :: items, rest)
      | _ => none

/-- Reads the pairs of an inline table up to its closing brace, and adds them to `entries`. -/
def readPairs (level : Nat) : Nat → Entries → List Char → Option (Entries × List Char)
  | 0, _, _ => none
  | bound + 1, entries, cs => do
    let (path, key, rest) ← readKey cs
    let rest ← Text.dropPrefix? ['='] rest
    let (v, rest) ← readValue level bound (skipBlanks rest)
    let entries ← entries.assign path key v
    match skipBlanks rest with
    | '\x7d' :: rest => return (entries, rest)
    | ',' :: rest => readPairs level bound entries rest
    | _ => none

end

/-! ### Statements -/

/-- A document up to some place: what it has set, and the table that the latest header named. -/
structure Progress where
  /-- What has been set. -/
  entries : Entries := []
  /-- The path of the table to which keys belong. -/
  current : List String := []

/-- Reads the header of a table. -/
def readHeader (progress : Progress) (cs : List Char) : Option (Progress × List Char) := do
  let (path, key, rest) ← readKey cs
  let rest ← endOfLine? (← Text.dropPrefix? [']'] rest)
  return (⟨← progress.entries.head path key, path ++ [key]⟩, rest)

/-- Reads the header of a table in an array of tables. -/
def readRowHeader (progress : Progress) (cs : List Char) : Option (Progress × List Char) := do
  let (path, key, rest) ← readKey cs
  let rest ← endOfLine? (← Text.dropPrefix? [']', ']'] rest)
  return (⟨← progress.entries.headRow path key, path ++ [key]⟩, rest)

/-- Reads a key with its value. -/
def readAssignment (progress : Progress) (cs : List Char) : Option (Progress × List Char) := do
  let (path, key, rest) ← readKey cs
  let rest := skipBlanks (← Text.dropPrefix? ['='] rest)
  let (v, rest) ← readValue maxNesting (2 * rest.length + 2) rest
  let entries ← progress.entries.within progress.current (·.assign path key v)
  return ({ progress with entries }, ← endOfLine? rest)

/-- Reads one statement, or the rest of a line that has none. -/
def readStatement (progress : Progress) (cs : List Char) : Option (Progress × List Char) :=
  match cs with
  | '[' :: '[' :: rest => readRowHeader progress rest
  | '[' :: rest => readHeader progress rest
  | c :: _ =>
    if c = '#' ∨ c = '\n' ∨ c = '\r' then (endOfLine? cs).map fun rest ↦ (progress, rest)
    else readAssignment progress cs
  | [] => some (progress, [])

/-- Reads statements up to the end of the text. The bound falls at each line. -/
def readStatements : Nat → Progress → List Char → Option Progress
  | 0, _, _ => none
  | bound + 1, progress, cs =>
    match skipBlanks cs with
    | [] => some progress
    | rest => do
      let (progress, rest) ← readStatement progress rest
      readStatements bound progress rest

/-- The text without a byte order mark at its front. -/
def dropMark : List Char → List Char
  | '\ufeff' :: cs => cs
  | cs => cs

/-- The table of a TOML document. -/
def parse? (text : String) : Option (List (String × Value)) := do
  let cs := dropMark text.toList
  let progress ← readStatements (cs.length + 1) {} cs
  return Node.valuesOfEntries progress.entries

end Storyline.Toml
