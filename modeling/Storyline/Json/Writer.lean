import Storyline.Json.Basic

/-!
# Writing JSON

Two layouts: compact, without blanks, and pretty, with two spaces for each level and a blank after
the colon. Strings escape the quote, the backslash and the control characters below U+0020; all
else is written as it is.
-/

namespace Storyline.Json

/-- A hexadecimal digit in lower case. -/
def hexChar (n : Nat) : Char :=
  if n < 10 then Char.ofNat ('0'.toNat + n) else Char.ofNat ('a'.toNat + n - 10)

/-- A character as it is written in a string. -/
def escapeChar (c : Char) : List Char :=
  if c = '"' then ['\\', '"']
  else if c = '\\' then ['\\', '\\']
  else if c = '\x08' then ['\\', 'b']
  else if c = '\x0c' then ['\\', 'f']
  else if c = '\n' then ['\\', 'n']
  else if c = '\r' then ['\\', 'r']
  else if c = '\t' then ['\\', 't']
  else if c.toNat < 0x20 then
    ['\\', 'u', '0', '0', hexChar (c.toNat / 16), hexChar (c.toNat % 16)]
  else [c]

/-- A text between quotes. -/
def quote (s : String) : List Char :=
  '"' :: s.toList.flatMap escapeChar ++ ['"']

mutual

/-- A value without blanks. -/
def compactChars : Json → List Char
  | null => "null".toList
  | bool true => "true".toList
  | bool false => "false".toList
  | number n => n.toChars
  | string s => quote s
  | array items => '[' :: compactItems items ++ [']']
  | object fields => '\x7b' :: compactFields fields ++ ['\x7d']
  | unreadable => "null".toList

/-- Values with commas between them. -/
def compactItems : List Json → List Char
  | [] => []
  | [item] => compactChars item
  | item :: items => compactChars item ++ ',' :: compactItems items

/-- Fields with commas between them. -/
def compactFields : List (String × Json) → List Char
  | [] => []
  | [(name, value)] => quote name ++ ':' :: compactChars value
  | (name, value) :: fields =>
    quote name ++ ':' :: compactChars value ++ ',' :: compactFields fields

end

/-- A new line at some level. -/
def newline (level : Nat) : List Char :=
  '\n' :: List.replicate (2 * level) ' '

mutual

/-- A value in the pretty layout, inside `level` arrays and objects. -/
def prettyChars (level : Nat) : Json → List Char
  | array [] => "[]".toList
  | array items => '[' :: prettyItems (level + 1) items ++ newline level ++ [']']
  | object [] => ['\x7b', '\x7d']
  | object fields => '\x7b' :: prettyFields (level + 1) fields ++ newline level ++ ['\x7d']
  | null => "null".toList
  | bool true => "true".toList
  | bool false => "false".toList
  | number n => n.toChars
  | string s => quote s
  | unreadable => "null".toList

/-- Values on lines of their own. -/
def prettyItems (level : Nat) : List Json → List Char
  | [] => []
  | [item] => newline level ++ prettyChars level item
  | item :: items => newline level ++ prettyChars level item ++ ',' :: prettyItems level items

/-- Fields on lines of their own. -/
def prettyFields (level : Nat) : List (String × Json) → List Char
  | [] => []
  | [(name, value)] => newline level ++ quote name ++ ": ".toList ++ prettyChars level value
  | (name, value) :: fields =>
    newline level ++ quote name ++ ": ".toList ++ prettyChars level value ++
      ',' :: prettyFields level fields

end

/-- The compact text of a value. -/
def compact (j : Json) : String := String.ofList j.compactChars

/-- The pretty text of a value. -/
def pretty (j : Json) : String := String.ofList (j.prettyChars 0)

end Storyline.Json
