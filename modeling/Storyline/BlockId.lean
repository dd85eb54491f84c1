import Storyline.Text.Letter
import Storyline.Text.Search

/-!
# Block identifiers

A block keeps its identifier while it is edited and moved. Identifiers are 128-bit numbers, written
as 32 hexadecimal digits in five groups. Reading also accepts the digits without hyphens, in
braces, or after `urn:uuid:`, and capital letters everywhere.
-/

namespace Storyline

/-- An identifier: 32 hexadecimal digits, the most significant first. -/
structure BlockId where
  /-- The digits. -/
  digits : List (Fin 16)
  /-- There are 32 of them. -/
  length_digits : digits.length = 32
  deriving DecidableEq

namespace BlockId

/-- The identifier with the lower 128 bits of a number. -/
def ofNat (n : Nat) : BlockId where
  digits := (List.range 32).map fun i ↦ Fin.ofNat 16 (n >>> (4 * (31 - i)))
  length_digits := by simp

/-- The number of digits in each group of the written form. -/
def groups : List Nat := [8, 4, 4, 4, 12]

/-- A hexadecimal digit as it is written. -/
def hexChar (d : Fin 16) : Char :=
  if d.val < 10 then Char.ofNat ('0'.toNat + d.val) else Char.ofNat ('a'.toNat + d.val - 10)

/-- The value of a hexadecimal digit of either case. -/
def hexValue? (c : Char) : Option (Fin 16) :=
  let n := c.toLower.toNat
  if c.isDigit then some (Fin.ofNat 16 (n - '0'.toNat))
  else if 'a'.toNat ≤ n ∧ n ≤ 'f'.toNat then some (Fin.ofNat 16 (n - 'a'.toNat + 10))
  else none

/-- The value of a hexadecimal digit is read back. -/
theorem hexValue?_hexChar (d : Fin 16) : hexValue? (hexChar d) = some d := by
  revert d; decide

/-- Cuts a list into pieces of the given sizes; what is left over makes a last piece. -/
def cut {α : Type} : List Nat → List α → List (List α)
  | [], _ => []
  | [_], l => [l]
  | n :: ns, l => l.take n :: cut ns (l.drop n)

/-- The written form: the digits in groups joined by hyphens. -/
def toChars (id : BlockId) : List Char :=
  ['-'].intercalate (cut groups (id.digits.map hexChar))

/-- The written form as text. -/
def toText (id : BlockId) : String := String.ofList id.toChars

/-- Reads 32 hexadecimal digits. -/
def ofDigits? (cs : List Char) : Option BlockId := do
  let digits ← cs.mapM hexValue?
  if h : digits.length = 32 then some ⟨digits, h⟩ else none

/-- Removes the hyphens between groups of the given sizes. -/
def ungroup? : List Nat → List Char → Option (List Char)
  | [], _ => none
  | [n], cs => if cs.length = n then some cs else none
  | n :: ns, cs => do
    let rest ← Text.dropPrefix? ['-'] (cs.drop n)
    return cs.take n ++ (← ungroup? ns rest)

/-- Reads an identifier in the grouped form. -/
def ofGrouped? (cs : List Char) : Option BlockId :=
  (ungroup? groups cs).bind ofDigits?

/-- Removes braces, or the name of the namespace in letters of either case, from around an
identifier. -/
def unwrap (cs : List Char) : List Char :=
  match Text.dropWord? "urn:uuid:".toList cs with
  | some rest => rest
  | none =>
    match cs with
    | '{' :: rest => if rest.getLast? = some '}' then rest.dropLast else cs
    | _ => cs

/-- Reads an identifier in any of its forms. Braces and the namespace go with the grouped form. -/
def ofText? (s : String) : Option BlockId :=
  (ofDigits? s.toList).or (ofGrouped? (unwrap s.toList))

end BlockId

end Storyline
