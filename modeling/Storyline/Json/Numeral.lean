import Storyline.Decimal.Shortest
import Storyline.Text.Digit

/-!
# JSON numerals

A number in JSON text is kept as it is spelled. What it means depends on what is wanted: a whole
number of 32 bits, or a floating-point number.
-/

namespace Storyline.Json

/-- The exponent of a numeral. -/
structure Exponent where
  /-- Whether the exponent has a minus sign. -/
  negative : Bool
  /-- The digits of the exponent. -/
  digits : List Char
  deriving DecidableEq, Repr

/-- A number as it is spelled. -/
structure Numeral where
  /-- Whether the numeral has a minus sign. -/
  negative : Bool := false
  /-- The digits before the point. -/
  whole : List Char
  /-- The digits after the point; none if there is no point. -/
  fraction : List Char := []
  /-- The exponent, if there is one. -/
  exponent : Option Exponent := none
  deriving DecidableEq, Repr

namespace Numeral

/-- The spelling of an exponent. A sign is always written. -/
def exponentChars (e : Exponent) : List Char :=
  'e' :: (if e.negative then '-' else '+') :: e.digits

/-- The spelling of a numeral. -/
def toChars (n : Numeral) : List Char :=
  (if n.negative then ['-'] else []) ++ n.whole ++
    (if n.fraction = [] then [] else '.' :: n.fraction) ++
    (n.exponent.map exponentChars).getD []

/-! ### Whole numbers -/

/-- The numeral of a natural number. -/
def ofNat (n : Nat) : Numeral := { whole := Nat.toDigits 10 n }

/-- The number that a numeral without sign, point and exponent spells. -/
def natural? (n : Numeral) : Option Nat :=
  if n.negative || !n.fraction.isEmpty || n.exponent.isSome then none
  else Text.natural? n.whole

/-- The 32-bit number that a numeral spells. -/
def uint32? (n : Numeral) : Option UInt32 :=
  n.natural?.bind fun k ↦ if k < UInt32.size then some (UInt32.ofNat k) else none

/-! ### Floating-point numbers

Reading keeps the digits that fit into 64 bits, from the left, and then multiplies or divides once
by a power of ten. The result can differ from the nearest double in the last place. -/

/-- Appends decimal digits to a number while it fits into 64 bits: the number and the digits left
over. -/
def accumulate (n : Nat) : List Char → Nat × List Char
  | [] => (n, [])
  | c :: cs =>
    let next := 10 * n + (c.toNat - '0'.toNat)
    if next < UInt64.size then accumulate next cs else (n, c :: cs)

/-- Ten to a power of at most 308. -/
def powerOfTen (n : Nat) : Float := Float.ofScientific 1 false n

/-- A number divided by a power of ten, in steps of 308 places. -/
def divide (x : Float) (places : Nat) : Float :=
  if x == 0 then x
  else if places ≤ 308 then x / powerOfTen places
  else divide (x / powerOfTen 308) (places - 308)
termination_by places

/-- A number times a power of ten, unless it is too large for a double. -/
def scale? (x : Float) (exponent : Int) : Option Float :=
  match exponent with
  | .ofNat places =>
    if x == 0 then some x
    else if places ≤ 308 then
      let y := x * powerOfTen places
      if y.isInf then none else some y
    else none
  | .negSucc places => some (divide x (places + 1))

/-- The floating-point number that a numeral spells, unless it is too large for a double. -/
def float? (n : Numeral) : Option Float := do
  let (significand, skipped) := accumulate 0 n.whole
  let (significand, ignored) := accumulate significand n.fraction
  let start : Int := skipped.length - (n.fraction.length - ignored.length : Nat)
  let shift : Int :=
    match n.exponent with
    | some e => (if e.negative then -1 else 1) * ((Text.natural? e.digits).getD 0 : Nat)
    | none => 0
  let magnitude ← scale? (Float.ofNat significand) (start + shift)
  return if n.negative then -magnitude else magnitude

/-- Whether a number can be kept as it is or as a double: whole numbers of 64 bits are kept as they
are, all others must not be too large for a double. -/
def isKeepable (n : Numeral) : Bool :=
  n.natural?.any (· < UInt64.size) || n.float?.isSome

/-- The numeral of a decimal: plain between 0.00001 and 10000000000000000, with at least one digit
after the point, and otherwise with an exponent. -/
def ofScientific (negative : Bool) (d : Decimal.Scientific) : Numeral :=
  let digits := Nat.toDigits 10 d.coefficient
  let point : Int := digits.length + d.exponent
  if 0 ≤ d.exponent ∧ point ≤ 16 then
    { negative, whole := digits ++ List.replicate d.exponent.toNat '0', fraction := ['0'] }
  else if 0 < point ∧ point ≤ 16 then
    { negative, whole := digits.take point.toNat, fraction := digits.drop point.toNat }
  else if -5 < point ∧ point ≤ 0 then
    { negative, whole := ['0'], fraction := List.replicate (-point).toNat '0' ++ digits }
  else
    { negative
      whole := digits.take 1
      fraction := digits.drop 1
      exponent := some
        { negative := point < 1
          digits := Nat.toDigits 10 (point - 1).natAbs } }

/-- The shortest numeral that reads back to a floating-point number; infinities and values that
are no number have none. -/
def ofFloat? (x : Float) : Option Numeral :=
  let negative := 1 <<< 63 ≤ x.toBits.toNat
  if x.isNaN || x.isInf then none
  else if x == 0 then some { negative, whole := ['0'], fraction := ['0'] }
  else some (ofScientific negative (Decimal.shortest (.ofBits x.toBits)))

end Numeral

end Storyline.Json
