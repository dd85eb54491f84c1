/-!
# Shortest decimals

The shortest decimal that reads back to a given binary floating-point number. All arithmetic is
exact: a number is compared with the interval of reals that round to it.
-/

namespace Storyline.Decimal

/-- Ten to a power. -/
def powerOfTen (n : Nat) : Nat := Nat.pow 10 n

/-- A decimal: a coefficient times a power of ten. -/
structure Scientific where
  /-- The coefficient. -/
  coefficient : Nat
  /-- The exponent of ten. -/
  exponent : Int
  deriving DecidableEq, Repr

/-- A positive number among the reals that round to it, over a common denominator. -/
structure Neighbourhood where
  /-- The number. -/
  value : Nat
  /-- The least real that rounds to it, or their limit. -/
  lower : Nat
  /-- The greatest real that rounds to it, or their limit. -/
  upper : Nat
  /-- The denominator of all three. -/
  denominator : Nat
  /-- Whether the limits round to the number as well. -/
  closed : Bool
  deriving DecidableEq, Repr

namespace Neighbourhood

/-- The neighbourhood of a positive finite double with these bits. Its mantissa counts quarters of
the spacing; the spacing below a power of two is half of that above it, and an even mantissa wins
ties. -/
def ofBits (bits : UInt64) : Neighbourhood :=
  let hidden := 1 <<< 52
  let fraction := bits.toNat % hidden
  let biased := bits.toNat / hidden % 2048
  let mantissa := if biased = 0 then fraction else fraction + hidden
  let below := if fraction = 0 ∧ 1 < biased then 1 else 2
  -- the spacing is two to the power of `max biased 1 - 1075`, and a quarter of it is the unit
  let up := max biased 1 - 1077
  let down := 1077 - max biased 1
  { value := (4 * mantissa) <<< up
    lower := (4 * mantissa - below) <<< up
    upper := (4 * mantissa + 2) <<< up
    denominator := 1 <<< down
    closed := mantissa % 2 = 0 }

/-- The neighbourhood measured in units of ten to the power `place`. -/
def inUnits (n : Neighbourhood) (place : Int) : Neighbourhood :=
  let grow := powerOfTen (-place).toNat
  { n with
    value := n.value * grow
    lower := n.lower * grow
    upper := n.upper * grow
    denominator := n.denominator * powerOfTen place.toNat }

/-- Whether a whole number lies in the neighbourhood. -/
def holds (n : Neighbourhood) (c : Nat) : Bool :=
  let x := c * n.denominator
  if n.closed then n.lower ≤ x && x ≤ n.upper else n.lower < x && x < n.upper

/-- The whole number in the neighbourhood that is nearest to the value, of two the even one. -/
def nearest? (n : Neighbourhood) : Option Nat :=
  let c := n.value / n.denominator
  let twice := 2 * (n.value % n.denominator)
  match n.holds c, n.holds (c + 1) with
  | true, true =>
    if twice < n.denominator ∨ (twice = n.denominator ∧ c % 2 = 0) then some c else some (c + 1)
  | true, false => some c
  | false, true => some (c + 1)
  | false, false => none

/-- The place of the leading digit of the value. -/
def leadingPlace (n : Neighbourhood) : Int :=
  if n.denominator ≤ n.value then
    (Nat.toDigits 10 (n.value / n.denominator)).length - 1
  else
    -- no double is as small as ten to the power -330
    let shifts := (List.range 330).takeWhile (fun i ↦ n.value * powerOfTen i < n.denominator)
    (0 : Int) - shifts.length

end Neighbourhood

/-- The decimal without the zeros at the end of its coefficient. -/
def Scientific.trimmed (d : Scientific) : Scientific :=
  let zeros := ((Nat.toDigits 10 d.coefficient).reverse.takeWhile (· == '0')).length
  if d.coefficient = 0 then d
  else ⟨d.coefficient / powerOfTen zeros, d.exponent + zeros⟩

/-- The shortest decimal in a neighbourhood, and of those the nearest to the value. A grid of
decimals with so many digits meets the neighbourhood only if one of the value's two neighbours on
the grid lies in it; 17 digits always suffice. -/
def shortest (n : Neighbourhood) : Scientific :=
  let place := n.leadingPlace
  let found := (List.range 17).findSome? fun (i : Nat) ↦
    (n.inUnits (place - i)).nearest?.map fun c ↦ (⟨c, place - i⟩ : Scientific)
  (found.getD ⟨n.value / n.denominator, 0⟩).trimmed

end Storyline.Decimal
