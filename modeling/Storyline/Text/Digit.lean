/-!
# Decimal digits

Two classes of digit: every character of the Unicode general category Nd (Unicode 16), and the ten
ASCII digits among them. Time stamps and line codes are found by the wide class; numbers are read
from the narrow one.
-/

namespace Storyline.Text

/-- The zero of each run of ten decimal digits in the category Nd, in increasing order. -/
def zeros : List Nat :=
  [0x30, 0x660, 0x6f0, 0x7c0, 0x966, 0x9e6, 0xa66, 0xae6, 0xb66, 0xbe6, 0xc66, 0xce6, 0xd66,
   0xde6, 0xe50, 0xed0, 0xf20, 0x1040, 0x1090, 0x17e0, 0x1810, 0x1946, 0x19d0, 0x1a80, 0x1a90,
   0x1b50, 0x1bb0, 0x1c40, 0x1c50, 0xa620, 0xa8d0, 0xa900, 0xa9d0, 0xa9f0, 0xaa50, 0xabf0,
   0xff10, 0x104a0, 0x10d30, 0x10d40, 0x11066, 0x110f0, 0x11136, 0x111d0, 0x112f0, 0x11450,
   0x114d0, 0x11650, 0x116c0, 0x116d0, 0x116da, 0x11730, 0x118e0, 0x11950, 0x11bf0, 0x11c50,
   0x11d50, 0x11da0, 0x11f50, 0x16130, 0x16a60, 0x16ac0, 0x16b50, 0x16d70, 0x1ccf0, 0x1d7ce,
   0x1d7d8, 0x1d7e2, 0x1d7ec, 0x1d7f6, 0x1e140, 0x1e2f0, 0x1e4f0, 0x1e5f1, 0x1e950, 0x1fbf0]

/-- Whether a character is a decimal digit of some script: it stands at most nine places after
one of the zeros. -/
def isDecimal (c : Char) : Bool :=
  zeros.any fun z ↦ z ≤ c.toNat && c.toNat < z + 10

/-- The value of an ASCII digit. -/
def digit? (c : Char) : Option Nat :=
  if c.isDigit then some (c.toNat - '0'.toNat) else none

/-- The value of digits in base ten, the most significant first. -/
def ofDigits (ds : List Nat) : Nat :=
  ds.foldl (fun n d ↦ 10 * n + d) 0

/-- The number that a text of ASCII digits writes in base ten; no digits write nothing. -/
def natural? (cs : List Char) : Option Nat :=
  if cs.isEmpty then none
  else (cs.mapM digit?).map ofDigits

/-- A whole number of seconds as an author types it: ASCII digits, with a plus sign in front or
without, and no more than 32 bits hold. -/
def seconds? (cs : List Char) : Option UInt32 := do
  let n ← natural? (match cs with | '+' :: rest => rest | _ => cs)
  if n < UInt32.size then some (UInt32.ofNat n) else none

/-- At least two decimal digits of a number. -/
def twoDigits (n : Nat) : List Char :=
  if n < 10 then '0' :: Nat.toDigits 10 n else Nat.toDigits 10 n

/-- There are 760 decimal digits. -/
example : 10 * zeros.length = 760 := rfl

end Storyline.Text
