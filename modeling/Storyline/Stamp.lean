import Storyline.Text.Digit
import Storyline.Text.Search

/-!
# Time stamps

Lengths of time are written `hh:mm:ss`. A stamp is found anywhere in a text: one or two decimal
digits, then twice a colon and two digits. Any script's digits make a stamp, but only ASCII digits
have a value. The pattern of a stamp is `(\d{1,2}):(\d{2}):(\d{2})`.
-/

namespace Storyline.Stamp

/-- The three fields of a stamp, as they are written. -/
structure Fields where
  /-- One or two digits. -/
  hours : List Char
  /-- Two digits. -/
  minutes : List Char
  /-- Two digits. -/
  seconds : List Char
  deriving DecidableEq, Repr

/-- Reads a colon and two decimal digits from the front of a text. -/
def field? : List Char → Option (List Char × List Char)
  | ':' :: a :: b :: rest =>
    if Text.isDecimal a && Text.isDecimal b then some ([a, b], rest) else none
  | _ => none

/-- Reads a stamp from the front of a text: `(\d{1,2}):(\d{2}):(\d{2})`. -/
def fields? (cs : List Char) : Option Fields := do
  let hours := (cs.take 2).takeWhile Text.isDecimal
  if hours = [] then none
  let (minutes, rest) ← field? (cs.drop hours.length)
  let (seconds, _) ← field? rest
  return ⟨hours, minutes, seconds⟩

/-- The number of seconds that a stamp stands for. -/
def Fields.value? (f : Fields) : Option UInt32 := do
  let h ← Text.natural? f.hours
  let m ← Text.natural? f.minutes
  let s ← Text.natural? f.seconds
  return UInt32.ofNat (h * 3600 + m * 60 + s)

/-- The length of time of the first stamp in a text. -/
def find? (cs : List Char) : Option UInt32 :=
  (Text.findAnywhere? fields? cs).bind Fields.value?

/-- The stamp for a number of seconds. Hours beyond 99 take more than two digits. -/
def toChars (seconds : UInt32) : List Char :=
  let n := seconds.toNat
  Text.twoDigits (n / 3600) ++ ':' :: Text.twoDigits (n / 60 % 60) ++
    ':' :: Text.twoDigits (n % 60)

/-- The stamp for a number of seconds, as text. -/
def toText (seconds : UInt32) : String := String.ofList (toChars seconds)

end Storyline.Stamp
