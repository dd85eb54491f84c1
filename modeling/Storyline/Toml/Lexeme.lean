import Storyline.Text.Search

/-!
# Words of TOML

Readers for the parts of a TOML statement that contain no other value: blanks and comments,
strings, numbers, dates and keys. Each reads from the front of a text and gives what it read and
the rest. A word that is cut short by something that cannot follow it is refused by whoever reads
on.
-/

namespace Storyline.Toml

/-! ### Blanks and comments -/

/-- A blank within a line: a space or a tab. -/
def isBlank (c : Char) : Bool := c == ' ' || c == '\t'

/-- A character that comments and strings can contain: a tab, or anything but the control
characters below U+0020 and the delete character. -/
def isTextChar (c : Char) : Bool :=
  c == '\t' || (0x20 ≤ c.toNat && c.toNat != 0x7f)

/-- The text after the blanks at its front. -/
def skipBlanks (cs : List Char) : List Char := cs.dropWhile isBlank

/-- The text after the end of a line. -/
def newline? : List Char → Option (List Char)
  | '\n' :: rest => some rest
  | '\r' :: '\n' :: rest => some rest
  | _ => none

/-- The text after a comment, if there is one. -/
def skipComment : List Char → List Char
  | '#' :: rest => rest.dropWhile isTextChar
  | cs => cs

/-- The text after the rest of a line on which only a comment may stand. -/
def endOfLine? (cs : List Char) : Option (List Char) :=
  match skipComment (skipBlanks cs) with
  | [] => some []
  | rest => newline? rest

/-- The text after blanks, ends of lines and comments, as they may stand in an array. -/
def skipFiller? (inComment : Bool) : List Char → Option (List Char)
  | [] => if inComment then none else some []
  | '\r' :: '\n' :: rest => skipFiller? false rest
  | c :: rest =>
    if c = '\n' then skipFiller? false rest
    else if inComment then if isTextChar c then skipFiller? true rest else none
    else if isBlank c then skipFiller? false rest
    else if c = '#' then skipFiller? true rest
    else some (c :: rest)

/-! ### Strings -/

/-- The value of a hexadecimal digit of either case. -/
def hexDigit? (c : Char) : Option Nat :=
  let n := c.toLower.toNat
  if c.isDigit then some (n - '0'.toNat)
  else if 'a'.toNat ≤ n ∧ n ≤ 'f'.toNat then some (n - 'a'.toNat + 10)
  else none

/-- The character whose number is spelled in hexadecimal. -/
def charOfHex? (cs : List Char) : Option Char := do
  let digits ← cs.mapM hexDigit?
  let n := digits.foldl (fun n d ↦ 16 * n + d) 0
  if n.isValidChar then some (Char.ofNat n) else none

/-- The character that a one-letter escape stands for. -/
def escape? : Char → Option Char
  | '"' => some '"'
  | '\\' => some '\\'
  | 'b' => some '\x08'
  | 'f' => some '\x0c'
  | 'n' => some '\n'
  | 'r' => some '\r'
  | 't' => some '\t'
  | _ => none

/-- Puts a character in front of what was read. -/
def prepend (c : Char) (read : Option (List Char × List Char)) : Option (List Char × List Char) :=
  read.map fun (cs, rest) ↦ (c :: cs, rest)

/-- Reads the rest of a string on one line, after its opening quote. -/
def readBasic : List Char → Option (List Char × List Char)
  | [] => none
  | '"' :: rest => some ([], rest)
  | '\\' :: 'u' :: a :: b :: c :: d :: rest =>
    (charOfHex? [a, b, c, d]).bind fun x ↦ prepend x (readBasic rest)
  | '\\' :: 'U' :: a :: b :: c :: d :: e :: f :: g :: h :: rest =>
    (charOfHex? [a, b, c, d, e, f, g, h]).bind fun x ↦ prepend x (readBasic rest)
  | '\\' :: e :: rest => (escape? e).bind fun x ↦ prepend x (readBasic rest)
  | c :: rest => if isTextChar c ∧ c ≠ '\\' then prepend c (readBasic rest) else none

/-- Reads the rest of a string on several lines, after its opening quotes. One or two quotes may
stand before the closing ones. A backslash at the end of a line removes all blanks and line ends
up to the next character; `skipping` is on after it. -/
def readMultiline (skipping : Bool) : List Char → Option (List Char × List Char)
  | [] => none
  | '"' :: '"' :: '"' :: '"' :: '"' :: rest => some (['"', '"'], rest)
  | '"' :: '"' :: '"' :: '"' :: rest => some (['"'], rest)
  | '"' :: '"' :: '"' :: rest => some ([], rest)
  | '\r' :: '\n' :: rest =>
    if skipping then readMultiline true rest else prepend '\n' (readMultiline false rest)
  | '\\' :: 'u' :: a :: b :: c :: d :: rest =>
    (charOfHex? [a, b, c, d]).bind fun x ↦ prepend x (readMultiline false rest)
  | '\\' :: 'U' :: a :: b :: c :: d :: e :: f :: g :: h :: rest =>
    (charOfHex? [a, b, c, d, e, f, g, h]).bind fun x ↦ prepend x (readMultiline false rest)
  | '\\' :: e :: rest =>
    if (newline? (skipBlanks (e :: rest))).isSome then
      readMultiline true (e :: rest)
    else (escape? e).bind fun x ↦ prepend x (readMultiline false rest)
  | c :: rest =>
    if c = '\n' then
      if skipping then readMultiline true rest else prepend '\n' (readMultiline false rest)
    else if skipping ∧ isBlank c then readMultiline true rest
    else if isTextChar c ∧ c ≠ '\\' then prepend c (readMultiline false rest)
    else none

/-- Reads the rest of a literal string on one line, after its opening quote. -/
def readLiteral (cs : List Char) : Option (List Char × List Char) :=
  let isInside (c : Char) : Bool := isTextChar c && c != '\''
  match cs.dropWhile isInside with
  | '\'' :: rest => some (cs.takeWhile isInside, rest)
  | _ => none

/-- Reads the rest of a literal string on several lines, after its opening quotes. -/
def readMultilineLiteral : List Char → Option (List Char × List Char)
  | [] => none
  | '\'' :: '\'' :: '\'' :: '\'' :: '\'' :: rest => some (['\'', '\''], rest)
  | '\'' :: '\'' :: '\'' :: '\'' :: rest => some (['\''], rest)
  | '\'' :: '\'' :: '\'' :: rest => some ([], rest)
  | '\r' :: '\n' :: rest => prepend '\n' (readMultilineLiteral rest)
  | c :: rest =>
    if c = '\n' ∨ isTextChar c then prepend c (readMultilineLiteral rest) else none

/-- The text without the end of a line at its front. -/
def dropNewline (cs : List Char) : List Char := (newline? cs).getD cs

/-- Reads a string of any of the four forms. -/
def readString : List Char → Option (List Char × List Char)
  | '"' :: '"' :: '"' :: rest => readMultiline false (dropNewline rest)
  | '"' :: rest => readBasic rest
  | '\'' :: '\'' :: '\'' :: rest => readMultilineLiteral (dropNewline rest)
  | '\'' :: rest => readLiteral rest
  | _ => none

/-! ### Numbers -/

/-- Reads digits, with single underscores between them: the digits alone. -/
def readDigits (isDigit : Char → Bool) : List Char → Option (List Char × List Char)
  | [] => none
  | [c] => if isDigit c then some ([c], []) else none
  | c :: '_' :: rest => if isDigit c then prepend c (readDigits isDigit rest) else none
  | c :: d :: rest =>
    if isDigit c then
      if isDigit d then prepend c (readDigits isDigit (d :: rest)) else some ([c], d :: rest)
    else none

/-- Reads a sign, if there is one: whether it is a minus sign. -/
def readSign : List Char → Bool × List Char
  | '-' :: rest => (true, rest)
  | '+' :: rest => (false, rest)
  | cs => (false, cs)

/-- Reads a decimal whole number without its sign; a zero stands alone. -/
def readWhole : List Char → Option (List Char × List Char)
  | '0' :: rest => some (['0'], rest)
  | cs => readDigits Char.isDigit cs

/-- The value of digits in some base. -/
def valueOf (base : Nat) (digits : List Char) : Nat :=
  digits.foldl (fun n c ↦ base * n + (hexDigit? c).getD 0) 0

/-- A whole number, if 64 bits hold it. -/
def integer? (n : Int) : Option Int :=
  if Int64.minValue.toInt ≤ n ∧ n ≤ Int64.maxValue.toInt then some n else none

/-- Reads the digits of a number in a base that is announced by a letter. -/
def readBased (base : Nat) (cs : List Char) : Option (Int × List Char) := do
  let isDigit (c : Char) : Bool := (hexDigit? c).any fun d ↦ d < base
  let (digits, rest) ← readDigits isDigit cs
  return (← integer? (valueOf base digits), rest)

/-- Reads a whole number. -/
def readInteger : List Char → Option (Int × List Char)
  | '0' :: 'x' :: rest => readBased 16 rest
  | '0' :: 'o' :: rest => readBased 8 rest
  | '0' :: 'b' :: rest => readBased 2 rest
  | cs => do
    let (negative, rest) := readSign cs
    let (digits, rest) ← readWhole rest
    let n : Int := valueOf 10 digits
    return (← integer? (if negative then -n else n), rest)

/-- Reads the exponent of a number. -/
def readExponent : List Char → Option (Int × List Char)
  | e :: rest => do
    if e ≠ 'e' ∧ e ≠ 'E' then none
    let (negative, rest) := readSign rest
    let (digits, rest) ← readDigits Char.isDigit rest
    let n : Int := valueOf 10 digits
    return (if negative then -n else n, rest)
  | [] => none

/-- The double nearest to digits times a power of ten. Far beyond the range of doubles the answer
does not need the power. -/
def nearestFloat (digits : List Char) (exponent : Int) : Float :=
  let n := valueOf 10 digits
  let magnitude : Int := (Nat.toDigits 10 n).length + exponent
  if n = 0 ∨ magnitude < -400 then 0
  else if 400 < magnitude then 1 / 0
  else
    match exponent with
    | .ofNat k => Float.ofScientific n false k
    | .negSucc k => Float.ofScientific n true (k + 1)

/-- Reads a number with a point or an exponent. One above the greatest double is refused; one below
the least double is negative infinity. -/
def readDecimal (cs : List Char) : Option (Float × List Char) := do
  let (negative, rest) := readSign cs
  let (whole, rest) ← readWhole rest
  let (fraction, rest) ←
    match rest with
    | '.' :: rest => readDigits Char.isDigit rest
    | _ => if (readExponent rest).isSome then some ([], rest) else none
  let (exponent, rest) := (readExponent rest).getD (0, rest)
  let x := nearestFloat (whole ++ fraction) (exponent - fraction.length)
  let x := if negative then -x else x
  if x == 1 / 0 then none else some (x, rest)

/-- Reads an infinity or a value that is no number. -/
def readSpecial (cs : List Char) : Option (Float × List Char) :=
  let (negative, rest) := readSign cs
  let signed (x : Float) : Float := if negative then -x else x
  match rest with
  | 'i' :: 'n' :: 'f' :: rest => some (signed (1 / 0), rest)
  | 'n' :: 'a' :: 'n' :: rest => some (signed (0 / 0), rest)
  | _ => none

/-- Reads a floating-point number. -/
def readFloat (cs : List Char) : Option (Float × List Char) :=
  (readDecimal cs).or (readSpecial cs)

/-! ### Dates and times -/

/-- Reads a number of exactly `count` digits that lies in a range. -/
def readField (count low high : Nat) (cs : List Char) : Option (Nat × List Char) :=
  let digits := cs.take count
  let n := valueOf 10 digits
  if digits.length = count ∧ digits.all Char.isDigit ∧ low ≤ n ∧ n ≤ high then
    some (n, cs.drop count)
  else none

/-- The number of days in a month. -/
def daysIn (year month : Nat) : Nat :=
  if month = 2 then if year % 4 = 0 ∧ (year % 100 ≠ 0 ∨ year % 400 = 0) then 29 else 28
  else if month ∈ [4, 6, 9, 11] then 30
  else 31

/-- The text after a date. -/
def date? (cs : List Char) : Option (List Char) := do
  let (year, rest) ← readField 4 0 9999 cs
  let (month, rest) ← readField 2 1 12 (← Text.dropPrefix? ['-'] rest)
  let (_, rest) ← readField 2 1 (daysIn year month) (← Text.dropPrefix? ['-'] rest)
  return rest

/-- The text after a time of day. -/
def time? (cs : List Char) : Option (List Char) := do
  let (_, rest) ← readField 2 0 23 cs
  let (_, rest) ← readField 2 0 59 (← Text.dropPrefix? [':'] rest)
  let (_, rest) ← readField 2 0 60 (← Text.dropPrefix? [':'] rest)
  match rest with
  | '.' :: d :: rest => return if d.isDigit then rest.dropWhile Char.isDigit else '.' :: d :: rest
  | _ => return rest

/-- The text after a distance from universal time. -/
def offset? : List Char → Option (List Char)
  | c :: rest =>
    if c = 'Z' ∨ c = 'z' then some rest
    else if c = '+' ∨ c = '-' then do
      let (_, rest) ← readField 2 0 23 rest
      let (_, rest) ← readField 2 0 59 (← Text.dropPrefix? [':'] rest)
      return rest
    else none
  | [] => none

/-- The text after a time that follows a date. -/
def timeAfterDate? : List Char → Option (List Char)
  | c :: rest =>
    if c = 'T' ∨ c = 't' ∨ c = ' ' then (time? rest).map fun rest ↦ (offset? rest).getD rest
    else none
  | [] => none

/-- The text after a date, a time, or both. -/
def moment? (cs : List Char) : Option (List Char) :=
  match date? cs with
  | some rest => some ((timeAfterDate? rest).getD rest)
  | none => time? cs

/-! ### Keys -/

/-- A character of a key without quotes. -/
def isBareChar (c : Char) : Bool := c.isAlphanum || c == '-' || c == '_'

/-- Reads one part of a key. -/
def readKeyPart (cs : List Char) : Option (String × List Char) :=
  match cs with
  | '"' :: rest => (readBasic rest).map fun (part, rest) ↦ (String.ofList part, rest)
  | '\'' :: rest => (readLiteral rest).map fun (part, rest) ↦ (String.ofList part, rest)
  | _ =>
    let part := cs.takeWhile isBareChar
    if part = [] then none else some (String.ofList part, cs.dropWhile isBareChar)

/-- Reads the parts of a key, at most `bound` of them, and the blanks around them. -/
def readParts : Nat → List Char → Option (List String × List Char)
  | 0, _ => none
  | bound + 1, cs => do
    let (part, rest) ← readKeyPart (skipBlanks cs)
    match skipBlanks rest with
    | '.' :: rest =>
      let (parts, rest) ← readParts bound rest
      return (part :: parts, rest)
    | rest => return ([part], rest)

/-- The greatest number of parts of a key, and of arrays and inline tables inside each other. -/
def maxNesting : Nat := 79

/-- Reads a key: the path to its table, and its last part. -/
def readKey (cs : List Char) : Option (List String × String × List Char) := do
  let (parts, rest) ← readParts maxNesting cs
  return (parts.dropLast, ← parts.getLast?, rest)

end Storyline.Toml
