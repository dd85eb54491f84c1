import Storyline.Block
import Storyline.Stamp
import Storyline.Text.Digit
import Storyline.Text.Letter
import Storyline.Text.Search

/-!
# Statements

A statement is what one line of a script says, before it is known who the lectors are. Each written
form has a recogniser that reads a trimmed line; `Statement.read` tries them in a fixed order.

The canonical forms are those of the saved script: `BackgroundSampleLine`, `PauseLine`,
`SampleLine` and `DynamicSampleLine`. The others are shorthand for authors: `Background: …`,
`Pause: 3`, `S1: …`, `Narrator (S1): …` and `Narrator: …`. Whatever has none of these forms is
narration.

Where a form is given by a pattern, the pattern stands beside its recogniser, with `\s` for a blank
and `\d` for a decimal digit of any script. What the recognisers read is what searches for these
patterns keep.
-/

namespace Storyline

/-- A line that carries a code. -/
structure CodedLine where
  /-- The code, without its suffix. -/
  code : List Char
  /-- Whether a suffix in square brackets follows the code. -/
  partnerSpecific : Bool
  /-- The name of the role that speaks, if one is written. -/
  role : Option (List Char) := none
  /-- The text of the line. -/
  content : List Char := []
  deriving DecidableEq, Repr

/-- What one line of a script says. -/
inductive Statement where
  /-- An episode starts. -/
  | episode (title : List Char)
  /-- A chapter starts. -/
  | chapter (title : List Char)
  /-- A background sound starts. -/
  | background (cue : Background)
  /-- Silence for a number of seconds. -/
  | pause (seconds : UInt32)
  /-- A line with a code. -/
  | coded (line : CodedLine)
  /-- A colon after what may be the name of a lector: `whole` is the line with both. -/
  | spoken (role content whole : List Char)
  /-- A line of plain text. -/
  | narration (content : List Char)
  deriving DecidableEq, Repr

namespace Statement

/-! ### Pieces of a line -/

/-- What follows the first colon of a text. -/
def afterColon (cs : List Char) : List Char :=
  (cs.dropWhile (· != ':')).drop 1

/-- A character that a code can contain: no blank, no comma and no opening bracket. -/
def isCodeChar (c : Char) : Bool :=
  !(Text.isBlank c || c == ',' || c == '[')

/-- Reads a code from the front of a text, and whether a suffix in brackets follows it:
`([^\s,\[]+)(\[[^\]]*\])?`. -/
def code? (cs : List Char) : Option (List Char × Bool) :=
  let code := cs.takeWhile isCodeChar
  let rest := cs.dropWhile isCodeChar
  if code = [] then none else some (code, rest.head? == some '[' && rest.contains ']')

/-- Reads `name`, blanks, an equals sign and blanks from the front of a text: `<name>\s*=\s*`. -/
def assignment? (name : List Char) (cs : List Char) : Option (List Char) := do
  let rest ← Text.dropPrefix? name cs
  let rest ← Text.dropPrefix? ['='] (Text.trimStart rest)
  return Text.trimStart rest

/-! ### Canonical forms -/

/-- Reads the stamp of a fade from its name on, one character or more up to a blank or a comma:
`<name>\s*=\s*([^,\s]+)`. -/
def fade? (name cs : List Char) : Option String := do
  let rest ← assignment? name cs
  let stamp := rest.takeWhile fun c ↦ !(Text.isBlank c || c == ',')
  if stamp = [] then none else some (String.ofList stamp)

/-- `BackgroundSampleLine: Code=<name>, FadeIn=<stamp>, FadeOut=<stamp>`, with the fields at any
place and all of them optional. The name is found by `Code\s*=\s*([^,]*)`. -/
def backgroundSample? (cs : List Char) : Option Background :=
  if Text.contains "BackgroundSampleLine".toList cs then
    let cue : Background := {}
    let name := Text.findAnywhere? (assignment? "Code".toList) cs
    some
      { name := String.ofList (Text.trim ((name.getD []).takeWhile (· != ',')))
        fadeIn := (Text.findAnywhere? (fade? "FadeIn".toList) cs).getD cue.fadeIn
        fadeOut := (Text.findAnywhere? (fade? "FadeOut".toList) cs).getD cue.fadeOut }
  else none

/-- `PauseLine: <stamp>`, with the stamp at any place. -/
def pauseLine? (cs : List Char) : Option UInt32 :=
  if Text.contains "PauseLine".toList cs then some ((Stamp.find? cs).getD defaultPause) else none

/-- `SampleLine: Code=<code>` or `DynamicSampleLine: Code=<code>` at the front of a text:
`(SampleLine|DynamicSampleLine):\s*Code\s*=\s*([^\s,\[]+)(\[[^\]]*\])?`. -/
def sampleHere? (cs : List Char) : Option (List Char × Bool) := do
  let rest ← (Text.dropPrefix? "SampleLine:".toList cs).or
    (Text.dropPrefix? "DynamicSampleLine:".toList cs)
  code? (← assignment? "Code".toList (Text.trimStart rest))

/-- A canonical line statement at the start of the line or after a blank, behind `(?:^|\s)`. -/
def sampleLine? (cs : List Char) : Option CodedLine :=
  ((sampleHere? cs).or (Text.findAfterBlank? sampleHere? cs)).map fun (code, partnerSpecific) ↦
    { code, partnerSpecific }

/-! ### Shorthand -/

/-- `Background: <name>: <stamp>`; what stands for the stamp is the fade-in as it is written. -/
def backgroundShorthand? (cs : List Char) : Option Background :=
  (Text.dropWord? "background".toList cs).map fun _ ↦
    let rest := afterColon cs
    let cue : Background := { name := String.ofList (Text.trim (rest.takeWhile (· != ':'))) }
    let stamp := Text.trim (afterColon rest)
    if stamp = [] then cue else { cue with fadeIn := String.ofList stamp }

/-- `Pause: <seconds>` or `Pauza: <seconds>`. -/
def pauseShorthand? (cs : List Char) : Option UInt32 :=
  ((Text.dropWord? "pause:".toList cs).or (Text.dropWord? "pauza:".toList cs)).map fun rest ↦
    (Text.seconds? (Text.trim rest)).getD defaultPause

/-- `S1: <text>` or `Z1: <text>`, in the pattern `^([SZ]\d+):\s*(.*)$`. -/
def compact? : List Char → Option CodedLine
  | letter :: rest => do
    let number := rest.takeWhile Text.isDecimal
    if (letter = 'S' ∨ letter = 'Z') ∧ number ≠ [] then
      let content ← Text.dropPrefix? [':'] (rest.dropWhile Text.isDecimal)
      some
        { code := letter :: number
          partnerSpecific := false
          content := Text.trim content }
    else none
  | [] => none

/-- A character that the name of a role can contain: no parenthesis and no colon. -/
def isRoleChar (c : Char) : Bool :=
  !(c == '(' || c == ')' || c == ':')

/-- A character that can stand between parentheses. -/
def isInnerChar (c : Char) : Bool :=
  !(c == '(' || c == ')')

/-- `<role> (<code>): <text>`; anything may follow the code inside the parentheses. The pattern is
`^([^():]+?)\s*\(([^\s,\[()]+)(\[[^\]()]*\])?[^()]*\):\s*(.*)$`. -/
def roleWithCode? (cs : List Char) : Option CodedLine := do
  let role := cs.takeWhile isRoleChar
  if role = [] then none
  let rest ← Text.dropPrefix? ['('] (cs.dropWhile isRoleChar)
  let content ← Text.dropPrefix? "):".toList (rest.dropWhile isInnerChar)
  let (code, partnerSpecific) ← code? (rest.takeWhile isInnerChar)
  return { code, partnerSpecific, role := some role, content := Text.trim content }

/-- `<role>: <text>`, in the pattern `^([^():]+?):\s*(.*)$`: the role and the text. -/
def roleWithoutCode? (cs : List Char) : Option (List Char × List Char) := do
  let role := cs.takeWhile isRoleChar
  if role = [] then none
  let content ← Text.dropPrefix? [':'] (cs.dropWhile isRoleChar)
  return (role, Text.trim content)

/-! ### Reading a line -/

/-- The written forms of statements, in the order in which they are tried. -/
def forms : List (List Char → Option Statement) :=
  [fun cs ↦ (Text.dropWord? "episode:".toList cs).map fun title ↦ episode (Text.trim title),
   fun cs ↦ (Text.dropWord? "chapter:".toList cs).map fun title ↦ chapter (Text.trim title),
   fun cs ↦ (backgroundSample? cs).map background,
   fun cs ↦ (backgroundShorthand? cs).map background,
   fun cs ↦ (pauseLine? cs).map pause,
   fun cs ↦ (pauseShorthand? cs).map pause,
   fun cs ↦ (sampleLine? cs).map coded,
   fun cs ↦ (compact? cs).map coded,
   fun cs ↦ (roleWithCode? cs).map coded,
   fun cs ↦ (roleWithoutCode? cs).map fun (role, content) ↦ spoken role content cs]

/-- What a trimmed line says: the first form that fits, or narration. -/
def read (cs : List Char) : Statement :=
  (forms.findSome? fun form ↦ form cs).getD (narration cs)

/-! ### Assigning lectors -/

/-- The identifier of the default lector. -/
def defaultLector (lectors : List Lector) : Option String :=
  (Lector.default? lectors).map (·.id)

/-- The line of a coded statement: the lector of its role, if there is one of that name, else the
default lector. -/
def CodedLine.toLine (lectors : List Lector) (line : CodedLine) : Line :=
  let named := line.role.bind (Lector.findNamed? lectors)
  { content := String.ofList line.content
    code := some (String.ofList line.code)
    lectorId := (named.or (Lector.default? lectors)).map (·.id)
    partnerSpecific := line.partnerSpecific }

/-- A line of plain text, read by the default lector. -/
def narrationLine (lectors : List Lector) (content : List Char) : Line :=
  { content := String.ofList content
    lectorId := defaultLector lectors }

/-- What a statement says in a story with these lectors. Text before a colon that is no lector's
name belongs to the narration. -/
def toKind (lectors : List Lector) : Statement → BlockKind
  | episode title => .episode (String.ofList title)
  | chapter title => .chapter (String.ofList title)
  | background cue => .background cue
  | pause seconds => .pause seconds
  | coded line => .line (CodedLine.toLine lectors line)
  | spoken role content whole =>
    match Lector.findNamed? lectors role with
    | some lector => .line { content := String.ofList content, lectorId := some lector.id }
    | none => .line (narrationLine lectors whole)
  | narration content => .line (narrationLine lectors content)

end Statement

end Storyline
