/-!
# Control characters

A text may carry control characters, and sequences of characters that steer a terminal instead of
being shown. What is left without them is the visible text. White space is visible. Within a
sequence it interrupts the sequence, which goes on after the next character that is not shown.
-/

namespace Storyline.Text

/-- What the next character of a text belongs to. -/
inductive ControlState where
  /-- Text that is shown. -/
  | shown
  /-- A sequence that has just begun with the escape character. -/
  | escape
  /-- A short sequence, which ends with a digit, a letter or a late punctuation mark. -/
  | short
  /-- A sequence with parameters, which ends with a letter or a late punctuation mark. -/
  | control
  /-- A command to the system, which ends with a bell. -/
  | command
  /-- The start of a string for a device. -/
  | deviceStart
  /-- The parameters of a string for a device. -/
  | deviceParameters
  /-- The marks after such parameters. -/
  | deviceMarks
  /-- A string for a device, which ends with a terminator. -/
  | device
  deriving DecidableEq, Repr

namespace ControlState

/-- The state after the character that follows an escape character. -/
def afterEscape (c : Char) : ControlState :=
  if c = '[' then control
  else if c = ']' then command
  else if c = 'P' then deviceStart
  else if c = 'X' ∨ c = '^' ∨ c = '_' then device
  else if ' ' ≤ c ∧ c < '0' then short
  else if '0' ≤ c ∧ c ≤ '~' then shown
  else escape

/-- The state after a character before the contents of a string for a device: parameters are digits
and some punctuation marks, and what cannot stand where it does makes the string void. -/
def inDeviceHead (state : ControlState) (c : Char) : ControlState :=
  if ' ' ≤ c ∧ c < '0' then deviceMarks
  else if '0' ≤ c ∧ c < '@' then
    if state = deviceStart ∨ state = deviceParameters ∧ c < '<' then deviceParameters else device
  else if '@' ≤ c ∧ c ≤ '~' then device
  else state

/-- Whether a character terminates a string for a device: one of its bytes does. -/
def isTerminator (c : Char) : Bool := (String.utf8EncodeChar c).contains 0x9c

/-- The state after a character that is not shown. -/
def next (state : ControlState) (c : Char) : ControlState :=
  if c = '\x1b' then escape
  -- cancel and substitute end every sequence
  else if c = '\x18' ∨ c = '\x1a' then shown
  else
    match state with
    | shown => shown
    | escape => afterEscape c
    | short => if '0' ≤ c ∧ c ≤ '~' then shown else short
    | control => if '@' ≤ c ∧ c ≤ '~' then shown else control
    | command => if c = '\x07' then shown else command
    | deviceStart | deviceParameters | deviceMarks => state.inDeviceHead c
    | device => if isTerminator c then shown else device

end ControlState

/-- Whether a control character is white space. -/
def isControlBlank (c : Char) : Bool :=
  c = '\t' || c = '\n' || c = '\x0c' || c = '\r'

/-- Whether a character is shown. -/
def isVisible (state : ControlState) (c : Char) : Bool :=
  match state with
  | .shown => isControlBlank c || (' ' ≤ c && c ≠ '\x7f')
  | .escape | .short | .control => isControlBlank c
  | _ => false

/-- The visible part of a text from some state on. A character directly after one that is shown is
judged as text; one beyond ASCII gives up a sequence that was interrupted. -/
def visibleFrom (state : ControlState) (afterShown : Bool) : List Char → List Char
  | [] => []
  | c :: cs =>
    if isVisible (if afterShown then .shown else state) c then
      c :: visibleFrom (if c ≤ '\x7f' then state else .shown) true cs
    else visibleFrom (state.next c) false cs

/-- The visible part of a text. -/
def visible (cs : List Char) : List Char := visibleFrom .shown false cs

/-- What is visible stands in the text in the same order. -/
theorem visibleFrom_sublist (state : ControlState) (afterShown : Bool) (cs : List Char) :
    (visibleFrom state afterShown cs).Sublist cs := by
  fun_induction visibleFrom state afterShown cs with
  | case1 => exact List.Sublist.slnil
  | case2 state afterShown c cs _ ih => exact ih.cons_cons c
  | case3 state afterShown c cs _ ih => exact ih.cons c

/-- From text that is shown, a text without control characters is visible as a whole. -/
theorem visibleFrom_shown {cs : List Char} (afterShown : Bool)
    (h : ∀ c ∈ cs, ' ' ≤ c ∧ c ≠ '\x7f') : visibleFrom .shown afterShown cs = cs := by
  induction cs generalizing afterShown with
  | nil => rfl
  | cons c cs ih =>
    have hc := h c List.mem_cons_self
    have hcs := ih true fun d hd ↦ h d (List.mem_cons_of_mem c hd)
    simp [visibleFrom, isVisible, hc.1, hc.2, hcs]

/-- A text without control characters is visible as a whole. -/
theorem visible_eq_self {cs : List Char} (h : ∀ c ∈ cs, ' ' ≤ c ∧ c ≠ '\x7f') :
    visible cs = cs :=
  visibleFrom_shown false h

end Storyline.Text
