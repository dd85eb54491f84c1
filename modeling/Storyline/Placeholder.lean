/-!
# Placeholders

A placeholder such as `[Name]` stands in a text for something filled in later: an opening bracket,
at least one character that is no bracket, and a closing bracket, in the pattern `\[[^\[\]]+\]`. A
text adapted to the other gender must keep their number.
-/

namespace Storyline.Placeholder

/-- What has been read since the last bracket. -/
inductive Scan where
  /-- No bracket is open. -/
  | outside
  /-- The last character was an opening bracket. -/
  | opened
  /-- A bracket is open and something follows it. -/
  | filled
  deriving DecidableEq, Repr

/-- The scan after one more character. -/
def Scan.step (scan : Scan) (c : Char) : Scan :=
  if c = '[' then .opened
  else if c = ']' then .outside
  else if scan = .outside then .outside
  else .filled

/-- The number of placeholders that end in the rest of a text, after what was scanned. -/
def countFrom : Scan → List Char → Nat
  | _, [] => 0
  | scan, c :: cs =>
    (if c = ']' ∧ scan = .filled then 1 else 0) + countFrom (scan.step c) cs

/-- The number of placeholders in a text: of the matches of `\[[^\[\]]+\]`. -/
def count (text : String) : Nat := countFrom .outside text.toList

/-- An adapted text has another number of placeholders. -/
structure CountMismatch where
  /-- The number in the text that was to be adapted. -/
  expected : Nat
  /-- The number in the adapted text. -/
  found : Nat
  deriving DecidableEq, Repr

/-- The message for a mismatch. -/
def CountMismatch.message (e : CountMismatch) : String :=
  s!"placeholder count changed: expected {e.expected}, found {e.found}"

/-- Refuses an adapted text that has more or fewer placeholders than the text had. -/
def check (text adapted : String) : Except CountMismatch Unit :=
  if count text = count adapted then .ok ()
  else .error ⟨count text, count adapted⟩

/-- A text passes exactly when the counts agree. -/
theorem check_eq_ok_iff {text adapted : String} :
    check text adapted = .ok () ↔ count text = count adapted := by
  unfold check
  split <;> simp_all

end Storyline.Placeholder
