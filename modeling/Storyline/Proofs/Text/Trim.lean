import Mathlib.Data.List.TakeWhile
import Storyline.Text.Blank

/-!
# Trimmed texts

A text is trimmed when no blank stands at either end of it. Trimming gives such a text, it changes
no other, and blanks put in front of a text or behind it are what it takes away.
-/

namespace Storyline.Text

-- What is asked of the characters of a text is decided on the text. Where an instance decides it
-- for all characters that there are, it has to come second.
instance (priority := high) decidableForallChar (p : Char → Prop) [DecidablePred p]
    (cs : List Char) : Decidable (∀ c ∈ cs, p c) :=
  List.decidableBAll p cs

instance (priority := high) decidableForallChar? (p : Char → Prop) [DecidablePred p]
    (o : Option Char) : Decidable (∀ c ∈ o, p c) :=
  Option.decidableForallMem o

instance (priority := high) decidableExistsChar (p : Char → Prop) [DecidablePred p]
    (cs : List Char) : Decidable (∃ c ∈ cs, p c) :=
  List.decidableBEx p cs

instance (priority := high) decidableExistsChar? (p : Char → Prop) [DecidablePred p]
    (o : Option Char) : Decidable (∃ c ∈ o, p c) :=
  Option.decidableExistsMem o

/-- The text starts with no blank. -/
def NoBlankFirst (cs : List Char) : Prop := ∀ c ∈ cs.head?, isBlank c = false

/-- The text ends with no blank. -/
def NoBlankLast (cs : List Char) : Prop := ∀ c ∈ cs.getLast?, isBlank c = false

instance (cs : List Char) : Decidable (NoBlankFirst cs) :=
  inferInstanceAs (Decidable (∀ c ∈ cs.head?, isBlank c = false))

instance (cs : List Char) : Decidable (NoBlankLast cs) :=
  inferInstanceAs (Decidable (∀ c ∈ cs.getLast?, isBlank c = false))

/-! ### Leading blanks -/

/-- Blanks in front of a text go when it is trimmed at its start. -/
theorem trimStart_append_of_blank {a : List Char} (h : ∀ c ∈ a, isBlank c = true) (b : List Char) :
    trimStart (a ++ b) = trimStart b :=
  List.dropWhile_append_of_pos h

/-- Leading blanks end at a character that is none. -/
theorem trimStart_append_cons {c : Char} (hc : isBlank c = false) (a b : List Char) :
    trimStart (a ++ c :: b) = trimStart a ++ c :: b := by
  rw [trimStart, trimStart, List.dropWhile_append]
  split
  · next h => rw [List.isEmpty_iff.1 h, List.dropWhile_cons_of_neg (by simp [hc]), List.nil_append]
  · rfl

/-- A text that starts with no blank has none to lose there. -/
theorem NoBlankFirst.trimStart_eq {cs : List Char} (h : NoBlankFirst cs) : trimStart cs = cs := by
  cases cs with
  | nil => rfl
  | cons c cs => exact trimStart_eq_self (h c rfl)

/-- What is left after leading blanks were removed starts with none. -/
theorem noBlankFirst_trimStart (cs : List Char) : NoBlankFirst (trimStart cs) := by
  intro c hc
  have := List.head?_dropWhile_not isBlank cs
  rw [← trimStart, hc] at this
  simpa using this

/-- What is written behind a text that is not empty does not change how it starts. -/
theorem NoBlankFirst.append {a : List Char} (h : NoBlankFirst a) (hne : a ≠ []) (b : List Char) :
    NoBlankFirst (a ++ b) := by
  cases a with
  | nil => exact absurd rfl hne
  | cons c a => exact h

/-- A text is cut behind its leading blanks in one way only. -/
theorem trimStart_eq_iff {cs rest : List Char} :
    trimStart cs = rest ↔
      ∃ blanks, (∀ c ∈ blanks, isBlank c = true) ∧ cs = blanks ++ rest ∧ NoBlankFirst rest := by
  constructor
  · rintro rfl
    exact ⟨cs.takeWhile isBlank, fun c hc ↦ List.mem_takeWhile_imp hc,
      List.takeWhile_append_dropWhile.symm, noBlankFirst_trimStart cs⟩
  · rintro ⟨blanks, hblanks, rfl, hrest⟩
    rw [trimStart_append_of_blank hblanks, hrest.trimStart_eq]

/-! ### Trailing blanks -/

/-- What is left after trailing blanks were removed stands at the start of the text. -/
theorem trimEnd_isPrefix (cs : List Char) : trimEnd cs <+: cs := by
  rw [trimEnd, ← List.reverse_suffix, List.reverse_reverse]
  exact List.dropWhile_suffix isBlank

/-- A text that ends with no blank has none to lose there. -/
theorem NoBlankLast.trimEnd_eq {cs : List Char} (h : NoBlankLast cs) : trimEnd cs = cs := by
  have : NoBlankFirst cs.reverse := by simpa [NoBlankFirst, NoBlankLast] using h
  rw [trimEnd, ← trimStart, this.trimStart_eq, List.reverse_reverse]

/-- What is left after trailing blanks were removed ends with none. -/
theorem noBlankLast_trimEnd (cs : List Char) : NoBlankLast (trimEnd cs) := by
  have := noBlankFirst_trimStart cs.reverse
  simpa [NoBlankFirst, NoBlankLast, trimEnd, trimStart] using this

/-- What is written in front of a text that is not empty does not change how it ends. -/
theorem NoBlankLast.append {b : List Char} (h : NoBlankLast b) (hne : b ≠ []) (a : List Char) :
    NoBlankLast (a ++ b) := by
  rw [NoBlankLast, List.getLast?_append, List.getLast?_eq_some_getLast hne, Option.some_or,
    ← List.getLast?_eq_some_getLast hne]
  exact h

/-- Whatever stands at the end of a text ends as the text does. -/
theorem NoBlankLast.of_suffix {part cs : List Char} (h : NoBlankLast cs) (hpart : part <:+ cs) :
    NoBlankLast part := by
  obtain ⟨front, rfl⟩ := hpart
  intro c hc
  apply h
  rw [List.getLast?_append, hc]
  rfl

/-- Trailing blanks of a text are those behind the last character that is none. -/
theorem NoBlankLast.trimEnd_append {a : List Char} (h : NoBlankLast a) (b : List Char) :
    trimEnd (a ++ b) = a ++ trimEnd b := by
  have ha : (a.reverse).dropWhile isBlank = a.reverse := by
    have := h.trimEnd_eq
    rwa [trimEnd, List.reverse_eq_iff] at this
  rw [trimEnd, trimEnd, List.reverse_append, List.dropWhile_append, ha]
  split
  · next hb => simp [List.isEmpty_iff.1 hb]
  · simp

/-- Blanks behind a text go when it is trimmed at its end. -/
theorem trimEnd_append_of_blank (a : List Char) {b : List Char} (h : ∀ c ∈ b, isBlank c = true) :
    trimEnd (a ++ b) = trimEnd a := by
  have hb : ∀ c ∈ b.reverse, isBlank c = true := fun c hc ↦ h c (List.mem_reverse.1 hc)
  rw [trimEnd, List.reverse_append, List.dropWhile_append_of_pos hb, trimEnd]

/-- Trailing blanks do not matter to how a text starts. -/
theorem NoBlankFirst.trimEnd {cs : List Char} (h : NoBlankFirst cs) :
    NoBlankFirst (Text.trimEnd cs) := by
  intro c hc
  obtain ⟨rest, hrest⟩ := trimEnd_isPrefix cs
  apply h
  rw [← hrest]
  cases ht : Text.trimEnd cs with
  | nil => simp [ht] at hc
  | cons d ds => simpa [ht] using hc

/-! ### Blanks at both ends -/

/-- A trimmed text starts with no blank. -/
theorem noBlankFirst_trim (cs : List Char) : NoBlankFirst (trim cs) :=
  (noBlankFirst_trimStart cs).trimEnd

/-- A trimmed text ends with no blank. -/
theorem noBlankLast_trim (cs : List Char) : NoBlankLast (trim cs) :=
  noBlankLast_trimEnd (trimStart cs)

/-- A text is what trimming leaves of it exactly when it has no blank at either end. -/
theorem trim_eq_self_iff {cs : List Char} :
    trim cs = cs ↔ NoBlankFirst cs ∧ NoBlankLast cs := by
  constructor
  · intro h
    rw [← h]
    exact ⟨noBlankFirst_trim cs, noBlankLast_trim cs⟩
  · rintro ⟨hfirst, hlast⟩
    rw [trim, hfirst.trimStart_eq, hlast.trimEnd_eq]

/-- Trimming twice is trimming once. -/
@[simp] theorem trim_trim (cs : List Char) : trim (trim cs) = trim cs :=
  trim_eq_self_iff.2 ⟨noBlankFirst_trim cs, noBlankLast_trim cs⟩

/-- Blanks in front of a text do not matter to what trimming leaves of it. -/
theorem trim_append_of_blank {a : List Char} (h : ∀ c ∈ a, isBlank c = true) (b : List Char) :
    trim (a ++ b) = trim b := by
  rw [trim, trim, trimStart_append_of_blank h]

/-- A space in front of a text does not matter to what trimming leaves of it. -/
theorem trim_space (cs : List Char) : trim (' ' :: cs) = trim cs :=
  trim_append_of_blank (a := [' ']) (by decide) cs

/-- A text without blanks at its ends stays in front of whatever is written behind it. -/
theorem trim_append {a : List Char} (hne : a ≠ []) (hfirst : NoBlankFirst a) (hlast : NoBlankLast a)
    (b : List Char) : trim (a ++ b) = a ++ trimEnd b := by
  rw [trim, (hfirst.append hne b).trimStart_eq, hlast.trimEnd_append]

/-- A text is trimmed if it starts and ends with texts that have no blank there. -/
theorem trim_append_eq_self {a b : List Char} (ha : a ≠ []) (hfirst : NoBlankFirst a) (hb : b ≠ [])
    (hlast : NoBlankLast b) : trim (a ++ b) = a ++ b :=
  trim_eq_self_iff.2 ⟨hfirst.append ha b, hlast.append hb a⟩

/-- Blanks behind a text do not matter to what trimming leaves of it. -/
theorem trim_append_blanks (a : List Char) {b : List Char} (h : ∀ c ∈ b, isBlank c = true) :
    trim (a ++ b) = trim a := by
  rw [trim, trim, trimStart, trimStart, List.dropWhile_append]
  split
  · next ha =>
    have hb : b.dropWhile isBlank = [] := by
      rw [← List.append_nil b, List.dropWhile_append_of_pos h, List.dropWhile_nil]
    rw [hb, List.isEmpty_iff.1 ha]
  · exact trimEnd_append_of_blank _ h

/-- Blanks at the start do not matter to what is left after trimming. -/
theorem trim_trimStart (cs : List Char) : trim (trimStart cs) = trim cs := by
  rw [trim, (noBlankFirst_trimStart cs).trimStart_eq, trim]

/-- Trailing blanks do not matter to what trimming leaves of a text. -/
theorem trim_trimEnd (cs : List Char) : trim (trimEnd cs) = trim cs := by
  have hsplit : cs = trimEnd cs ++ (cs.reverse.takeWhile isBlank).reverse := by
    rw [trimEnd, ← List.reverse_append, List.takeWhile_append_dropWhile, List.reverse_reverse]
  have hblank : ∀ c ∈ (cs.reverse.takeWhile isBlank).reverse, isBlank c = true := by
    intro c hc
    exact List.all_eq_true.1 List.all_takeWhile c (List.mem_reverse.1 hc)
  calc trim (trimEnd cs)
      = trim (trimEnd cs ++ (cs.reverse.takeWhile isBlank).reverse) :=
        (trim_append_blanks _ hblank).symm
    _ = trim cs := by rw [← hsplit]

/-- Trimming takes a part out of a text as it stands there. -/
theorem trim_isInfix (cs : List Char) : trim cs <:+: cs :=
  (trimEnd_isPrefix (trimStart cs)).isInfix.trans (List.dropWhile_suffix isBlank).isInfix

/-- Trimming brings no character into a text. -/
theorem mem_of_mem_trim {c : Char} {cs : List Char} (h : c ∈ trim cs) : c ∈ cs :=
  (trim_isInfix cs).subset h

/-- Trimming takes nothing but blanks away. -/
theorem mem_trim {c : Char} {cs : List Char} (hc : isBlank c = false) (h : c ∈ cs) :
    c ∈ trim cs := by
  have hdrop : ∀ l : List Char, c ∈ l → c ∈ l.dropWhile isBlank := by
    intro l hl
    rw [← List.takeWhile_append_dropWhile (p := isBlank) (l := l), List.mem_append] at hl
    refine hl.resolve_left fun htake ↦ ?_
    have hblank := List.all_eq_true.1 List.all_takeWhile c htake
    simp [hc] at hblank
  rw [trim, trimEnd, List.mem_reverse]
  exact hdrop _ (List.mem_reverse.2 (hdrop cs h))

/-! ### Texts on one line -/

/-- The text has no blank at either end and stays on one line. -/
structure Clean (cs : List Char) : Prop where
  /-- Trimming takes nothing away. -/
  trimmed : trim cs = cs
  /-- No line feed stands in the text. -/
  unbroken : '\n' ∉ cs

/-- A clean text starts with no blank. -/
theorem Clean.noBlankFirst {cs : List Char} (h : Clean cs) : NoBlankFirst cs :=
  (trim_eq_self_iff.1 h.trimmed).1

/-- A clean text ends with no blank. -/
theorem Clean.noBlankLast {cs : List Char} (h : Clean cs) : NoBlankLast cs :=
  (trim_eq_self_iff.1 h.trimmed).2

instance (cs : List Char) : Decidable (Clean cs) :=
  decidable_of_iff (trim cs = cs ∧ '\n' ∉ cs) ⟨fun h ↦ ⟨h.1, h.2⟩, fun h ↦ ⟨h.1, h.2⟩⟩

/-- A clean text is what trimming leaves of it behind a space. -/
theorem Clean.trim_trimEnd_space {cs : List Char} (h : Clean cs) :
    trim (trimEnd (' ' :: cs)) = cs := by
  rw [trim_trimEnd, trim_space, h.trimmed]

/-- What trimming leaves of a part of a line is clean. -/
theorem clean_trim {part cs : List Char} (h : part ⊆ cs) (hcs : '\n' ∉ cs) : Clean (trim part) where
  trimmed := trim_trim part
  unbroken := fun hmem ↦ hcs (h (mem_of_mem_trim hmem))

/-- A text without blanks ends with none. -/
theorem noBlankLast_of_forall {cs : List Char} (h : ∀ c ∈ cs, isBlank c = false) : NoBlankLast cs :=
  fun c hc ↦ h c (List.mem_of_getLast? hc)

/-- A text without blanks is clean. -/
theorem clean_of_forall {cs : List Char} (h : ∀ c ∈ cs, isBlank c = false) : Clean cs where
  trimmed := trim_eq_self_iff.2
    ⟨fun c hc ↦ h c (List.mem_of_head? hc), noBlankLast_of_forall h⟩
  unbroken := fun hmem ↦ absurd (h _ hmem) (by decide)

end Storyline.Text
