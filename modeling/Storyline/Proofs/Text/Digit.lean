import Storyline.Text.Blank
import Storyline.Text.Digit

/-!
# Decimal digits and written numbers

No decimal digit of any script is blank. A number is written with at least two digits, and its last
two are the tens and the units.
-/

namespace Storyline.Text

/-- The ASCII digits are decimal digits. -/
theorem isDecimal_of_isDigit {c : Char} (h : c.isDigit = true) : isDecimal c = true := by
  simp only [Char.isDigit, Bool.and_eq_true, decide_eq_true_eq] at h
  have hlow : 0x30 ≤ c.toNat := h.1
  have hhigh : c.toNat ≤ 0x39 := h.2
  refine List.any_eq_true.2 ⟨0x30, List.mem_cons_self, ?_⟩
  simp only [Bool.and_eq_true, decide_eq_true_eq]
  omega

/-- The decimal digits of every script lie between the blanks. -/
private theorem zeros_bounds : ∀ z ∈ zeros, z = 0x30 ∨ (0x660 ≤ z ∧ z + 10 ≤ 0x1680) ∨
    (0x1680 < z ∧ z + 10 ≤ 0x2000) ∨ 0x3000 < z := by
  decide

/-- No decimal digit is blank. -/
theorem isBlank_of_isDecimal {c : Char} (h : isDecimal c = true) : isBlank c = false := by
  obtain ⟨z, hz, hrange⟩ := List.any_eq_true.1 h
  have hbounds := zeros_bounds z hz
  simp only [Bool.and_eq_true, decide_eq_true_eq] at hrange
  rw [Bool.eq_false_iff]
  intro hblank
  simp only [isBlank, Bool.or_eq_true, Bool.and_eq_true, decide_eq_true_eq, beq_iff_eq] at hblank
  omega

/-- A digit that stands for a value has this value. -/
theorem digit?_digitChar {d : Nat} (h : d < 10) : digit? d.digitChar = some d := by
  have hdigit : d.digitChar.isDigit = true := by simp [h]
  rw [digit?, if_pos hdigit, Nat.toNat_digitChar_of_lt_ten h]
  change some (48 + d - 48) = some d
  rw [Nat.add_sub_cancel_left]

/-- The number that two digits write. -/
theorem natural?_pair {t u : Nat} (ht : t < 10) (hu : u < 10) :
    natural? [t.digitChar, u.digitChar] = some (10 * t + u) := by
  simp [natural?, digit?_digitChar ht, digit?_digitChar hu, ofDigits]

/-- A number below a hundred is written with two digits. -/
theorem twoDigits_of_lt {n : Nat} (h : n < 100) :
    twoDigits n = [(n / 10).digitChar, (n % 10).digitChar] := by
  rw [twoDigits]
  split
  · next hn =>
    rw [Nat.toDigits_of_lt_base hn, Nat.div_eq_of_lt hn, Nat.mod_eq_of_lt hn]
    rfl
  · next hn =>
    have htens : n / 10 < 10 := by omega
    rw [Nat.toDigits_of_base_le (by decide) (Nat.le_of_not_lt hn), Nat.toDigits_of_lt_base htens]
    rfl

/-- Two digits are enough exactly for the numbers below a hundred. -/
theorem length_twoDigits_eq_two_iff {n : Nat} : (twoDigits n).length = 2 ↔ n < 100 := by
  constructor
  · intro h
    refine Nat.lt_of_not_le fun hn ↦ ?_
    have hfront : 0 < (Nat.toDigits 10 (n / 10 / 10)).length :=
      List.length_pos_iff.2 Nat.toDigits_ne_nil
    rw [twoDigits, if_neg (by omega), Nat.toDigits_of_base_le (by decide) (show 10 ≤ n by omega),
      Nat.toDigits_of_base_le (by decide) (show 10 ≤ n / 10 by omega)] at h
    simp only [List.length_append, List.length_singleton] at h
    omega
  · intro h
    rw [twoDigits_of_lt h]
    rfl

/-- A number is written with further digits in front of those for its tens and its units. -/
theorem exists_twoDigits_eq (n : Nat) : ∃ front, (∀ c ∈ front, c.isDigit = true) ∧
    twoDigits n = front ++ [(n / 10 % 10).digitChar, (n % 10).digitChar] := by
  by_cases h : n < 100
  · refine ⟨[], by simp, ?_⟩
    rw [twoDigits_of_lt h, Nat.mod_eq_of_lt (show n / 10 < 10 by omega), List.nil_append]
  · refine ⟨Nat.toDigits 10 (n / 10 / 10), ?_, ?_⟩
    · intro c hc
      exact Nat.isDigit_of_mem_toDigits (by decide) (by decide) hc
    · rw [twoDigits, if_neg (by omega), Nat.toDigits_of_base_le (by decide) (show 10 ≤ n by omega),
        Nat.toDigits_of_base_le (by decide) (show 10 ≤ n / 10 by omega), List.append_assoc]
      rfl

/-- What is written item by item is read item by item. -/
theorem mapM_map_eq_some {α β : Type} {write : α → β} {read : β → Option α}
    (h : ∀ a, read (write a) = some a) (items : List α) :
    (items.map write).mapM read = some items := by
  induction items with
  | nil => rfl
  | cons item items ih =>
    rw [List.map_cons, List.mapM_cons, h, ih]
    rfl

/-- Digits stand for their values. -/
theorem mapM_digit? {cs : List Char} (h : ∀ c ∈ cs, c.isDigit = true) :
    cs.mapM digit? = some (cs.map fun c ↦ c.toNat - '0'.toNat) := by
  induction cs with
  | nil => rfl
  | cons c cs ih =>
    rw [List.forall_mem_cons] at h
    rw [List.mapM_cons, digit?, if_pos h.1, ih h.2]
    rfl

/-- A number is read back from its digits. -/
theorem natural?_toDigits (n : Nat) : natural? (Nat.toDigits 10 n) = some n := by
  have hdigits : ∀ c ∈ Nat.toDigits 10 n, c.isDigit = true :=
    fun c hc ↦ Nat.isDigit_of_mem_toDigits (by decide) (by decide) hc
  have hvalue : ofDigits ((Nat.toDigits 10 n).map fun c ↦ c.toNat - '0'.toNat) = n := by
    rw [ofDigits, List.foldl_map]
    exact Nat.ofDigitChars_ten_toDigits
  have hempty : (Nat.toDigits 10 n).isEmpty = false := by simp [Nat.toDigits_ne_nil]
  rw [natural?, hempty, mapM_digit? hdigits, if_neg (by decide), Option.map_some, hvalue]

/-- A number of seconds is read back from its digits. -/
theorem seconds?_toDigits (n : UInt32) : seconds? (Nat.toDigits 10 n.toNat) = some n := by
  have hplus : '+' ∉ Nat.toDigits 10 n.toNat := fun h ↦
    absurd (Nat.isDigit_of_mem_toDigits (by decide) (by decide) h) (by decide)
  have hsize : n.toNat < UInt32.size := n.toNat_lt
  rw [seconds?, natural?_toDigits]
  · simp [hsize]
  · intro rest hsign
    rw [hsign] at hplus
    exact hplus List.mem_cons_self

end Storyline.Text
