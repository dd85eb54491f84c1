import Storyline.Stamp
import Storyline.Proofs.Text.Digit
import Storyline.Proofs.Text.Occurrence
import Storyline.Proofs.Text.Pattern
import Storyline.Proofs.Text.Trim

/-!
# Reading a written stamp

A written stamp is found again wherever no decimal digit stands in front of it. Hours take two
digits when they are read, so of a longer number of hours the last two digits count and the length
of time wraps at a hundred hours. What is read is what a search for the pattern of a stamp keeps.
-/

namespace Storyline.Stamp

/-! ### Where a stamp can be read -/

/-- A stamp starts with a decimal digit. -/
theorem fields?_eq_none {c : Char} {cs : List Char} (h : Text.isDecimal c = false) :
    fields? (c :: cs) = none := by
  simp [fields?, h]

/-- No stamp starts before three decimal digits. -/
theorem fields?_of_decimals {a b c : Char} {cs : List Char} (ha : Text.isDecimal a = true)
    (hb : Text.isDecimal b = true) (hc : Text.isDecimal c = true) :
    fields? (a :: b :: c :: cs) = none := by
  have hcolon : c ≠ ':' := by
    rintro rfl
    exact absurd hc (by decide)
  simp [fields?, ha, hb, field?, hcolon]

/-- Two decimal digits, and twice a colon and two more, are a stamp. -/
theorem fields?_of_pairs {a b c d e f : Char} {post : List Char}
    (h : ∀ x ∈ [a, b, c, d, e, f], Text.isDecimal x = true) :
    fields? (a :: b :: ':' :: c :: d :: ':' :: e :: f :: post) = some ⟨[a, b], [c, d], [e, f]⟩ := by
  simp only [List.mem_cons, List.not_mem_nil, or_false, forall_eq_or_imp, forall_eq] at h
  obtain ⟨ha, hb, hc, hd, he, hf⟩ := h
  simp [fields?, field?, ha, hb, hc, hd, he, hf]

/-! ### The pattern of a stamp -/

section

open Text (Way Pattern)
open Text.Pattern

variable {n : Nat} {cs : List Char}

/-- The pattern `\d{2}`. -/
def pairPattern : Pattern := all [one Text.isDecimal, one Text.isDecimal]

/-- The pattern `(\d{1,2}):(\d{2}):(\d{2})`. -/
def stampPattern : Pattern :=
  all [group "hours" (alt pairPattern (one Text.isDecimal)), word [':'],
    group "minutes" pairPattern, word [':'], group "seconds" pairPattern]

/-- Two digits are kept as they are written. -/
private theorem here?_pair_seq (name : String) (b : Pattern) (x y : Char) (rest : List Char) :
    (seq (group name pairPattern) b).here? n (x :: y :: rest) =
      if Text.isDecimal x && Text.isDecimal y then (b.here? n rest).map (·.keep name [x, y])
      else none := by
  have hpair : x :: y :: rest = [x, y] ++ rest := rfl
  have htake : (x :: y :: rest).take (rest.length + 1 + 1 - rest.length) = [x, y] :=
    take_length_sub hpair
  cases hx : Text.isDecimal x <;> cases hy : Text.isDecimal y <;>
    simp [pairPattern, all, here?, ways, hx, hy, htake]

/-- A digit is kept as it is written. -/
private theorem here?_digit_seq (name : String) (b : Pattern) (x : Char) (rest : List Char) :
    (seq (group name (one Text.isDecimal)) b).here? n (x :: rest) =
      if Text.isDecimal x then (b.here? n rest).map (·.keep name [x]) else none := by
  cases hx : Text.isDecimal x <;> simp [here?, ways, hx]

/-- A colon and two digits behind it are what a search for them keeps. -/
private theorem here?_field_seq (name : String) (b : Pattern) :
    (seq (word [':']) (seq (group name pairPattern) b)).here? n cs =
      (field? cs).bind fun (text, rest) ↦ (b.here? n rest).map (·.keep name text) := by
  rw [here?_word_seq]
  match cs with
  | [] => rfl
  | [c] =>
    by_cases hc : ':' = c
    · subst hc
      rfl
    · simp [Text.dropPrefix?, hc, field?]
  | [c, x] =>
    by_cases hc : ':' = c
    · subst hc
      cases hx : Text.isDecimal x <;>
        simp [Text.dropPrefix?, field?, pairPattern, all, here?, ways, hx]
    · simp [Text.dropPrefix?, hc, field?]
  | c :: x :: y :: rest =>
    by_cases hc : ':' = c
    · subst hc
      rw [field?, Text.dropPrefix?, if_pos rfl, Text.dropPrefix?, Option.bind_some, here?_pair_seq]
      split <;> rfl
    · simp [Text.dropPrefix?, hc, field?, Ne.symm hc]

/-- The fields that a way keeps. -/
def Fields.ofWay (way : Way) : Fields := ⟨way.get "hours", way.get "minutes", way.get "seconds"⟩

/-- What is read behind the hours. -/
private theorem here?_behind_hours (hours : List Char) :
    (((all [word [':'], group "minutes" pairPattern, word [':'], group "seconds" pairPattern]).here?
        n cs).map (·.keep "hours" hours)).map Fields.ofWay =
      (field? cs).bind fun (minutes, rest) ↦
        (field? rest).bind fun (seconds, _) ↦ some ⟨hours, minutes, seconds⟩ := by
  rw [all_cons, all_cons, here?_field_seq]
  cases field? cs with
  | none => rfl
  | some found =>
    obtain ⟨minutes, rest⟩ := found
    simp only [Option.bind_some, all_cons, here?_field_seq]
    cases field? rest <;> rfl

/-- A stamp is read at a place as its pattern reads it. -/
theorem fields?_eq_here? : fields? cs = (stampPattern.here? n cs).map Fields.ofWay := by
  rw [stampPattern, all_cons, here?_group_alt_seq, Option.map_or]
  match cs with
  | [] => rfl
  | [x] =>
    rw [here?_digit_seq]
    cases hx : Text.isDecimal x with
    | true =>
      rw [if_pos rfl, here?_behind_hours]
      simp [fields?, hx, here?, ways, pairPattern, all, field?]
    | false => simp [fields?, hx, here?, ways, pairPattern, all]
  | x :: y :: rest =>
    rw [here?_pair_seq, here?_digit_seq]
    cases hx : Text.isDecimal x with
    | false => simp [fields?, hx]
    | true =>
      rw [if_pos rfl, here?_behind_hours]
      cases hy : Text.isDecimal y with
      | true =>
        -- no colon stands behind a single digit of the hours
        have hcolon : y ≠ ':' := by
          rintro rfl
          exact absurd hy (by decide)
        rw [Bool.and_self, if_pos rfl, here?_behind_hours]
        simp [fields?, hx, hy, field?, hcolon]
      | false => simp [fields?, hx, hy]

/-- The length of time of a stamp is read from what a search for its pattern keeps. -/
theorem find?_eq_find? (cs : List Char) :
    find? cs = (stampPattern.find? cs).bind fun way ↦ (Fields.ofWay way).value? := by
  rw [find?, findAnywhere?_eq_find?_map (fun _ _ ↦ fields?_eq_here?), Option.bind_map]
  rfl

end

/-! ### A written stamp -/

/-- A digit character is a decimal digit. -/
private theorem isDecimal_digitChar {d : Nat} (h : d < 10) :
    Text.isDecimal d.digitChar = true :=
  Text.isDecimal_of_isDigit (by simp [h])

/-- The characters of a stamp are those of its text. -/
@[simp] theorem toList_toText (n : UInt32) : (toText n).toList = toChars n := by
  simp [toText]

/-- A written stamp consists of digits and colons. -/
theorem isDigit_or_colon_of_mem_toChars {n : UInt32} {c : Char} (h : c ∈ toChars n) :
    c.isDigit = true ∨ c = ':' := by
  have hpair : ∀ m : Nat, c ∈ Text.twoDigits m → c.isDigit = true := by
    intro m hm
    obtain ⟨front, hfront, heq⟩ := Text.exists_twoDigits_eq m
    simp only [heq, List.mem_append, List.mem_cons, List.not_mem_nil, or_false] at hm
    rcases hm with hm | rfl | rfl
    · exact hfront c hm
    · simp; omega
    · simp; omega
  simp only [toChars, List.mem_append, List.mem_cons] at h
  rcases h with (h | h | h) | h | h
  · exact Or.inl (hpair _ h)
  · exact Or.inr h
  · exact Or.inl (hpair _ h)
  · exact Or.inr h
  · exact Or.inl (hpair _ h)

/-- A written stamp ends with no blank. -/
theorem noBlankLast_toChars (n : UInt32) : Text.NoBlankLast (toChars n) := by
  apply Text.noBlankLast_of_forall
  intro c hc
  rcases isDigit_or_colon_of_mem_toChars hc with h | rfl
  · exact Text.isBlank_of_isDecimal (Text.isDecimal_of_isDigit h)
  · decide

/-- The fields of a written stamp make up the length of time below a hundred hours. -/
private theorem ofNat_fields (n : UInt32) :
    UInt32.ofNat ((10 * (n.toNat / 3600 / 10 % 10) + n.toNat / 3600 % 10) * 3600 +
      (10 * (n.toNat / 60 % 60 / 10) + n.toNat / 60 % 60 % 10) * 60 +
      (10 * (n.toNat % 60 / 10) + n.toNat % 60 % 10)) = n % 360000 := by
  have hhours : 10 * (n.toNat / 3600 / 10 % 10) + n.toNat / 3600 % 10 = n.toNat / 3600 % 100 := by
    omega
  have hminutes : 10 * (n.toNat / 60 % 60 / 10) + n.toNat / 60 % 60 % 10 = n.toNat / 60 % 60 :=
    Nat.div_add_mod _ 10
  have hseconds : 10 * (n.toNat % 60 / 10) + n.toNat % 60 % 10 = n.toNat % 60 :=
    Nat.div_add_mod _ 10
  have htotal : n.toNat / 3600 % 100 * 3600 + n.toNat / 60 % 60 * 60 + n.toNat % 60 =
      n.toNat % 360000 := by
    have hdiv : n.toNat / 60 / 60 = n.toNat / 3600 := Nat.div_div_eq_div_mul _ 60 60
    omega
  rw [hhours, hminutes, hseconds, htotal]
  apply UInt32.toNat_inj.1
  rw [UInt32.toNat_mod, UInt32.toNat_ofNat_of_lt' (by have := n.toNat_lt; change _ < 2 ^ 32; omega)]
  rfl

/-- No stamp starts at a digit that has two more behind it. -/
private theorem fields?_of_suffix {front digits post : List Char} {a b : Char}
    (hdigits : ∀ c ∈ digits, c.isDigit = true) (ha : a.isDigit = true) (hb : b.isDigit = true)
    (hfront : front <:+ digits) (hne : front ≠ []) :
    fields? (front ++ (a :: b :: post)) = none := by
  have hall : ∀ c ∈ front ++ [a, b], Text.isDecimal c = true := by
    intro c hc
    apply Text.isDecimal_of_isDigit
    simp only [List.mem_append, List.mem_cons, List.not_mem_nil, or_false] at hc
    rcases hc with hc | rfl | rfl
    · exact hdigits c (hfront.subset hc)
    · exact ha
    · exact hb
  match front, hne with
  | [x], _ => exact fields?_of_decimals (hall x (by simp)) (hall a (by simp)) (hall b (by simp))
  | [x, y], _ => exact fields?_of_decimals (hall x (by simp)) (hall y (by simp)) (hall a (by simp))
  | x :: y :: z :: _, _ =>
    exact fields?_of_decimals (hall x (by simp)) (hall y (by simp)) (hall z (by simp))

/-- The length of time that is read from a written stamp: what exceeds a hundred hours is lost. -/
theorem find?_append_toChars {pre : List Char} (hpre : ∀ c ∈ pre, Text.isDecimal c = false)
    (n : UInt32) (post : List Char) :
    find? (pre ++ (toChars n ++ post)) = some (n % 360000) := by
  obtain ⟨front, hfront, hhours⟩ := Text.exists_twoDigits_eq (n.toNat / 3600)
  have hminutes := Text.twoDigits_of_lt (show n.toNat / 60 % 60 < 100 by omega)
  have hseconds := Text.twoDigits_of_lt (show n.toNat % 60 < 100 by omega)
  have hfound : Text.findAnywhere? fields? (pre ++ (toChars n ++ post)) =
      some ⟨[(n.toNat / 3600 / 10 % 10).digitChar, (n.toNat / 3600 % 10).digitChar],
        [(n.toNat / 60 % 60 / 10).digitChar, (n.toNat / 60 % 60 % 10).digitChar],
        [(n.toNat % 60 / 10).digitChar, (n.toNat % 60 % 10).digitChar]⟩ := by
    rw [Text.findAnywhere?_append]
    · -- the further digits of the hours are passed over as well
      simp only [toChars, hhours, hminutes, hseconds, List.append_assoc, List.cons_append,
        List.nil_append]
      rw [Text.findAnywhere?_append]
      · apply Text.findAnywhere?_of_eq_some
        apply fields?_of_pairs
        intro x hx
        simp only [List.mem_cons, List.not_mem_nil, or_false] at hx
        rcases hx with rfl | rfl | rfl | rfl | rfl | rfl <;> exact isDecimal_digitChar (by omega)
      · intro r hr hne
        exact fields?_of_suffix hfront (by simp; omega) (by simp; omega) hr hne
    · intro r hr hne
      cases r with
      | nil => exact absurd rfl hne
      | cons c r => exact fields?_eq_none (hpre c (hr.subset List.mem_cons_self))
  rw [find?, hfound]
  simp only [Option.bind_some, Fields.value?]
  rw [Text.natural?_pair (by omega) (by omega), Text.natural?_pair (by omega) (by omega),
    Text.natural?_pair (by omega) (by omega)]
  exact congrArg some (ofNat_fields n)

/-- The length of a written stamp depends on its hours only. -/
theorem length_toChars (n : UInt32) :
    (toChars n).length = (Text.twoDigits (n.toNat / 3600)).length + 6 := by
  have hminutes := Text.length_twoDigits_eq_two_iff.2 (show n.toNat / 60 % 60 < 100 by omega)
  have hseconds := Text.length_twoDigits_eq_two_iff.2 (show n.toNat % 60 < 100 by omega)
  simp only [toChars, List.length_append, List.length_cons, hminutes, hseconds]

/-- Nothing is lost of a length of time below a hundred hours. -/
theorem mod_eq_of_lt {n : UInt32} (h : n < 360000) : n % 360000 = n := by
  apply UInt32.toNat_inj.1
  rw [UInt32.toNat_mod, Nat.mod_eq_of_lt (UInt32.lt_iff_toNat_lt.1 h)]

/-- The stamp of what is left below a hundred hours is the same only if nothing is lost. -/
theorem toText_mod_eq_iff {n : UInt32} : toText (n % 360000) = toText n ↔ n < 360000 := by
  constructor
  · intro h
    have hmod : (n % 360000).toNat = n.toNat % 360000 := UInt32.toNat_mod n 360000
    have hlength := congrArg List.length (String.ofList_injective h)
    have hshort := Text.length_twoDigits_eq_two_iff.2
      (show (n % 360000).toNat / 3600 < 100 by omega)
    rw [length_toChars, length_toChars, hshort, Nat.add_right_cancel_iff, eq_comm,
      Text.length_twoDigits_eq_two_iff] at hlength
    rw [UInt32.lt_iff_toNat_lt]
    change n.toNat < 360000
    omega
  · intro h
    rw [mod_eq_of_lt h]

end Storyline.Stamp
