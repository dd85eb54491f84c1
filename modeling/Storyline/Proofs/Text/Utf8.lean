import Mathlib.Tactic.SplitIfs

/-!
# The order of texts

Texts are compared by their characters, and characters by their code points. In UTF-8 this is the
order of the bytes: the first byte of a character tells how many there are, more of them for greater
code points, and each byte has the next digits of the code point.
-/

namespace Storyline.Text

/-- The bytes of a text in UTF-8. -/
def bytes (s : String) : List UInt8 := s.toUTF8.data.toList

private theorem bytes_eq_flatMap (s : String) :
    bytes s = s.toList.flatMap String.utf8EncodeChar := by
  rw [bytes, String.toUTF8, ← String.utf8Encode_toList, List.utf8Encode]
  simp

private theorem cons_ofNat_lt_iff {x y : Nat} (hx : x < 256) (hy : y < 256) {cs ds : List UInt8} :
    UInt8.ofNat x :: cs < UInt8.ofNat y :: ds ↔ x < y ∨ x = y ∧ cs < ds := by
  rw [List.cons_lt_cons_iff, UInt8.lt_iff_toNat_lt, ← UInt8.toNat_inj,
    UInt8.toNat_ofNat_of_lt' hx, UInt8.toNat_ofNat_of_lt' hy]

/-- Of two numbers the greater one has the greater digit to the base 64 at the first place where
they differ. -/
private theorem lt_or_eq_and_lt {v w : Nat} (h : v < w) :
    v / 262144 < w / 262144 ∨ v / 262144 = w / 262144 ∧
      (v / 4096 % 64 < w / 4096 % 64 ∨ v / 4096 % 64 = w / 4096 % 64 ∧
        (v / 64 % 64 < w / 64 % 64 ∨ v / 64 % 64 = w / 64 % 64 ∧ v % 64 < w % 64)) := by
  have hdigit : ∀ {a b : Nat}, a < b → a / 64 < b / 64 ∨ a / 64 = b / 64 ∧ a % 64 < b % 64 := by
    omega
  rcases hdigit h with h | ⟨heq, hlast⟩
  · rcases hdigit h with h | ⟨heq, hthird⟩
    · rcases hdigit h with h | ⟨heq, hsecond⟩ <;> omega
    · omega
  · omega

/-- Of two characters the greater one has the greater bytes, whatever follows. -/
theorem utf8EncodeChar_append_lt {c d : Char} (h : c < d) (cs ds : List UInt8) :
    String.utf8EncodeChar c ++ cs < String.utf8EncodeChar d ++ ds := by
  have hlt : c.val.toNat < d.val.toNat := h
  have hbound : d.val.toNat < 0x110000 := by
    have hvalid := d.valid
    unfold UInt32.isValidChar Nat.isValidChar at hvalid
    omega
  rw [String.utf8EncodeChar, String.utf8EncodeChar]
  generalize c.val.toNat = v at *
  generalize d.val.toNat = w at *
  by_cases hfour : v ≤ 0xffff
  · -- the greater one has more bytes, or both have the same number of one to three
    split_ifs <;>
      simp (disch := omega) only [List.cons_append, List.nil_append, cons_ofNat_lt_iff] <;> omega
  · have hdigits := lt_or_eq_and_lt hlt
    rw [← Nat.mod_eq_of_lt (show v / 262144 < 8 by omega),
      ← Nat.mod_eq_of_lt (show w / 262144 < 8 by omega)] at hdigits
    simp (disch := omega) only [if_neg, List.cons_append, List.nil_append, cons_ofNat_lt_iff,
      Nat.add_lt_add_iff_right, Nat.add_right_cancel_iff]
    exact hdigits.imp_right (And.imp_right (Or.imp_right (And.imp_right (Or.imp_right
      (And.imp_right Or.inl)))))

/-- Of two texts the greater one has the greater bytes. -/
theorem bytes_lt_bytes {a b : String} (h : a < b) : bytes a < bytes b := by
  rw [bytes_eq_flatMap, bytes_eq_flatMap]
  replace h : a.toList < b.toList := h
  generalize a.toList = cs at h
  generalize b.toList = ds at h
  induction h with
  | @nil d ds =>
    have hne : String.utf8EncodeChar d ≠ [] := by simp
    obtain ⟨byte, bytes, hbytes⟩ := List.exists_cons_of_ne_nil hne
    rw [List.flatMap_nil, List.flatMap_cons, hbytes, List.cons_append]
    exact List.nil_lt_cons byte _
  | rel h =>
    rw [List.flatMap_cons, List.flatMap_cons]
    exact utf8EncodeChar_append_lt h _ _
  | cons _ ih =>
    rw [List.flatMap_cons, List.flatMap_cons]
    exact List.append_left_lt ih

end Storyline.Text
