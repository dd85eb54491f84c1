import Storyline.BlockId
import Storyline.Proofs.Text.Digit
import Storyline.Proofs.Text.Letter

/-!
# Block identifiers read back

The written form is read as the identifier. It has hyphens, so it is not taken for bare digits, and
it starts with none of the marks that stand around an identifier.
-/

namespace Storyline.BlockId

/-- Groups with hyphens between them, the first of several in front. -/
theorem intercalate_cut_cons (n m : Nat) (sizes : List Nat) (cs : List Char) :
    ['-'].intercalate (cut (n :: m :: sizes) cs) =
      cs.take n ++ '-' :: ['-'].intercalate (cut (m :: sizes) (cs.drop n)) := by
  rw [cut]
  · cases sizes <;> simp [cut, List.intercalate_cons_cons]
  · exact List.cons_ne_nil _ _

/-- What was cut into groups is put together again. -/
theorem ungroup?_intercalate {sizes : List Nat} (hne : sizes ≠ []) {cs : List Char}
    (h : cs.length = sizes.sum) :
    ungroup? sizes (['-'].intercalate (cut sizes cs)) = some cs := by
  induction sizes generalizing cs with
  | nil => exact absurd rfl hne
  | cons n sizes ih =>
    cases sizes with
    | nil =>
      rw [List.sum_singleton] at h
      simp [cut, ungroup?, h]
    | cons m sizes =>
      rw [List.sum_cons] at h
      have hlength : (cs.take n).length = n := by
        rw [List.length_take]
        omega
      have hrest : ungroup? (m :: sizes) (['-'].intercalate (cut (m :: sizes) (cs.drop n))) =
          some (cs.drop n) :=
        ih (List.cons_ne_nil _ _) (by rw [List.length_drop]; omega)
      rw [intercalate_cut_cons, ungroup?, List.drop_left' hlength, List.take_left' hlength]
      · rw [Text.dropPrefix?, if_pos rfl, Text.dropPrefix?]
        simp [hrest]
      · exact List.cons_ne_nil _ _

/-- A character that stands between the hyphens was among the digits. -/
theorem mem_of_mem_intercalate_cut {c : Char} (hc : c ≠ '-') {sizes : List Nat} {cs : List Char}
    (h : c ∈ ['-'].intercalate (cut sizes cs)) : c ∈ cs := by
  induction sizes generalizing cs with
  | nil => exact absurd h List.not_mem_nil
  | cons n sizes ih =>
    cases sizes with
    | nil => simpa [cut] using h
    | cons m sizes =>
      rw [intercalate_cut_cons, List.mem_append, List.mem_cons] at h
      rcases h with h | h | h
      · exact List.mem_of_mem_take h
      · exact absurd h hc
      · exact List.mem_of_mem_drop (ih h)

private theorem ofDigits?_hexChars (id : BlockId) :
    ofDigits? (id.digits.map hexChar) = some id := by
  rw [ofDigits?, Text.mapM_map_eq_some hexValue?_hexChar]
  simp [id.length_digits]

/-- Only hexadecimal digits are read as bare digits. -/
theorem ofDigits?_eq_none {c : Char} {cs : List Char} (hc : c ∈ cs) (h : hexValue? c = none) :
    ofDigits? cs = none := by
  have hdigits : cs.mapM hexValue? = none := by
    induction cs with
    | nil => exact absurd hc List.not_mem_nil
    | cons d cs ih =>
      rcases List.mem_cons.1 hc with rfl | hc
      · simp [h]
      · simp [ih hc]
  rw [ofDigits?, hdigits]
  rfl

/-- The written form has no other characters than digits and hyphens. -/
theorem notMem_toChars {c : Char} (hhyphen : c ≠ '-') (hdigit : hexValue? c = none)
    (id : BlockId) : c ∉ id.toChars := by
  intro hc
  obtain ⟨d, -, rfl⟩ := List.mem_map.1 (mem_of_mem_intercalate_cut hhyphen hc)
  rw [hexValue?_hexChar] at hdigit
  contradiction

/-- An identifier is read back from its written form. -/
theorem ofText?_toText (id : BlockId) : ofText? id.toText = some id := by
  -- the hyphens keep it from being read as bare digits
  have hhyphen : '-' ∈ id.toChars := by
    rw [toChars, groups, intercalate_cut_cons]
    simp
  -- neither a colon nor a brace is in it, so nothing is taken off
  have hword : Text.dropWord? "urn:uuid:".toList id.toChars = none :=
    Text.dropWord?_eq_none_of_notMem (d := ':') (by decide) (by decide)
      (notMem_toChars (by decide) (by decide) id)
  have hunwrap : unwrap id.toChars = id.toChars := by
    rw [unwrap, hword]
    intro rest hbrace
    have hmem : '\x7b' ∈ id.toChars := by
      rw [hbrace]
      exact List.mem_cons_self
    exact notMem_toChars (by decide) (by decide) id hmem
  rw [ofText?, toText, String.toList_ofList, ofDigits?_eq_none hhyphen (by decide), hunwrap,
    Option.none_or, ofGrouped?, toChars,
    ungroup?_intercalate (by decide) (by rw [List.length_map, id.length_digits]; rfl),
    Option.bind_some, ofDigits?_hexChars]

end Storyline.BlockId
