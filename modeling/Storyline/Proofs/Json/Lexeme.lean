import Mathlib.Tactic.SplitIfs
import Storyline.Json.Reader
import Storyline.Json.Writer
import Storyline.Proofs.Text.Digit

/-!
# Strings and numbers read back

Between its quotes a text is written character by character, and each of them is read as the
character that it stands for. A number ends where the text goes on with anything but a digit, a
point or an exponent.
-/

namespace Storyline.Json

/-! ### Strings -/

/-- What reading gives if `piece` stands in front. -/
def behind (piece : Piece) : List Piece × List Char → List Piece × List Char :=
  fun (pieces, rest) ↦ (piece :: pieces, rest)

/-- The value of a written hexadecimal digit. -/
theorem hexDigit?_hexChar {n : Nat} (h : n < 16) : hexDigit? (hexChar n) = some n := by
  have hall : ∀ n < 16, hexDigit? (hexChar n) = some n := by decide
  exact hall n h

/-- A character is written by a letter, by its number, or as it is. -/
theorem escapeChar_cases (c : Char) :
    (∃ e, escapeChar c = ['\\', e] ∧ escape? e = some c) ∨
      (c.toNat < 0x20 ∧
        escapeChar c = ['\\', 'u', '0', '0', hexChar (c.toNat / 16), hexChar (c.toNat % 16)]) ∨
      (escapeChar c = [c] ∧ c ≠ '"' ∧ c ≠ '\\' ∧ ¬ c.toNat < 0x20) := by
  unfold escapeChar
  split_ifs with hquote hbackslash hb hf hn hr ht hcontrol
  · exact .inl ⟨'"', rfl, by rw [hquote]; rfl⟩
  · exact .inl ⟨'\\', rfl, by rw [hbackslash]; rfl⟩
  · exact .inl ⟨'b', rfl, by rw [hb]; rfl⟩
  · exact .inl ⟨'f', rfl, by rw [hf]; rfl⟩
  · exact .inl ⟨'n', rfl, by rw [hn]; rfl⟩
  · exact .inl ⟨'r', rfl, by rw [hr]; rfl⟩
  · exact .inl ⟨'t', rfl, by rw [ht]; rfl⟩
  · exact .inr (.inl ⟨hcontrol, rfl⟩)
  · exact .inr (.inr ⟨rfl, hquote, hbackslash, hcontrol⟩)

private theorem readPieces_escape {e c : Char} (h : escape? e = some c) (rest : List Char) :
    readPieces ('\\' :: e :: rest) = (readPieces rest).map (behind (.char c)) := by
  have hu : e ≠ 'u' := by
    rintro rfl
    contradiction
  rw [readPieces, h]
  · cases readPieces rest <;> rfl
  · exact fun _ _ _ _ _ he ↦ absurd he hu

private theorem readPieces_number {n : Nat} (h : n < 0x20) (rest : List Char) :
    readPieces ('\\' :: 'u' :: '0' :: '0' :: hexChar (n / 16) :: hexChar (n % 16) :: rest) =
      (readPieces rest).map (behind (.unit n)) := by
  have hzero : hexDigit? '0' = some 0 := by decide
  have hvalue : 0 * 4096 + 0 * 256 + n / 16 * 16 + n % 16 = n := by omega
  rw [readPieces, hzero, hexDigit?_hexChar (by omega), hexDigit?_hexChar (by omega)]
  simp only [Option.bind_eq_bind, Option.bind_some, hvalue]
  cases readPieces rest <;> rfl

private theorem readPieces_char {c : Char} (hquote : c ≠ '"') (hbackslash : c ≠ '\\')
    (hcontrol : ¬ c.toNat < 0x20) (rest : List Char) :
    readPieces (c :: rest) = (readPieces rest).map (behind (.char c)) := by
  rw [readPieces, if_neg (by simp [hbackslash, hcontrol])]
  · cases readPieces rest <;> rfl
  · exact hquote
  · exact fun _ _ _ _ _ hc ↦ absurd hc hbackslash
  · exact fun _ _ hc ↦ absurd hc hbackslash

/-- A control character can be written by its number. -/
theorem textOfPieces?_unit {c : Char} (h : c.toNat < 0x20) (pieces : List Piece) :
    textOfPieces? (.unit c.toNat :: pieces) = (textOfPieces? pieces).map (c :: ·) := by
  have hhigh : isHighSurrogate c.toNat = false := by
    rw [isHighSurrogate, decide_eq_false (by omega), Bool.false_and]
  have hlow : isLowSurrogate c.toNat = false := by
    rw [isLowSurrogate, decide_eq_false (by omega), Bool.false_and]
  cases pieces with
  | nil => simp [textOfPieces?, hhigh, hlow]
  | cons piece pieces => cases piece <;> simp [textOfPieces?, hhigh, hlow]

/-- A written character is read as one piece, and the piece stands for the character. -/
theorem exists_piece (c : Char) : ∃ piece : Piece,
    (∀ rest, readPieces (escapeChar c ++ rest) = (readPieces rest).map (behind piece)) ∧
      ∀ pieces, textOfPieces? (piece :: pieces) = (textOfPieces? pieces).map (c :: ·) := by
  rcases escapeChar_cases c with ⟨e, hescape, he⟩ | ⟨hcontrol, hescape⟩ |
    ⟨hescape, hquote, hbackslash, hcontrol⟩
  · exact ⟨.char c, fun rest ↦ by rw [hescape]; exact readPieces_escape he rest, fun _ ↦ rfl⟩
  · exact ⟨.unit c.toNat, fun rest ↦ by rw [hescape]; exact readPieces_number hcontrol rest,
      textOfPieces?_unit hcontrol⟩
  · exact ⟨.char c, fun rest ↦ by
      rw [hescape]; exact readPieces_char hquote hbackslash hcontrol rest, fun _ ↦ rfl⟩

/-- A written text is read up to its closing quote. -/
theorem readString_escaped (s : String) (rest : List Char) :
    readString (s.toList.flatMap escapeChar ++ '"' :: rest) = some (some s, rest) := by
  have hpieces : ∀ cs : List Char, ∃ pieces,
      readPieces (cs.flatMap escapeChar ++ '"' :: rest) = some (pieces, rest) ∧
        textOfPieces? pieces = some cs := by
    intro cs
    induction cs with
    | nil => exact ⟨[], rfl, rfl⟩
    | cons c cs ih =>
      obtain ⟨pieces, hread, htext⟩ := ih
      obtain ⟨piece, hpiece, hstands⟩ := exists_piece c
      refine ⟨piece :: pieces, ?_, ?_⟩
      · rw [List.flatMap_cons, List.append_assoc, hpiece, hread]
        rfl
      · rw [hstands, htext]
        rfl
  obtain ⟨pieces, hread, htext⟩ := hpieces s.toList
  rw [readString, hread]
  simp [htext]

/-! ### Numbers -/

private theorem head?_append_of_ne_nil {front : List Char} (h : front ≠ []) (back : List Char) :
    (front ++ back).head? = front.head? := by
  cases front with
  | nil => exact absurd rfl h
  | cons c front => rfl

/-- A number is spelled as JSON wants it. -/
structure Numeral.WellFormed (n : Numeral) : Prop where
  /-- There are digits before the point. -/
  whole_ne_nil : n.whole ≠ []
  /-- All of them are digits. -/
  isDigit_whole : ∀ c ∈ n.whole, c.isDigit = true
  /-- A zero in front stands alone. -/
  eq_zero : n.whole.head? = some '0' → n.whole = ['0']
  /-- What stands after the point is digits. -/
  isDigit_fraction : ∀ c ∈ n.fraction, c.isDigit = true
  /-- An exponent has digits. -/
  exponent_ne_nil : ∀ e, n.exponent = some e → e.digits ≠ []
  /-- All of them are digits. -/
  isDigit_exponent : ∀ e, n.exponent = some e → ∀ c ∈ e.digits, c.isDigit = true

/-- The digits of a natural number are spelled as JSON wants it. -/
theorem Numeral.wellFormed_ofNat (n : Nat) : (Numeral.ofNat n).WellFormed := by
  have hzero : ∀ n : Nat, (Nat.toDigits 10 n).head? = some '0' → n = 0 := by
    intro n
    induction n using Nat.strongRecOn with
    | ind n ih =>
      intro hhead
      by_cases hn : n < 10
      · rw [Nat.toDigits_of_lt_base hn, List.head?_singleton, Option.some.injEq] at hhead
        have hdigit := congrArg Char.toNat hhead
        rw [Nat.toNat_digitChar_of_lt_ten hn] at hdigit
        exact Nat.add_left_cancel hdigit
      · rw [Nat.toDigits_of_base_le (by decide) (Nat.le_of_not_lt hn),
          head?_append_of_ne_nil Nat.toDigits_ne_nil] at hhead
        have hfront := ih (n / 10) (by omega) hhead
        omega
  constructor
  · exact Nat.toDigits_ne_nil
  · exact fun c hc ↦ Nat.isDigit_of_mem_toDigits (by decide) (by decide) hc
  · intro hhead
    rw [ofNat, hzero n hhead]
    rfl
  · exact fun c hc ↦ absurd hc List.not_mem_nil
  · exact fun e he ↦ nomatch he
  · exact fun e he ↦ nomatch he

/-- The text does not go on with a number. -/
def Ends (rest : List Char) : Prop :=
  ∀ c, rest.head? = some c → c.isDigit = false ∧ c ≠ '.' ∧ c ≠ 'e' ∧ c ≠ 'E'

private theorem readDigits_append {digits rest : List Char} (hne : digits ≠ [])
    (hdigits : ∀ c ∈ digits, c.isDigit = true)
    (hrest : ∀ c, rest.head? = some c → c.isDigit = false) :
    readDigits (digits ++ rest) = some (digits, rest) := by
  have hstop : rest.takeWhile Char.isDigit = [] ∧ rest.dropWhile Char.isDigit = rest := by
    cases rest with
    | nil => exact ⟨rfl, rfl⟩
    | cons c rest => simp [hrest c rfl]
  rw [readDigits, List.takeWhile_append_of_pos hdigits, List.dropWhile_append_of_pos hdigits,
    hstop.1, hstop.2, List.append_nil, if_neg hne]

private theorem readWhole_append {n : Numeral} (h : n.WellFormed) {rest : List Char}
    (hrest : ∀ c, rest.head? = some c → c.isDigit = false) :
    readWhole (n.whole ++ rest) = some (n.whole, rest) := by
  by_cases hzero : n.whole.head? = some '0'
  · rw [h.eq_zero hzero, List.cons_append, List.nil_append, readWhole, if_neg]
    cases rest with
    | nil => decide
    | cons c rest => simp [hrest c rfl]
  · rw [readWhole, readDigits_append h.whole_ne_nil h.isDigit_whole hrest]
    intro tail heq
    rw [← head?_append_of_ne_nil h.whole_ne_nil rest, heq] at hzero
    exact hzero rfl

private theorem readFraction_append {n : Numeral} (h : n.WellFormed) {rest : List Char}
    (hrest : ∀ c, rest.head? = some c → c.isDigit = false ∧ c ≠ '.') :
    readFraction ((if n.fraction = [] then [] else '.' :: n.fraction) ++ rest) =
      some (n.fraction, rest) := by
  split
  · next hnil =>
    rw [List.nil_append, hnil, readFraction]
    rintro tail rfl
    exact (hrest '.' rfl).2 rfl
  · next hne =>
    rw [List.cons_append, readFraction]
    exact readDigits_append hne h.isDigit_fraction fun c hc ↦ (hrest c hc).1

private theorem readExponent_append {n : Numeral} (h : n.WellFormed) {rest : List Char}
    (hrest : Ends rest) :
    readExponent ((n.exponent.map Numeral.exponentChars).getD [] ++ rest) =
      some (n.exponent, rest) := by
  cases hexponent : n.exponent with
  | none =>
    cases rest with
    | nil => rfl
    | cons c rest =>
      obtain ⟨-, -, he, hE⟩ := hrest c rfl
      simp [readExponent, he, hE]
  | some e =>
    have hread := readDigits_append (h.exponent_ne_nil e hexponent)
      (h.isDigit_exponent e hexponent) fun c hc ↦ (hrest c hc).1
    obtain ⟨negative, digits⟩ := e
    cases negative <;> simp [Numeral.exponentChars, readExponent, hread]

/-- A well-formed number is read up to its end. -/
theorem readNumeral_append {n : Numeral} (h : n.WellFormed) {rest : List Char}
    (hrest : Ends rest) : readNumeral (n.toChars ++ rest) = some (n, rest) := by
  generalize hexponent : (n.exponent.map Numeral.exponentChars).getD [] = exponent
  generalize hfraction : (if n.fraction = [] then [] else '.' :: n.fraction) = fraction
  have hbehind : ∀ c, (exponent ++ rest).head? = some c → c.isDigit = false ∧ c ≠ '.' := by
    intro c hc
    cases he : n.exponent with
    | none =>
      rw [← hexponent, he] at hc
      exact ⟨(hrest c hc).1, (hrest c hc).2.1⟩
    | some e =>
      rw [← hexponent, he] at hc
      obtain rfl : 'e' = c := Option.some.inj hc
      decide
  have hmiddle : ∀ c, (fraction ++ (exponent ++ rest)).head? = some c → c.isDigit = false := by
    intro c hc
    rw [← hfraction] at hc
    split at hc
    · exact (hbehind c hc).1
    · obtain rfl : '.' = c := Option.some.inj hc
      decide
  have hsign : ∀ tail, n.whole ++ (fraction ++ (exponent ++ rest)) ≠ '-' :: tail := by
    intro tail heq
    obtain ⟨c, cs, hc⟩ := List.exists_cons_of_ne_nil h.whole_ne_nil
    rw [hc, List.cons_append, List.cons.injEq] at heq
    have hdigit := h.isDigit_whole '-' (by rw [hc, heq.1]; exact List.mem_cons_self)
    exact absurd hdigit (by decide)
  have hwhole := readWhole_append h hmiddle
  have hpoint := readFraction_append h hbehind
  have hpower := readExponent_append h hrest
  rw [hfraction] at hpoint
  rw [hexponent] at hpower
  cases hnegative : n.negative with
  | true =>
    rw [Numeral.toChars, hfraction, hexponent, hnegative, if_pos rfl]
    simp only [List.append_assoc, List.cons_append, List.nil_append]
    rw [readNumeral]
    simp [hwhole, hpoint, hpower, ← hnegative]
  | false =>
    rw [Numeral.toChars, hfraction, hexponent, hnegative, if_neg Bool.false_ne_true]
    simp only [List.append_assoc, List.nil_append]
    rw [readNumeral]
    · simp [hwhole, hpoint, hpower, ← hnegative]
    · exact hsign

end Storyline.Json
