import Storyline.Proofs.Finding.Criteria
import Storyline.Proofs.Script.Grammar

/-!
# Codes of compact lines

The number in the code of a compact line is written in decimal digits of any script, while the
number in a well-formed code has ASCII digits only. The two agree on every text but those with
another digit, and these are the codes of compact lines that are found to be malformed.
-/

namespace Storyline

/-- Behind the first letter stands a character that is no ASCII digit. -/
def Code.HasOtherDigit (code : List Char) : Prop := ∃ d ∈ code.tail, d.isDigit = false

instance (code : List Char) : Decidable (Code.HasOtherDigit code) :=
  inferInstanceAs (Decidable (∃ d ∈ code.tail, d.isDigit = false))

/-- A code is well formed if it looks like one and all of its digits are ASCII digits. -/
theorem Code.wellFormed_ofList_iff {code : List Char} :
    WellFormed (String.ofList code) ↔ Lector.LikeCode code ∧ ¬ HasOtherDigit code := by
  simp only [WellFormed, String.toList_ofList, HasOtherDigit, not_exists, not_and,
    Bool.not_eq_false]
  constructor
  · rintro ⟨letter, number, rfl, hletter, hne, hnumber⟩
    exact ⟨⟨by simpa using hletter, hne, fun d hd ↦ Text.isDecimal_of_isDigit (hnumber d hd)⟩,
      hnumber⟩
  · rintro ⟨⟨hletter, hne, -⟩, hnumber⟩
    cases code with
    | nil => exact absurd rfl hne
    | cons letter number => exact ⟨letter, number, rfl, by simpa using hletter, hne, hnumber⟩

namespace Statement

/-- The line of a code and a text, read by the default lector. -/
def compactLine (lectors : List Lector) (code content : List Char) : Line where
  content := String.ofList (Text.trim content)
  code := some (String.ofList code)
  lectorId := defaultLector lectors

/-- Up to the first colon, a compact line is its code. -/
theorem compact?_colon {c : List Char} (hcolon : ':' ∉ c) (x : List Char) :
    compact? (c ++ ':' :: x) =
      if Lector.LikeCode c then
        some { code := c, partnerSpecific := false, content := Text.trim x }
      else none := by
  split
  · next hcode => exact compact?_eq_some_iff.2 ⟨c, x, hcode, rfl, rfl⟩
  · next hcode =>
    rw [Option.eq_none_iff_forall_ne_some]
    intro line hline
    obtain ⟨code, rest, hlike, hsplit, -⟩ := compact?_eq_some_iff.1 hline
    have hnone : ':' ∉ code := fun hmem ↦ absurd (hlike.letter_or_isDecimal hmem) (by decide)
    obtain ⟨rfl, -⟩ := (Text.append_cons_inj hcolon hnone).1 hsplit
    exact hcode hlike

/-- The codes of compact lines look like codes, and the line has the code. -/
theorem tag?_of_compact? {cs : List Char} {line : CodedLine} (h : compact? cs = some line)
    (lectors : List Lector) :
    Lector.LikeCode line.code ∧
      (CodedLine.toLine lectors line).tag? = some (String.ofList line.code) := by
  obtain ⟨code, rest, hlike, -, rfl⟩ := compact?_eq_some_iff.1 h
  have hne : String.ofList code ≠ "" := by
    intro hempty
    have hnil : code = [] := by simpa using congrArg String.toList hempty
    exact hlike.2.1 (by rw [hnil]; rfl)
  exact ⟨hlike, by simp [Line.tag?, CodedLine.toLine, Option.filter, hne]⟩

/-- A text and a colon start a compact line exactly if the text looks like a code. So a compact line
is read exactly where the code is well formed, except that the code may have other digits than ASCII
ones, and of a compact line in a story a malformed code is found exactly if its code has one. -/
theorem compact?_agrees (lectors : List Lector) :
    (∀ c x : List Char, ':' ∉ c →
      ((compact? (c ++ ": ".toList ++ x)).map (CodedLine.toLine lectors) =
          if Lector.LikeCode c then some (compactLine lectors c x) else none) ∧
        (((compact? (c ++ ": ".toList ++ x)).map (CodedLine.toLine lectors) =
              some (compactLine lectors c x) ↔
            Code.WellFormed (String.ofList c)) ↔
          ¬ (Lector.LikeCode c ∧ Code.HasOtherDigit c))) ∧
      ∀ cs line blocks, compact? cs = some line →
        CodedLine.toLine lectors line ∈ Block.lines blocks →
          (.malformedCode (String.ofList line.code) ∈ findings lectors blocks ↔
            Code.HasOtherDigit line.code) := by
  refine ⟨fun c x hcolon ↦ ?_, fun cs line blocks hline hmem ↦ ?_⟩
  · have hread : (compact? (c ++ ": ".toList ++ x)).map (CodedLine.toLine lectors) =
        if Lector.LikeCode c then some (compactLine lectors c x) else none := by
      have hsplit : c ++ ": ".toList ++ x = c ++ ':' :: ' ' :: x := by simp
      rw [hsplit, compact?_colon hcolon, Text.trim_space]
      split <;> rfl
    refine ⟨hread, ?_⟩
    rw [hread, Code.wellFormed_ofList_iff]
    by_cases hlike : Lector.LikeCode c
    · simp [hlike]
    · simp [hlike]
  · obtain ⟨hlike, htag⟩ := tag?_of_compact? hline lectors
    have hcode : String.ofList line.code ∈ Dsl.codes blocks :=
      List.mem_filterMap.2 ⟨_, hmem, htag⟩
    rw [Finding.malformedCode_mem_findings_iff, Code.wellFormed_ofList_iff]
    simp [hcode, hlike]

/-- With an ASCII digit the two agree, and nothing is found of the code. -/
theorem compact?_agrees_ascii :
    let lectors : List Lector := [⟨"n", "Narrator", ""⟩]
    let line : CodedLine :=
      { code := "Z7".toList, partnerSpecific := false, content := "Run: now!".toList }
    ((compact? ("Z7".toList ++ ": ".toList ++ "Run: now! ".toList)).map
          (CodedLine.toLine lectors) = some (compactLine lectors "Z7".toList "Run: now! ".toList) ↔
        Code.WellFormed (String.ofList "Z7".toList)) ∧
      .malformedCode (String.ofList "Z7".toList) ∉
        findings lectors [⟨.ofNat 0, .line (CodedLine.toLine lectors line)⟩] := by
  intro lectors line
  obtain ⟨hread, hfound⟩ := compact?_agrees lectors
  obtain ⟨-, hagree⟩ := hread "Z7".toList "Run: now! ".toList (by decide)
  have hcode := hfound "Z7: Run: now!".toList line
    [⟨.ofNat 0, .line (CodedLine.toLine lectors line)⟩] (by decide) List.mem_cons_self
  exact ⟨hagree.2 (by decide), fun h ↦ absurd (hcode.1 h) (by decide)⟩

/-- A full-width digit makes a compact line, but no well-formed code, and the code is found to be
malformed. -/
theorem compact?_fullwidth :
    ¬ ((compact? ("S１".toList ++ ": ".toList ++ "Hush.".toList)).map (CodedLine.toLine []) =
          some (compactLine [] "S１".toList "Hush.".toList) ↔
        Code.WellFormed (String.ofList "S１".toList)) ∧
      .malformedCode "S１" ∈
        findings [] [⟨.ofNat 0, .line (compactLine [] "S１".toList "Hush.".toList)⟩] := by
  decide

end Statement

end Storyline
