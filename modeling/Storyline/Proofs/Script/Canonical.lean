import Storyline.Script.Statement
import Storyline.Proofs.Script.Background
import Storyline.Proofs.Stamp
import Storyline.Proofs.Text.Occurrence
import Storyline.Proofs.Text.Trim

/-!
# Reading canonical statements

What the statements of a saved script say when they are read back. A keyword at the start of a line
decides its form unless a form that is tried earlier claims the line, and of those only two look
beyond its start: `BackgroundSampleLine` and `PauseLine` count wherever they stand. A code without
these two words is read back as it was written.
-/

namespace Storyline

/-- A code that a statement can carry: it has no blank, no comma and no opening bracket, and the
words that mark a background or a pause do not occur in it. -/
structure Code.Plain (code : List Char) : Prop where
  /-- No character of the code ends it. -/
  chars : ∀ c ∈ code, Text.isBlank c = false ∧ c ≠ ',' ∧ c ≠ '['
  /-- The code does not make its line a background. -/
  noBackground : ¬ "BackgroundSampleLine".toList <:+: code
  /-- The code does not make its line a pause. -/
  noPause : ¬ "PauseLine".toList <:+: code

instance (code : List Char) : Decidable (Code.Plain code) :=
  decidable_of_iff
    ((∀ c ∈ code, Text.isBlank c = false ∧ c ≠ ',' ∧ c ≠ '[') ∧
      Text.contains "BackgroundSampleLine".toList code = false ∧
      Text.contains "PauseLine".toList code = false)
    ⟨fun h ↦ ⟨h.1, Text.contains_eq_false_iff.1 h.2.1, Text.contains_eq_false_iff.1 h.2.2⟩,
      fun h ↦ ⟨h.1, Text.contains_eq_false_iff.2 h.2, Text.contains_eq_false_iff.2 h.3⟩⟩

namespace Statement

/-- A code goes on up to a blank, a comma or an opening bracket. -/
theorem isCodeChar_iff {c : Char} :
    isCodeChar c = true ↔ Text.isBlank c = false ∧ c ≠ ',' ∧ c ≠ '[' := by
  simp [isCodeChar, and_assoc]

/-! ### Chapters -/

/-- A chapter is read back with its title. -/
theorem read_chapter (title : List Char) :
    read ("Chapter:".toList ++ title) = chapter (Text.trim title) := rfl

/-! ### Pauses -/

/-- A pause is read back with its length below a hundred hours. -/
theorem read_pause (seconds : UInt32) :
    read ("PauseLine: ".toList ++ Stamp.toChars seconds) = pause (seconds % 360000) := by
  generalize hcs : "PauseLine: ".toList ++ Stamp.toChars seconds = cs
  have hbackground : Text.contains "BackgroundSampleLine".toList cs = false := by
    -- no character of the line is a `B`
    refine Text.contains_eq_false_iff.2 (Text.not_infix_of_notMem (c := 'B') (by decide) ?_)
    rw [← hcs, List.mem_append, not_or]
    refine ⟨by decide, fun h ↦ ?_⟩
    rcases Stamp.isDigit_or_colon_of_mem_toChars h with h | h
    · exact absurd h (by decide)
    · exact absurd h (by decide)
  have hpause : Text.contains "PauseLine".toList cs = true :=
    Text.contains_iff.2 ⟨[], _, hcs⟩
  have hstamp : Stamp.find? cs = some (seconds % 360000) := by
    have hlead : ∀ c ∈ "PauseLine: ".toList, Text.isDecimal c = false := by decide
    have := Stamp.find?_append_toChars hlead seconds []
    rwa [List.append_nil, hcs] at this
  have hepisode : Text.dropWord? "episode:".toList cs = none := by rw [← hcs]; rfl
  have hchapter : Text.dropWord? "chapter:".toList cs = none := by rw [← hcs]; rfl
  have hsample : backgroundSample? cs = none := by
    rw [backgroundSample?, hbackground]
    rfl
  have hshorthand : backgroundShorthand? cs = none := by rw [← hcs]; rfl
  have hread : pauseLine? cs = some (seconds % 360000) := by
    rw [pauseLine?, if_pos hpause, hstamp, Option.getD_some]
  simp only [read, forms, List.findSome?_cons, hepisode, hchapter, hsample, hshorthand, hread,
    Option.map_none, Option.map_some, Option.getD_some]

/-! ### Lines -/

/-- A code is read up to the first character that cannot stand in one. -/
theorem code?_append {code rest : List Char} (hne : code ≠ [])
    (hcode : ∀ c ∈ code, isCodeChar c = true) (hrest : ∀ c ∈ rest.head?, isCodeChar c = false) :
    code? (code ++ rest) = some (code, rest.head? == some '[' && rest.contains ']') := by
  have htake : rest.takeWhile isCodeChar = [] := by
    cases rest with
    | nil => rfl
    | cons c rest => simp [hrest c rfl]
  have hdrop : rest.dropWhile isCodeChar = rest := by
    cases rest with
    | nil => rfl
    | cons c rest => simp [hrest c rfl]
  rw [code?, List.takeWhile_append_of_pos hcode, List.dropWhile_append_of_pos hcode, htake, hdrop,
    List.append_nil, if_neg hne]

/-- The suffix of a code in the script. -/
def suffix (partnerSpecific : Bool) : List Char :=
  if partnerSpecific then Code.partnerSuffix.toList else []

/-- A word without brackets occurs in a code with its suffix only if it occurs in the code or is a
part of the suffix. -/
theorem infix_append_suffix_iff {word code : List Char} (hword : '[' ∉ word)
    (hslug : ¬ word <:+: "Slug]".toList) (partnerSpecific : Bool) :
    word <:+: code ++ suffix partnerSpecific ↔ word <:+: code := by
  cases partnerSpecific with
  | false => simp [suffix]
  | true =>
    change word <:+: code ++ '[' :: "Slug]".toList ↔ _
    rw [Text.infix_append_cons_iff hword, or_iff_left hslug]

/-- A keyword of a line's statement. -/
def IsSampleWord (keyword : String) : Prop :=
  keyword = "SampleLine" ∨ keyword = "DynamicSampleLine"

instance (keyword : String) : Decidable (IsSampleWord keyword) :=
  inferInstanceAs (Decidable (_ ∨ _))

/-- A line's statement is read in the same way behind either keyword. -/
theorem sampleHere?_word {keyword : String} (hkeyword : IsSampleWord keyword) (tail : List Char) :
    sampleHere? (keyword.toList ++ tail) =
      (Text.dropPrefix? [':'] tail).bind fun rest ↦
        (assignment? "Code".toList (Text.trimStart rest)).bind code? := by
  rcases hkeyword with rfl | rfl
  · change ((Text.dropPrefix? [':'] tail).or none).bind _ = _
    rw [Option.or_none]
    rfl
  · rfl

/-- Behind a keyword and a colon the code is read from its assignment. -/
theorem sampleHere?_keyword {keyword : String} (hkeyword : IsSampleWord keyword)
    (rest : List Char) :
    sampleHere? (keyword.toList ++ ':' :: rest) =
      (assignment? "Code".toList (Text.trimStart rest)).bind code? :=
  sampleHere?_word hkeyword (':' :: rest)

/-- The front of a line's statement is read up to its code. -/
theorem sampleHere?_append {keyword : String} (hkeyword : IsSampleWord keyword)
    {rest : List Char} (hrest : Text.NoBlankFirst rest) :
    sampleHere? (keyword.toList ++ (": Code=".toList ++ rest)) = code? rest := by
  have hassign : assignment? "Code".toList ("Code".toList ++ '=' :: rest) = some rest :=
    assignment?_append _ hrest
  have htrim : Text.trimStart (" Code=".toList ++ rest) = "Code".toList ++ '=' :: rest := rfl
  have hread := sampleHere?_keyword hkeyword (" Code=".toList ++ rest)
  rwa [htrim, hassign, Option.bind_some] at hread

/-- A word without the marks of a line's statement occurs in it only if it occurs in its keyword, in
the name of its field, in the suffix or in the code. -/
theorem contains_sampleLine {word code : List Char} {keyword : String}
    (hmarks : ':' ∉ word ∧ '=' ∉ word ∧ '[' ∉ word) (hkeyword : ¬ word <:+: keyword.toList)
    (hfield : ¬ word <:+: " Code".toList) (hslug : ¬ word <:+: "Slug]".toList)
    (hcode : ¬ word <:+: code) (partnerSpecific : Bool) :
    Text.contains word (keyword.toList ++ (": Code=".toList ++ (code ++ suffix partnerSpecific))) =
      false := by
  have hsplit : keyword.toList ++ (": Code=".toList ++ (code ++ suffix partnerSpecific)) =
      keyword.toList ++ ':' :: (" Code".toList ++ '=' :: (code ++ suffix partnerSpecific)) := rfl
  obtain ⟨hcolon, hequals, hbracket⟩ := hmarks
  rw [Text.contains_eq_false_iff, hsplit, Text.infix_append_cons_iff hcolon,
    Text.infix_append_cons_iff hequals, infix_append_suffix_iff hbracket hslug]
  rintro (h | h | h)
  · exact hkeyword h
  · exact hfield h
  · exact hcode h

/-- The statement of a line is read as such, with its code and its partner flag. -/
theorem sampleLine?_append {keyword : String} (hkeyword : IsSampleWord keyword) {code : List Char}
    (hne : code ≠ []) (hplain : Code.Plain code) (partnerSpecific : Bool) :
    sampleLine? (keyword.toList ++ (": Code=".toList ++ (code ++ suffix partnerSpecific))) =
      some { code, partnerSpecific } := by
  have hchars : ∀ c ∈ code, isCodeChar c = true := fun c hc ↦ isCodeChar_iff.2 (hplain.chars c hc)
  have hcode : code? (code ++ suffix partnerSpecific) = some (code, partnerSpecific) := by
    rw [code?_append hne hchars]
    · cases partnerSpecific <;> rfl
    · cases partnerSpecific with
      | false => simp [suffix]
      | true =>
        intro c hc
        cases hc
        rfl
  have hfirst : Text.NoBlankFirst (code ++ suffix partnerSpecific) := by
    apply Text.NoBlankFirst.append _ hne
    intro c hc
    exact (hplain.chars c (List.mem_of_head? hc)).1
  rw [sampleLine?, sampleHere?_append hkeyword hfirst, hcode, Option.some_or, Option.map_some]

/-- The words at which a line starts that a form before the statement of a line claims. -/
def shorthandWords : List String := ["episode:", "chapter:", "background", "pause:", "pauza:"]

/-- The forms of lines, which are tried last. -/
def lineForms : List (List Char → Option Statement) :=
  [fun cs ↦ (sampleLine? cs).map coded,
   fun cs ↦ (compact? cs).map coded,
   fun cs ↦ (roleWithCode? cs).map coded,
   fun cs ↦ (roleWithoutCode? cs).map fun (role, content) ↦ spoken role content cs]

/-- The forms of lines count where no form that is tried before claims the line. -/
theorem read_of_unclaimed {cs : List Char}
    (hwords : ∀ word ∈ shorthandWords, Text.dropWord? word.toList cs = none)
    (hbackground : Text.contains "BackgroundSampleLine".toList cs = false)
    (hpause : Text.contains "PauseLine".toList cs = false) :
    read cs = (lineForms.findSome? fun form ↦ form cs).getD (narration cs) := by
  have hepisode : Text.dropWord? "episode:".toList cs = none := hwords _ (by decide)
  have hchapter : Text.dropWord? "chapter:".toList cs = none := hwords _ (by decide)
  have hsample : backgroundSample? cs = none := by
    rw [backgroundSample?, hbackground]
    rfl
  have hshorthand : backgroundShorthand? cs = none := by
    rw [backgroundShorthand?, hwords _ (by decide), Option.map_none]
  have hlength : pauseLine? cs = none := by
    rw [pauseLine?, hpause]
    rfl
  have hseconds : pauseShorthand? cs = none := by
    rw [pauseShorthand?, hwords _ (by decide), hwords _ (by decide)]
    rfl
  have hsplit : forms = forms.take 6 ++ lineForms := rfl
  have hearlier : (forms.take 6).findSome? (fun form ↦ form cs) = none := by
    simp only [forms, List.take_succ_cons, List.take_zero, List.findSome?_cons, List.findSome?_nil,
      hepisode, hchapter, hsample, hshorthand, hlength, hseconds, Option.map_none]
  rw [read, hsplit, List.findSome?_append, hearlier, Option.none_or]

/-- The statement of a line counts where no form that is tried before claims the line. -/
theorem read_of_sampleLine? {cs : List Char} {line : CodedLine}
    (hwords : ∀ word ∈ shorthandWords, Text.dropWord? word.toList cs = none)
    (hbackground : Text.contains "BackgroundSampleLine".toList cs = false)
    (hpause : Text.contains "PauseLine".toList cs = false) (hline : sampleLine? cs = some line) :
    read cs = coded line := by
  rw [read_of_unclaimed hwords hbackground hpause]
  simp only [lineForms, List.findSome?_cons, hline, Option.map_some, Option.getD_some]

/-- The statement of a line is read back as a line with the same code and the same partner flag. -/
theorem read_sampleLine {keyword : String}
    (hkeyword : keyword = "SampleLine" ∨ keyword = "DynamicSampleLine") {code : List Char}
    (hne : code ≠ []) (hplain : Code.Plain code) (partnerSpecific : Bool) :
    read (keyword.toList ++ (": Code=".toList ++ (code ++ suffix partnerSpecific))) =
      coded { code, partnerSpecific } := by
  have hread := sampleLine?_append hkeyword hne hplain partnerSpecific
  have hbackground : ¬ "BackgroundSampleLine".toList <:+: keyword.toList := by
    rcases hkeyword with rfl | rfl <;> exact Text.contains_eq_false_iff.1 rfl
  have hpause : ¬ "PauseLine".toList <:+: keyword.toList := by
    rcases hkeyword with rfl | rfl <;> exact Text.contains_eq_false_iff.1 rfl
  have hnoBackground := contains_sampleLine (by decide) hbackground
    (Text.contains_eq_false_iff.1 rfl) (Text.contains_eq_false_iff.1 rfl) hplain.noBackground
    partnerSpecific
  have hnoPause := contains_sampleLine (by decide) hpause (Text.contains_eq_false_iff.1 rfl)
    (Text.contains_eq_false_iff.1 rfl) hplain.noPause partnerSpecific
  have hwords : ∀ word ∈ shorthandWords, Text.dropWord? word.toList
      (keyword.toList ++ (": Code=".toList ++ (code ++ suffix partnerSpecific))) = none := by
    intro word hword
    simp only [shorthandWords, List.mem_cons, List.not_mem_nil, or_false] at hword
    rcases hkeyword with rfl | rfl <;> rcases hword with rfl | rfl | rfl | rfl | rfl <;> rfl
  exact read_of_sampleLine? hwords hnoBackground hnoPause hread

end Statement

end Storyline
