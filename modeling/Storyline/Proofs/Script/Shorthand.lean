import Mathlib.Data.List.TakeWhile
import Storyline.Proofs.Lector
import Storyline.Proofs.Script.Guarantee
import Storyline.Proofs.Text.Letter

/-!
# Reading shorthand

What the lines that authors type say. A line that starts with the plain name of a lector is read as
one of this lector, with the code that it has in parentheses. Only two things come in between: a
parenthesis within the code, and a canonical statement in the text, which goes before.
-/

namespace Storyline.Statement

/-! ### Episodes -/

/-- An episode is read back with its title. -/
theorem read_episode (title : List Char) :
    read ("Episode:".toList ++ title) = episode (Text.trim title) := rfl

/-! ### Backgrounds -/

/-- The statement of the saved script goes before the shorthand. -/
theorem read_of_backgroundSample? {fields : List Char} {cue : Background}
    (h : backgroundSample? ("Background:".toList ++ fields) = some cue) :
    read ("Background:".toList ++ fields) = background cue := by
  have hepisode : Text.dropWord? "episode:".toList ("Background:".toList ++ fields) = none := rfl
  have hchapter : Text.dropWord? "chapter:".toList ("Background:".toList ++ fields) = none := rfl
  simp only [read, forms, List.findSome?_cons, hepisode, hchapter, h, Option.map_none,
    Option.map_some, Option.getD_some]

/-- What is no such statement is read as the shorthand. -/
theorem read_of_backgroundShorthand? {fields : List Char} {cue : Background}
    (hsample : backgroundSample? ("Background:".toList ++ fields) = none)
    (h : backgroundShorthand? ("Background:".toList ++ fields) = some cue) :
    read ("Background:".toList ++ fields) = background cue := by
  have hepisode : Text.dropWord? "episode:".toList ("Background:".toList ++ fields) = none := rfl
  have hchapter : Text.dropWord? "chapter:".toList ("Background:".toList ++ fields) = none := rfl
  simp only [read, forms, List.findSome?_cons, hepisode, hchapter, hsample, h, Option.map_none,
    Option.map_some, Option.getD_some]

/-- What starts with the word for a background is read as one. -/
theorem exists_read_backgroundShorthand (fields : List Char) :
    ∃ cue, read ("Background:".toList ++ fields) = background cue := by
  obtain ⟨cue, hcue⟩ : ∃ cue, backgroundShorthand? ("Background:".toList ++ fields) = some cue :=
    ⟨_, rfl⟩
  cases hsample : backgroundSample? ("Background:".toList ++ fields) with
  | some found => exact ⟨found, read_of_backgroundSample? hsample⟩
  | none => exact ⟨cue, read_of_backgroundShorthand? hsample hcue⟩

/-- The keyword of the saved script occurs in the shorthand of a background only within a field. -/
theorem infix_backgroundShorthand_iff {name stamp : List Char} :
    "BackgroundSampleLine".toList <:+:
        "Background:".toList ++ (' ' :: name ++ ':' :: ' ' :: stamp) ↔
      "BackgroundSampleLine".toList <:+: name ∨ "BackgroundSampleLine".toList <:+: stamp := by
  have hsplit : "Background:".toList ++ (' ' :: name ++ ':' :: ' ' :: stamp) =
      "Background".toList ++ ':' :: ([] ++ ' ' :: (name ++ ':' :: ([] ++ ' ' :: stamp))) := rfl
  have hword : ¬ "BackgroundSampleLine".toList <:+: "Background".toList :=
    Text.contains_eq_false_iff.1 rfl
  have hempty : ¬ "BackgroundSampleLine".toList <:+: [] := Text.contains_eq_false_iff.1 rfl
  rw [hsplit, Text.infix_append_cons_iff (by decide), Text.infix_append_cons_iff (by decide),
    Text.infix_append_cons_iff (by decide), Text.infix_append_cons_iff (by decide)]
  simp only [hword, hempty, false_or]

/-- The shorthand of a background is no statement of the saved script if neither of its fields makes
it one. -/
theorem backgroundSample?_shorthand {name stamp : List Char}
    (hname : ¬ "BackgroundSampleLine".toList <:+: name)
    (hstamp : ¬ "BackgroundSampleLine".toList <:+: stamp) :
    backgroundSample? ("Background:".toList ++ (' ' :: name ++ ':' :: ' ' :: stamp)) = none := by
  rw [backgroundSample?, if_neg]
  rw [Text.contains_iff, infix_backgroundShorthand_iff]
  exact not_or.2 ⟨hname, hstamp⟩

/-- The fields of the shorthand are parted by the first colon. -/
theorem backgroundShorthand?_append_colon {name stamp : List Char} (hcolon : ':' ∉ name)
    (hne : Text.trim stamp ≠ []) :
    backgroundShorthand? ("Background:".toList ++ (name ++ ':' :: stamp)) =
      some
        { name := String.ofList (Text.trim name)
          fadeIn := String.ofList (Text.trim stamp) } := by
  have hfront : ∀ c ∈ name, (c != ':') = true := fun c hc ↦
    bne_iff_ne.2 (ne_of_mem_of_not_mem hc hcolon)
  have hfirst : (name ++ ':' :: stamp).takeWhile (· != ':') = name := by
    rw [List.takeWhile_append_of_pos hfront, List.takeWhile_cons_of_neg (by decide),
      List.append_nil]
  have hsecond : afterColon (name ++ ':' :: stamp) = stamp := by
    rw [afterColon, List.dropWhile_append_of_pos hfront, List.dropWhile_cons_of_neg (by decide),
      List.drop_one, List.tail_cons]
  generalize name ++ ':' :: stamp = fields at hfirst hsecond
  have hword : Text.dropWord? "background".toList ("Background:".toList ++ fields) =
      some (':' :: fields) := rfl
  have hrest : afterColon ("Background:".toList ++ fields) = fields := rfl
  rw [backgroundShorthand?, hword, Option.map_some, hrest]
  simp only [hfirst, hsecond, if_neg hne]

/-- The shorthand of a background is read back with its name and its stamp. -/
theorem read_backgroundShorthand {name stamp : List Char} (hname : Text.Clean name)
    (hcolon : ':' ∉ name) (hnameMark : ¬ "BackgroundSampleLine".toList <:+: name)
    (hstamp : Text.Clean stamp) (hne : stamp ≠ [])
    (hstampMark : ¬ "BackgroundSampleLine".toList <:+: stamp) :
    read ("Background:".toList ++ (' ' :: name ++ ':' :: ' ' :: stamp)) =
      background { name := String.ofList name, fadeIn := String.ofList stamp } := by
  have hspace : ':' ∉ ' ' :: name := by simpa using hcolon
  have htrim : Text.trim (' ' :: stamp) ≠ [] := by rwa [Text.trim_space, hstamp.trimmed]
  have hshorthand := backgroundShorthand?_append_colon hspace htrim
  rw [Text.trim_space, Text.trim_space, hname.trimmed, hstamp.trimmed] at hshorthand
  exact read_of_backgroundShorthand? (backgroundSample?_shorthand hnameMark hstampMark) hshorthand

/-! ### Pauses -/

/-- The shorthand of a pause is read back with its length. -/
theorem read_pauseShorthand (seconds : UInt32) :
    read ("Pause: ".toList ++ Nat.toDigits 10 seconds.toNat) = pause seconds := by
  have hdigits : ∀ c ∈ Nat.toDigits 10 seconds.toNat, c.isDigit = true :=
    fun c hc ↦ Nat.isDigit_of_mem_toDigits (by decide) (by decide) hc
  have hread := Text.seconds?_toDigits seconds
  generalize Nat.toDigits 10 seconds.toNat = digits at hdigits hread
  -- no letter of a mark is a digit, and the word in front has not all of them
  have hmark : ∀ word : List Char, 'L' ∈ word →
      Text.contains word ("Pause: ".toList ++ digits) = false := by
    intro word hword
    refine Text.contains_eq_false_iff.2 (Text.not_infix_of_notMem hword ?_)
    rw [List.mem_append, not_or]
    exact ⟨by decide, fun h ↦ absurd (hdigits _ h) (by decide)⟩
  have hsample : backgroundSample? ("Pause: ".toList ++ digits) = none := by
    rw [backgroundSample?, hmark _ (by decide)]
    rfl
  have hpause : pauseLine? ("Pause: ".toList ++ digits) = none := by
    rw [pauseLine?, hmark _ (by decide)]
    rfl
  have htrim : Text.trim (' ' :: digits) = digits := by
    have hclean : Text.Clean digits := Text.clean_of_forall fun c hc ↦
      Text.isBlank_of_isDecimal (Text.isDecimal_of_isDigit (hdigits c hc))
    rw [Text.trim_space, hclean.trimmed]
  have hseconds : pauseShorthand? ("Pause: ".toList ++ digits) = some seconds := by
    have hword : Text.dropWord? "pause:".toList ("Pause: ".toList ++ digits) =
        some (' ' :: digits) := rfl
    rw [pauseShorthand?, hword, Option.some_or, Option.map_some, htrim, hread, Option.getD_some]
  have hepisode : Text.dropWord? "episode:".toList ("Pause: ".toList ++ digits) = none := rfl
  have hchapter : Text.dropWord? "chapter:".toList ("Pause: ".toList ++ digits) = none := rfl
  have hshorthand : backgroundShorthand? ("Pause: ".toList ++ digits) = none := rfl
  simp only [read, forms, List.findSome?_cons, hepisode, hchapter, hsample, hshorthand, hpause,
    hseconds, Option.map_none, Option.map_some, Option.getD_some]

/-! ### Lines -/

/-- What stands between the name of a speaker and the text of a line: the code in parentheses, if
there is one, and a colon. -/
def label : Option (List Char) → List Char
  | none => [':']
  | some code => ' ' :: '(' :: (code ++ [')', ':'])

/-- A label ends with its colon. -/
theorem exists_label_concat (code : Option (List Char)) : ∃ init, label code = init ++ [':'] := by
  cases code with
  | none => exact ⟨[], rfl⟩
  | some c => exact ⟨' ' :: '(' :: (c ++ [')']), by simp [label]⟩

section Line

variable {name rest : List Char} {code : Option (List Char)}

/-- A word without the marks of a label occurs in a labelled line only in the name, in the code or
in the text. -/
theorem infix_label {word : List Char}
    (hmarks : ' ' ∉ word ∧ '(' ∉ word ∧ ')' ∉ word ∧ ':' ∉ word)
    (h : word <:+: name ++ (label code ++ rest)) :
    word <:+: name ∨ (∃ c ∈ code, word <:+: c) ∨ word <:+: rest := by
  obtain ⟨hspace, hopen, hclose, hcolon⟩ := hmarks
  have hempty : word <:+: [] → word <:+: name := fun hw ↦ by
    rw [List.infix_nil.1 hw]
    exact List.nil_infix
  cases code with
  | none =>
    have hsplit : name ++ (label none ++ rest) = name ++ ':' :: rest := rfl
    rw [hsplit, Text.infix_append_cons_iff hcolon] at h
    exact h.imp_right Or.inr
  | some c =>
    have hsplit : name ++ (label (some c) ++ rest) =
        name ++ ' ' :: ([] ++ '(' :: (c ++ ')' :: ([] ++ ':' :: rest))) := by
      simp [label]
    rw [hsplit, Text.infix_append_cons_iff hspace, Text.infix_append_cons_iff hopen,
      Text.infix_append_cons_iff hclose, Text.infix_append_cons_iff hcolon] at h
    rcases h with h | h | h | h | h
    · exact Or.inl h
    · exact Or.inl (hempty h)
    · exact Or.inr (Or.inl ⟨c, rfl, h⟩)
    · exact Or.inl (hempty h)
    · exact Or.inr (Or.inr h)

/-- A labelled line has no mark that is not in its text. -/
theorem unmarked_label (hname : Lector.PlainName name) (hcode : ∀ c ∈ code, Code.Plain c)
    (hrest : Unmarked rest) : Unmarked (name ++ (label code ++ rest)) where
  noBackground := by
    intro h
    rcases infix_label (by decide) h with h | ⟨c, hc, h⟩ | h
    · exact hname.noSample (List.IsInfix.trans ⟨"Background".toList, [], rfl⟩ h)
    · exact (hcode c hc).noBackground h
    · exact hrest.noBackground h
  noPause := by
    intro h
    rcases infix_label (by decide) h with h | ⟨c, hc, h⟩ | h
    · exact hname.noPause h
    · exact (hcode c hc).noPause h
    · exact hrest.noPause h

/-- A labelled line does not start with a word of another form. -/
theorem dropWord?_label (hname : Lector.PlainName name) :
    ∀ word ∈ shorthandWords, Text.dropWord? word.toList (name ++ (label code ++ rest)) = none := by
  have hcolon : ':' ∉ name := fun h ↦ (hname.chars _ h).2.2 rfl
  have hreserved : ∀ word ∈ Lector.reservedWords,
      Text.dropWord? (word.toList ++ [':']) (name ++ (label code ++ rest)) = none := by
    intro word hword
    have hletters : ∀ word ∈ Lector.reservedWords, ':' ∉ word.toList ∧ ' ' ∉ word.toList := by
      decide
    cases code with
    | none =>
      have hapart := hname.noWord word hword
      rw [label, List.singleton_append, Text.dropWord?_concat (by decide) (hletters word hword).1
        hcolon, hapart, if_neg (by decide)]
    | some c =>
      have hspace : ' ' ∉ word.toList ++ [':'] := by
        simpa using (hletters word hword).2
      exact Text.dropWord?_append_cons (by decide) hspace
        (Text.dropWord?_eq_none_of_notMem (d := ':') (by decide) (by simp) hcolon) _
  intro word hword
  simp only [shorthandWords, List.mem_cons, List.not_mem_nil, or_false] at hword
  rcases hword with rfl | rfl | rfl | rfl | rfl
  · exact hreserved "episode" (by decide)
  · exact hreserved "chapter" (by decide)
  · cases code with
    | none => exact Text.dropWord?_append_cons (by decide) (by decide) hname.noBackground _
    | some c => exact Text.dropWord?_append_cons (by decide) (by decide) hname.noBackground _
  · exact hreserved "pause" (by decide)
  · exact hreserved "pauza" (by decide)

/-- A statement of a line starts with one of two words. -/
theorem sampleHere?_eq_none {cs : List Char}
    (h : ∀ word, IsSampleWord word → Text.dropPrefix? word.toList cs = none) :
    sampleHere? cs = none := by
  rw [Option.eq_none_iff_forall_ne_some]
  intro found hfound
  obtain ⟨word, hword, rest, rfl⟩ := exists_keyword_of_sampleHere? hfound
  have hnone := h word hword
  rw [Text.dropPrefix?_append] at hnone
  exact absurd hnone (by simp)

/-- A text without the word for the statement of a line has no such statement. -/
theorem sampleHere?_of_not_infix {cs : List Char} (h : ¬ "SampleLine".toList <:+: cs) :
    sampleHere? cs = none := by
  refine sampleHere?_eq_none fun word hword ↦ ?_
  rw [Option.eq_none_iff_forall_ne_some]
  intro rest hrest
  have hcs := Text.dropPrefix?_eq_some_iff.1 hrest
  apply h
  rcases hword with rfl | rfl
  · exact ⟨[], rest, hcs.symm⟩
  · exact ⟨"Dynamic".toList, rest, hcs.symm⟩

/-- A text without the word for the statement of a line contains no such statement. -/
theorem sampleLine?_of_not_infix {cs : List Char} (h : ¬ "SampleLine".toList <:+: cs) :
    sampleLine? cs = none := by
  have hplace : ∀ rest, rest <:+ cs → sampleHere? rest = none := fun rest hrest ↦
    sampleHere?_of_not_infix fun hword ↦ h (hword.trans hrest.isInfix)
  rw [sampleLine?, hplace cs (List.suffix_refl cs), Text.findAfterBlank?_eq_none hplace]
  rfl

/-- No statement of a line starts within a plain name. -/
theorem sampleHere?_of_suffix (hname : Lector.PlainName name) {c : Char} (hc : c = ' ' ∨ c = ':')
    {front : List Char} (hfront : front <:+ name) (rest : List Char) :
    sampleHere? (front ++ c :: rest) = none := by
  refine sampleHere?_eq_none fun word hword ↦ ?_
  have hboundary : c ∉ word.toList ∧ "SampleLine".toList <:+: word.toList := by
    rcases hword with rfl | rfl
    · rcases hc with rfl | rfl <;> exact ⟨by decide, List.infix_refl _⟩
    · rcases hc with rfl | rfl <;> exact ⟨by decide, "Dynamic".toList, [], rfl⟩
  rw [List.append_cons]
  refine Text.dropPrefix?_eq_none_of_suffix hboundary.1
    (fun h ↦ hname.noSample (hboundary.2.trans h)) ?_ (by simp)
  obtain ⟨init, rfl⟩ := hfront
  exact ⟨init, by simp⟩

/-- Behind the name comes a character that stands in no keyword. -/
theorem exists_label_eq (code : Option (List Char)) (rest : List Char) :
    ∃ d after, (d = ' ' ∨ d = ':') ∧ label code ++ rest = d :: after := by
  cases code with
  | none => exact ⟨':', rest, Or.inr rfl, rfl⟩
  | some c => exact ⟨' ', '(' :: (c ++ [')', ':']) ++ rest, Or.inl rfl, rfl⟩

/-- The statement of a line within a labelled line is one in its text. -/
theorem sampleLine?_label (hname : Lector.PlainName name) (hcode : ∀ c ∈ code, Code.Plain c) :
    sampleLine? (name ++ (label code ++ rest)) =
      (Text.findAfterBlank? sampleHere? rest).map fun (code, partnerSpecific) ↦
        { code, partnerSpecific } := by
  obtain ⟨d, after, hd, hlabel⟩ := exists_label_eq code rest
  have hstart : sampleHere? (name ++ (label code ++ rest)) = none := by
    rw [hlabel]
    exact sampleHere?_of_suffix hname hd (List.suffix_refl name) _
  have hpassName : Text.findAfterBlank? sampleHere? (name ++ (label code ++ rest)) =
      Text.findAfterBlank? sampleHere? (label code ++ rest) := by
    apply Text.findAfterBlank?_append
    intro c front hfront _
    rw [hlabel]
    exact sampleHere?_of_suffix hname hd ((List.suffix_cons c front).trans hfront) _
  have hpassLabel : Text.findAfterBlank? sampleHere? (label code ++ rest) =
      Text.findAfterBlank? sampleHere? rest := by
    apply Text.findAfterBlank?_append
    intro c front hfront hblank
    cases code with
    | none =>
      obtain ⟨init, hinit⟩ := hfront
      have hmem : c ∈ [':'] := by
        rw [← label, ← hinit]
        simp
      rw [List.mem_singleton.1 hmem] at hblank
      exact absurd hblank (by decide)
    | some code =>
      rcases List.suffix_cons_iff.1 hfront with hfront | hfront
      · obtain ⟨-, rfl⟩ := List.cons.inj hfront
        rfl
      · -- only the first character of the label is blank
        have hmem : c ∈ '(' :: (code ++ [')', ':']) := hfront.subset List.mem_cons_self
        simp only [List.mem_cons, List.mem_append, List.not_mem_nil, or_false] at hmem
        rcases hmem with rfl | hmem | rfl | rfl
        · exact absurd hblank (by decide)
        · simp [((hcode code rfl).chars c hmem).1] at hblank
        · exact absurd hblank (by decide)
        · exact absurd hblank (by decide)
  rw [sampleLine?, hstart, Option.none_or, hpassName, hpassLabel]

/-- A labelled line does not start with a code. -/
theorem compact?_label (hname : Lector.PlainName name) :
    compact? (name ++ (label code ++ rest)) = none := by
  obtain ⟨d, after, hd, hlabel⟩ := exists_label_eq code rest
  rw [hlabel, Option.eq_none_iff_forall_ne_some]
  intro line hline
  obtain ⟨found, text, hfound, hsplit, -⟩ := compact?_eq_some_iff.1 hline
  rcases List.append_eq_append_iff.1 hsplit with ⟨more, rfl, hmore⟩ | ⟨more, rfl, hmore⟩
  · cases more with
    | nil => exact hname.noCode (by simpa using hfound)
    | cons c more =>
      -- what looks like a code would reach over the end of the name
      obtain rfl := (List.cons.inj hmore).1
      have hmem : d ∈ (name ++ d :: more).tail := by
        rw [List.tail_append_of_ne_nil hname.ne_nil]
        simp
      have hdecimal := hfound.2.2 d hmem
      rcases hd with rfl | rfl <;> exact absurd hdecimal (by decide)
  · cases more with
    | nil => exact hname.noCode (by simpa using hfound)
    | cons c more =>
      obtain rfl := (List.cons.inj hmore).1
      exact (hname.chars ':' (by simp)).2.2 rfl

/-! #### Roles -/

private theorem isRoleChar_iff {c : Char} : isRoleChar c = true ↔ c ≠ '(' ∧ c ≠ ')' ∧ c ≠ ':' := by
  simp [isRoleChar, and_assoc]

/-- Only a parenthesis ends what stands between parentheses. -/
theorem isInnerChar_iff {c : Char} : isInnerChar c = true ↔ c ≠ '(' ∧ c ≠ ')' := by
  simp [isInnerChar]

private theorem all_isRoleChar (hname : Lector.PlainName name) : ∀ c ∈ name, isRoleChar c = true :=
  fun c hc ↦ isRoleChar_iff.2 (hname.chars c hc)

/-- A labelled line without a code is read up to its colon. -/
theorem roleWithoutCode?_label (hname : Lector.PlainName name) :
    roleWithoutCode? (name ++ (label none ++ rest)) = some (name, Text.trim rest) := by
  have hrole := all_isRoleChar hname
  have htake : (name ++ (label none ++ rest)).takeWhile isRoleChar = name := by
    rw [List.takeWhile_append_of_pos hrole]
    simp [label, isRoleChar]
  have hdrop : (name ++ (label none ++ rest)).dropWhile isRoleChar = ':' :: rest := by
    rw [List.dropWhile_append_of_pos hrole]
    rfl
  rw [roleWithoutCode?, htake, hdrop, if_neg hname.ne_nil]
  rfl

/-- No character of the name or of the space behind it ends the role. -/
theorem all_isRoleChar_space (hname : Lector.PlainName name) :
    ∀ c ∈ name ++ [' '], isRoleChar c = true := by
  intro c hc
  rcases List.mem_append.1 hc with hc | hc
  · exact all_isRoleChar hname c hc
  · rw [List.mem_singleton.1 hc]
    rfl

/-- The role of a labelled line with a code ends at the parenthesis. -/
theorem role_label (hname : Lector.PlainName name) (c rest : List Char) :
    (name ++ (label (some c) ++ rest)).takeWhile isRoleChar = name ++ [' '] ∧
      (name ++ (label (some c) ++ rest)).dropWhile isRoleChar =
        '(' :: (c ++ ("):".toList ++ rest)) := by
  have hrole := all_isRoleChar_space hname
  have hsplit : name ++ (label (some c) ++ rest) =
      (name ++ [' ']) ++ '(' :: (c ++ ("):".toList ++ rest)) := by
    simp [label]
  rw [hsplit, List.takeWhile_append_of_pos hrole, List.dropWhile_append_of_pos hrole]
  exact ⟨by simp [isRoleChar], rfl⟩

/-- A labelled line with a code is not one without. -/
theorem roleWithoutCode?_label_some (hname : Lector.PlainName name) (c : List Char) :
    roleWithoutCode? (name ++ (label (some c) ++ rest)) = none := by
  obtain ⟨htake, hdrop⟩ := role_label hname c rest
  rw [roleWithoutCode?, htake, hdrop]
  simp [Text.dropPrefix?]

/-- A labelled line without a code is not one with a code. -/
theorem roleWithCode?_label_none (hname : Lector.PlainName name) :
    roleWithCode? (name ++ (label none ++ rest)) = none := by
  have hdrop : (name ++ (label none ++ rest)).dropWhile isRoleChar = ':' :: rest := by
    rw [List.dropWhile_append_of_pos (all_isRoleChar hname)]
    rfl
  rw [roleWithCode?, hdrop]
  simp [Text.dropPrefix?]

/-- A labelled line is read with its code if no parenthesis stands in it. -/
theorem roleWithCode?_label (hname : Lector.PlainName name) {c : List Char} (hne : c ≠ [])
    (hplain : Code.Plain c) (hparen : ∀ d ∈ c, isInnerChar d = true) :
    roleWithCode? (name ++ (label (some c) ++ rest)) =
      some { code := c, partnerSpecific := false, role := some (name ++ [' '])
             content := Text.trim rest } := by
  have hcode : code? c = some (c, false) := by
    have hread : code? (c ++ []) = some (c, false) :=
      code?_append hne (fun d hd ↦ isCodeChar_iff.2 (hplain.chars d hd)) (by simp)
    rwa [List.append_nil] at hread
  have hat : CodeAt c c false := code?_eq_some_iff.1 hcode
  have hform : RoleForm (name ++ (label (some c) ++ rest)) (name ++ [' ']) c rest :=
    ⟨by simp [label], by simp, all_isRoleChar_space hname, hparen,
      exists_codeAt_iff.1 ⟨c, false, hat⟩⟩
  exact hform.roleWithCode? hat

/-- The code that is read between parentheses has none. -/
theorem isInnerChar_of_roleWithCode? {cs : List Char} {line : CodedLine}
    (h : roleWithCode? cs = some line) : ∀ d ∈ line.code, isInnerChar d = true := by
  obtain ⟨role, inner, rest, code, partnerSpecific, hform, hcode, rfl⟩ :=
    roleWithCode?_eq_some_iff.1 h
  exact fun d hd ↦ hform.inner_chars d (hcode.run.front.subset hd)

/-- The name, the code and the text of a labelled line can be told from it. -/
theorem label_inj {name name' rest rest' : List Char} {code code' : Option (List Char)}
    (hname : Lector.PlainName name) (hname' : Lector.PlainName name')
    (hcode : ∀ c ∈ code, Code.Plain c) (hcode' : ∀ c ∈ code', Code.Plain c)
    (h : name ++ (label code ++ ' ' :: rest) = name' ++ (label code' ++ ' ' :: rest')) :
    name = name' ∧ code = code' ∧ rest = rest' := by
  -- a line without a code is read by its role, one with a code is not
  have hapart : ∀ {name name' : List Char}, Lector.PlainName name → Lector.PlainName name' →
      ∀ {c rest rest' : List Char},
        name ++ (label none ++ rest) ≠ name' ++ (label (some c) ++ rest') := by
    intro name name' hname hname' c rest rest' heq
    have hread : roleWithoutCode? (name ++ (label none ++ rest)) = some (name, Text.trim rest) :=
      roleWithoutCode?_label hname
    rw [heq, roleWithoutCode?_label_some hname'] at hread
    exact absurd hread (by simp)
  cases code with
  | none =>
    cases code' with
    | none =>
      have hcolon : ∀ {name : List Char}, Lector.PlainName name → ':' ∉ name :=
        fun hname hmem ↦ (hname.chars _ hmem).2.2 rfl
      obtain ⟨rfl, hrest⟩ := (Text.append_cons_inj (hcolon hname) (hcolon hname')).1 h
      exact ⟨rfl, rfl, (List.cons.inj hrest).2⟩
    | some c' => exact absurd h (hapart hname hname')
  | some c =>
    cases code' with
    | none => exact absurd h.symm (hapart hname' hname)
    | some c' =>
      have hspace : ∀ {c : List Char}, Code.Plain c → ' ' ∉ c ++ "):".toList := by
        intro c hc hmem
        rcases List.mem_append.1 hmem with hmem | hmem
        · exact absurd (hc.chars _ hmem).1 (by decide)
        · exact absurd hmem (by decide)
      obtain ⟨htake, hdrop⟩ := role_label hname c (' ' :: rest)
      obtain ⟨htake', hdrop'⟩ := role_label hname' c' (' ' :: rest')
      rw [h, htake'] at htake
      rw [h, hdrop'] at hdrop
      have hinside := (List.cons.inj hdrop).2
      rw [← List.append_assoc, ← List.append_assoc, Text.append_cons_inj (hspace (hcode' c' rfl))
        (hspace (hcode c rfl)), List.append_cancel_right_eq] at hinside
      exact ⟨(List.append_cancel_right htake).symm, congrArg some hinside.1.symm, hinside.2.symm⟩

/-! #### Reading a labelled line -/

/-- A labelled line is read as what its text says, if that is a statement of a line, and otherwise
by one of the forms with a role. -/
theorem read_label (hname : Lector.PlainName name) (hcode : ∀ c ∈ code, Code.Plain c)
    (hrest : Unmarked rest) :
    read (name ++ (label code ++ rest)) =
      match Text.findAfterBlank? sampleHere? rest with
      | some (code, partnerSpecific) => coded { code, partnerSpecific }
      | none =>
        (((roleWithCode? (name ++ (label code ++ rest))).map coded).or
          ((roleWithoutCode? (name ++ (label code ++ rest))).map fun (role, content) ↦
            spoken role content (name ++ (label code ++ rest)))).getD
          (narration (name ++ (label code ++ rest))) := by
  have hunmarked := unmarked_label hname hcode hrest
  rw [read_of_unclaimed (dropWord?_label hname)
    (Text.contains_eq_false_iff.2 hunmarked.noBackground)
    (Text.contains_eq_false_iff.2 hunmarked.noPause)]
  simp only [lineForms, List.findSome?_cons, List.findSome?_nil, sampleLine?_label hname hcode,
    compact?_label hname, Option.map_none]
  cases Text.findAfterBlank? sampleHere? rest with
  | some found => rfl
  | none =>
    cases roleWithCode? (name ++ (label code ++ rest)) with
    | some line => rfl
    | none =>
      cases roleWithoutCode? (name ++ (label code ++ rest)) with
      | some found => rfl
      | none => rfl

end Line

end Storyline.Statement
