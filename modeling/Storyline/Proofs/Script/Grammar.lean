import Storyline.Proofs.Lector
import Storyline.Proofs.Script.Canonical
import Storyline.Proofs.Text.Digit
import Storyline.Proofs.Text.Place

/-!
# The grammar of lines with a code

What the recognisers of lines with a code accept, said without running them: how such a line is
composed of its parts, and which of them are the code, the mark for partners, the role and the text.
The main statements are that each recogniser accepts a line exactly if it is so composed, and that
nothing else of the line matters to what is read.
-/

namespace Storyline

/-! ### Roles -/

/-- The lector's name is the name of the role, blanks around it and the case of letters apart. -/
def Lector.HasName (lector : Lector) (role : List Char) : Prop :=
  Text.eqIgnoringCase lector.name.toList (Text.trim role) = true

instance (lector : Lector) (role : List Char) : Decidable (lector.HasName role) :=
  inferInstanceAs (Decidable (_ = true))

/-- Who reads the line of a role: the first lector of its name, or else the default lector. -/
inductive Lector.Speaks (lectors : List Lector) (role : List Char) : Option String → Prop where
  | named {front back : List Lector} {lector : Lector} (hsplit : lectors = front ++ lector :: back)
      (hname : lector.HasName role) (hfirst : ∀ other ∈ front, ¬ other.HasName role) :
      Speaks lectors role (some lector.id)
  | unnamed (hnone : ∀ lector ∈ lectors, ¬ lector.HasName role) :
      Speaks lectors role ((default? lectors).map (·.id))

private theorem Lector.speaks_findNamed?_or (lectors : List Lector) (role : List Char) :
    Speaks lectors role (((findNamed? lectors role).or (default? lectors)).map (·.id)) := by
  cases hnamed : findNamed? lectors role with
  | some lector =>
    obtain ⟨hname, front, back, hsplit, hfirst⟩ := List.find?_eq_some_iff_append.1 hnamed
    exact .named hsplit hname fun other hother ↦ by simpa [HasName] using hfirst other hother
  | none =>
    have hnone := List.find?_eq_none.1 hnamed
    exact .unnamed hnone

namespace Statement

/-! ### Codes -/

/-- A code at the front of a text: the longest run of characters that a code can contain. It is that
of a partner-specific line if an opening bracket follows directly and a closing one later. -/
structure CodeAt (cs code : List Char) (partnerSpecific : Bool) : Prop where
  /-- The code is not empty. -/
  ne_nil : code ≠ []
  /-- The code ends at the first character that cannot stand in one. -/
  run : Text.LongestRun isCodeChar cs code
  /-- Brackets follow on the code of a partner-specific line. -/
  brackets : partnerSpecific = true ↔ ∃ after, cs = code ++ '[' :: after ∧ ']' ∈ after

private theorem brackets_iff {rest : List Char} :
    (rest.head? == some '[' && rest.contains ']') = true ↔
      ∃ after, rest = '[' :: after ∧ ']' ∈ after := by
  cases rest with
  | nil => simp
  | cons c rest =>
    by_cases hc : c = '['
    · simp [hc]
    · simp [hc]

/-- Reading a code succeeds exactly where one stands. -/
theorem code?_eq_some_iff {cs code : List Char} {partnerSpecific : Bool} :
    code? cs = some (code, partnerSpecific) ↔ CodeAt cs code partnerSpecific := by
  have hsplit : cs.takeWhile isCodeChar ++ cs.dropWhile isCodeChar = cs :=
    List.takeWhile_append_dropWhile
  have hbrackets : (∃ after, cs = cs.takeWhile isCodeChar ++ '[' :: after ∧ ']' ∈ after) ↔
      ∃ after, cs.dropWhile isCodeChar = '[' :: after ∧ ']' ∈ after := by
    have hcut : ∀ after, cs = cs.takeWhile isCodeChar ++ '[' :: after ↔
        cs.dropWhile isCodeChar = '[' :: after := by
      intro after
      rw [← List.append_cancel_left_eq (cs.takeWhile isCodeChar) (cs.dropWhile isCodeChar), hsplit]
    simp only [hcut]
  rw [code?]
  constructor
  · intro h
    split at h
    · exact absurd h (by simp)
    · next hne =>
      obtain ⟨rfl, rfl⟩ := Prod.mk.inj (Option.some.inj h)
      exact ⟨hne, Text.longestRun_iff.2 rfl, by rw [brackets_iff, hbrackets]⟩
  · rintro ⟨hne, hrun, hpartner⟩
    obtain rfl := Text.longestRun_iff.1 hrun
    rw [hbrackets, ← brackets_iff, ← Bool.eq_iff_iff] at hpartner
    rw [if_neg hne, hpartner]

/-- A code stands at the front of a text exactly if the text starts with a character of one. -/
theorem exists_codeAt_iff {cs : List Char} :
    (∃ code partnerSpecific, CodeAt cs code partnerSpecific) ↔
      ∃ c ∈ cs.head?, isCodeChar c = true := by
  simp only [← code?_eq_some_iff]
  cases cs with
  | nil => simp [code?]
  | cons c cs =>
    by_cases hc : isCodeChar c = true
    · simp [code?, hc]
    · simp [code?, hc]

/-! ### The compact form -/

/-- No decimal digit ends a code. -/
theorem isCodeChar_of_isDecimal {c : Char} (h : Text.isDecimal c = true) :
    isCodeChar c = true := by
  refine isCodeChar_iff.2 ⟨Text.isBlank_of_isDecimal h, ?_, ?_⟩
  · rintro rfl
    exact absurd h (by decide)
  · rintro rfl
    exact absurd h (by decide)

/-- No character of what looks like a code ends a code. -/
theorem isCodeChar_of_likeCode {code : List Char} (h : Lector.LikeCode code) :
    ∀ c ∈ code, isCodeChar c = true := by
  intro c hc
  rcases h.letter_or_isDecimal hc with rfl | rfl | hdecimal
  · decide
  · decide
  · exact isCodeChar_of_isDecimal hdecimal

/-- A line is read as a compact one exactly if what looks like a code and a colon stand at its
start. -/
theorem compact?_eq_some_iff {cs : List Char} {line : CodedLine} :
    compact? cs = some line ↔
      ∃ code rest, Lector.LikeCode code ∧ cs = code ++ ':' :: rest ∧
        line = { code, partnerSpecific := false, content := Text.trim rest } := by
  constructor
  · intro h
    cases cs with
    | nil => exact absurd h (by simp [compact?])
    | cons letter digits =>
      simp only [compact?] at h
      split at h
      · next hcode =>
        obtain ⟨rest, hrest, hline⟩ := Option.bind_eq_some_iff.1 h
        have hcolon : digits.dropWhile Text.isDecimal = ':' :: rest :=
          Text.dropPrefix?_eq_some_iff.1 hrest
        refine ⟨letter :: digits.takeWhile Text.isDecimal, rest,
          ⟨by simpa using hcode.1, hcode.2, fun c hc ↦ List.mem_takeWhile_imp hc⟩, ?_,
          (Option.some.inj hline).symm⟩
        rw [List.cons_append, ← hcolon, List.takeWhile_append_dropWhile]
      · exact absurd h (by simp)
  · rintro ⟨code, rest, ⟨hletter, hne, hnumber⟩, rfl, rfl⟩
    cases code with
    | nil => exact absurd rfl hne
    | cons letter number =>
      have hall : ∀ c ∈ number, Text.isDecimal c = true := hnumber
      have htake : (number ++ ':' :: rest).takeWhile Text.isDecimal = number := by
        rw [List.takeWhile_append_of_pos hall, List.takeWhile_cons_of_neg (by decide),
          List.append_nil]
      have hdrop : (number ++ ':' :: rest).dropWhile Text.isDecimal = ':' :: rest := by
        rw [List.dropWhile_append_of_pos hall, List.dropWhile_cons_of_neg (by decide)]
      have hcode : (letter = 'S' ∨ letter = 'Z') ∧ number ≠ [] := ⟨by simpa using hletter, hne⟩
      rw [List.cons_append, compact?, htake, hdrop, if_pos hcode]
      rfl

/-! ### The form with a role -/

/-- A line that is composed of a role, what stands between parentheses, and a text: the role has
neither parentheses nor colons, between the parentheses stands no other, and a code starts there. -/
structure RoleForm (cs role inner rest : List Char) : Prop where
  /-- The line is composed of these parts. -/
  split : cs = role ++ '(' :: (inner ++ ("):".toList ++ rest))
  /-- There is a role. -/
  role_ne : role ≠ []
  /-- No character of the role ends it. -/
  role_chars : ∀ c ∈ role, isRoleChar c = true
  /-- No parenthesis stands between the parentheses. -/
  inner_chars : ∀ c ∈ inner, isInnerChar c = true
  /-- A code starts behind the opening parenthesis. -/
  code : ∃ c ∈ inner.head?, isCodeChar c = true

section Role

variable {cs role inner rest : List Char}

/-- The role ends at the first parenthesis. -/
theorem RoleForm.cut_role (h : RoleForm cs role inner rest) :
    cs.takeWhile isRoleChar = role ∧
      cs.dropWhile isRoleChar = '(' :: (inner ++ ("):".toList ++ rest)) := by
  rw [h.split, List.takeWhile_append_of_pos h.role_chars, List.dropWhile_append_of_pos h.role_chars]
  exact ⟨by simp [isRoleChar], rfl⟩

/-- What stands between the parentheses ends at the second one. -/
theorem RoleForm.cut_inner (h : RoleForm cs role inner rest) :
    (inner ++ ("):".toList ++ rest)).takeWhile isInnerChar = inner ∧
      (inner ++ ("):".toList ++ rest)).dropWhile isInnerChar = "):".toList ++ rest := by
  rw [List.takeWhile_append_of_pos h.inner_chars, List.dropWhile_append_of_pos h.inner_chars]
  exact ⟨by simp [isInnerChar], rfl⟩

/-- A line is composed so in one way only. -/
theorem RoleForm.unique {role' inner' rest' : List Char} (h : RoleForm cs role inner rest)
    (h' : RoleForm cs role' inner' rest') : role' = role ∧ inner' = inner ∧ rest' = rest := by
  obtain ⟨hrole, hdrop⟩ := h.cut_role
  obtain ⟨hrole', hdrop'⟩ := h'.cut_role
  have hbehind := (List.cons.inj (hdrop'.symm.trans hdrop)).2
  obtain ⟨hinner, hinnerDrop⟩ := h.cut_inner
  obtain ⟨hinner', hinnerDrop'⟩ := h'.cut_inner
  rw [hbehind] at hinner' hinnerDrop'
  exact ⟨hrole'.symm.trans hrole, hinner'.symm.trans hinner,
    List.append_cancel_left (hinnerDrop'.symm.trans hinnerDrop)⟩

/-- A line that is composed so is read as its role, its code and its trimmed text. -/
theorem RoleForm.roleWithCode? {code : List Char} {partnerSpecific : Bool}
    (h : RoleForm cs role inner rest) (hcode : CodeAt inner code partnerSpecific) :
    roleWithCode? cs =
      some { code, partnerSpecific, role := some role, content := Text.trim rest } := by
  obtain ⟨hrole, hdrop⟩ := h.cut_role
  obtain ⟨hinner, hinnerDrop⟩ := h.cut_inner
  have hopen : Text.dropPrefix? ['('] ('(' :: (inner ++ ("):".toList ++ rest))) =
      some (inner ++ ("):".toList ++ rest)) := rfl
  rw [Statement.roleWithCode?, hrole, hdrop, if_neg h.role_ne, hopen]
  simp only [Option.pure_def, Option.bind_eq_bind, Option.bind_some, hinner, hinnerDrop,
    Text.dropPrefix?_append, code?_eq_some_iff.2 hcode]

/-- Whatever is read as a line with a role is composed so. -/
theorem exists_roleForm_of_roleWithCode? {line : CodedLine} (h : roleWithCode? cs = some line) :
    ∃ role inner rest, RoleForm cs role inner rest := by
  simp only [roleWithCode?, Option.bind_eq_bind] at h
  split at h
  · exact absurd h (by simp)
  · next hne =>
    simp only [Option.pure_def, Option.bind_eq_some_iff, Option.some.injEq] at h
    obtain ⟨behind, hbehind, rest, hrest, ⟨code, partnerSpecific⟩, hcode, -⟩ := h
    refine ⟨cs.takeWhile isRoleChar, behind.takeWhile isInnerChar, rest, ?_, hne,
      fun c hc ↦ List.mem_takeWhile_imp hc, fun c hc ↦ List.mem_takeWhile_imp hc,
      exists_codeAt_iff.1 ⟨code, partnerSpecific, code?_eq_some_iff.1 hcode⟩⟩
    rw [← Text.dropPrefix?_eq_some_iff.1 hrest, List.takeWhile_append_dropWhile]
    have hopen : cs.dropWhile isRoleChar = '(' :: behind := Text.dropPrefix?_eq_some_iff.1 hbehind
    rw [← hopen, List.takeWhile_append_dropWhile]

/-- A line is read as one with a role exactly if it is composed so, and then by its parts. -/
theorem roleWithCode?_eq_some_iff {line : CodedLine} :
    roleWithCode? cs = some line ↔
      ∃ role inner rest code partnerSpecific,
        RoleForm cs role inner rest ∧ CodeAt inner code partnerSpecific ∧
          line = { code, partnerSpecific, role := some role, content := Text.trim rest } := by
  constructor
  · intro h
    obtain ⟨role, inner, rest, hform⟩ := exists_roleForm_of_roleWithCode? h
    obtain ⟨code, partnerSpecific, hcode⟩ := exists_codeAt_iff.2 hform.code
    rw [hform.roleWithCode? hcode, Option.some.injEq] at h
    exact ⟨role, inner, rest, code, partnerSpecific, hform, hcode, h.symm⟩
  · rintro ⟨role, inner, rest, code, partnerSpecific, hform, hcode, rfl⟩
    exact hform.roleWithCode? hcode

end Role

/-- A line is read as one with a role and a code exactly if it is composed of a role, something
between parentheses that starts with a code, and a text. There is only one way to take it apart so.
The code is the longest run of its characters behind the opening parenthesis, brackets behind it
mark a partner-specific line, the text is trimmed, and the first lector whose name is the role reads
the line, or else the default lector. -/
theorem roleWithCode?_grammar (lectors : List Lector) (cs : List Char) :
    ((roleWithCode? cs).isSome = true ↔ ∃ role inner rest, RoleForm cs role inner rest) ∧
      ∀ role inner rest, RoleForm cs role inner rest →
        (∀ role' inner' rest', RoleForm cs role' inner' rest' →
          role' = role ∧ inner' = inner ∧ rest' = rest) ∧
        ∃ code partnerSpecific lectorId,
          CodeAt inner code partnerSpecific ∧ Lector.Speaks lectors role lectorId ∧
            (roleWithCode? cs).map (CodedLine.toLine lectors) =
              some
                { content := String.ofList (Text.trim rest)
                  code := some (String.ofList code)
                  lectorId
                  partnerSpecific } := by
  have hread : ∀ {role inner rest}, RoleForm cs role inner rest →
      ∃ code partnerSpecific, CodeAt inner code partnerSpecific ∧ roleWithCode? cs =
        some { code, partnerSpecific, role := some role, content := Text.trim rest } := by
    intro role inner rest h
    obtain ⟨code, partnerSpecific, hcode⟩ := exists_codeAt_iff.2 h.code
    exact ⟨code, partnerSpecific, hcode, h.roleWithCode? hcode⟩
  refine ⟨⟨fun h ↦ ?_, ?_⟩, fun role inner rest h ↦ ⟨fun _ _ _ h' ↦ h.unique h', ?_⟩⟩
  · obtain ⟨line, hline⟩ := Option.isSome_iff_exists.1 h
    exact exists_roleForm_of_roleWithCode? hline
  · rintro ⟨role, inner, rest, h⟩
    obtain ⟨code, partnerSpecific, -, hline⟩ := hread h
    rw [hline]
    rfl
  · obtain ⟨code, partnerSpecific, hcode, hline⟩ := hread h
    refine ⟨code, partnerSpecific, _, hcode, Lector.speaks_findNamed?_or lectors role, ?_⟩
    rw [hline]
    rfl

/-- A second parenthesis with a code belongs to the text, and a remark may follow the code. -/
theorem roleWithCode?_grammar_two_parentheses :
    let lectors : List Lector := [⟨"n", "Narrator", ""⟩, ⟨"o", "Owl", ""⟩]
    let cs := "OWL (Z4[Slug] aloud): Who (S1): there? ".toList
    let rest := " Who (S1): there? ".toList
    RoleForm cs "OWL ".toList "Z4[Slug] aloud".toList rest ∧
      (∀ role inner rest', RoleForm cs role inner rest' →
        role = "OWL ".toList ∧ inner = "Z4[Slug] aloud".toList ∧ rest' = rest) ∧
      (∃ code partnerSpecific lectorId, CodeAt "Z4[Slug] aloud".toList code partnerSpecific ∧
        Lector.Speaks lectors "OWL ".toList lectorId ∧
          (roleWithCode? cs).map (CodedLine.toLine lectors) =
            some
              { content := String.ofList (Text.trim rest)
                code := some (String.ofList code)
                lectorId
                partnerSpecific }) ∧
      (roleWithCode? cs).map (CodedLine.toLine lectors) =
        some
          { content := "Who (S1): there?", code := some "Z4", lectorId := some "o"
            partnerSpecific := true } := by
  intro lectors cs rest
  have hform : RoleForm cs "OWL ".toList "Z4[Slug] aloud".toList rest :=
    ⟨by decide, by decide, by decide, by decide, by decide⟩
  obtain ⟨-, hparts⟩ := roleWithCode?_grammar lectors cs
  obtain ⟨hunique, hline⟩ := hparts _ _ _ hform
  exact ⟨hform, hunique, hline, by decide⟩

/-! ### The canonical form -/

/-- What stands in front of the code in a canonical line statement: a keyword and a colon, then
`Code` and an equals sign, with any blanks around them. -/
inductive SampleLead : String → List Char → Prop where
  | intro {keyword : String} {gap before behind : List Char} (hkeyword : IsSampleWord keyword)
      (hgap : ∀ c ∈ gap, Text.isBlank c = true) (hbefore : ∀ c ∈ before, Text.isBlank c = true)
      (hbehind : ∀ c ∈ behind, Text.isBlank c = true) :
      SampleLead keyword
        (keyword.toList ++ ':' :: (gap ++ ("Code".toList ++ (before ++ '=' :: behind))))

/-- A text that starts with a canonical line statement: a code starts behind the lead, and `value`
is all that is written from there on. -/
structure SampleForm (keyword : String) (cs value : List Char) : Prop where
  /-- The text is composed of a lead and the value. -/
  split : ∃ lead, SampleLead keyword lead ∧ cs = lead ++ value
  /-- A code starts behind the lead. -/
  code : ∃ c ∈ value.head?, isCodeChar c = true

/-- A canonical line statement stands at the front of the text. -/
def StatesSample (cs : List Char) : Prop := ∃ keyword value, SampleForm keyword cs value

/-- An assignment is read up to its value. -/
theorem assignment?_eq_some_iff {name cs value : List Char} :
    assignment? name cs = some value ↔
      ∃ before behind, (∀ c ∈ before, Text.isBlank c = true) ∧
        (∀ c ∈ behind, Text.isBlank c = true) ∧ Text.NoBlankFirst value ∧
          cs = name ++ (before ++ '=' :: (behind ++ value)) := by
  simp only [assignment?, Option.bind_eq_bind, Option.bind_eq_some_iff, Option.pure_def,
    Option.some.injEq, Text.dropPrefix?_eq_some_iff, Text.trimStart_eq_iff]
  constructor
  · rintro ⟨_, rfl, _, ⟨before, hbefore, rfl, -⟩, behind, hbehind, rfl, hvalue⟩
    exact ⟨before, behind, hbefore, hbehind, hvalue, rfl⟩
  · rintro ⟨before, behind, hbefore, hbehind, hvalue, rfl⟩
    have hequals : Text.NoBlankFirst (['='] ++ (behind ++ value)) :=
      Text.NoBlankFirst.append (by decide) (by decide) _
    exact ⟨_, rfl, _, ⟨before, hbefore, rfl, hequals⟩, behind, hbehind, rfl, hvalue⟩

/-- A statement is read only behind a keyword and a colon. -/
theorem exists_keyword_of_sampleHere? {cs : List Char} {found : List Char × Bool}
    (h : sampleHere? cs = some found) :
    ∃ keyword, IsSampleWord keyword ∧ ∃ rest, cs = keyword.toList ++ ':' :: rest := by
  simp only [sampleHere?, Option.bind_eq_bind, Option.bind_eq_some_iff, Option.or_eq_some_iff,
    Text.dropPrefix?_eq_some_iff] at h
  obtain ⟨rest, rfl | ⟨-, rfl⟩, -⟩ := h
  · exact ⟨"SampleLine", Or.inl rfl, rest, by simp⟩
  · exact ⟨"DynamicSampleLine", Or.inr rfl, rest, by simp⟩

/-- A text that starts with a code starts with no blank. -/
theorem noBlankFirst_of_isCodeChar {cs : List Char} (h : ∃ c ∈ cs.head?, isCodeChar c = true) :
    Text.NoBlankFirst cs := by
  obtain ⟨c, hc, hcode⟩ := h
  intro d hd
  obtain rfl := Option.mem_unique hc hd
  exact (isCodeChar_iff.1 hcode).1

/-- A statement is read at the front of a text exactly if one stands there. -/
theorem sampleHere?_eq_some_iff {cs code : List Char} {partnerSpecific : Bool} :
    sampleHere? cs = some (code, partnerSpecific) ↔
      ∃ keyword value, SampleForm keyword cs value ∧ CodeAt value code partnerSpecific := by
  constructor
  · intro h
    obtain ⟨keyword, hkeyword, rest, rfl⟩ := exists_keyword_of_sampleHere? h
    rw [sampleHere?_keyword hkeyword, Option.bind_eq_some_iff] at h
    obtain ⟨value, hvalue, hcode⟩ := h
    obtain ⟨before, behind, hbefore, hbehind, -, htext⟩ := assignment?_eq_some_iff.1 hvalue
    obtain ⟨gap, hgap, rfl, -⟩ := Text.trimStart_eq_iff.1 htext
    have hat : CodeAt value code partnerSpecific := code?_eq_some_iff.1 hcode
    refine ⟨keyword, value, ⟨⟨_, .intro hkeyword hgap hbefore hbehind, by simp⟩, ?_⟩, hat⟩
    exact exists_codeAt_iff.1 ⟨code, partnerSpecific, hat⟩
  · rintro ⟨keyword, value, ⟨⟨_, ⟨hkeyword, hgap, hbefore, hbehind⟩, rfl⟩, hstart⟩, hat⟩
    next gap before behind =>
    have hvalue : assignment? "Code".toList
        ("Code".toList ++ (before ++ '=' :: (behind ++ value))) = some value :=
      assignment?_eq_some_iff.2
        ⟨before, behind, hbefore, hbehind, noBlankFirst_of_isCodeChar hstart, rfl⟩
    have hfirst : Text.NoBlankFirst ("Code".toList ++ (before ++ '=' :: (behind ++ value))) :=
      Text.NoBlankFirst.append (by decide) (by decide) _
    simp only [List.append_assoc, List.cons_append]
    rw [sampleHere?_keyword hkeyword, Text.trimStart_append_of_blank hgap, hfirst.trimStart_eq,
      hvalue, Option.bind_some]
    exact code?_eq_some_iff.2 hat

private theorem isSome_sampleHere?_iff {cs : List Char} :
    (sampleHere? cs).isSome = true ↔ StatesSample cs := by
  constructor
  · intro h
    obtain ⟨⟨code, partnerSpecific⟩, hfound⟩ := Option.isSome_iff_exists.1 h
    obtain ⟨keyword, value, hform, -⟩ := sampleHere?_eq_some_iff.1 hfound
    exact ⟨keyword, value, hform⟩
  · rintro ⟨keyword, value, hform⟩
    obtain ⟨code, partnerSpecific, hat⟩ := exists_codeAt_iff.2 hform.code
    rw [sampleHere?_eq_some_iff.2 ⟨keyword, value, hform, hat⟩]
    rfl

instance (cs : List Char) : Decidable (StatesSample cs) :=
  decidable_of_iff _ isSome_sampleHere?_iff

/-! ### The keyword of a canonical line -/

section Keyword

variable {keyword other : String} {front tail : List Char}

/-- Behind a blank, no keyword starts in front of the code. -/
theorem SampleLead.ne_of_blank {back : List Char} {c d : Char}
    (h : SampleLead keyword (front ++ d :: back)) (hmem : c ∈ front)
    (hblank : Text.isBlank c = true) : d ≠ 'S' ∧ d ≠ 'D' := by
  generalize hlead : front ++ d :: back = lead at h
  obtain ⟨hkeyword, hgap, hbefore, hbehind⟩ := h
  next gap before behind =>
  rcases List.append_eq_append_iff.1 hlead with ⟨more, hword, -⟩ | ⟨more, -, hmore⟩
  · -- a keyword has no blanks
    have hmem : c ∈ keyword.toList := by
      rw [hword]
      exact List.mem_append_left more hmem
    have hplain : ∀ c ∈ keyword.toList, Text.isBlank c = false := by
      rcases hkeyword with rfl | rfl <;> decide
    rw [hplain c hmem] at hblank
    exact absurd hblank (by decide)
  · -- and none of its initials stands behind it
    have hd : d ∈ ':' :: (gap ++ ("Code".toList ++ (before ++ '=' :: behind))) := by
      rw [hmore]
      simp
    constructor
    all_goals
      rintro rfl
      simp only [List.mem_cons, List.mem_append] at hd
      rcases hd with hd | hd | hd | hd | hd | hd
      · exact absurd hd (by decide)
      · exact absurd (hgap _ hd) (by decide)
      · exact absurd hd (by decide)
      · exact absurd (hbefore _ hd) (by decide)
      · exact absurd hd (by decide)
      · exact absurd (hbehind _ hd) (by decide)

/-- A keyword starts like a code. -/
theorem IsSampleWord.code (h : IsSampleWord keyword) (tail : List Char) :
    ∃ c ∈ (keyword.toList ++ tail).head?, isCodeChar c = true := by
  rcases h with rfl | rfl
  · exact ⟨'S', rfl, by decide⟩
  · exact ⟨'D', rfl, by decide⟩

/-- Whether a statement stands at some place does not depend on which keyword stands there, or
stands later behind a blank. -/
theorem StatesSample.swap (hkeyword : IsSampleWord keyword) (hother : IsSampleWord other)
    (hopens : Text.Opens front) (h : StatesSample (front ++ (keyword.toList ++ tail))) :
    StatesSample (front ++ (other.toList ++ tail)) := by
  cases hlast : front.getLast? with
  | none =>
    obtain rfl := List.getLast?_eq_none_iff.1 hlast
    rw [List.nil_append, ← isSome_sampleHere?_iff, sampleHere?_word hkeyword] at h
    rwa [List.nil_append, ← isSome_sampleHere?_iff, sampleHere?_word hother]
  | some c =>
    obtain ⟨word, value, ⟨lead, hlead, hsplit⟩, hcode⟩ := h
    obtain ⟨more, rfl, hvalue⟩ :
        ∃ more, front = lead ++ more ∧ value = more ++ (keyword.toList ++ tail) := by
      rcases List.append_eq_append_iff.1 hsplit with ⟨past, rfl, hpast⟩ | hmore
      · cases past with
        | nil => exact ⟨[], by simp, hpast.symm⟩
        | cons d past =>
          obtain ⟨hstatic, hdynamic⟩ :=
            hlead.ne_of_blank (List.mem_of_getLast? hlast) (hopens c hlast)
          rcases hkeyword with rfl | rfl
          · exact absurd (List.cons.inj hpast).1.symm hstatic
          · exact absurd (List.cons.inj hpast).1.symm hdynamic
      · exact hmore
    refine ⟨word, more ++ (other.toList ++ tail), ⟨lead, hlead, by simp⟩, ?_⟩
    cases more with
    | nil => exact hother.code tail
    | cons d more =>
      rw [hvalue] at hcode
      exact hcode

/-- Where the first statement stands does not depend on its keyword. -/
theorem firstPlace_swap (hkeyword : IsSampleWord keyword) (hother : IsSampleWord other)
    (h : Text.FirstPlace StatesSample (front ++ (keyword.toList ++ tail)) front
      (keyword.toList ++ tail)) :
    Text.FirstPlace StatesSample (front ++ (other.toList ++ tail)) front
      (other.toList ++ tail) := by
  refine ⟨rfl, h.opens, ?_, fun earlier later hsplit hearlier hlater ↦ ?_⟩
  · have hstart : Text.Opens [] := by simp [Text.Opens]
    exact StatesSample.swap hkeyword hother hstart h.holds
  · rcases List.append_eq_append_iff.1 hsplit with ⟨past, rfl, -⟩ | ⟨more, rfl, rfl⟩
    · simp
    · -- the statement would stand there with the other keyword as well
      refine h.first earlier (more ++ (keyword.toList ++ tail)) (by simp) hearlier ?_
      refine StatesSample.swap hother hkeyword (fun c hc ↦ h.opens c ?_) hlater
      rw [List.getLast?_append, hc]
      rfl

end Keyword

/-- A line is read as a canonical one exactly if a statement stands at its start or behind a
blank. -/
theorem isSome_sampleLine?_iff {cs : List Char} :
    (sampleLine? cs).isSome = true ↔
      ∃ front rest, cs = front ++ rest ∧ Text.Opens front ∧ StatesSample rest := by
  rw [← not_iff_not, Bool.not_eq_true, Option.isSome_eq_false_iff, Option.isNone_iff_eq_none,
    sampleLine?, Option.map_eq_none_iff, Text.search_eq_none_iff]
  simp only [← isSome_sampleHere?_iff, not_exists, not_and, Option.not_isSome_iff_eq_none]

/-- A canonical line is read as the statement at the first place where one stands. -/
theorem sampleLine?_of_firstPlace {cs front rest : List Char}
    (h : Text.FirstPlace StatesSample cs front rest) :
    sampleLine? cs = (sampleHere? rest).map fun (code, partnerSpecific) ↦
      { code, partnerSpecific } := by
  have hplace : Text.FirstPlace (fun rest ↦ (sampleHere? rest).isSome = true) cs front rest := by
    simpa only [isSome_sampleHere?_iff] using h
  rw [sampleLine?, Text.search_of_firstPlace hplace]

/-- A line is read as a canonical line exactly if a canonical line statement stands at its start or
behind a blank. What is read is the first of them: the code is the longest run of its characters
there, and brackets behind it mark a partner-specific line. With the other keyword in its place it
is still the first one, and the same is read. -/
theorem sampleLine?_grammar (lectors : List Lector) (cs : List Char) :
    ((sampleLine? cs).isSome = true ↔
        ∃ front rest, cs = front ++ rest ∧ Text.Opens front ∧ StatesSample rest) ∧
      ((sampleLine? cs).isSome = true → ∃ front rest, Text.FirstPlace StatesSample cs front rest) ∧
      (∀ front rest keyword value, Text.FirstPlace StatesSample cs front rest →
        SampleForm keyword rest value → ∃ code partnerSpecific,
          CodeAt value code partnerSpecific ∧
            (sampleLine? cs).map (CodedLine.toLine lectors) =
              some
                { content := ""
                  code := some (String.ofList code)
                  lectorId := defaultLector lectors
                  partnerSpecific }) ∧
      ∀ front keyword other tail, IsSampleWord keyword → IsSampleWord other →
        Text.FirstPlace StatesSample cs front (keyword.toList ++ tail) →
          Text.FirstPlace StatesSample (front ++ (other.toList ++ tail)) front
              (other.toList ++ tail) ∧
            sampleLine? (front ++ (other.toList ++ tail)) = sampleLine? cs := by
  refine ⟨isSome_sampleLine?_iff, fun h ↦ Text.exists_firstPlace (isSome_sampleLine?_iff.1 h),
    fun front rest keyword value hfirst hform ↦ ?_,
    fun front keyword other tail hkeyword hother hfirst ↦ ?_⟩
  · obtain ⟨code, partnerSpecific, hat⟩ := exists_codeAt_iff.2 hform.code
    have hread := sampleHere?_eq_some_iff.2 ⟨keyword, value, hform, hat⟩
    refine ⟨code, partnerSpecific, hat, ?_⟩
    rw [sampleLine?_of_firstPlace hfirst, hread]
    rfl
  · obtain rfl := hfirst.split
    have hswap := firstPlace_swap hkeyword hother hfirst
    refine ⟨hswap, ?_⟩
    rw [sampleLine?_of_firstPlace hswap, sampleLine?_of_firstPlace hfirst,
      sampleHere?_word hkeyword, sampleHere?_word hother]

/-- The first statement has no code, so the second one counts, although a third follows it. Its
keyword does not matter. -/
theorem sampleLine?_grammar_second_statement :
    let front := "SampleLine: Code = , ".toList
    let tail := ":Code =Z1[Slug SampleLine: Code=S2]".toList
    let value := "Z1[Slug SampleLine: Code=S2]".toList
    let cs := front ++ ("DynamicSampleLine".toList ++ tail)
    Text.FirstPlace StatesSample cs front ("DynamicSampleLine".toList ++ tail) ∧
      SampleForm "DynamicSampleLine" ("DynamicSampleLine".toList ++ tail) value ∧
      (∃ code partnerSpecific, CodeAt value code partnerSpecific ∧
        (sampleLine? cs).map (CodedLine.toLine []) =
          some
            { content := ""
              code := some (String.ofList code)
              lectorId := defaultLector []
              partnerSpecific }) ∧
      sampleLine? (front ++ ("SampleLine".toList ++ tail)) = sampleLine? cs := by
  intro front tail value cs
  have hfirst : Text.FirstPlace StatesSample cs front ("DynamicSampleLine".toList ++ tail) := by
    decide +kernel
  have hlead : SampleLead "DynamicSampleLine" "DynamicSampleLine:Code =".toList :=
    @SampleLead.intro _ [] [' '] [] (Or.inr rfl) (by decide) (by decide) (by decide)
  have hform : SampleForm "DynamicSampleLine" ("DynamicSampleLine".toList ++ tail) value :=
    ⟨⟨_, hlead, by decide⟩, by decide⟩
  obtain ⟨-, -, hline, hkeyword⟩ := sampleLine?_grammar [] cs
  obtain ⟨-, hother⟩ := hkeyword front _ "SampleLine" tail (Or.inr rfl) (Or.inl rfl) hfirst
  exact ⟨hfirst, hform, hline front _ _ value hfirst hform, hother⟩

end Statement

end Storyline
