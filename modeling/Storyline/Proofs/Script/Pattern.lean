import Storyline.Script.Statement
import Storyline.Proofs.Text.Pattern
import Storyline.Proofs.Text.Trim

/-!
# The patterns of statements

For each form of a statement that is given by a pattern, the recogniser finds what a search for the
pattern finds, and reads the statement from what the search keeps. Where one repetition of a pattern
ends is settled by what follows it: mostly what follows cannot stand where the repetition could go
on, so the longest run counts, and no other way is left to try.
-/

namespace Storyline.Statement

open Text (Way Pattern)
open Text.Pattern

variable {n : Nat} {cs : List Char}

/-- Behind a word, the end of a line is read from its text. -/
theorem here?_word_tail (w : List Char) (h : '\n' ∉ cs) :
    (all [word w, tail]).here? n cs =
      (Text.dropPrefix? w cs).map fun rest ↦ (Way.left []).keep "text" (Text.trimStart rest) := by
  rw [all_cons, here?_word_seq, Option.map_eq_bind]
  refine Option.bind_congr fun rest hrest ↦ ?_
  have hline : '\n' ∉ rest := fun hmem ↦ h ((Text.suffix_of_dropPrefix?_eq_some hrest).subset hmem)
  rw [all_cons, all_nil, here?_seq_nothing]
  exact here?_tail hline

/-! ### The compact form -/

/-- The pattern `^([SZ]\d+):\s*(.*)$`. -/
def compactPattern : Pattern :=
  all [start, group "code" (all [one fun c ↦ c == 'S' || c == 'Z', many 1 Text.isDecimal]),
    word [':'], tail]

/-- A compact line is what a search for its pattern finds. -/
theorem compact?_eq_find? (h : '\n' ∉ cs) :
    compact? cs = (compactPattern.find? cs).map fun way ↦
      { code := way.get "code"
        partnerSpecific := false
        content := Text.trim (way.get "text") } := by
  rw [compactPattern, all_cons, find?_start, all_cons]
  cases cs with
  | nil => rfl
  | cons letter rest =>
    have hruns : (all [one fun c ↦ c == 'S' || c == 'Z', many 1 Text.isDecimal]).Runs
        (letter :: rest).length Text.isDecimal (letter :: rest)
        (if letter == 'S' || letter == 'Z' then afterRun? 1 Text.isDecimal rest else none) :=
      runs_many.seq_nothing.one_seq _ _
    have hlast :
        (if letter == 'S' || letter == 'Z' then afterRun? 1 Text.isDecimal rest else none) =
        if (letter = 'S' ∨ letter = 'Z') ∧ rest.takeWhile Text.isDecimal ≠ [] then
          some (rest.dropWhile Text.isDecimal)
        else none := by
      simp only [afterRun?_one, Bool.or_eq_true, beq_iff_eq, ite_and, ite_not]
    have hcolon : (all [word [':'], tail]).Avoids (letter :: rest).length Text.isDecimal :=
      (avoids_word (by decide)).seq _
    have hline : '\n' ∉ rest.dropWhile Text.isDecimal := fun hmem ↦
      h (List.mem_cons_of_mem _ ((List.dropWhile_suffix _).subset hmem))
    have hread : (letter :: rest).take ((letter :: rest).length -
        (rest.dropWhile Text.isDecimal).length) = letter :: rest.takeWhile Text.isDecimal :=
      take_length_sub (by simp)
    rw [hruns.here?_group_seq hcolon, hlast, compact?]
    split
    · rw [Option.bind_some, here?_word_tail _ hline, hread]
      cases Text.dropPrefix? [':'] (rest.dropWhile Text.isDecimal) with
      | none => rfl
      | some content => simp [Way.get, Text.trim_trimStart]
    · rfl

/-! ### Roles -/

/-- The pattern `^([^():]+?):\s*(.*)$`. -/
def rolePattern : Pattern := all [start, group "role" (few 1 isRoleChar), word [':'], tail]

/-- A role and its text are what a search for their pattern keeps. -/
theorem roleWithoutCode?_eq_find? (h : '\n' ∉ cs) :
    roleWithoutCode? cs = (rolePattern.find? cs).map fun way ↦
      (way.get "role", Text.trim (way.get "text")) := by
  have hline : '\n' ∉ cs.dropWhile isRoleChar := fun hmem ↦
    h ((List.dropWhile_suffix _).subset hmem)
  have hcolon : (all [word [':'], tail]).Avoids cs.length isRoleChar :=
    (avoids_word (by decide)).seq _
  rw [rolePattern, all_cons, find?_start, all_cons, runs_few.here?_group_run hcolon, afterRun?_one,
    roleWithoutCode?]
  split
  · rfl
  · rw [Option.bind_some, here?_word_tail _ hline]
    cases Text.dropPrefix? [':'] (cs.dropWhile isRoleChar) with
    | none => rfl
    | some content => simp [Way.get, Text.trim_trimStart]

/-! ### Codes -/

/-- The pattern `([^\s,\[]+)(\[[^\]]*\])?` with characters of a class only. -/
def codePattern (inside : Char → Bool) : Pattern :=
  all [group "code" (many 1 fun c ↦ isCodeChar c && inside c),
    opt (group "suffix" (all [word ['['], many 0 fun c ↦ c != ']' && inside c, word [']']]))]

/-- A closing bracket stands among the characters of a class if it ends the run of the others. -/
private theorem contains_takeWhile {inside : Char → Bool} (hclose : inside ']' = true)
    (cs : List Char) : (cs.takeWhile inside).contains ']' =
      (Text.dropPrefix? [']'] (cs.dropWhile fun c ↦ c != ']' && inside c)).isSome := by
  induction cs with
  | nil => rfl
  | cons c cs ih =>
    by_cases hc : c = ']'
    · subst hc
      simp [hclose, Text.dropPrefix?]
    · by_cases hin : inside c = true
      · simpa [hin, hc, Ne.symm hc] using ih
      · simp [hin, Text.dropPrefix?, Ne.symm hc]

/-- A suffix fits where it starts and ends inside the class. -/
theorem isSome_here?_suffix {inside : Char → Bool} (hopen : inside '[' = true)
    (hclose : inside ']' = true) :
    ((all [word ['['], many 0 fun c ↦ c != ']' && inside c, word [']']]).here? n cs).isSome =
      ((cs.takeWhile inside).head? == some '[' && (cs.takeWhile inside).contains ']') := by
  have hbracket : (all [word [']']]).Avoids n fun c ↦ c != ']' && inside c :=
    (avoids_word (by simp)).seq _
  rw [all_cons, here?_word_seq]
  cases cs with
  | nil => rfl
  | cons c cs =>
    by_cases hc : c = '['
    · subst hc
      have hinner : Text.dropPrefix? ['['] ('[' :: cs) = some cs := rfl
      rw [hinner, Option.bind_some, all_cons, runs_many.here?_seq hbracket, afterRun?_zero,
        Option.bind_some, all_cons, here?_word_seq, List.takeWhile_cons_of_pos hopen,
        List.contains_cons, contains_takeWhile hclose]
      cases Text.dropPrefix? [']'] (cs.dropWhile fun c ↦ c != ']' && inside c) <;> rfl
    · by_cases hin : inside c = true <;> simp [Text.dropPrefix?, hc, Ne.symm hc, hin]

/-- What the codes in two runs leave of them. -/
private theorem dropWhile_takeWhile (p q : Char → Bool) (cs : List Char) :
    (cs.takeWhile q).dropWhile p = (cs.dropWhile fun c ↦ p c && q c).takeWhile q := by
  induction cs with
  | nil => rfl
  | cons c cs ih => by_cases hq : q c = true <;> by_cases hp : p c = true <;> simp [hq, hp, ih]

/-- A code is read as a search for its pattern reads it. -/
theorem code?_takeWhile {inside : Char → Bool} (hopen : inside '[' = true)
    (hclose : inside ']' = true) :
    code? (cs.takeWhile inside) = ((codePattern inside).here? n cs).map fun way ↦
      (way.get "code", (way.get? "suffix").isSome) := by
  have hsuffix : ∀ rest, ∃ way : Way,
      (all [opt (group "suffix" (all [word ['['], many 0 fun c ↦ c != ']' && inside c,
        word [']']]))]).here? n rest = some way ∧ (way.get? "suffix").isSome =
          ((rest.takeWhile inside).head? == some '[' && (rest.takeWhile inside).contains ']') := by
    intro rest
    rw [all_cons, all_nil, here?_seq_nothing, here?_opt, here?_group,
      ← isSome_here?_suffix (n := n) hopen hclose]
    cases (all [word ['['], many 0 fun c ↦ c != ']' && inside c, word [']']]).here? n rest with
    | none => exact ⟨_, rfl, rfl⟩
    | some way => exact ⟨_, rfl, by simp⟩
  obtain ⟨way, hway, hflag⟩ := hsuffix (cs.dropWhile fun c ↦ isCodeChar c && inside c)
  have htake : (cs.takeWhile inside).takeWhile isCodeChar =
      cs.takeWhile fun c ↦ isCodeChar c && inside c := by
    simp [List.takeWhile_takeWhile]
  rw [codePattern, all_cons, here?_group_many_seq (by rw [hway]; rfl), afterRun?_one, code?, htake,
    dropWhile_takeWhile, ← hflag]
  split
  · rfl
  · rw [Option.bind_some, hway]
    simp [Way.get]

/-! ### Roles with a code -/

/-- The pattern `^([^():]+?)\s*\(([^\s,\[()]+)(\[[^\]()]*\])?[^()]*\):\s*(.*)$`. -/
def roleCodePattern : Pattern :=
  all [start, group "role" (few 1 isRoleChar), many 0 Text.isBlank, word ['('],
    codePattern isInnerChar, many 0 isInnerChar, word "):".toList, tail]

/-- What stands behind the opening parenthesis is read as it is for the recogniser. -/
theorem here?_behind_role (h : '\n' ∉ cs) :
    (all [codePattern isInnerChar, many 0 isInnerChar, word "):".toList, tail]).here? n cs =
      ((codePattern isInnerChar).here? n cs).bind fun way ↦
        (Text.dropPrefix? "):".toList (cs.dropWhile isInnerChar)).map fun rest ↦
          way.andThen ((Way.left []).keep "text" (Text.trimStart rest)) := by
  have havoids : (all [word "):".toList, tail]).Avoids n isInnerChar :=
    (avoids_word (by decide)).seq _
  have hways : ∀ rest, (all [many 0 isInnerChar, word "):".toList, tail]).ways n rest =
      (all [word "):".toList, tail]).ways n (rest.dropWhile isInnerChar) := by
    intro rest
    rw [all_cons, runs_many.ways_seq havoids, afterRun?_zero]
    simp
  have hwithin : (codePattern isInnerChar).Within n isInnerChar := by
    have hinner : ∀ c, (isCodeChar c && isInnerChar c) = true → isInnerChar c = true := by simp
    have hplain : ∀ c, (c != ']' && isInnerChar c) = true → isInnerChar c = true := by simp
    refine ((within_many hinner).group _).seq (Within.seq (Within.alt (Within.group ?_ _)
      within_nothing) within_nothing)
    exact (within_word (by decide)).seq
      ((within_many hplain).seq ((within_word (by decide)).seq within_nothing))
  have hline : '\n' ∉ cs.dropWhile isInnerChar := fun hmem ↦
    h ((List.dropWhile_suffix _).subset hmem)
  rw [all_cons, here?_seq_of_within hwithin]
  · refine Option.bind_congr fun way _ ↦ ?_
    rw [here?, hways, ← here?, here?_word_tail _ hline, Option.map_map]
    rfl
  · intro rest rest' heq
    rw [hways, hways, heq]

/-- Behind the blanks at the end of a role, and nowhere before, its parenthesis is read. -/
private theorem dropPrefix?_dropWhile_isBlank (cs : List Char) :
    Text.dropPrefix? ['('] (cs.dropWhile Text.isBlank) =
      if (cs.takeWhile isRoleChar).all Text.isBlank then
        Text.dropPrefix? ['('] (cs.dropWhile isRoleChar)
      else none := by
  induction cs with
  | nil => rfl
  | cons c cs ih =>
    by_cases hblank : Text.isBlank c = true
    · have hrole : isRoleChar c = true := by
        by_contra hc
        simp only [isRoleChar, Bool.not_eq_true', Bool.not_eq_false, Bool.or_eq_true,
          beq_iff_eq] at hc
        rcases hc with (rfl | rfl) | rfl <;> exact absurd hblank (by decide)
      simpa [hblank, hrole] using ih
    · by_cases hrole : isRoleChar c = true
      · have hopen : '(' ≠ c := by
          rintro rfl
          exact absurd hrole (by decide)
        simp [hblank, hrole, Text.dropPrefix?, hopen]
      · simp [hblank, hrole]

/-- Behind a part of a role stands its parenthesis if only blanks are left of the role. -/
private theorem here?_blanks_parenthesis (b : Pattern) {rest : List Char}
    (hrest : rest ∈ rests isRoleChar cs) :
    (seq (many 0 Text.isBlank) (seq (word ['(']) b)).here? n rest =
      if (rest.takeWhile isRoleChar).all Text.isBlank then
        (Text.dropPrefix? ['('] (cs.dropWhile isRoleChar)).bind (b.here? n)
      else none := by
  have havoids : (seq (word ['(']) b).Avoids n Text.isBlank := (avoids_word (by decide)).seq b
  obtain ⟨front, hfront, hsplit⟩ := exists_front_of_mem_rests hrest
  have hdrop : cs.dropWhile isRoleChar = rest.dropWhile isRoleChar := by
    rw [hsplit, List.dropWhile_append_of_pos hfront]
  rw [runs_many.here?_seq havoids, afterRun?_zero, Option.bind_some, here?_word_seq,
    dropPrefix?_dropWhile_isBlank, ← hdrop]
  split <;> rfl

/-- A role is read up to its parenthesis. Blanks at its end may be left out of what is kept. -/
theorem exists_here?_role (n : Nat) (cs : List Char) (b : Pattern) :
    ∃ role, Text.trim role = Text.trim (cs.takeWhile isRoleChar) ∧
      (seq (group "role" (few 1 isRoleChar)) (seq (many 0 Text.isBlank) (seq (word ['(']) b))).here?
          n cs =
        if cs.takeWhile isRoleChar = [] then none
        else (Text.dropPrefix? ['('] (cs.dropWhile isRoleChar)).bind fun rest ↦
          (b.here? n rest).map (·.keep "role" role) := by
  obtain ⟨others, -, hrests⟩ := exists_drop_rests_eq 1 isRoleChar cs
  rw [here?_group_few_seq fun rest hrest ↦
    here?_blanks_parenthesis b (List.mem_of_mem_drop hrest)]
  by_cases hempty : cs.takeWhile isRoleChar = []
  · rw [afterRun?_one, if_pos hempty] at hrests
    refine ⟨[], by rw [hempty], ?_⟩
    rw [if_pos hempty, hrests]
    rfl
  · rw [afterRun?_one, if_neg hempty, Option.elim_some] at hrests
    -- behind the whole role nothing is left of it, so some part of it is a good one
    have hnone : (cs.dropWhile isRoleChar).takeWhile isRoleChar = [] :=
      List.takeWhile_eq_nil_iff.2 (List.dropWhile_get_zero_not isRoleChar cs)
    have hwhole : ((cs.dropWhile isRoleChar).takeWhile isRoleChar).all Text.isBlank = true := by
      rw [hnone, List.all_nil]
    obtain ⟨rest, hfind⟩ : ∃ rest, ((rests isRoleChar cs).drop 1).find?
        (fun rest ↦ (rest.takeWhile isRoleChar).all Text.isBlank) = some rest := by
      rw [← Option.isSome_iff_exists, List.find?_isSome, hrests]
      exact ⟨_, by simp, hwhole⟩
    obtain ⟨front, hfront, hsplit⟩ :=
      exists_front_of_mem_rests (List.mem_of_mem_drop (List.mem_of_find?_eq_some hfind))
    have hblank : (rest.takeWhile isRoleChar).all Text.isBlank = true :=
      List.find?_some (p := fun rest : List Char ↦ (rest.takeWhile isRoleChar).all _) hfind
    refine ⟨front, ?_, ?_⟩
    · have hrole : cs.takeWhile isRoleChar = front ++ rest.takeWhile isRoleChar := by
        rw [hsplit, List.takeWhile_append_of_pos hfront]
      rw [hrole, Text.trim_append_blanks front (List.all_eq_true.1 hblank)]
    · rw [if_neg hempty, hfind, Option.bind_some, take_length_sub hsplit, Option.map_bind]
      rfl

/-- A line with a role and a code says what a search for their pattern keeps, whoever reads it. -/
theorem toLine_roleWithCode?_eq_find? (h : '\n' ∉ cs) (lectors : List Lector) :
    (roleWithCode? cs).map (CodedLine.toLine lectors) = (roleCodePattern.find? cs).map fun way ↦
      CodedLine.toLine lectors
        { code := way.get "code"
          partnerSpecific := (way.get? "suffix").isSome
          role := some (way.get "role")
          content := Text.trim (way.get "text") } := by
  obtain ⟨role, htrim, hhere⟩ := exists_here?_role cs.length cs
    (all [codePattern isInnerChar, many 0 isInnerChar, word "):".toList, tail])
  rw [roleCodePattern, all_cons, find?_start, all_cons, all_cons, all_cons, hhere, roleWithCode?]
  by_cases hempty : cs.takeWhile isRoleChar = []
  · simp [hempty]
  · rw [if_neg hempty, if_neg hempty]
    cases hopen : Text.dropPrefix? ['('] (cs.dropWhile isRoleChar) with
    | none => rfl
    | some rest =>
      have hline : '\n' ∉ rest := fun hmem ↦ h <|
        (List.dropWhile_suffix _).subset ((Text.suffix_of_dropPrefix?_eq_some hopen).subset hmem)
      have hcode : code? (rest.takeWhile isInnerChar) =
          ((codePattern isInnerChar).here? cs.length rest).map fun way ↦
            (way.get "code", (way.get? "suffix").isSome) := code?_takeWhile (by decide) (by decide)
      rw [Option.bind_some, here?_behind_role hline, Option.bind_eq_bind, Option.bind_some, hcode]
      generalize Text.dropPrefix? "):".toList (rest.dropWhile isInnerChar) = content?
      cases hway : (codePattern isInnerChar).here? cs.length rest with
      | none => cases content? <;> rfl
      | some way =>
        have htext : way.get? "text" = none :=
          get?_eq_none (codePattern isInnerChar) (List.mem_of_head? hway) (by decide)
        cases content? with
        | none => rfl
        | some content =>
          simp [Way.get, htext, CodedLine.toLine, Lector.findNamed?, htrim, Text.trim_trimStart]

/-! ### Assignments -/

/-- The pattern `<name>\s*=\s*` in front of others. -/
def assign (name : String) (patterns : List Pattern) : Pattern :=
  all (word name.toList :: many 0 Text.isBlank :: word ['='] :: many 0 Text.isBlank :: patterns)

/-- What follows an assignment is read behind the blanks, if blanks in front of it are dropped. -/
theorem here?_assign {name : String} {patterns : List Pattern}
    (h : ∀ rest, (all (many 0 Text.isBlank :: patterns)).here? n rest =
      (all patterns).here? n (Text.trimStart rest)) :
    (assign name patterns).here? n cs =
      (assignment? name.toList cs).bind ((all patterns).here? n) := by
  have hequals : (all (word ['='] :: many 0 Text.isBlank :: patterns)).Avoids n Text.isBlank :=
    (avoids_word (by decide)).seq _
  rw [assign, all_cons, here?_word_seq, assignment?]
  cases Text.dropPrefix? name.toList cs with
  | none => rfl
  | some rest =>
    rw [Option.bind_some, all_cons, runs_many.here?_seq hequals, afterRun?_zero, Option.bind_some,
      all_cons, here?_word_seq, funext h]
    change _ = ((Text.dropPrefix? ['='] (rest.dropWhile Text.isBlank)).bind _).bind _
    rw [Option.bind_assoc]
    rfl

/-! ### Canonical lines -/

/-- The pattern `(SampleLine|DynamicSampleLine):\s*Code\s*=\s*([^\s,\[]+)(\[[^\]]*\])?`. -/
def sampleHerePattern : Pattern :=
  all [group "keyword" (alt (word "SampleLine".toList) (word "DynamicSampleLine".toList)),
    word [':'], many 0 Text.isBlank, assign "Code" [codePattern fun _ ↦ true]]

/-- The same pattern behind `(?:^|\s)`. -/
def samplePattern : Pattern := seq (alt start (one Text.isBlank)) sampleHerePattern

/-- What is read behind the keyword of a canonical line. -/
private theorem here?_assign_code :
    ((all [word [':'], many 0 Text.isBlank, assign "Code" [codePattern fun _ ↦ true]]).here? n
        cs).map (fun way ↦ (way.get "code", (way.get? "suffix").isSome)) =
      (Text.dropPrefix? [':'] cs).bind fun rest ↦
        (assignment? "Code".toList (Text.trimStart rest)).bind code? := by
  have hcode : ∀ rest, code? rest = ((all [codePattern fun _ ↦ true]).here? n rest).map fun way ↦
      (way.get "code", (way.get? "suffix").isSome) := by
    intro rest
    have hall : rest.takeWhile (fun _ ↦ true) = rest :=
      List.takeWhile_eq_self_iff.2 fun _ _ ↦ rfl
    have hread : code? (rest.takeWhile fun _ ↦ true) = _ := code?_takeWhile (n := n) rfl rfl
    rwa [hall, ← here?_seq_nothing] at hread
  have hblank : ∀ rest, (all [many 0 Text.isBlank, codePattern fun _ ↦ true]).here? n rest =
      (all [codePattern fun _ ↦ true]).here? n (Text.trimStart rest) := by
    intro rest
    have havoids : (all [codePattern fun _ ↦ true]).Avoids n Text.isBlank := by
      refine Avoids.seq (Avoids.seq (Avoids.group (avoids_many fun c hc ↦ ?_) _) _) _
      simp [isCodeChar, hc]
    rw [all_cons, runs_many.here?_seq havoids, afterRun?_zero, Option.bind_some]
    rfl
  have havoids : (all [assign "Code" [codePattern fun _ ↦ true]]).Avoids n Text.isBlank :=
    Avoids.seq (Avoids.seq (avoids_word (by decide)) _) _
  rw [all_cons, here?_word_seq, Option.map_bind]
  refine Option.bind_congr fun rest _ ↦ ?_
  rw [Function.comp_apply, all_cons, runs_many.here?_seq havoids, afterRun?_zero, Option.bind_some,
    all_cons, all_nil, here?_seq_nothing, here?_assign hblank,
    Option.map_bind]
  exact Option.bind_congr fun value _ ↦ (hcode value).symm

/-- A statement is read at a place as its pattern reads it. -/
theorem sampleHere?_eq_here? :
    sampleHere? cs = (sampleHerePattern.here? n cs).map fun way ↦
      (way.get "code", (way.get? "suffix").isSome) := by
  have hword : ∀ w : String, ((all [group "keyword" (word w.toList), word [':'],
        many 0 Text.isBlank, assign "Code" [codePattern fun _ ↦ true]]).here? n cs).map
          (fun way ↦ (way.get "code", (way.get? "suffix").isSome)) =
      (Text.dropPrefix? (w.toList ++ [':']) cs).bind fun rest ↦
        (assignment? "Code".toList (Text.trimStart rest)).bind code? := by
    intro w
    rw [all_cons, here?_group_word_seq, Option.map_bind, Text.dropPrefix?_append_word,
      Option.bind_assoc]
    refine Option.bind_congr fun rest _ ↦ ?_
    rw [Function.comp_apply, Option.map_map, ← here?_assign_code (n := n)]
    rfl
  rw [sampleHerePattern, all_cons, here?_group_alt_seq, ← all_cons, ← all_cons, Option.map_or,
    hword, hword]
  change ((Text.dropPrefix? ("SampleLine".toList ++ [':']) cs).or
    (Text.dropPrefix? ("DynamicSampleLine".toList ++ [':']) cs)).bind _ = _
  -- a line cannot start with both keywords
  cases hstatic : Text.dropPrefix? ("SampleLine".toList ++ [':']) cs with
  | none => rw [Option.none_or, Option.bind_none, Option.none_or]; rfl
  | some rest =>
    have hother : Text.dropPrefix? ("DynamicSampleLine".toList ++ [':']) cs = none := by
      rw [Text.dropPrefix?_eq_some_iff.1 hstatic]
      rfl
    rw [hother, Option.some_or, Option.bind_none, Option.or_none]
    rfl

/-- A canonical line is what a search for its pattern finds. -/
theorem sampleLine?_eq_find? (cs : List Char) :
    sampleLine? cs = (samplePattern.find? cs).map fun way ↦
      { code := way.get "code"
        partnerSpecific := (way.get? "suffix").isSome } := by
  have hhere : sampleHere? = fun rest ↦ (sampleHerePattern.here? cs.length rest).map fun way ↦
      (way.get "code", (way.get? "suffix").isSome) :=
    funext fun _ ↦ sampleHere?_eq_here?
  rw [sampleLine?, hhere, Text.findAfterBlank?_map, ← Option.map_or, samplePattern,
    find?_start_or_blank, Option.map_map]
  rfl

/-! ### Backgrounds -/

/-- The pattern `Code\s*=\s*([^,]*)`. -/
def namePattern : Pattern := assign "Code" [group "name" (many 0 (· != ','))]

/-- The pattern `<name>\s*=\s*([^,\s]+)`. -/
def fadePattern (name : String) : Pattern :=
  assign name [group "stamp" (many 1 fun c ↦ !(Text.isBlank c || c == ','))]

/-- The name of a background is what a search for its pattern keeps. -/
theorem findAnywhere?_assignment_code (cs : List Char) :
    (Text.findAnywhere? (assignment? "Code".toList) cs).map (·.takeWhile (· != ',')) =
      (namePattern.find? cs).map (·.get "name") := by
  have hname : ∀ n rest, (all [group "name" (many 0 (· != ','))]).here? n rest =
      some ((Way.left (rest.dropWhile (· != ','))).keep "name" (rest.takeWhile (· != ','))) := by
    intro n rest
    rw [all_cons, here?_group_many_seq rfl, afterRun?_zero]
    rfl
  have hblank : ∀ n rest,
      (all [many 0 Text.isBlank, group "name" (many 0 (· != ','))]).here? n rest =
      (all [group "name" (many 0 (· != ','))]).here? n (Text.trimStart rest) := by
    intro n rest
    rw [all_cons, here?_many_seq (by rw [hname]; rfl), afterRun?_zero]
    rfl
  have hhere : ∀ n rest, (assignment? "Code".toList rest).map (·.takeWhile (· != ',')) =
      (namePattern.here? n rest).map (·.get "name") := by
    intro n rest
    rw [namePattern, here?_assign (hblank n), Option.map_bind, Option.map_eq_bind]
    refine Option.bind_congr fun value _ ↦ ?_
    rw [Function.comp_apply (f := Option.map _), hname]
    simp [Way.get]
  rw [← Text.findAnywhere?_map, findAnywhere?_eq_find?_map hhere]

/-- A fade is what a search for its pattern keeps. -/
theorem findAnywhere?_fade (name : String) (cs : List Char) :
    Text.findAnywhere? (fade? name.toList) cs =
      ((fadePattern name).find? cs).map fun way ↦ String.ofList (way.get "stamp") := by
  have havoids : ∀ n, (all [group "stamp" (many 1 fun c ↦ !(Text.isBlank c || c == ','))]).Avoids n
      Text.isBlank := fun n ↦
    ((avoids_many fun c hc ↦ by simp [hc]).group _).seq _
  have hblank : ∀ n rest, (all [many 0 Text.isBlank,
        group "stamp" (many 1 fun c ↦ !(Text.isBlank c || c == ','))]).here? n rest =
      (all [group "stamp" (many 1 fun c ↦ !(Text.isBlank c || c == ','))]).here? n
        (Text.trimStart rest) := by
    intro n rest
    rw [all_cons, runs_many.here?_seq (havoids n), afterRun?_zero]
    rfl
  refine findAnywhere?_eq_find?_map (fun n rest ↦ ?_) cs
  rw [fadePattern, here?_assign (hblank n), Option.map_bind, fade?]
  refine Option.bind_congr fun value _ ↦ ?_
  rw [Function.comp_apply, all_cons, here?_group_many_seq rfl, afterRun?_one]
  split
  · next h => exact if_pos h
  · next h => exact if_neg h

/-- The statement of a background is read from what searches for its fields keep. -/
theorem backgroundSample?_eq_find? (cs : List Char) :
    backgroundSample? cs =
      if Text.contains "BackgroundSampleLine".toList cs then
        let cue : Background := {}
        some
          { name := String.ofList (Text.trim (((namePattern.find? cs).map (·.get "name")).getD []))
            fadeIn := (((fadePattern "FadeIn").find? cs).map fun way ↦
              String.ofList (way.get "stamp")).getD cue.fadeIn
            fadeOut := (((fadePattern "FadeOut").find? cs).map fun way ↦
              String.ofList (way.get "stamp")).getD cue.fadeOut }
      else none := by
  rw [← findAnywhere?_assignment_code, ← findAnywhere?_fade, ← findAnywhere?_fade,
    backgroundSample?]
  cases Text.findAnywhere? (assignment? "Code".toList) cs <;> rfl

end Storyline.Statement
