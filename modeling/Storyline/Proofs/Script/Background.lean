import Storyline.Script.Statement
import Storyline.Proofs.Text.Line
import Storyline.Proofs.Text.Occurrence
import Storyline.Proofs.Text.Trim

/-!
# Reading the statement of a background

The statement of a background has three fields. The name ends at the first comma, and a fade ends at
a blank or a comma and is looked for everywhere, so in the fields before its own as well. What is
read from the statement is what it was written from where none of the fields ends early and no fade
is found before its own field.
-/

namespace Storyline

/-! ### Fields -/

/-- No field of the background ends before its end. -/
structure Background.Delimited (cue : Background) : Prop where
  /-- The name does not end at a comma. -/
  name : ',' ∉ cue.name.toList
  /-- No character of the first stamp ends it. -/
  fadeIn : ∀ c ∈ cue.fadeIn.toList, Text.isBlank c = false ∧ c ≠ ','
  /-- No character of the second stamp ends it. -/
  fadeOut : ∀ c ∈ cue.fadeOut.toList, Text.isBlank c = false ∧ c ≠ ','

instance (cue : Background) : Decidable cue.Delimited :=
  decidable_of_iff
    (',' ∉ cue.name.toList ∧ (∀ c ∈ cue.fadeIn.toList, Text.isBlank c = false ∧ c ≠ ',') ∧
      ∀ c ∈ cue.fadeOut.toList, Text.isBlank c = false ∧ c ≠ ',')
    ⟨fun h ↦ ⟨h.1, h.2.1, h.2.2⟩, fun h ↦ ⟨h.name, h.fadeIn, h.fadeOut⟩⟩

/-- A background that its statement can carry, so that the statement can be read back. -/
structure Background.Carried (cue : Background) : Prop where
  /-- No blank stands at either end of the name, and the name stays on one line. -/
  clean : Text.Clean cue.name.toList
  /-- The name does not end at a comma. -/
  comma : ',' ∉ cue.name.toList
  /-- The name does not start the first fade. -/
  nameIn : ¬ "FadeIn".toList <:+: cue.name.toList
  /-- The name does not start the second fade. -/
  nameOut : ¬ "FadeOut".toList <:+: cue.name.toList
  /-- The first stamp is not empty. -/
  fadeIn_ne : cue.fadeIn.toList ≠ []
  /-- No character of the first stamp ends it. -/
  fadeIn : ∀ c ∈ cue.fadeIn.toList, Text.isBlank c = false ∧ c ≠ ','
  /-- The first stamp does not start the second fade. -/
  fadeIn_out : ¬ "FadeOut".toList <:+: cue.fadeIn.toList
  /-- The second stamp is not empty. -/
  fadeOut_ne : cue.fadeOut.toList ≠ []
  /-- No character of the second stamp ends it. -/
  fadeOut : ∀ c ∈ cue.fadeOut.toList, Text.isBlank c = false ∧ c ≠ ','

instance (cue : Background) : Decidable cue.Carried :=
  decidable_of_iff
    ((Text.Clean cue.name.toList ∧ ',' ∉ cue.name.toList ∧
        Text.contains "FadeIn".toList cue.name.toList = false ∧
        Text.contains "FadeOut".toList cue.name.toList = false) ∧
      (cue.fadeIn.toList ≠ [] ∧ (∀ c ∈ cue.fadeIn.toList, Text.isBlank c = false ∧ c ≠ ',') ∧
        Text.contains "FadeOut".toList cue.fadeIn.toList = false) ∧
      cue.fadeOut.toList ≠ [] ∧ ∀ c ∈ cue.fadeOut.toList, Text.isBlank c = false ∧ c ≠ ',')
    ⟨fun ⟨⟨hclean, hcomma, hnameIn, hnameOut⟩, ⟨hinNe, hin, hinOut⟩, houtNe, hout⟩ ↦
        ⟨hclean, hcomma, Text.contains_eq_false_iff.1 hnameIn,
          Text.contains_eq_false_iff.1 hnameOut, hinNe, hin, Text.contains_eq_false_iff.1 hinOut,
          houtNe, hout⟩,
      fun h ↦ ⟨⟨h.clean, h.comma, Text.contains_eq_false_iff.2 h.nameIn,
        Text.contains_eq_false_iff.2 h.nameOut⟩, ⟨h.fadeIn_ne, h.fadeIn,
          Text.contains_eq_false_iff.2 h.fadeIn_out⟩, h.fadeOut_ne, h.fadeOut⟩⟩

namespace Statement

/-! ### Keys -/

/-- A statement of a background is found wherever its keyword stands. -/
theorem backgroundSample?_eq_some_iff {cs : List Char} {cue : Background} :
    backgroundSample? cs = some cue ↔
      Text.contains "BackgroundSampleLine".toList cs = true ∧
        { name := String.ofList (Text.trim
            (((Text.findAnywhere? (assignment? "Code".toList) cs).getD []).takeWhile (· != ',')))
          fadeIn := (Text.findAnywhere? (fade? "FadeIn".toList) cs).getD ({} : Background).fadeIn
          fadeOut :=
            (Text.findAnywhere? (fade? "FadeOut".toList) cs).getD ({} : Background).fadeOut } =
          cue := by
  rw [backgroundSample?]
  split
  · next h => rw [Option.some.injEq, and_iff_right h]
  · next h => exact iff_of_false (by simp) fun hfound ↦ h hfound.1

/-- A text with the keyword is a statement of some background. -/
theorem exists_backgroundSample? {cs : List Char}
    (h : "BackgroundSampleLine".toList <:+: cs) : ∃ cue, backgroundSample? cs = some cue :=
  ⟨_, backgroundSample?_eq_some_iff.2 ⟨Text.contains_iff.2 h, rfl⟩⟩

/-- What starts with the keyword of a background is read as one. -/
theorem read_background (fields : List Char) :
    ∃ cue, backgroundSample? ("BackgroundSampleLine:".toList ++ fields) = some cue ∧
      read ("BackgroundSampleLine:".toList ++ fields) = background cue := by
  have hword : "BackgroundSampleLine".toList <:+: "BackgroundSampleLine:".toList ++ fields :=
    ⟨[], ":".toList ++ fields, rfl⟩
  obtain ⟨cue, hcue⟩ := exists_backgroundSample? hword
  refine ⟨cue, hcue, ?_⟩
  have hepisode : Text.dropWord? "episode:".toList ("BackgroundSampleLine:".toList ++ fields) =
      none := rfl
  have hchapter : Text.dropWord? "chapter:".toList ("BackgroundSampleLine:".toList ++ fields) =
      none := rfl
  simp only [read, forms, List.findSome?_cons, hepisode, hchapter, hcue, Option.map_none,
    Option.map_some, Option.getD_some]

/-- Reading an assignment fails where its name cannot be read. -/
theorem assignment?_eq_none {name cs : List Char} (h : Text.dropPrefix? name cs = none) :
    assignment? name cs = none := by
  simp [assignment?, h]

/-- An assignment is read up to the first character of its value. -/
theorem assignment?_append (name : List Char) {value : List Char}
    (h : Text.NoBlankFirst value) : assignment? name (name ++ '=' :: value) = some value := by
  have heq : Text.trimStart ('=' :: value) = '=' :: value :=
    Text.trimStart_eq_self (by decide)
  simp [assignment?, heq, Text.dropPrefix?, h.trimStart_eq]

/-- No fade is read where its name does not stand. -/
theorem fade?_eq_none {name cs : List Char} (h : Text.dropPrefix? name cs = none) :
    fade? name cs = none := by
  simp [fade?, assignment?_eq_none h]

/-- A character that the stamp of a fade can contain. -/
theorem isFadeChar_iff {c : Char} :
    (!(Text.isBlank c || c == ',')) = true ↔ Text.isBlank c = false ∧ c ≠ ',' := by
  simp

/-- The stamp of a fade is read up to the end of the text or the next comma. -/
theorem fade?_append (name rest : List Char) {stamp : List Char} (hne : stamp ≠ [])
    (hstamp : ∀ c ∈ stamp, Text.isBlank c = false ∧ c ≠ ',') (hrest : ∀ c ∈ rest.head?, c = ',') :
    fade? name (name ++ '=' :: (stamp ++ rest)) = some (String.ofList stamp) := by
  have hfirst : Text.NoBlankFirst (stamp ++ rest) := by
    apply Text.NoBlankFirst.append _ hne
    intro c hc
    exact (hstamp c (List.mem_of_head? hc)).1
  have hend : rest.takeWhile (fun c ↦ !(Text.isBlank c || c == ',')) = [] := by
    cases rest with
    | nil => rfl
    | cons c rest => simp [hrest c rfl]
  have htake : (stamp ++ rest).takeWhile (fun c ↦ !(Text.isBlank c || c == ',')) = stamp := by
    rw [List.takeWhile_append_of_pos fun c hc ↦ isFadeChar_iff.2 (hstamp c hc), hend,
      List.append_nil]
  simp only [fade?, assignment?_append name hfirst, Option.bind_eq_bind, Option.bind_some, htake,
    if_neg hne]

/-- The value of an assignment reaches over a character at which neither the name nor the blanks
around the equals sign end. -/
theorem assignment?_append_cons {name : List Char} {c : Char} (hblank : Text.isBlank c = false)
    (hname : c ∉ name ∧ c ≠ '=') (a b : List Char) :
    assignment? name (a ++ c :: b) = (assignment? name a).map (· ++ c :: b) := by
  have hequals : c ∉ ['='] := by simpa using hname.2
  simp only [assignment?, Option.bind_eq_bind, Option.pure_def,
    Text.dropPrefix?_append_cons hname.1]
  cases Text.dropPrefix? name a with
  | none => rfl
  | some rest =>
    simp only [Option.map_some, Option.bind_some, Text.trimStart_append_cons hblank,
      Text.dropPrefix?_append_cons hequals]
    cases Text.dropPrefix? ['='] (Text.trimStart rest) with
    | none => rfl
    | some value =>
      rw [Option.map_some, Option.bind_some, Option.bind_some, Text.trimStart_append_cons hblank,
        Option.map_some]

/-- A stamp ends at a comma. -/
theorem fade?_append_comma {name : List Char} (hname : ',' ∉ name) (a b : List Char) :
    fade? name (a ++ ',' :: b) = fade? name a := by
  simp only [fade?, Option.bind_eq_bind,
    assignment?_append_cons (by decide) ⟨hname, by decide⟩]
  cases assignment? name a with
  | none => rfl
  | some value =>
    have hend : (value ++ ',' :: b).takeWhile (fun c ↦ !(Text.isBlank c || c == ',')) =
        value.takeWhile fun c ↦ !(Text.isBlank c || c == ',') :=
      Text.takeWhile_append_cons (by decide) value b
    simp only [Option.map_some, Option.bind_some, hend]

/-- A stamp that reaches a colon ends at the blank behind it. -/
theorem fade?_append_colon {name : List Char} (hname : ':' ∉ name) (a b : List Char) :
    fade? name (a ++ ':' :: ' ' :: b) = fade? name (a ++ [':']) := by
  simp only [fade?, Option.bind_eq_bind,
    assignment?_append_cons (by decide) ⟨hname, by decide⟩]
  cases assignment? name a with
  | none => rfl
  | some value =>
    have hend : (value ++ ':' :: ' ' :: b).takeWhile (fun c ↦ !(Text.isBlank c || c == ',')) =
        (value ++ [':']).takeWhile fun c ↦ !(Text.isBlank c || c == ',') := by
      rw [List.append_cons]
      exact Text.takeWhile_append_cons (by decide) (value ++ [':']) b
    simp only [Option.map_some, Option.bind_some, hend]

/-- In front of a stamp there is room for its name and the equals sign. -/
theorem length_lt_of_fade?_eq_some {name cs : List Char} {stamp : String}
    (h : fade? name cs = some stamp) : name.length + stamp.toList.length < cs.length := by
  simp only [fade?, assignment?, Option.bind_eq_bind, Option.bind_eq_some_iff, Option.pure_def,
    Option.some.injEq] at h
  obtain ⟨_, ⟨rest, hrest, after, hafter, rfl⟩, h⟩ := h
  split at h
  · exact absurd h (by simp)
  obtain rfl := Option.some.inj h
  have hname := congrArg List.length (Text.dropPrefix?_eq_some_iff.1 hrest)
  have hequals := congrArg List.length (Text.dropPrefix?_eq_some_iff.1 hafter)
  have htrim : ∀ t, (Text.trimStart t).length ≤ t.length := fun t ↦
    (List.dropWhile_suffix Text.isBlank).length_le
  have hvalue : ((Text.trimStart after).takeWhile fun c ↦ !(Text.isBlank c || c == ',')).length ≤
      (Text.trimStart after).length := (List.takeWhile_prefix _).length_le
  have hbefore := htrim rest
  have hbehind := htrim after
  rw [String.toList_ofList]
  simp only [List.length_append, List.length_singleton] at hname hequals
  omega

/-- A fade is looked for in front of a comma and then behind it. -/
theorem findAnywhere?_fade_append_comma {name : List Char} (hne : name ≠ []) (hname : ',' ∉ name)
    (a b : List Char) :
    Text.findAnywhere? (fade? name) (a ++ ',' :: b) =
      (Text.findAnywhere? (fade? name) a).or (Text.findAnywhere? (fade? name) b) := by
  have hempty : fade? name [] = none := by
    apply fade?_eq_none
    cases name with
    | nil => exact absurd rfl hne
    | cons => rfl
  induction a with
  | nil =>
    have hcomma : fade? name (',' :: b) = none := by
      rw [← hempty]
      exact fade?_append_comma hname [] b
    simp only [List.nil_append, Text.findAnywhere?, hcomma, hempty, Option.none_or]
  | cons c a ih =>
    have hhere : fade? name (c :: (a ++ ',' :: b)) = fade? name (c :: a) :=
      fade?_append_comma hname (c :: a) b
    rw [List.cons_append, Text.findAnywhere?, Text.findAnywhere?, hhere, ih, Option.or_assoc]

/-- The characters of the statement of a background. -/
def backgroundChars (cue : Background) : List Char :=
  "BackgroundSampleLine: Code=".toList ++ (cue.name.toList ++ (", FadeIn=".toList ++
    (cue.fadeIn.toList ++ (", FadeOut=".toList ++ cue.fadeOut.toList))))

-- With literals in place of the variables, rewriting would look into them at every step.
private theorem append_fields (a b c d e f : List Char) :
    a ++ (b ++ (',' :: c ++ (d ++ (',' :: e ++ f)))) =
      a ++ b ++ ',' :: (c ++ d ++ ',' :: (e ++ f)) := by
  simp only [List.append_assoc, List.cons_append]

/-- The fields of the statement of a background stand between its commas. -/
theorem backgroundChars_eq (cue : Background) :
    backgroundChars cue = "BackgroundSampleLine: Code=".toList ++ cue.name.toList ++ ',' ::
      (" FadeIn=".toList ++ cue.fadeIn.toList ++ ',' ::
        (" FadeOut=".toList ++ cue.fadeOut.toList)) := by
  have hin : ", FadeIn=".toList = ',' :: " FadeIn=".toList := by decide
  have hout : ", FadeOut=".toList = ',' :: " FadeOut=".toList := by decide
  unfold backgroundChars
  rw [hin, hout]
  exact append_fields _ _ _ _ _ _

/-- The statement of a background has two commas besides those in its fields. -/
theorem count_comma_backgroundChars (cue : Background) :
    (backgroundChars cue).count ',' =
      cue.name.toList.count ',' + cue.fadeIn.toList.count ',' + cue.fadeOut.toList.count ',' + 2 := by
  have hname : ("BackgroundSampleLine: Code=".toList).count ',' = 0 := by decide
  have hin : (" FadeIn=".toList).count ',' = 0 := by decide
  have hout : (" FadeOut=".toList).count ',' = 0 := by decide
  rw [backgroundChars_eq, List.count_append, List.count_append, List.count_cons_self,
    List.count_append, List.count_append, List.count_cons_self, List.count_append, hname, hin, hout]
  omega

/-- Without commas in its fields, a background is what stands between those of its statement. -/
theorem pieces_backgroundChars {cue : Background} (hname : ',' ∉ cue.name.toList)
    (hfadeIn : ',' ∉ cue.fadeIn.toList) (hfadeOut : ',' ∉ cue.fadeOut.toList) :
    Text.pieces ',' (backgroundChars cue) =
      ["BackgroundSampleLine: Code=".toList ++ cue.name.toList,
        " FadeIn=".toList ++ cue.fadeIn.toList, " FadeOut=".toList ++ cue.fadeOut.toList] := by
  have hfield : ∀ {key value : List Char}, ',' ∉ key → ',' ∉ value →
      Text.pieces ',' (key ++ value) = [key ++ value] := fun hkey hvalue ↦
    Text.pieces_of_notMem fun h ↦ (List.mem_append.1 h).elim hkey hvalue
  rw [backgroundChars_eq, Text.pieces_append, Text.pieces_append, hfield (by decide) hname,
    hfield (by decide) hfadeIn, hfield (by decide) hfadeOut, List.singleton_append,
    List.singleton_append]

/-- A background whose fields do not end early is the only one with its statement. -/
theorem eq_of_backgroundChars_eq {cue cue' : Background} (h : cue.Delimited)
    (heq : backgroundChars cue' = backgroundChars cue) : cue' = cue := by
  have hfadeIn : ',' ∉ cue.fadeIn.toList := fun hmem ↦ (h.fadeIn _ hmem).2 rfl
  have hfadeOut : ',' ∉ cue.fadeOut.toList := fun hmem ↦ (h.fadeOut _ hmem).2 rfl
  have hcount := congrArg (List.count ',') heq
  rw [count_comma_backgroundChars, count_comma_backgroundChars, List.count_eq_zero.2 h.name,
    List.count_eq_zero.2 hfadeIn, List.count_eq_zero.2 hfadeOut] at hcount
  have hpieces := congrArg (Text.pieces ',') heq
  rw [pieces_backgroundChars h.name hfadeIn hfadeOut, pieces_backgroundChars
    (List.count_eq_zero.1 (by omega)) (List.count_eq_zero.1 (by omega))
    (List.count_eq_zero.1 (by omega))] at hpieces
  simp only [List.cons.injEq, List.append_cancel_left_eq, and_true] at hpieces
  obtain ⟨hname, hin, hout⟩ := hpieces
  cases cue
  cases cue'
  simp_all [String.toList_inj]

/-- The stamp of a fade that was found does not end early. -/
theorem delimited_of_findAnywhere?_fade {word cs : List Char} {otherwise : String}
    (h : ∀ c ∈ otherwise.toList, Text.isBlank c = false ∧ c ≠ ',') :
    ∀ c ∈ ((Text.findAnywhere? (fade? word) cs).getD otherwise).toList,
      Text.isBlank c = false ∧ c ≠ ',' := by
  cases hfound : Text.findAnywhere? (fade? word) cs with
  | none => exact h
  | some stamp =>
    obtain ⟨rest, -, hrest⟩ := Text.exists_of_findAnywhere?_eq_some hfound
    simp only [fade?, Option.bind_eq_bind, Option.bind_eq_some_iff] at hrest
    obtain ⟨value, -, hvalue⟩ := hrest
    split at hvalue
    · exact absurd hvalue (by simp)
    · obtain rfl := Option.some.inj hvalue
      rw [Option.getD_some, String.toList_ofList]
      exact fun c hc ↦ isFadeChar_iff.1 (List.all_eq_true.1 List.all_takeWhile c hc)

/-- A background that was read from a statement has no field that ends early. -/
theorem delimited_of_backgroundSample? {cs : List Char} {cue : Background}
    (h : backgroundSample? cs = some cue) : cue.Delimited := by
  obtain ⟨-, rfl⟩ := backgroundSample?_eq_some_iff.1 h
  refine ⟨?_, delimited_of_findAnywhere?_fade (by decide),
    delimited_of_findAnywhere?_fade (by decide)⟩
  rw [String.toList_ofList]
  intro hmem
  have htake := List.all_eq_true.1 List.all_takeWhile _ (Text.mem_of_mem_trim hmem)
  exact absurd htake (by decide)

/-- The fades of the statement of a background are looked for in the name, in the first stamp and
in the second stamp. -/
theorem findAnywhere?_fade_backgroundChars {word : List Char} (hne : word ≠ [])
    (hword : ',' ∉ word ∧ '=' ∉ word) (hkey : ¬ word <:+: "BackgroundSampleLine: Code".toList)
    (cue : Background) :
    Text.findAnywhere? (fade? word) (backgroundChars cue) =
      (Text.findAnywhere? (fade? word) cue.name.toList).or
        ((Text.findAnywhere? (fade? word) (" FadeIn=".toList ++ cue.fadeIn.toList)).or
          (Text.findAnywhere? (fade? word) (" FadeOut=".toList ++ cue.fadeOut.toList))) := by
  have hname : Text.findAnywhere? (fade? word)
      ("BackgroundSampleLine: Code=".toList ++ cue.name.toList) =
      Text.findAnywhere? (fade? word) cue.name.toList := by
    have hsplit : "BackgroundSampleLine: Code=".toList =
        "BackgroundSampleLine: Code".toList ++ ['='] := by decide
    rw [hsplit, List.append_assoc, List.singleton_append,
      Text.findAnywhere?_append_cons (fun _ ↦ fade?_eq_none) hword.2 hkey]
  rw [backgroundChars_eq, findAnywhere?_fade_append_comma hne hword.1,
    findAnywhere?_fade_append_comma hne hword.1, hname]

/-- A fade is found behind its key. -/
theorem findAnywhere?_fade_key {word : List Char} (hword : word ≠ []) (hspace : ' ' ∉ word)
    {stamp : String} (hne : stamp.toList ≠ [])
    (hstamp : ∀ c ∈ stamp.toList, Text.isBlank c = false ∧ c ≠ ',') :
    Text.findAnywhere? (fade? word) (' ' :: (word ++ '=' :: stamp.toList)) = some stamp := by
  have hread := fade?_append word [] hne hstamp (by simp)
  have hfront : ¬ word <:+: [] := by simpa using hword
  rw [List.append_nil, String.ofList_toList] at hread
  exact (Text.findAnywhere?_append_cons (fun _ ↦ fade?_eq_none) hspace hfront _).trans
    (Text.findAnywhere?_of_eq_some hread)

/-- The name stands behind its key, up to the first comma of the statement. -/
theorem findAnywhere?_name (cue : Background) (hname : Text.NoBlankFirst cue.name.toList) :
    ∃ rest, Text.findAnywhere? (assignment? "Code".toList) (backgroundChars cue) =
      some (cue.name.toList ++ ',' :: rest) := by
  have hkey : "BackgroundSampleLine: Code=".toList =
      "BackgroundSampleLine:".toList ++ ' ' :: ("Code".toList ++ ['=']) := by decide
  have hfront : ¬ "Code".toList <:+: "BackgroundSampleLine:".toList :=
    Text.contains_eq_false_iff.1 rfl
  rw [backgroundChars_eq, hkey]
  generalize " FadeIn=".toList ++ cue.fadeIn.toList ++ ',' ::
    (" FadeOut=".toList ++ cue.fadeOut.toList) = rest
  have hfirst : Text.NoBlankFirst (cue.name.toList ++ ',' :: rest) := by
    cases hchars : cue.name.toList with
    | nil =>
      intro c hc
      cases hc
      rfl
    | cons c cs =>
      rw [hchars] at hname
      exact hname
  refine ⟨rest, ?_⟩
  simp only [List.append_assoc, List.cons_append, List.nil_append]
  rw [Text.findAnywhere?_append_cons (fun _ ↦ assignment?_eq_none) (by decide) hfront,
    Text.findAnywhere?_of_eq_some (assignment?_append "Code".toList hfirst)]

/-- What is read from the statement of a background: its name, and for each fade the first stamp
that stands behind the key in one of the fields. -/
theorem backgroundSample?_backgroundChars {cue : Background} (h : cue.Delimited)
    (hname : Text.Clean cue.name.toList) (hfadeIn : cue.fadeIn.toList ≠ [])
    (hfadeOut : cue.fadeOut.toList ≠ []) :
    backgroundSample? (backgroundChars cue) = some
      { name := cue.name
        fadeIn := (Text.findAnywhere? (fade? "FadeIn".toList) cue.name.toList).getD cue.fadeIn
        fadeOut := ((Text.findAnywhere? (fade? "FadeOut".toList) cue.name.toList).or
          (Text.findAnywhere? (fade? "FadeOut".toList) cue.fadeIn.toList)).getD cue.fadeOut } := by
  have hkey : "BackgroundSampleLine".toList <:+: "BackgroundSampleLine: Code=".toList :=
    ⟨[], ": Code=".toList, by decide⟩
  have hword : Text.contains "BackgroundSampleLine".toList (backgroundChars cue) = true :=
    Text.contains_iff.2 (hkey.trans (List.prefix_append _ _).isInfix)
  obtain ⟨rest, hrest⟩ := findAnywhere?_name cue hname.noBlankFirst
  have hvalue : (cue.name.toList ++ ',' :: rest).takeWhile (· != ',') = cue.name.toList := by
    rw [List.takeWhile_append_of_pos]
    · simp
    · intro c hc
      rw [bne_iff_ne]
      rintro rfl
      exact h.name hc
  have hin : Text.findAnywhere? (fade? "FadeIn".toList) (" FadeIn=".toList ++ cue.fadeIn.toList) =
      some cue.fadeIn :=
    findAnywhere?_fade_key (by decide) (by decide) hfadeIn h.fadeIn
  have hout : Text.findAnywhere? (fade? "FadeOut".toList)
      (" FadeOut=".toList ++ cue.fadeOut.toList) = some cue.fadeOut :=
    findAnywhere?_fade_key (by decide) (by decide) hfadeOut h.fadeOut
  -- the key of the first fade does not start the second
  have hpass : Text.findAnywhere? (fade? "FadeOut".toList)
      (" FadeIn=".toList ++ cue.fadeIn.toList) =
      Text.findAnywhere? (fade? "FadeOut".toList) cue.fadeIn.toList := by
    have hsplit : " FadeIn=".toList = " FadeIn".toList ++ ['='] := by decide
    rw [hsplit, List.append_assoc, List.singleton_append, Text.findAnywhere?_append_cons
      (fun _ ↦ fade?_eq_none) (by decide) (Text.contains_eq_false_iff.1 rfl)]
  rw [backgroundSample?, if_pos hword, hrest,
    findAnywhere?_fade_backgroundChars (by decide) (by decide) (Text.contains_eq_false_iff.1 rfl),
    findAnywhere?_fade_backgroundChars (by decide) (by decide) (Text.contains_eq_false_iff.1 rfl),
    hin, hout, hpass]
  simp only [Option.getD_some, hvalue, hname.trimmed, String.ofList_toList, Option.some_or,
    Option.or_some, Option.getD_or]

end Statement

/-- A background that is read back from its statement: no field ends early, and no other stamp is
found before that of a fade. -/
structure Background.Settled (cue : Background) : Prop where
  /-- No field ends early. -/
  delimited : cue.Delimited
  /-- The name does not say another stamp for the first fade. -/
  fadeIn : ∀ stamp ∈ Text.findAnywhere? (Statement.fade? "FadeIn".toList) cue.name.toList,
    stamp = cue.fadeIn
  /-- Neither the name nor the first stamp says another stamp for the second fade. -/
  fadeOut : ∀ stamp ∈ (Text.findAnywhere? (Statement.fade? "FadeOut".toList) cue.name.toList).or
    (Text.findAnywhere? (Statement.fade? "FadeOut".toList) cue.fadeIn.toList), stamp = cue.fadeOut

namespace Statement

/-- A background that the statement can carry mentions no fade in its fields. -/
theorem settled_of_carried {cue : Background} (h : cue.Carried) : cue.Settled := by
  have hmissing : ∀ {word cs : List Char}, ¬ word <:+: cs →
      Text.findAnywhere? (fade? word) cs = none := fun hword ↦
    Text.findAnywhere?_eq_none_of_not_infix (fun _ ↦ fade?_eq_none) hword
  refine ⟨⟨h.comma, h.fadeIn, h.fadeOut⟩, ?_, ?_⟩
  · rw [hmissing h.nameIn]
    exact fun _ h ↦ absurd h (Option.not_mem_none _)
  · rw [hmissing h.nameOut, hmissing h.fadeIn_out]
    exact fun _ h ↦ absurd h (Option.not_mem_none _)

/-- A settled background is read back from its statement. -/
theorem backgroundSample?_of_settled {cue : Background} (h : cue.Settled)
    (hname : Text.Clean cue.name.toList) (hfadeIn : cue.fadeIn.toList ≠ [])
    (hfadeOut : cue.fadeOut.toList ≠ []) :
    backgroundSample? (backgroundChars cue) = some cue := by
  have hgetD : ∀ {found : Option String} {stamp : String}, (∀ s ∈ found, s = stamp) →
      found.getD stamp = stamp := by
    intro found stamp hfound
    cases found with
    | none => rfl
    | some s => exact hfound s rfl
  rw [backgroundSample?_backgroundChars h.delimited hname hfadeIn hfadeOut, hgetD h.fadeIn,
    hgetD h.fadeOut]

/-- What is read from the statement of a background has this statement only if it is the
background. -/
theorem settled_of_backgroundSample? {cue found : Background} (hname : Text.Clean cue.name.toList)
    (hfadeIn : cue.fadeIn.toList ≠ []) (hfadeOut : cue.fadeOut.toList ≠ [])
    (hfound : backgroundSample? (backgroundChars cue) = some found)
    (heq : backgroundChars found = backgroundChars cue) : cue.Settled := by
  obtain rfl : cue = found :=
    eq_of_backgroundChars_eq (delimited_of_backgroundSample? hfound) heq.symm
  have hdelimited := delimited_of_backgroundSample? hfound
  rw [backgroundSample?_backgroundChars hdelimited hname hfadeIn hfadeOut, Option.some.injEq]
    at hfound
  have hgetD : ∀ {found : Option String} {stamp : String}, found.getD stamp = stamp →
      ∀ s ∈ found, s = stamp := by
    rintro _ stamp h s rfl
    exact h
  exact ⟨hdelimited, hgetD (congrArg Background.fadeIn hfound),
    hgetD (congrArg Background.fadeOut hfound)⟩

/-- What the statement of a background says is read back from it. -/
theorem backgroundSample?_of_carried {cue : Background} (h : cue.Carried) :
    backgroundSample? (backgroundChars cue) = some cue :=
  backgroundSample?_of_settled (settled_of_carried h) h.clean h.fadeIn_ne h.fadeOut_ne

end Statement

end Storyline
