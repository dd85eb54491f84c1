import Storyline.Proofs.Transcript.RoundTrip

/-!
# Backgrounds that are read again

The entry of a background in a transcript shows its name and its first stamp. It is read again as a
background that is shown the same if it is no statement of the saved script, and if a colon in the
name stands as the one behind the name does.

A statement of the saved script within an entry is never shown the same. If it were, its name would
stand behind the key in the entry and reach to the end, so that the entry would repeat what follows
the name, and its stamp would stand in itself with a key in front.
-/

namespace Storyline

/-! ### Texts that repeat themselves -/

/-- If a text is an end of itself with another text behind it, it repeats the other one, so what
holds of the ends of this and is kept by writing it behind holds of all ends. -/
theorem Text.suffix_append_induction {a r : List Char} (ha : a <:+ a ++ r) (hr : r ≠ [])
    {P : List Char → Prop} (start : ∀ s, s <:+ r → P s) (step : ∀ s, P s → P (s ++ r))
    {s : List Char} (hs : s <:+ a ++ r) : P s := by
  induction hlength : s.length using Nat.strong_induction_on generalizing s with
  | _ n ih =>
    rcases List.suffix_or_suffix_of_suffix hs (List.suffix_append a r) with h | ⟨t, rfl⟩
    · exact start s h
    · -- what stands in front of `r` is an end of `a`, and so of the whole text again
      have ht : t <:+ a := by
        obtain ⟨front, hfront⟩ := hs
        rw [← List.append_assoc] at hfront
        exact ⟨front, List.append_cancel_right hfront⟩
      have hshorter : t.length < n := by
        rw [← hlength, List.length_append]
        exact Nat.lt_add_of_pos_right (List.length_pos_iff.2 hr)
      exact step t (ih t.length hshorter (ht.trans ha) rfl)

/-- A text that repeats another one has no other characters. -/
theorem Text.notMem_of_suffix_append {a r : List Char} (ha : a <:+ a ++ r) (hr : r ≠ []) {c : Char}
    (hc : c ∉ r) : c ∉ a :=
  suffix_append_induction (P := (c ∉ ·)) ha hr (fun _ hs hmem ↦ hc (hs.subset hmem))
    (fun _ ih hmem ↦ (List.mem_append.1 hmem).elim ih hc) ha

namespace Statement

/-- A stamp does not stand behind its key in a text that repeats a colon, a space and the stamp. -/
theorem fade?_ne_of_suffix {word name : List Char} {stamp : String} (hlength : 3 ≤ word.length)
    (hword : ':' ∉ word) (hname : name <:+ name ++ ':' :: ' ' :: stamp.toList) {s : List Char}
    (hs : s <:+ name ++ ':' :: ' ' :: stamp.toList) : fade? word s ≠ some stamp := by
  -- a stamp that reaches the next round ends with its colon
  have hends : ∀ t, t = [] ∨ t = [':'] → fade? word (s ++ t) ≠ some stamp := by
    refine Text.suffix_append_induction
      (P := fun s ↦ ∀ t, t = [] ∨ t = [':'] → fade? word (s ++ t) ≠ some stamp)
      hname (List.cons_ne_nil _ _) ?_ ?_ hs
    · intro s hs t ht heq
      have hroom := length_lt_of_fade?_eq_some heq
      have hround := hs.length_le
      have hcolon : t.length ≤ 1 := by rcases ht with rfl | rfl <;> simp
      simp only [List.length_append, List.length_cons] at hroom hround
      omega
    · intro s ih t _
      have hnext : fade? word (s ++ ':' :: ' ' :: stamp.toList ++ t) = fade? word (s ++ [':']) := by
        rw [List.append_assoc]
        exact fade?_append_colon hword s (stamp.toList ++ t)
      rw [hnext]
      exact ih [':'] (Or.inr rfl)
  simpa using hends [] (Or.inl rfl)

/-- In a text without commas the name of a background reaches to the end. -/
theorem name_suffix_of_backgroundSample? {cs : List Char} {cue : Background} (hcomma : ',' ∉ cs)
    (hlast : Text.NoBlankLast cs) (h : backgroundSample? cs = some cue) :
    cue.name.toList <:+ cs := by
  obtain ⟨-, rfl⟩ := backgroundSample?_eq_some_iff.1 h
  rw [String.toList_ofList]
  have hsuffix := suffix_getD_assignment "Code".toList cs
  generalize (Text.findAnywhere? (assignment? "Code".toList) cs).getD [] = value at hsuffix
  have hall : value.takeWhile (· != ',') = value := List.takeWhile_eq_self_iff.2 fun c hc ↦
    bne_iff_ne.2 (ne_of_mem_of_not_mem (hsuffix.subset hc) hcomma)
  have hstart : Text.trimStart value <:+ cs := (List.dropWhile_suffix Text.isBlank).trans hsuffix
  rw [hall, Text.trim, (hlast.of_suffix hstart).trimEnd_eq]
  exact hstart

/-- If the entry of a background were a statement of this background, it would repeat what follows
the name. -/
theorem name_suffix_of_backgroundSample?_shorthand {cue : Background}
    (hne : cue.fadeIn.toList ≠ [])
    (h : backgroundSample? ("Background:".toList ++
      (' ' :: cue.name.toList ++ ':' :: ' ' :: cue.fadeIn.toList)) = some cue) :
    cue.name.toList <:+ cue.name.toList ++ ':' :: ' ' :: cue.fadeIn.toList := by
  have hdelimited := delimited_of_backgroundSample? h
  have hsuffix : cue.name.toList ++ ':' :: ' ' :: cue.fadeIn.toList <:+ "Background:".toList ++
      (' ' :: cue.name.toList ++ ':' :: ' ' :: cue.fadeIn.toList) :=
    (List.suffix_cons ' ' _).trans (List.suffix_append _ _)
  refine List.suffix_of_suffix_length_le (name_suffix_of_backgroundSample? ?_ ?_ h) hsuffix
    (by simp)
  · have hstamp : ',' ∉ cue.fadeIn.toList := fun hmem ↦ (hdelimited.fadeIn _ hmem).2 rfl
    simp [hdelimited.name, hstamp]
  · have hstamp := (Text.noBlankLast_of_forall fun c hc ↦ (hdelimited.fadeIn c hc).1).append hne
      ("Background:".toList ++ (' ' :: cue.name.toList ++ [':', ' ']))
    simpa using hstamp

/-- The entry of a background is no statement of this background. -/
theorem backgroundSample?_shorthand_ne {cue : Background} (hne : cue.fadeIn.toList ≠ []) :
    backgroundSample? ("Background:".toList ++
      (' ' :: cue.name.toList ++ ':' :: ' ' :: cue.fadeIn.toList)) ≠ some cue := by
  intro h
  have hrepeats := name_suffix_of_backgroundSample?_shorthand hne h
  obtain ⟨hmark, hcue⟩ := backgroundSample?_eq_some_iff.1 h
  have hfadeIn : (Text.findAnywhere? (fade? "FadeIn".toList) ("Background:".toList ++
      ' ' :: (cue.name.toList ++ ':' :: ' ' :: cue.fadeIn.toList))).getD "00:00:01" = cue.fadeIn :=
    congrArg Background.fadeIn hcue
  rw [Text.findAnywhere?_append_cons (fun _ ↦ fade?_eq_none) (by decide)
    (Text.contains_eq_false_iff.1 rfl)] at hfadeIn
  cases hfound : Text.findAnywhere? (fade? "FadeIn".toList)
      (cue.name.toList ++ ':' :: ' ' :: cue.fadeIn.toList) with
  | none =>
    -- the keyword has a letter that stands neither in the default stamp nor in what repeats it
    rw [hfound, Option.getD_none] at hfadeIn
    have hstamp : 'B' ∉ ':' :: ' ' :: cue.fadeIn.toList := by
      rw [← hfadeIn]
      decide
    have hname := Text.notMem_of_suffix_append hrepeats (List.cons_ne_nil _ _) hstamp
    rcases infix_backgroundShorthand_iff.1 (Text.contains_iff.1 hmark) with hword | hword
    · exact hname (hword.subset (by decide))
    · exact hstamp (List.mem_cons_of_mem _ (List.mem_cons_of_mem _ (hword.subset (by decide))))
  | some stamp =>
    rw [hfound, Option.getD_some] at hfadeIn
    obtain ⟨s, hs, hstamp⟩ := Text.exists_of_findAnywhere?_eq_some hfound
    rw [hfadeIn] at hstamp
    exact fade?_ne_of_suffix (by decide) (by decide) hrepeats hs hstamp

/-- A text with a colon is what stands in front of the first colon and what stands behind it. -/
theorem takeWhile_append_afterColon {cs : List Char} (h : ':' ∈ cs) :
    cs.takeWhile (· != ':') ++ ':' :: afterColon cs = cs := by
  have hcut := List.takeWhile_append_dropWhile (p := (· != ':')) (l := cs)
  have hhead := List.head?_dropWhile_not (· != ':') cs
  rw [afterColon]
  cases hdrop : cs.dropWhile (· != ':') with
  | nil => exact absurd (List.dropWhile_eq_nil_iff.1 hdrop ':' h) (by decide)
  | cons c rest =>
    rw [hdrop] at hcut hhead
    obtain rfl : c = ':' := by simpa using hhead
    exact hcut

end Statement

/-- A background whose entry is read as a background that is shown the same. -/
structure Background.Stable (cue : Background) : Prop where
  /-- The name does not make its line a statement of the saved script. -/
  nameMark : ¬ "BackgroundSampleLine".toList <:+: cue.name.toList
  /-- The stamp does not make its line a statement of the saved script. -/
  fadeInMark : ¬ "BackgroundSampleLine".toList <:+: cue.fadeIn.toList
  /-- The first colon of the name has no blank in front of it and a single space behind it. -/
  colon : ':' ∈ cue.name.toList →
    Text.trim (cue.name.toList.takeWhile (· != ':')) = cue.name.toList.takeWhile (· != ':') ∧
      ' ' :: Text.trimStart (Statement.afterColon cue.name.toList) =
        Statement.afterColon cue.name.toList

instance (cue : Background) : Decidable cue.Stable :=
  decidable_of_iff
    (Text.contains "BackgroundSampleLine".toList cue.name.toList = false ∧
      Text.contains "BackgroundSampleLine".toList cue.fadeIn.toList = false ∧
      (':' ∈ cue.name.toList →
        Text.trim (cue.name.toList.takeWhile (· != ':')) = cue.name.toList.takeWhile (· != ':') ∧
          ' ' :: Text.trimStart (Statement.afterColon cue.name.toList) =
            Statement.afterColon cue.name.toList))
    ⟨fun ⟨hname, hfadeIn, hcolon⟩ ↦
        ⟨Text.contains_eq_false_iff.1 hname, Text.contains_eq_false_iff.1 hfadeIn, hcolon⟩,
      fun h ↦ ⟨Text.contains_eq_false_iff.2 h.nameMark, Text.contains_eq_false_iff.2 h.fadeInMark,
        h.colon⟩⟩

namespace Transcript

variable {lectors : List Lector} {cue : Background}

/-- A statement of the saved script in the entry of a background says a background that is shown
differently. -/
theorem entry_reread_background_ne (h : cue.Sound) {found : Background}
    (hfound : Statement.backgroundSample? (entry lectors (.background cue)).toList = some found) :
    entry lectors (reread lectors (.background cue)) ≠ entry lectors (.background cue) := by
  have hne : cue.fadeIn.toList ≠ [] := by simpa using h.fadeIn.2
  have hunbroken : '\n' ∉ (entry lectors (.background cue)).toList :=
    unbroken_entry_background h.name.unbroken h.fadeIn.1.unbroken
  have hfoundNe : found.fadeIn.toList ≠ [] := by
    simpa using (Statement.sound_of_backgroundSample? hunbroken hfound).fadeIn.2
  have hreread : reread lectors (.background cue) = .background found := by
    rw [reread, trim_entry_background lectors h.fadeIn.1 hne, toList_entry_background,
      Statement.read_of_backgroundSample? (by rwa [← toList_entry_background lectors])]
    rfl
  rw [hreread]
  intro heq
  rw [← heq, toList_entry_background] at hfound
  exact Statement.backgroundSample?_shorthand_ne hfoundNe hfound

/-- A background whose name has a colon is read back with what stands in front of the first one as
its name and with the rest in its stamp. -/
theorem reread_background_colon (h : cue.Sound)
    (hsample : Statement.backgroundSample? (entry lectors (.background cue)).toList = none)
    {a b : List Char} (hname : cue.name.toList = a ++ ':' :: b) (ha : ':' ∉ a) :
    reread lectors (.background cue) = .background
      { name := String.ofList (Text.trim a)
        fadeIn := String.ofList (Text.trimStart b ++ ':' :: ' ' :: cue.fadeIn.toList) } := by
  have hne : cue.fadeIn.toList ≠ [] := by simpa using h.fadeIn.2
  have hstamp : Text.trim (b ++ ':' :: ' ' :: cue.fadeIn.toList) =
      Text.trimStart b ++ ':' :: ' ' :: cue.fadeIn.toList := by
    have hlast := h.fadeIn.1.noBlankLast.append hne (Text.trimStart b ++ [':', ' '])
    rw [Text.trim, Text.trimStart_append_cons (by decide), Text.NoBlankLast.trimEnd_eq]
    simpa using hlast
  have hspace : ':' ∉ ' ' :: a := by simpa using ha
  have hread := Statement.backgroundShorthand?_append_colon hspace (by rw [hstamp]; simp)
  rw [Text.trim_space, hstamp] at hread
  have hsplit : ' ' :: cue.name.toList ++ ':' :: ' ' :: cue.fadeIn.toList =
      ' ' :: a ++ ':' :: (b ++ ':' :: ' ' :: cue.fadeIn.toList) := by simp [hname]
  rw [toList_entry_background, hsplit] at hsample
  rw [reread, trim_entry_background lectors h.fadeIn.1 hne, toList_entry_background, hsplit,
    Statement.read_of_backgroundShorthand? hsample hread, Statement.toKind]

/-- Such a background is shown the same if the colon stands as the one behind the name does. -/
theorem entry_reread_background_colon_iff (h : cue.Sound)
    (hsample : Statement.backgroundSample? (entry lectors (.background cue)).toList = none)
    {a b : List Char} (hname : cue.name.toList = a ++ ':' :: b) (ha : ':' ∉ a) :
    entry lectors (reread lectors (.background cue)) = entry lectors (.background cue) ↔
      Text.trim a = a ∧ ' ' :: Text.trimStart b = b := by
  have htrim : ':' ∉ Text.trim a := fun hmem ↦ ha (Text.mem_of_mem_trim hmem)
  rw [reread_background_colon h hsample hname ha, ← String.toList_inj, toList_entry_background,
    toList_entry_background, List.append_cancel_left_eq, String.toList_ofList, String.toList_ofList,
    hname]
  simp only [List.cons_append, List.append_assoc, List.cons.injEq, true_and]
  rw [Text.append_cons_inj htrim ha, ← List.cons_append, List.append_cancel_right_eq]

/-- A background is shown the same when its entry is read exactly if the entry is no statement of
the saved script and a colon in the name stands as the one behind the name does. -/
theorem entry_reread_background_iff (h : cue.Sound) :
    entry lectors (reread lectors (.background cue)) = entry lectors (.background cue) ↔
      cue.Stable := by
  have hne : cue.fadeIn.toList ≠ [] := by simpa using h.fadeIn.2
  by_cases hmark : "BackgroundSampleLine".toList <:+: (entry lectors (.background cue)).toList
  · obtain ⟨found, hfound⟩ := Statement.exists_backgroundSample? hmark
    rw [toList_entry_background, Statement.infix_backgroundShorthand_iff] at hmark
    exact iff_of_false (entry_reread_background_ne h hfound)
      fun hstable ↦ hmark.elim hstable.nameMark hstable.fadeInMark
  rw [toList_entry_background, Statement.infix_backgroundShorthand_iff, not_or] at hmark
  obtain ⟨hnameMark, hfadeInMark⟩ := hmark
  by_cases hcolon : ':' ∈ cue.name.toList
  · have hname := Statement.takeWhile_append_afterColon hcolon
    have hfront : ':' ∉ cue.name.toList.takeWhile (· != ':') := fun hmem ↦
      absurd (List.all_eq_true.1 List.all_takeWhile _ hmem) (by decide)
    have hsample : Statement.backgroundSample? (entry lectors (.background cue)).toList = none := by
      rw [toList_entry_background]
      exact Statement.backgroundSample?_shorthand hnameMark hfadeInMark
    rw [entry_reread_background_colon_iff h hsample hname.symm hfront]
    exact ⟨fun hstands ↦ ⟨hnameMark, hfadeInMark, fun _ ↦ hstands⟩,
      fun hstable ↦ hstable.colon hcolon⟩
  · refine iff_of_true ?_ ⟨hnameMark, hfadeInMark, fun hmem ↦ absurd hmem hcolon⟩
    have hread := Statement.read_backgroundShorthand h.name hcolon hnameMark h.fadeIn.1 hne
      hfadeInMark
    rw [reread, trim_entry_background lectors h.fadeIn.1 hne, toList_entry_background, hread,
      Statement.toKind, String.ofList_toList, String.ofList_toList, entry, entry]

end Transcript

end Storyline
