import Mathlib.Data.List.TakeWhile
import Storyline.Text.Letter
import Storyline.Text.Search

/-!
# Where a word occurs

A word that lacks some character does not reach across it: it occurs in a text exactly if it occurs
before or behind the place where that character stands. So a search passes over everything in front
of such a place that does not contain the word.
-/

namespace Storyline.Text

variable {α : Type}

/-- A word that lacks the character between two texts occurs in one of them or in neither. -/
theorem infix_append_cons_iff {word a b : List Char} {c : Char} (hc : c ∉ word) :
    word <:+: a ++ c :: b ↔ word <:+: a ∨ word <:+: b := by
  constructor
  · intro h
    rcases List.infix_append_iff.1 h with h | h | ⟨front, back, rfl, hfront, hback⟩
    · exact Or.inl h
    · rcases List.infix_cons_iff.1 h with h | h
      · cases word with
        | nil => exact Or.inl List.nil_infix
        | cons w ws =>
          obtain ⟨rfl, -⟩ := List.cons_prefix_cons.1 h
          simp at hc
      · exact Or.inr h
    · -- the part behind the boundary would have to start with `c`
      cases back with
      | nil => exact Or.inl (by simpa using hfront.isInfix)
      | cons w ws =>
        obtain ⟨rfl, -⟩ := List.cons_prefix_cons.1 hback
        simp at hc
  · rintro (h | h)
    · exact h.trans (List.prefix_append a (c :: b)).isInfix
    · exact h.trans ((List.suffix_cons c b).trans (List.suffix_append a (c :: b))).isInfix

/-- A word is not found exactly if it does not occur. -/
theorem contains_eq_false_iff {word cs : List Char} :
    contains word cs = false ↔ ¬ word <:+: cs := by
  rw [← contains_iff, Bool.not_eq_true]

/-- A word with a character that the text lacks does not occur in it. -/
theorem not_infix_of_notMem {word cs : List Char} {c : Char} (hc : c ∈ word) (h : c ∉ cs) :
    ¬ word <:+: cs :=
  fun hw ↦ h (hw.subset hc)

/-- What is read up to a character ends in front of the first such character. -/
theorem takeWhile_append_cons {p : Char → Bool} {c : Char} (hc : p c = false) (a b : List Char) :
    (a ++ c :: b).takeWhile p = a.takeWhile p := by
  have hend : (c :: b).takeWhile p = [] := List.takeWhile_cons_of_neg (by simp [hc])
  rw [List.takeWhile_append]
  split
  · next h => rw [hend, List.append_nil, (List.takeWhile_prefix p).eq_of_length h]
  · rfl

/-- A text is cut at the first place of a character in one way only. -/
theorem append_cons_inj {c : Char} {a a' b b' : List Char} (ha : c ∉ a) (ha' : c ∉ a') :
    a ++ c :: b = a' ++ c :: b' ↔ a = a' ∧ b = b' := by
  refine ⟨fun h ↦ ?_, fun ⟨hfront, hback⟩ ↦ by rw [hfront, hback]⟩
  have hall : ∀ {front : List Char}, c ∉ front → front.takeWhile (· != c) = front := fun hfront ↦
    List.takeWhile_eq_self_iff.2 fun d hd ↦ bne_iff_ne.2 (ne_of_mem_of_not_mem hd hfront)
  have htake := congrArg (List.takeWhile (· != c)) h
  rw [takeWhile_append_cons (by simp), takeWhile_append_cons (by simp), hall ha, hall ha'] at htake
  subst htake
  exact ⟨rfl, (List.cons.inj (List.append_cancel_left h)).2⟩

/-- A word is read where it stands. -/
@[simp] theorem dropPrefix?_append (word rest : List Char) :
    dropPrefix? word (word ++ rest) = some rest :=
  dropPrefix?_eq_some_iff.2 rfl

/-- A word is read part by part. -/
theorem dropPrefix?_append_word (v w cs : List Char) :
    dropPrefix? (v ++ w) cs = (dropPrefix? v cs).bind (dropPrefix? w) := by
  fun_induction dropPrefix? v cs with
  | case1 => rfl
  | case2 => rfl
  | case3 v d cs ih => rw [List.cons_append, dropPrefix?, if_pos rfl, ih]
  | case4 c v d cs hne => rw [List.cons_append, dropPrefix?, if_neg hne, Option.bind_none]

/-- A word is read in front of a character that it lacks. -/
theorem dropPrefix?_append_cons {word : List Char} {c : Char} (hc : c ∉ word) (a b : List Char) :
    dropPrefix? word (a ++ c :: b) = (dropPrefix? word a).map (· ++ c :: b) := by
  fun_induction dropPrefix? word a with
  | case1 => rfl
  | case2 w ws =>
    have hne : w ≠ c := by
      rintro rfl
      exact hc List.mem_cons_self
    rw [List.nil_append, dropPrefix?, if_neg hne, Option.map_none]
  | case3 ws d a ih =>
    rw [List.cons_append, dropPrefix?, if_pos rfl, ih fun h ↦ hc (List.mem_cons_of_mem d h)]
  | case4 w ws d a hne => rw [List.cons_append, dropPrefix?, if_neg hne, Option.map_none]

/-- A word that does not occur before a character that it lacks cannot be read from a place up to
that character. -/
theorem dropPrefix?_eq_none_of_suffix {word a front rest : List Char} {c : Char} (hc : c ∉ word)
    (ha : ¬ word <:+: a) (hfront : front <:+ a ++ [c]) (hne : front ≠ []) :
    dropPrefix? word (front ++ rest) = none := by
  obtain ⟨init, rfl, hinit⟩ : ∃ init, front = init ++ [c] ∧ init <:+ a := by
    rcases List.suffix_concat_iff.1 hfront with h | h
    · exact absurd h hne
    · exact h
  rw [Option.eq_none_iff_forall_ne_some]
  intro after hafter
  have hsplit : init ++ c :: rest = word ++ after := by
    simpa using dropPrefix?_eq_some_iff.1 hafter
  rcases List.append_eq_append_iff.1 hsplit with ⟨ws, hword, hws⟩ | ⟨ws, hword, -⟩
  · cases ws with
    | nil => exact ha (by simpa [hword] using hinit.isInfix)
    | cons w ws =>
      obtain ⟨rfl, -⟩ := List.cons.inj hws
      simp [hword] at hc
  · exact ha (((List.prefix_append word ws).isInfix).trans (hword ▸ hinit.isInfix))

/-- A search that succeeds at the start of a text stops there. -/
theorem findAnywhere?_of_eq_some {f : List Char → Option α} {cs : List Char} {x : α}
    (h : f cs = some x) : findAnywhere? f cs = some x := by
  cases cs <;> simp [findAnywhere?, h]

/-- A search passes over a text at none of whose places it succeeds. -/
theorem findAnywhere?_append {f : List Char → Option α} {a b : List Char}
    (h : ∀ front, front <:+ a → front ≠ [] → f (front ++ b) = none) :
    findAnywhere? f (a ++ b) = findAnywhere? f b := by
  induction a with
  | nil => rfl
  | cons c a ih =>
    have hhere : f (c :: (a ++ b)) = none := by
      simpa using h (c :: a) (List.suffix_refl _) (List.cons_ne_nil c a)
    have hlater : findAnywhere? f (a ++ b) = findAnywhere? f b :=
      ih fun front hfront ↦ h front (hfront.trans (List.suffix_cons c a))
    rw [List.cons_append, findAnywhere?, hhere, Option.none_or, hlater]

/-- A search for what starts with a word passes over a text in which the word does not stand. -/
theorem findAnywhere?_append_cons {f : List Char → Option α} {word a : List Char} {c : Char}
    (hword : ∀ rest, dropPrefix? word rest = none → f rest = none) (hc : c ∉ word)
    (ha : ¬ word <:+: a) (b : List Char) : findAnywhere? f (a ++ c :: b) = findAnywhere? f b := by
  rw [List.append_cons, findAnywhere?_append]
  intro front hfront hne
  exact hword _ (dropPrefix?_eq_none_of_suffix hc ha hfront hne)

/-- A search for what starts with a word fails where the word does not stand. -/
theorem findAnywhere?_eq_none_of_not_infix {f : List Char → Option α} {word cs : List Char}
    (hword : ∀ rest, dropPrefix? word rest = none → f rest = none) (hcs : ¬ word <:+: cs) :
    findAnywhere? f cs = none := by
  rw [findAnywhere?_eq_none_iff]
  refine fun rest hrest ↦ hword rest (Option.eq_none_iff_forall_ne_some.2 fun after hafter ↦ ?_)
  rw [dropPrefix?_eq_some_iff] at hafter
  exact hcs (List.IsInfix.trans ⟨[], after, hafter.symm⟩ hrest.isInfix)

/-- What a search finds stands at some place of the text. -/
theorem exists_of_findAnywhere?_eq_some {f : List Char → Option α} {cs : List Char} {x : α}
    (h : findAnywhere? f cs = some x) : ∃ rest, rest <:+ cs ∧ f rest = some x := by
  induction cs with
  | nil => exact ⟨[], List.suffix_refl _, h⟩
  | cons c cs ih =>
    rw [findAnywhere?, Option.or_eq_some_iff] at h
    rcases h with h | ⟨-, h⟩
    · exact ⟨c :: cs, List.suffix_refl _, h⟩
    · obtain ⟨rest, hrest, hfound⟩ := ih h
      exact ⟨rest, hrest.trans (List.suffix_cons c cs), hfound⟩

/-- What is made of a finding can be made at every place. -/
theorem findAnywhere?_map {β : Type} (f : List Char → Option α) (g : α → β) (cs : List Char) :
    findAnywhere? (fun rest ↦ (f rest).map g) cs = (findAnywhere? f cs).map g := by
  induction cs with
  | nil => rfl
  | cons c cs ih => rw [findAnywhere?, findAnywhere?, ih, Option.map_or]

/-- What a search behind blanks finds stands at some place of the text. -/
theorem exists_of_findAfterBlank?_eq_some {f : List Char → Option α} {cs : List Char} {x : α}
    (h : findAfterBlank? f cs = some x) : ∃ rest, rest <:+ cs ∧ f rest = some x := by
  induction cs with
  | nil => exact absurd h (by simp [findAfterBlank?])
  | cons c cs ih =>
    rw [findAfterBlank?, Option.or_eq_some_iff] at h
    rcases h with h | ⟨-, h⟩
    · split at h
      · exact ⟨cs, List.suffix_cons c cs, h⟩
      · exact absurd h (by simp)
    · obtain ⟨rest, hrest, hfound⟩ := ih h
      exact ⟨rest, hrest.trans (List.suffix_cons c cs), hfound⟩

/-- What is made of a finding can be made behind every blank. -/
theorem findAfterBlank?_map {β : Type} (f : List Char → Option α) (g : α → β) (cs : List Char) :
    findAfterBlank? (fun rest ↦ (f rest).map g) cs = (findAfterBlank? f cs).map g := by
  induction cs with
  | nil => rfl
  | cons c cs ih =>
    rw [findAfterBlank?, findAfterBlank?, ih, Option.map_or]
    split <;> rfl

/-- A search behind blanks passes over a text behind none of whose blanks it succeeds. -/
theorem findAfterBlank?_append {f : List Char → Option α} {a b : List Char}
    (h : ∀ c front, c :: front <:+ a → isBlank c = true → f (front ++ b) = none) :
    findAfterBlank? f (a ++ b) = findAfterBlank? f b := by
  induction a with
  | nil => rfl
  | cons c a ih =>
    have hhere : (if isBlank c then f (a ++ b) else none) = none := by
      split
      · next hblank => exact h c a (List.suffix_refl _) hblank
      · rfl
    rw [List.cons_append, findAfterBlank?, hhere, Option.none_or]
    exact ih fun d front hfront ↦ h d front (hfront.trans (List.suffix_cons c a))

/-- A search behind blanks finds nothing where it fails at every place. -/
theorem findAfterBlank?_eq_none {f : List Char → Option α} {cs : List Char}
    (h : ∀ rest, rest <:+ cs → f rest = none) : findAfterBlank? f cs = none := by
  rw [Option.eq_none_iff_forall_ne_some]
  intro x hx
  obtain ⟨rest, hrest, hfound⟩ := exists_of_findAfterBlank?_eq_some hx
  rw [h rest hrest] at hfound
  exact absurd hfound (by simp)

/-- What a word was read from stands at the end of the text. -/
theorem suffix_of_dropPrefix?_eq_some {word cs rest : List Char}
    (h : dropPrefix? word cs = some rest) : rest <:+ cs :=
  ⟨word, (dropPrefix?_eq_some_iff.1 h).symm⟩

/-- What a word was read from in letters of either case stands at the end of the text. -/
theorem suffix_of_dropWord?_eq_some {word cs rest : List Char}
    (h : dropWord? word cs = some rest) : rest <:+ cs := by
  fun_induction dropWord? word cs with
  | case1 cs => exact Option.some.inj h ▸ List.suffix_refl _
  | case2 => exact absurd h (by simp)
  | case3 w ws c cs _ ih => exact (ih h).trans (List.suffix_cons c cs)
  | case4 => exact absurd h (by simp)

end Storyline.Text
