import Mathlib.Data.List.DropRight
import Storyline.Proofs.Json.Layout
import Storyline.Proofs.Json.Lexeme

/-!
# Values read back

To a reader the spaces between the parts of a value make no difference: from its text in any layout
the value is read again. Only values that have a text come back, that is values without unreadable
parts whose numbers are well formed.
-/

namespace Storyline.Json

/-- No part of a value is unreadable, every number in it satisfies `p`, and at most `n` arrays and
objects stand inside each other. -/
inductive Sound (p : Numeral → Prop) : Nat → Json → Prop where
  | null {n : Nat} : Sound p n null
  | bool {n : Nat} (b : Bool) : Sound p n (bool b)
  | number {n : Nat} {numeral : Numeral} (h : p numeral) : Sound p n (number numeral)
  | string {n : Nat} (s : String) : Sound p n (string s)
  | array {n : Nat} {items : List Json} (h : ∀ item ∈ items, Sound p n item) :
    Sound p (n + 1) (array items)
  | object {n : Nat} {fields : List (String × Json)} (h : ∀ field ∈ fields, Sound p n field.2) :
    Sound p (n + 1) (object fields)

variable {n : Nat}

/-- A value without parts that cannot be kept can be kept. -/
theorem isKeepable_of_sound {j : Json} (h : j.Sound (·.isKeepable) n) : j.isKeepable = true := by
  induction h with
  | null | bool | string => rfl
  | number h => exact h
  | @array _ items h ih =>
    rw [isKeepable]
    clear h
    induction items with
    | nil => rfl
    | cons item items ihs =>
      rw [List.forall_mem_cons] at ih
      rw [areItemsKeepable, ih.1, ihs ih.2, Bool.and_self]
  | @object _ fields h ih =>
    rw [isKeepable]
    clear h
    induction fields with
    | nil => rfl
    | cons field fields ihs =>
      rw [List.forall_mem_cons] at ih
      rw [areFieldsKeepable, ih.1, ihs ih.2, Bool.and_self]

/-- A sound value is no deeper than it may be. -/
theorem depth_le_of_sound {p : Numeral → Prop} {j : Json} (h : j.Sound p n) : j.depth ≤ n := by
  induction h with
  | null | bool | string | number => exact Nat.zero_le _
  | @array _ items h ih =>
    rw [depth]
    clear h
    induction items with
    | nil => exact Nat.succ_le_succ (Nat.zero_le _)
    | cons item items ihs =>
      rw [List.forall_mem_cons] at ih
      have hitems := ihs ih.2
      have hitem := ih.1
      rw [depthOfItems]
      omega
  | @object _ fields h ih =>
    rw [depth]
    clear h
    induction fields with
    | nil => exact Nat.succ_le_succ (Nat.zero_le _)
    | cons field fields ihs =>
      rw [List.forall_mem_cons] at ih
      have hfields := ihs ih.2
      have hfield := ih.1
      rw [depthOfFields]
      omega

/-! ### Reading -/

variable {layout : Layout}

private theorem skipSpace_append {gap : List Char} (h : ∀ c ∈ gap, isSpace c = true)
    (rest : List Char) :
    skipSpace (gap ++ rest) = skipSpace rest :=
  List.dropWhile_append_of_pos h

private theorem skipSpace_skipSpace (cs : List Char) : skipSpace (skipSpace cs) = skipSpace cs :=
  List.dropWhile_idempotent isSpace cs

private theorem skipSpace_cons {c : Char} (h : isSpace c = false) (rest : List Char) :
    skipSpace (c :: rest) = c :: rest := by
  rw [skipSpace, List.dropWhile_cons_of_neg (by simp [h])]

/-- Behind the spaces of a gap no number goes on. -/
theorem ends_append_cons {gap : List Char} (h : ∀ c ∈ gap, isSpace c = true) {c : Char}
    (hc : c = ',' ∨ c = ']' ∨ c = '\x7d') (rest : List Char) : Ends (gap ++ c :: rest) := by
  intro d hd
  cases gap with
  | nil =>
    obtain rfl : c = d := Option.some.inj hd
    rcases hc with rfl | rfl | rfl <;> decide
  | cons space gap =>
    obtain rfl : space = d := Option.some.inj hd
    have hspace := h space List.mem_cons_self
    simp only [isSpace, Bool.or_eq_true, beq_iff_eq] at hspace
    rcases hspace with ((rfl | rfl) | rfl) | rfl <;> decide

private theorem ends_comma (rest : List Char) : Ends (',' :: rest) :=
  ends_append_cons (fun _ hc ↦ absurd hc List.not_mem_nil) (.inl rfl) rest

/-- A number starts with a digit or a minus sign. -/
theorem exists_toChars_eq_cons {n : Numeral} (h : n.WellFormed) :
    ∃ c cs, n.toChars = c :: cs ∧ (c = '-' ∨ c.isDigit = true) := by
  obtain ⟨c, cs, hc⟩ := List.exists_cons_of_ne_nil h.whole_ne_nil
  have hdigit := h.isDigit_whole c (by rw [hc]; exact List.mem_cons_self)
  rw [Numeral.toChars, hc]
  cases n.negative with
  | true => exact ⟨'-', _, rfl, .inl rfl⟩
  | false => exact ⟨c, _, rfl, .inr hdigit⟩

/-- No digit and no minus sign starts a value that is no number. -/
theorem start_of_number {c : Char} (h : c = '-' ∨ c.isDigit = true) :
    isSpace c = false ∧ ∀ d ∈ ['n', 't', 'f', '"', '[', ']', '\x7b'], c ≠ d := by
  refine ⟨?_, ?_⟩
  · rw [Bool.eq_false_iff]
    intro hspace
    simp only [isSpace, Bool.or_eq_true, beq_iff_eq] at hspace
    rcases hspace with ((rfl | rfl) | rfl) | rfl <;> exact absurd h (by decide)
  · rintro d hd rfl
    simp only [List.mem_cons, List.not_mem_nil, or_false] at hd
    rcases hd with rfl | rfl | rfl | rfl | rfl | rfl | rfl <;> exact absurd h (by decide)

/-- The first character of a value is not one at which a list of values could end. -/
theorem exists_chars_eq_cons (layout : Layout) {j : Json} (h : j.Sound Numeral.WellFormed n)
    (level : Nat) :
    ∃ c cs, layout.chars level j = c :: cs ∧ isSpace c = false ∧ c ≠ ']' := by
  cases h with
  | null => exact ⟨'n', _, rfl, rfl, by decide⟩
  | bool b => cases b <;> exact ⟨_, _, rfl, rfl, by decide⟩
  | string s => exact ⟨'"', _, rfl, rfl, by decide⟩
  | @array _ items => cases items <;> exact ⟨'[', _, rfl, rfl, by decide⟩
  | @object _ fields => cases fields <;> exact ⟨'\x7b', _, rfl, rfl, by decide⟩
  | number h =>
    obtain ⟨c, cs, hchars, hc⟩ := exists_toChars_eq_cons h
    exact ⟨c, cs, hchars, (start_of_number hc).1, (start_of_number hc).2 _ (by simp)⟩

/-- Every text of the value in the layout is read as the value, whatever follows it. -/
def ReadsBack (layout : Layout) (j : Json) : Prop :=
  ∀ level bound rest, 2 * (layout.chars level j).length ≤ bound + 1 → Ends rest →
    readValue bound (layout.chars level j ++ rest) = some (j, rest)

private theorem readValue_skipSpace (bound : Nat) (cs : List Char) :
    readValue bound (skipSpace cs) = readValue bound cs := by
  cases bound with
  | zero => rfl
  | succ bound => rw [readValue, readValue, skipSpace_skipSpace]

private theorem readItems_skipSpace (bound : Nat) (cs : List Char) :
    readItems bound (skipSpace cs) = readItems bound cs := by
  cases bound with
  | zero => rfl
  | succ bound => rw [readItems, readItems, readValue_skipSpace]

private theorem readFields_skipSpace (bound : Nat) (cs : List Char) :
    readFields bound (skipSpace cs) = readFields bound cs := by
  cases bound with
  | zero => rfl
  | succ bound => rw [readFields, readFields, skipSpace_skipSpace]

/-- A value that is read back is also read behind a gap. -/
theorem readValue_gap {gap : List Char} (hgap : ∀ c ∈ gap, isSpace c = true) {j : Json}
    (h : ReadsBack layout j) {level bound : Nat} {rest : List Char} (hrest : Ends rest)
    (hbound : 2 * (layout.chars level j).length ≤ bound + 1) :
    readValue bound (gap ++ layout.chars level j ++ rest) = some (j, rest) := by
  rw [List.append_assoc, ← readValue_skipSpace, skipSpace_append hgap, readValue_skipSpace,
    h level bound rest hbound hrest]

/-- Items that are read back are read up to the bracket that closes their array. -/
theorem readItems_append {items : List Json} (h : ∀ item ∈ items, ReadsBack layout item)
    (hne : items ≠ []) {level bound : Nat} {gap : List Char} (hgap : ∀ c ∈ gap, isSpace c = true)
    (rest : List Char) (hbound : 2 * (layout.itemsChars level items).length ≤ bound)
    (hpos : 0 < bound) :
    readItems bound (layout.itemsChars level items ++ (gap ++ ']' :: rest)) =
      some (items, rest) := by
  -- along the items: each of them takes one step of the bound and at least two of its length
  induction items generalizing bound with
  | nil => exact absurd rfl hne
  | cons item items ih =>
    rw [List.forall_mem_cons] at h
    obtain ⟨bound, rfl⟩ : ∃ b, bound = b + 1 := ⟨bound - 1, by omega⟩
    have hgaps := layout.isSpace_gap level
    cases items with
    | nil =>
      rw [Layout.itemsChars, List.length_append] at hbound
      have hends := ends_append_cons hgap (.inr (.inl rfl)) rest
      have hclose : skipSpace (gap ++ ']' :: rest) = ']' :: rest := by
        rw [skipSpace_append hgap, skipSpace_cons rfl]
      rw [Layout.itemsChars, readItems, readValue_gap hgaps h.1 hends (by omega)]
      simp [hclose]
    | cons next items =>
      rw [Layout.itemsChars_cons_cons] at hbound ⊢
      simp only [List.length_append, List.length_cons] at hbound
      have hitems : readItems bound
          (layout.itemsChars level (next :: items) ++ (gap ++ ']' :: rest)) =
            some (next :: items, rest) :=
        ih h.2 (List.cons_ne_nil _ _) (by omega) (by omega)
      rw [List.append_assoc, List.cons_append, readItems,
        readValue_gap hgaps h.1 (ends_comma _) (by omega)]
      simp [skipSpace_cons, isSpace, hitems]

/-- Reading goes over the name of a field and on to its value. -/
theorem readFields_name (level bound : Nat) (name : String) (cs : List Char) :
    readFields (bound + 1) (layout.gap level ++ quote name ++ ':' :: cs) = (do
      let (value, rest) ← readValue bound cs
      match skipSpace rest with
      | '\x7d' :: rest => return ([(some name, value)], rest)
      | ',' :: rest =>
        let (fields, rest) ← readFields bound rest
        return ((some name, value) :: fields, rest)
      | _ => none) := by
  have hname : quote name ++ ':' :: cs =
      '"' :: (name.toList.flatMap escapeChar ++ '"' :: ':' :: cs) := by
    rw [quote, List.cons_append, List.cons_append, List.append_assoc, List.singleton_append]
  rw [List.append_assoc, readFields, skipSpace_append (layout.isSpace_gap level), hname,
    skipSpace_cons rfl]
  simp only [readString_escaped, Option.bind_eq_bind, Option.bind_some]
  rw [skipSpace_cons rfl]
  rfl

/-- Fields whose values are read back are read up to the brace that closes their object. -/
theorem readFields_append {fields : List (String × Json)}
    (h : ∀ field ∈ fields, ReadsBack layout field.2) (hne : fields ≠ []) {level bound : Nat}
    {gap : List Char} (hgap : ∀ c ∈ gap, isSpace c = true) (rest : List Char)
    (hbound : 2 * (layout.fieldsChars level fields).length ≤ bound) (hpos : 0 < bound) :
    readFields bound (layout.fieldsChars level fields ++ (gap ++ '\x7d' :: rest)) =
      some (fields.map fun field ↦ (some field.1, field.2), rest) := by
  induction fields generalizing bound with
  | nil => exact absurd rfl hne
  | cons field fields ih =>
    rw [List.forall_mem_cons] at h
    obtain ⟨name, value⟩ := field
    obtain ⟨bound, rfl⟩ : ∃ b, bound = b + 1 := ⟨bound - 1, by omega⟩
    have hvalue : ReadsBack layout value := h.1
    cases fields with
    | nil =>
      simp only [Layout.fieldsChars, List.length_append, List.length_cons] at hbound
      have hends := ends_append_cons hgap (.inr (.inr rfl)) rest
      have hclose : skipSpace (gap ++ '\x7d' :: rest) = '\x7d' :: rest := by
        rw [skipSpace_append hgap, skipSpace_cons rfl]
      rw [Layout.fieldsChars, List.append_assoc, List.cons_append, readFields_name,
        readValue_gap layout.isSpace_space hvalue hends (by omega)]
      simp [hclose]
    | cons next fields =>
      rw [Layout.fieldsChars_cons_cons] at hbound ⊢
      simp only [List.length_append, List.length_cons] at hbound
      have hfields : readFields bound
          (layout.fieldsChars level (next :: fields) ++ (gap ++ '\x7d' :: rest)) =
            some ((next :: fields).map fun field ↦ (some field.1, field.2), rest) :=
        ih h.2 (List.cons_ne_nil _ _) (by omega) (by omega)
      rw [List.append_assoc, List.append_assoc, List.cons_append, List.cons_append, readFields_name,
        readValue_gap layout.isSpace_space hvalue (ends_comma _) (by omega)]
      simp [skipSpace_cons, isSpace, hfields]

/-- The object of fields with readable names. -/
theorem objectOfFields_map (fields : List (String × Json)) :
    objectOfFields (fields.map fun field ↦ (some field.1, field.2)) = object fields := by
  rw [objectOfFields, Text.mapM_map_eq_some]
  exact fun _ ↦ rfl

private theorem readValue_string (s : String) (bound : Nat) (rest : List Char) :
    readValue (bound + 1) (quote s ++ rest) = some (string s, rest) := by
  rw [quote, List.cons_append, List.cons_append, readValue, skipSpace_cons rfl]
  simp [readString_escaped]

private theorem readValue_number {n : Numeral} (h : n.WellFormed) (bound : Nat) {rest : List Char}
    (hrest : Ends rest) : readValue (bound + 1) (n.toChars ++ rest) = some (number n, rest) := by
  obtain ⟨c, cs, hchars, hc⟩ := exists_toChars_eq_cons h
  obtain ⟨hspace, hstart⟩ := start_of_number hc
  have hread := readNumeral_append h hrest
  rw [hchars, List.cons_append] at hread
  rw [hchars, List.cons_append, readValue, skipSpace_cons hspace]
  -- of the seven forms of a value only the last can start like a number
  split
  case h_7 => simp [hread]
  all_goals exact absurd (List.cons.inj ‹_›).1 (hstart _ (by simp))

/-- Behind the bracket that opens an array there are its items, unless it is closed at once. -/
theorem readValue_array {bound : Nat} {cs : List Char} (h : (skipSpace cs).head? ≠ some ']') :
    readValue (bound + 1) ('[' :: cs) =
      (readItems bound cs).map fun (items, rest) ↦ (array items, rest) := by
  rw [readValue, skipSpace_cons rfl]
  simp only
  split
  · next hclose => exact absurd (by rw [hclose]; rfl) h
  · rw [readItems_skipSpace]
    exact (Option.map_eq_bind ..).symm

/-- Behind the brace that opens an object there are its fields, unless it is closed at once. -/
theorem readValue_object {bound : Nat} {cs : List Char} (h : (skipSpace cs).head? ≠ some '\x7d') :
    readValue (bound + 1) ('\x7b' :: cs) =
      (readFields bound cs).map fun (fields, rest) ↦ (objectOfFields fields, rest) := by
  rw [readValue, skipSpace_cons rfl]
  simp only
  split
  · next hclose => exact absurd (by rw [hclose]; rfl) h
  · rw [readFields_skipSpace]
    exact (Option.map_eq_bind ..).symm

/-- No array with an item is closed at once. -/
theorem head?_skipSpace_itemsChars {item : Json} (h : item.Sound Numeral.WellFormed n)
    (items : List Json) (level : Nat) (rest : List Char) :
    (skipSpace (layout.itemsChars level (item :: items) ++ rest)).head? ≠ some ']' := by
  obtain ⟨c, cs, hchars, hspace, hc⟩ := exists_chars_eq_cons layout h level
  have hfirst : ∃ tail, layout.itemsChars level (item :: items) ++ rest =
      layout.gap level ++ c :: tail := by
    cases items with
    | nil => exact ⟨cs ++ rest, by rw [Layout.itemsChars, hchars]; simp⟩
    | cons next items =>
      refine ⟨cs ++ ',' :: layout.itemsChars level (next :: items) ++ rest, ?_⟩
      rw [Layout.itemsChars_cons_cons, hchars]
      simp
  obtain ⟨tail, htail⟩ := hfirst
  rw [htail, skipSpace_append (layout.isSpace_gap level), skipSpace_cons hspace]
  exact fun heq ↦ hc (Option.some.inj heq)

/-- No object with a field is closed at once. -/
theorem head?_skipSpace_fieldsChars (field : String × Json) (fields : List (String × Json))
    (level : Nat) (rest : List Char) :
    (skipSpace (layout.fieldsChars level (field :: fields) ++ rest)).head? ≠ some '\x7d' := by
  have hfirst : ∃ tail, layout.fieldsChars level (field :: fields) ++ rest =
      layout.gap level ++ '"' :: tail := by
    cases fields with
    | nil =>
      rw [Layout.fieldsChars, quote]
      simp
    | cons next fields =>
      rw [Layout.fieldsChars_cons_cons, quote]
      simp
  obtain ⟨tail, htail⟩ := hfirst
  rw [htail, skipSpace_append (layout.isSpace_gap level), skipSpace_cons rfl]
  exact fun heq ↦ absurd (Option.some.inj heq) (by decide)

/-- Every text of a sound value has a character, so its bound allows for one step. -/
theorem readsBack_of_succ {j : Json} (h : j.Sound Numeral.WellFormed n)
    (hread : ∀ level bound rest, 2 * (layout.chars level j).length ≤ bound + 2 → Ends rest →
      readValue (bound + 1) (layout.chars level j ++ rest) = some (j, rest)) :
    ReadsBack layout j := by
  intro level bound rest hbound hrest
  cases bound with
  | zero =>
    obtain ⟨c, cs, hchars, -⟩ := exists_chars_eq_cons layout h level
    rw [hchars, List.length_cons] at hbound
    omega
  | succ bound => exact hread level bound rest hbound hrest

/-- Every text of a sound value is read as that value. -/
theorem readsBack_of_sound (layout : Layout) {j : Json} (h : j.Sound Numeral.WellFormed n) :
    ReadsBack layout j := by
  -- on the soundness of the value: the parts of an array or object are read back by induction
  induction h with
  | @null n => exact readsBack_of_succ (.null (n := n)) fun _ _ _ _ _ ↦ rfl
  | @bool n b =>
    exact readsBack_of_succ (.bool (n := n) b) fun _ _ _ _ _ ↦ by cases b <;> rfl
  | @string n s =>
    exact readsBack_of_succ (.string (n := n) s) fun _ bound rest _ _ ↦
      readValue_string s bound rest
  | @number n _ h =>
    exact readsBack_of_succ (.number (n := n) h) fun _ bound _ _ hrest ↦
      readValue_number h bound hrest
  | @array _ items h ih =>
    refine readsBack_of_succ (.array h) fun level bound rest hbound _ ↦ ?_
    cases items with
    | nil => rfl
    | cons item items =>
      rw [Layout.chars_array_cons] at hbound ⊢
      simp only [List.length_append, List.length_cons] at hbound
      rw [List.cons_append, List.append_assoc, List.append_assoc, List.singleton_append,
        readValue_array (head?_skipSpace_itemsChars (h item List.mem_cons_self) _ _ _),
        readItems_append ih (List.cons_ne_nil _ _) (layout.isSpace_gap level) rest
          (by omega) (by omega)]
      rfl
  | @object _ fields h ih =>
    refine readsBack_of_succ (.object h) fun level bound rest hbound _ ↦ ?_
    cases fields with
    | nil => rfl
    | cons field fields =>
      rw [Layout.chars_object_cons] at hbound ⊢
      simp only [List.length_append, List.length_cons] at hbound
      rw [List.cons_append, List.append_assoc, List.append_assoc, List.singleton_append,
        readValue_object (head?_skipSpace_fieldsChars _ _ _ _),
        readFields_append ih (List.cons_ne_nil _ _) (layout.isSpace_gap level) rest
          (by omega) (by omega)]
      exact congrArg (fun value ↦ some (value, rest)) (objectOfFields_map _)

private theorem parse?_ofList_chars {j : Json} (h : j.Sound Numeral.WellFormed n) (level : Nat) :
    parse? (String.ofList (layout.chars level j)) = some j := by
  have hread := readsBack_of_sound layout h level
    (2 * (layout.chars level j).length + 2) [] (by omega) (fun _ hc ↦ nomatch hc)
  rw [List.append_nil] at hread
  rw [parse?, String.toList_ofList]
  simp only [hread]
  rfl

/-- The text of a sound value in the compact layout has this value. -/
theorem parse?_compact {j : Json} (h : j.Sound Numeral.WellFormed n) :
    parse? j.compact = some j := by
  rw [compact, compactChars_eq 0, parse?_ofList_chars h]

/-- The text of a sound value in the pretty layout has this value. -/
theorem parse?_pretty {j : Json} (h : j.Sound Numeral.WellFormed n) :
    parse? j.pretty = some j := by
  rw [pretty, prettyChars_eq, parse?_ofList_chars h]

end Storyline.Json
