import Mathlib.Data.Finset.Card
import Mathlib.Data.Finset.Prod
import Mathlib.Data.List.Induction
import Storyline.Placeholder
import Storyline.Proofs.Text.Pattern

/-!
# The placeholders of a text

A placeholder is a pair of places: an opening bracket, and a closing one behind it with something
between them but no other bracket. The number of placeholders is the number of these pairs, and it
is also the number that a search finds which always goes on behind what it found. Two texts that are
put together have the placeholders of both, and one more where the boundary lies inside a
placeholder.
-/

namespace Storyline.Placeholder

/-! ### Brackets -/

/-- Whether a character is a bracket. -/
def isBracket (c : Char) : Bool := c == '[' || c == ']'

/-- No bracket stands in the text. -/
def Plain (cs : List Char) : Prop := ∀ c ∈ cs, isBracket c = false

instance : DecidablePred Plain := fun cs ↦ inferInstanceAs (Decidable (∀ c ∈ cs, _ = false))

/-- The last bracket of the text is an opening one, and `rest` stands behind it. -/
def EndsOpen (cs rest : List Char) : Prop := Plain rest ∧ '[' :: rest <:+ cs

/-- The first bracket of the text is a closing one, and `lead` stands in front of it. -/
def StartsClosed (cs lead : List Char) : Prop := Plain lead ∧ lead ++ [']'] <+: cs

instance (cs lead : List Char) : Decidable (StartsClosed cs lead) :=
  inferInstanceAs (Decidable (Plain lead ∧ lead ++ [']'] <+: cs))

private theorem isBracket_iff {c : Char} : isBracket c = true ↔ c = '[' ∨ c = ']' := by
  simp [isBracket]

private theorem isBracket_eq_false_iff {c : Char} : isBracket c = false ↔ c ≠ '[' ∧ c ≠ ']' := by
  simp [isBracket]

/-- The text up to a character ends open only if this character is an opening bracket, or no bracket
and the text in front of it ends open. -/
theorem endsOpen_concat {cs rest : List Char} {c : Char} :
    EndsOpen (cs ++ [c]) rest ↔
      (c = '[' ∧ rest = []) ∨
        ∃ front, rest = front ++ [c] ∧ isBracket c = false ∧ EndsOpen cs front := by
  constructor
  · rintro ⟨hplain, hsuffix⟩
    rcases List.suffix_concat_iff.1 hsuffix with h | ⟨front, hfront, hcs⟩
    · exact absurd h (List.cons_ne_nil _ _)
    · cases front with
      | nil =>
        obtain ⟨rfl, rfl⟩ := List.cons.inj hfront
        exact Or.inl ⟨rfl, rfl⟩
      | cons d front =>
        obtain ⟨rfl, rfl⟩ := List.cons.inj hfront
        refine Or.inr ⟨front, rfl, hplain c (by simp), fun d hd ↦ hplain d (by simp [hd]), hcs⟩
  · rintro (⟨rfl, rfl⟩ | ⟨front, rfl, hc, hplain, before, rfl⟩)
    · exact ⟨by simp [Plain], cs, rfl⟩
    · refine ⟨fun d hd ↦ ?_, before, by simp⟩
      rcases List.mem_append.1 hd with hd | hd
      · exact hplain d hd
      · rwa [List.mem_singleton.1 hd]

/-- The text from a character on starts closed only if this character is a closing bracket, or no
bracket and the text behind it starts closed. -/
theorem startsClosed_cons {cs lead : List Char} {c : Char} :
    StartsClosed (c :: cs) lead ↔
      (c = ']' ∧ lead = []) ∨
        ∃ back, lead = c :: back ∧ isBracket c = false ∧ StartsClosed cs back := by
  constructor
  · rintro ⟨hplain, after, hafter⟩
    cases lead with
    | nil => exact Or.inl ⟨(List.cons.inj hafter).1.symm, rfl⟩
    | cons d lead =>
      obtain ⟨rfl, rfl⟩ := List.cons.inj hafter
      exact Or.inr ⟨lead, rfl, hplain d List.mem_cons_self,
        fun e he ↦ hplain e (List.mem_cons_of_mem d he), after, rfl⟩
  · rintro (⟨rfl, rfl⟩ | ⟨back, rfl, hc, hplain, after, rfl⟩)
    · exact ⟨by simp [Plain], cs, rfl⟩
    · exact ⟨List.forall_mem_cons.2 ⟨hc, hplain⟩, after, rfl⟩

/-- There is only one last bracket. -/
theorem EndsOpen.unique {cs rest rest' : List Char} (h : EndsOpen cs rest)
    (h' : EndsOpen cs rest') : rest' = rest := by
  have hinside : ∀ {a b : List Char}, Plain b → ('[' :: a) <:+ ('[' :: b) → a = b := by
    intro a b hb hsuffix
    rcases List.suffix_cons_iff.1 hsuffix with h | h
    · exact (List.cons.inj h).2
    · exact absurd (hb '[' (h.subset List.mem_cons_self)) (by decide)
  rcases List.suffix_or_suffix_of_suffix h.2 h'.2 with hsuffix | hsuffix
  · exact (hinside h'.1 hsuffix).symm
  · exact hinside h.1 hsuffix

/-! ### Scanning -/

/-- The scan after a text. -/
def Scan.run (scan : Scan) (cs : List Char) : Scan := cs.foldl Scan.step scan

namespace Scan

/-- The first character is read first. -/
theorem run_cons (scan : Scan) (c : Char) (cs : List Char) :
    scan.run (c :: cs) = (scan.step c).run cs := rfl

/-- A text is read after the one in front of it. -/
theorem run_append (scan : Scan) (a b : List Char) :
    scan.run (a ++ b) = (scan.run a).run b := List.foldl_append

/-- An opening bracket opens, whatever was read before it. -/
@[simp] theorem step_opening (scan : Scan) : scan.step '[' = .opened := rfl

/-- A closing bracket closes, whatever was read before it. -/
@[simp] theorem step_closing (scan : Scan) : scan.step ']' = .outside := rfl

private theorem step_of_plain {c : Char} (h : isBracket c = false) (scan : Scan) :
    scan.step c = if scan = .outside then .outside else .filled := by
  obtain ⟨hopening, hclosing⟩ := isBracket_eq_false_iff.1 h
  rw [step, if_neg hopening, if_neg hclosing]

/-- Without brackets, a bracket stays open if one was, and something follows it. -/
theorem run_eq_filled_iff_of_plain {cs : List Char} (h : Plain cs) (scan : Scan) :
    scan.run cs = .filled ↔ scan = .filled ∨ (scan = .opened ∧ cs ≠ []) := by
  induction cs generalizing scan with
  | nil => simp [run]
  | cons c cs ih =>
    rw [Plain, List.forall_mem_cons] at h
    rw [run_cons, ih h.2, step_of_plain h.1]
    cases scan <;> simp

/-- What the scan says of the text that was read: whether its last bracket is an opening one, and
whether something stands behind it. -/
def Tells (cs : List Char) : Scan → Prop
  | .outside => ∀ rest, ¬ EndsOpen cs rest
  | .opened => EndsOpen cs []
  | .filled => ∃ rest, EndsOpen cs rest ∧ rest ≠ []

/-- The scan stays true of the text when a character is read. -/
theorem Tells.step {cs : List Char} {scan : Scan} (h : Tells cs scan) (c : Char) :
    Tells (cs ++ [c]) (scan.step c) := by
  cases hc : isBracket c with
  | true =>
    obtain rfl | rfl := isBracket_iff.1 hc
    · exact endsOpen_concat.2 (Or.inl ⟨rfl, rfl⟩)
    · simp [Tells, endsOpen_concat, hc]
  | false =>
    have hlonger : ∀ {rest}, EndsOpen cs rest → EndsOpen (cs ++ [c]) (rest ++ [c]) := fun hrest ↦
      endsOpen_concat.2 (Or.inr ⟨_, rfl, hc, hrest⟩)
    rw [step_of_plain hc]
    cases scan with
    | outside =>
      intro rest hrest
      rcases endsOpen_concat.1 hrest with ⟨rfl, -⟩ | ⟨front, -, -, hfront⟩
      · exact absurd hc (by decide)
      · exact h front hfront
    | opened => exact ⟨_, hlonger h, by simp⟩
    | filled =>
      obtain ⟨rest, hrest, -⟩ := h
      exact ⟨_, hlonger hrest, by simp⟩

/-- After every text, the scan is true of it. -/
theorem tells_run (cs : List Char) : Tells cs (outside.run cs) := by
  induction cs using List.reverseRecOn with
  | nil => simp [run, Tells, EndsOpen]
  | append_singleton cs c ih =>
    rw [run_append]
    exact ih.step c

/-- Only one scan is true of a text. -/
theorem Tells.unique {cs : List Char} {scan scan' : Scan} (h : Tells cs scan)
    (h' : Tells cs scan') : scan = scan' := by
  cases scan with
  | outside =>
    cases scan' with
    | outside => rfl
    | opened => exact absurd h' (h [])
    | filled =>
      obtain ⟨rest, hrest, -⟩ := h'
      exact absurd hrest (h rest)
  | opened =>
    cases scan' with
    | outside => exact absurd h (h' [])
    | opened => rfl
    | filled =>
      obtain ⟨rest, hrest, hne⟩ := h'
      exact absurd (EndsOpen.unique h hrest) hne
  | filled =>
    obtain ⟨rest, hrest, hne⟩ := h
    cases scan' with
    | outside => exact absurd hrest (h' rest)
    | opened => exact absurd (EndsOpen.unique h' hrest) hne
    | filled => rfl

/-- After a text comes exactly the scan that is true of it. -/
theorem run_eq_iff {cs : List Char} {scan : Scan} : outside.run cs = scan ↔ Tells cs scan :=
  ⟨fun h ↦ h ▸ tells_run cs, fun h ↦ (tells_run cs).unique h⟩

end Scan

/-! ### Texts that are put together -/

/-- The placeholders that end in two texts are those of the first and then those of the second. -/
theorem countFrom_append (scan : Scan) (a b : List Char) :
    countFrom scan (a ++ b) = countFrom scan a + countFrom (scan.run a) b := by
  induction a generalizing scan with
  | nil => simp [countFrom, Scan.run]
  | cons c a ih => rw [List.cons_append, countFrom, countFrom, ih, Scan.run_cons, Nat.add_assoc]

/-- A bracket that is open in the scan is closed in the text, with something between them. -/
def Closes (scan : Scan) (cs : List Char) : Prop :=
  ∃ lead, StartsClosed cs lead ∧ scan.run lead = .filled

instance (scan : Scan) (cs : List Char) : Decidable (Closes scan cs) :=
  decidable_of_iff (∃ lead ∈ cs.inits, StartsClosed cs lead ∧ scan.run lead = .filled) <|
    exists_congr fun lead ↦ and_iff_right_of_imp fun h ↦
      (List.mem_inits lead cs).2 ((List.prefix_append lead [']']).trans h.1.2)

private theorem closes_cons {scan : Scan} {c : Char} {cs : List Char} :
    Closes scan (c :: cs) ↔
      (c = ']' ∧ scan = .filled) ∨ (isBracket c = false ∧ Closes (scan.step c) cs) := by
  simp only [Closes, startsClosed_cons]
  constructor
  · rintro ⟨lead, ⟨hc, rfl⟩ | ⟨back, rfl, hc, hback⟩, hscan⟩
    · exact Or.inl ⟨hc, hscan⟩
    · exact Or.inr ⟨hc, back, hback, hscan⟩
  · rintro (⟨hc, hscan⟩ | ⟨hc, back, hback, hscan⟩)
    · exact ⟨[], Or.inl ⟨hc, rfl⟩, hscan⟩
    · exact ⟨c :: back, Or.inr ⟨back, rfl, hc, hback⟩, hscan⟩

/-- What was read in front of a text adds no more than the placeholder that is closed in it. -/
theorem countFrom_eq (scan : Scan) (cs : List Char) :
    countFrom scan cs = countFrom .outside cs + if Closes scan cs then 1 else 0 := by
  induction cs generalizing scan with
  | nil => simp [countFrom, Closes, StartsClosed]
  | cons c cs ih =>
    rw [countFrom, countFrom]
    cases hc : isBracket c with
    | true =>
      obtain rfl | rfl := isBracket_iff.1 hc
      · simp [closes_cons, hc]
      · simp [closes_cons, hc, Nat.add_comm]
    | false =>
      obtain ⟨-, hclosing⟩ := isBracket_eq_false_iff.1 hc
      have houtside : Scan.outside.step c = .outside := by rw [Scan.step_of_plain hc, if_pos rfl]
      rw [houtside, ih]
      simp [closes_cons, hc, hclosing]

/-- A placeholder stands across the boundary between two texts: the last bracket in front of it is
an opening one, the first bracket behind it is a closing one, and something stands between them. -/
def Spans (a b : List Char) : Prop :=
  ∃ rest lead, EndsOpen a rest ∧ StartsClosed b lead ∧ rest ++ lead ≠ []

private theorem closes_run_iff {a b : List Char} : Closes (Scan.outside.run a) b ↔ Spans a b := by
  have hfilled : ∀ {lead}, Plain lead → ((Scan.outside.run a).run lead = .filled ↔
      ∃ rest, EndsOpen a rest ∧ rest ++ lead ≠ []) := by
    intro lead hlead
    rw [Scan.run_eq_filled_iff_of_plain hlead, Scan.run_eq_iff, Scan.run_eq_iff]
    constructor
    · rintro (⟨rest, hrest, hne⟩ | ⟨hrest, hne⟩)
      · exact ⟨rest, hrest, by simp [hne]⟩
      · exact ⟨[], hrest, hne⟩
    · rintro ⟨rest, hrest, hne⟩
      by_cases hnil : rest = []
      · subst hnil
        exact Or.inr ⟨hrest, hne⟩
      · exact Or.inl ⟨rest, hrest, hnil⟩
  constructor
  · rintro ⟨lead, hlead, hscan⟩
    obtain ⟨rest, hrest, hne⟩ := (hfilled hlead.1).1 hscan
    exact ⟨rest, lead, hrest, hlead, hne⟩
  · rintro ⟨rest, lead, hrest, hlead, hne⟩
    exact ⟨lead, hlead, (hfilled hlead.1).2 ⟨rest, hrest, hne⟩⟩

instance (a b : List Char) : Decidable (Spans a b) := decidable_of_iff _ closes_run_iff

/-- Two texts have the placeholders of both, and the one that stands across their boundary. -/
theorem count_append (a b : String) :
    count (a ++ b) = count a + count b + if Spans a.toList b.toList then 1 else 0 := by
  rw [count, String.toList_append, countFrom_append, countFrom_eq (Scan.outside.run a.toList),
    ← Nat.add_assoc]
  simp only [closes_run_iff]
  rfl

/-! ### Places -/

/-- A placeholder stands in the text from its opening bracket at place `i` to its closing one at
place `j`. -/
structure StandsAt (cs : List Char) (i j : Nat) : Prop where
  /-- An opening bracket stands at the first place. -/
  opening : cs[i]? = some '['
  /-- A closing bracket stands at the second place. -/
  closing : cs[j]? = some ']'
  /-- Something stands between them. -/
  filled : i + 1 < j
  /-- No bracket stands between them. -/
  plain : ∀ k, i < k → k < j → ∀ c ∈ cs[k]?, isBracket c = false

/-- A placeholder ends at a place if a closing bracket stands there and the text in front of it ends
open. It starts where the open bracket stands. -/
theorem standsAt_iff {cs : List Char} {i j : Nat} :
    StandsAt cs i j ↔
      cs[j]? = some ']' ∧
        ∃ rest, EndsOpen (cs.take j) rest ∧ rest ≠ [] ∧ i + 1 + rest.length = j := by
  have hfront : ∀ {k}, k < j → (cs.take j)[k]? = cs[k]? := fun hk ↦
    List.getElem?_take_of_lt hk
  constructor
  · rintro ⟨hopening, hclosing, hfilled, hplain⟩
    obtain ⟨hj, -⟩ := List.getElem?_eq_some_iff.1 hclosing
    obtain ⟨hi, hget⟩ := List.getElem?_eq_some_iff.1 ((hfront (by omega)).trans hopening)
    have hlength : ((cs.take j).drop (i + 1)).length = j - (i + 1) := by
      rw [List.length_drop, List.length_take_of_le hj.le]
    refine ⟨hclosing, (cs.take j).drop (i + 1), ⟨fun c hc ↦ ?_, ?_⟩, ?_, ?_⟩
    · obtain ⟨k, hk⟩ := List.mem_iff_getElem?.1 hc
      have hlt : k < j - (i + 1) := hlength ▸ (List.getElem?_eq_some_iff.1 hk).1
      rw [List.getElem?_drop, hfront (by omega)] at hk
      exact hplain _ (by omega) (by omega) c hk
    · rw [← hget, List.getElem_cons_drop]
      exact List.drop_suffix i _
    · rw [← List.length_pos_iff, hlength]
      omega
    · rw [hlength]
      omega
  · rintro ⟨hclosing, rest, ⟨hplain, front, hsplit⟩, hne, hlength⟩
    obtain ⟨hj, -⟩ := List.getElem?_eq_some_iff.1 hclosing
    have hpos : 0 < rest.length := List.length_pos_iff.2 hne
    have hi : i = front.length := by
      have htake := congrArg List.length hsplit
      rw [List.length_append, List.length_cons, List.length_take_of_le hj.le] at htake
      omega
    rw [← hsplit] at hfront
    refine ⟨?_, hclosing, by omega, fun k hk hkj c hc ↦ ?_⟩
    · rw [← hfront (by omega), hi, List.getElem?_append_right (Nat.le_refl _), Nat.sub_self]
      rfl
    · have hbehind : (k - front.length) = (k - front.length - 1) + 1 := by omega
      rw [← hfront hkj, List.getElem?_append_right (by omega), hbehind,
        List.getElem?_cons_succ] at hc
      exact hplain c (List.mem_of_getElem? hc)

instance (cs : List Char) (i j : Nat) : Decidable (StandsAt cs i j) :=
  decidable_of_iff
    (cs[i]? = some '[' ∧ cs[j]? = some ']' ∧ i + 1 < j ∧
      ∀ k < j, i < k → cs[k]?.any isBracket = false) <| by
    simp only [Option.any_eq_false]
    exact ⟨fun ⟨ho, hc, hf, hp⟩ ↦ ⟨ho, hc, hf, fun k hi hj ↦ hp k hj hi⟩,
      fun ⟨ho, hc, hf, hp⟩ ↦ ⟨ho, hc, hf, fun k hj hi ↦ hp k hi hj⟩⟩

/-- The pairs of places from where to where the placeholders of a text stand. -/
def places (cs : List Char) : Finset (Nat × Nat) :=
  {p ∈ Finset.range cs.length ×ˢ Finset.range cs.length | StandsAt cs p.1 p.2}

/-- The places of a text are the pairs at which a placeholder stands. -/
theorem mem_places_iff {cs : List Char} {i j : Nat} : (i, j) ∈ places cs ↔ StandsAt cs i j := by
  rw [places, Finset.mem_filter, Finset.mem_product, Finset.mem_range, Finset.mem_range]
  refine and_iff_right_of_imp fun h ↦ ⟨?_, ?_⟩
  · exact (List.getElem?_eq_some_iff.1 h.opening).1
  · exact (List.getElem?_eq_some_iff.1 h.closing).1

/-- One more character can end one placeholder, which is then the only one that ends there. -/
theorem standsAt_concat {cs : List Char} {c : Char} {i j : Nat} :
    StandsAt (cs ++ [c]) i j ↔
      StandsAt cs i j ∨
        (j = cs.length ∧ c = ']' ∧
          ∃ rest, EndsOpen cs rest ∧ rest ≠ [] ∧ i + 1 + rest.length = cs.length) := by
  rw [standsAt_iff, standsAt_iff]
  rcases Nat.lt_trichotomy j cs.length with hj | rfl | hj
  · have hne : j ≠ cs.length := hj.ne
    rw [List.getElem?_append_left hj, List.take_append_of_le_length hj.le]
    simp [hne]
  · simp
  · have hnone : (cs ++ [c])[j]? = none := by simp; omega
    have hnone' : cs[j]? = none := by simp; omega
    simp [hnone, hnone', hj.ne']

/-- A closing bracket behind a text that ends open ends one more placeholder. -/
theorem places_concat_of_endsOpen {cs rest : List Char} (hrest : EndsOpen cs rest)
    (hne : rest ≠ []) :
    places (cs ++ [']']) =
      insert (cs.length - (rest.length + 1), cs.length) (places cs) := by
  have hlength : rest.length + 1 ≤ cs.length := by simpa using hrest.2.length_le
  ext ⟨i, j⟩
  rw [Finset.mem_insert, mem_places_iff, mem_places_iff, standsAt_concat, Prod.mk.injEq, or_comm]
  refine or_congr_left ⟨?_, ?_⟩
  · rintro ⟨hj, -, rest', hrest', -, hi⟩
    rw [hrest.unique hrest'] at hi
    exact ⟨by omega, hj⟩
  · rintro ⟨hi, hj⟩
    exact ⟨hj, rfl, rest, hrest, hne, by omega⟩

/-- Any other character ends none. -/
theorem places_concat_of_not {cs : List Char} {c : Char}
    (h : ¬ (c = ']' ∧ Scan.outside.run cs = .filled)) : places (cs ++ [c]) = places cs := by
  ext ⟨i, j⟩
  rw [mem_places_iff, mem_places_iff, standsAt_concat]
  refine or_iff_left ?_
  rintro ⟨-, hc, rest, hrest, hne, -⟩
  exact h ⟨hc, Scan.run_eq_iff.2 ⟨rest, hrest, hne⟩⟩

/-- The scan counts the pairs of places. -/
theorem countFrom_eq_card (cs : List Char) : countFrom .outside cs = (places cs).card := by
  induction cs using List.reverseRecOn with
  | nil => rfl
  | append_singleton cs c ih =>
    rw [countFrom_append, ih, countFrom, countFrom, Nat.add_zero]
    by_cases hends : c = ']' ∧ Scan.outside.run cs = .filled
    · rw [if_pos hends]
      obtain ⟨rfl, hfilled⟩ := hends
      obtain ⟨rest, hrest, hne⟩ := Scan.run_eq_iff.1 hfilled
      have hnew : (cs.length - (rest.length + 1), cs.length) ∉ places cs := by
        rw [mem_places_iff]
        intro h
        simpa using h.closing
      rw [places_concat_of_endsOpen hrest hne, Finset.card_insert_of_notMem hnew]
    · rw [if_neg hends, places_concat_of_not hends, Nat.add_zero]

/-! ### Searching -/

/-- Reads a placeholder from the front of a text: what stands between its brackets, and what follows
it. -/
def placeholder? : List Char → Option (List Char × List Char)
  | '[' :: cs => do
    let inner := cs.takeWhile (!isBracket ·)
    let rest ← Text.dropPrefix? [']'] (cs.dropWhile (!isBracket ·))
    if inner = [] then none else some (inner, rest)
  | _ => none

/-- Reading succeeds exactly where a placeholder stands. -/
theorem placeholder?_eq_some_iff {cs inner rest : List Char} :
    placeholder? cs = some (inner, rest) ↔
      cs = '[' :: (inner ++ ']' :: rest) ∧ Plain inner ∧ inner ≠ [] := by
  constructor
  · intro h
    fun_cases placeholder? cs with
    | case1 cs found =>
      simp only [placeholder?, Option.bind_eq_bind] at h
      obtain ⟨after, hafter, hinner⟩ := Option.bind_eq_some_iff.1 h
      split at hinner
      · exact absurd hinner (by simp)
      · next hne =>
        obtain ⟨rfl, rfl⟩ := Prod.mk.inj (Option.some.inj hinner)
        have hclosing : cs.dropWhile (!isBracket ·) = ']' :: after :=
          Text.dropPrefix?_eq_some_iff.1 hafter
        refine ⟨?_, fun c hc ↦ by simpa using List.mem_takeWhile_imp hc, hne⟩
        rw [← hclosing, List.takeWhile_append_dropWhile]
    | case2 => simp [placeholder?] at h
  · rintro ⟨rfl, hplain, hne⟩
    have hall : ∀ c ∈ inner, (!isBracket c) = true := fun c hc ↦ by simp [hplain c hc]
    have htake : (inner ++ ']' :: rest).takeWhile (!isBracket ·) = inner := by
      rw [List.takeWhile_append_of_pos hall, List.takeWhile_cons_of_neg (by decide),
        List.append_nil]
    have hdrop : (inner ++ ']' :: rest).dropWhile (!isBracket ·) = ']' :: rest := by
      rw [List.dropWhile_append_of_pos hall, List.dropWhile_cons_of_neg (by decide)]
    simp only [placeholder?, htake, hdrop, if_neg hne]
    rfl

section

open Text (Pattern)
open Text.Pattern

/-- The pattern `\[([^\[\]]+)\]`. -/
def placeholderPattern : Pattern :=
  all [word ['['], group "inner" (many 1 (!isBracket ·)), word [']']]

/-- A placeholder is read at a place as its pattern reads it. -/
theorem placeholder?_eq_here? {n : Nat} {cs : List Char} :
    placeholder? cs =
      (placeholderPattern.here? n cs).map fun way ↦ (way.get "inner", way.rest) := by
  have hclosing : (all [word [']']]).Avoids n (!isBracket ·) := (avoids_word (by decide)).seq _
  rw [placeholderPattern, all_cons, here?_word_seq]
  cases cs with
  | nil => rfl
  | cons c cs =>
    by_cases hc : '[' = c
    · subst hc
      rw [Text.dropPrefix?, if_pos rfl, Text.dropPrefix?, Option.bind_some, all_cons,
        runs_many.here?_group_run hclosing, afterRun?_one, placeholder?]
      cases hrest : Text.dropPrefix? [']'] (cs.dropWhile (!isBracket ·)) with
      | none => split <;> simp [all_cons, here?_word_seq, hrest]
      | some rest =>
        split <;> simp [all_cons, all_nil, here?_word_seq, here?_nothing, hrest, Text.Way.get]
    · simp [placeholder?, Text.dropPrefix?, hc, Ne.symm hc]

/-- A placeholder is found as a search for its pattern finds it. -/
theorem findAnywhere?_placeholder? (cs : List Char) :
    Text.findAnywhere? placeholder? cs =
      (placeholderPattern.find? cs).map fun way ↦ (way.get "inner", way.rest) :=
  findAnywhere?_eq_find?_map (fun _ _ ↦ placeholder?_eq_here?) cs

end

/-- A search goes on behind what it found. -/
theorem length_lt_of_findAnywhere? {cs inner rest : List Char}
    (h : Text.findAnywhere? placeholder? cs = some (inner, rest)) : rest.length < cs.length := by
  obtain ⟨found, hfound, hread⟩ := Text.exists_of_findAnywhere?_eq_some h
  obtain ⟨rfl, -, -⟩ := placeholder?_eq_some_iff.1 hread
  have hle := hfound.length_le
  simp only [List.length_cons, List.length_append] at hle
  omega

/-- What stands between the brackets of the placeholders that a search finds from left to right. -/
def search (cs : List Char) : List (List Char) :=
  match _h : Text.findAnywhere? placeholder? cs with
  | none => []
  | some (inner, rest) => inner :: search rest
termination_by cs.length
decreasing_by exact length_lt_of_findAnywhere? _h

private theorem countFrom_of_plain {cs : List Char} (h : Plain cs) (scan : Scan) :
    countFrom scan cs = 0 := by
  induction cs generalizing scan with
  | nil => rfl
  | cons c cs ih =>
    rw [Plain, List.forall_mem_cons] at h
    simp [countFrom, ih h.2, (isBracket_eq_false_iff.1 h.1).2]

/-- All placeholders but the first one that is found stand behind it. -/
theorem countFrom_eq_elim (cs : List Char) :
    countFrom .outside cs = (Text.findAnywhere? placeholder? cs).elim 0 fun (_, rest) ↦
      countFrom .outside rest + 1 := by
  induction cs with
  | nil => rfl
  | cons c cs ih =>
    cases hhere : placeholder? (c :: cs) with
    | some found =>
      obtain ⟨inner, rest⟩ := found
      obtain ⟨hsplit, hplain, hne⟩ := placeholder?_eq_some_iff.1 hhere
      have hfilled : Scan.opened.run inner = .filled :=
        (Scan.run_eq_filled_iff_of_plain hplain .opened).2 (Or.inr ⟨rfl, hne⟩)
      rw [Text.findAnywhere?_of_eq_some hhere, hsplit, countFrom, Scan.step_opening,
        countFrom_append, countFrom_of_plain hplain, hfilled, countFrom]
      simp [Nat.add_comm]
    | none =>
      have hclosed : ¬ Closes (Scan.outside.step c) cs := by
        rintro ⟨lead, ⟨hlead, rest, rfl⟩, hscan⟩
        rw [Scan.run_eq_filled_iff_of_plain hlead] at hscan
        by_cases hc : c = '['
        · subst hc
          have hne : lead ≠ [] := by simpa using hscan
          have hread : placeholder? ('[' :: (lead ++ [']'] ++ rest)) = some (lead, rest) :=
            placeholder?_eq_some_iff.2 ⟨by simp, hlead, hne⟩
          rw [hread] at hhere
          exact absurd hhere (by simp)
        · simp [Scan.step, hc] at hscan
      rw [Text.findAnywhere?, hhere, Option.none_or, ← ih, countFrom, countFrom_eq, if_neg hclosed]
      simp

/-- A search finds as many placeholders as the scan counts. -/
theorem length_search (cs : List Char) : (search cs).length = countFrom .outside cs := by
  fun_induction search cs with
  | case1 cs h =>
    rw [countFrom_eq_elim, h]
    rfl
  | case2 cs inner rest h ih =>
    rw [countFrom_eq_elim, h, List.length_cons, ih]
    rfl

/-! ### The count -/

/-- The placeholders of a text are counted by the pairs of brackets between which something stands
but no bracket. A search that always goes on behind what it found finds all of them. Two texts have
the placeholders of both, and the one that stands across their boundary, if one does. An adapted
text passes exactly if it has as many as the text, and otherwise both numbers are told. -/
theorem placeholders_counted (text other : String) :
    count text = (places text.toList).card ∧
      (search text.toList).length = count text ∧
      count (text ++ other) =
        count text + count other + (if Spans text.toList other.toList then 1 else 0) ∧
      (check text other = .ok () ↔ count text = count other) ∧
      ∀ e, check text other = .error e ↔
        count text ≠ count other ∧ e = { expected := count text, found := count other } := by
  refine ⟨countFrom_eq_card text.toList, length_search text.toList, count_append text other,
    check_eq_ok_iff, fun e ↦ ?_⟩
  unfold check
  split
  · next h => simp [h]
  · next h => simp [h, eq_comm]

/-- Brackets within brackets, empty ones and closed ones that were never opened are passed over. -/
example : count "a] [[b] [] c] [d\ne]" = 2 := by decide

end Storyline.Placeholder
