import Mathlib.Data.List.Basic
import Mathlib.Data.List.TakeWhile
import Storyline.Proofs.Text.Occurrence

/-!
# Patterns

A pattern says what a search looks for, and which parts of it to keep. At a place of a text it may
fit in several ways. They are tried in a fixed order: a repetition takes as many characters as it can
and then fewer, or as few and then more, and the first of two alternatives comes before the second
one. A search finds the first way at the first place of the text where the pattern fits.
-/

namespace Storyline.Text

/-- A pattern. -/
inductive Pattern where
  /-- The start of the text, written `^`. -/
  | start
  /-- The end of the text, written `$`. -/
  | finish
  /-- One character of a class. -/
  | one (p : Char → Bool)
  /-- The characters of a word. -/
  | word (w : List Char)
  /-- At least so many characters of a class, rather more than fewer, written `*` or `+`. -/
  | many (least : Nat) (p : Char → Bool)
  /-- At least so many characters of a class, rather fewer than more, written `*?` or `+?`. -/
  | few (least : Nat) (p : Char → Bool)
  /-- Nothing at all. -/
  | nothing
  /-- One pattern and then another. -/
  | seq (a b : Pattern)
  /-- One pattern or else another, written `|`. -/
  | alt (a b : Pattern)
  /-- A pattern that keeps what it reads under a name, written in parentheses. -/
  | group (name : String) (a : Pattern)

/-- A way in which a pattern fits. -/
structure Way where
  /-- What is kept, under the names of its groups. -/
  kept : List (String × List Char)
  /-- What is left of the text. -/
  rest : List Char

namespace Way

/-- Nothing is kept. -/
def left (rest : List Char) : Way := ⟨[], rest⟩

/-- Something more is kept. -/
def keep (way : Way) (name : String) (text : List Char) : Way :=
  { way with kept := (name, text) :: way.kept }

/-- One way and then another. -/
def andThen (way next : Way) : Way := ⟨way.kept ++ next.kept, next.rest⟩

/-- What a group keeps, if it has a part in the way. -/
def get? (way : Way) (name : String) : Option (List Char) := way.kept.lookup name

/-- What a group keeps, or nothing. -/
def get (way : Way) (name : String) : List Char := (way.get? name).getD []

/-- No group has a part in the way that keeps nothing. -/
@[simp] theorem get?_left (rest : List Char) (name : String) : (left rest).get? name = none := rfl

/-- What is kept under a name is found under it. -/
@[simp] theorem get?_keep_self (way : Way) (name : String) (text : List Char) :
    (way.keep name text).get? name = some text := by
  simp [keep, get?]

/-- What is kept under one name changes nothing under another. -/
@[simp] theorem get?_keep_of_ne {name other : String} (h : other ≠ name) (way : Way)
    (text : List Char) : (way.keep name text).get? other = way.get? other := by
  rw [keep, get?, List.lookup_cons, beq_false_of_ne h]
  rfl

/-- A name is looked up in the first way, and then in the second one. -/
@[simp] theorem get?_andThen (way next : Way) (name : String) :
    (way.andThen next).get? name = (way.get? name).or (next.get? name) := List.lookup_append

/-- The way that keeps nothing leaves its text. -/
@[simp] theorem rest_left (rest : List Char) : (left rest).rest = rest := rfl

/-- Keeping something more leaves the same text. -/
@[simp] theorem rest_keep (way : Way) (name : String) (text : List Char) :
    (way.keep name text).rest = way.rest := rfl

/-- Before another way, one that keeps nothing counts for nothing. -/
@[simp] theorem andThen_left (rest : List Char) : (left rest).andThen = id := rfl

/-- Before another way, one that keeps something keeps it there. -/
@[simp] theorem andThen_keep_left (rest text : List Char) (name : String) :
    ((left rest).keep name text).andThen = fun way ↦ way.keep name text := rfl

end Way

namespace Pattern

/-- Patterns one after the other. -/
def all (patterns : List Pattern) : Pattern := patterns.foldr seq nothing

/-- A pattern that may be missing, written `?`. -/
def opt (a : Pattern) : Pattern := alt a nothing

/-- The names of the groups of a pattern. -/
def names : Pattern → List String
  | group name a => name :: a.names
  | seq a b | alt a b => a.names ++ b.names
  | start | finish | one _ | word _ | many _ _ | few _ _ | nothing => []

/-- What runs of a class leave of a text, the shortest run first. -/
def rests (p : Char → Bool) : List Char → List (List Char)
  | [] => [[]]
  | c :: cs => (c :: cs) :: if p c then rests p cs else []

/-- The ways in which a pattern fits at a place of a text of length `n`, in the order in which they
are tried. -/
def ways (n : Nat) : Pattern → List Char → List Way
  | start, cs => if cs.length = n then [.left cs] else []
  | finish, cs => if cs = [] then [.left cs] else []
  | one p, cs => match cs with
    | [] => []
    | c :: cs => if p c then [.left cs] else []
  | word w, cs => (dropPrefix? w cs).toList.map .left
  | many least p, cs => ((rests p cs).drop least).reverse.map .left
  | few least p, cs => ((rests p cs).drop least).map .left
  | nothing, cs => [.left cs]
  | seq a b, cs => (a.ways n cs).flatMap fun way ↦ (b.ways n way.rest).map way.andThen
  | alt a b, cs => a.ways n cs ++ b.ways n cs
  | group name a, cs => (a.ways n cs).map fun way ↦
    way.keep name (cs.take (cs.length - way.rest.length))

/-- The first way at a place. -/
def here? (n : Nat) (a : Pattern) (cs : List Char) : Option Way := (a.ways n cs).head?

/-- What a pattern finds in a text. -/
def find? (a : Pattern) (cs : List Char) : Option Way :=
  findAnywhere? (a.here? cs.length) cs

section

variable {a b : Pattern} {n least : Nat} {p : Char → Bool} {cs : List Char}

/-! ### Places -/

/-- A pattern that starts at the start of the text fits there or nowhere. -/
theorem find?_start (a : Pattern) (cs : List Char) :
    (seq start a).find? cs = a.here? cs.length cs := by
  have hstart : (seq start a).here? cs.length cs = a.here? cs.length cs := by
    simp [here?, ways]
  have hlater : ∀ rest, rest.length < cs.length → (seq start a).here? cs.length rest = none := by
    intro rest hlt
    simp [here?, ways, hlt.ne]
  cases cs with
  | nil => exact hstart
  | cons c cs =>
    have hnone : findAnywhere? ((seq start a).here? (c :: cs).length) cs = none :=
      findAnywhere?_eq_none_iff.2 fun rest hrest ↦ hlater rest <| by
        simpa [Nat.lt_succ_iff] using hrest.length_le
    rw [find?, findAnywhere?, hstart, hnone, Option.or_none]

/-- What reads at a place as a pattern does finds what a search for the pattern finds. -/
theorem findAnywhere?_eq_find?_map {β : Type} {f : List Char → Option β} {g : Way → β}
    (h : ∀ n rest, f rest = (a.here? n rest).map g) (cs : List Char) :
    findAnywhere? f cs = (a.find? cs).map g := by
  rw [funext (h cs.length), findAnywhere?_map]
  rfl

/-! ### Names -/

/-- Only what has a name in the pattern is kept under it. -/
theorem get?_eq_none (a : Pattern) {cs : List Char} {way : Way} (hway : way ∈ a.ways n cs)
    {name : String} (h : name ∉ a.names) : way.get? name = none := by
  have hleft : ∀ {way : Way} {rests : List (List Char)}, way ∈ rests.map .left →
      way.get? name = none := by
    intro way rests hmem
    obtain ⟨rest, -, rfl⟩ := List.mem_map.1 hmem
    rfl
  induction a generalizing cs way with
  | start | finish | one p =>
    simp only [ways] at hway
    repeat' split at hway
    all_goals simp_all
  | nothing =>
    obtain rfl := List.mem_singleton.1 hway
    rfl
  | word | many | few => exact hleft hway
  | seq a b iha ihb =>
    rw [names, List.mem_append, not_or] at h
    simp only [ways, List.mem_flatMap, List.mem_map] at hway
    obtain ⟨first, hfirst, second, hsecond, rfl⟩ := hway
    rw [Way.get?_andThen, iha hfirst h.1, ihb hsecond h.2, Option.or_none]
  | alt a b iha ihb =>
    rw [names, List.mem_append, not_or] at h
    rw [ways, List.mem_append] at hway
    exact hway.elim (iha · h.1) (ihb · h.2)
  | group other a ih =>
    rw [names, List.mem_cons, not_or] at h
    simp only [ways, List.mem_map] at hway
    obtain ⟨inner, hinner, rfl⟩ := hway
    rw [Way.get?_keep_of_ne h.1, ih hinner h.2]

/-! ### Runs -/

/-- The pattern does not fit where a character of the class stands. -/
def Avoids (b : Pattern) (n : Nat) (p : Char → Bool) : Prop :=
  ∀ c cs, p c = true → b.ways n (c :: cs) = []

/-- Patterns one after the other avoid what the first one avoids. -/
theorem Avoids.seq (ha : a.Avoids n p) (b : Pattern) : (seq a b).Avoids n p := by
  intro c cs hc
  rw [ways, ha c cs hc, List.flatMap_nil]

/-- A pattern that is kept avoids what it avoids without the name. -/
theorem Avoids.group (ha : a.Avoids n p) (name : String) : (group name a).Avoids n p := by
  intro c cs hc
  rw [ways, ha c cs hc, List.map_nil]

/-- A word avoids a class that its first character is not of. -/
theorem avoids_word {c : Char} {w : List Char} (hc : p c = false) :
    (word (c :: w)).Avoids n p := by
  intro d cs hd
  have hne : c ≠ d := by
    rintro rfl
    rw [hc] at hd
    exact absurd hd (by decide)
  rw [ways, dropPrefix?, if_neg hne]
  rfl

/-- A run of at least one character avoids a class that shares none with its own. -/
theorem avoids_many {q : Char → Bool} (h : ∀ c, p c = true → q c = false) :
    (many (least + 1) q).Avoids n p := by
  intro c cs hc
  simp [ways, rests, h c hc]

/-- What the longest run of a class leaves of a text, if it is long enough. -/
def afterRun? (least : Nat) (p : Char → Bool) (cs : List Char) : Option (List Char) :=
  if least ≤ (cs.takeWhile p).length then some (cs.dropWhile p) else none

/-- The empty run is long enough if no character is wanted. -/
theorem afterRun?_zero : afterRun? 0 p cs = some (cs.dropWhile p) := if_pos (Nat.zero_le _)

/-- A run is long enough for one character unless it is empty. -/
theorem afterRun?_one :
    afterRun? 1 p cs = if cs.takeWhile p = [] then none else some (cs.dropWhile p) := by
  rw [afterRun?, ite_eq_iff']
  constructor
  · intro h
    rw [if_neg (List.length_pos_iff.1 h)]
  · intro h
    rw [if_pos (by simpa using h)]

/-- What is left behind other runs starts with a character of the class. -/
theorem exists_drop_rests_eq (least : Nat) (p : Char → Bool) (cs : List Char) :
    ∃ front, (∀ rest ∈ front, ∃ c ∈ rest.head?, p c = true) ∧
      (rests p cs).drop least = (afterRun? least p cs).elim [] fun rest ↦ front ++ [rest] := by
  have hrests : ∃ front, (∀ rest ∈ front, ∃ c ∈ rest.head?, p c = true) ∧
      front.length = (cs.takeWhile p).length ∧ rests p cs = front ++ [cs.dropWhile p] := by
    induction cs with
    | nil => exact ⟨[], by simp, rfl, rfl⟩
    | cons c cs ih =>
      by_cases hc : p c = true
      · obtain ⟨front, hfront, hlength, heq⟩ := ih
        refine ⟨(c :: cs) :: front, ?_, by simp [hc, hlength], by simp [rests, hc, heq]⟩
        exact List.forall_mem_cons.2 ⟨⟨c, rfl, hc⟩, hfront⟩
      · exact ⟨[], by simp, by simp [hc], by simp [rests, hc]⟩
  obtain ⟨front, hfront, hlength, heq⟩ := hrests
  rw [heq, afterRun?]
  split
  · next hle =>
    refine ⟨front.drop least, fun rest hrest ↦ hfront rest (List.mem_of_mem_drop hrest), ?_⟩
    rw [List.drop_append_of_le_length (hlength ▸ hle)]
    rfl
  · next hlt =>
    refine ⟨[], by simp, List.drop_eq_nil_iff.2 ?_⟩
    rw [List.length_append, List.length_singleton, hlength]
    omega

/-- All ways of the pattern but the one that leaves `last?`, if there is one, leave a text that
starts with a character of the class, and nothing is kept. -/
def Runs (a : Pattern) (n : Nat) (p : Char → Bool) (cs : List Char) (last? : Option (List Char)) :
    Prop :=
  ∃ front, (∀ rest ∈ front, ∃ c ∈ rest.head?, p c = true) ∧
    (a.ways n cs = (front ++ last?.toList).map .left ∨
      a.ways n cs = (last?.toList ++ front).map .left)

/-- A repetition that takes as few characters as it can leaves what runs leave. -/
theorem runs_few : (few least p).Runs n p cs (afterRun? least p cs) := by
  obtain ⟨front, hfront, heq⟩ := exists_drop_rests_eq least p cs
  rw [Runs, ways, heq]
  cases afterRun? least p cs with
  | none => exact ⟨[], by simp, Or.inl rfl⟩
  | some rest => exact ⟨front, hfront, Or.inl rfl⟩

/-- So does one that takes as many as it can. -/
theorem runs_many : (many least p).Runs n p cs (afterRun? least p cs) := by
  obtain ⟨front, hfront, heq⟩ := exists_drop_rests_eq least p cs
  rw [Runs, ways, heq]
  cases afterRun? least p cs with
  | none => exact ⟨[], by simp, Or.inl rfl⟩
  | some rest =>
    refine ⟨front.reverse, fun rest hrest ↦ hfront rest (List.mem_reverse.1 hrest), Or.inr ?_⟩
    rw [Option.elim_some, List.reverse_append]
    rfl

private theorem ways_seq_nothing (a : Pattern) : (seq a nothing).ways n cs = a.ways n cs := by
  simp [ways, Way.andThen, Way.left]

/-- A run with nothing behind it is a run. -/
theorem Runs.seq_nothing {last? : Option (List Char)} (h : a.Runs n p cs last?) :
    (seq a nothing).Runs n p cs last? := by
  rwa [Runs, ways_seq_nothing]

/-- One more character stands in front of a run. -/
theorem Runs.one_seq {last? : Option (List Char)} (h : a.Runs n p cs last?) (q : Char → Bool)
    (c : Char) : (seq (one q) a).Runs n p (c :: cs) (if q c then last? else none) := by
  cases hc : q c with
  | true => simpa [Runs, ways, hc] using h
  | false => exact ⟨[], by simp, Or.inl (by simp [ways, hc])⟩

/-- Where what follows does not fit behind the other ways, they count for nothing. -/
theorem Runs.flatMap_eq {β : Type} {last? : Option (List Char)} (h : a.Runs n p cs last?)
    {f : Way → List β} (hf : ∀ c rest, p c = true → f (.left (c :: rest)) = []) :
    (a.ways n cs).flatMap f = last?.toList.flatMap fun rest ↦ f (.left rest) := by
  obtain ⟨front, hfront, heq⟩ := h
  have hnil : front.flatMap (fun rest ↦ f (.left rest)) = [] := by
    rw [List.flatMap_eq_nil_iff]
    intro rest hrest
    obtain ⟨c, hc, hpc⟩ := hfront rest hrest
    obtain ⟨tail, rfl⟩ := List.head?_eq_some_iff.1 hc
    exact hf c tail hpc
  rcases heq with heq | heq
  · rw [heq, List.flatMap_map, List.flatMap_append, hnil, List.nil_append]
  · rw [heq, List.flatMap_map, List.flatMap_append, hnil, List.append_nil]

/-- If what follows avoids the class, it stands behind the longest run. -/
theorem Runs.ways_seq {last? : Option (List Char)} (h : a.Runs n p cs last?)
    (hb : b.Avoids n p) : (seq a b).ways n cs = last?.toList.flatMap (b.ways n) := by
  rw [ways, h.flatMap_eq]
  · simp
  · intro c rest hc
    rw [Way.rest_left, hb c rest hc, List.map_nil]

private theorem Runs.ways_group_seq {last? : Option (List Char)} (h : a.Runs n p cs last?)
    (hb : b.Avoids n p) (name : String) :
    (seq (group name a) b).ways n cs = last?.toList.flatMap fun rest ↦
      (b.ways n rest).map fun way ↦ way.keep name (cs.take (cs.length - rest.length)) := by
  rw [ways, ways, List.flatMap_map, h.flatMap_eq]
  · rfl
  · intro c rest hc
    simp [Way.keep, hb c rest hc]

/-! ### What comes first -/

/-- Where no patterns are left, nothing is looked for. -/
theorem all_nil : all [] = nothing := rfl

/-- The first pattern stands in front of the others. -/
theorem all_cons (a : Pattern) (patterns : List Pattern) :
    all (a :: patterns) = seq a (all patterns) := rfl

/-- What is read is the text in front of what is left. -/
theorem take_length_sub {front rest : List Char} (h : cs = front ++ rest) :
    cs.take (cs.length - rest.length) = front := by
  rw [h, List.length_append, Nat.add_sub_cancel, List.take_left]

private theorem head?_toList_flatMap {α β : Type} (x : Option α) (f : α → List β) :
    (x.toList.flatMap f).head? = x.bind fun a ↦ (f a).head? := by
  cases x <;> simp

/-- The pattern of nothing fits everywhere. -/
theorem here?_nothing : nothing.here? n cs = some (.left cs) := rfl

private theorem ways_word_seq (w : List Char) (b : Pattern) :
    (seq (word w) b).ways n cs = (dropPrefix? w cs).toList.flatMap (b.ways n) := by
  rw [ways, ways, List.flatMap_map]
  simp

/-- With nothing behind it, a pattern fits as it does alone. -/
theorem here?_seq_nothing (a : Pattern) : (seq a nothing).here? n cs = a.here? n cs := by
  rw [here?, here?, ways_seq_nothing]

/-- A pattern that may be missing is missing where it does not fit. -/
theorem here?_opt (a : Pattern) : (opt a).here? n cs = (a.here? n cs).or (some (.left cs)) :=
  List.head?_append

/-- What comes first is kept with what it reads. -/
theorem here?_group (name : String) (a : Pattern) : (group name a).here? n cs =
    (a.here? n cs).map fun way ↦ way.keep name (cs.take (cs.length - way.rest.length)) :=
  List.head?_map

/-- Behind a word comes what comes first behind it. -/
theorem here?_word_seq (w : List Char) (b : Pattern) :
    (seq (word w) b).here? n cs = (dropPrefix? w cs).bind (b.here? n) := by
  rw [here?, ways_word_seq, head?_toList_flatMap]
  rfl

/-- So it does behind a word that is kept. -/
theorem here?_group_word_seq (name : String) (w : List Char) (b : Pattern) :
    (seq (group name (word w)) b).here? n cs =
      (dropPrefix? w cs).bind fun rest ↦ (b.here? n rest).map (·.keep name w) := by
  rw [here?, ways, ways, ways, List.flatMap_map, List.flatMap_map, head?_toList_flatMap]
  refine Option.bind_congr fun rest hrest ↦ ?_
  rw [Way.rest_left, take_length_sub (dropPrefix?_eq_some_iff.1 hrest), Way.andThen_keep_left,
    List.head?_map]
  rfl

/-- The first alternative comes first. -/
theorem here?_alt_seq (a a' b : Pattern) :
    (seq (alt a a') b).here? n cs = ((seq a b).here? n cs).or ((seq a' b).here? n cs) := by
  simp only [here?, ways, List.flatMap_append, List.head?_append]

/-- So it does where the alternatives are kept. -/
theorem here?_group_alt_seq (name : String) (a a' b : Pattern) :
    (seq (group name (alt a a')) b).here? n cs =
      ((seq (group name a) b).here? n cs).or ((seq (group name a') b).here? n cs) := by
  simp only [here?, ways, List.map_append, List.flatMap_append, List.head?_append]

/-- If what follows avoids the class, the longest run counts, however it is looked for. -/
theorem Runs.here?_seq {last? : Option (List Char)} (h : a.Runs n p cs last?)
    (hb : b.Avoids n p) : (seq a b).here? n cs = last?.bind (b.here? n) := by
  rw [here?, h.ways_seq hb, head?_toList_flatMap]
  rfl

/-- So it does where the run is kept. -/
theorem Runs.here?_group_seq {last? : Option (List Char)} (h : a.Runs n p cs last?)
    (hb : b.Avoids n p) (name : String) :
    (seq (group name a) b).here? n cs = last?.bind fun rest ↦
      (b.here? n rest).map (·.keep name (cs.take (cs.length - rest.length))) := by
  rw [here?, h.ways_group_seq hb, head?_toList_flatMap]
  simp only [List.head?_map]
  rfl

/-- What the longest run reads is the run. -/
theorem take_of_afterRun? {rest : List Char} (h : afterRun? least p cs = some rest) :
    cs.take (cs.length - rest.length) = cs.takeWhile p := by
  obtain rfl : cs.dropWhile p = rest := by
    rw [afterRun?] at h
    split at h
    · exact Option.some.inj h
    · exact absurd h (by simp)
  exact take_length_sub List.takeWhile_append_dropWhile.symm

/-- What is kept of the longest run is the run. -/
theorem Runs.here?_group_run (h : a.Runs n p cs (afterRun? least p cs)) (hb : b.Avoids n p)
    (name : String) : (seq (group name a) b).here? n cs = (afterRun? least p cs).bind fun rest ↦
      (b.here? n rest).map (·.keep name (cs.takeWhile p)) := by
  rw [h.here?_group_seq hb]
  refine Option.bind_congr fun rest hrest ↦ ?_
  rw [take_of_afterRun? hrest]

/-- As many characters as there are count if what follows fits behind them. -/
theorem head?_flatMap_many {β : Type} {f : Way → List β}
    (hf : (f (.left (cs.dropWhile p))).head?.isSome = true) :
    (((many least p).ways n cs).flatMap f).head? =
      (afterRun? least p cs).bind fun rest ↦ (f (.left rest)).head? := by
  obtain ⟨front, -, heq⟩ := exists_drop_rests_eq least p cs
  rw [ways, heq, afterRun?]
  split
  · rw [Option.elim_some, List.reverse_append, List.map_append, List.flatMap_append,
      List.head?_append, List.reverse_singleton, List.map_singleton, List.flatMap_singleton,
      Option.or_of_isSome hf, Option.bind_some]
  · rfl

/-- The longest run counts if what follows fits behind it. -/
theorem here?_many_seq (hb : (b.here? n (cs.dropWhile p)).isSome = true) :
    (seq (many least p) b).here? n cs = (afterRun? least p cs).bind (b.here? n) := by
  rw [here?, ways, head?_flatMap_many]
  · simp only [Way.rest_left, Way.andThen_left, List.map_id]
    rfl
  · simpa [here?] using hb

/-- So it does where the run is kept. -/
theorem here?_group_many_seq (hb : (b.here? n (cs.dropWhile p)).isSome = true) (name : String) :
    (seq (group name (many least p)) b).here? n cs = (afterRun? least p cs).bind fun rest ↦
      (b.here? n rest).map (·.keep name (cs.takeWhile p)) := by
  rw [here?, ways, ways, List.flatMap_map, head?_flatMap_many]
  · refine Option.bind_congr fun rest hrest ↦ ?_
    rw [Way.rest_left, take_of_afterRun? hrest, Way.andThen_keep_left, List.head?_map]
    rfl
  · simpa [here?, Way.keep] using hb

/-- If what is made of any good place is the same but for `g`, the first good place counts. -/
private theorem findSome?_eq_find?_bind {α β : Type} {l : List α} {f : α → Option β}
    {good : α → Bool} {x : Option β} {g : α → β → β}
    (h : ∀ a ∈ l, f a = if good a then x.map (g a) else none) :
    l.findSome? f = (l.find? good).bind fun a ↦ x.map (g a) := by
  induction l with
  | nil => rfl
  | cons a l ih =>
    rw [List.forall_mem_cons] at h
    rw [List.findSome?_cons, List.find?_cons, ih h.2, h.1]
    cases good a with
    | false => simp
    | true =>
      cases x with
      | none => cases l.find? good <;> simp
      | some b => simp

/-- If what follows is the same wherever it fits, the first place where it fits ends the run. -/
theorem here?_group_few_seq {name : String} {good : List Char → Bool} {x : Option Way}
    (h : ∀ rest ∈ (rests p cs).drop least, b.here? n rest = if good rest then x else none) :
    (seq (group name (few least p)) b).here? n cs =
      (((rests p cs).drop least).find? good).bind fun rest ↦
        x.map (·.keep name (cs.take (cs.length - rest.length))) := by
  rw [here?, ways, ways, ways, List.flatMap_map, List.flatMap_map, List.head?_flatMap]
  refine findSome?_eq_find?_bind fun rest hrest ↦ ?_
  rw [Way.rest_left, Way.andThen_keep_left, List.head?_map]
  change Option.map _ (b.here? n rest) = _
  rw [h rest hrest]
  split <;> rfl

/-- The end of a line: blanks, and what is kept of a text that follows them. -/
def tail : Pattern := all [many 0 isBlank, group "text" (many 0 (· != '\n')), finish]

/-- Of a text on one line the end is kept without the blanks in front. -/
theorem here?_tail (h : '\n' ∉ cs) :
    tail.here? n cs = some ((Way.left []).keep "text" (trimStart cs)) := by
  have hkeep : ∀ {rest : List Char}, '\n' ∉ rest →
      (all [group "text" (many 0 (· != '\n')), finish]).here? n rest =
        some ((Way.left []).keep "text" rest) := by
    intro rest hrest
    have hall : ∀ c ∈ rest, (c != '\n') = true := fun c hc ↦ by
      simpa using ne_of_mem_of_not_mem hc hrest
    have htake : rest.takeWhile (· != '\n') = rest := List.takeWhile_eq_self_iff.2 hall
    have hdrop : rest.dropWhile (· != '\n') = [] := List.dropWhile_eq_nil_iff.2 hall
    have hend : (all [finish]).here? n (rest.dropWhile (· != '\n')) = some (.left []) := by
      rw [hdrop]
      rfl
    rw [all_cons, here?_group_many_seq (by rw [hend]; rfl), afterRun?_zero, Option.bind_some, hend,
      htake]
    rfl
  have hrest : '\n' ∉ cs.dropWhile isBlank := fun hmem ↦ h ((List.dropWhile_suffix _).subset hmem)
  rw [tail, all_cons, here?_many_seq (by rw [hkeep hrest]; rfl), afterRun?_zero, Option.bind_some,
    hkeep hrest]
  rfl

/-! ### What is left behind a class -/

/-- Whatever way the pattern fits, it reads only characters of the class. -/
def Within (a : Pattern) (n : Nat) (p : Char → Bool) : Prop :=
  ∀ cs, ∀ way ∈ a.ways n cs, way.rest.dropWhile p = cs.dropWhile p

/-- A word reads only characters of a class if all of its own are of that class. -/
theorem within_word {w : List Char} (h : ∀ c ∈ w, p c = true) : (word w).Within n p := by
  intro cs way hway
  simp only [ways, List.mem_map, Option.mem_toList] at hway
  obtain ⟨rest, hrest, rfl⟩ := hway
  rw [dropPrefix?_eq_some_iff.1 hrest, List.dropWhile_append_of_pos h]
  rfl

/-- A run of the class stands in front of what it leaves. -/
theorem exists_front_of_mem_rests {rest : List Char} (h : rest ∈ rests p cs) :
    ∃ front, (∀ c ∈ front, p c = true) ∧ cs = front ++ rest := by
  induction cs with
  | nil => exact ⟨[], by simp, (List.mem_singleton.1 h).symm⟩
  | cons c cs ih =>
    rw [rests, List.mem_cons] at h
    rcases h with rfl | h
    · exact ⟨[], by simp, rfl⟩
    · by_cases hc : p c = true
      · rw [if_pos hc] at h
        obtain ⟨front, hfront, rfl⟩ := ih h
        exact ⟨c :: front, List.forall_mem_cons.2 ⟨hc, hfront⟩, rfl⟩
      · rw [if_neg hc] at h
        exact absurd h List.not_mem_nil

/-- A run reads only characters of a class if its own class lies within it. -/
theorem within_many {q : Char → Bool} (h : ∀ c, q c = true → p c = true) :
    (many least q).Within n p := by
  intro cs way hway
  simp only [ways, List.mem_map, List.mem_reverse] at hway
  obtain ⟨rest, hrest, rfl⟩ := hway
  obtain ⟨front, hfront, rfl⟩ := exists_front_of_mem_rests (List.mem_of_mem_drop hrest)
  exact (List.dropWhile_append_of_pos fun c hc ↦ h c (hfront c hc)).symm

/-- One pattern and then another read only characters of a class if both do. -/
theorem Within.seq (ha : a.Within n p) (hb : b.Within n p) : (seq a b).Within n p := by
  intro cs way hway
  simp only [ways, List.mem_flatMap, List.mem_map] at hway
  obtain ⟨first, hfirst, second, hsecond, rfl⟩ := hway
  exact (hb _ second hsecond).trans (ha cs first hfirst)

/-- So do one pattern or else another. -/
theorem Within.alt (ha : a.Within n p) (hb : b.Within n p) : (alt a b).Within n p := by
  intro cs way hway
  rw [ways, List.mem_append] at hway
  exact hway.elim (ha cs way) (hb cs way)

/-- The pattern of nothing reads no character. -/
theorem within_nothing : nothing.Within n p := by
  intro cs way hway
  rw [List.mem_singleton.1 hway]
  rfl

/-- A pattern that is kept reads what it reads without the name. -/
theorem Within.group (ha : a.Within n p) (name : String) : (group name a).Within n p := by
  intro cs way hway
  simp only [ways, List.mem_map] at hway
  obtain ⟨inner, hinner, rfl⟩ := hway
  exact ha cs inner hinner

/-- What follows a pattern that reads only characters of a class, and reads over more of them, fits
behind every way or behind none, so the first way counts. -/
theorem here?_seq_of_within (ha : a.Within n p)
    (hb : ∀ rest rest', rest.dropWhile p = rest'.dropWhile p → b.ways n rest = b.ways n rest') :
    (seq a b).here? n cs =
      (a.here? n cs).bind fun way ↦ (b.here? n cs).map way.andThen := by
  have hways : (seq a b).ways n cs =
      (a.ways n cs).flatMap fun way ↦ (b.ways n cs).map way.andThen := by
    rw [ways]
    refine List.flatMap_congr fun way hway ↦ ?_
    rw [hb _ _ (ha cs way hway)]
  rw [here?, hways, here?, here?]
  cases a.ways n cs with
  | nil => rfl
  | cons way others => cases b.ways n cs <;> simp

private theorem here?_start_seq (b : Pattern) :
    (seq start b).here? n cs = if cs.length = n then b.here? n cs else none := by
  rw [here?, ways, ways]
  split <;> simp [here?]

private theorem here?_one_seq_nil (b : Pattern) : (seq (one p) b).here? n [] = none := rfl

private theorem here?_one_seq_cons (c : Char) (b : Pattern) :
    (seq (one p) b).here? n (c :: cs) = if p c then b.here? n cs else none := by
  by_cases hc : p c = true <;> simp [here?, ways, hc]

/-- A search for what stands at the start of the text or behind a blank looks at these places. -/
theorem find?_start_or_blank (b : Pattern) (cs : List Char) :
    (seq (alt start (one isBlank)) b).find? cs =
      (b.here? cs.length cs).or (findAfterBlank? (b.here? cs.length) cs) := by
  -- behind the start, only the places behind blanks are left
  have hlater : ∀ n rest, rest.length < n →
      findAnywhere? ((seq (alt start (one isBlank)) b).here? n) rest =
        findAfterBlank? (b.here? n) rest := by
    intro n rest hlt
    induction rest with
    | nil =>
      rw [findAnywhere?, findAfterBlank?, here?_alt_seq, here?_start_seq, if_neg hlt.ne,
        here?_one_seq_nil, Option.none_or]
    | cons c rest ih =>
      rw [findAnywhere?, findAfterBlank?, ih (Nat.lt_of_succ_lt hlt), here?_alt_seq,
        here?_start_seq, if_neg hlt.ne, here?_one_seq_cons, Option.none_or]
  cases cs with
  | nil =>
    rw [find?, findAnywhere?, findAfterBlank?, here?_alt_seq, here?_start_seq, if_pos rfl,
      here?_one_seq_nil]
  | cons c cs =>
    rw [find?, findAnywhere?, findAfterBlank?, hlater _ _ (by simp), here?_alt_seq,
      here?_start_seq, if_pos rfl, here?_one_seq_cons, Option.or_assoc]

end

end Pattern

end Storyline.Text
