import Mathlib.Data.List.Forall2
import Mathlib.Data.List.Induction
import Mathlib.Logic.Relation
import Storyline.Script
import Storyline.Proofs.Text.Line
import Storyline.Proofs.Text.Trim

/-!
# The layout of a script

What a script says is said line by line. How it is laid out does not matter: where lines are
indented or end with blanks, where they are left empty or say `End`, and whether a carriage return
stands before a line feed.
-/

namespace Storyline

namespace Text

/-! ### Lines as editors show them -/

/-- The lines of a text as an editor shows them. A line ends with a line feed, and a carriage return
before it belongs to the end of the line. Behind the last line feed there is a line only if it is
not empty. -/
def shownLines : List Char → List (List Char)
  | [] => []
  | '\n' :: cs => [] :: shownLines cs
  | '\r' :: '\n' :: cs => [] :: shownLines cs
  | c :: cs =>
    match shownLines cs with
    | [] => [[c]]
    | l :: ls => (c :: l) :: ls

/-- The line is shown as the second one: the carriage return at its end, if any, may be hidden. -/
def ShownAs (line shown : List Char) : Prop := line = shown ∨ line = shown ++ ['\r']

/-- The lines of a text are those that an editor shows, and maybe an empty one behind them. -/
theorem exists_forall₂_shownAs (cs : List Char) :
    ∃ ls, List.Forall₂ ShownAs ls (shownLines cs) ∧ (lines cs = ls ∨ lines cs = ls ++ [[]]) := by
  fun_induction shownLines cs with
  | case1 => exact ⟨[], .nil, Or.inr rfl⟩
  | case2 cs ih =>
    obtain ⟨ls, hshown, hlines⟩ := ih
    have hcut : lines ('\n' :: cs) = [] :: lines cs := rfl
    refine ⟨[] :: ls, .cons (Or.inl rfl) hshown, ?_⟩
    rw [hcut]
    exact hlines.imp (congrArg _) (congrArg _)
  | case3 cs ih =>
    obtain ⟨ls, hshown, hlines⟩ := ih
    have hcut : lines ('\r' :: '\n' :: cs) = ['\r'] :: lines cs := rfl
    refine ⟨['\r'] :: ls, .cons (Or.inr rfl) hshown, ?_⟩
    rw [hcut]
    exact hlines.imp (congrArg _) (congrArg _)
  | case4 c cs hfeed _ hnil ih =>
    -- the text is this one character: behind it there is only the empty line
    obtain ⟨ls, hshown, hlines⟩ := ih
    rw [hnil, List.forall₂_nil_right_iff] at hshown
    subst hshown
    have hrest : lines cs = [[]] := by
      rcases hlines with h | h
      · have := length_pieces '\n' cs
        rw [← lines, h] at this
        simp at this
      · exact h
    exact ⟨[[c]], .cons (Or.inl rfl) .nil, Or.inl (pieces_cons_of_ne hfeed hrest)⟩
  | case5 c cs hfeed _ l rest hcons ih =>
    obtain ⟨ls, hshown, hlines⟩ := ih
    rw [hcons, List.forall₂_cons_right_iff] at hshown
    obtain ⟨line, ls, hline, hls, rfl⟩ := hshown
    refine ⟨(c :: line) :: ls, .cons (hline.imp (congrArg _) (congrArg _)) hls, ?_⟩
    exact hlines.imp (pieces_cons_of_ne hfeed) (pieces_cons_of_ne hfeed)

/-- Trimmed, a line is the line that is shown. -/
theorem ShownAs.trim_eq {line shown : List Char} (h : ShownAs line shown) :
    trim line = trim shown := by
  rcases h with rfl | rfl
  · rfl
  · exact trim_append_blanks shown (by decide)

end Text

namespace Script

/-- What is left of the lines of a text without its layout: they are trimmed, and empty lines and
those that say `End` are dropped. -/
def saidLines (text : List Char) : List (List Char) :=
  ((Text.shownLines text).map Text.trim).filter fun line ↦
    line ≠ [] ∧ Text.eqIgnoringCase line "end".toList = false

/-- The lines that say something are those that are left of the shown ones. -/
theorem statementLines_eq (text : List Char) : statementLines text = saidLines text := by
  obtain ⟨ls, hshown, hlines⟩ := Text.exists_forall₂_shownAs text
  have htrim : ls.map Text.trim = (Text.shownLines text).map Text.trim := by
    rw [← List.forall₂_eq_eq_eq, List.forall₂_map_left_iff, List.forall₂_map_right_iff]
    exact hshown.imp fun _ _ ↦ Text.ShownAs.trim_eq
  have hblank : ((ls ++ [[]]).map Text.trim).filter isStatement =
      (ls.map Text.trim).filter isStatement := by
    rw [List.map_append, List.filter_append]
    exact List.append_nil _
  have hstatement : (ls.map Text.trim).filter isStatement = saidLines text := by
    rw [saidLines, htrim]
    refine List.filter_congr fun line _ ↦ ?_
    cases line <;> simp [isStatement]
  rw [statementLines, ← hstatement]
  rcases hlines with h | h
  · rw [h]
  · rw [h, hblank]

/-! ### Texts put together -/

/-- Two texts with a line feed between them say what each of them says. -/
theorem statementLines_append (a b : List Char) :
    statementLines (a ++ '\n' :: b) = statementLines a ++ statementLines b := by
  simp only [statementLines, Text.lines, Text.pieces_append, List.map_append, List.filter_append]

/-- A text without line feeds says one thing at most. -/
theorem statementLines_of_notMem {line : List Char} (h : '\n' ∉ line) :
    statementLines line = [Text.trim line].filter isStatement := by
  rw [statementLines, Text.lines, Text.pieces_of_notMem h, List.map_singleton]

/-- A line can start behind the text: it is empty or ends with a line feed. -/
def AtLineStart (front : List Char) : Prop := front = [] ∨ ∃ before, front = before ++ ['\n']

/-- A line can end before the text: it is empty or starts with a line feed. -/
def AtLineEnd (back : List Char) : Prop := back = [] ∨ ∃ after, back = '\n' :: after

/-- Lines that follow each other say what each of them says. -/
theorem AtLineStart.statementLines_append {front : List Char} (h : AtLineStart front)
    (back : List Char) :
    statementLines (front ++ back) = statementLines front ++ statementLines back := by
  rcases h with rfl | ⟨before, rfl⟩
  · rfl
  · have hfront : statementLines (before ++ ['\n']) = statementLines before :=
      (Script.statementLines_append before []).trans (List.append_nil _)
    rw [hfront, List.append_assoc, List.singleton_append, Script.statementLines_append]

/-- Every text ends with a line that may be empty. -/
theorem exists_last_line (cs : List Char) :
    ∃ front last, AtLineStart front ∧ '\n' ∉ last ∧ cs = front ++ last := by
  induction cs using List.reverseRecOn with
  | nil => exact ⟨[], [], Or.inl rfl, List.not_mem_nil, rfl⟩
  | append_singleton cs c ih =>
    by_cases hc : c = '\n'
    · exact ⟨cs ++ [c], [], Or.inr ⟨cs, by rw [hc]⟩, List.not_mem_nil, (List.append_nil _).symm⟩
    · obtain ⟨front, last, hfront, hlast, rfl⟩ := ih
      exact ⟨front, last ++ [c], hfront, by simp [hlast, Ne.symm hc], List.append_assoc ..⟩

/-- Blanks in front of a text say nothing, line feeds among them or not. -/
theorem statementLines_blanks_append {blanks : List Char}
    (h : ∀ c ∈ blanks, Text.isBlank c = true) (back : List Char) :
    statementLines (blanks ++ back) = statementLines back := by
  induction blanks with
  | nil => rfl
  | cons c blanks ih =>
    rw [List.forall_mem_cons] at h
    rw [← ih h.2, List.cons_append]
    by_cases hc : c = '\n'
    · rw [hc]
      exact statementLines_append [] _
    · cases hlines : Text.lines (blanks ++ back) with
      | nil =>
        have := Text.length_pieces '\n' (blanks ++ back)
        rw [← Text.lines, hlines] at this
        simp at this
      | cons line rest =>
        have htrim : Text.trim (c :: line) = Text.trim line :=
          Text.trim_append_of_blank (a := [c]) (by simpa using h.1) line
        rw [statementLines, statementLines, Text.lines, Text.pieces_cons_of_ne hc hlines, hlines,
          List.map_cons, List.map_cons, htrim]

/-- Blanks behind a text say nothing, line feeds among them or not. -/
theorem statementLines_append_blanks (front : List Char) {blanks : List Char}
    (h : ∀ c ∈ blanks, Text.isBlank c = true) :
    statementLines (front ++ blanks) = statementLines front := by
  -- only the last line of the text gets longer
  have hlast : ∀ last, '\n' ∉ last → statementLines (last ++ blanks) = statementLines last := by
    intro last hfeed
    induction blanks generalizing last with
    | nil => rw [List.append_nil]
    | cons c blanks ih =>
      rw [List.forall_mem_cons] at h
      by_cases hc : c = '\n'
      · have hblanks := statementLines_blanks_append h.2 []
        rw [List.append_nil] at hblanks
        rw [hc, statementLines_append, hblanks]
        exact List.append_nil _
      · have hline : '\n' ∉ last ++ [c] := by simp [hfeed, Ne.symm hc]
        rw [← List.singleton_append, ← List.append_assoc, ih h.2 _ hline,
          statementLines_of_notMem hline, statementLines_of_notMem hfeed,
          Text.trim_append_blanks last (by simpa using h.1)]
  obtain ⟨front, last, hfront, hfeed, rfl⟩ := exists_last_line front
  rw [List.append_assoc, hfront.statementLines_append, hlast last hfeed,
    hfront.statementLines_append]

/-! ### Changes of the layout -/

/-- The second text is the first one with more layout at one place. -/
inductive Relaid : List Char → List Char → Prop where
  /-- Blanks were put where a line starts. With line feeds among them they are empty lines. -/
  | indented {front blanks : List Char} (hfront : AtLineStart front)
      (hblanks : ∀ c ∈ blanks, Text.isBlank c = true) (back : List Char) :
      Relaid (front ++ back) (front ++ (blanks ++ back))
  /-- Blanks were put where a line ends, as it may be a carriage return. -/
  | trailed (front : List Char) {blanks back : List Char}
      (hblanks : ∀ c ∈ blanks, Text.isBlank c = true) (hback : AtLineEnd back) :
      Relaid (front ++ back) (front ++ (blanks ++ back))
  /-- A line was put in that says `End`. -/
  | marked {front mark : List Char} (hfront : AtLineStart front) (hfeed : '\n' ∉ mark)
      (hmark : Text.eqIgnoringCase (Text.trim mark) "end".toList = true) (back : List Char) :
      Relaid (front ++ back) (front ++ (mark ++ '\n' :: back))

/-- More layout says no more. -/
theorem Relaid.statementLines_eq {a b : List Char} (h : Relaid a b) :
    statementLines b = statementLines a := by
  cases h with
  | indented hfront hblanks back =>
    rw [hfront.statementLines_append, statementLines_blanks_append hblanks,
      hfront.statementLines_append]
  | trailed front hblanks hback =>
    rw [← List.append_assoc]
    rcases hback with rfl | ⟨after, rfl⟩
    · rw [List.append_nil, List.append_nil, statementLines_append_blanks front hblanks]
    · rw [statementLines_append, statementLines_append, statementLines_append_blanks front hblanks]
  | marked hfront hfeed hmark back =>
    rw [hfront.statementLines_append, statementLines_append, statementLines_of_notMem hfeed,
      List.filter_cons_of_neg (by rw [isStatement, hmark]; simp), List.filter_nil, List.nil_append,
      hfront.statementLines_append]

/-- The text with a carriage return before every line feed. -/
def withReturns (cs : List Char) : List Char :=
  cs.flatMap fun c ↦ if c = '\n' then ['\r', '\n'] else [c]

/-- Carriage returns before line feeds can be put in one by one. -/
theorem eqvGen_withReturns (cs : List Char) : Relation.EqvGen Relaid cs (withReturns cs) := by
  have hbehind : ∀ front, Relation.EqvGen Relaid (front ++ cs) (front ++ withReturns cs) := by
    induction cs with
    | nil => exact fun front ↦ .refl _
    | cons c cs ih =>
      intro front
      by_cases hc : c = '\n'
      · subst hc
        have hreturn : Relaid (front ++ '\n' :: cs) (front ++ (['\r'] ++ '\n' :: cs)) :=
          .trailed front (by decide) (Or.inr ⟨cs, rfl⟩)
        have hrest := ih (front ++ ['\r', '\n'])
        rw [List.append_assoc, List.append_assoc] at hrest
        exact .trans _ _ _ (.rel _ _ hreturn) hrest
      · have hrest := ih (front ++ [c])
        rw [List.append_assoc, List.append_assoc] at hrest
        have hcons : withReturns (c :: cs) = [c] ++ withReturns cs := by simp [withReturns, hc]
        rwa [hcons]
  exact hbehind []

/-- However the layout is changed, the text says the same. -/
theorem statementLines_eq_of_eqvGen {a b : List Char} (h : Relation.EqvGen Relaid a b) :
    statementLines b = statementLines a := by
  induction h with
  | rel _ _ h => exact h.statementLines_eq
  | refl => rfl
  | symm _ _ _ ih => exact ih.symm
  | trans _ _ _ _ _ ih ih' => exact ih'.trans ih

/-- What the blocks of a text say depends on the lines that say something, and only on these. -/
theorem kinds_eq (lectors : List Lector) (text : String) :
    kinds lectors text =
      (statementLines text.toList).map fun line ↦ (Statement.read line).toKind lectors := by
  rw [kinds, statements, List.map_map]
  rfl

/-- A script is read line by line, whatever its layout: of two texts with a line feed between them
come the blocks of the first and those of the second, and texts with the same lines but for their
layout have the same blocks, one for each of these lines. -/
theorem kinds_of_layout (fresh : Nat → BlockId) (lectors : List Lector) :
    (∀ a b, kinds lectors (a ++ "\n" ++ b) = kinds lectors a ++ kinds lectors b) ∧
      (∀ a b, saidLines a.toList = saidLines b.toList → kinds lectors a = kinds lectors b) ∧
      (∀ a b, Relation.EqvGen Relaid a.toList b.toList → kinds lectors a = kinds lectors b) ∧
      (∀ text, kinds lectors (String.ofList (withReturns text.toList)) = kinds lectors text) ∧
      ∀ text, (parse fresh lectors text).length = (saidLines text.toList).length := by
  have hsame : ∀ a b : String, statementLines a.toList = statementLines b.toList →
      kinds lectors a = kinds lectors b := fun a b h ↦ by rw [kinds_eq, kinds_eq, h]
  refine ⟨fun a b ↦ ?_, fun a b h ↦ ?_, fun a b h ↦ ?_, fun text ↦ ?_, fun text ↦ ?_⟩
  · have hjoin : (a ++ "\n" ++ b).toList = a.toList ++ '\n' :: b.toList := by simp
    rw [kinds_eq, hjoin, statementLines_append, List.map_append, ← kinds_eq, ← kinds_eq]
  · rw [← statementLines_eq, ← statementLines_eq] at h
    exact hsame a b h
  · exact hsame a b (statementLines_eq_of_eqvGen h).symm
  · apply hsame
    rw [String.toList_ofList]
    exact statementLines_eq_of_eqvGen (eqvGen_withReturns text.toList)
  · have hlength := congrArg List.length (map_kind_parse fresh lectors text)
    rwa [List.length_map, kinds_eq, List.length_map, statementLines_eq] at hlength

/-- A text with carriage returns, an empty line, an `End`, and blanks of several kinds around its
lines; and one more blank behind it. -/
theorem kinds_of_layout_indented :
    let plain := "S1: Hush!\nFox: Run!"
    let laid := "\u2003S1: Hush! \t\r\n\r\n  eND\n\tFox: Run!\r"
    saidLines plain.toList = saidLines laid.toList ∧ kinds [] plain = kinds [] laid ∧
      Relation.EqvGen Relaid laid.toList (laid ++ " ").toList ∧
      kinds [] laid = kinds [] (laid ++ " ") := by
  intro plain laid
  obtain ⟨-, hsaid, hrelaid, -⟩ := kinds_of_layout .ofNat []
  have hequal : saidLines plain.toList = saidLines laid.toList := by decide
  have hblank : Relaid (laid.toList ++ []) (laid.toList ++ ([' '] ++ [])) :=
    .trailed laid.toList (by decide) (Or.inl rfl)
  have hlonger : Relation.EqvGen Relaid laid.toList (laid ++ " ").toList := by
    rw [List.append_nil, List.append_nil] at hblank
    rw [String.toList_append]
    exact .rel _ _ hblank
  exact ⟨hequal, hsaid plain laid hequal, hlonger, hrelaid _ _ hlonger⟩

end Script

end Storyline
