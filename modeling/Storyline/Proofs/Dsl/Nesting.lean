import Storyline.Proofs.Dsl.Enclosure

/-!
# The saved script as a tree of containers

The saved script is read here by somebody who does not know its blocks. A stack holds the open
containers: a statement that starts with the keyword of a container pushes one, and `End` pops one.
Against the blocks that were saved, the stack is at each statement what `enclosing` says, and the
indentation shows how high it is.
-/

namespace Storyline.Dsl

/-! ### Reading line by line -/

/-- A container that was opened. -/
structure Opened where
  /-- The number of statements in front of the one that opened it. -/
  place : Nat
  /-- The number of spaces in front of that statement. -/
  spaces : Nat
  deriving DecidableEq, Repr

/-- What one line of the script turned out to be. -/
inductive Note where
  /-- A statement, with the containers that are open in front of it. -/
  | statement (text : List Char) (spaces : Nat) (around : List Opened)
  /-- The end of a container. -/
  | closing (spaces : Nat) (closed : Opened)
  deriving DecidableEq, Repr

namespace Note

/-- A statement is indented by four spaces for each open container, an end like its container. -/
def Indented : Note → Prop
  | statement _ spaces around => spaces = 4 * around.length
  | closing spaces closed => spaces = closed.spaces

/-- Whether the line is the end of a container. -/
def isClosing : Note → Bool
  | statement .. => false
  | closing .. => true

/-- The text of a statement and the places of the containers around it. -/
def heading? : Note → Option (List Char × List Nat)
  | statement text _ around => some (text, around.map (·.place))
  | closing .. => none

end Note

/-- What is known after a part of the script was read. -/
structure Reader where
  /-- The number of statements. -/
  count : Nat := 0
  /-- The open containers, the innermost first. -/
  stack : List Opened := []
  /-- What the lines were, in order. -/
  notes : List Note := []
  deriving DecidableEq, Repr

/-- The keywords of containers. -/
def openers : List String := ["Episode:", "Chapter:", "BackgroundSampleLine:"]

/-- Takes note of what a line says behind its spaces. An end without an open container is an
error. -/
def Reader.note (reader : Reader) (spaces : Nat) (text : List Char) : Option Reader :=
  if text = "End".toList then
    match reader.stack with
    | [] => none
    | top :: stack =>
      some { reader with stack := stack, notes := reader.notes ++ [.closing spaces top] }
  else
    some
      { count := reader.count + 1
        stack :=
          if openers.any (·.toList.isPrefixOf text) then ⟨reader.count, spaces⟩ :: reader.stack
          else reader.stack
        notes := reader.notes ++ [.statement text spaces reader.stack] }

/-- Reads one line. -/
def Reader.step (reader : Reader) (line : List Char) : Option Reader :=
  let spaces := (line.takeWhile (· == ' ')).length
  reader.note spaces (line.drop spaces)

/-- Reads lines from the first to the last. -/
def Reader.run (reader : Reader) (lines : List (List Char)) : Option Reader :=
  lines.foldlM Reader.step reader

/-- The first line is read first. -/
theorem Reader.run_cons (reader : Reader) (line : List Char) (lines : List (List Char)) :
    reader.run (line :: lines) = (reader.step line).bind (·.run lines) :=
  List.foldlM_cons

/-- Lines are read after those in front of them. -/
theorem Reader.run_append (reader : Reader) (a b : List (List Char)) :
    reader.run (a ++ b) = (reader.run a).bind (·.run b) :=
  List.foldlM_append

/-! ### One line -/

/-- The indentation of a line is told from its text. -/
theorem step_line (reader : Reader) (e : Entry) (h : e.text.toList.head? ≠ some ' ') :
    reader.step e.line = reader.note (4 * e.depth) e.text.toList := by
  have hspaces : ∀ c ∈ List.replicate (4 * e.depth) ' ', (c == ' ') = true := by
    intro c hc
    rw [List.eq_of_mem_replicate hc]
    decide
  have htext : e.text.toList.takeWhile (· == ' ') = [] := by
    cases hchars : e.text.toList with
    | nil => rfl
    | cons c cs =>
      rw [hchars] at h
      exact List.takeWhile_cons_of_neg (by simpa using h)
  have htake : (e.line.takeWhile (· == ' ')).length = 4 * e.depth := by
    rw [Entry.line, List.takeWhile_append_of_pos hspaces, htext, List.append_nil,
      List.length_replicate]
  rw [Reader.step, htake, Entry.line, List.drop_left' List.length_replicate]

/-- An end pops the innermost container. -/
theorem step_end {reader : Reader} {top : Opened} {stack : List Opened}
    (h : reader.stack = top :: stack) (depth : Nat) :
    reader.step (Entry.line ⟨depth, "End"⟩) =
      some { reader with stack := stack, notes := reader.notes ++ [.closing (4 * depth) top] } := by
  rw [step_line _ _ (show "End".toList.head? ≠ some ' ' by decide), Reader.note, if_pos rfl, h]

/-- The keywords of containers are those with which their statements start. -/
theorem opens_iff {kind : BlockKind} {text : String} (h : statement? kind = some text) :
    openers.any (·.toList.isPrefixOf text.toList) = true ↔ IsContainer kind := by
  obtain ⟨rest, hrest⟩ := exists_toList_eq h
  rw [hrest]
  cases kind with
  | episode | chapter | background =>
    rw [keyword]
    exact iff_of_true rfl (by simp [IsContainer, rank])
  | pause =>
    rw [keyword]
    exact iff_of_false Bool.false_ne_true (by simp [IsContainer, rank])
  | line line =>
    rw [keyword]
    refine iff_of_false ?_ (by simp [IsContainer, rank])
    split <;> exact Bool.false_ne_true

/-- A statement pushes its container, if it opens one. -/
theorem step_statement {kind : BlockKind} {text : String} (h : statement? kind = some text)
    (reader : Reader) (depth : Nat) :
    reader.step (Entry.line ⟨depth, text⟩) =
      some
        { count := reader.count + 1
          stack :=
            if IsContainer kind then ⟨reader.count, 4 * depth⟩ :: reader.stack else reader.stack
          notes := reader.notes ++ [.statement text.toList (4 * depth) reader.stack] } := by
  obtain ⟨rest, hrest⟩ := exists_toList_eq h
  obtain ⟨hclean, hlength⟩ := clean_keyword kind
  have hfirst : text.toList.head? ≠ some ' ' := by
    intro hspace
    rw [hrest] at hspace
    have hblank := hclean.noBlankFirst.append (keyword_ne_nil kind) rest _ hspace
    exact absurd hblank (by decide)
  have hend : text.toList ≠ "End".toList := by
    intro heq
    have := congrArg List.length (hrest.symm.trans heq)
    rw [List.length_append] at this
    change _ = 3 at this
    omega
  rw [step_line reader ⟨depth, text⟩ hfirst, Reader.note, if_neg hend]
  simp only [opens_iff h]

/-! ### Ends -/

/-- Each container of a stack is indented by four spaces for each one below it. -/
def Laddered : List Opened → Prop
  | [] => True
  | top :: stack => top.spaces = 4 * stack.length ∧ Laddered stack

/-- The ends of the upper containers of a stack pop them, each at its indentation. -/
theorem run_ends {front base : List Opened} {reader : Reader}
    (hstack : reader.stack = front ++ base) (hladder : Laddered (front ++ base)) :
    reader.run ((ends base.length front.length).map Entry.line) =
      some { reader with
        stack := base
        notes := reader.notes ++ front.map fun top ↦ .closing top.spaces top } := by
  induction front generalizing reader with
  | nil =>
    obtain ⟨count, stack, notes⟩ := reader
    obtain rfl : stack = base := hstack
    rw [List.map_nil, List.append_nil]
    rfl
  | cons top front ih =>
    obtain ⟨hspaces, hladder⟩ := hladder
    have hends : ends base.length (front.length + 1) =
        ⟨base.length + front.length, "End"⟩ :: ends base.length front.length := by
      rw [ends, List.range'_concat, List.reverse_append]
      simp [ends]
    have hdepth : 4 * (base.length + front.length) = top.spaces := by
      change top.spaces = 4 * (front ++ base).length at hspaces
      rw [hspaces, List.length_append, Nat.add_comm]
    rw [List.length_cons, hends, List.map_cons, Reader.run_cons, step_end hstack, hdepth,
      Option.bind_some, ih rfl hladder]
    simp

/-! ### Against the blocks -/

/-- The number of statements that the blocks in front of a place have. -/
def place (kinds : List BlockKind) (j : Nat) : Nat :=
  ((kinds.take j).filterMap statement?).length

/-- The containers of a rank below `r` that are open in front of a place, as they were opened. -/
def opened (kinds : List BlockKind) (r j : Nat) : List Opened :=
  (openBelow kinds r j).map fun i ↦ ⟨place kinds i, 4 * (enclosing kinds i).length⟩

/-- What the statement of the block at a place says, and the places of the statements of the
containers that enclose the block. -/
def headingAt? (kinds : List BlockKind) (j : Nat) : Option (List Char × List Nat) :=
  (kinds[j]?.bind statement?).map fun text ↦ (text.toList, (enclosing kinds j).map (place kinds))

variable {kinds : List BlockKind} {r j : Nat} {kind : BlockKind} {reader : Reader}

private theorem place_succ (h : kinds[j]? = some kind) :
    place kinds (j + 1) = place kinds j + (statement? kind).toList.length := by
  rw [place, place, List.take_add_one, h, List.filterMap_append, List.length_append]
  cases hs : statement? kind <;> simp [hs]

private theorem enclosing_eq (h : kinds[j]? = some kind) :
    enclosing kinds j = openBelow kinds (rank kind) j := by
  rw [enclosing, rankAt_of_getElem? h]

private theorem headings_succ (kinds : List BlockKind) (j : Nat) :
    (List.range (j + 1)).filterMap (headingAt? kinds) =
      (List.range j).filterMap (headingAt? kinds) ++ (headingAt? kinds j).toList := by
  rw [List.range_succ, List.filterMap_append]
  cases hs : headingAt? kinds j <;> simp [hs]

private theorem countP_isContainer_succ (h : kinds[j]? = some kind) :
    (kinds.take (j + 1)).countP (IsContainer ·) =
      (kinds.take j).countP (IsContainer ·) + if IsContainer kind then 1 else 0 := by
  rw [List.take_add_one, h, List.countP_append]
  simp [List.countP_cons]

/-- Every container has a statement. -/
theorem not_isContainer_of_statement? (h : statement? kind = none) : ¬ IsContainer kind := by
  cases kind with
  | episode | chapter | background | pause => simp [statement?] at h
  | line => exact Nat.lt_irrefl 3

/-- Behind a container, it is open within those that enclose it. -/
theorem opened_succ (h : kinds[j]? = some kind) :
    opened kinds 3 (j + 1) =
      if IsContainer kind then
        ⟨place kinds j, 4 * (openBelow kinds (rank kind) j).length⟩ :: opened kinds (rank kind) j
      else opened kinds (rank kind) j := by
  have hrank := rank_le kind
  rw [opened, openBelow_succ, rankAt_of_getElem? h]
  by_cases hcontainer : IsContainer kind
  · have hlt : rank kind < 3 := hcontainer
    rw [if_pos hcontainer, if_pos hlt, List.map_cons, enclosing_eq h, opened]
  · have heq : rank kind = 3 := Nat.le_antisymm hrank (Nat.le_of_not_lt hcontainer)
    rw [if_neg hcontainer, heq, if_neg (Nat.lt_irrefl 3), opened]

private theorem laddered_opened (kinds : List BlockKind) (r j : Nat) :
    Laddered (opened kinds r j) := by
  induction j generalizing r with
  | zero => trivial
  | succ j ih =>
    rw [opened, openBelow_succ]
    split
    · exact ⟨congrArg (4 * ·) (List.length_map _).symm, ih _⟩
    · exact ih r

/-- The reader knows the blocks in front of a place, and the stack holds the open containers of a
rank below `r`. -/
structure Follows (kinds : List BlockKind) (r j : Nat) (reader : Reader) : Prop where
  /-- The statements are those of the blocks. -/
  count : reader.count = place kinds j
  /-- The open containers are on the stack. -/
  stack : reader.stack = opened kinds r j
  /-- The indentation was right so far. -/
  indented : ∀ note ∈ reader.notes, note.Indented
  /-- The nesting was right so far. -/
  headings : reader.notes.filterMap Note.heading? = (List.range j).filterMap (headingAt? kinds)
  /-- Each container was closed or is still open. -/
  closings : reader.notes.countP Note.isClosing + reader.stack.length =
    (kinds.take j).countP (IsContainer ·)

/-- The ends in front of a statement leave the containers of lower ranks open. -/
theorem Follows.close (h : Follows kinds r j reader) {low : Nat} (hlow : low ≤ r) :
    ∃ reader', reader.run ((ends (openBelow kinds low j).length
        ((openBelow kinds r j).length - (openBelow kinds low j).length)).map Entry.line) =
          some reader' ∧ Follows kinds low j reader' := by
  obtain ⟨front, hfront⟩ := exists_openBelow_eq_append hlow j
  obtain ⟨upper, hupper, hsplit⟩ : ∃ upper : List Opened, upper.length = front.length ∧
      opened kinds r j = upper ++ opened kinds low j :=
    ⟨_, List.length_map _, by rw [opened, hfront, List.map_append, opened]⟩
  have hladder := laddered_opened kinds r j
  rw [hsplit] at hladder
  have hrun := run_ends (h.stack.trans hsplit) hladder
  have hlength : (opened kinds low j).length = (openBelow kinds low j).length := List.length_map _
  rw [hlength, hupper] at hrun
  rw [hfront, List.length_append, Nat.add_sub_cancel]
  refine ⟨_, hrun, h.count, rfl, ?_, ?_, ?_⟩
  · intro note hnote
    rcases List.mem_append.1 hnote with hnote | hnote
    · exact h.indented note hnote
    · obtain ⟨top, -, rfl⟩ := List.mem_map.1 hnote
      rfl
  · have hnone :
        (upper.map fun top ↦ Note.closing top.spaces top).filterMap Note.heading? = [] := by
      simp [List.filterMap_map, Function.comp_def, Note.heading?]
    rw [List.filterMap_append, hnone, List.append_nil, h.headings]
  · have hall : (upper.map fun top ↦ Note.closing top.spaces top).countP Note.isClosing =
        upper.length := by
      simp [List.countP_map, Function.comp_def, Note.isClosing]
    have hclosings := h.closings
    rw [h.stack, hsplit, List.length_append] at hclosings
    rw [List.countP_append, hall, ← hclosings, Nat.add_assoc]

/-- The statement of a block stands in the containers that enclose the block. -/
theorem Follows.advance (h : Follows kinds (rank kind) j reader) (hkind : kinds[j]? = some kind) :
    ∃ reader', reader.run ((statement? kind).toList.map fun text ↦
        Entry.line ⟨(openBelow kinds (rank kind) j).length, text⟩) = some reader' ∧
      Follows kinds 3 (j + 1) reader' := by
  have hplace := place_succ hkind
  have hopened := opened_succ hkind
  have hcontainers := countP_isContainer_succ hkind
  have hheadings := headings_succ kinds j
  have hclosings := h.closings
  rw [headingAt?, hkind, Option.bind_some] at hheadings
  cases hs : statement? kind with
  | none =>
    have hcontainer := not_isContainer_of_statement? hs
    rw [hs] at hplace hheadings
    rw [if_neg hcontainer] at hopened hcontainers
    refine ⟨reader, rfl, h.count.trans hplace.symm, h.stack.trans hopened.symm, h.indented, ?_, ?_⟩
    · rw [hheadings, h.headings]
      exact (List.append_nil _).symm
    · rw [hcontainers, hclosings, Nat.add_zero]
  | some text =>
    rw [hs] at hplace hheadings
    have hstep := step_statement hs reader (openBelow kinds (rank kind) j).length
    refine ⟨_, (Reader.run_cons ..).trans (by rw [hstep]; rfl), ?_, ?_, ?_, ?_, ?_⟩
    · exact (congrArg (· + 1) h.count).trans hplace.symm
    · rw [hopened, h.count, h.stack]
    · intro note hnote
      rcases List.mem_append.1 hnote with hnote | hnote
      · exact h.indented note hnote
      · obtain rfl := List.mem_singleton.1 hnote
        rw [Note.Indented, h.stack, opened, List.length_map]
    · have haround : reader.stack.map (·.place) = (enclosing kinds j).map (place kinds) := by
        rw [h.stack, opened, List.map_map, enclosing_eq hkind]
        rfl
      rw [hheadings, List.filterMap_append, h.headings, ← haround]
      rfl
    · have hstatement : ∀ spaces around,
          [Note.statement text.toList spaces around].countP Note.isClosing = 0 := fun _ _ ↦ rfl
      rw [hcontainers, ← hclosings, List.countP_append, hstatement, Nat.add_zero, Nat.add_assoc]
      split
      · rw [List.length_cons]
      · rfl

/-- The lines of a block are its ends and its statement. -/
theorem Follows.block {n : Nesting} (hn : n.Counts kinds j) (h : Follows kinds 3 j reader)
    (hkind : kinds[j]? = some kind) :
    ∃ reader', reader.run ((entries n kind).map Entry.line) = some reader' ∧
      Follows kinds 3 (j + 1) reader' := by
  obtain ⟨closed, hclosed, hfollows⟩ := h.close (rank_le kind)
  obtain ⟨advanced, hadvanced, hdone⟩ := hfollows.advance hkind
  refine ⟨advanced, ?_, hdone⟩
  rw [entries_eq, hn (rank kind) (rank_le kind), hn 3 (Nat.le_refl 3), List.map_append,
    Reader.run_append, hclosed, Option.bind_some, List.map_map]
  exact hadvanced

/-- The lines of the blocks that are left are read to the end of all containers. -/
theorem Follows.run {rest : List Block} {n : Nesting} (before : List BlockKind)
    (hn : n.Counts kinds before.length) (h : Follows kinds 3 before.length reader)
    (hkinds : kinds = before ++ rest.map (·.kind)) :
    ∃ reader', reader.run ((entriesFrom n rest).map Entry.line) = some reader' ∧
      Follows kinds 0 kinds.length reader' := by
  induction rest generalizing before n reader with
  | nil =>
    obtain rfl : kinds = before := by rw [hkinds, List.map_nil, List.append_nil]
    have hclose := h.close (Nat.zero_le 3)
    rwa [openBelow_zero_rank, List.length_nil, Nat.sub_zero, ← hn 3 (Nat.le_refl 3),
      ← closeEpisode_eq] at hclose
  | cons block rest ih =>
    have hkind : kinds[before.length]? = some block.kind := by
      rw [hkinds, List.getElem?_append_right (Nat.le_refl _), Nat.sub_self]
      rfl
    obtain ⟨next, hnext, hfollows⟩ := h.block hn hkind
    have hafter := hn.after hkind
    have hlength : before.length + 1 = (before ++ [block.kind]).length :=
      by rw [List.length_append, List.length_singleton]
    rw [hlength] at hafter hfollows
    obtain ⟨reader', hrun, hdone⟩ := ih _ hafter hfollows (by simp [hkinds])
    refine ⟨reader', ?_, hdone⟩
    rw [entriesFrom, List.map_append, Reader.run_append, hnext, Option.bind_some, hrun]

end Storyline.Dsl
