import Storyline.Dsl

/-!
# The saved script episode by episode

An episode closes every container that is open, and what follows it stands as it would at the start
of a script. So the script of a story can be cut in front of every episode: it is the scripts of the
parts, one behind the other, and what is changed in one episode changes no other part. Lines without
a code have no part in it at all.
-/

namespace Storyline.Dsl

/-! ### Blocks in front of others -/

/-- The containers that are open behind blocks inside `n`. -/
def Nesting.behind (n : Nesting) (blocks : List Block) : Nesting :=
  blocks.foldl (fun n block ↦ n.after block.kind) n

/-- The lines that blocks inside `n` add to the script in front of what follows them. -/
def added (n : Nesting) : List Block → List Entry
  | [] => []
  | block :: rest => entries n block.kind ++ added (n.after block.kind) rest

/-- What follows blocks is written inside the containers that are open behind them. -/
theorem entriesFrom_append (n : Nesting) (front back : List Block) :
    entriesFrom n (front ++ back) = added n front ++ entriesFrom (n.behind front) back := by
  induction front generalizing n with
  | nil => rfl
  | cons block front ih =>
    rw [List.cons_append, entriesFrom, ih, added, List.append_assoc]
    rfl

/-! ### Episodes -/

/-- An episode closes what the end of a script would close, and says what it says at the start of
one. Whatever was open before, nothing but the episode is open behind it. -/
theorem entriesFrom_episode (n : Nesting) (id : BlockId) (title : String) (back : List Block) :
    entriesFrom n (⟨id, .episode title⟩ :: back) =
      n.closeEpisode ++ entriesFrom {} (⟨id, .episode title⟩ :: back) := by
  have hentries : entries n (.episode title) = n.closeEpisode ++ entries {} (.episode title) := rfl
  have hafter : n.after (.episode title) = Nesting.after {} (.episode title) := rfl
  rw [entriesFrom, entriesFrom, hentries, hafter, List.append_assoc]

/-- The blocks in front of an episode end as a script ends. -/
theorem entriesFrom_append_episode (n : Nesting) (front back : List Block) (id : BlockId)
    (title : String) :
    entriesFrom n (front ++ ⟨id, .episode title⟩ :: back) =
      entriesFrom n front ++ entriesFrom {} (⟨id, .episode title⟩ :: back) := by
  have hfront := entriesFrom_append n front []
  rw [List.append_nil, entriesFrom] at hfront
  rw [entriesFrom_append, entriesFrom_episode, hfront, List.append_assoc]

private theorem render_cut (front back : List Block) (id : BlockId) (title : String) :
    render (front ++ ⟨id, .episode title⟩ :: back) =
      render front ++ render (⟨id, .episode title⟩ :: back) := by
  rw [render, outline, entriesFrom_append_episode, List.map_append, String.join_append]
  rfl

/-! ### Lines without a code -/

/-- The block is no line without a code. -/
def Kept (block : Block) : Prop := ∀ line ∈ block.line?, line.tag? ≠ none

instance : DecidablePred Kept := fun block ↦
  inferInstanceAs (Decidable (∀ line ∈ block.line?, line.tag? ≠ none))

/-- A line without a code adds nothing to the script, and opens and closes nothing. -/
theorem entries_of_not_kept {block : Block} (h : ¬ Kept block) (n : Nesting) :
    entries n block.kind = [] ∧ n.after block.kind = n := by
  obtain ⟨id, kind⟩ := block
  cases kind with
  | line line =>
    have htag : line.tag? = none := by simpa [Kept, Block.line?, BlockKind.line?] using h
    rw [entries, lineStatement?, Line.markedCode?, htag]
    exact ⟨rfl, rfl⟩
  | _ => exact absurd (by simp [Kept, Block.line?, BlockKind.line?]) h

private theorem entriesFrom_filter_kept (n : Nesting) (blocks : List Block) :
    entriesFrom n (blocks.filter (Kept ·)) = entriesFrom n blocks := by
  induction blocks generalizing n with
  | nil => rfl
  | cons block blocks ih =>
    by_cases h : Kept block
    · rw [List.filter_cons_of_pos (by simpa using h), entriesFrom, entriesFrom, ih]
    · obtain ⟨hentries, hafter⟩ := entries_of_not_kept h n
      rw [List.filter_cons_of_neg (by simpa using h), entriesFrom, hentries, hafter, ih,
        List.nil_append]

/-! ### Parts of a script -/

/-- The script of a story is cut in front of an episode into the scripts of both parts. So an
episode between others has a script of its own, whatever is in front of it and behind it. Lines
without a code can be left out anywhere. -/
theorem render_append_episode (front back : List Block) (id : BlockId) (title : String) :
    render (front ++ ⟨id, .episode title⟩ :: back) =
        render front ++ render (⟨id, .episode title⟩ :: back) ∧
      (∀ (body : List Block) (next : BlockId) (nextTitle : String),
        render (front ++ ⟨id, .episode title⟩ :: (body ++ ⟨next, .episode nextTitle⟩ :: back)) =
          render front ++ render (⟨id, .episode title⟩ :: body) ++
            render (⟨next, .episode nextTitle⟩ :: back)) ∧
      ∀ blocks : List Block, render (blocks.filter (Kept ·)) = render blocks := by
  refine ⟨render_cut front back id title, fun body next nextTitle ↦ ?_, fun blocks ↦ ?_⟩
  · rw [render_cut, ← List.cons_append, render_cut, String.append_assoc]
  · rw [render, outline, entriesFrom_filter_kept, render, outline]

end Storyline.Dsl
