import Storyline.Proofs.Dsl.Episode
import Storyline.Proofs.Dsl.RoundTrip
import Storyline.Proofs.Script.Layout

/-!
# Lengths of time that are saved

A length of time is saved as a stamp, and what is read from the stamp is the length of time less all
whole hundreds of hours. In a saved script a pause keeps its place, whatever stands around it: the
script is read line by line, and no line of it reaches into another.
-/

namespace Storyline.Dsl

/-! ### The script line by line -/

/-- What the lines of a script say when each of them is read by itself. -/
def kindsOf (lectors : List Lector) (lines : List Entry) : List BlockKind :=
  lines.flatMap fun e ↦ Script.kinds lectors e.render

/-- The line feed behind a line says nothing. -/
theorem statementLines_render_entry (e : Entry) :
    Script.statementLines e.render.toList = Script.statementLines e.line := by
  rw [toList_render_entry, Script.statementLines_append]
  exact List.append_nil _

/-- A script says what its lines say, one after the other. -/
theorem kinds_join (lectors : List Lector) (lines : List Entry) :
    Script.kinds lectors (String.join (lines.map Entry.render)) = kindsOf lectors lines := by
  induction lines with
  | nil => rfl
  | cons e lines ih =>
    rw [kindsOf, List.flatMap_cons, ← kindsOf, ← ih, List.map_cons, String.join_cons,
      Script.kinds_eq, Script.kinds_eq, Script.kinds_eq, String.toList_append,
      statementLines_render_entry, toList_render_entry, List.append_assoc, List.singleton_append,
      Script.statementLines_append, List.map_append]

/-- A statement that stays on its line is read from there as the statement is. -/
theorem kinds_render_entry (lectors : List Lector) {kind : BlockKind} {text : String}
    (hkind : Unbroken kind) (h : statement? kind = some text) (depth : Nat) :
    Script.kinds lectors (Entry.mk depth text).render = (reread? lectors kind).toList := by
  have hline : '\n' ∉ (Entry.mk depth text).line := by
    rw [Entry.line, List.mem_append, not_or]
    exact ⟨by simp, notMem_of_statement? hkind h⟩
  rw [Script.kinds_eq, statementLines_render_entry, Script.statementLines_of_notMem hline,
    trim_line, List.filter_cons_of_pos (isStatement_trim h), reread?, h]
  rfl

/-! ### Pauses -/

/-- A written length of time is read back less all whole hundreds of hours, wherever the stamp
stands behind text without decimal digits; below a hundred hours nothing is lost. So is the length
of a pause from a saved script, and the pause stands between what is said by the lines in front of
it and by the lines behind it. -/
theorem written_time_wraps (seconds : UInt32) :
    (∀ front back : String, (∀ c ∈ front.toList, Text.isDecimal c = false) →
        Stamp.find? (front ++ Stamp.toText seconds ++ back).toList = some (seconds % 360000)) ∧
      (Stamp.find? (Stamp.toText seconds).toList = some seconds ↔ seconds < 360000) ∧
      ∀ (lectors : List Lector) (front back : List Block) (id : BlockId),
        Script.kinds lectors (render (front ++ ⟨id, .pause seconds⟩ :: back)) =
          kindsOf lectors (added {} front) ++ .pause (seconds % 360000) ::
            kindsOf lectors (entriesFrom (Nesting.behind {} front) back) := by
  refine ⟨fun front back hfront ↦ ?_, ?_, fun lectors front back id ↦ ?_⟩
  · rw [String.toList_append, String.toList_append, Stamp.toList_toText, List.append_assoc,
      Stamp.find?_append_toChars hfront]
  · have hempty : ∀ c ∈ [], Text.isDecimal c = false := fun c hc ↦ absurd hc List.not_mem_nil
    have hfound := Stamp.find?_append_toChars hempty seconds []
    rw [List.nil_append, List.append_nil] at hfound
    rw [Stamp.toList_toText, hfound, Option.some.injEq]
    exact ⟨fun h ↦ h ▸ UInt32.mod_lt seconds (by decide), Stamp.mod_eq_of_lt⟩
  · have hstatement : statement? (.pause seconds) = some ("PauseLine: " ++ Stamp.toText seconds) :=
      rfl
    have hpause : ∀ depth, Script.kinds lectors
        (Entry.mk depth ("PauseLine: " ++ Stamp.toText seconds)).render =
          [.pause (seconds % 360000)] := fun depth ↦ by
      rw [kinds_render_entry lectors (show Unbroken (.pause seconds) from trivial) hstatement,
        reread?_pause, Option.toList_some]
    rw [render, kinds_join, outline, entriesFrom_append, entriesFrom, entries, kindsOf,
      List.flatMap_append, List.flatMap_append, List.flatMap_cons, hpause]
    rfl

/-- The longest length of time takes seven digits for its hours, of which the last two are read,
also where digits follow; as a pause it is read so behind a title that is broken by a line feed. -/
theorem written_time_wraps_longest :
    Stamp.toText 4294967295 = "1193046:28:15" ∧
      (∀ c ∈ "Wait: ".toList, Text.isDecimal c = false) ∧
      Stamp.find? ("Wait: " ++ Stamp.toText 4294967295 ++ "7:00").toList = some 167295 ∧
      Script.kinds [] (render ([⟨.ofNat 0, .chapter "Two\nPause: 9"⟩] ++
          ⟨.ofNat 1, .pause 4294967295⟩ :: [⟨.ofNat 2, .pause 359999⟩])) =
        [.chapter "Two", .pause 9, .pause 167295, .pause 359999] := by
  have hfront : ∀ c ∈ "Wait: ".toList, Text.isDecimal c = false := by decide
  obtain ⟨hfound, -, hpause⟩ := written_time_wraps 4294967295
  exact ⟨by decide, hfront, hfound "Wait: " "7:00" hfront,
    (hpause [] [⟨.ofNat 0, .chapter "Two\nPause: 9"⟩] [⟨.ofNat 2, .pause 359999⟩] _).trans
      (by decide)⟩

end Storyline.Dsl
