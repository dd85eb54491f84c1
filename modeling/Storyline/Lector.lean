import Storyline.Text.Blank
import Storyline.Text.Letter

/-!
# Lectors

A lector is a speaking role with the voice that reads it. A story lists its lectors; the first one
reads every line that names no lector of the story.
-/

namespace Storyline

/-- A speaking role. -/
structure Lector where
  /-- The identifier by which lines refer to the lector. -/
  id : String
  /-- The name shown to authors. -/
  name : String
  /-- The identifier of the voice at the speech service; empty if none was given. -/
  voiceId : String := ""
  deriving DecidableEq, Repr

namespace Lector

/-- The lector who reads what is assigned to nobody: the first one. -/
def default? (lectors : List Lector) : Option Lector := lectors.head?

/-- The first lector with an identifier. -/
def find? (lectors : List Lector) (id : String) : Option Lector :=
  lectors.find? fun l ↦ l.id == id

/-- The first lector whose name is `name` with the blanks around it dropped, up to the case of
ASCII letters. -/
def findNamed? (lectors : List Lector) (name : List Char) : Option Lector :=
  let wanted := Text.trim name
  lectors.find? fun l ↦ Text.eqIgnoringCase l.name.toList wanted

/-- The lector who reads a line that names `id`: the one of that identifier, else the default. -/
def effective? (lectors : List Lector) (id : Option String) : Option Lector :=
  (id.bind (find? lectors)).or (default? lectors)

/-- A lector is found under its own identifier. -/
theorem id_of_find? {lectors : List Lector} {id : String} {l : Lector}
    (h : find? lectors id = some l) : l.id = id := by
  simpa using List.find?_some h

/-- The effective lector is one of the story's lectors. -/
theorem mem_of_effective? {lectors : List Lector} {id : Option String} {l : Lector}
    (h : effective? lectors id = some l) : l ∈ lectors := by
  simp only [effective?, Option.or_eq_some_iff] at h
  rcases h with h | ⟨_, h⟩
  · obtain ⟨k, _, hk⟩ := Option.bind_eq_some_iff.1 h
    exact List.mem_of_find?_eq_some hk
  · exact List.mem_of_head? h

/-- A line goes unread only in a story without lectors. -/
theorem effective?_eq_none_iff {lectors : List Lector} {id : Option String} :
    effective? lectors id = none ↔ lectors = [] := by
  cases lectors <;> cases id <;> simp [effective?, default?, find?]

end Lector

end Storyline
