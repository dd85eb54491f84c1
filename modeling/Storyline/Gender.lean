/-!
# Addressed gender

A story is spoken to a boy or to a girl. Whatever depends on the listener is kept once for each.
-/

namespace Storyline

/-- The listener a text is written for. -/
inductive Gender where
  | boy
  | girl
  deriving DecidableEq, Repr

namespace Gender

/-- Both genders, in the order in which they are listed everywhere. -/
def all : List Gender := [boy, girl]

/-- The name under which a gender is stored. -/
def name : Gender → String
  | boy => "boy"
  | girl => "girl"

/-- The gender stored under a name. -/
def ofName? (s : String) : Option Gender :=
  all.find? fun g ↦ g.name == s

/-- Reading a stored name gives the gender back. -/
theorem ofName?_name (g : Gender) : ofName? g.name = some g := by
  cases g <;> decide

/-- Both genders are listed. -/
theorem mem_all (g : Gender) : g ∈ all := by
  cases g <;> decide

end Gender

/-- One value for each gender. Both are always present, so no variant is half filled in. -/
structure ByGender (α : Type) where
  /-- What a boy gets. -/
  boy : α
  /-- What a girl gets. -/
  girl : α
  deriving DecidableEq, Repr

namespace ByGender

variable {α : Type}

/-- The value for one gender. -/
def get (p : ByGender α) : Gender → α
  | .boy => p.boy
  | .girl => p.girl

/-- The pair with the value for one gender replaced. -/
def set (p : ByGender α) (g : Gender) (a : α) : ByGender α :=
  match g with
  | .boy => { p with boy := a }
  | .girl => { p with girl := a }

/-- The same value for both genders. -/
def uniform (a : α) : ByGender α := ⟨a, a⟩

/-- A pair is uniform when the gender makes no difference. -/
def IsUniform (p : ByGender α) : Prop := p.boy = p.girl

instance [DecidableEq α] (p : ByGender α) : Decidable p.IsUniform :=
  inferInstanceAs (Decidable (p.boy = p.girl))

/-- The pair that gives both genders what a boy gets. -/
def collapse (p : ByGender α) : ByGender α := uniform p.boy

/-- What is stored for a gender is found again. -/
@[simp] theorem get_set_self (p : ByGender α) (g : Gender) (a : α) : (p.set g a).get g = a := by
  cases g <;> rfl

/-- Storing for one gender keeps what is stored for the other one. -/
theorem get_set_of_ne (p : ByGender α) {g h : Gender} (hne : h ≠ g) (a : α) :
    (p.set g a).get h = p.get h := by
  cases g <;> cases h <;> first | rfl | exact absurd rfl hne

/-- Of two values that are stored for one gender, the second one counts. -/
@[simp] theorem set_set (p : ByGender α) (g : Gender) (a b : α) :
    (p.set g a).set g b = p.set g b := by
  cases g <;> rfl

/-- A uniform pair has the same for either gender. -/
@[simp] theorem get_uniform (a : α) (g : Gender) : (uniform a).get g = a := by
  cases g <;> rfl

/-- A pair of one value is uniform. -/
@[simp] theorem isUniform_uniform (a : α) : (uniform a).IsUniform := rfl

/-- A collapsed pair is uniform. -/
@[simp] theorem isUniform_collapse (p : ByGender α) : p.collapse.IsUniform := rfl

end ByGender

end Storyline
