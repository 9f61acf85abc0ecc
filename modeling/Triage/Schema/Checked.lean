import Triage.Schema.Issue

/-!
# Checking with all issues

The outcome of checking a value: the value in its own type, or every issue found. Checks of several
parts are combined with `<*>`, which keeps the issues of all of them, and a check that needs the
parts comes after them with `andThen`. One fault stops a check at once: a repetition count of a
regular expression that is too large to be counted.

The checks and their issues are those of version 2.14 of pydantic, for texts that are Unicode.
-/

namespace Triage

/-- The outcome of checking a value. -/
inductive Checked (α : Type) where
  | valid (value : α)
  | invalid (issues : List Issue)
  | countTooLarge

namespace Checked

variable {α β : Type}

/-- Applies a function to a checked value. -/
def map (f : α → β) : Checked α → Checked β
  | valid a => valid (f a)
  | invalid issues => invalid issues
  | countTooLarge => countTooLarge

/-- Combines two checks; the issues of both are kept. -/
def seq (f : Checked (α → β)) (x : Checked α) : Checked β :=
  match f, x with
  | countTooLarge, _ => countTooLarge
  | _, countTooLarge => countTooLarge
  | valid f, valid a => valid (f a)
  | valid _, invalid issues => invalid issues
  | invalid issues, valid _ => invalid issues
  | invalid issues, invalid more => invalid (issues ++ more)

instance : Applicative Checked where
  pure := valid
  map := map
  seq f x := seq f (x ())

/-- A check of a value that has passed another one. -/
def andThen (x : Checked α) (f : α → Checked β) : Checked β :=
  match x with
  | valid a => f a
  | invalid issues => invalid issues
  | countTooLarge => countTooLarge

/-- The issues of a part seen from the whole. -/
def under (step : Step) : Checked α → Checked α
  | valid a => valid a
  | invalid issues => invalid (issues.map fun issue => { issue with path := step :: issue.path })
  | countTooLarge => countTooLarge

/-- One issue with the value itself. -/
def fault (cause : Cause) : Checked α := invalid [⟨[], cause⟩]

/-- The issues that keep a value from being accepted. -/
def issues : Checked α → List Issue
  | invalid issues => issues
  | _ => []

/-- The value is accepted. -/
def isValid : Checked α → Bool
  | valid _ => true
  | _ => false

@[simp] theorem map_valid (f : α → β) (a : α) : f <$> valid a = valid (f a) := rfl

@[simp] theorem pure_eq (a : α) : (pure a : Checked α) = valid a := rfl

@[simp] theorem seq_valid (f : α → β) (a : α) : valid f <*> valid a = valid (f a) := rfl

/-- A combination is accepted exactly when both of its parts are. -/
theorem seq_eq_valid_iff {f : Checked (α → β)} {x : Checked α} {b : β} :
    f <*> x = valid b ↔ ∃ g a, f = valid g ∧ x = valid a ∧ g a = b := by
  constructor
  · intro h
    cases f with
    | valid g =>
      cases x with
      | valid a => exact ⟨g, a, rfl, rfl, by simpa using h⟩
      | invalid => simp [Seq.seq, seq] at h
      | countTooLarge => simp [Seq.seq, seq] at h
    | invalid => cases x <;> simp [Seq.seq, seq] at h
    | countTooLarge => simp [Seq.seq, seq] at h
  · rintro ⟨g, a, rfl, rfl, rfl⟩
    rfl

end Checked

end Triage
