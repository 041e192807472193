import Mathlib.Logic.Basic

namespace HostPanel.Lib

/-- A value, or everything that is wrong with the input. -/
inductive Checked (ε α : Type) where
  | valid (a : α)
  | invalid (issues : List ε)

namespace Checked

variable {ε ε' α β : Type}

/-- Apply a checked function; the issues of both sides are kept. -/
def seq : Checked ε (α → β) → Checked ε α → Checked ε β
  | valid f, valid a => valid (f a)
  | valid _, invalid issues => invalid issues
  | invalid issues, valid _ => invalid issues
  | invalid issues, invalid issues' => invalid (issues ++ issues')

def map (f : α → β) (x : Checked ε α) : Checked ε β := seq (valid f) x

/-- One more check of a value. -/
def filter (p : α → Bool) (issue : ε) : Checked ε α → Checked ε α
  | valid a => if p a then valid a else invalid [issue]
  | invalid issues => invalid issues

def mapIssues (f : ε → ε') : Checked ε α → Checked ε' α
  | valid a => valid a
  | invalid issues => invalid (issues.map f)

theorem seq_eq_valid {f : Checked ε (α → β)} {x : Checked ε α} {b : β} :
    f.seq x = valid b ↔ ∃ g a, f = valid g ∧ x = valid a ∧ g a = b := by
  constructor
  · intro h
    cases f with
    | invalid issues => cases x <;> cases h
    | valid g =>
      cases x with
      | invalid issues => cases h
      | valid a =>
        cases h
        exact ⟨g, a, rfl, rfl, rfl⟩
  · rintro ⟨g, a, rfl, rfl, rfl⟩
    rfl

theorem filter_eq_valid {p : α → Bool} {issue : ε} {x : Checked ε α} {a : α} :
    x.filter p issue = valid a ↔ x = valid a ∧ p a = true := by
  cases x with
  | invalid issues =>
    constructor
    · intro h
      cases h
    · rintro ⟨h, _⟩
      cases h
  | valid b =>
    by_cases hb : p b = true
    · rw [filter, if_pos hb]
      constructor
      · rintro ⟨⟩
        exact ⟨rfl, hb⟩
      · rintro ⟨h, _⟩
        exact h
    · rw [filter, if_neg hb]
      constructor
      · intro h
        cases h
      · rintro ⟨⟨⟩, h⟩
        exact absurd h hb

theorem mapIssues_eq_valid {f : ε → ε'} {x : Checked ε α} {a : α} : x.mapIssues f = valid a ↔ x = valid a := by
  cases x with
  | valid b => exact ⟨fun h => by cases h; rfl, fun h => by cases h; rfl⟩
  | invalid issues =>
    constructor
    · intro h
      cases h
    · intro h
      cases h

end Checked

end HostPanel.Lib
