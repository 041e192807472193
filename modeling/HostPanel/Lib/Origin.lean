import HostPanel.Lib.Run

namespace HostPanel.Lib

variable {σ α ρ : Type} {step : σ → α → σ} {G : σ → α → Prop} {ages : ρ → ρ → Prop}
  {Born : σ → α → ρ → Prop}

/-- Where every row that a step leaves was there before, perhaps younger, or is
born in the step, every row after a run was there at its start or was born in one of its steps. -/
theorem runFrom_origin (rows : σ → ρ → Prop) (hrefl : ∀ r, ages r r) (htrans : ∀ r r' r'', ages r r' → ages r' r'' → ages r r'')
    (hstep : ∀ s a, G s a → ∀ r', rows (step s a) r' → (∃ r, rows s r ∧ ages r r') ∨ Born s a r') {s : σ} {as : List α}
    (hg : AlongRun step G s as) {r' : ρ} (hr' : rows (runFrom step s as) r') :
    (∃ r, rows s r ∧ ages r r') ∨
      ∃ before a later r, as = before ++ a :: later ∧ Born (runFrom step s before) a r ∧ ages r r' := by
  induction as generalizing s with
  | nil => exact Or.inl ⟨r', hr', hrefl r'⟩
  | cons a as ih =>
    obtain ⟨q, hq, hage⟩ | ⟨before, b, later, q, hsplit, hborn, hage⟩ := ih hg.2 hr'
    · obtain ⟨r, hr, hyoung⟩ | hborn := hstep s a hg.1 q hq
      · exact Or.inl ⟨r, hr, htrans _ _ _ hyoung hage⟩
      · exact Or.inr ⟨[], a, as, q, rfl, hborn, hage⟩
    · exact Or.inr ⟨a :: before, b, later, q, congrArg (a :: ·) hsplit, hborn, hage⟩

end HostPanel.Lib
