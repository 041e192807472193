import Mathlib.Logic.Basic

namespace HostPanel.Lib

/-- Rows that have an owner and refer to each other by key. -/
structure Ownership (σ ρ κ τ : Type) where
  has : σ → ρ → Prop
  key : ρ → κ
  owner : ρ → τ
  refs : ρ → List κ

namespace Ownership

variable {σ ρ κ τ : Type} (O : Ownership σ ρ κ τ) (t : τ)

/-- The key names a row of the owner. -/
def Belongs (s : σ) (k : κ) : Prop := ∃ r, O.has s r ∧ O.key r = k ∧ O.owner r = t

/-- No row of another owner is changed, and a new row of the owner refers only
to rows of the owner. -/
structure Isolated (s s' : σ) : Prop where
  kept : ∀ r, O.has s r → O.owner r ≠ t → O.has s' r
  closed : ∀ r, O.has s' r → (∀ q, O.has s q → O.key q ≠ O.key r) → O.owner r = t →
    ∀ k ∈ O.refs r, O.Belongs t s' k

/-- An isolated change that composes: rows keep their key and owner, and the
owner's rows that are not new keep their references. -/
structure Within (s s' : σ) : Prop where
  kept : ∀ r, O.has s r → O.owner r ≠ t → O.has s' r
  stable : ∀ r, O.has s r → ∃ r', O.has s' r' ∧ O.key r' = O.key r ∧ O.owner r' = O.owner r
  traced : ∀ r', O.has s' r' → O.owner r' = t →
    (∃ r, O.has s r ∧ O.key r = O.key r' ∧ O.owner r = t ∧ O.refs r = O.refs r') ∨ ∀ k ∈ O.refs r', O.Belongs t s' k

variable {O t} {s s' s'' : σ}

theorem Within.belongs (h : O.Within t s s') {k : κ} (hk : O.Belongs t s k) : O.Belongs t s' k := by
  obtain ⟨r, hr, hkey, howner⟩ := hk
  obtain ⟨r', hr', hkey', howner'⟩ := h.stable r hr
  exact ⟨r', hr', hkey'.trans hkey, howner'.trans howner⟩

theorem within_refl (s : σ) : O.Within t s s :=
  ⟨fun _ hr _ => hr, fun r hr => ⟨r, hr, rfl, rfl⟩, fun r hr ho => Or.inl ⟨r, hr, rfl, ho, rfl⟩⟩

theorem Within.trans (h : O.Within t s s') (h' : O.Within t s' s'') : O.Within t s s'' := by
  refine ⟨fun r hr ho => h'.kept r (h.kept r hr ho) ho, ?_, ?_⟩
  · intro r hr
    obtain ⟨r₁, hr₁, hkey, howner⟩ := h.stable r hr
    obtain ⟨r₂, hr₂, hkey', howner'⟩ := h'.stable r₁ hr₁
    exact ⟨r₂, hr₂, hkey'.trans hkey, howner'.trans howner⟩
  · intro r₂ hr₂ ho
    obtain ⟨r₁, hr₁, hkey, howner, hrefs⟩ | hnew := h'.traced r₂ hr₂ ho
    · obtain ⟨r, hr, hkey', howner', hrefs'⟩ | hnew := h.traced r₁ hr₁ howner
      · exact Or.inl ⟨r, hr, hkey'.trans hkey, howner', hrefs'.trans hrefs⟩
      · refine Or.inr (fun k hk => h'.belongs (hnew k ?_))
        rw [hrefs]
        exact hk
    · exact Or.inr hnew

theorem Within.isolated (h : O.Within t s s') : O.Isolated t s s' := by
  refine ⟨h.kept, fun r hr hnew ho => ?_⟩
  obtain ⟨q, hq, hkey, _⟩ | hrefs := h.traced r hr ho
  · exact absurd hkey (hnew q hq)
  · exact hrefs

theorem within_add (new : ρ) (hold : ∀ r, O.has s r → O.has s' r) (hnew : ∀ r, O.has s' r → O.has s r ∨ r = new)
    (hrefs : O.owner new = t → ∀ k ∈ O.refs new, O.Belongs t s k) : O.Within t s s' := by
  refine ⟨fun r hr _ => hold r hr, fun r hr => ⟨r, hold r hr, rfl, rfl⟩, fun r hr ho => ?_⟩
  cases hnew r hr with
  | inl h => exact Or.inl ⟨r, h, rfl, ho, rfl⟩
  | inr h =>
    subst h
    refine Or.inr (fun k hk => ?_)
    obtain ⟨q, hq, hkey, howner⟩ := hrefs ho k hk
    exact ⟨q, hold q hq, hkey, howner⟩

theorem within_map (f : ρ → ρ) (hfwd : ∀ r, O.has s r → O.has s' (f r))
    (hback : ∀ r', O.has s' r' → ∃ r, O.has s r ∧ r' = f r) (hkey : ∀ r, O.key (f r) = O.key r)
    (howner : ∀ r, O.owner (f r) = O.owner r) (hrefs : ∀ r, O.refs (f r) = O.refs r)
    (hkept : ∀ r, O.has s r → O.owner r ≠ t → f r = r) : O.Within t s s' := by
  refine ⟨?_, fun r hr => ⟨f r, hfwd r hr, hkey r, howner r⟩, ?_⟩
  · intro r hr ho
    have h := hfwd r hr
    rw [hkept r hr ho] at h
    exact h
  · intro r' hr' ho
    obtain ⟨r, hr, rfl⟩ := hback r' hr'
    exact Or.inl ⟨r, hr, (hkey r).symm, (howner r).symm.trans ho, (hrefs r).symm⟩

end Ownership

end HostPanel.Lib
