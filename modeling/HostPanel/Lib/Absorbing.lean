import HostPanel.Lib.Interleaving

namespace HostPanel.Lib.Config

variable {ι σ κ ε α β : Type} (cell : κ → σ → β) (final : β → Prop)

/-- A statement changes a row only under its lock, and takes it out of a final
state only when its call last read it in another. -/
structure Respects (seen view : σ) (eff : Effect σ κ) : Prop where
  locking : Locking cell id eff
  keeps : ∀ l, (∀ s, final (cell l s) → final (cell l (eff.apply s))) ∨ (l ∈ eff.locks ∧ ¬ final (cell l seen))

/-- A write finds a row in a final state only when its call last read it so. -/
abbrev NotOvertaken : Config ι σ κ ε α → ι → Move ε → Prop :=
  Writes (fun seen view eff => ∀ l ∈ eff.locks, final (cell l view) → final (cell l seen))

/-- What calls that respect final states keep: an open transaction that takes
a row out of a final state holds its lock, and the committed row is not final. -/
structure Guarded (c : Config ι σ κ ε α) : Prop where
  exclusive : Exclusive c
  contracts : Contracts (Respects cell final) c
  owned : Owned cell id c
  pending : ∀ i l, (∀ s, final (cell l s) → final (cell l ((c.tasks i).pending s))) ∨
    (l ∈ (c.tasks i).held ∧ ¬ final (cell l c.db))

variable {cell final}

theorem guarded_start {calls : ι → Program σ κ ε α} {s : σ}
    (h : ∀ i, (calls i).Ensures (Respects cell final) (fun _ _ => True) s) : Guarded cell final (start s calls) :=
  ⟨exclusive_start s calls, h, owned_start cell id s calls, fun _ _ => Or.inl (fun _ hf => hf)⟩

theorem Guarded.view {c : Config ι σ κ ε α} (h : Guarded cell final c) {i : ι} {l : κ} (hf : final (cell l c.db)) :
    final (cell l (c.view i)) := by
  cases h.pending i l with
  | inl hkeeps => exact hkeeps c.db hf
  | inr hheld => exact absurd hf hheld.2

theorem Guarded.wrote {c : Config ι σ κ ε α} {i : ι} {stmt : σ → Except ε (Effect σ κ)} {k : σ → Program σ κ ε α}
    {eff : Effect σ κ} (h : Guarded cell final c) (hc : (c.tasks i).code = .exec stmt k)
    (hs : stmt (c.view i) = .ok eff)
    (hseen : ∀ l ∈ eff.locks, final (cell l (c.view i)) → final (cell l (c.tasks i).seen)) (l : κ) :
    (∀ s, final (cell l s) → final (cell l ((eff.apply ∘ (c.tasks i).pending) s))) ∨
      (l ∈ eff.locks ++ (c.tasks i).held ∧ ¬ final (cell l c.db)) := by
  have hcode := h.contracts i
  rw [hc] at hcode
  cases (hcode (c.view i) eff hs).1.keeps l with
  | inl hkeeps =>
    cases h.pending i l with
    | inl hpending => exact Or.inl (fun s hf => hkeeps _ (hpending s hf))
    | inr hheld => exact Or.inr ⟨List.mem_append_right _ hheld.1, hheld.2⟩
  | inr hwrites => exact Or.inr ⟨List.mem_append_left _ hwrites.1, fun hf => hwrites.2 (hseen l hwrites.1 (h.view hf))⟩

variable [DecidableEq ι]

theorem Guarded.held {c c' : Config ι σ κ ε α} {i j : ι} {m : Move ε} (h : Guarded cell final c) (ha : Acted c i m c')
    (hj : j ≠ i) (l : κ) :
    (∀ s, final (cell l s) → final (cell l ((c'.tasks j).pending s))) ∨
      (l ∈ (c'.tasks j).held ∧ ¬ final (cell l c'.db)) := by
  rw [ha.frame hj]
  cases h.pending j l with
  | inl hkeeps => exact Or.inl hkeeps
  | inr hheld =>
    rw [ha.cell_of_held h.exclusive h.owned (Ne.symm hj) (x := l) hheld.1]
    exact Or.inr hheld

theorem Acted.guarded {c c' : Config ι σ κ ε α} {i : ι} {m : Move ε} (ha : Acted c i m c')
    (hn : NotOvertaken cell final c i m) (h : Guarded cell final c) : Guarded cell final c' := by
  refine ⟨ha.exclusive h.exclusive, ha.contracts h.contracts,
    ha.owned (fun _ _ _ hr => hr.locking) h.contracts h.owned, fun j l => ?_⟩
  by_cases hj : j = i
  · subst hj
    cases ha with
    | stay _ => exact h.pending j l
    | rolled _ e =>
      rw [set_tasks_self]
      exact Or.inl (fun _ hf => hf)
    | queried k hc =>
      rw [set_tasks_self]
      exact h.pending j l
    | wrote stmt k eff hc hs hb =>
      rw [set_tasks_self]
      exact h.wrote hc hs (hn stmt k eff rfl hc hs hb) l
    | committed k hc =>
      rw [land_tasks_self]
      exact Or.inl (fun _ hf => hf)
  · exact h.held ha hj l

theorem Acted.stays_final {c c' : Config ι σ κ ε α} {i : ι} {m : Move ε} (ha : Acted c i m c') (h : Guarded cell final c)
    {l : κ} (hf : final (cell l c.db)) : final (cell l c'.db) := by
  cases ha with
  | stay _ => exact hf
  | rolled _ e => exact hf
  | queried k hc => exact hf
  | wrote stmt k eff hc hs hb => exact hf
  | committed k hc => exact h.view hf

variable [Fintype ι] [DecidableEq κ]

/-- In a run in which no write is overtaken a final row stays final. -/
theorem run_final {calls : ι → Program σ κ ε α} {s : σ}
    (h : ∀ i, (calls i).Ensures (Respects cell final) (fun _ _ => True) s) {before later : List (ι × Move ε)}
    (hn : Along (NotOvertaken cell final) (start s calls) (before ++ later)) {l : κ}
    (hf : final (cell l ((start s calls).run before).db)) :
    final (cell l ((start s calls).run (before ++ later)).db) := by
  have hsplit := alongRun_append.mp hn
  have hbefore : Guarded cell final ((start s calls).run before) := by
    apply runFrom_inv _ (guarded_start h) hsplit.1
    intro c e hg hw
    exact (act_acted c e.1 e.2).guarded hw hg
  have hafter : Guarded cell final (((start s calls).run before).run later) ∧
      final (cell l (((start s calls).run before).run later).db) := by
    apply runFrom_inv (I := fun c => Guarded cell final c ∧ final (cell l c.db)) _ ⟨hbefore, hf⟩ hsplit.2
    intro c e hg hw
    exact ⟨(act_acted c e.1 e.2).guarded hw hg.1, (act_acted c e.1 e.2).stays_final hg.1 hg.2⟩
  rw [run, runFrom_append]
  exact hafter.2

end HostPanel.Lib.Config
