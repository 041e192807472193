import HostPanel.Lib.Errors
import HostPanel.Lib.Run

namespace HostPanel.Lib

section Reaches

variable {σ α β : Type} {step : σ → α → σ} {G : σ → α → Prop} {s t u : σ}

/-- Some steps that all meet `G` lead from `s` to `t`. -/
def Reaches (step : σ → α → σ) (G : σ → α → Prop) (s t : σ) : Prop := ∃ as, AlongRun step G s as ∧ runFrom step s as = t

namespace Reaches

theorem refl (s : σ) : Reaches step G s s := ⟨[], trivial, rfl⟩

theorem single {a : α} (h : G s a) : Reaches step G s (step s a) := ⟨[a], ⟨h, trivial⟩, rfl⟩

theorem trans (h : Reaches step G s t) (h' : Reaches step G t u) : Reaches step G s u := by
  obtain ⟨as, hg, rfl⟩ := h
  obtain ⟨bs, hg', rfl⟩ := h'
  exact ⟨as ++ bs, alongRun_append.mpr ⟨hg, hg'⟩, runFrom_append s as bs⟩

theorem mono {G' : σ → α → Prop} (h : Reaches step G s t) (hG : ∀ s a, G s a → G' s a) : Reaches step G' s t := by
  obtain ⟨as, hg, rfl⟩ := h
  exact ⟨as, hg.imp hG, rfl⟩

theorem inv {I : σ → Prop} (h : Reaches step G s t) (hstep : ∀ s a, I s → G s a → I (step s a)) (hs : I s) : I t := by
  obtain ⟨as, hg, rfl⟩ := h
  exact runFrom_inv hstep hs hg

end Reaches

theorem alongRun_of_split {as : List α} (h : ∀ before a later, as = before ++ a :: later → G (runFrom step s before) a) :
    AlongRun step G s as := by
  induction as generalizing s with
  | nil => trivial
  | cons a as ih =>
    refine ⟨h [] a as rfl, ih (fun before b later hsplit => ?_)⟩
    exact h (a :: before) b later (by rw [hsplit, List.cons_append])

/-- The simulation rule: where every step of a system is some steps of another,
every run of it is a run of the other. -/
theorem reaches_runFrom {step' : σ → β → σ} {G' : σ → β → Prop}
    (hstep : ∀ s b, G' s b → Reaches step G s (step' s b)) {bs : List β} (hg : AlongRun step' G' s bs) :
    Reaches step G s (runFrom step' s bs) := by
  induction bs generalizing s with
  | nil => exact .refl s
  | cons b bs ih => exact (hstep s b hg.1).trans (ih hg.2)

end Reaches

namespace Program

variable {σ κ ε α β τ : Type} {step : σ → τ → σ} {G : σ → τ → Prop}

/-- A program that returns has committed what it wrote. -/
theorem eval_ok_of_settled {p : Program σ κ ε α} {dirty : Bool} (hp : p.Settled dirty) {c v c' v' : σ} {a : α}
    (hcv : dirty = false → c = v) (h : p.eval c v = .ok (a, c', v')) : c' = v' := by
  induction p generalizing dirty c v with
  | ret b =>
    cases h
    exact hcv hp
  | raise e => cases h
  | query k ih => exact ih v (hp v) hcv h
  | exec stmt k ih =>
    rw [eval_exec] at h
    cases hs : stmt v with
    | error x =>
      rw [hs] at h
      cases h
    | ok eff =>
      rw [hs] at h
      exact ih (eff.apply v) (hp _) nofun h
  | commit k ih => exact ih hp (fun _ => rfl) h

theorem after_bind_cases {p : Program σ κ ε α} (f : α → Program σ κ ε β) (s : σ) (hp : p.Settled false) :
    (p >>= f).after s = p.after s ∨ ∃ a t, p.run s = (t, .ok a) ∧ (p >>= f).after s = (f a).after t := by
  cases hev : p.eval s s with
  | error x =>
    obtain ⟨e, c⟩ := x
    have hafter : p.after s = c := by rw [after_eq_outcome, hev]; rfl
    exact Or.inl ((after_bind_error hev).trans hafter.symm)
  | ok out =>
    obtain ⟨a, c, t⟩ := out
    obtain rfl := eval_ok_of_settled hp (fun _ => rfl) hev
    exact Or.inr ⟨a, c, run_ok_iff.mpr ⟨c, hev⟩, after_bind_ok hev⟩

theorem after_bind_of_reads {P : σ → Prop} {p : Program σ κ ε α} {f : α → Program σ κ ε β} {s : σ} (hp : p.Settled false)
    (hreads : p.Leaves (id : σ → σ)) (hs : P s) (hrest : ∀ a, P ((f a).after s)) : P ((p >>= f).after s) := by
  have hsame : p.after s = s := after_of_leaves hreads s
  obtain hafter | ⟨a, t, hrun, hafter⟩ := after_bind_cases f s hp
  · rwa [hafter, hsame]
  · have ht : t = s := by rw [← hsame, Program.after, hrun]
    rw [hafter, ht]
    exact hrest a

theorem reaches_bind {p : Program σ κ ε α} {f : α → Program σ κ ε β} {s : σ} (hp : p.Settled false)
    (hfirst : Reaches step G s (p.after s))
    (hrest : ∀ a t, p.run s = (t, .ok a) → Reaches step G t ((f a).after t)) : Reaches step G s ((p >>= f).after s) := by
  obtain hafter | ⟨a, t, hrun, hafter⟩ := after_bind_cases f s hp
  · rwa [hafter]
  · have ht : p.after s = t := by rw [Program.after, hrun]
    rw [hafter]
    rw [ht] at hfirst
    exact hfirst.trans (hrest a t hrun)

theorem reaches_bind_of_returns {p : Program σ κ ε α} {f : α → Program σ κ ε β} {s : σ} (hf : ∀ a, ∃ b, f a = ret b)
    (h : Reaches step G s (p.after s)) : Reaches step G s ((p >>= f).after s) := by
  rwa [after_bind_of_returns hf]

end Program

end HostPanel.Lib
