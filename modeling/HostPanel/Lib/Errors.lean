import HostPanel.Lib.Program

namespace HostPanel.Lib.Program

variable {σ κ ε α β : Type} {Q : ε → Prop}

/-- Whatever the program throws meets `Q`. -/
def Throws (Q : ε → Prop) : Program σ κ ε α → Prop
  | ret _ => True
  | raise e => Q e
  | query k => ∀ v, (k v).Throws Q
  | exec stmt k => (∀ v e, stmt v = .error e → Q e) ∧ ∀ v, (k v).Throws Q
  | commit k => k.Throws Q

/-- Whatever the program throws once it has committed something meets `Q`. -/
def ThrowsLate (Q : ε → Prop) : Program σ κ ε α → Prop
  | ret _ => True
  | raise _ => True
  | query k => ∀ v, (k v).ThrowsLate Q
  | exec _ k => ∀ v, (k v).ThrowsLate Q
  | commit k => k.Throws Q

theorem Throws.bind {p : Program σ κ ε α} {f : α → Program σ κ ε β} (hp : p.Throws Q) (hf : ∀ a, (f a).Throws Q) :
    (p >>= f).Throws Q := by
  induction p with
  | ret a => exact hf a
  | raise e => exact hp
  | query k ih => exact fun v => ih v (hp v)
  | exec stmt k ih => exact ⟨hp.1, fun v => ih v (hp.2 v)⟩
  | commit k ih => exact ih hp

theorem Throws.transaction {p : Program σ κ ε α} (hp : p.Throws Q) : (transaction p).Throws Q :=
  hp.bind (fun _ => trivial)

theorem Throws.eval_error {p : Program σ κ ε α} (hp : p.Throws Q) {c v c' : σ} {e : ε}
    (h : p.eval c v = .error (e, c')) : Q e := by
  induction p generalizing c v with
  | ret a => cases h
  | raise x =>
    cases h
    exact hp
  | query k ih => exact ih v (hp v) h
  | exec stmt k ih =>
    rw [eval_exec] at h
    cases hs : stmt v with
    | error x =>
      rw [hs] at h
      cases h
      exact hp.1 v e hs
    | ok eff =>
      rw [hs] at h
      exact ih (eff.apply v) (hp.2 _) h
  | commit k ih => exact ih hp h

theorem Uncommitted.bind_throwsLate {p : Program σ κ ε α} {f : α → Program σ κ ε β} (hp : p.Uncommitted)
    (hf : ∀ a, (f a).ThrowsLate Q) : (p >>= f).ThrowsLate Q := by
  induction p with
  | ret a => exact hf a
  | raise e => trivial
  | query k ih => exact fun v => ih v (hp v)
  | exec stmt k ih => exact fun v => ih v (hp v)
  | commit k => exact hp.elim

theorem Uncommitted.transaction_bind_throwsLate {p : Program σ κ ε α} {f : α → Program σ κ ε β} (hp : p.Uncommitted)
    (hf : ∀ a, (f a).Throws Q) : (Program.transaction p >>= f).ThrowsLate Q := by
  rw [transaction_bind]
  exact hp.bind_throwsLate hf

theorem Atomic.throwsLate {p : Program σ κ ε α} (hp : p.Atomic) : p.ThrowsLate Q := by
  induction p with
  | ret a => trivial
  | raise e => trivial
  | query k ih => exact fun v => ih v (hp v)
  | exec stmt k ih => exact fun v => ih v (hp v)
  | commit k =>
    obtain ⟨a, rfl⟩ := hp
    trivial

/-- An error of another kind was thrown before anything was committed. -/
theorem ThrowsLate.eval_error {p : Program σ κ ε α} (hp : p.ThrowsLate Q) {c v c' : σ} {e : ε}
    (h : p.eval c v = .error (e, c')) (he : ¬ Q e) : c' = c := by
  induction p generalizing v with
  | ret a => cases h
  | raise x =>
    cases h
    rfl
  | query k ih => exact ih v (hp v) h
  | exec stmt k ih =>
    rw [eval_exec] at h
    cases hs : stmt v with
    | error x =>
      rw [hs] at h
      cases h
      rfl
    | ok eff =>
      rw [hs] at h
      exact ih (eff.apply v) (hp _) h
  | commit k => exact absurd (Throws.eval_error (p := k) hp h) he

theorem eval_bind_error {p : Program σ κ ε α} {f : α → Program σ κ ε β} {c v : σ} {x : ε × σ}
    (h : (p >>= f).eval c v = .error x) :
    p.eval c v = .error x ∨ ∃ a c' v', p.eval c v = .ok (a, c', v') ∧ (f a).eval c' v' = .error x := by
  rw [eval_bind] at h
  cases hp : p.eval c v with
  | error y =>
    rw [hp] at h
    cases h
    exact Or.inl rfl
  | ok out =>
    obtain ⟨a, c', v'⟩ := out
    rw [hp] at h
    exact Or.inr ⟨a, c', v', rfl, h⟩

/-- On committed tables `c`, its open transaction seeing `v`, the program throws
only what meets `Q`. -/
def ThrowsAt (Q : ε → Prop) (p : Program σ κ ε α) (c v : σ) : Prop := ∀ e c', p.eval c v = .error (e, c') → Q e

theorem Throws.throwsAt {p : Program σ κ ε α} (hp : p.Throws Q) (c v : σ) : p.ThrowsAt Q c v :=
  fun _ _ h => hp.eval_error h

theorem Leaves.bind_throwsAt {γ : Type} {π : σ → γ} {p : Program σ κ ε α} {f : α → Program σ κ ε β} {c v : σ}
    (hl : p.Leaves π) (hp : p.Throws Q) (hcv : π c = π v)
    (hf : ∀ a c' v', π c' = π v → π v' = π v → (f a).ThrowsAt Q c' v') : (p >>= f).ThrowsAt Q c v := by
  intro e c₁ h
  obtain hfirst | ⟨a, c', v', hfirst, hrest⟩ := eval_bind_error h
  · exact hp.eval_error hfirst
  · have hsame := eval_of_leaves hl hcv
    rw [hfirst] at hsame
    exact hf a c' v' hsame.1 hsame.2 e c₁ hrest

theorem ThrowsAt.bind_ret {p : Program σ κ ε α} {g : α → β} {c v : σ} (hp : p.ThrowsAt Q c v) :
    (p >>= fun a => ret (g a)).ThrowsAt Q c v := by
  intro e c₁ h
  obtain hfirst | ⟨_, _, _, _, hdone⟩ := eval_bind_error h
  · exact hp e c₁ hfirst
  · cases hdone

theorem ThrowsAt.transaction {p : Program σ κ ε α} {c v : σ} (hp : p.ThrowsAt Q c v) :
    (Program.transaction p).ThrowsAt Q c v := by
  intro e c₁ h
  obtain hfirst | ⟨_, _, _, _, hdone⟩ := eval_bind_error h
  · exact hp e c₁ hfirst
  · cases hdone

theorem after_bind_of_returns {p : Program σ κ ε α} {f : α → Program σ κ ε β} (hf : ∀ a, ∃ b, f a = ret b) (s : σ) :
    (p >>= f).after s = p.after s := by
  unfold after run
  rw [eval_bind]
  cases p.eval s s with
  | error x => rfl
  | ok out =>
    obtain ⟨a, c, v⟩ := out
    obtain ⟨b, hb⟩ := hf a
    simp only [hb, eval_ret]

end HostPanel.Lib.Program
