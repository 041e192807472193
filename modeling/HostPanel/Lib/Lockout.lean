import Mathlib.Data.Int.Notation
import Mathlib.Data.List.Induction
import HostPanel.Lib.Run

namespace HostPanel.Lib

variable {σ α : Type} (step : σ → α → σ) (time : α → ℤ)

/-- The times of the steps of a run that meet `p` where they are taken. -/
def timesAlong (p : σ → α → Bool) : σ → List α → List ℤ
  | _, [] => []
  | s, a :: as => (if p s a then [time a] else []) ++ timesAlong p (step s a) as

/-- A guard against wrong attempts. It records each of them with its time; one
that finds `spare` recorded within the window closes the guard for a while, in
which none is let through. -/
structure Lockout (wrong : σ → α → Bool) (G : σ → α → Prop) (recorded : σ → ℤ → ℕ) (closed : σ → ℤ → Prop)
    (spare : ℕ) (window duration : ℤ) : Prop where
  grows : ∀ s a since, G s a → recorded s since ≤ recorded (step s a) since
  records : ∀ s a since, G s a → wrong s a = true → since ≤ time a → recorded s since + 1 ≤ recorded (step s a) since
  closes : ∀ s a, G s a → wrong s a = true → spare ≤ recorded s (time a - window) →
    closed (step s a) (time a + duration)
  keeps : ∀ s a stop, G s a → closed s stop → time a < stop → closed (step s a) stop
  refuses : ∀ s a stop, closed s stop → time a < stop → wrong s a = false

section Times

variable {step time} {p : σ → α → Bool} {s : σ} {as : List α}

theorem timesAlong_append (bs : List α) :
    timesAlong step time p s (as ++ bs) =
      timesAlong step time p s as ++ timesAlong step time p (runFrom step s as) bs := by
  induction as generalizing s with
  | nil => rfl
  | cons a as ih => simp only [List.cons_append, timesAlong, ih, runFrom_cons, List.append_assoc]

theorem timesAlong_snoc (a : α) : timesAlong step time p s (as ++ [a]) =
    timesAlong step time p s as ++ if p (runFrom step s as) a then [time a] else [] := by
  simp only [timesAlong_append, timesAlong, List.append_nil]

theorem exists_last {q : ℤ → Bool} {k : ℕ} (h : (timesAlong step time p s as).countP q = k + 1) :
    ∃ before a between, as = before ++ a :: between ∧ p (runFrom step s before) a = true ∧ q (time a) = true ∧
      (timesAlong step time p s before).countP q = k := by
  induction as using List.reverseRecOn with
  | nil => simp [timesAlong] at h
  | append_singleton as a ih =>
    rw [timesAlong_snoc, List.countP_append] at h
    by_cases hp : p (runFrom step s as) a = true <;> by_cases hq : q (time a) = true
    · refine ⟨as, a, [], rfl, hp, hq, ?_⟩
      simp only [hp, if_true, List.countP_singleton, hq] at h
      omega
    all_goals
      obtain ⟨before, b, between, rfl, hb⟩ := ih (by simpa [hp, hq] using h)
      exact ⟨before, b, between ++ [a], by simp, hb⟩

end Times

namespace Lockout

variable {step time} {wrong : σ → α → Bool} {G : σ → α → Prop} {recorded : σ → ℤ → ℕ} {closed : σ → ℤ → Prop}
variable {spare : ℕ} {window duration : ℤ} {s : σ}

theorem recorded_run (h : Lockout step time wrong G recorded closed spare window duration) (since : ℤ) {as : List α}
    (hrun : AlongRun step G s as) :
    recorded s since + (timesAlong step time wrong s as).countP (fun t => since ≤ t) ≤
      recorded (runFrom step s as) since := by
  induction as generalizing s with
  | nil => simp [timesAlong]
  | cons a as ih =>
    have hrest := ih hrun.2
    have hgrows := h.grows s a since hrun.1
    simp only [timesAlong, List.countP_append, runFrom_cons]
    by_cases hw : wrong s a = true <;> by_cases ht : since ≤ time a
    · have hrecords := h.records s a since hrun.1 hw ht
      simp only [hw, if_true, List.countP_singleton, ht, decide_true]
      omega
    all_goals
      simp [hw, ht]
      omega

theorem closed_run (h : Lockout step time wrong G recorded closed spare window duration) {stop : ℤ}
    (hclosed : closed s stop) {as : List α} (hrun : AlongRun step G s as) (htimes : ∀ a ∈ as, time a < stop) :
    closed (runFrom step s as) stop := by
  induction as generalizing s with
  | nil => exact hclosed
  | cons a as ih =>
    have hkept := h.keeps s a stop hrun.1 hclosed (htimes a List.mem_cons_self)
    exact ih hkept hrun.2 (fun b hb => htimes b (List.mem_cons_of_mem a hb))

theorem closed_after (h : Lockout step time wrong G recorded closed spare window duration) {before between : List α}
    {a : α} (hrun : AlongRun step G s (before ++ a :: between)) (ha : wrong (runFrom step s before) a = true)
    (hspare : spare ≤ (timesAlong step time wrong s before).countP (fun t => time a - window ≤ t))
    (htimes : ∀ b ∈ between, time b < time a + duration) :
    closed (runFrom step s (before ++ a :: between)) (time a + duration) := by
  obtain ⟨hbefore, hstep, hbetween⟩ := alongRun_append.mp hrun
  have hrecorded := h.recorded_run (time a - window) hbefore
  rw [runFrom_append, runFrom_cons]
  exact h.closed_run (h.closes _ a hstep ha (by omega)) hbetween htimes

/-- No window sees more than one wrong attempt beyond the spare ones. -/
theorem at_most (h : Lockout step time wrong G recorded closed spare window duration) (hle : window ≤ duration)
    {as : List α} (hrun : AlongRun step G s as) (horder : as.Pairwise (fun a b => time a ≤ time b)) (start : ℤ) :
    (timesAlong step time wrong s as).countP (fun t => start ≤ t ∧ t < start + window) ≤ spare + 1 := by
  induction as using List.reverseRecOn with
  | nil => simp [timesAlong]
  | append_singleton as a ih =>
    obtain ⟨hrun', hstep, _⟩ := alongRun_append.mp hrun
    obtain ⟨horder', _, hlast⟩ := List.pairwise_append.mp horder
    have hbound := ih hrun' horder'
    rw [timesAlong_snoc, List.countP_append]
    by_cases hw : wrong (runFrom step s as) a = true <;> by_cases ht : start ≤ time a ∧ time a < start + window
    · by_contra hmore
      have hfull : (timesAlong step time wrong s as).countP (fun t => start ≤ t ∧ t < start + window) = spare + 1 := by
        simp only [hw, if_true, List.countP_singleton, ht, decide_true, and_self] at hmore
        omega
      obtain ⟨before, b, between, rfl, hb, hin, hspare⟩ := exists_last hfull
      have hstart : start ≤ time b ∧ time b < start + window := by simpa using hin
      -- all that counts in the window counts when `b` is made
      have hearlier : spare ≤ (timesAlong step time wrong s before).countP (fun t => time b - window ≤ t) := by
        rw [← hspare]
        apply List.countP_mono_left
        intro t _ hcounts
        simp only [decide_eq_true_eq] at hcounts ⊢
        omega
      have htimes : ∀ c ∈ between ++ [a], time c < time b + duration := by
        intro c hc
        have hca : time c ≤ time a := by
          obtain hc | hc := List.mem_append.mp hc
          · exact hlast c (by simp [hc]) a List.mem_cons_self
          · cases List.mem_singleton.mp hc
            exact Int.le_refl _
        omega
      have hclosed := h.closed_after hrun' hb hearlier (fun c hc => htimes c (List.mem_append_left _ hc))
      rw [h.refuses _ a _ hclosed (htimes a (by simp))] at hw
      cases hw
    all_goals
      simp [hw, ht]
      simpa using hbound

end Lockout

end HostPanel.Lib
