import Mathlib.Data.List.Basic

namespace HostPanel.Lib

variable {σ α : Type} {step : σ → α → σ} {G : σ → α → Prop}

/-- Steps taken one after the other. -/
def runFrom (step : σ → α → σ) (s : σ) (as : List α) : σ := as.foldl step s

@[simp] theorem runFrom_nil (s : σ) : runFrom step s [] = s := rfl

@[simp] theorem runFrom_cons (s : σ) (a : α) (as : List α) : runFrom step s (a :: as) = runFrom step (step s a) as := rfl

theorem runFrom_append (s : σ) (as bs : List α) : runFrom step s (as ++ bs) = runFrom step (runFrom step s as) bs :=
  List.foldl_append

/-- The steps of a run all meet `G` where they are taken. -/
def AlongRun (step : σ → α → σ) (G : σ → α → Prop) : σ → List α → Prop
  | _, [] => True
  | s, a :: as => G s a ∧ AlongRun step G (step s a) as

instance [∀ s a, Decidable (G s a)] (s : σ) (as : List α) : Decidable (AlongRun step G s as) :=
  match as with
  | [] => inferInstanceAs (Decidable True)
  | a :: as =>
    let _ : Decidable (AlongRun step G (step s a) as) := instDecidableAlongRun (step s a) as
    inferInstanceAs (Decidable (_ ∧ _))

theorem alongRun_append {s : σ} {as bs : List α} :
    AlongRun step G s (as ++ bs) ↔ AlongRun step G s as ∧ AlongRun step G (runFrom step s as) bs := by
  induction as generalizing s with
  | nil => simp [AlongRun]
  | cons a as ih => simp only [List.cons_append, AlongRun, runFrom_cons, ih, and_assoc]

theorem AlongRun.imp {G' : σ → α → Prop} {s : σ} {as : List α} (h : AlongRun step G s as) (hG : ∀ s a, G s a → G' s a) :
    AlongRun step G' s as := by
  induction as generalizing s with
  | nil => trivial
  | cons a as ih => exact ⟨hG s a h.1, ih h.2⟩

theorem AlongRun.and {G' : σ → α → Prop} {s : σ} {as : List α} (h : AlongRun step G s as)
    (h' : AlongRun step G' s as) : AlongRun step (fun s a => G s a ∧ G' s a) s as := by
  induction as generalizing s with
  | nil => trivial
  | cons a as ih => exact ⟨⟨h.1, h'.1⟩, ih h.2 h'.2⟩

theorem alongRun_of_forall (h : ∀ s a, G s a) (s : σ) (as : List α) : AlongRun step G s as := by
  induction as generalizing s with
  | nil => trivial
  | cons a as ih => exact ⟨h s a, ih (step s a)⟩

theorem alongRun_of_mem {s : σ} {as : List α} (h : ∀ a ∈ as, ∀ s, G s a) : AlongRun step G s as := by
  induction as generalizing s with
  | nil => trivial
  | cons a as ih => exact ⟨h a List.mem_cons_self s, ih (fun b hb => h b (List.mem_cons_of_mem a hb))⟩

/-- The run rule: what every step that meets `G` keeps holds after every run
whose steps meet it. -/
theorem runFrom_inv {I : σ → Prop} (hstep : ∀ s a, I s → G s a → I (step s a)) {s : σ} {as : List α} (hs : I s)
    (hg : AlongRun step G s as) : I (runFrom step s as) := by
  induction as generalizing s with
  | nil => exact hs
  | cons a as ih => exact ih (hstep s a hs hg.1) hg.2

section Project

variable {τ : Type} {step' : τ → α → τ} {π : τ → σ}

theorem runFrom_project (h : ∀ t a, π (step' t a) = step (π t) a) (t : τ) (as : List α) :
    π (runFrom step' t as) = runFrom step (π t) as := by
  induction as generalizing t with
  | nil => rfl
  | cons a as ih => rw [runFrom_cons, ih, h, runFrom_cons]

theorem alongRun_project (h : ∀ t a, π (step' t a) = step (π t) a) (t : τ) (as : List α) :
    AlongRun step' (fun t a => G (π t) a) t as ↔ AlongRun step G (π t) as := by
  induction as generalizing t with
  | nil => rfl
  | cons a as ih => rw [AlongRun, AlongRun, ih, h]

end Project

/-- The exact run rule: where a step keeps `P` just when it meets `C`, all tables
on the way have `P` just when all steps meet `C`. -/
theorem forall_prefix_iff_alongRun {I P : σ → Prop} {C : σ → α → Prop}
    (hinv : ∀ s a, I s → G s a → P s → I (step s a))
    (hstep : ∀ s a, I s → G s a → P s → (P (step s a) ↔ C s a)) {s : σ} {as : List α} (hI : I s) (hP : P s)
    (hG : AlongRun step G s as) :
    (∀ before, before <+: as → P (runFrom step s before)) ↔ AlongRun step C s as := by
  induction as generalizing s with
  | nil =>
    refine iff_of_true (fun before h => ?_) trivial
    rw [List.prefix_nil.mp h]
    exact hP
  | cons a as ih =>
    constructor
    · intro hall
      have hnext : P (step s a) := hall [a] ⟨as, rfl⟩
      refine ⟨(hstep s a hI hG.1 hP).mp hnext, (ih (hinv s a hI hG.1 hP) hnext hG.2).mp (fun before h => ?_)⟩
      exact hall (a :: before) (List.cons_prefix_cons.mpr ⟨rfl, h⟩)
    · rintro ⟨hC, hrest⟩ before h
      have hnext : P (step s a) := (hstep s a hI hG.1 hP).mpr hC
      cases before with
      | nil => exact hP
      | cons b before =>
        obtain ⟨hb, htail⟩ := List.cons_prefix_cons.mp h
        rw [hb]
        exact (ih (hinv s a hI hG.1 hP) hnext hG.2).mpr hrest before htail

theorem alongRun_of_forall_prefix {P : σ → Prop} (hG : ∀ s a, P s → P (step s a) → G s a) {s : σ} {as : List α}
    (h : ∀ before, before <+: as → P (runFrom step s before)) : AlongRun step G s as := by
  induction as generalizing s with
  | nil => trivial
  | cons a as ih =>
    refine ⟨hG s a (h [] List.nil_prefix) (h [a] ⟨as, rfl⟩), ih (fun before hb => ?_)⟩
    exact h (a :: before) (List.cons_prefix_cons.mpr ⟨rfl, hb⟩)

end HostPanel.Lib
