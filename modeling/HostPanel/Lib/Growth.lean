import HostPanel.Lib.Table
import HostPanel.Lib.Program

namespace HostPanel.Lib

variable {ρ ι : Type} {R : ρ → ρ → Prop}

/-- The rows of one list stand first in the other, each aged by `R`. -/
inductive Grown (R : ρ → ρ → Prop) : List ρ → List ρ → Prop
  | nil (new : List ρ) : Grown R [] new
  | cons {r r' : ρ} {l l' : List ρ} (hr : R r r') (hl : Grown R l l') : Grown R (r :: l) (r' :: l')

namespace Grown

variable {l l' l'' : List ρ}

theorem append (hrefl : ∀ r, R r r) (l new : List ρ) : Grown R l (l ++ new) := by
  induction l with
  | nil => exact .nil new
  | cons r l ih => exact .cons (hrefl r) ih

theorem refl (hrefl : ∀ r, R r r) (l : List ρ) : Grown R l l := by
  simpa using append hrefl l []

theorem trans (htrans : ∀ r r' r'', R r r' → R r' r'' → R r r'') (h : Grown R l l') (h' : Grown R l' l'') :
    Grown R l l'' := by
  induction h generalizing l'' with
  | nil new => exact .nil l''
  | cons hr hl ih =>
    cases h' with
    | cons hr' hl' => exact .cons (htrans _ _ _ hr hr') (ih hl')

theorem map_of_mem {f : ρ → ρ} {l : List ρ} (hf : ∀ r ∈ l, R r (f r)) : Grown R l (l.map f) := by
  induction l with
  | nil => exact .nil []
  | cons r l ih => exact .cons (hf r List.mem_cons_self) (ih (fun q hq => hf q (List.mem_cons_of_mem r hq)))

theorem mem (h : Grown R l l') {r : ρ} (hr : r ∈ l) : ∃ r' ∈ l', R r r' := by
  induction h with
  | nil new => exact absurd hr List.not_mem_nil
  | @cons q q' l l' hq hl ih =>
    obtain rfl | hr := List.mem_cons.mp hr
    · exact ⟨q', List.mem_cons_self, hq⟩
    · obtain ⟨r', hr', h⟩ := ih hr
      exact ⟨r', List.mem_cons_of_mem q' hr', h⟩

/-- The first row that meets a condition which ageing keeps is, aged, still the
first one. -/
theorem find? (h : Grown R l l') {p : ρ → Bool} (hp : ∀ r r', R r r' → p r' = p r) {r : ρ}
    (hr : l.find? p = some r) : ∃ r', l'.find? p = some r' ∧ R r r' := by
  induction h with
  | nil new => cases hr
  | @cons q q' l l' hq hl ih =>
    rw [List.find?_cons] at hr ⊢
    rw [hp q q' hq]
    cases hpq : p q with
    | true =>
      rw [hpq] at hr
      cases hr
      exact ⟨q', rfl, hq⟩
    | false =>
      rw [hpq] at hr
      exact ih hr

end Grown

namespace Table

variable {key : ρ → ι} [DecidableEq ι]

omit [DecidableEq ι] in
theorem grown_updateWhere (hrefl : ∀ r, R r r) (t : Table key) (p : ρ → Bool) (f : ρ → ρ)
    (hf : ∀ r, key (f r) = key r) (hage : ∀ r, p r = true → R r (f r)) :
    Grown R t.rows (t.updateWhere p f hf).rows := by
  apply Grown.map_of_mem
  intro r _
  by_cases hp : p r = true
  · rw [if_pos hp]
    exact hage r hp
  · rw [if_neg hp]
    exact hrefl r

theorem grown_insert (hrefl : ∀ r, R r r) (t : Table key) (row : ρ) : Grown R t.rows (t.insert row).rows := by
  by_cases h : key row ∈ t.rows.map key
  · rw [insert, dif_pos h]
    exact Grown.refl hrefl t.rows
  · rw [insert, dif_neg h]
    exact Grown.append hrefl t.rows [row]

theorem find_of_grown {t t' : Table key} (h : Grown R t.rows t'.rows) (hkey : ∀ r r', R r r' → key r' = key r)
    {i : ι} {r : ρ} (hr : t.find i = some r) : ∃ r', t'.find i = some r' ∧ R r r' := by
  apply h.find? _ hr
  intro q q' hq
  rw [hkey q q' hq]

end Table

variable {σ κ ε α β : Type}

namespace Program

/-- Every write of the program takes the tables to tables related to them. -/
def Guarantees (rel : σ → σ → Prop) : Program σ κ ε α → Prop
  | ret _ => True
  | raise _ => True
  | query k => ∀ v, (k v).Guarantees rel
  | exec stmt k => (∀ v eff, stmt v = .ok eff → ∀ t, rel t (eff.apply t)) ∧ ∀ v, (k v).Guarantees rel
  | commit k => k.Guarantees rel

variable {rel : σ → σ → Prop} {p : Program σ κ ε α} {f : α → Program σ κ ε β}

theorem Guarantees.bind (hp : p.Guarantees rel) (hf : ∀ a, (f a).Guarantees rel) : (p >>= f).Guarantees rel := by
  induction p with
  | ret a => exact hf a
  | raise e => trivial
  | query k ih => exact fun v => ih v (hp v)
  | exec stmt k ih => exact ⟨hp.1, fun v => ih v (hp.2 v)⟩
  | commit k ih => exact ih hp

theorem Guarantees.transaction (hp : p.Guarantees rel) : (transaction p).Guarantees rel :=
  hp.bind (fun _ => trivial)

theorem Leaves.guarantees {γ : Type} {π : σ → γ} (hp : p.Leaves π) (h : ∀ s t, π t = π s → rel s t) :
    p.Guarantees rel := by
  induction p with
  | ret a => trivial
  | raise e => trivial
  | query k ih => exact fun v => ih v (hp v)
  | exec stmt k ih => exact ⟨fun v eff he t => h t _ (hp.1 v eff he t), fun v => ih v (hp.2 v)⟩
  | commit k ih => exact ih hp

variable (hrefl : ∀ s, rel s s) (htrans : ∀ s t u, rel s t → rel t u → rel s u)

include hrefl htrans in
theorem eval_of_guarantees (hp : p.Guarantees rel) {c v : σ} (hcv : rel c v) :
    match p.eval c v with
    | .ok (_, c', v') => rel c c' ∧ rel c' v'
    | .error (_, c') => rel c c' := by
  induction p generalizing c v with
  | ret a => exact ⟨hrefl c, hcv⟩
  | raise e => exact hrefl c
  | query k ih => exact ih v (hp v) hcv
  | exec stmt k ih =>
    rw [eval_exec]
    cases hs : stmt v with
    | error e => exact hrefl c
    | ok eff =>
      have hv : rel v (eff.apply v) := hp.1 v eff hs v
      -- A write alone commits nothing: the committed tables stay `c`.
      exact ih (eff.apply v) (hp.2 _) (htrans _ _ _ hcv hv)
  | commit k ih =>
    rw [eval_commit]
    have hk := ih hp (hrefl v)
    cases he : k.eval v v with
    | error x =>
      rw [he] at hk
      exact htrans _ _ _ hcv hk
    | ok q =>
      rw [he] at hk
      exact ⟨htrans _ _ _ hcv hk.1, hk.2⟩

include hrefl htrans in
theorem after_of_guarantees (hp : p.Guarantees rel) (s : σ) : rel s (p.after s) := by
  have h := eval_of_guarantees hrefl htrans hp (hrefl s)
  unfold after run
  cases he : p.eval s s with
  | error x =>
    rw [he] at h
    exact h
  | ok q =>
    rw [he] at h
    exact htrans _ _ _ h.1 h.2

end Program

end HostPanel.Lib
