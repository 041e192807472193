import Mathlib.Data.Nat.Notation
import HostPanel.Lib.Growth

namespace HostPanel.Lib

variable {σ κ ε α β γ : Type}

namespace Program

/-- The program whose `n`-th statement, counted from zero, fails. -/
def cut (e : ε) : Program σ κ ε α → ℕ → Program σ κ ε α
  | ret a, _ => ret a
  | raise x, _ => raise x
  | query _, 0 | exec _ _, 0 | commit _, 0 => raise e
  | query k, n + 1 => query (fun v => (k v).cut e n)
  | exec stmt k, n + 1 => exec stmt (fun v => (k v).cut e n)
  | commit k, n + 1 => commit (k.cut e n)

/-- How many statements a run of the program issues. -/
def statements : Program σ κ ε α → σ → ℕ
  | ret _, _ => 0
  | raise _, _ => 0
  | query k, v => (k v).statements v + 1
  | exec stmt k, v =>
    match stmt v with
    | .error _ => 1
    | .ok eff => (k (eff.apply v)).statements (eff.apply v) + 1
  | commit k, v => k.statements v + 1

@[simp] theorem statements_ret (a : α) (v : σ) : (ret a : Program σ κ ε α).statements v = 0 := rfl

@[simp] theorem statements_raise (e : ε) (v : σ) : (raise e : Program σ κ ε α).statements v = 0 := rfl

@[simp] theorem statements_query (k : σ → Program σ κ ε α) (v : σ) :
    (query k).statements v = (k v).statements v + 1 := rfl

@[simp] theorem statements_commit (k : Program σ κ ε α) (v : σ) : (commit k).statements v = k.statements v + 1 := rfl

theorem statements_pos {p : Program σ κ ε α} (h : p.finished = false) (v : σ) : 0 < p.statements v := by
  cases p with
  | ret _ => cases h
  | raise _ => cases h
  | query k | commit k => exact Nat.succ_pos _
  | exec stmt k =>
    simp only [statements]
    split <;> omega

theorem statements_exec_error {stmt : σ → Except ε (Effect σ κ)} {k : σ → Program σ κ ε α} {v : σ} {e : ε}
    (h : stmt v = .error e) : (exec stmt k).statements v = 1 := by simp only [statements, h]

theorem statements_exec_ok {stmt : σ → Except ε (Effect σ κ)} {k : σ → Program σ κ ε α} {v : σ} {eff : Effect σ κ}
    (h : stmt v = .ok eff) :
    (exec stmt k).statements v = (k (eff.apply v)).statements (eff.apply v) + 1 := by simp only [statements, h]

/-- A first part that ran to its end counts in full. -/
theorem statements_bind_ok {p : Program σ κ ε α} {f : α → Program σ κ ε β} {c v c' v' : σ} {a : α}
    (h : p.eval c v = .ok (a, c', v')) : (p >>= f).statements v = p.statements v + (f a).statements v' := by
  induction p generalizing c v with
  | ret b =>
    cases h
    simp
  | raise e => cases h
  | query k ih =>
    have hk := ih v h
    simp only [query_bind, statements_query, hk]
    omega
  | exec stmt k ih =>
    rw [eval_exec] at h
    cases hs : stmt v with
    | error e =>
      rw [hs] at h
      cases h
    | ok eff =>
      rw [hs] at h
      rw [exec_bind, statements_exec_ok hs, statements_exec_ok hs, ih _ h]
      omega
  | commit k ih =>
    have hk := ih h
    simp only [commit_bind, statements_commit, hk]
    omega

/-- A fault past the last statement of the first part falls into the second
one. -/
theorem eval_cut_bind_of_le {e : ε} {p : Program σ κ ε α} {f : α → Program σ κ ε β} {n : ℕ} {c v : σ}
    (h : p.statements v ≤ n) :
    ((p >>= f).cut e n).eval c v =
      match p.eval c v with
      | .error x => .error x
      | .ok (a, c', v') => ((f a).cut e (n - p.statements v)).eval c' v' := by
  induction p generalizing n c v with
  | ret a => rfl
  | raise x => rfl
  | query k ih =>
    obtain ⟨n, rfl⟩ : ∃ m, n = m + 1 := ⟨n - 1, by simp only [statements_query] at h; omega⟩
    simp only [statements_query, Nat.add_le_add_iff_right] at h
    simp only [query_bind, cut, eval_query, statements_query, Nat.add_sub_add_right]
    exact ih v h
  | exec stmt k ih =>
    cases hs : stmt v with
    | error x =>
      rw [statements_exec_error hs] at h
      obtain ⟨n, rfl⟩ : ∃ m, n = m + 1 := ⟨n - 1, by omega⟩
      simp only [exec_bind, cut, eval_exec, hs]
    | ok eff =>
      rw [statements_exec_ok hs] at h ⊢
      obtain ⟨n, rfl⟩ : ∃ m, n = m + 1 := ⟨n - 1, by omega⟩
      simp only [exec_bind, cut, eval_exec, hs, Nat.add_sub_add_right]
      exact ih _ (by omega)
  | commit k ih =>
    obtain ⟨n, rfl⟩ : ∃ m, n = m + 1 := ⟨n - 1, by simp only [statements_commit] at h; omega⟩
    simp only [statements_commit, Nat.add_le_add_iff_right] at h
    simp only [commit_bind, cut, eval_commit, statements_commit, Nat.add_sub_add_right]
    exact ih h

/-- A fault inside statements that commit nothing loses them all, whatever was
to follow. -/
theorem eval_cut_bind_of_lt {e : ε} {p : Program σ κ ε α} {f : α → Program σ κ ε β} {n : ℕ} {c v : σ}
    (hp : p.Uncommitted) (h : n < p.statements v) : ((p >>= f).cut e n).eval c v = .error (e, c) := by
  induction p generalizing n v with
  | ret a => exact absurd h (Nat.not_lt_zero n)
  | raise x => exact absurd h (Nat.not_lt_zero n)
  | query k ih =>
    cases n with
    | zero => rfl
    | succ n => exact ih v (hp v) (Nat.lt_of_succ_lt_succ h)
  | exec stmt k ih =>
    cases n with
    | zero => rfl
    | succ n =>
      cases hs : stmt v with
      | error x =>
        rw [statements_exec_error hs] at h
        omega
      | ok eff =>
        rw [statements_exec_ok hs] at h
        simp only [exec_bind, cut, eval_exec, hs]
        exact ih _ (hp _) (Nat.lt_of_succ_lt_succ h)
  | commit k => exact hp.elim

/-- The faulty program returns where the program does, if it issues no more
statements than the fault lets through. -/
theorem eval_cut_ok_iff {e : ε} {p : Program σ κ ε α} {n : ℕ} {c v : σ} {r : α × σ × σ} :
    (p.cut e n).eval c v = .ok r ↔ p.eval c v = .ok r ∧ p.statements v ≤ n := by
  induction p generalizing n c v with
  | ret a => simp [cut]
  | raise x => simp [cut]
  | query k ih =>
    cases n with
    | zero => simp [cut]
    | succ n =>
      simp only [cut, eval_query, statements_query, Nat.add_le_add_iff_right]
      exact ih v
  | exec stmt k ih =>
    cases n with
    | zero =>
      cases hs : stmt v with
      | error x => simp [cut, statements_exec_error hs]
      | ok eff => simp [cut, statements_exec_ok hs]
    | succ n =>
      cases hs : stmt v with
      | error x => simp [cut, eval_exec, hs]
      | ok eff =>
        simp only [cut, eval_exec, hs, statements_exec_ok hs, Nat.add_le_add_iff_right]
        exact ih _
  | commit k ih =>
    cases n with
    | zero => simp [cut]
    | succ n =>
      simp only [cut, eval_commit, statements_commit, Nat.add_le_add_iff_right]
      exact ih

theorem completes_iff {p : Program σ κ ε α} {s : σ} : p.completes s = true ↔ ∃ r, p.eval s s = .ok r := by
  unfold completes
  rw [returns_iff]
  constructor
  · rintro ⟨s', a, h, _⟩
    obtain ⟨c, hc⟩ := run_ok_iff.mp h
    exact ⟨_, hc⟩
  · rintro ⟨⟨a, c, s'⟩, h⟩
    exact ⟨s', a, run_ok_iff.mpr ⟨c, h⟩, rfl⟩

theorem Leaves.cut {π : σ → γ} {e : ε} {p : Program σ κ ε α} (hp : p.Leaves π) (n : ℕ) : (p.cut e n).Leaves π := by
  induction p generalizing n with
  | ret a => trivial
  | raise x => trivial
  | query k ih =>
    cases n with
    | zero => trivial
    | succ n => exact fun v => ih v (hp v) n
  | exec stmt k ih =>
    cases n with
    | zero => trivial
    | succ n => exact ⟨hp.1, fun v => ih v (hp.2 v) n⟩
  | commit k ih =>
    cases n with
    | zero => trivial
    | succ n => exact ih hp n

theorem Guarantees.cut {rel : σ → σ → Prop} {e : ε} {p : Program σ κ ε α} (hp : p.Guarantees rel) (n : ℕ) :
    (p.cut e n).Guarantees rel := by
  induction p generalizing n with
  | ret a => trivial
  | raise x => trivial
  | query k ih =>
    cases n with
    | zero => trivial
    | succ n => exact fun v => ih v (hp v) n
  | exec stmt k ih =>
    cases n with
    | zero => trivial
    | succ n => exact ⟨hp.1, fun v => ih v (hp.2 v) n⟩
  | commit k ih =>
    cases n with
    | zero => trivial
    | succ n => exact ih hp n

section Transactions

variable {e : ε} {p : Program σ κ ε α} {f : α → Program σ κ ε β} {n : ℕ} {s c t : σ} {a : α}

theorem after_cut_of_refused (hp : p.Uncommitted) {x : ε × σ} (h : p.eval s s = .error x) :
    ((transaction p >>= f).cut e n).after s = s := by
  rw [after_eq_outcome, transaction_bind]
  rcases Nat.lt_or_ge n (p.statements s) with hn | hn
  · rw [eval_cut_bind_of_lt hp hn]
    rfl
  · rw [eval_cut_bind_of_le hn, h]
    exact eval_error_of_atomic hp.atomic h

theorem after_cut_of_early (hp : p.Uncommitted) (h : p.eval s s = .ok (a, c, t)) (hn : n ≤ p.statements s) :
    ((transaction p >>= f).cut e n).after s = s := by
  rw [after_eq_outcome, transaction_bind]
  rcases Nat.lt_or_ge n (p.statements s) with hlt | hge
  · rw [eval_cut_bind_of_lt hp hlt]
    rfl
  · rw [eval_cut_bind_of_le hge, h]
    obtain rfl : n = p.statements s := Nat.le_antisymm hn hge
    simp only [Nat.sub_self, cut, eval_raise, outcome]
    exact eval_ok_of_uncommitted hp h

theorem after_cut_of_late (h : p.eval s s = .ok (a, c, t)) (hn : p.statements s < n) :
    ((transaction p >>= f).cut e n).after s = ((f a).cut e (n - p.statements s - 1)).after t := by
  rw [after_eq_outcome, after_eq_outcome, transaction_bind, eval_cut_bind_of_le (Nat.le_of_lt hn), h]
  obtain ⟨m, rfl⟩ : ∃ m, n = p.statements s + 1 + m := ⟨n - p.statements s - 1, by omega⟩
  rw [show p.statements s + 1 + m - p.statements s = m + 1 by omega,
    show m + 1 - 1 = m by omega]
  rfl

end Transactions

end Program

end HostPanel.Lib
