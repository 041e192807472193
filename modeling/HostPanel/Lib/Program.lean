import Mathlib.Logic.Basic

namespace HostPanel.Lib

variable {σ κ ε α β γ : Type}

/-- What one write statement does: the rows it locks until the end of its
transaction, and the change it makes to the tables. -/
structure Effect (σ κ : Type) where
  locks : List κ
  apply : σ → σ

/-- A database client: a sequence of statements, each continuing with the
tables its transaction sees. `commit` ends the open transaction; `raise` ends
the call and rolls the open transaction back. -/
inductive Program (σ κ ε α : Type) : Type where
  | ret (a : α)
  | raise (e : ε)
  | query (k : σ → Program σ κ ε α)
  | exec (stmt : σ → Except ε (Effect σ κ)) (k : σ → Program σ κ ε α)
  | commit (k : Program σ κ ε α)

namespace Program

def bind : Program σ κ ε α → (α → Program σ κ ε β) → Program σ κ ε β
  | ret a, f => f a
  | raise e, _ => raise e
  | query k, f => query (fun v => (k v).bind f)
  | exec stmt k, f => exec stmt (fun v => (k v).bind f)
  | commit k, f => commit (k.bind f)

instance : Monad (Program σ κ ε) where
  pure := ret
  bind := bind

@[simp] theorem pure_eq_ret (a : α) : (pure a : Program σ κ ε α) = ret a := rfl

@[simp] theorem ret_bind (a : α) (f : α → Program σ κ ε β) : (ret a >>= f) = f a := rfl

@[simp] theorem raise_bind (e : ε) (f : α → Program σ κ ε β) : (raise e >>= f) = raise e := rfl

@[simp] theorem query_bind (k : σ → Program σ κ ε α) (f : α → Program σ κ ε β) :
    (query k >>= f) = query (fun v => k v >>= f) := rfl

@[simp] theorem exec_bind (stmt : σ → Except ε (Effect σ κ)) (k : σ → Program σ κ ε α)
    (f : α → Program σ κ ε β) : (exec stmt k >>= f) = exec stmt (fun v => k v >>= f) := rfl

@[simp] theorem commit_bind (k : Program σ κ ε α) (f : α → Program σ κ ε β) :
    (commit k >>= f) = commit (k >>= f) := rfl

theorem bind_assoc (p : Program σ κ ε α) (f : α → Program σ κ ε β) (g : β → Program σ κ ε γ) :
    (p >>= f >>= g) = (p >>= fun a => f a >>= g) := by
  induction p with
  | ret a => rfl
  | raise e => rfl
  | query k ih => exact congrArg query (funext ih)
  | exec stmt k ih => exact congrArg (exec stmt) (funext ih)
  | commit k ih => exact congrArg commit ih

/-- Run a program alone on committed tables `c`, its open transaction seeing
`v`: the result, the committed tables and the view, or the error and what was
committed before it. -/
def eval : Program σ κ ε α → σ → σ → Except (ε × σ) (α × σ × σ)
  | ret a, c, v => .ok (a, c, v)
  | raise e, c, _ => .error (e, c)
  | query k, c, v => (k v).eval c v
  | exec stmt k, c, v =>
    match stmt v with
    | .error e => .error (e, c)
    | .ok eff => (k (eff.apply v)).eval c (eff.apply v)
  | commit k, _, v => k.eval v v

/-- A whole call: the tables it leaves committed and what it returns. -/
def run (p : Program σ κ ε α) (s : σ) : σ × Except ε α :=
  match p.eval s s with
  | .ok (a, _, v) => (v, .ok a)
  | .error (e, c) => (c, .error e)

/-- The tables after a call, whatever it returned. -/
def after (p : Program σ κ ε α) (s : σ) : σ := (p.run s).1

@[simp] theorem eval_ret (a : α) (c v : σ) : (ret a : Program σ κ ε α).eval c v = .ok (a, c, v) := rfl

@[simp] theorem eval_raise (e : ε) (c v : σ) : (raise e : Program σ κ ε α).eval c v = .error (e, c) := rfl

@[simp] theorem eval_query (k : σ → Program σ κ ε α) (c v : σ) : (query k).eval c v = (k v).eval c v := rfl

@[simp] theorem eval_commit (k : Program σ κ ε α) (c v : σ) : (commit k).eval c v = k.eval v v := rfl

theorem eval_exec (stmt : σ → Except ε (Effect σ κ)) (k : σ → Program σ κ ε α) (c v : σ) :
    (exec stmt k).eval c v =
      match stmt v with
      | .error e => .error (e, c)
      | .ok eff => (k (eff.apply v)).eval c (eff.apply v) := by
  cases h : stmt v <;> simp only [eval, h]

theorem eval_bind (p : Program σ κ ε α) (f : α → Program σ κ ε β) (c v : σ) :
    (p >>= f).eval c v =
      match p.eval c v with
      | .error x => .error x
      | .ok (a, c', v') => (f a).eval c' v' := by
  induction p generalizing c v with
  | ret a => rfl
  | raise e => rfl
  | query k ih => exact ih v c v
  | exec stmt k ih =>
    rw [exec_bind, eval_exec, eval_exec]
    cases stmt v with
    | error e => rfl
    | ok eff => exact ih (eff.apply v) c (eff.apply v)
  | commit k ih => exact ih v v

theorem eval_bind_ok {p : Program σ κ ε α} {f : α → Program σ κ ε β} {c v : σ} {r : β × σ × σ} :
    (p >>= f).eval c v = .ok r ↔ ∃ a c' v', p.eval c v = .ok (a, c', v') ∧ (f a).eval c' v' = .ok r := by
  rw [eval_bind]
  cases h : p.eval c v with
  | error x => simp
  | ok q =>
    obtain ⟨a, c', v'⟩ := q
    constructor
    · exact fun hf => ⟨a, c', v', rfl, hf⟩
    · rintro ⟨b, c'', v'', hb, hf⟩
      cases hb
      exact hf

theorem run_error_iff {p : Program σ κ ε α} {s s' : σ} {e : ε} :
    p.run s = (s', .error e) ↔ p.eval s s = .error (e, s') := by
  unfold run
  cases p.eval s s with
  | ok r => simp
  | error x => simp [Prod.ext_iff, and_comm]

theorem run_ok_iff {p : Program σ κ ε α} {s s' : σ} {a : α} :
    p.run s = (s', .ok a) ↔ ∃ c, p.eval s s = .ok (a, c, s') := by
  unfold run
  cases h : p.eval s s with
  | error x => simp
  | ok q =>
    obtain ⟨b, c, v⟩ := q
    simp only [Prod.mk.injEq, Except.ok.injEq]
    constructor
    · rintro ⟨rfl, rfl⟩
      exact ⟨c, rfl, rfl, rfl⟩
    · rintro ⟨_, rfl, rfl, rfl⟩
      exact ⟨rfl, rfl⟩

/-- One transaction: run the statements, then commit. -/
def transaction (p : Program σ κ ε α) : Program σ κ ε α := p >>= fun a => commit (ret a)

theorem transaction_bind (p : Program σ κ ε α) (f : α → Program σ κ ε β) :
    (transaction p >>= f) = (p >>= fun a => commit (f a)) := bind_assoc p _ f

theorem eval_transaction_ok {p : Program σ κ ε α} {c v : σ} {a : α} {c' v' : σ} :
    (transaction p).eval c v = .ok (a, c', v') ↔ c' = v' ∧ ∃ c'', p.eval c v = .ok (a, c'', v') := by
  rw [transaction, eval_bind_ok]
  simp only [eval_commit, eval_ret, Except.ok.injEq, Prod.mk.injEq]
  constructor
  · rintro ⟨b, c'', w, h, rfl, rfl, rfl⟩
    exact ⟨rfl, c'', h⟩
  · rintro ⟨rfl, c'', h⟩
    exact ⟨a, c'', c', h, rfl, rfl, rfl⟩

/-- Statements of one transaction: nothing is committed on the way. -/
def Uncommitted : Program σ κ ε α → Prop
  | ret _ => True
  | raise _ => True
  | query k => ∀ v, (k v).Uncommitted
  | exec _ k => ∀ v, (k v).Uncommitted
  | commit _ => False

/-- At most one commit, and nothing after it. -/
def Atomic : Program σ κ ε α → Prop
  | ret _ => True
  | raise _ => True
  | query k => ∀ v, (k v).Atomic
  | exec _ k => ∀ v, (k v).Atomic
  | commit k => ∃ a, k = ret a

theorem Uncommitted.atomic {p : Program σ κ ε α} (h : p.Uncommitted) : p.Atomic := by
  induction p with
  | ret a => trivial
  | raise e => trivial
  | query k ih => exact fun v => ih v (h v)
  | exec stmt k ih => exact fun v => ih v (h v)
  | commit k => exact h.elim

theorem Uncommitted.bind {p : Program σ κ ε α} {f : α → Program σ κ ε β} (hp : p.Uncommitted)
    (hf : ∀ a, (f a).Uncommitted) : (p >>= f).Uncommitted := by
  induction p with
  | ret a => exact hf a
  | raise e => trivial
  | query k ih => exact fun v => ih v (hp v)
  | exec stmt k ih => exact fun v => ih v (hp v)
  | commit k => exact hp.elim

theorem Uncommitted.bind_atomic {p : Program σ κ ε α} {f : α → Program σ κ ε β} (hp : p.Uncommitted)
    (hf : ∀ a, (f a).Atomic) : (p >>= f).Atomic := by
  induction p with
  | ret a => exact hf a
  | raise e => trivial
  | query k ih => exact fun v => ih v (hp v)
  | exec stmt k ih => exact fun v => ih v (hp v)
  | commit k => exact hp.elim

theorem Uncommitted.transaction {p : Program σ κ ε α} (hp : p.Uncommitted) : (transaction p).Atomic :=
  hp.bind_atomic (fun a => ⟨a, rfl⟩)

theorem eval_ok_of_uncommitted {p : Program σ κ ε α} (hp : p.Uncommitted) {c v c' v' : σ} {a : α}
    (h : p.eval c v = .ok (a, c', v')) : c' = c := by
  induction p generalizing v with
  | ret b => cases h; rfl
  | raise e => cases h
  | query k ih => exact ih v (hp v) h
  | exec stmt k ih =>
    rw [eval_exec] at h
    cases hs : stmt v with
    | error x =>
      rw [hs] at h
      cases h
    | ok eff =>
      rw [hs] at h
      exact ih (eff.apply v) (hp _) h
  | commit k => exact hp.elim

theorem eval_error_of_atomic {p : Program σ κ ε α} (hp : p.Atomic) {c v c' : σ} {e : ε}
    (h : p.eval c v = .error (e, c')) : c' = c := by
  induction p generalizing v with
  | ret a => cases h
  | raise e => cases h; rfl
  | query k ih => exact ih v (hp v) h
  | exec stmt k ih =>
    rw [eval_exec] at h
    cases hs : stmt v with
    | error x =>
      rw [hs] at h
      cases h
      rfl
    | ok eff =>
      rw [hs] at h
      exact ih (eff.apply v) (hp _) h
  | commit k =>
    obtain ⟨a, rfl⟩ := hp
    cases h

theorem after_of_atomic {p : Program σ κ ε α} (hp : p.Atomic) (s : σ) :
    p.after s = s ∨ ∃ a c s', p.eval s s = .ok (a, c, s') ∧ p.after s = s' := by
  unfold after run
  cases h : p.eval s s with
  | error x =>
    obtain ⟨e, c⟩ := x
    exact Or.inl (eval_error_of_atomic hp h)
  | ok q =>
    obtain ⟨a, c, v⟩ := q
    exact Or.inr ⟨a, c, v, rfl, rfl⟩

/-- What holds before a call of one transaction holds after it, if it holds where
the call returns. -/
theorem inv_of_atomic {p : Program σ κ ε α} (hp : p.Atomic) {s : σ} {P : σ → Prop} (hs : P s)
    (h : ∀ a c s', p.eval s s = .ok (a, c, s') → P s') : P (p.after s) := by
  obtain hsame | ⟨a, c, s', hev, hafter⟩ := after_of_atomic hp s
  · rw [hsame]
    exact hs
  · rw [hafter]
    exact h a c s' hev

theorem after_bind_ok {p : Program σ κ ε α} {f : α → Program σ κ ε β} {s s' : σ} {a : α}
    (h : p.eval s s = .ok (a, s', s')) : (p >>= f).after s = (f a).after s' := by
  unfold after run
  rw [eval_bind, h]

theorem after_bind_error {p : Program σ κ ε α} {f : α → Program σ κ ε β} {s c : σ} {e : ε}
    (h : p.eval s s = .error (e, c)) : (p >>= f).after s = c := by
  unfold after run
  rw [eval_bind, h]

theorem after_bind_ret (p : Program σ κ ε α) (g : α → β) (s : σ) : (p >>= fun a => ret (g a)).after s = p.after s := by
  unfold after run
  rw [eval_bind]
  cases p.eval s s <;> rfl

/-- The call returns, with tables and a result that meet a test. -/
def returns (p : Program σ κ ε α) (s : σ) (test : σ → α → Bool) : Bool :=
  match p.run s with
  | (s', .ok a) => test s' a
  | (_, .error _) => false

theorem returns_iff {p : Program σ κ ε α} {s : σ} {test : σ → α → Bool} :
    p.returns s test = true ↔ ∃ s' a, p.run s = (s', .ok a) ∧ test s' a = true := by
  unfold returns
  cases h : p.run s with
  | mk s' r =>
    cases r with
    | error e => simp
    | ok a =>
      constructor
      · exact fun ht => ⟨s', a, rfl, ht⟩
      · rintro ⟨t, b, he, ht⟩
        cases he
        exact ht

/-- Nothing is left to run. -/
def finished : Program σ κ ε α → Bool
  | ret _ | raise _ => true
  | query _ | exec _ _ | commit _ => false

/-- What the program throws at once. -/
def thrown : Program σ κ ε α → Option ε
  | raise e => some e
  | _ => none

theorem thrown_eq_some {p : Program σ κ ε α} {e : ε} : p.thrown = some e ↔ p = raise e := by
  cases p <;> simp [thrown]

/-- The call returns and does not throw. -/
def completes (p : Program σ κ ε α) (s : σ) : Bool := p.returns s (fun _ _ => true)

theorem completes_cases {p : Program σ κ ε α} (hp : p.Atomic) (s : σ) :
    (p.completes s = false ∧ p.after s = s) ∨
      (p.completes s = true ∧ ∃ a c s', p.eval s s = .ok (a, c, s') ∧ p.after s = s') := by
  unfold completes returns after run
  cases h : p.eval s s with
  | error x =>
    obtain ⟨e, c⟩ := x
    exact Or.inl ⟨rfl, eval_error_of_atomic hp h⟩
  | ok q =>
    obtain ⟨a, c, v⟩ := q
    exact Or.inr ⟨rfl, a, c, v, rfl, rfl⟩

/-- A transaction at the start of a call: it is rolled back, or the call goes on
from the tables it committed. -/
theorem after_transaction_bind {p : Program σ κ ε α} {f : α → Program σ κ ε β} (hp : p.Uncommitted) (s : σ) :
    (transaction p >>= f).after s = s ∨
      ∃ a c s', p.eval s s = .ok (a, c, s') ∧ (transaction p >>= f).after s = (f a).after s' := by
  unfold after run
  rw [transaction_bind, eval_bind]
  cases h : p.eval s s with
  | error x =>
    obtain ⟨e, c⟩ := x
    exact Or.inl (eval_error_of_atomic hp.atomic h)
  | ok q =>
    obtain ⟨a, c, v⟩ := q
    exact Or.inr ⟨a, c, v, rfl, rfl⟩

/-- What a run leaves in the tables. -/
def outcome : Except (ε × σ) (α × σ × σ) → σ
  | .ok (_, _, v) => v
  | .error (_, c) => c

theorem after_eq_outcome (p : Program σ κ ε α) (s : σ) : p.after s = outcome (p.eval s s) := by
  unfold after run
  cases p.eval s s <;> rfl

/-- Where the program returns, every write has been committed; `dirty` tells
whether one is open before. -/
def Settled : Program σ κ ε α → Bool → Prop
  | ret _, dirty => dirty = false
  | raise _, _ => True
  | query k, dirty => ∀ v, (k v).Settled dirty
  | exec _ k, _ => ∀ v, (k v).Settled true
  | commit k, _ => k.Settled false

theorem Settled.bind {p : Program σ κ ε α} {f : α → Program σ κ ε β} {dirty : Bool} (hp : p.Settled dirty)
    (hf : ∀ a, (f a).Settled false) : (p >>= f).Settled dirty := by
  induction p generalizing dirty with
  | ret a =>
    cases hp
    exact hf a
  | raise e => trivial
  | query k ih => exact fun v => ih v (hp v)
  | exec stmt k ih => exact fun v => ih v (hp v)
  | commit k ih => exact ih hp

theorem settled_transaction (p : Program σ κ ε α) (dirty : Bool) : (transaction p).Settled dirty := by
  induction p generalizing dirty with
  | ret a => exact rfl
  | raise e => trivial
  | query k ih => exact fun v => ih v dirty
  | exec stmt k ih => exact fun v => ih v true
  | commit k ih => exact ih false

/-- Every statement of the program that changes the tables meets `P`, which
may speak of what the last query of the call returned, of the view the
statement runs on and of its effect; and what is returned meets `Q`. -/
def Ensures (P : σ → σ → Effect σ κ → Prop) (Q : α → σ → Prop) : Program σ κ ε α → σ → Prop
  | ret a, seen => Q a seen
  | raise _, _ => True
  | query k, _ => ∀ v, (k v).Ensures P Q v
  | exec stmt k, seen => ∀ v eff, stmt v = .ok eff → P seen v eff ∧ (k (eff.apply v)).Ensures P Q seen
  | commit k, seen => k.Ensures P Q seen

variable {P : σ → σ → Effect σ κ → Prop}

theorem ensures_bind {p : Program σ κ ε α} {f : α → Program σ κ ε β} {Q : β → σ → Prop} {seen : σ} :
    (p >>= f).Ensures P Q seen ↔ p.Ensures P (fun a seen' => (f a).Ensures P Q seen') seen := by
  induction p generalizing seen with
  | ret a => exact Iff.rfl
  | raise e => exact Iff.rfl
  | query k ih => exact forall_congr' (fun v => ih v)
  | exec stmt k ih =>
    exact forall_congr' (fun v => forall_congr' (fun eff => imp_congr_right (fun _ =>
      and_congr_right (fun _ => ih (eff.apply v)))))
  | commit k ih => exact ih

theorem Ensures.mono {p : Program σ κ ε α} {Q Q' : α → σ → Prop} {seen : σ}
    (h : p.Ensures P Q seen) (hq : ∀ a v, Q a v → Q' a v) : p.Ensures P Q' seen := by
  induction p generalizing seen with
  | ret a => exact hq a seen h
  | raise e => trivial
  | query k ih => exact fun v => ih v (h v)
  | exec stmt k ih => exact fun v eff he => ⟨(h v eff he).1, ih _ (h v eff he).2⟩
  | commit k ih => exact ih h

/-- No statement of the program changes a part of the tables. -/
def Leaves (π : σ → γ) : Program σ κ ε α → Prop
  | ret _ => True
  | raise _ => True
  | query k => ∀ v, (k v).Leaves π
  | exec stmt k => (∀ v eff, stmt v = .ok eff → ∀ t, π (eff.apply t) = π t) ∧ ∀ v, (k v).Leaves π
  | commit k => k.Leaves π

theorem Leaves.bind {π : σ → γ} {p : Program σ κ ε α} {f : α → Program σ κ ε β} (hp : p.Leaves π)
    (hf : ∀ a, (f a).Leaves π) : (p >>= f).Leaves π := by
  induction p with
  | ret a => exact hf a
  | raise e => trivial
  | query k ih => exact fun v => ih v (hp v)
  | exec stmt k ih => exact ⟨hp.1, fun v => ih v (hp.2 v)⟩
  | commit k ih => exact ih hp

theorem Leaves.transaction {π : σ → γ} {p : Program σ κ ε α} (hp : p.Leaves π) : (transaction p).Leaves π :=
  hp.bind (fun _ => trivial)

theorem eval_of_leaves {π : σ → γ} {p : Program σ κ ε α} (hp : p.Leaves π) {c v : σ} (hcv : π c = π v) :
    match p.eval c v with
    | .ok (_, c', v') => π c' = π v ∧ π v' = π v
    | .error (_, c') => π c' = π v := by
  induction p generalizing c v with
  | ret a => exact ⟨hcv, rfl⟩
  | raise e => exact hcv
  | query k ih => exact ih v (hp v) hcv
  | exec stmt k ih =>
    rw [eval_exec]
    cases hs : stmt v with
    | error e => exact hcv
    | ok eff =>
      have he : π (eff.apply v) = π v := hp.1 v eff hs v
      have hk := ih (eff.apply v) (hp.2 _) (hcv.trans he.symm)
      simp only [he] at hk
      exact hk
  | commit k ih => exact ih hp rfl

theorem after_of_leaves {π : σ → γ} {p : Program σ κ ε α} (hp : p.Leaves π) (s : σ) : π (p.after s) = π s := by
  have h := eval_of_leaves hp (rfl : π s = π s)
  unfold after run
  cases he : p.eval s s with
  | error x =>
    rw [he] at h
    exact h
  | ok q =>
    rw [he] at h
    exact h.2

end Program

end HostPanel.Lib
