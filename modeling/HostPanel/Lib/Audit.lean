import HostPanel.Lib.Transactions

namespace HostPanel.Lib

variable {σ κ ε α β η ω ρ : Type}

/-- Tables that keep a log: the value of each entity, the rows of the log, and
the entities a row names. -/
structure Audit (σ η ω ρ : Type) where
  value : σ → η → ω
  log : σ → List ρ
  names : ρ → η → Prop

namespace Audit

variable (A : Audit σ η ω ρ)

/-- Rows were added to the log, and each entity that changed is named by one of
them. -/
def Accounted (s t : σ) : Prop :=
  ∃ rows, A.log t = A.log s ++ rows ∧ ∀ e, A.value t e ≠ A.value s e → ∃ row ∈ rows, A.names row e

/-- Each transaction of a call accounts for what it changes, and a call that
throws adds no row. -/
structure Covers (p : Program σ κ ε α) (s : σ) : Prop where
  committed : p.Keeps A.Accounted s s
  thrown : ∀ t e, p.run s = (t, .error e) → A.log t = A.log s

/-- The part of the tables an audit looks at. -/
def seen (s : σ) : (η → ω) × List ρ := (A.value s, A.log s)

variable {A}

theorem accounted_iff {s t : σ} {rows : List ρ} (hlog : A.log t = A.log s ++ rows) :
    A.Accounted s t ↔ ∀ e, A.value t e ≠ A.value s e → ∃ row ∈ rows, A.names row e := by
  constructor
  · rintro ⟨added, hadded, h⟩
    have he : added = rows := List.append_cancel_left (hadded.symm.trans hlog)
    exact he ▸ h
  · exact fun h => ⟨rows, hlog, h⟩

theorem accounted_iff_of_unlogged {s t : σ} (hlog : A.log t = A.log s) :
    A.Accounted s t ↔ ∀ e, A.value t e = A.value s e := by
  have hrows : A.log t = A.log s ++ [] := by rw [hlog, List.append_nil]
  rw [accounted_iff hrows]
  refine forall_congr' (fun e => ⟨fun h => ?_, fun h hne => absurd h hne⟩)
  by_contra hne
  obtain ⟨row, hrow, _⟩ := h hne
  cases hrow

theorem accounted_of_row {s t : σ} {row : ρ} {e : η} (hlog : A.log t = A.log s ++ [row]) (hnames : A.names row e)
    (hvalue : ∀ e', e' ≠ e → A.value t e' = A.value s e') : A.Accounted s t := by
  rw [accounted_iff hlog]
  intro e' hne
  have he : e' = e := by
    by_contra h
    exact hne (hvalue e' h)
  exact ⟨row, List.mem_singleton.mpr rfl, he ▸ hnames⟩

theorem accounted_of_seen (s t : σ) (h : A.seen t = A.seen s) : A.Accounted s t := by
  obtain ⟨hvalue, hlog⟩ := Prod.mk.inj h
  exact (accounted_iff_of_unlogged hlog).mpr (fun e => congrFun hvalue e)

theorem accounted_refl (s : σ) : A.Accounted s s := accounted_of_seen s s rfl

theorem Accounted.trans {s t u : σ} (h : A.Accounted s t) (h' : A.Accounted t u) : A.Accounted s u := by
  obtain ⟨rows, hlog, hrows⟩ := h
  obtain ⟨more, hlog', hmore⟩ := h'
  refine ⟨rows ++ more, by rw [hlog', hlog, List.append_assoc], fun e hne => ?_⟩
  by_cases he : A.value t e = A.value s e
  · rw [← he] at hne
    obtain ⟨row, hrow, hnames⟩ := hmore e hne
    exact ⟨row, List.mem_append_right _ hrow, hnames⟩
  · obtain ⟨row, hrow, hnames⟩ := hrows e he
    exact ⟨row, List.mem_append_left _ hrow, hnames⟩

variable {p : Program σ κ ε α} {s : σ}

theorem covers_iff_of_atomic (hp : p.Atomic) :
    A.Covers p s ↔ ∀ a c t, p.eval s s = .ok (a, c, t) → A.Accounted s t := by
  constructor
  · intro h a c t hev
    exact hp.rel_of_keeps h.committed hev
  · refine fun h => ⟨hp.keeps accounted_refl h, fun t e hrun => ?_⟩
    rw [Program.eval_error_of_atomic hp (Program.run_error_iff.mp hrun)]

theorem covers_map_iff (f : α → β) : A.Covers (f <$> p : Program σ κ ε β) s ↔ A.Covers p s := by
  have hrun : ∀ t e, (f <$> p : Program σ κ ε β).run s = (t, .error e) ↔ p.run s = (t, .error e) := by
    intro t e
    rw [Program.run_error_iff, Program.run_error_iff]
    change (p >>= fun a => (.ret (f a) : Program σ κ ε β)).eval s s = _ ↔ _
    rw [Program.eval_bind]
    cases p.eval s s <;> simp
  exact ⟨fun h => ⟨Program.keeps_map_iff.mp h.committed, fun t e ht => h.thrown t e ((hrun t e).mpr ht)⟩,
    fun h => ⟨Program.keeps_map_iff.mpr h.committed, fun t e ht => h.thrown t e ((hrun t e).mp ht)⟩⟩

/-- A first transaction, after which the call writes nothing the audit looks at:
what it logs stands also when the rest throws. -/
theorem covers_transaction_bind_iff {f : α → Program σ κ ε β} (hp : p.Uncommitted) (hf : ∀ a, (f a).Leaves A.seen) :
    A.Covers (Program.transaction p >>= f) s ↔
      ∀ a c t, p.eval s s = .ok (a, c, t) →
        A.Accounted s t ∧ ∀ u e, (f a).run t = (u, .error e) → A.log t = A.log s := by
  have hkeeps : (Program.transaction p >>= f).Keeps A.Accounted s s ↔
      ∀ a c t, p.eval s s = .ok (a, c, t) → A.Accounted s t := by
    rw [Program.transaction_bind, hp.keeps_bind_commit]
    refine forall_congr' (fun a => forall₃_congr (fun c t _ => and_iff_left (fun w => ?_)))
    have hrest := (hf a).guarantees accounted_of_seen
    exact hrest.keeps accounted_refl (fun _ _ _ => Accounted.trans) (accounted_refl w)
  -- the rest leaves the log as the transaction committed it
  have hlog : ∀ a t u e, (f a).run t = (u, .error e) → A.log u = A.log t := by
    intro a t u e hrun
    have hu : (f a).after t = u := congrArg Prod.fst hrun
    exact hu ▸ (Prod.mk.inj (Program.after_of_leaves (hf a) t)).2
  have hev : ∀ a c t, p.eval s s = .ok (a, c, t) → (Program.transaction p >>= f).run s = (f a).run t := by
    intro a c t h
    rw [Program.transaction_bind, Program.run, Program.eval_bind, h]
    rfl
  constructor
  · intro h a c t ha
    refine ⟨hkeeps.mp h.committed a c t ha, fun u e hrun => ?_⟩
    rw [← hlog a t u e hrun]
    exact h.thrown u e ((hev a c t ha).trans hrun)
  · refine fun h => ⟨hkeeps.mpr (fun a c t ha => (h a c t ha).1), fun u e hrun => ?_⟩
    cases ha : p.eval s s with
    | ok r =>
      obtain ⟨a, c, t⟩ := r
      rw [hev a c t ha] at hrun
      rw [hlog a t u e hrun]
      exact (h a c t ha).2 u e hrun
    | error x =>
      obtain ⟨e', c⟩ := x
      have hc : c = s := Program.eval_error_of_atomic hp.atomic ha
      rw [Program.transaction_bind, Program.run_error_iff, Program.eval_bind, ha] at hrun
      cases hrun
      rw [hc]

end Audit

end HostPanel.Lib
