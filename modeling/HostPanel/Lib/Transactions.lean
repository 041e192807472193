import Mathlib.Logic.Function.Basic
import HostPanel.Lib.Growth
import HostPanel.Lib.Run

namespace HostPanel.Lib

variable {ι σ κ ε α β : Type}

namespace Program

/-- Run to the end of the open transaction: the tables then committed, and what
is left to run. -/
def transact : Program σ κ ε α → σ → σ → σ × Option (Program σ κ ε α)
  | ret _, _, v => (v, none)
  | raise _, c, _ => (c, none)
  | query k, c, v => (k v).transact c v
  | exec stmt k, c, v =>
    match stmt v with
    | .error _ => (c, none)
    | .ok eff => (k (eff.apply v)).transact c (eff.apply v)
  | commit k, _, v => (v, some k)

/-- Every transaction left to run takes the tables it starts from to tables
related to them, whatever the others committed before it. -/
def Keeps (rel : σ → σ → Prop) : Program σ κ ε α → σ → σ → Prop
  | ret _, c, v => rel c v
  | raise _, _, _ => True
  | query k, c, v => (k v).Keeps rel c v
  | exec stmt k, c, v => ∀ eff, stmt v = .ok eff → (k (eff.apply v)).Keeps rel c (eff.apply v)
  | commit k, c, v => rel c v ∧ ∀ w, k.Keeps rel w w

variable {rel : σ → σ → Prop} {p : Program σ κ ε α}

section Sufficient

variable (hrefl : ∀ s, rel s s)

include hrefl in
theorem Atomic.keeps (hp : p.Atomic) {c v : σ} (h : ∀ a c' v', p.eval c v = .ok (a, c', v') → rel c v') :
    p.Keeps rel c v := by
  induction p generalizing v with
  | ret a => exact h a c v rfl
  | raise e => trivial
  | query k ih => exact ih v (hp v) h
  | exec stmt k ih =>
    intro eff he
    refine ih _ (hp _) (fun a c' v' hev => h a c' v' ?_)
    rw [eval_exec, he]
    exact hev
  | commit k =>
    obtain ⟨a, rfl⟩ := hp
    exact ⟨h a v v rfl, hrefl⟩

variable (htrans : ∀ s t u, rel s t → rel t u → rel s u)

include hrefl htrans in
theorem Guarantees.keeps (hp : p.Guarantees rel) {c v : σ} (hcv : rel c v) : p.Keeps rel c v := by
  induction p generalizing c v with
  | ret a => exact hcv
  | raise e => trivial
  | query k ih => exact ih v (hp v) hcv
  | exec stmt k ih => exact fun eff he => ih _ (hp.2 _) (htrans _ _ _ hcv (hp.1 v eff he v))
  | commit k ih => exact ⟨hcv, fun w => ih hp (hrefl w)⟩

end Sufficient

/-- What a call of one transaction that returns leaves. -/
theorem Atomic.rel_of_keeps (hp : p.Atomic) {c v c' v' : σ} {a : α} (h : p.Keeps rel c v)
    (hev : p.eval c v = .ok (a, c', v')) : rel c v' := by
  induction p generalizing v with
  | ret b =>
    cases hev
    exact h
  | raise e => cases hev
  | query k ih => exact ih v (hp v) h hev
  | exec stmt k ih =>
    rw [eval_exec] at hev
    cases hs : stmt v with
    | error e =>
      rw [hs] at hev
      cases hev
    | ok eff =>
      rw [hs] at hev
      exact ih _ (hp _) (h eff hs) hev
  | commit k =>
    obtain ⟨b, rfl⟩ := hp
    cases hev
    exact h.1

/-- A transaction, and the ones after it. -/
theorem Uncommitted.keeps_bind_commit (hp : p.Uncommitted) {f : α → Program σ κ ε β} {c v : σ} :
    (p >>= fun a => commit (f a)).Keeps rel c v ↔
      ∀ a c' v', p.eval c v = .ok (a, c', v') → rel c v' ∧ ∀ w, (f a).Keeps rel w w := by
  induction p generalizing v with
  | ret a =>
    refine ⟨fun h b c' v' hev => ?_, fun h => h a c v rfl⟩
    cases hev
    exact h
  | raise e => exact iff_of_true trivial (fun a c' v' hev => nomatch hev)
  | query k ih => exact ih v (hp v)
  | exec stmt k ih =>
    rw [exec_bind, Keeps]
    simp only [eval_exec]
    cases hs : stmt v with
    | error e => exact iff_of_true (fun eff he => nomatch he) (fun a c' v' hev => nomatch hev)
    | ok eff =>
      refine ⟨fun h => (ih _ (hp _)).mp (h eff rfl), fun h eff' he => ?_⟩
      cases he
      exact (ih _ (hp _)).mpr h
  | commit k => exact hp.elim

theorem keeps_map_iff {f : α → β} {c v : σ} : (f <$> p : Program σ κ ε β).Keeps rel c v ↔ p.Keeps rel c v := by
  induction p generalizing c v with
  | ret a => exact Iff.rfl
  | raise e => exact Iff.rfl
  | query k ih => exact ih v
  | exec stmt k ih => exact forall₂_congr (fun eff _ => ih _)
  | commit k ih => exact and_congr_right (fun _ => forall_congr' (fun _ => ih))

theorem Keeps.map (f : α → β) {c v : σ} (h : p.Keeps rel c v) : (f <$> p : Program σ κ ε β).Keeps rel c v :=
  keeps_map_iff.mpr h

/-- What one transaction of such a program does, and leaves to run. -/
theorem Keeps.transact (hrefl : ∀ s, rel s s) {c v : σ} (h : p.Keeps rel c v) :
    rel c (p.transact c v).1 ∧ ∀ k, (p.transact c v).2 = some k → ∀ w, k.Keeps rel w w := by
  induction p generalizing v with
  | ret a => exact ⟨h, fun k hk => nomatch hk⟩
  | raise e => exact ⟨hrefl c, fun k hk => nomatch hk⟩
  | query k ih => exact ih v h
  | exec stmt k ih =>
    rw [Program.transact]
    cases hs : stmt v with
    | error e => exact ⟨hrefl c, fun k hk => nomatch hk⟩
    | ok eff => exact ih _ (h eff hs)
  | commit k =>
    refine ⟨h.1, fun k' hk => ?_⟩
    cases hk
    exact h.2

end Program

/-- Committed tables, and what is left to run of each call. -/
structure Agenda (ι σ κ ε α : Type) where
  db : σ
  left : ι → Option (Program σ κ ε α)

namespace Agenda

variable [DecidableEq ι]

/-- No transaction is open: each call is before its first statement. -/
def start (s : σ) (calls : ι → Program σ κ ε α) : Agenda ι σ κ ε α := ⟨s, fun i => some (calls i)⟩

/-- A call runs its next transaction. -/
def turn (a : Agenda ι σ κ ε α) (i : ι) : Agenda ι σ κ ε α :=
  match a.left i with
  | none => a
  | some p => ⟨(p.transact a.db a.db).1, Function.update a.left i (p.transact a.db a.db).2⟩

/-- One transaction after the other. -/
abbrev run (a : Agenda ι σ κ ε α) (turns : List ι) : Agenda ι σ κ ε α := runFrom turn a turns

/-- The transactions left keep the relation. -/
def Keeping (rel : σ → σ → Prop) (a : Agenda ι σ κ ε α) : Prop :=
  ∀ i p, a.left i = some p → ∀ w, p.Keeps rel w w

variable {rel : σ → σ → Prop}

theorem Keeping.turn (hrefl : ∀ s, rel s s) {a : Agenda ι σ κ ε α} (h : a.Keeping rel) (i : ι) :
    rel a.db (a.turn i).db ∧ (a.turn i).Keeping rel := by
  unfold Agenda.turn
  cases hi : a.left i with
  | none => exact ⟨hrefl a.db, h⟩
  | some p =>
    obtain ⟨hdb, hleft⟩ := (h i p hi a.db).transact hrefl
    refine ⟨hdb, fun j q hj => ?_⟩
    simp only at hj
    by_cases hij : j = i
    · subst hij
      exact hleft q (by rwa [Function.update_self] at hj)
    · exact h j q (by rwa [Function.update_of_ne hij] at hj)

/-- The run rule: the tables at the end of a run are related to those at its
start. -/
theorem Keeping.run (hrefl : ∀ s, rel s s) (htrans : ∀ s t u, rel s t → rel t u → rel s u)
    {a : Agenda ι σ κ ε α} (h : a.Keeping rel) (turns : List ι) :
    rel a.db (a.run turns).db ∧ (a.run turns).Keeping rel := by
  induction turns generalizing a with
  | nil => exact ⟨hrefl a.db, h⟩
  | cons i turns ih =>
    obtain ⟨hfirst, hkeeping⟩ := h.turn hrefl i
    obtain ⟨hrest, hlast⟩ := ih hkeeping
    exact ⟨htrans _ _ _ hfirst hrest, hlast⟩

end Agenda

end HostPanel.Lib
