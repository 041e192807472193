import Mathlib.Algebra.BigOperators.Group.List.Basic
import HostPanel.Lib.Interleaving

namespace HostPanel.Lib

variable {ι σ κ ε α β : Type}

/-- Calls taking one row from `b₀` to `b` one after the other, each by its own
rule. -/
inductive Serial (R : ι → β → β → Prop) (b₀ : β) : List ι → β → Prop
  | start : Serial R b₀ [] b₀
  | step {l : List ι} {i : ι} {b b' : β} (h : Serial R b₀ l b) (hi : R i b b') : Serial R b₀ (l ++ [i]) b'

namespace Serial

variable {R : ι → β → β → Prop} {b₀ b : β} {l : List ι}

theorem inv {I : β → Prop} (hs : ∀ i b b', R i b b' → I b → I b') (h : Serial R b₀ l b) (h₀ : I b₀) : I b := by
  induction h with
  | start => exact h₀
  | step h hi ih => exact hs _ _ _ hi ih

theorem established {I : β → Prop} (hs : ∀ i b b', R i b b' → I b') (h : Serial R b₀ l b) (hl : l ≠ []) : I b := by
  induction h with
  | start => exact absurd rfl hl
  | step h hi ih => exact hs _ _ _ hi

theorem sum_eq {M : Type} [AddMonoid M] {m : β → M} {d : ι → M} (hm : ∀ i b b', R i b b' → m b' = m b + d i)
    (h : Serial R b₀ l b) : m b = m b₀ + (l.map d).sum := by
  induction h with
  | start => simp
  | step h hi ih => simp [hm _ _ _ hi, ih, add_assoc]

end Serial

variable (cell : σ → β) (lock : κ)

/-- A call that reads, then writes the row once, by a rule about the row as
its last query found it, and from then on leaves the row and commits at most
once. -/
def Program.Updates (R : β → β → Prop) : Program σ κ ε α → σ → Prop
  | ret _, _ => True
  | raise _, _ => True
  | query k, _ => ∀ v, (k v).Updates R v
  | exec stmt k, seen => ∀ v eff, stmt v = .ok eff →
      lock ∈ eff.locks ∧
        (∃ f : β → β, (∀ s, cell (eff.apply s) = f (cell s)) ∧ R (cell seen) (f (cell seen))) ∧
        (k (eff.apply v)).Leaves cell ∧ (k (eff.apply v)).Atomic
  | commit _, _ => False

namespace Config

/-- A write of the row finds the row as its call last read it. -/
abbrev Fresh : Config ι σ κ ε α → ι → Move ε → Prop :=
  Writes (fun seen view eff => lock ∈ eff.locks → cell view = cell seen)

/-- How far a call has got with the row. -/
inductive Phase (R : β → β → Prop) (db : σ) (t : Task σ κ ε α) : Prop
  | reading (hcode : t.code.Updates cell lock R t.seen) (hpending : ∀ s, cell (t.pending s) = cell s)
      (hcommits : t.commits = 0)
  | written (f : β → β) (hcode : t.code.Leaves cell) (hatomic : t.code.Atomic) (hheld : lock ∈ t.held)
      (hpending : ∀ s, cell (t.pending s) = f (cell s)) (hrule : R (cell db) (f (cell db))) (hcommits : t.commits = 0)
  | settled (hcode : t.code.Leaves cell) (huncommitted : t.code.Uncommitted)
      (hpending : ∀ s, cell (t.pending s) = cell s) (hcommits : 0 < t.commits)

/-- The committed row is the row after some serial order of the calls that
committed. -/
structure Serialised [DecidableEq ι] (R : ι → β → β → Prop) (b₀ : β) (c : Config ι σ κ ε α) : Prop where
  exclusive : Exclusive c
  phases : ∀ i, Phase cell lock (R i) c.db (c.tasks i)
  history : ∃ l : List ι, l.Nodup ∧ (∀ i, i ∈ l ↔ 0 < (c.tasks i).commits) ∧ Serial R b₀ l (cell c.db)

variable {cell lock} {R : ι → β → β → Prop} {b₀ : β}

theorem Phase.rolled {R : β → β → Prop} {db : σ} {t : Task σ κ ε α} (h : Phase cell lock R db t) (e : ε) :
    Phase cell lock R db (t.rollback e) := by
  cases h with
  | reading hcode hpending hcommits => exact .reading trivial (fun _ => rfl) hcommits
  | written f hcode hatomic hheld hpending hrule hcommits => exact .reading trivial (fun _ => rfl) hcommits
  | settled hcode huncommitted hpending hcommits => exact .settled trivial trivial (fun _ => rfl) hcommits

theorem Phase.of_cell {R : β → β → Prop} {db db' : σ} {t : Task σ κ ε α} (h : Phase cell lock R db t)
    (hdb : lock ∈ t.held → cell db' = cell db) : Phase cell lock R db' t := by
  cases h with
  | reading hcode hpending hcommits => exact .reading hcode hpending hcommits
  | written f hcode hatomic hheld hpending hrule hcommits =>
    rw [← hdb hheld] at hrule
    exact .written f hcode hatomic hheld hpending hrule hcommits
  | settled hcode huncommitted hpending hcommits => exact .settled hcode huncommitted hpending hcommits

theorem Phase.queried {c : Config ι σ κ ε α} {i : ι} (h : Phase cell lock (R i) c.db (c.tasks i))
    {k : σ → Program σ κ ε α} (hc : (c.tasks i).code = .query k) :
    Phase cell lock (R i) c.db { c.tasks i with code := k (c.view i), seen := c.view i } := by
  cases h with
  | reading hcode hpending hcommits =>
    rw [hc] at hcode
    exact .reading (hcode (c.view i)) hpending hcommits
  | written f hcode hatomic hheld hpending hrule hcommits =>
    rw [hc] at hcode hatomic
    exact .written f (hcode _) (hatomic _) hheld hpending hrule hcommits
  | settled hcode huncommitted hpending hcommits =>
    rw [hc] at hcode huncommitted
    exact .settled (hcode _) (huncommitted _) hpending hcommits

/-- A write takes a call from reading to written when it is fresh. -/
theorem Phase.wrote {c : Config ι σ κ ε α} {i : ι} (h : Phase cell lock (R i) c.db (c.tasks i))
    {stmt : σ → Except ε (Effect σ κ)} {k : σ → Program σ κ ε α} {eff : Effect σ κ}
    (hc : (c.tasks i).code = .exec stmt k) (hs : stmt (c.view i) = .ok eff)
    (hfresh : lock ∈ eff.locks → cell (c.view i) = cell (c.tasks i).seen) :
    Phase cell lock (R i) c.db { c.tasks i with
      code := k (eff.apply (c.view i))
      pending := eff.apply ∘ (c.tasks i).pending
      held := eff.locks ++ (c.tasks i).held } := by
  cases h with
  | reading hcode hpending hcommits =>
    rw [hc] at hcode
    obtain ⟨hlock, ⟨f, hf, hrule⟩, hleaves, hatomic⟩ := hcode (c.view i) eff hs
    have hseen : cell (c.tasks i).seen = cell c.db := (hfresh hlock).symm.trans (hpending c.db)
    rw [hseen] at hrule
    have hwritten : ∀ s, cell ((eff.apply ∘ (c.tasks i).pending) s) = f (cell s) := by
      intro s
      rw [Function.comp_apply, hf, hpending]
    exact .written f hleaves hatomic (List.mem_append_left _ hlock) hwritten hrule hcommits
  | written f hcode hatomic hheld hpending hrule hcommits =>
    rw [hc] at hcode hatomic
    have hwritten : ∀ s, cell ((eff.apply ∘ (c.tasks i).pending) s) = f (cell s) := by
      intro s
      rw [Function.comp_apply, hcode.1 _ eff hs, hpending]
    exact .written f (hcode.2 _) (hatomic _) (List.mem_append_right _ hheld) hwritten hrule hcommits
  | settled hcode huncommitted hpending hcommits =>
    rw [hc] at hcode huncommitted
    have hleft : ∀ s, cell ((eff.apply ∘ (c.tasks i).pending) s) = cell s := by
      intro s
      rw [Function.comp_apply, hcode.1 _ eff hs, hpending]
    exact .settled (hcode.2 _) (huncommitted _) hleft hcommits

/-- Only a call that has written the row commits, and it commits what it
wrote. -/
theorem Phase.committed {c : Config ι σ κ ε α} {i : ι} (h : Phase cell lock (R i) c.db (c.tasks i))
    {k : Program σ κ ε α} (hc : (c.tasks i).code = .commit k) :
    lock ∈ (c.tasks i).held ∧ (c.tasks i).commits = 0 ∧ R i (cell c.db) (cell (c.view i)) ∧
      ∀ db, Phase cell lock (R i) db ((c.tasks i).committed k) := by
  cases h with
  | reading hcode hpending hcommits =>
    rw [hc] at hcode
    exact hcode.elim
  | written f hcode hatomic hheld hpending hrule hcommits =>
    rw [hc] at hatomic
    obtain ⟨a, rfl⟩ := hatomic
    have hview : cell (c.view i) = f (cell c.db) := hpending c.db
    refine ⟨hheld, hcommits, by rw [hview]; exact hrule, fun db => ?_⟩
    exact .settled trivial trivial (fun _ => rfl) (Nat.succ_pos _)
  | settled hcode huncommitted hpending hcommits =>
    rw [hc] at huncommitted
    exact huncommitted.elim

variable [DecidableEq ι]

theorem serialised_start {calls : ι → Program σ κ ε α} {s : σ} (h : ∀ i, (calls i).Updates cell lock (R i) s) :
    Serialised cell lock R (cell s) (start s calls) := by
  refine ⟨exclusive_start s calls, fun i => .reading (h i) (fun _ => rfl) rfl, [], List.nodup_nil, ?_, .start⟩
  intro i
  exact iff_of_false List.not_mem_nil (lt_irrefl 0)

/-- A move that leaves the committed row and the commits of its call. -/
theorem Serialised.of_set {c : Config ι σ κ ε α} {i : ι} {t : Task σ κ ε α} (h : Serialised cell lock R b₀ c)
    (hx : Exclusive (c.set i t)) (ht : Phase cell lock (R i) c.db t) (hcommits : t.commits = (c.tasks i).commits) :
    Serialised cell lock R b₀ (c.set i t) := by
  have hsame : ∀ j, ((c.set i t).tasks j).commits = (c.tasks j).commits := by
    intro j
    by_cases hj : j = i
    · subst hj
      rw [set_tasks_self, hcommits]
    · rw [set_tasks_ne c t hj]
  refine ⟨hx, fun j => ?_, ?_⟩
  · by_cases hj : j = i
    · subst hj
      rw [set_tasks_self]
      exact ht
    · rw [set_tasks_ne c t hj]
      exact h.phases j
  · obtain ⟨l, hnodup, hmem, hserial⟩ := h.history
    exact ⟨l, hnodup, fun j => by rw [hsame, hmem], hserial⟩

theorem Serialised.landed {c : Config ι σ κ ε α} {i : ι} {k : Program σ κ ε α} (h : Serialised cell lock R b₀ c)
    (hx : Exclusive (c.land i k)) (hc : (c.tasks i).code = .commit k) :
    Serialised cell lock R b₀ (c.land i k) := by
  obtain ⟨hheld, hzero, hrule, hdone⟩ := (h.phases i).committed hc
  refine ⟨hx, fun j => ?_, ?_⟩
  · by_cases hj : j = i
    · subst hj
      rw [land_tasks_self]
      exact hdone _
    · rw [land_tasks_ne c k hj]
      exact (h.phases j).of_cell (fun hlock => absurd hlock (h.exclusive i j (Ne.symm hj) lock hheld))
  · obtain ⟨l, hnodup, hmem, hserial⟩ := h.history
    have hi : i ∉ l := by
      rw [hmem, hzero]
      exact lt_irrefl 0
    refine ⟨l ++ [i], ?_, fun j => ?_, hserial.step hrule⟩
    · rw [List.nodup_append]
      refine ⟨hnodup, List.nodup_singleton i, fun a ha b hb => ?_⟩
      rw [List.mem_singleton.mp hb]
      exact fun he => hi (he ▸ ha)
    · rw [List.mem_append, List.mem_singleton, hmem]
      by_cases hj : j = i
      · subst hj
        rw [land_tasks_self]
        exact iff_of_true (Or.inr rfl) (Nat.succ_pos _)
      · rw [land_tasks_ne c k hj]
        exact or_iff_left hj

theorem Acted.serialised {c c' : Config ι σ κ ε α} {i : ι} {m : Move ε} (h : Acted c i m c')
    (hfresh : Fresh cell lock c i m) (hs : Serialised cell lock R b₀ c) : Serialised cell lock R b₀ c' := by
  have hx := h.exclusive hs.exclusive
  cases h with
  | stay _ => exact hs
  | rolled _ e => exact hs.of_set hx ((hs.phases i).rolled e) rfl
  | queried k hc => exact hs.of_set hx ((hs.phases i).queried hc) rfl
  | wrote stmt k eff hc he hb =>
    exact hs.of_set hx ((hs.phases i).wrote hc he (hfresh stmt k eff rfl hc he hb)) rfl
  | committed k hc => exact hs.landed hx hc

variable [Fintype ι] [DecidableEq κ]

/-- In a run of fresh moves the row is always serialised. -/
theorem run_serialised {calls : ι → Program σ κ ε α} {s : σ} (h : ∀ i, (calls i).Updates cell lock (R i) s)
    {moves : List (ι × Move ε)} (hfresh : Along (Fresh cell lock) (start s calls) moves) :
    Serialised cell lock R (cell s) ((start s calls).run moves) := by
  apply runFrom_inv _ (serialised_start h) hfresh
  intro c e hs hf
  exact (act_acted c e.1 e.2).serialised hf hs

end Config

end HostPanel.Lib
