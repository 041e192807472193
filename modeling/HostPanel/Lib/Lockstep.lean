import HostPanel.Lib.Interleaving

namespace HostPanel.Lib

variable {ι σ κ ε α β : Type}

namespace Program

variable (rel : σ → σ → Prop)

/-- What one write does on two views: it fails alike, or it locks the same rows
and the two changes keep related tables related. -/
def SameWrite : Except ε (Effect σ κ) → Except ε (Effect σ κ) → Prop
  | .ok eff, .ok eff' => eff.locks = eff'.locks ∧ ∀ s t, rel s t → rel (eff.apply s) (eff'.apply t)
  | .error e, .error e' => e = e'
  | _, _ => False

/-- The program takes the same course on related tables: whatever it reads of
them, it goes on alike. -/
def Steady : Program σ κ ε α → Prop
  | ret _ => True
  | raise _ => True
  | query k => (∀ v w, rel v w → k v = k w) ∧ ∀ v, (k v).Steady
  | exec stmt k => (∀ v w, rel v w → SameWrite rel (stmt v) (stmt w) ∧ k v = k w) ∧ ∀ v, (k v).Steady
  | commit k => k.Steady

variable {rel}

theorem Steady.bind {p : Program σ κ ε α} {f : α → Program σ κ ε β} (hp : p.Steady rel)
    (hf : ∀ a, (f a).Steady rel) : (p >>= f).Steady rel := by
  induction p with
  | ret a => exact hf a
  | raise e => trivial
  | query k ih => exact ⟨fun v w h => congrArg (· >>= f) (hp.1 v w h), fun v => ih v (hp.2 v)⟩
  | exec stmt k ih =>
    refine ⟨fun v w h => ?_, fun v => ih v (hp.2 v)⟩
    obtain ⟨hstmt, hk⟩ := hp.1 v w h
    exact ⟨hstmt, congrArg (· >>= f) hk⟩
  | commit k ih => exact ih hp

theorem Steady.transaction {p : Program σ κ ε α} (hp : p.Steady rel) : (transaction p).Steady rel :=
  hp.bind (fun _ => trivial)

theorem Steady.map {p : Program σ κ ε α} (hp : p.Steady rel) (f : α → β) : (f <$> p).Steady rel :=
  hp.bind (fun _ => trivial)

end Program

/-- Two calls in flight that are at the same point, with the same rows locked;
their open transactions keep related tables related. -/
structure Task.Alike (rel : σ → σ → Prop) (t u : Task σ κ ε α) : Prop where
  code : t.code = u.code
  held : t.held = u.held
  pending : ∀ s s', rel s s' → rel (t.pending s) (u.pending s')
  steady : t.code.Steady rel

theorem Task.Alike.rollback {rel : σ → σ → Prop} {t u : Task σ κ ε α} (e : ε) :
    Task.Alike rel (t.rollback e) (u.rollback e) :=
  ⟨rfl, rfl, fun _ _ h => h, trivial⟩

namespace Config

/-- The same calls in flight on related tables. -/
structure Alike (rel : σ → σ → Prop) (c d : Config ι σ κ ε α) : Prop where
  db : rel c.db d.db
  tasks : ∀ i, Task.Alike rel (c.tasks i) (d.tasks i)

variable {rel : σ → σ → Prop} {c d : Config ι σ κ ε α}

theorem alike_start {s t : σ} (h : rel s t) {calls : ι → Program σ κ ε α} (hcalls : ∀ i, (calls i).Steady rel) :
    Alike rel (start s calls) (start t calls) :=
  ⟨h, fun i => ⟨rfl, rfl, fun _ _ h' => h', hcalls i⟩⟩

theorem Alike.view (h : Alike rel c d) (i : ι) : rel (c.view i) (d.view i) := (h.tasks i).pending _ _ h.db

theorem Alike.blocked_iff (h : Alike rel c d) (i : ι) (ls : List κ) : c.Blocked i ls ↔ d.Blocked i ls := by
  unfold Blocked
  simp only [fun j => (h.tasks j).held]

section Moves

variable [DecidableEq ι]

theorem Alike.set (h : Alike rel c d) (i : ι) {t u : Task σ κ ε α} (ht : Task.Alike rel t u) :
    Alike rel (c.set i t) (d.set i u) := by
  refine ⟨h.db, fun j => ?_⟩
  by_cases hj : j = i
  · rw [hj, set_tasks_self, set_tasks_self]
    exact ht
  · rw [set_tasks_ne c t hj, set_tasks_ne d u hj]
    exact h.tasks j

theorem Alike.land (h : Alike rel c d) (i : ι) {k : Program σ κ ε α} (hk : k.Steady rel) :
    Alike rel (c.land i k) (d.land i k) := by
  refine ⟨h.view i, fun j => ?_⟩
  by_cases hj : j = i
  · rw [hj, land_tasks_self, land_tasks_self]
    exact ⟨rfl, rfl, fun _ _ h' => h', hk⟩
  · rw [land_tasks_ne c k hj, land_tasks_ne d k hj]
    exact h.tasks j

variable [Fintype ι] [DecidableEq κ]

/-- A write made in both runs: it fails in both, waits in both, or is made in both. -/
theorem Alike.write (h : Alike rel c d) {i : ι} {stmt : σ → Except ε (Effect σ κ)} {k : σ → Program σ κ ε α}
    (hc : (c.tasks i).code = .exec stmt k) (hd : (d.tasks i).code = .exec stmt k) :
    Alike rel (c.act i .advance) (d.act i .advance) := by
  have hsteady : (Program.exec stmt k).Steady rel := hc ▸ (h.tasks i).steady
  have hagree := (hsteady.1 _ _ (h.view i)).1
  cases hs : stmt (c.view i) with
  | error e =>
    cases ht : stmt (d.view i) with
    | error e' =>
      rw [hs, ht] at hagree
      cases hagree
      rw [act_failed hc hs, act_failed hd ht]
      exact h.set i (Task.Alike.rollback e)
    | ok eff' =>
      rw [hs, ht] at hagree
      exact hagree.elim
  | ok eff =>
    cases ht : stmt (d.view i) with
    | error e' =>
      rw [hs, ht] at hagree
      exact hagree.elim
    | ok eff' =>
      rw [hs, ht] at hagree
      obtain ⟨hlocks, hkeeps⟩ := hagree
      by_cases hb : c.Blocked i eff.locks
      · have hb' : d.Blocked i eff'.locks := hlocks ▸ (h.blocked_iff i eff.locks).mp hb
        have hwait : c.act i .advance = c := by simp only [act, hc, hs, if_pos hb]
        have hwait' : d.act i .advance = d := by simp only [act, hd, ht, if_pos hb']
        rw [hwait, hwait']
        exact h
      · have hb' : ¬ d.Blocked i eff'.locks := fun hd' => hb ((h.blocked_iff i eff.locks).mpr (hlocks ▸ hd'))
        rw [act_exec hc hs hb, act_exec hd ht hb']
        have hview := hkeeps _ _ (h.view i)
        refine h.set i ⟨(hsteady.1 _ _ hview).2, ?_, fun s s' hss => ?_, hsteady.2 _⟩
        · exact congrArg₂ (· ++ ·) hlocks (h.tasks i).held
        · exact hkeeps _ _ ((h.tasks i).pending _ _ hss)

/-- One move, made in both runs. -/
theorem Alike.act (h : Alike rel c d) (i : ι) (m : Move ε) : Alike rel (c.act i m) (d.act i m) := by
  have hcode := (h.tasks i).code
  cases m with
  | abort e =>
    cases hc : (c.tasks i).code with
    | ret a =>
      have hd : (d.tasks i).code = .ret a := hcode ▸ hc
      simp only [Config.act, hc, hd]
      exact h
    | raise _ | query _ | exec _ _ | commit _ =>
      have hd := hcode ▸ hc
      simp only [Config.act, hc, hd]
      exact h.set i (Task.Alike.rollback e)
  | advance =>
    cases hc : (c.tasks i).code with
    | ret a =>
      have hd : (d.tasks i).code = .ret a := hcode ▸ hc
      simp only [Config.act, hc, hd]
      exact h
    | raise e =>
      have hd : (d.tasks i).code = .raise e := hcode ▸ hc
      rw [act_raise hc, act_raise hd]
      exact h.set i (Task.Alike.rollback e)
    | query k =>
      have hd : (d.tasks i).code = .query k := hcode ▸ hc
      have hsteady : (Program.query k).Steady rel := hc ▸ (h.tasks i).steady
      rw [act_query hc, act_query hd]
      exact h.set i ⟨hsteady.1 _ _ (h.view i), (h.tasks i).held, (h.tasks i).pending, hsteady.2 _⟩
    | exec stmt k => exact h.write hc (hcode ▸ hc)
    | commit k =>
      have hd : (d.tasks i).code = .commit k := hcode ▸ hc
      have hsteady : (Program.commit k).Steady rel := hc ▸ (h.tasks i).steady
      rw [act_commit hc, act_commit hd]
      exact h.land i hsteady

end Moves

/-- What can happen while calls run: one of them moves, or the committed tables
are changed from outside. -/
inductive Incident (ι σ ε : Type) where
  | move (i : ι) (m : Move ε)
  | outside (f : σ → σ)

/-- The moves among what happens. -/
def Incident.move? : Incident ι σ ε → Option (ι × Move ε)
  | move i m => some (i, m)
  | outside _ => none

section Incidents

variable [DecidableEq ι] [Fintype ι] [DecidableEq κ]

def happen (c : Config ι σ κ ε α) : Incident ι σ ε → Config ι σ κ ε α
  | .move i m => c.act i m
  | .outside f => { c with db := f c.db }

theorem Alike.run (h : Alike rel c d) (schedule : List (ι × Move ε)) :
    Alike rel (c.run schedule) (d.run schedule) := by
  induction schedule generalizing c d with
  | nil => exact h
  | cons e schedule ih => exact ih (h.act e.1 e.2)

/-- Changes from outside that keep the tables related are seen by no call: every
call takes the course that it takes without them. -/
theorem Alike.disturbed (h : Alike rel c d) {events : List (Incident ι σ ε)}
    (houtside : ∀ f, .outside f ∈ events → ∀ s t, rel s t → rel (f s) t) :
    Alike rel (runFrom happen c events) (d.run (events.filterMap Incident.move?)) := by
  induction events generalizing c d with
  | nil => exact h
  | cons e events ih =>
    have hrest : ∀ f, .outside f ∈ events → ∀ s t, rel s t → rel (f s) t :=
      fun f hf => houtside f (List.mem_cons_of_mem e hf)
    cases e with
    | move i m => exact ih (h.act i m) hrest
    | outside f =>
      have hf := houtside f List.mem_cons_self
      exact ih ⟨hf _ _ h.db, h.tasks⟩ hrest

end Incidents

end Config

end HostPanel.Lib
