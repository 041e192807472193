import Mathlib.Data.Fintype.Basic
import Mathlib.Logic.Function.Basic
import HostPanel.Lib.Program
import HostPanel.Lib.Run

namespace HostPanel.Lib

variable {ι σ κ ε α χ β : Type}

/-- One call in flight: what is left of its program, the writes of its open
transaction, the rows it has locked, and two records for proofs, what its last
query returned and how often it committed. -/
structure Task (σ κ ε α : Type) where
  code : Program σ κ ε α
  seen : σ
  pending : σ → σ := id
  held : List κ := []
  commits : Nat := 0

namespace Task

def start (p : Program σ κ ε α) (s : σ) : Task σ κ ε α := { code := p, seen := s }

def rollback (t : Task σ κ ε α) (e : ε) : Task σ κ ε α :=
  { t with code := .raise e, pending := id, held := [] }

def committed (t : Task σ κ ε α) (k : Program σ κ ε α) : Task σ κ ε α :=
  { t with code := k, pending := id, held := [], commits := t.commits + 1 }

end Task

inductive Move (ε : Type) where
  | advance
  | abort (e : ε)

/-- Committed tables and the calls running on them. -/
structure Config (ι σ κ ε α : Type) where
  db : σ
  tasks : ι → Task σ κ ε α

namespace Config

def start (s : σ) (calls : ι → Program σ κ ε α) : Config ι σ κ ε α :=
  ⟨s, fun i => Task.start (calls i) s⟩

/-- What the next statement of a call sees: the last committed rows and its
own writes. -/
def view (c : Config ι σ κ ε α) (i : ι) : σ := (c.tasks i).pending c.db

def Blocked (c : Config ι σ κ ε α) (i : ι) (ls : List κ) : Prop :=
  ∃ j, j ≠ i ∧ ∃ l ∈ ls, l ∈ (c.tasks j).held

/-- A write that a move makes meets `W`, which may speak of what the last query
of the call returned, of the view the write runs on and of its effect. -/
def Writes (W : σ → σ → Effect σ κ → Prop) (c : Config ι σ κ ε α) (i : ι) (m : Move ε) : Prop :=
  ∀ stmt k eff, m = .advance → (c.tasks i).code = .exec stmt k → stmt (c.view i) = .ok eff →
    ¬ c.Blocked i eff.locks → W (c.tasks i).seen (c.view i) eff

variable [DecidableEq ι]

def set (c : Config ι σ κ ε α) (i : ι) (t : Task σ κ ε α) : Config ι σ κ ε α :=
  { c with tasks := Function.update c.tasks i t }

/-- The open transaction of a call becomes part of the committed tables. -/
def land (c : Config ι σ κ ε α) (i : ι) (k : Program σ κ ε α) : Config ι σ κ ε α :=
  ⟨c.view i, Function.update c.tasks i ((c.tasks i).committed k)⟩

/-- Everything a move of call `i` can do. -/
inductive Acted (c : Config ι σ κ ε α) (i : ι) : Move ε → Config ι σ κ ε α → Prop
  | stay (m : Move ε) : Acted c i m c
  | rolled (m : Move ε) (e : ε) : Acted c i m (c.set i ((c.tasks i).rollback e))
  | queried (k : σ → Program σ κ ε α) (hc : (c.tasks i).code = .query k) :
      Acted c i .advance (c.set i { c.tasks i with code := k (c.view i), seen := c.view i })
  | wrote (stmt : σ → Except ε (Effect σ κ)) (k : σ → Program σ κ ε α) (eff : Effect σ κ)
      (hc : (c.tasks i).code = .exec stmt k) (hs : stmt (c.view i) = .ok eff)
      (hb : ¬ c.Blocked i eff.locks) :
      Acted c i .advance (c.set i { c.tasks i with
        code := k (eff.apply (c.view i))
        pending := eff.apply ∘ (c.tasks i).pending
        held := eff.locks ++ (c.tasks i).held })
  | committed (k : Program σ κ ε α) (hc : (c.tasks i).code = .commit k) :
      Acted c i .advance (c.land i k)

@[simp] theorem set_db (c : Config ι σ κ ε α) (i : ι) (t : Task σ κ ε α) : (c.set i t).db = c.db := rfl

@[simp] theorem set_tasks_self (c : Config ι σ κ ε α) (i : ι) (t : Task σ κ ε α) :
    (c.set i t).tasks i = t := by
  simp only [set, Function.update_self]

theorem set_tasks_ne (c : Config ι σ κ ε α) {i j : ι} (t : Task σ κ ε α) (h : j ≠ i) :
    (c.set i t).tasks j = c.tasks j := by
  simp only [set, Function.update_of_ne h]

@[simp] theorem land_db (c : Config ι σ κ ε α) (i : ι) (k : Program σ κ ε α) : (c.land i k).db = c.view i := rfl

@[simp] theorem land_tasks_self (c : Config ι σ κ ε α) (i : ι) (k : Program σ κ ε α) :
    (c.land i k).tasks i = (c.tasks i).committed k := by
  simp only [land, Function.update_self]

theorem land_tasks_ne (c : Config ι σ κ ε α) {i j : ι} (k : Program σ κ ε α) (h : j ≠ i) :
    (c.land i k).tasks j = c.tasks j := by
  simp only [land, Function.update_of_ne h]

theorem Acted.frame {c c' : Config ι σ κ ε α} {i j : ι} {m : Move ε} (h : Acted c i m c') (hj : j ≠ i) :
    c'.tasks j = c.tasks j := by
  cases h with
  | stay _ => rfl
  | rolled _ e => exact set_tasks_ne c _ hj
  | queried k hc => exact set_tasks_ne c _ hj
  | wrote stmt k eff hc hs hb => exact set_tasks_ne c _ hj
  | committed k hc => exact land_tasks_ne c k hj

/-- No row is locked by two calls. -/
def Exclusive (c : Config ι σ κ ε α) : Prop :=
  ∀ i j, i ≠ j → ∀ l ∈ (c.tasks i).held, l ∉ (c.tasks j).held

omit [DecidableEq ι] in
theorem exclusive_start (s : σ) (calls : ι → Program σ κ ε α) : Exclusive (start s calls) :=
  fun _ _ _ _ hl => absurd hl List.not_mem_nil

theorem Acted.held {c c' : Config ι σ κ ε α} {i : ι} {m : Move ε} (h : Acted c i m c') :
    ∀ l ∈ (c'.tasks i).held, l ∈ (c.tasks i).held ∨ ∀ j, j ≠ i → l ∉ (c.tasks j).held := by
  intro l hl
  cases h with
  | stay _ => exact Or.inl hl
  | rolled _ e =>
    rw [set_tasks_self] at hl
    exact absurd hl List.not_mem_nil
  | queried k hc =>
    rw [set_tasks_self] at hl
    exact Or.inl hl
  | wrote stmt k eff hc hs hb =>
    rw [set_tasks_self] at hl
    obtain he | hh := List.mem_append.mp hl
    · exact Or.inr (fun j hj hlj => hb ⟨j, hj, l, he, hlj⟩)
    · exact Or.inl hh
  | committed k hc =>
    rw [land_tasks_self] at hl
    exact absurd hl List.not_mem_nil

theorem Acted.exclusive {c c' : Config ι σ κ ε α} {i : ι} {m : Move ε} (h : Acted c i m c') (hx : Exclusive c) :
    Exclusive c' := by
  have key : ∀ j, j ≠ i → ∀ l ∈ (c'.tasks i).held, l ∉ (c.tasks j).held := by
    intro j hj l hl
    obtain hi | hn := h.held l hl
    · exact hx i j (Ne.symm hj) l hi
    · exact hn j hj
  intro a b hab l ha hb
  by_cases hai : a = i
  · subst hai
    rw [h.frame (Ne.symm hab)] at hb
    exact key b (Ne.symm hab) l ha hb
  · rw [h.frame hai] at ha
    by_cases hbi : b = i
    · subst hbi
      exact key a hai l hb ha
    · rw [h.frame hbi] at hb
      exact hx a b hab l ha hb

/-- Every call keeps the contract of its program. -/
def Contracts (P : σ → σ → Effect σ κ → Prop) (c : Config ι σ κ ε α) : Prop :=
  ∀ i, (c.tasks i).code.Ensures P (fun _ _ => True) (c.tasks i).seen

theorem Acted.contracts {P : σ → σ → Effect σ κ → Prop} {c c' : Config ι σ κ ε α} {i : ι} {m : Move ε}
    (h : Acted c i m c') (hp : Contracts P c) : Contracts P c' := by
  intro j
  by_cases hj : j = i
  · subst hj
    have hi := hp j
    cases h with
    | stay _ => exact hi
    | rolled _ e =>
      rw [set_tasks_self]
      trivial
    | queried k hc =>
      rw [hc] at hi
      rw [set_tasks_self]
      exact hi (c.view j)
    | wrote stmt k eff hc hs hb =>
      rw [hc] at hi
      rw [set_tasks_self]
      exact (hi (c.view j) eff hs).2
    | committed k hc =>
      rw [hc] at hi
      rw [land_tasks_self]
      exact hi
  · rw [h.frame hj]
    exact hp j

variable (cell : χ → σ → β) (lockOf : χ → κ)

/-- A write changes a cell only with its row locked. -/
def Locking (eff : Effect σ κ) : Prop :=
  ∀ x, lockOf x ∈ eff.locks ∨ ∀ s, cell x (eff.apply s) = cell x s

/-- The writes a call has not committed yet change only cells it has locked. -/
def Owned (c : Config ι σ κ ε α) : Prop :=
  ∀ i x, lockOf x ∈ (c.tasks i).held ∨ ∀ s, cell x ((c.tasks i).pending s) = cell x s

omit [DecidableEq ι] in
theorem owned_start (s : σ) (calls : ι → Program σ κ ε α) : Owned cell lockOf (start s calls) :=
  fun _ _ => Or.inr (fun _ => rfl)

variable {cell lockOf}

theorem Acted.owned {P : σ → σ → Effect σ κ → Prop} (hP : ∀ seen v eff, P seen v eff → Locking cell lockOf eff)
    {c c' : Config ι σ κ ε α} {i : ι} {m : Move ε} (h : Acted c i m c') (hp : Contracts P c)
    (ho : Owned cell lockOf c) :
    Owned cell lockOf c' := by
  intro j x
  by_cases hj : j = i
  · subst hj
    cases h with
    | stay _ => exact ho j x
    | rolled _ e =>
      rw [set_tasks_self]
      exact Or.inr (fun _ => rfl)
    | queried k hc =>
      rw [set_tasks_self]
      exact ho j x
    | wrote stmt k eff hc hs hb =>
      have hi := hp j
      rw [hc] at hi
      have hl := hP _ _ _ (hi (c.view j) eff hs).1
      rw [set_tasks_self]
      obtain hx | hx := hl x
      · exact Or.inl (List.mem_append_left _ hx)
      · obtain hy | hy := ho j x
        · exact Or.inl (List.mem_append_right _ hy)
        · exact Or.inr (fun s => (hx _).trans (hy s))
    | committed k hc =>
      rw [land_tasks_self]
      exact Or.inr (fun _ => rfl)
  · rw [h.frame hj]
    exact ho j x

/-- While one call holds a row, no move of another changes what is committed
in it. -/
theorem Acted.cell_of_held {c c' : Config ι σ κ ε α} {i j : ι} {m : Move ε} (h : Acted c i m c') (hx : Exclusive c)
    (ho : Owned cell lockOf c) (hij : i ≠ j) {x : χ} (hl : lockOf x ∈ (c.tasks j).held) :
    cell x c'.db = cell x c.db := by
  cases h with
  | stay _ => rfl
  | rolled _ e => rfl
  | queried k hc => rfl
  | wrote stmt k eff hc hs hb => rfl
  | committed k hc =>
    obtain hi | hi := ho i x
    · exact absurd hl (hx i j hij _ hi)
    · exact hi c.db

variable [Fintype ι] [DecidableEq κ]

instance (c : Config ι σ κ ε α) (i : ι) (ls : List κ) : Decidable (c.Blocked i ls) :=
  inferInstanceAs (Decidable (∃ j, j ≠ i ∧ ∃ l ∈ ls, l ∈ (c.tasks j).held))

instance {W : σ → σ → Effect σ κ → Prop} [∀ seen view eff, Decidable (W seen view eff)] (c : Config ι σ κ ε α) (i : ι)
    (m : Move ε) : Decidable (Writes W c i m) :=
  match m with
  | .abort e => .isTrue (fun _ _ _ hm => nomatch hm)
  | .advance =>
    match hc : (c.tasks i).code with
    | .exec stmt k =>
      match hs : stmt (c.view i) with
      | .error e => .isTrue (fun stmt' k' eff _ hc' hs' => by
          cases hc.symm.trans hc'
          cases hs.symm.trans hs')
      | .ok eff =>
        decidable_of_iff (¬ c.Blocked i eff.locks → W (c.tasks i).seen (c.view i) eff) (by
          constructor
          · intro h stmt' k' eff' _ hc' hs'
            cases hc.symm.trans hc'
            cases hs.symm.trans hs'
            exact h
          · exact fun h => h stmt k eff rfl hc hs)
    | .ret a | .raise e | .query k | .commit k => .isTrue (fun _ _ _ _ hc' => nomatch hc.symm.trans hc')

/-- One move of one call under READ COMMITTED. A write waits while another
call holds one of its rows; a failed statement, a throw and an abort roll the
open transaction back. -/
def act (c : Config ι σ κ ε α) (i : ι) : Move ε → Config ι σ κ ε α
  | .advance =>
    match (c.tasks i).code with
    | .ret _ => c
    | .raise e => c.set i ((c.tasks i).rollback e)
    | .query k => c.set i { c.tasks i with code := k (c.view i), seen := c.view i }
    | .exec stmt k =>
      match stmt (c.view i) with
      | .error e => c.set i ((c.tasks i).rollback e)
      | .ok eff =>
        if c.Blocked i eff.locks then c
        else c.set i { c.tasks i with
          code := k (eff.apply (c.view i))
          pending := eff.apply ∘ (c.tasks i).pending
          held := eff.locks ++ (c.tasks i).held }
    | .commit k =>
      c.land i k
  | .abort e =>
    match (c.tasks i).code with
    | .ret _ => c
    | _ => c.set i ((c.tasks i).rollback e)

/-- One move of a schedule: which call moves, and how. -/
def turn (c : Config ι σ κ ε α) (e : ι × Move ε) : Config ι σ κ ε α := c.act e.1 e.2

/-- Run a schedule. -/
abbrev run : Config ι σ κ ε α → List (ι × Move ε) → Config ι σ κ ε α := runFrom turn

theorem act_raise {c : Config ι σ κ ε α} {i : ι} {e : ε} (hc : (c.tasks i).code = .raise e) :
    c.act i .advance = c.set i ((c.tasks i).rollback e) := by
  simp only [act, hc]

theorem act_failed {c : Config ι σ κ ε α} {i : ι} {stmt : σ → Except ε (Effect σ κ)} {k : σ → Program σ κ ε α}
    {e : ε} (hc : (c.tasks i).code = .exec stmt k) (hs : stmt (c.view i) = .error e) :
    c.act i .advance = c.set i ((c.tasks i).rollback e) := by
  simp only [act, hc, hs]

theorem act_query {c : Config ι σ κ ε α} {i : ι} {k : σ → Program σ κ ε α} (hc : (c.tasks i).code = .query k) :
    c.act i .advance = c.set i { c.tasks i with code := k (c.view i), seen := c.view i } := by
  simp only [act, hc]

theorem act_exec {c : Config ι σ κ ε α} {i : ι} {stmt : σ → Except ε (Effect σ κ)} {k : σ → Program σ κ ε α}
    {eff : Effect σ κ} (hc : (c.tasks i).code = .exec stmt k) (hs : stmt (c.view i) = .ok eff)
    (hb : ¬ c.Blocked i eff.locks) :
    c.act i .advance = c.set i { c.tasks i with
      code := k (eff.apply (c.view i))
      pending := eff.apply ∘ (c.tasks i).pending
      held := eff.locks ++ (c.tasks i).held } := by
  simp only [act, hc, hs, if_neg hb]

theorem act_commit {c : Config ι σ κ ε α} {i : ι} {k : Program σ κ ε α} (hc : (c.tasks i).code = .commit k) :
    c.act i .advance = c.land i k := by
  simp only [act, hc]

theorem act_acted (c : Config ι σ κ ε α) (i : ι) (m : Move ε) : Acted c i m (c.act i m) := by
  cases m with
  | abort e =>
    cases hc : (c.tasks i).code with
    | ret a =>
      have ha : c.act i (.abort e) = c := by simp only [act, hc]
      rw [ha]
      exact Acted.stay _
    | raise _ | query _ | exec _ _ | commit _ =>
      have ha : c.act i (.abort e) = c.set i ((c.tasks i).rollback e) := by simp only [act, hc]
      rw [ha]
      exact Acted.rolled _ e
  | advance =>
    cases hc : (c.tasks i).code with
    | ret a =>
      have ha : c.act i .advance = c := by simp only [act, hc]
      rw [ha]
      exact Acted.stay _
    | raise e =>
      rw [act_raise hc]
      exact Acted.rolled _ e
    | query k =>
      rw [act_query hc]
      exact Acted.queried k hc
    | exec stmt k =>
      cases hs : stmt (c.view i) with
      | error e =>
        rw [act_failed hc hs]
        exact Acted.rolled _ e
      | ok eff =>
        by_cases hb : c.Blocked i eff.locks
        · have ha : c.act i .advance = c := by simp only [act, hc, hs, if_pos hb]
          rw [ha]
          exact Acted.stay _
        · rw [act_exec hc hs hb]
          exact Acted.wrote stmt k eff hc hs hb
    | commit k =>
      rw [act_commit hc]
      exact Acted.committed k hc

/-- The moves of a schedule all meet `G` where they are made. -/
abbrev Along (G : Config ι σ κ ε α → ι → Move ε → Prop) : Config ι σ κ ε α → List (ι × Move ε) → Prop :=
  AlongRun turn (fun c e => G c e.1 e.2)

end Config

end HostPanel.Lib
