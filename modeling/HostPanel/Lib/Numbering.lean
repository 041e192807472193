import Mathlib.Data.Int.Notation
import Mathlib.Data.List.Range
import HostPanel.Lib.Growth
import HostPanel.Lib.Interleaving

namespace HostPanel.Lib

variable {ι σ κ ε α β χ ρ δ : Type}

variable (docs : χ → σ → List δ) (count : χ → σ → ℤ) (has : ρ → σ → Prop) (label : ℤ → δ)

/-- The documents of a series bear the numbers from 1 on in the order in which
they stand, and its counter stands at the last of them. -/
def Gapless (x : χ) (s : σ) : Prop :=
  ∃ n : ℕ, count x s = n ∧ docs x s = (List.range n).map (fun k : ℕ => label (k + 1))

/-- A change of nothing that has to do with numbers. -/
structure Unnumbered (s t : σ) : Prop where
  docs_eq : ∀ x, docs x t = docs x s
  count_eq : ∀ x, count x t = count x s
  has_iff : ∀ r, has r t ↔ has r s

/-- A change that sets the counter of one series. -/
structure Draws (x : χ) (n : ℤ) (f : σ → σ) : Prop where
  docs_eq : ∀ y s, docs y (f s) = docs y s
  drawn : ∀ s, count x (f s) = n
  others : ∀ y, y ≠ x → ∀ s, count y (f s) = count y s
  has_iff : ∀ r s, has r (f s) ↔ has r s

/-- A change that adds a document to one series, in a new row. -/
structure Enters (x : χ) (n : ℤ) (r : ρ) (f : σ → σ) : Prop where
  entered : ∀ s, ¬ has r s → docs x (f s) = docs x s ++ [label n]
  others : ∀ y, y ≠ x → ∀ s, docs y (f s) = docs y s
  count_eq : ∀ y s, count y (f s) = count y s
  has_iff : ∀ q, q ≠ r → ∀ s, has q (f s) ↔ has q s

/-- How far a transaction has got with its number. -/
inductive Numbered where
  | idle
  | drawn (n : ℤ)
  | entered

variable (counterLock : χ → κ) (rowLock : ρ → κ)

/-- A call whose transactions either keep away from the numbers, or draw the next
number of one series under the lock of its counter and store one document under
it before they commit. -/
def Program.Numbers (x : χ) : Program σ κ ε α → Numbered → Prop
  | ret _, _ => True
  | raise _, _ => True
  | query k, at_ => ∀ v, (k v).Numbers x at_
  | exec stmt k, at_ => ∀ v eff, stmt v = .ok eff →
      ((∀ s, Unnumbered docs count has s (eff.apply s)) ∧ (k (eff.apply v)).Numbers x at_) ∨
        (at_ = .idle ∧ counterLock x ∈ eff.locks ∧ Draws docs count has x (count x v + 1) eff.apply ∧
          (k (eff.apply v)).Numbers x (.drawn (count x v + 1))) ∨
        ∃ n r, at_ = .drawn n ∧ rowLock r ∈ eff.locks ∧ ¬ has r v ∧ Enters docs count has label x n r eff.apply ∧
          (k (eff.apply v)).Numbers x .entered
  | commit k, at_ => (∀ n, at_ ≠ .drawn n) ∧ k.Numbers x .idle

variable {docs count has label counterLock rowLock}

theorem Unnumbered.trans {s t u : σ} (h : Unnumbered docs count has s t) (h' : Unnumbered docs count has t u) :
    Unnumbered docs count has s u :=
  ⟨fun x => (h'.docs_eq x).trans (h.docs_eq x), fun x => (h'.count_eq x).trans (h.count_eq x),
    fun r => (h'.has_iff r).trans (h.has_iff r)⟩

theorem Gapless.next {s t : σ} {x : χ} (hs : Gapless docs count label x s) (hcount : count x t = count x s + 1)
    (hdocs : docs x t = docs x s ++ [label (count x s + 1)]) : Gapless docs count label x t := by
  obtain ⟨n, hn, hold⟩ := hs
  refine ⟨n + 1, ?_, ?_⟩
  · rw [hcount, hn, Int.natCast_succ]
  · rw [hdocs, hold, hn, List.range_succ, List.map_append]
    rfl

theorem Gapless.nodup (hlabel : ∀ m n : ℕ, label (m + 1) = label (n + 1) → m = n) {s : σ} {x : χ}
    (hs : Gapless docs count label x s) : (docs x s).Nodup := by
  obtain ⟨n, _, hdocs⟩ := hs
  rw [hdocs]
  exact List.nodup_range.map (fun a b h => hlabel a b h)

namespace Program

variable {x : χ} {at_ : Numbered}

theorem Guarantees.numbers_bind {p : Program σ κ ε α} {f : α → Program σ κ ε β}
    (hp : p.Guarantees (Unnumbered docs count has)) (hu : p.Uncommitted)
    (hf : ∀ a, (f a).Numbers docs count has label counterLock rowLock x at_) :
    (p >>= f).Numbers docs count has label counterLock rowLock x at_ := by
  induction p with
  | ret a => exact hf a
  | raise e => trivial
  | query k ih => exact fun v => ih v (hp v) (hu v)
  | exec stmt k ih => exact fun v eff hs => Or.inl ⟨hp.1 v eff hs, ih _ (hp.2 _) (hu _)⟩
  | commit k => exact hu.elim

theorem Guarantees.numbers {p : Program σ κ ε α} (hp : p.Guarantees (Unnumbered docs count has)) :
    p.Numbers docs count has label counterLock rowLock x .idle := by
  induction p with
  | ret a => trivial
  | raise e => trivial
  | query k ih => exact fun v => ih v (hp v)
  | exec stmt k ih => exact fun v eff hs => Or.inl ⟨hp.1 v eff hs, ih _ (hp.2 _)⟩
  | commit k ih => exact ⟨fun _ h => Numbered.noConfusion h, ih hp⟩

theorem Numbers.map {p : Program σ κ ε α} (hp : p.Numbers docs count has label counterLock rowLock x at_) (g : α → β) :
    (p >>= fun a => ret (g a)).Numbers docs count has label counterLock rowLock x at_ := by
  induction p generalizing at_ with
  | ret a => trivial
  | raise e => trivial
  | query k ih => exact fun v => ih v (hp v)
  | exec stmt k ih =>
    intro v eff hs
    obtain ⟨hsame, hnext⟩ | ⟨hidle, hlock, hdraws, hnext⟩ | ⟨n, r, hdrawn, hlock, hnew, henters, hnext⟩ := hp v eff hs
    · exact Or.inl ⟨hsame, ih _ hnext⟩
    · exact Or.inr (Or.inl ⟨hidle, hlock, hdraws, ih _ hnext⟩)
    · exact Or.inr (Or.inr ⟨n, r, hdrawn, hlock, hnew, henters, ih _ hnext⟩)
  | commit k ih => exact ⟨hp.1, ih hp.2⟩

/-- Every write has the lock of each counter and of each row it changes. -/
theorem Numbers.ensures {p : Program σ κ ε α} (hp : p.Numbers docs count has label counterLock rowLock x at_)
    (seen : σ) :
    p.Ensures (fun _ _ eff => Config.Locking count counterLock eff ∧ Config.Locking has rowLock eff)
      (fun _ _ => True) seen := by
  induction p generalizing at_ seen with
  | ret a => trivial
  | raise e => trivial
  | query k ih => exact fun v => ih v (hp v) v
  | exec stmt k ih =>
    intro v eff hs
    obtain ⟨hsame, hnext⟩ | ⟨_, hlock, hdraws, hnext⟩ | ⟨n, r, _, hlock, _, henters, hnext⟩ := hp v eff hs
    · exact ⟨⟨fun y => Or.inr (fun s => (hsame s).count_eq y), fun r => Or.inr (fun s => propext ((hsame s).has_iff r))⟩,
        ih _ hnext seen⟩
    · refine ⟨⟨fun y => ?_, fun r => Or.inr (fun s => propext (hdraws.has_iff r s))⟩, ih _ hnext seen⟩
      by_cases hy : y = x
      · exact Or.inl (hy ▸ hlock)
      · exact Or.inr (hdraws.others y hy)
    · refine ⟨⟨fun y => Or.inr (henters.count_eq y), fun q => ?_⟩, ih _ hnext seen⟩
      by_cases hq : q = r
      · exact Or.inl (hq ▸ hlock)
      · exact Or.inr (fun s => propext (henters.has_iff q hq s))
  | commit k ih => exact ih hp.2 seen

end Program

namespace Config

variable (docs count has label counterLock rowLock)

/-- What the open transaction of a call has made of the numbers. -/
inductive Numbering (x : χ) (db : σ) (t : Task σ κ ε α) : Prop
  | idle (hcode : t.code.Numbers docs count has label counterLock rowLock x .idle)
      (hpending : ∀ s, Unnumbered docs count has s (t.pending s))
  | drawn (hcode : t.code.Numbers docs count has label counterLock rowLock x (.drawn (count x db + 1)))
      (hpending : Draws docs count has x (count x db + 1) t.pending) (hheld : counterLock x ∈ t.held)
  | entered (r : ρ) (hcode : t.code.Numbers docs count has label counterLock rowLock x .entered)
      (hheld : counterLock x ∈ t.held) (hrow : rowLock r ∈ t.held) (hnew : ¬ has r db)
      (hcount : ∀ s, count x (t.pending s) = count x db + 1)
      (hothers : ∀ y, y ≠ x → ∀ s, count y (t.pending s) = count y s ∧ docs y (t.pending s) = docs y s)
      (hdocs : ∀ s, ¬ has r s → docs x (t.pending s) = docs x s ++ [label (count x db + 1)])

variable {docs count has label counterLock rowLock}

section Tasks

variable {x : χ} {db db' : σ} {t : Task σ κ ε α}

theorem numbering_rolled (x : χ) (db : σ) (t : Task σ κ ε α) (e : ε) :
    Numbering docs count has label counterLock rowLock x db (t.rollback e) :=
  .idle trivial (fun _ => ⟨fun _ => rfl, fun _ => rfl, fun _ => Iff.rfl⟩)

theorem Numbering.of_db (h : Numbering docs count has label counterLock rowLock x db t)
    (hcount : counterLock x ∈ t.held → count x db' = count x db)
    (hhas : ∀ r, rowLock r ∈ t.held → (has r db' ↔ has r db)) :
    Numbering docs count has label counterLock rowLock x db' t := by
  cases h with
  | idle hcode hpending => exact .idle hcode hpending
  | drawn hcode hpending hheld =>
    rw [← hcount hheld] at hcode hpending
    exact .drawn hcode hpending hheld
  | entered r hcode hheld hrow hnew hsum hothers hdocs =>
    rw [← hcount hheld] at hsum hdocs
    exact .entered r hcode hheld hrow (fun hr => hnew ((hhas r hrow).mp hr)) hsum hothers hdocs

variable {c : Config ι σ κ ε α} {i : ι}

theorem Numbering.queried (h : Numbering docs count has label counterLock rowLock x c.db (c.tasks i))
    {k : σ → Program σ κ ε α} (hc : (c.tasks i).code = .query k) :
    Numbering docs count has label counterLock rowLock x c.db
      { c.tasks i with code := k (c.view i), seen := c.view i } := by
  cases h with
  | idle hcode hpending =>
    rw [hc] at hcode
    exact .idle (hcode _) hpending
  | drawn hcode hpending hheld =>
    rw [hc] at hcode
    exact .drawn (hcode _) hpending hheld
  | entered r hcode hheld hrow hnew hsum hothers hdocs =>
    rw [hc] at hcode
    exact .entered r (hcode _) hheld hrow hnew hsum hothers hdocs

theorem Numbering.wrote (h : Numbering docs count has label counterLock rowLock x c.db (c.tasks i))
    {stmt : σ → Except ε (Effect σ κ)} {k : σ → Program σ κ ε α} {eff : Effect σ κ}
    (hc : (c.tasks i).code = .exec stmt k) (hs : stmt (c.view i) = .ok eff) :
    Numbering docs count has label counterLock rowLock x c.db { c.tasks i with
      code := k (eff.apply (c.view i))
      pending := eff.apply ∘ (c.tasks i).pending
      held := eff.locks ++ (c.tasks i).held } := by
  cases h with
  | idle hcode hpending =>
    rw [hc] at hcode
    obtain ⟨hsame, hnext⟩ | ⟨_, hlock, hdraws, hnext⟩ | ⟨n, r, hdrawn, _⟩ := hcode _ eff hs
    · exact .idle hnext (fun s => (hpending s).trans (hsame _))
    · have hcount : count x (c.view i) = count x c.db := (hpending c.db).count_eq x
      rw [hcount] at hdraws hnext
      refine .drawn hnext ⟨fun y s => ?_, fun s => hdraws.drawn _, fun y hy s => ?_, fun r s => ?_⟩
        (List.mem_append_left _ hlock)
      · exact (hdraws.docs_eq y _).trans ((hpending s).docs_eq y)
      · exact (hdraws.others y hy _).trans ((hpending s).count_eq y)
      · exact (hdraws.has_iff r _).trans ((hpending s).has_iff r)
    · cases hdrawn
  | drawn hcode hpending hheld =>
    rw [hc] at hcode
    have hstill := List.mem_append_right eff.locks hheld
    obtain ⟨hsame, hnext⟩ | ⟨hidle, _⟩ | ⟨n, r, hdrawn, hlock, hnew, henters, hnext⟩ := hcode _ eff hs
    · refine .drawn hnext ⟨fun y s => ?_, fun s => ?_, fun y hy s => ?_, fun r s => ?_⟩ hstill
      · exact ((hsame _).docs_eq y).trans (hpending.docs_eq y s)
      · exact ((hsame _).count_eq x).trans (hpending.drawn s)
      · exact ((hsame _).count_eq y).trans (hpending.others y hy s)
      · exact ((hsame _).has_iff r).trans (hpending.has_iff r s)
    · cases hidle
    · cases hdrawn
      refine .entered r hnext hstill (List.mem_append_left _ hlock) (fun hr => hnew ((hpending.has_iff r _).mpr hr))
        (fun s => (henters.count_eq x _).trans (hpending.drawn s)) (fun y hy s => ⟨?_, ?_⟩) (fun s hr => ?_)
      · exact (henters.count_eq y _).trans (hpending.others y hy s)
      · exact (henters.others y hy _).trans (hpending.docs_eq y s)
      · change docs x (eff.apply ((c.tasks i).pending s)) = _
        rw [henters.entered _ (fun hr' => hr ((hpending.has_iff r s).mp hr')), hpending.docs_eq]
  | entered r hcode hheld hrow hnew hsum hothers hdocs =>
    rw [hc] at hcode
    obtain ⟨hsame, hnext⟩ | ⟨hidle, _⟩ | ⟨n, q, hdrawn, _⟩ := hcode _ eff hs
    · refine .entered r hnext (List.mem_append_right _ hheld) (List.mem_append_right _ hrow) hnew
        (fun s => ((hsame _).count_eq x).trans (hsum s)) (fun y hy s => ⟨?_, ?_⟩)
        (fun s hr => ((hsame _).docs_eq x).trans (hdocs s hr))
      · exact ((hsame _).count_eq y).trans (hothers y hy s).1
      · exact ((hsame _).docs_eq y).trans (hothers y hy s).2
    · cases hidle
    · cases hdrawn

end Tasks

variable [DecidableEq ι]

variable (docs count has label counterLock rowLock)

/-- Every series is without a gap, and every open transaction is on the way to
its next document. -/
structure AllNumbered (series : ι → χ) (c : Config ι σ κ ε α) : Prop where
  exclusive : Exclusive c
  contracts : Contracts (fun _ _ eff => Locking count counterLock eff ∧ Locking has rowLock eff) c
  counters : Owned count counterLock c
  rows : Owned has rowLock c
  numbering : ∀ i, Numbering docs count has label counterLock rowLock (series i) c.db (c.tasks i)
  gapless : ∀ x, Gapless docs count label x c.db

variable {docs count has label counterLock rowLock} {series : ι → χ} {c c' : Config ι σ κ ε α} {i : ι} {m : Move ε}

omit [DecidableEq ι] in
/-- A commit leaves every series as it is, or adds the next document to it. -/
theorem Numbering.committed (h : Numbering docs count has label counterLock rowLock (series i) c.db (c.tasks i))
    {k : Program σ κ ε α} (hc : (c.tasks i).code = .commit k) :
    k.Numbers docs count has label counterLock rowLock (series i) .idle ∧
      ∀ x, (docs x (c.view i) = docs x c.db ∧ count x (c.view i) = count x c.db) ∨
        (docs x (c.view i) = docs x c.db ++ [label (count x c.db + 1)] ∧ count x (c.view i) = count x c.db + 1) := by
  cases h with
  | idle hcode hpending =>
    rw [hc] at hcode
    exact ⟨hcode.2, fun x => Or.inl ⟨(hpending c.db).docs_eq x, (hpending c.db).count_eq x⟩⟩
  | drawn hcode hpending hheld =>
    rw [hc] at hcode
    exact absurd rfl (hcode.1 _)
  | entered r hcode hheld hrow hnew hsum hothers hdocs =>
    rw [hc] at hcode
    refine ⟨hcode.2, fun x => ?_⟩
    by_cases hx : x = series i
    · subst hx
      exact Or.inr ⟨hdocs c.db hnew, hsum c.db⟩
    · exact Or.inl ⟨(hothers x hx c.db).2, (hothers x hx c.db).1⟩

theorem Acted.documents_grow (hacted : Acted c i m c') (h : AllNumbered docs count has label counterLock rowLock series c)
    (x : χ) : docs x c.db <+: docs x c'.db := by
  cases hacted with
  | committed k hc =>
    obtain ⟨hsame, _⟩ | ⟨hnext, _⟩ := ((h.numbering i).committed hc).2 x
    · rw [land_db, hsame]
    · rw [land_db, hnext]
      exact List.prefix_append _ _
  | stay _ | rolled _ _ | queried _ _ | wrote _ _ _ _ _ _ => exact List.prefix_rfl

theorem Acted.allNumbered (hacted : Acted c i m c')
    (h : AllNumbered docs count has label counterLock rowLock series c) :
    AllNumbered docs count has label counterLock rowLock series c' := by
  refine ⟨hacted.exclusive h.exclusive, hacted.contracts h.contracts,
    hacted.owned (fun _ _ _ hl => hl.1) h.contracts h.counters,
    hacted.owned (fun _ _ _ hl => hl.2) h.contracts h.rows, fun j => ?_, fun x => ?_⟩
  · by_cases hj : j = i
    · subst hj
      have hnumbering := h.numbering j
      cases hacted with
      | stay _ => exact hnumbering
      | rolled _ e =>
        rw [set_tasks_self]
        exact numbering_rolled _ _ _ e
      | queried k hc =>
        rw [set_tasks_self]
        exact hnumbering.queried hc
      | wrote stmt k eff hc hs hb =>
        rw [set_tasks_self]
        exact hnumbering.wrote hc hs
      | committed k hc =>
        rw [land_tasks_self]
        exact .idle (hnumbering.committed hc).1 (fun _ => ⟨fun _ => rfl, fun _ => rfl, fun _ => Iff.rfl⟩)
    · rw [hacted.frame hj]
      refine (h.numbering j).of_db (fun hheld => ?_) (fun r hheld => ?_)
      · exact hacted.cell_of_held h.exclusive h.counters (Ne.symm hj) hheld
      · exact iff_of_eq (hacted.cell_of_held h.exclusive h.rows (Ne.symm hj) hheld)
  · have hx := h.gapless x
    cases hacted with
    | committed k hc =>
      obtain ⟨hdocs, hcount⟩ | ⟨hdocs, hcount⟩ := ((h.numbering i).committed hc).2 x
      · obtain ⟨n, hn, hold⟩ := hx
        exact ⟨n, hcount.trans hn, hdocs.trans hold⟩
      · exact hx.next hcount hdocs
    | stay _ | rolled _ _ | queried _ _ | wrote _ _ _ _ _ _ => exact hx

omit [DecidableEq ι] in
theorem allNumbered_start {calls : ι → Program σ κ ε α} {s : σ}
    (hcalls : ∀ i, (calls i).Numbers docs count has label counterLock rowLock (series i) .idle)
    (hs : ∀ x, Gapless docs count label x s) :
    AllNumbered docs count has label counterLock rowLock series (start s calls) :=
  ⟨exclusive_start s calls, fun i => (hcalls i).ensures s, owned_start _ _ s calls, owned_start _ _ s calls,
    fun i => .idle (hcalls i) (fun _ => ⟨fun _ => rfl, fun _ => rfl, fun _ => Iff.rfl⟩), hs⟩

variable [Fintype ι] [DecidableEq κ]

/-- In every run, every series stays without a gap and grows at its end only. -/
theorem allNumbered_run (h : AllNumbered docs count has label counterLock rowLock series c)
    (schedule : List (ι × Move ε)) :
    AllNumbered docs count has label counterLock rowLock series (c.run schedule) ∧
      ∀ x, docs x c.db <+: docs x (c.run schedule).db := by
  induction schedule generalizing c with
  | nil => exact ⟨h, fun _ => List.prefix_rfl⟩
  | cons e schedule ih =>
    have hacted := act_acted c e.1 e.2
    obtain ⟨hlast, hgrown⟩ := ih (hacted.allNumbered h)
    exact ⟨hlast, fun x => (hacted.documents_grow h x).trans (hgrown x)⟩

end Config

end HostPanel.Lib
