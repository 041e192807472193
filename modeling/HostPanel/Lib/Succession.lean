import Mathlib.Data.Finset.Card
import HostPanel.Lib.Interleaving

namespace HostPanel.Lib

variable {ι σ κ ε α χ ρ : Type}

variable (opens : χ → σ → Finset ρ) (has : ρ → σ → Prop) (lockOf : ρ → κ)

/-- A change that adds no row and opens none. -/
structure Narrows (f : σ → σ) : Prop where
  opens_subset : ∀ x s, opens x (f s) ⊆ opens x s
  has_iff : ∀ r s, has r (f s) ↔ has r s

section Narrows

variable {opens has}

theorem narrows_id : Narrows opens has id := ⟨fun _ _ => Finset.Subset.refl _, fun _ _ => Iff.rfl⟩

theorem Narrows.comp {f g : σ → σ} (hg : Narrows opens has g) (hf : Narrows opens has f) : Narrows opens has (g ∘ f) :=
  ⟨fun x s => (hg.opens_subset x (f s)).trans (hf.opens_subset x s), fun r s => (hg.has_iff r _).trans (hf.has_iff r s)⟩

end Narrows

variable [DecidableEq ρ]

/-- A change that adds one row, open, and opens no other. -/
structure Opens (x : χ) (r : ρ) (f : σ → σ) : Prop where
  has_iff : ∀ q, q ≠ r → ∀ s, has q (f s) ↔ has q s
  others : ∀ y, y ≠ x → ∀ s, opens y (f s) ⊆ opens y s
  self : ∀ s, opens x (f s) ⊆ insert r (opens x s)
  opened : ∀ s, ¬ has r s → r ∈ opens x (f s)

/-- How far a call has got that replaces the open row of a key. -/
inductive Search (ρ : Type) where
  | looking
  | found (r : ρ)
  | ready
  | stored

/-- A call that looks an open row of its key up, closes the one it found, and
only then stores a new one, which it commits at once. -/
def Program.Succeeds (x : χ) : Program σ κ ε α → Search ρ → Prop
  | ret _, _ => True
  | raise _, _ => True
  | query k, at_ => at_ = .looking ∧ ∀ v, (opens x v = ∅ ∧ (k v).Succeeds x .ready) ∨
      ∃ r ∈ opens x v, (k v).Succeeds x (.found r)
  | exec stmt k, at_ => ∀ v eff, stmt v = .ok eff →
      ((∀ y s, opens y (eff.apply s) = opens y s) ∧ (∀ r s, has r (eff.apply s) ↔ has r s) ∧
          (k (eff.apply v)).Succeeds x at_) ∨
        (∃ r, at_ = .found r ∧ Narrows opens has eff.apply ∧ (∀ s, r ∉ opens x (eff.apply s)) ∧
          (k (eff.apply v)).Succeeds x .ready) ∨
        ∃ r, at_ = .ready ∧ lockOf r ∈ eff.locks ∧ ¬ has r v ∧ Opens opens has x r eff.apply ∧
          (k (eff.apply v)).Succeeds x .stored
  | commit k, at_ => at_ = .stored ∧ ∃ a, k = ret a

namespace Config

/-- A call has opened a row of its key and not committed it. -/
def Opened (key : ι → χ) (c : Config ι σ κ ε α) (i : ι) : Prop := ¬ opens (key i) (c.view i) ⊆ opens (key i) c.db

/-- A write that opens a row of its key comes while the open rows of the key
are those its call read, and no other call has opened one. -/
def OpensAlone (key : ι → χ) (c : Config ι σ κ ε α) (i : ι) : Move ε → Prop :=
  Writes (fun seen view eff => ¬ opens (key i) (eff.apply view) ⊆ opens (key i) view →
    opens (key i) c.db ⊆ opens (key i) seen ∧ ∀ j, j ≠ i → opens (key i) (c.view j) ⊆ opens (key i) c.db) c i

instance [Fintype ι] [DecidableEq ι] [DecidableEq κ] (key : ι → χ) (c : Config ι σ κ ε α) (i : ι) (m : Move ε) :
    Decidable (OpensAlone opens key c i m) := by
  unfold OpensAlone
  infer_instance

/-- What a call has made of the open rows so far. -/
inductive Progress (x : χ) (db : σ) (t : Task σ κ ε α) : Prop
  | looking (hcode : t.code.Succeeds opens has lockOf x .looking) (hpending : Narrows opens has t.pending)
  | found (r : ρ) (hcode : t.code.Succeeds opens has lockOf x (.found r)) (hpending : Narrows opens has t.pending)
      (hseen : opens x t.seen ⊆ {r})
  | ready (hcode : t.code.Succeeds opens has lockOf x .ready) (hpending : Narrows opens has t.pending)
      (hclosed : ∀ s, ∀ q ∈ opens x t.seen, q ∉ opens x (t.pending s))
  | stored (r : ρ) (hcode : t.code.Succeeds opens has lockOf x .stored) (hheld : lockOf r ∈ t.held)
      (hnew : ¬ has r db) (hpending : Opens opens has x r t.pending)
      (hclosed : ∀ s, ∀ q ∈ opens x t.seen, q ∈ opens x (t.pending s) → q = r)
      (hseen : opens x db ⊆ opens x t.seen)

/-- Every key has one open row at most, and no two calls are about to commit
one. -/
structure OneEach [DecidableEq ι] (key : ι → χ) (c : Config ι σ κ ε α) : Prop where
  exclusive : Exclusive c
  owned : Owned has lockOf c
  progress : ∀ i, Progress opens has lockOf (key i) c.db (c.tasks i)
  alone : ∀ i j, i ≠ j → key i = key j → Opened opens key c i → ¬ Opened opens key c j
  single : ∀ x, (opens x c.db).card ≤ 1

end Config

variable {opens has lockOf}

theorem Opens.comp {f g : σ → σ} {x : χ} {r : ρ} (hg : Opens opens has x r g) (hf : Narrows opens has f) :
    Opens opens has x r (g ∘ f) := by
  refine ⟨fun q hq s => (hg.has_iff q hq _).trans (hf.has_iff q s),
    fun y hy s => (hg.others y hy _).trans (hf.opens_subset y s), fun s => ?_, fun s hr => ?_⟩
  · exact (hg.self (f s)).trans (Finset.insert_subset_insert r (hf.opens_subset x s))
  · exact hg.opened _ (fun hn => hr ((hf.has_iff r s).mp hn))

theorem Opens.left {f g : σ → σ} {x : χ} {r : ρ} (hf : Opens opens has x r f)
    (hg : ∀ y s, opens y (g s) = opens y s) (hrows : ∀ q s, has q (g s) ↔ has q s) :
    Opens opens has x r (g ∘ f) := by
  refine ⟨fun q hq s => (hrows q _).trans (hf.has_iff q hq s), fun y hy s => ?_, fun s => ?_, fun s hr => ?_⟩
  · exact (hg y _).subset.trans (hf.others y hy s)
  · exact (hg x _).subset.trans (hf.self s)
  · exact (hg x _).symm ▸ hf.opened s hr

namespace Program

/-- Such a call adds a row only with its lock. -/
theorem Succeeds.ensures {p : Program σ κ ε α} {x : χ} {at_ : Search ρ} (h : p.Succeeds opens has lockOf x at_)
    (seen : σ) : p.Ensures (fun _ _ eff => Config.Locking has lockOf eff) (fun _ _ => True) seen := by
  induction p generalizing at_ seen with
  | ret a => trivial
  | raise e => trivial
  | query k ih =>
    intro v
    obtain ⟨_, hnext⟩ | ⟨r, _, hnext⟩ := h.2 v
    · exact ih v hnext v
    · exact ih v hnext v
  | exec stmt k ih =>
    intro v eff he
    obtain ⟨_, hrows, hnext⟩ | ⟨r, _, hnarrows, _, hnext⟩ | ⟨r, _, hlock, _, hopens, hnext⟩ := h v eff he
    · exact ⟨fun q => Or.inr (fun s => propext (hrows q s)), ih _ hnext seen⟩
    · exact ⟨fun q => Or.inr (fun s => propext (hnarrows.has_iff q s)), ih _ hnext seen⟩
    · refine ⟨fun q => ?_, ih _ hnext seen⟩
      by_cases hq : q = r
      · exact Or.inl (hq ▸ hlock)
      · exact Or.inr (fun s => propext (hopens.has_iff q hq s))
  | commit k ih =>
    obtain ⟨_, a, rfl⟩ := h
    trivial

end Program

namespace Config

variable {key : ι → χ} {x : χ} {db db' : σ} {t : Task σ κ ε α} {c c' : Config ι σ κ ε α} {i : ι} {m : Move ε}

theorem progress_rolled (x : χ) (db : σ) (t : Task σ κ ε α) (e : ε) :
    Progress opens has lockOf x db (t.rollback e) := .looking trivial narrows_id

variable (hhas : ∀ x s r, r ∈ opens x s → has r s)

include hhas in
theorem Progress.of_db (h : Progress opens has lockOf x db t) (hrows : ∀ r, lockOf r ∈ t.held → (has r db' ↔ has r db))
    (hopens : ¬ opens x (t.pending db) ⊆ opens x db → opens x db' ⊆ opens x db) :
    Progress opens has lockOf x db' t := by
  cases h with
  | looking hcode hpending => exact .looking hcode hpending
  | found r hcode hpending hseen => exact .found r hcode hpending hseen
  | ready hcode hpending hclosed => exact .ready hcode hpending hclosed
  | stored r hcode hheld hnew hpending hclosed hseen =>
    have hopened : ¬ opens x (t.pending db) ⊆ opens x db := fun hsub => hnew (hhas _ _ _ (hsub (hpending.opened db hnew)))
    exact .stored r hcode hheld (fun hr => hnew ((hrows r hheld).mp hr)) hpending hclosed ((hopens hopened).trans hseen)

theorem Progress.queried (h : Progress opens has lockOf x c.db (c.tasks i)) (hsingle : (opens x c.db).card ≤ 1)
    {k : σ → Program σ κ ε α} (hc : (c.tasks i).code = .query k) :
    Progress opens has lockOf x c.db { c.tasks i with code := k (c.view i), seen := c.view i } := by
  cases h with
  | looking hcode hpending =>
    rw [hc] at hcode
    obtain ⟨hnone, hnext⟩ | ⟨r, hr, hnext⟩ := hcode.2 (c.view i)
    · refine .ready hnext hpending (fun s q hq => ?_)
      rw [hnone] at hq
      exact absurd hq (Finset.notMem_empty q)
    · refine .found r hnext hpending (fun q hq => Finset.mem_singleton.mpr ?_)
      have hsub : opens x (c.view i) ⊆ opens x c.db := hpending.opens_subset x c.db
      exact Finset.card_le_one.mp hsingle q (hsub hq) r (hsub hr)
  | found r hcode hpending hseen =>
    rw [hc] at hcode
    cases hcode.1
  | ready hcode hpending hclosed =>
    rw [hc] at hcode
    cases hcode.1
  | stored r hcode hheld hnew hpending hclosed hseen =>
    rw [hc] at hcode
    cases hcode.1

include hhas in
theorem Progress.wrote (h : Progress opens has lockOf (key i) c.db (c.tasks i)) {stmt : σ → Except ε (Effect σ κ)}
    {k : σ → Program σ κ ε α} {eff : Effect σ κ} (hc : (c.tasks i).code = .exec stmt k)
    (hs : stmt (c.view i) = .ok eff)
    (halone : ¬ opens (key i) (eff.apply (c.view i)) ⊆ opens (key i) (c.view i) →
      opens (key i) c.db ⊆ opens (key i) (c.tasks i).seen) :
    Progress opens has lockOf (key i) c.db { c.tasks i with
      code := k (eff.apply (c.view i))
      pending := eff.apply ∘ (c.tasks i).pending
      held := eff.locks ++ (c.tasks i).held } := by
  cases h with
  | looking hcode hpending =>
    rw [hc] at hcode
    obtain ⟨hsame, hrows, hnext⟩ | ⟨r, hat, _⟩ | ⟨r, hat, _⟩ := hcode _ eff hs
    · have hkeeps : Narrows opens has eff.apply := ⟨fun y s => (hsame y s).subset, hrows⟩
      exact .looking hnext (hkeeps.comp hpending)
    · cases hat
    · cases hat
  | found r hcode hpending hseen =>
    rw [hc] at hcode
    obtain ⟨hsame, hrows, hnext⟩ | ⟨q, hat, hnarrows, hshut, hnext⟩ | ⟨q, hat, _⟩ := hcode _ eff hs
    · have hkeeps : Narrows opens has eff.apply := ⟨fun y s => (hsame y s).subset, hrows⟩
      exact .found r hnext (hkeeps.comp hpending) hseen
    · cases hat
      refine .ready hnext (hnarrows.comp hpending) (fun s q hq => ?_)
      rw [Finset.mem_singleton.mp (hseen hq)]
      exact hshut _
    · cases hat
  | ready hcode hpending hclosed =>
    rw [hc] at hcode
    obtain ⟨hsame, hrows, hnext⟩ | ⟨q, hat, _⟩ | ⟨q, hat, hlock, hnew, hopens, hnext⟩ := hcode _ eff hs
    · have hkeeps : Narrows opens has eff.apply := ⟨fun y s => (hsame y s).subset, hrows⟩
      refine .ready hnext (hkeeps.comp hpending) (fun s q hq hin => ?_)
      exact hclosed s q hq (hsame _ _ ▸ hin)
    · cases hat
    · have hfresh : ¬ has q c.db := fun hq => hnew ((hpending.has_iff q c.db).mpr hq)
      have hfires : ¬ opens (key i) (eff.apply (c.view i)) ⊆ opens (key i) (c.view i) :=
        fun hsub => hnew (hhas _ _ _ (hsub (hopens.opened _ hnew)))
      refine .stored q hnext (List.mem_append_left _ hlock) hfresh (hopens.comp hpending) (fun s r hr hin => ?_)
        (halone hfires)
      obtain rfl | hold := Finset.mem_insert.mp (hopens.self _ hin)
      · rfl
      · exact absurd hold (hclosed s r hr)
  | stored r hcode hheld hnew hpending hclosed hseen =>
    rw [hc] at hcode
    obtain ⟨hsame, hrows, hnext⟩ | ⟨q, hat, _⟩ | ⟨q, hat, _⟩ := hcode _ eff hs
    · refine .stored r hnext (List.mem_append_right _ hheld) hnew (hpending.left hsame hrows) (fun s q hq hin => ?_) hseen
      exact hclosed s q hq (hsame _ _ ▸ hin)
    · cases hat
    · cases hat

include hhas in
theorem Progress.opened (h : Progress opens has lockOf x db t) (hopen : ¬ opens x (t.pending db') ⊆ opens x db') :
    ¬ opens x (t.pending db) ⊆ opens x db := by
  cases h with
  | looking hcode hpending => exact absurd (hpending.opens_subset x db') hopen
  | found r hcode hpending hseen => exact absurd (hpending.opens_subset x db') hopen
  | ready hcode hpending hclosed => exact absurd (hpending.opens_subset x db') hopen
  | stored r hcode hheld hnew hpending hclosed hseen =>
    exact fun hsub => hnew (hhas _ _ _ (hsub (hpending.opened db hnew)))

variable [DecidableEq ι]

theorem oneEach_start {calls : ι → Program σ κ ε α} {s : σ}
    (hcalls : ∀ i, (calls i).Succeeds opens has lockOf (key i) .looking) (hs : ∀ x, (opens x s).card ≤ 1) :
    OneEach opens has lockOf key (start s calls) :=
  ⟨exclusive_start s calls, owned_start has lockOf s calls, fun i => .looking (hcalls i) narrows_id,
    fun _ _ _ _ hi => absurd (Finset.Subset.refl _) hi, hs⟩

/-- A move that commits nothing. -/
theorem OneEach.of_task (h : OneEach opens has lockOf key c) (hacted : Acted c i m c') (howned : Owned has lockOf c')
    (hdb : c'.db = c.db) (hprogress : Progress opens has lockOf (key i) c.db (c'.tasks i))
    (hopened : Opened opens key c' i → Opened opens key c i ∨ ∀ j, j ≠ i → key j = key i → ¬ Opened opens key c j) :
    OneEach opens has lockOf key c' := by
  have hother : ∀ j, j ≠ i → (Opened opens key c' j ↔ Opened opens key c j) := by
    intro j hj
    rw [Opened, Opened, view, view, hacted.frame hj, hdb]
  have hkey : ∀ j, j ≠ i → key j = key i → Opened opens key c' i → ¬ Opened opens key c' j := by
    intro j hj hkey hi
    rw [hother j hj]
    obtain hbefore | hnone := hopened hi
    · exact h.alone i j (Ne.symm hj) hkey.symm hbefore
    · exact hnone j hj hkey
  refine ⟨hacted.exclusive h.exclusive, howned, fun j => ?_, fun j j' hne hsame hj => ?_, fun x => hdb ▸ h.single x⟩
  · rw [hdb]
    by_cases hj : j = i
    · exact hj ▸ hprogress
    · rw [hacted.frame hj]
      exact h.progress j
  · by_cases hji : j = i
    · subst hji
      exact hkey j' (Ne.symm hne) hsame.symm hj
    · by_cases hj'i : j' = i
      · subst hj'i
        exact fun hj' => hkey j hne hsame hj' hj
      · rw [hother j' hj'i]
        exact h.alone j j' hne hsame ((hother j hji).mp hj)

include hhas in
theorem OneEach.landed (h : OneEach opens has lockOf key c) {k : Program σ κ ε α} (hc : (c.tasks i).code = .commit k)
    (howned : Owned has lockOf (c.land i k)) : OneEach opens has lockOf key (c.land i k) := by
  have hacted : Acted c i .advance (c.land i k) := .committed k hc
  cases h.progress i with
  | looking hcode _ =>
    rw [hc] at hcode
    cases hcode.1
  | found r hcode _ _ =>
    rw [hc] at hcode
    cases hcode.1
  | ready hcode _ _ =>
    rw [hc] at hcode
    cases hcode.1
  | stored r hcode hheld hnew hpending hclosed hseen =>
    rw [hc] at hcode
    obtain ⟨_, a, rfl⟩ := hcode
    have hopened : Opened opens key c i := fun hsub => hnew (hhas _ _ _ (hsub (hpending.opened c.db hnew)))
    have hself : ∀ q ∈ opens (key i) (c.view i), q = r := by
      intro q hq
      obtain rfl | hold := Finset.mem_insert.mp (hpending.self c.db hq)
      · rfl
      · exact hclosed c.db q (hseen hold) hq
    -- A call that has opened a row of another key sees no more open rows of it.
    have hprogress : ∀ j, j ≠ i → Progress opens has lockOf (key j) (c.view i) (c.tasks j) := by
      intro j hj
      refine (h.progress j).of_db hhas (fun q hq => ?_) (fun hopen => ?_)
      · exact iff_of_eq (hacted.cell_of_held h.exclusive h.owned (Ne.symm hj) hq)
      · have hne : key j ≠ key i := fun he => h.alone i j (Ne.symm hj) he.symm hopened hopen
        exact hpending.others _ hne c.db
    have hbefore : ∀ j, Opened opens key (c.land i (.ret a)) j → Opened opens key c j := by
      intro j hj
      by_cases hji : j = i
      · subst hji
        exact hopened
      · have hview : (c.land i (.ret a)).view j = (c.tasks j).pending (c.view i) := by
          rw [view, land_tasks_ne c _ hji, land_db]
        rw [Opened, hview] at hj
        exact (h.progress j).opened hhas hj
    refine ⟨hacted.exclusive h.exclusive, howned, fun j => ?_, fun j j' hne hsame hj hj' => ?_, fun x => ?_⟩
    · by_cases hj : j = i
      · subst hj
        rw [land_tasks_self]
        exact .looking trivial narrows_id
      · rw [land_tasks_ne c _ hj]
        exact hprogress j hj
    · exact h.alone j j' hne hsame (hbefore j hj) (hbefore j' hj')
    · by_cases hx : x = key i
      · subst hx
        exact Finset.card_le_one.mpr (fun q hq q' hq' => (hself q hq).trans (hself q' hq').symm)
      · exact (Finset.card_le_card (hpending.others x hx c.db)).trans (h.single x)

include hhas in
theorem Acted.oneEach (hacted : Acted c i m c') (h : OneEach opens has lockOf key c) (howned : Owned has lockOf c')
    (halone : OpensAlone opens key c i m) : OneEach opens has lockOf key c' := by
  have hprogress := h.progress i
  cases hacted with
  | stay _ => exact h
  | rolled m e =>
    refine h.of_task (.rolled m e) howned rfl ?_ ?_
    · rw [set_tasks_self]
      exact progress_rolled _ _ _ e
    · rw [Opened, view, set_tasks_self]
      exact fun hopen => absurd (Finset.Subset.refl _) hopen
  | queried k hc =>
    refine h.of_task (.queried k hc) howned rfl ?_ ?_
    · rw [set_tasks_self]
      exact hprogress.queried (h.single _) hc
    · rw [Opened, view, set_tasks_self]
      exact Or.inl
  | wrote stmt k eff hc hs hb =>
    have hfires := halone stmt k eff rfl hc hs hb
    refine h.of_task (.wrote stmt k eff hc hs hb) howned rfl ?_ ?_
    · rw [set_tasks_self]
      exact hprogress.wrote hhas hc hs (fun hopens => (hfires hopens).1)
    · rw [Opened, view, set_tasks_self]
      intro hopen
      by_cases hbefore : opens (key i) (c.view i) ⊆ opens (key i) c.db
      · refine Or.inr (fun j hj hkey => ?_)
        have hj := (hfires (fun hsub => hopen (hsub.trans hbefore))).2 j hj
        rw [← hkey] at hj
        exact not_not.mpr hj
      · exact Or.inl hbefore
  | committed k hc => exact h.landed hhas hc howned

variable [Fintype ι] [DecidableEq κ]

include hhas in
/-- In every run whose calls open rows alone, no key ever has two open rows. -/
theorem oneEach_run {calls : ι → Program σ κ ε α} {s : σ}
    (hcalls : ∀ i, (calls i).Succeeds opens has lockOf (key i) .looking)
    (hs : ∀ x, (opens x s).card ≤ 1) {schedule : List (ι × Move ε)}
    (halone : Along (OpensAlone opens key) (start s calls) schedule) :
    OneEach opens has lockOf key ((start s calls).run schedule) := by
  have hinv : Contracts (fun _ _ eff => Locking has lockOf eff) ((start s calls).run schedule) ∧
      OneEach opens has lockOf key ((start s calls).run schedule) := by
    refine runFrom_inv (I := fun c => Contracts (fun _ _ eff => Locking has lockOf eff) c ∧
      OneEach opens has lockOf key c) ?_ ⟨fun i => (hcalls i).ensures s, oneEach_start hcalls hs⟩ halone
    rintro c ⟨i, m⟩ ⟨hcontracts, hone⟩ halone
    have hacted := act_acted c i m
    have howned := hacted.owned (fun _ _ _ hl => hl) hcontracts hone.owned
    exact ⟨hacted.contracts hcontracts, hacted.oneEach hhas hone howned halone⟩
  exact hinv.2

end Config

end HostPanel.Lib
