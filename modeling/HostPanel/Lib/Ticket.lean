import HostPanel.Lib.Rely

namespace HostPanel.Lib

variable {ι σ κ ε α β χ : Type}

variable (cell : χ → σ → β) (lockOf : χ → κ) (Open : β → Prop)

/-- A call that commits once, and not before it has locked its ticket and used
it up. It sees only tables that meet `I`; `done` tells whether the ticket was
used. -/
def Program.Spends (I : σ → Prop) (x : χ) : Program σ κ ε α → Bool → Prop
  | ret _, _ => True
  | raise _, _ => True
  | query k, done => ∀ v, I v → (k v).Spends I x done
  | exec stmt k, done => ∀ v eff, I v → stmt v = .ok eff →
      ((∀ y s, cell y (eff.apply s) = cell y s) ∧ (k (eff.apply v)).Spends I x done) ∨
        (lockOf x ∈ eff.locks ∧ (∀ s, ¬ Open (cell x (eff.apply s))) ∧
          (∀ y, y ≠ x → ∀ s, cell y (eff.apply s) = cell y s) ∧ (k (eff.apply v)).Spends I x true)
  | commit k, done => done = true ∧ ∃ a, k = ret a

namespace Config

/-- A write that locks a ticket finds it open. -/
abbrev FindsOpen : Config ι σ κ ε α → ι → Move ε → Prop :=
  Writes (fun _ view eff => ∀ x, lockOf x ∈ eff.locks → Open (cell x view))

/-- How far a call has got with its ticket. -/
inductive Stage (I : σ → Prop) (x : χ) (db : σ) (t : Task σ κ ε α) : Prop
  | unused (hcode : t.code.Spends cell lockOf Open I x false) (hpending : ∀ y s, cell y (t.pending s) = cell y s)
      (hcommits : t.commits = 0)
  | spending (hcode : t.code.Spends cell lockOf Open I x true) (hheld : lockOf x ∈ t.held) (hopen : Open (cell x db))
      (hused : ∀ s, ¬ Open (cell x (t.pending s))) (hothers : ∀ y, y ≠ x → ∀ s, cell y (t.pending s) = cell y s)
      (hcommits : t.commits = 0)
  | used (hcode : t.code.finished = true) (hpending : ∀ y s, cell y (t.pending s) = cell y s)
      (hclosed : ¬ Open (cell x db)) (hcommits : t.commits = 1)

/-- Each ticket was used by one call at most. -/
structure OnceEach [DecidableEq ι] (I : σ → Prop) (ticket : ι → χ) (c : Config ι σ κ ε α) : Prop where
  exclusive : Exclusive c
  stages : ∀ i, Stage cell lockOf Open I (ticket i) c.db (c.tasks i)
  once : ∀ i j, 0 < (c.tasks i).commits → 0 < (c.tasks j).commits → ticket i = ticket j → i = j

variable {cell lockOf Open} {I : σ → Prop}

namespace Stage

variable {x : χ} {db db' : σ} {t : Task σ κ ε α}

theorem commits_le (h : Stage cell lockOf Open I x db t) : t.commits ≤ 1 := by
  cases h with
  | unused hcode hpending hcommits => omega
  | spending hcode hheld hopen hused hothers hcommits => omega
  | used hcode hpending hclosed hcommits => omega

theorem closed (h : Stage cell lockOf Open I x db t) (hcommits : 0 < t.commits) : ¬ Open (cell x db) := by
  cases h with
  | unused _ _ hnone => omega
  | spending _ _ _ _ _ hnone => omega
  | used _ _ hclosed _ => exact hclosed

theorem rolled (h : Stage cell lockOf Open I x db t) (e : ε) : Stage cell lockOf Open I x db (t.rollback e) := by
  cases h with
  | unused hcode hpending hcommits => exact .unused trivial (fun _ _ => rfl) hcommits
  | spending hcode hheld hopen hused hothers hcommits => exact .unused trivial (fun _ _ => rfl) hcommits
  | used hcode hpending hclosed hcommits => exact .used rfl (fun _ _ => rfl) hclosed hcommits

theorem of_db (h : Stage cell lockOf Open I x db t) (hheld : lockOf x ∈ t.held → Open (cell x db) → Open (cell x db'))
    (hclosed : ¬ Open (cell x db) → ¬ Open (cell x db')) : Stage cell lockOf Open I x db' t := by
  cases h with
  | unused hcode hpending hcommits => exact .unused hcode hpending hcommits
  | spending hcode hlock hopen hused hothers hcommits =>
    exact .spending hcode hlock (hheld hlock hopen) hused hothers hcommits
  | used hcode hpending hshut hcommits => exact .used hcode hpending (hclosed hshut) hcommits

variable {c : Config ι σ κ ε α} {i : ι}

theorem queried (h : Stage cell lockOf Open I x c.db (c.tasks i)) (hview : I (c.view i))
    {k : σ → Program σ κ ε α} (hc : (c.tasks i).code = .query k) :
    Stage cell lockOf Open I x c.db { c.tasks i with code := k (c.view i), seen := c.view i } := by
  cases h with
  | unused hcode hpending hcommits =>
    rw [hc] at hcode
    exact .unused (hcode _ hview) hpending hcommits
  | spending hcode hheld hopen hused hothers hcommits =>
    rw [hc] at hcode
    exact .spending (hcode _ hview) hheld hopen hused hothers hcommits
  | used hcode hpending hclosed hcommits =>
    rw [hc] at hcode
    cases hcode

theorem wrote (h : Stage cell lockOf Open I x c.db (c.tasks i)) (hview : I (c.view i))
    {stmt : σ → Except ε (Effect σ κ)} {k : σ → Program σ κ ε α} {eff : Effect σ κ}
    (hc : (c.tasks i).code = .exec stmt k) (hs : stmt (c.view i) = .ok eff)
    (hopen : lockOf x ∈ eff.locks → Open (cell x (c.view i))) :
    Stage cell lockOf Open I x c.db { c.tasks i with
      code := k (eff.apply (c.view i))
      pending := eff.apply ∘ (c.tasks i).pending
      held := eff.locks ++ (c.tasks i).held } := by
  cases h with
  | unused hcode hpending hcommits =>
    rw [hc] at hcode
    obtain ⟨hsame, hnext⟩ | ⟨hlock, hused, hothers, hnext⟩ := hcode _ eff hview hs
    · exact .unused hnext (fun y s => (hsame y _).trans (hpending y s)) hcommits
    · have hdb : Open (cell x c.db) := hpending x c.db ▸ hopen hlock
      exact .spending hnext (List.mem_append_left _ hlock) hdb (fun s => hused _)
        (fun y hy s => (hothers y hy _).trans (hpending y s)) hcommits
  | spending hcode hheld hdb hused hothers hcommits =>
    rw [hc] at hcode
    have hstill := List.mem_append_right eff.locks hheld
    obtain ⟨hsame, hnext⟩ | ⟨_, hagain, hrest, hnext⟩ := hcode _ eff hview hs
    · refine .spending hnext hstill hdb (fun s => ?_) (fun y hy s => (hsame y _).trans (hothers y hy s)) hcommits
      change ¬ Open (cell x (eff.apply ((c.tasks i).pending s)))
      rw [hsame]
      exact hused s
    · exact .spending hnext hstill hdb (fun s => hagain _) (fun y hy s => (hrest y hy _).trans (hothers y hy s)) hcommits
  | used hcode hpending hclosed hcommits =>
    rw [hc] at hcode
    cases hcode

end Stage

variable [DecidableEq ι]

section Steps

variable {ticket : ι → χ} {c c' : Config ι σ κ ε α} {i : ι} {m : Move ε}

theorem onceEach_start {calls : ι → Program σ κ ε α} (hcalls : ∀ i, (calls i).Spends cell lockOf Open I (ticket i) false)
    (s : σ) : OnceEach cell lockOf Open I ticket (start s calls) := by
  refine ⟨exclusive_start s calls, fun i => .unused (hcalls i) (fun _ _ => rfl) rfl, fun i j hi => ?_⟩
  exact absurd hi (lt_irrefl 0)

/-- A move that commits nothing. -/
theorem OnceEach.of_task (h : OnceEach cell lockOf Open I ticket c) (hacted : Acted c i m c') (hdb : c'.db = c.db)
    (hcommits : (c'.tasks i).commits = (c.tasks i).commits)
    (hstage : Stage cell lockOf Open I (ticket i) c.db (c'.tasks i)) : OnceEach cell lockOf Open I ticket c' := by
  have hsame : ∀ j, (c'.tasks j).commits = (c.tasks j).commits := by
    intro j
    by_cases hj : j = i
    · rw [hj]
      exact hcommits
    · rw [hacted.frame hj]
  refine ⟨hacted.exclusive h.exclusive, fun j => ?_, fun j j' hj hj' => ?_⟩
  · rw [hdb]
    by_cases hj : j = i
    · rw [hj]
      exact hstage
    · rw [hacted.frame hj]
      exact h.stages j
  · rw [hsame] at hj hj'
    exact h.once j j' hj hj'

theorem OnceEach.landed (h : OnceEach cell lockOf Open I ticket c) {k : Program σ κ ε α}
    (hc : (c.tasks i).code = .commit k) : OnceEach cell lockOf Open I ticket (c.land i k) := by
  have hexclusive := (Acted.committed k hc).exclusive h.exclusive
  cases h.stages i with
  | unused hcode hpending hcommits =>
    rw [hc] at hcode
    exact absurd hcode.1 Bool.false_ne_true
  | used hcode hpending hclosed hcommits =>
    rw [hc] at hcode
    cases hcode
  | spending hcode hheld hopen hused hothers hcommits =>
    rw [hc] at hcode
    obtain ⟨_, a, rfl⟩ := hcode
    have hunchanged : ∀ y, y ≠ ticket i → cell y (c.land i (.ret a)).db = cell y c.db := fun y hy => hothers y hy c.db
    have hshut : ¬ Open (cell (ticket i) (c.land i (.ret a)).db) := hused c.db
    -- Another call that committed with this ticket would have shut it before.
    have hnone : ∀ j, j ≠ i → 0 < (c.tasks j).commits → ticket j ≠ ticket i :=
      fun j _ hj he => (h.stages j).closed hj (he ▸ hopen)
    refine ⟨hexclusive, fun j => ?_, fun j j' hj hj' he => ?_⟩
    · by_cases hj : j = i
      · subst hj
        rw [land_tasks_self]
        exact .used rfl (fun _ _ => rfl) hshut (congrArg Nat.succ hcommits)
      · rw [land_tasks_ne c _ hj]
        refine (h.stages j).of_db (fun hlock hthis => ?_) (fun hthis => ?_)
        · have hne : ticket j ≠ ticket i := fun he => h.exclusive j i hj _ hlock (he ▸ hheld)
          rw [hunchanged _ hne]
          exact hthis
        · by_cases he : ticket j = ticket i
          · rw [he]
            exact hshut
          · rw [hunchanged _ he]
            exact hthis
    · by_cases hji : j = i
      · by_cases hj'i : j' = i
        · rw [hji, hj'i]
        · rw [land_tasks_ne c _ hj'i] at hj'
          exact absurd (he.symm.trans (congrArg ticket hji)) (hnone j' hj'i hj')
      · rw [land_tasks_ne c _ hji] at hj
        by_cases hj'i : j' = i
        · exact absurd (he.trans (congrArg ticket hj'i)) (hnone j hji hj)
        · rw [land_tasks_ne c _ hj'i] at hj'
          exact h.once j j' hj hj' he

theorem Acted.onceEach (hacted : Acted c i m c') (h : OnceEach cell lockOf Open I ticket c) (hview : I (c.view i))
    (hopen : FindsOpen cell lockOf Open c i m) : OnceEach cell lockOf Open I ticket c' := by
  have hstage := h.stages i
  cases hacted with
  | stay _ => exact h
  | rolled m e =>
    refine h.of_task (.rolled m e) rfl ?_ ?_
    · rw [set_tasks_self]
      rfl
    · rw [set_tasks_self]
      exact hstage.rolled e
  | queried k hc =>
    refine h.of_task (.queried k hc) rfl ?_ ?_
    · rw [set_tasks_self]
    · rw [set_tasks_self]
      exact hstage.queried hview hc
  | wrote stmt k eff hc hs hb =>
    refine h.of_task (.wrote stmt k eff hc hs hb) rfl ?_ ?_
    · rw [set_tasks_self]
    · rw [set_tasks_self]
      exact hstage.wrote hview hc hs (fun hlock => hopen stmt k eff rfl hc hs hb _ hlock)
  | committed k hc => exact h.landed hc

end Steps

variable [Fintype ι] [DecidableEq κ] (rel : σ → σ → Prop)

/-- In every run whose writes find their tickets open, no ticket is used
twice. -/
theorem onceEach_run (hrefl : ∀ s, rel s s) (htrans : ∀ s t u, rel s t → rel t u → rel s u)
    {ticket : ι → χ} {calls : ι → Program σ κ ε α} {s : σ} (hgrows : ∀ i, (calls i).Guarantees rel)
    (hview : ∀ v, rel s v → I v) (hcalls : ∀ i, (calls i).Spends cell lockOf Open I (ticket i) false)
    {schedule : List (ι × Move ε)} (hopen : Along (FindsOpen cell lockOf Open) (start s calls) schedule) :
    OnceEach cell lockOf Open I ticket ((start s calls).run schedule) := by
  have hinv : ((start s calls).run schedule).Grows rel ∧ rel s ((start s calls).run schedule).db ∧
      OnceEach cell lockOf Open I ticket ((start s calls).run schedule) := by
    refine runFrom_inv (I := fun c => c.Grows rel ∧ rel s c.db ∧ OnceEach cell lockOf Open I ticket c) ?_
      ⟨grows_start hrefl hgrows s, hrefl s, onceEach_start hcalls s⟩ hopen
    rintro c ⟨i, m⟩ ⟨hg, hdb, honce⟩ hw
    have hacted := act_acted c i m
    obtain ⟨hg', hstep⟩ := hacted.grows hrefl htrans hg
    have hseen : I (c.view i) := hview _ (htrans _ _ _ hdb (hg.pending i c.db))
    exact ⟨hg', htrans _ _ _ hdb hstep, hacted.onceEach honce hseen hw⟩
  exact hinv.2.2

end Config

end HostPanel.Lib
