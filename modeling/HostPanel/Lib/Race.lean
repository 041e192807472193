import HostPanel.Lib.Admission
import HostPanel.Lib.Faults

namespace HostPanel.Lib

variable {ι σ κ ε α β : Type}

variable (taken : σ → Prop) (seat : κ)

/-- A call that commits once at most, as the last thing it does, and only after
it has locked the seat, which it found free. -/
def Program.Contends : Program σ κ ε α → Bool → Prop
  | ret _, _ => True
  | raise _, _ => True
  | query k, seated => ∀ v, (k v).Contends seated
  | exec stmt k, seated => ∀ v eff, stmt v = .ok eff → (∀ s, taken s → taken (eff.apply s)) ∧
      ((k (eff.apply v)).Contends seated ∨
        (seat ∈ eff.locks ∧ ¬ taken v ∧ (k (eff.apply v)).Contends true))
  | commit k, seated => seated = true ∧ ∃ a, k = ret a

namespace Program

variable {taken seat}

theorem Guarantees.contends_bind {p : Program σ κ ε α} {f : α → Program σ κ ε β} {seated : Bool}
    (hp : p.Guarantees (fun s t => taken s → taken t)) (hu : p.Uncommitted)
    (hf : ∀ a, (f a).Contends taken seat seated) : (p >>= f).Contends taken seat seated := by
  induction p with
  | ret a => exact hf a
  | raise e => trivial
  | query k ih => exact fun v => ih v (hp v) (hu v)
  | exec stmt k ih => exact fun v eff hs => ⟨hp.1 v eff hs, Or.inl (ih _ (hp.2 _) (hu _))⟩
  | commit k => exact hu.elim

end Program

namespace Config

/-- How far a call has got with the seat. -/
inductive Contender (t : Task σ κ ε α) : Prop
  | standing (hcode : t.code.Contends taken seat false) (hkeeps : ∀ s, taken s → taken (t.pending s))
  | seated (hcode : t.code.Contends taken seat true) (hkeeps : ∀ s, taken s → taken (t.pending s))
      (hheld : seat ∈ t.held)

/-- The call goes on as it would alone on `s`, or it threw. -/
def Follows (p : Program σ κ ε α) (s : σ) (t : Task σ κ ε α) : Prop :=
  t.code.eval s (t.pending s) = p.eval s s ∨ ∃ e, t.code = .raise e

/-- Nobody has committed, and every call runs as it would alone; or one has, with
the seat and the result that it would leave alone, and nobody else is to. -/
inductive Outcome (calls : ι → Program σ κ ε α) (s : σ) (c : Config ι σ κ ε α) : Prop
  | running (hdb : c.db = s) (hcommits : ∀ i, (c.tasks i).commits = 0)
      (hfollows : ∀ i, Follows (calls i) s (c.tasks i))
  | won (w : ι) (a : α) (c' : σ) (hwinner : (calls w).eval s s = .ok (a, c', c.db)) (hcode : (c.tasks w).code = .ret a)
      (htaken : taken c.db)
      (hstanding : ∀ i, (c.tasks i).code.Contends taken seat false ∧ ∀ s, taken s → taken ((c.tasks i).pending s))
      (hcommits : ∀ i, i ≠ w → (c.tasks i).commits = 0)

structure Race [DecidableEq ι] (calls : ι → Program σ κ ε α) (s : σ) (c : Config ι σ κ ε α) : Prop where
  exclusive : Exclusive c
  contenders : ∀ i, Contender taken seat (c.tasks i)
  outcome : Outcome taken seat calls s c

variable {taken seat} {c c' : Config ι σ κ ε α} {i : ι} {m : Move ε}

theorem Contender.keeps {t : Task σ κ ε α} (h : Contender taken seat t) : ∀ s, taken s → taken (t.pending s) := by
  cases h with
  | standing hcode hkeeps => exact hkeeps
  | seated hcode hkeeps hheld => exact hkeeps

theorem contender_rolled (t : Task σ κ ε α) (e : ε) : Contender taken seat (t.rollback e) :=
  .standing trivial (fun _ h => h)

theorem Contender.queried (h : Contender taken seat (c.tasks i)) {k : σ → Program σ κ ε α}
    (hc : (c.tasks i).code = .query k) :
    Contender taken seat { c.tasks i with code := k (c.view i), seen := c.view i } := by
  cases h with
  | standing hcode hkeeps =>
    rw [hc] at hcode
    exact .standing (hcode _) hkeeps
  | seated hcode hkeeps hheld =>
    rw [hc] at hcode
    exact .seated (hcode _) hkeeps hheld

theorem Contender.wrote (h : Contender taken seat (c.tasks i)) {stmt : σ → Except ε (Effect σ κ)}
    {k : σ → Program σ κ ε α} {eff : Effect σ κ} (hc : (c.tasks i).code = .exec stmt k)
    (hs : stmt (c.view i) = .ok eff) :
    Contender taken seat { c.tasks i with
      code := k (eff.apply (c.view i))
      pending := eff.apply ∘ (c.tasks i).pending
      held := eff.locks ++ (c.tasks i).held } := by
  have hkeeps := h.keeps
  cases h with
  | standing hcode _ =>
    rw [hc] at hcode
    obtain ⟨hkeep, hnext | ⟨hlock, _, hnext⟩⟩ := hcode _ eff hs
    · exact .standing hnext (fun s hs => hkeep _ (hkeeps s hs))
    · exact .seated hnext (fun s hs => hkeep _ (hkeeps s hs)) (List.mem_append_left _ hlock)
  | seated hcode _ hheld =>
    rw [hc] at hcode
    obtain ⟨hkeep, hnext | ⟨hlock, _, hnext⟩⟩ := hcode _ eff hs
    · exact .seated hnext (fun s hs => hkeep _ (hkeeps s hs)) (List.mem_append_right _ hheld)
    · exact .seated hnext (fun s hs => hkeep _ (hkeeps s hs)) (List.mem_append_left _ hlock)

theorem Follows.queried {p : Program σ κ ε α} (h : Follows p c.db (c.tasks i)) {k : σ → Program σ κ ε α}
    (hc : (c.tasks i).code = .query k) :
    Follows p c.db { c.tasks i with code := k (c.view i), seen := c.view i } := by
  obtain h | ⟨e, he⟩ := h
  · rw [hc] at h
    exact Or.inl h
  · cases hc.symm.trans he

theorem Follows.wrote {p : Program σ κ ε α} (h : Follows p c.db (c.tasks i)) {stmt : σ → Except ε (Effect σ κ)}
    {k : σ → Program σ κ ε α} {eff : Effect σ κ} (hc : (c.tasks i).code = .exec stmt k)
    (hs : stmt (c.view i) = .ok eff) :
    Follows p c.db { c.tasks i with
      code := k (eff.apply (c.view i))
      pending := eff.apply ∘ (c.tasks i).pending
      held := eff.locks ++ (c.tasks i).held } := by
  obtain h | ⟨e, he⟩ := h
  · have hs' : stmt ((c.tasks i).pending c.db) = .ok eff := hs
    rw [hc, Program.eval_exec, hs'] at h
    exact Or.inl h
  · cases hc.symm.trans he

variable [DecidableEq ι] {calls : ι → Program σ κ ε α} {s : σ}

/-- Once somebody has won, no call is seated any more. -/
theorem Outcome.won_of_task {w : ι} {a : α} {b : σ} (hwinner : (calls w).eval s s = .ok (a, b, c.db))
    (hcode : (c.tasks w).code = .ret a) (htaken : taken c.db)
    (hstanding : ∀ i, (c.tasks i).code.Contends taken seat false ∧ ∀ s, taken s → taken ((c.tasks i).pending s))
    (hcommits : ∀ i, i ≠ w → (c.tasks i).commits = 0) {t : Task σ κ ε α}
    (hi : ∀ a, (c.tasks i).code ≠ .ret a) (ht : t.code.Contends taken seat false)
    (hkeeps : ∀ s, taken s → taken (t.pending s)) (hsame : t.commits = (c.tasks i).commits) :
    Outcome taken seat calls s (c.set i t) := by
  have hiw : w ≠ i := by
    rintro rfl
    exact hi a hcode
  refine .won w a b hwinner ?_ htaken (fun j => ?_) (fun j hj => ?_)
  · rw [set_tasks_ne c t hiw]
    exact hcode
  · by_cases hj : j = i
    · rw [hj, set_tasks_self]
      exact ⟨ht, hkeeps⟩
    · rw [set_tasks_ne c t hj]
      exact hstanding j
  · by_cases hji : j = i
    · rw [hji, set_tasks_self, hsame]
      exact hcommits i (Ne.symm hiw)
    · rw [set_tasks_ne c t hji]
      exact hcommits j hj

/-- A move that commits nothing. -/
theorem Race.of_task (h : Race taken seat calls s c) {t : Task σ κ ε α} (hx : Exclusive (c.set i t))
    (ht : Contender taken seat t) (hi : ∀ a, (c.tasks i).code ≠ .ret a)
    (hfollows : c.db = s → Follows (calls i) s (c.tasks i) → Follows (calls i) s t)
    (hstanding : taken c.db → (c.tasks i).code.Contends taken seat false → t.code.Contends taken seat false)
    (hsame : t.commits = (c.tasks i).commits) : Race taken seat calls s (c.set i t) := by
  refine ⟨hx, fun j => ?_, ?_⟩
  · by_cases hj : j = i
    · rw [hj, set_tasks_self]
      exact ht
    · rw [set_tasks_ne c t hj]
      exact h.contenders j
  · cases h.outcome with
    | running hdb hcommits hall =>
      refine .running hdb (fun j => ?_) (fun j => ?_)
      · by_cases hj : j = i
        · rw [hj, set_tasks_self, hsame]
          exact hcommits i
        · rw [set_tasks_ne c t hj]
          exact hcommits j
      · by_cases hj : j = i
        · subst hj
          rw [set_tasks_self]
          exact hfollows hdb (hall j)
        · rw [set_tasks_ne c t hj]
          exact hall j
    | won w a b hwinner hcode htaken hall hcommits =>
      exact .won_of_task hwinner hcode htaken hall hcommits hi (hstanding htaken (hall i).1) ht.keeps hsame

theorem Race.landed (h : Race taken seat calls s c)
    (htaken : ∀ i a b t, (calls i).eval s s = .ok (a, b, t) → taken t) {k : Program σ κ ε α}
    (hc : (c.tasks i).code = .commit k) : Race taken seat calls s (c.land i k) := by
  have hexclusive : Exclusive (c.land i k) := (Acted.committed k hc).exclusive h.exclusive
  cases h.contenders i with
  | standing hcode _ =>
    rw [hc] at hcode
    exact absurd hcode.1 Bool.false_ne_true
  | seated hcode hkeeps hheld =>
    rw [hc] at hcode
    obtain ⟨_, a, rfl⟩ := hcode
    -- nobody else is seated, as nobody else has the lock
    have hothers : ∀ j, j ≠ i →
        (c.tasks j).code.Contends taken seat false ∧ ∀ s, taken s → taken ((c.tasks j).pending s) := by
      intro j hj
      cases h.contenders j with
      | standing hcode hkeeps => exact ⟨hcode, hkeeps⟩
      | seated _ _ hlock => exact absurd hlock (h.exclusive i j (Ne.symm hj) seat hheld)
    have hstanding : ∀ j, ((c.land i (.ret a)).tasks j).code.Contends taken seat false ∧
        ∀ s, taken s → taken (((c.land i (.ret a)).tasks j).pending s) := by
      intro j
      by_cases hj : j = i
      · rw [hj, land_tasks_self]
        exact ⟨trivial, fun _ h => h⟩
      · rw [land_tasks_ne c _ hj]
        exact hothers j hj
    refine ⟨hexclusive, fun j => .standing (hstanding j).1 (hstanding j).2, ?_⟩
    cases h.outcome with
    | running hdb hcommits hfollows =>
      obtain hrun | ⟨e, he⟩ := hfollows i
      · have hview : (c.land i (.ret a)).db = (c.tasks i).pending s := by rw [land_db, view, hdb]
        rw [hc] at hrun
        have hwinner : (calls i).eval s s = .ok (a, (c.tasks i).pending s, (c.tasks i).pending s) := hrun.symm
        refine .won i a _ (hview ▸ hwinner) (by rw [land_tasks_self]; rfl) ?_ hstanding (fun j hj => ?_)
        · rw [hview]
          exact htaken i _ _ _ hwinner
        · rw [land_tasks_ne c _ hj]
          exact hcommits j
      · cases hc.symm.trans he
    | won w b d hwinner hcode htaken hall hcommits =>
      have hstand := (hall i).1
      rw [hc] at hstand
      exact absurd hstand.1 Bool.false_ne_true

theorem Ran.race (hran : Ran (fun _ => True) c i m c') (hx : Exclusive c') (h : Race taken seat calls s c)
    (htaken : ∀ i a b t, (calls i).eval s s = .ok (a, b, t) → taken t) : Race taken seat calls s c' := by
  cases hran with
  | stay => exact h
  | rolled e _ hret =>
    exact h.of_task hx (contender_rolled _ e) hret (fun _ _ => Or.inr ⟨e, rfl⟩) (fun _ _ => trivial) rfl
  | queried k hc =>
    refine h.of_task hx ((h.contenders i).queried hc) (by simp [hc]) (fun hdb hf => ?_) (fun _ hcode => ?_) rfl
    · subst hdb
      exact hf.queried hc
    · rw [hc] at hcode
      exact hcode _
  | wrote stmt k eff _ hc hs _ =>
    refine h.of_task hx ((h.contenders i).wrote hc hs) (by simp [hc]) (fun hdb hf => ?_) (fun htaken hcode => ?_) rfl
    · subst hdb
      exact hf.wrote hc hs
    · rw [hc] at hcode
      obtain ⟨_, hnext | ⟨_, hfree, _⟩⟩ := hcode _ eff hs
      · exact hnext
      · exact absurd ((h.contenders i).keeps _ htaken) hfree
  | committed k hc => exact h.landed htaken hc

omit [DecidableEq ι] in
theorem contender_start {p : Program σ κ ε α} (hp : p.Contends taken seat false) (s : σ) :
    Contender taken seat (Task.start p s) := .standing hp (fun _ h => h)

variable [Fintype ι] [DecidableEq κ]

/-- In every run of calls that contend for a seat, at most one of them commits,
and it commits what it would commit alone. -/
theorem race_run (hcalls : ∀ i, (calls i).Contends taken seat false)
    (htaken : ∀ i a b t, (calls i).eval s s = .ok (a, b, t) → taken t) (schedule : List (ι × Move ε)) :
    Race taken seat calls s ((start s calls).run schedule) := by
  have hstart : Race taken seat calls s (start s calls) :=
    ⟨exclusive_start s calls, fun i => contender_start (hcalls i) s, .running rfl (fun _ => rfl) (fun _ => Or.inl rfl)⟩
  have hinv : ∀ {c : Config ι σ κ ε α}, Race taken seat calls s c → Race taken seat calls s (c.run schedule) := by
    induction schedule with
    | nil => exact fun h => h
    | cons e schedule ih =>
      intro c h
      have hran := @act_ran _ _ _ _ _ _ _ _ (fun _ => True) c e.1 e.2 (refused_true c e.1 e.2)
      exact ih (hran.race ((act_acted c e.1 e.2).exclusive h.exclusive) h htaken)
  exact hinv hstart

section Relay

variable (answer : σ → Option α)

/-- Every call starts when the answer is there, or when all that started before
are over. -/
def StartsAlone (calls : ι → Program σ κ ε α) (s : σ) (schedule : List (ι × Move ε)) : Prop :=
  ∀ n, ∀ h : n < schedule.length,
    (∃ e ∈ schedule.take n, e.1 = schedule[n].1) ∨
      (answer ((start s calls).run (schedule.take n)).db).isSome = true ∨
      ∀ e ∈ schedule.take n, (((start s calls).run (schedule.take n)).tasks e.1).code.finished = true ∧
        (((start s calls).run (schedule.take n)).tasks e.1).held = []

instance (calls : ι → Program σ κ ε α) (s : σ) (schedule : List (ι × Move ε)) :
    Decidable (StartsAlone answer calls s schedule) := by
  unfold StartsAlone
  infer_instance

/-- A call that is refused at once, or looks for the answer first and returns it
where it is. -/
def Asks (p : Program σ κ ε α) : Prop :=
  (∃ e, p = .raise e) ∨ ∃ k, p = .query k ∧ ∀ v a, answer v = some a → k v = .ret a

/-- What a call returns that finds no answer is the answer that it leaves. -/
def Answers (p : Program σ κ ε α) (s : σ) : Prop :=
  answer s = none → ∀ a t u, p.eval s s = .ok (a, t, u) → t = u ∧ answer t = some a

/-- A call that has not started. -/
def Unstarted (calls : ι → Program σ κ ε α) (s : σ) (before : List (ι × Move ε)) (c : Config ι σ κ ε α) (j : ι) :
    Prop :=
  c.tasks j = Task.start (calls j) s ∧ ∀ e ∈ before, e.1 ≠ j

/-- A call that threw what it throws alone. -/
def Threw (calls : ι → Program σ κ ε α) (s : σ) (c : Config ι σ κ ε α) (j : ι) : Prop :=
  ∃ e, (c.tasks j).code = .raise e ∧ (calls j).eval s s = .error (e, s)

/-- A call that has not started, or is over with nothing done. -/
def Resting (calls : ι → Program σ κ ε α) (s : σ) (before : List (ι × Move ε)) (c : Config ι σ κ ε α) (j : ι) : Prop :=
  Unstarted calls s before c j ∨ (Threw calls s c j ∧ (c.tasks j).held = [])

/-- A call that runs as it would alone. -/
structure Running (calls : ι → Program σ κ ε α) (s : σ) (before : List (ι × Move ε)) (t : Task σ κ ε α) (w : ι) :
    Prop where
  started : ∃ e ∈ before, e.1 = w
  runs : t.code.eval s (t.pending s) = (calls w).eval s s
  atomic : t.code.Atomic
  left : t.code.finished = false →
    t.code.statements (t.pending s) + before.countP (fun e => e.1 = w) = (calls w).statements s

/-- One call at a time runs, until one has committed the answer; from then on the
others return it. -/
inductive Relay (calls : ι → Program σ κ ε α) (s : σ) (before : List (ι × Move ε)) (c : Config ι σ κ ε α) : Prop
  | idle (hdb : c.db = s) (hnone : answer s = none) (hall : ∀ j, Resting calls s before c j)
  | running (w : ι) (hdb : c.db = s) (hnone : answer s = none) (hw : Running calls s before (c.tasks w) w)
      (hothers : ∀ j, j ≠ w → Resting calls s before c j)
  | settled (a : α) (hanswer : answer c.db = some a)
      (hall : ∀ j, Unstarted calls s before c j ∨ (c.tasks j).code = .ret a ∨ Threw calls s c j)

variable {answer} {before : List (ι × Move ε)}

omit [DecidableEq ι] [Fintype ι] [DecidableEq κ] in
theorem Unstarted.frame {j : ι} (h : Unstarted calls s before c j) (hj : j ≠ i) (hframe : c'.tasks j = c.tasks j)
    (m : Move ε) : Unstarted calls s (before ++ [(i, m)]) c' j := by
  refine ⟨hframe.trans h.1, fun e he => ?_⟩
  obtain he | he := List.mem_append.mp he
  · exact h.2 e he
  · rw [List.mem_singleton.mp he]
    exact Ne.symm hj

omit [Fintype ι] [DecidableEq κ] in
theorem Unstarted.never (h : Unstarted calls s before c i) : before.countP (fun e => e.1 = i) = 0 :=
  List.countP_eq_zero.mpr (fun e he => by simpa using h.2 e he)

omit [DecidableEq ι] [Fintype ι] [DecidableEq κ] in
theorem Threw.frame {j : ι} (h : Threw calls s c j) (hframe : c'.tasks j = c.tasks j) : Threw calls s c' j := by
  obtain ⟨e, hcode, halone⟩ := h
  exact ⟨e, by rw [hframe, hcode], halone⟩

omit [DecidableEq ι] [Fintype ι] [DecidableEq κ] in
theorem Resting.frame {j : ι} (h : Resting calls s before c j) (hj : j ≠ i) (hframe : c'.tasks j = c.tasks j)
    (m : Move ε) : Resting calls s (before ++ [(i, m)]) c' j :=
  h.imp (fun h => h.frame hj hframe m) (fun h => ⟨h.1.frame hframe, by rw [hframe, h.2]⟩)

omit [DecidableEq ι] [Fintype ι] [DecidableEq κ] in
theorem Resting.held {j : ι} (h : Resting calls s before c j) : (c.tasks j).held = [] := by
  obtain h | h := h
  · rw [h.1]
    rfl
  · exact h.2

theorem act_threw (h : Threw calls s c i) :
    (c.act i .advance).db = c.db ∧ Threw calls s (c.act i .advance) i ∧ ((c.act i .advance).tasks i).held = [] ∧
      ∀ j, j ≠ i → (c.act i .advance).tasks j = c.tasks j := by
  obtain ⟨e, hcode, halone⟩ := h
  rw [act_raise hcode]
  refine ⟨rfl, ⟨e, by rw [set_tasks_self]; rfl, halone⟩, by rw [set_tasks_self]; rfl, ?_⟩
  exact fun j hj => set_tasks_ne c _ hj

/-- Nobody runs, and a call moves. -/
theorem Relay.of_idle (hdb : c.db = s) (hnone : answer s = none) (hall : ∀ j, Resting calls s before c j)
    (hasks : ∀ i, Asks answer (calls i)) (hatomic : ∀ i, (calls i).Atomic) :
    Relay answer calls s (before ++ [(i, .advance)]) (c.act i .advance) := by
  have hthrew : Threw calls s c i → Relay answer calls s (before ++ [(i, .advance)]) (c.act i .advance) := by
    intro h
    obtain ⟨hdb', hstill, hheld, hframe⟩ := act_threw h
    refine .idle (hdb'.trans hdb) hnone (fun j => ?_)
    by_cases hj : j = i
    · subst hj
      exact Or.inr ⟨hstill, hheld⟩
    · exact (hall j).frame hj (hframe j hj) _
  obtain hnew | hold := hall i
  · obtain ⟨e, he⟩ | ⟨k, hk, _⟩ := hasks i
    · refine hthrew ⟨e, ?_, ?_⟩
      · rw [hnew.1]
        exact he
      · rw [he]
        rfl
    · have hcode : (c.tasks i).code = .query k := by
        rw [hnew.1]
        exact hk
      have hview : c.view i = s := by
        rw [view, hnew.1, hdb]
        rfl
      have hk' := hatomic i
      rw [hk] at hk'
      rw [act_query hcode, hview]
      refine .running i hdb hnone ⟨?_, ?_, ?_, fun _ => ?_⟩ (fun j hj => (hall j).frame hj (set_tasks_ne c _ hj) _)
      · exact ⟨_, List.mem_append_right _ List.mem_cons_self, rfl⟩
      · rw [set_tasks_self, hnew.1, hk]
        rfl
      · rw [set_tasks_self]
        exact hk' s
      · rw [set_tasks_self, hnew.1, hk, List.countP_append, hnew.never]
        simp [Task.start]
  · exact hthrew hold.1

omit [Fintype ι] [DecidableEq κ] in
theorem countP_snoc (m : Move ε) :
    (before ++ [(i, m)]).countP (fun e => e.1 = i) = before.countP (fun e => e.1 = i) + 1 := by
  simp

omit [Fintype ι] [DecidableEq κ] in
theorem Running.frame {t : Task σ κ ε α} {w : ι} (h : Running calls s before t w) (hi : i ≠ w) (m : Move ε) :
    Running calls s (before ++ [(i, m)]) t w := by
  obtain ⟨e, he, hew⟩ := h.started
  refine ⟨⟨e, List.mem_append_left _ he, hew⟩, h.runs, h.atomic, fun hunfinished => ?_⟩
  rw [List.countP_append, List.countP_singleton, if_neg (by simpa using hi)]
  exact h.left hunfinished

omit [Fintype ι] [DecidableEq κ] in
/-- A call that ran alone and has finished threw, as it has not committed. -/
theorem Running.threw {w : ι} (h : Running calls s before (c.tasks w) w) (hnone : answer s = none)
    (hanswers : Answers answer (calls w) s) (hfinished : (c.tasks w).code.finished = true) : Threw calls s c w := by
  have hruns := h.runs
  cases hc : (c.tasks w).code with
  | ret a =>
    rw [hc] at hruns
    obtain ⟨_, ha⟩ := hanswers hnone a s _ hruns.symm
    rw [hnone] at ha
    cases ha
  | raise e =>
    rw [hc] at hruns
    exact ⟨e, hc, hruns.symm⟩
  | query _ | exec _ _ | commit _ =>
    rw [hc] at hfinished
    cases hfinished

/-- The call that runs moves. -/
theorem Relay.of_running {w : ι} (hdb : c.db = s) (hnone : answer s = none) (hw : Running calls s before (c.tasks w) w)
    (hothers : ∀ j, j ≠ w → Resting calls s before c j) (hanswers : Answers answer (calls w) s) :
    Relay answer calls s (before ++ [(w, .advance)]) (c.act w .advance) := by
  obtain ⟨hstarted, hruns, hatomic, hleft⟩ := hw
  have hstarted' : ∃ e ∈ before ++ [(w, Move.advance)], e.1 = w :=
    ⟨_, List.mem_append_right _ List.mem_cons_self, rfl⟩
  have hview : c.view w = (c.tasks w).pending s := by rw [view, hdb]
  cases hc : (c.tasks w).code with
  | ret a =>
    have hthrew := Running.threw ⟨hstarted, hruns, hatomic, hleft⟩ hnone hanswers (by rw [hc]; rfl)
    obtain ⟨e, he, _⟩ := hthrew
    cases hc.symm.trans he
  | raise e =>
    rw [hc] at hruns
    rw [act_raise hc]
    refine .idle hdb hnone (fun j => ?_)
    by_cases hj : j = w
    · subst hj
      exact Or.inr ⟨⟨e, by rw [set_tasks_self]; rfl, hruns.symm⟩, by rw [set_tasks_self]; rfl⟩
    · exact (hothers j hj).frame hj (set_tasks_ne c _ hj) _
  | query k =>
    rw [hc] at hruns hatomic hleft
    have hcount := hleft rfl
    rw [Program.statements_query] at hcount
    rw [act_query hc, hview]
    refine .running w hdb hnone ⟨hstarted', ?_, ?_, fun _ => ?_⟩
      (fun j hj => (hothers j hj).frame hj (set_tasks_ne c _ hj) _)
    · rw [set_tasks_self]
      exact hruns
    · rw [set_tasks_self]
      exact hatomic _
    · rw [set_tasks_self, countP_snoc]
      change (k ((c.tasks w).pending s)).statements ((c.tasks w).pending s) + (_ + 1) = _
      omega
  | exec stmt k =>
    rw [hc] at hruns hatomic hleft
    have hcount := hleft rfl
    cases hs : stmt ((c.tasks w).pending s) with
    | error e =>
      rw [Program.eval_exec, hs] at hruns
      rw [act_failed hc (hview ▸ hs)]
      refine .idle hdb hnone (fun j => ?_)
      by_cases hj : j = w
      · subst hj
        exact Or.inr ⟨⟨e, by rw [set_tasks_self]; rfl, hruns.symm⟩, by rw [set_tasks_self]; rfl⟩
      · exact (hothers j hj).frame hj (set_tasks_ne c _ hj) _
    | ok eff =>
      have hb : ¬ c.Blocked w eff.locks := by
        rintro ⟨j, hj, l, _, hl⟩
        rw [(hothers j hj).held] at hl
        exact List.not_mem_nil hl
      rw [Program.statements_exec_ok hs] at hcount
      rw [Program.eval_exec, hs] at hruns
      rw [act_exec hc (hview ▸ hs) hb, hview]
      refine .running w hdb hnone ⟨hstarted', ?_, ?_, fun _ => ?_⟩
        (fun j hj => (hothers j hj).frame hj (set_tasks_ne c _ hj) _)
      · rw [set_tasks_self]
        exact hruns
      · rw [set_tasks_self]
        exact hatomic _
      · rw [set_tasks_self, countP_snoc]
        change (k (eff.apply ((c.tasks w).pending s))).statements (eff.apply ((c.tasks w).pending s)) + (_ + 1) = _
        omega
  | commit k =>
    rw [hc] at hruns hatomic
    obtain ⟨a, rfl⟩ := hatomic
    obtain ⟨_, ha⟩ := hanswers hnone a _ _ hruns.symm
    rw [act_commit hc]
    refine .settled a ?_ (fun j => ?_)
    · rw [land_db, hview]
      exact ha
    · by_cases hj : j = w
      · subst hj
        rw [land_tasks_self]
        exact Or.inr (Or.inl rfl)
      · exact ((hothers j hj).frame hj (land_tasks_ne c _ hj) _).imp id (fun h => Or.inr h.1)

/-- A call moves once the answer is there. -/
theorem Relay.of_settled {a : α} (hanswer : answer c.db = some a)
    (hall : ∀ j, Unstarted calls s before c j ∨ (c.tasks j).code = .ret a ∨ Threw calls s c j)
    (hasks : ∀ i, Asks answer (calls i)) :
    Relay answer calls s (before ++ [(i, .advance)]) (c.act i .advance) := by
  have hframe : ∀ {c' : Config ι σ κ ε α}, c'.db = c.db → (∀ j, j ≠ i → c'.tasks j = c.tasks j) →
      ((c'.tasks i).code = .ret a ∨ Threw calls s c' i) → Relay answer calls s (before ++ [(i, .advance)]) c' := by
    intro c' hdb hothers hi
    refine .settled a (hdb ▸ hanswer) (fun j => ?_)
    by_cases hj : j = i
    · subst hj
      exact Or.inr hi
    · obtain h | h | h := hall j
      · exact Or.inl (h.frame hj (hothers j hj) _)
      · exact Or.inr (Or.inl (by rw [hothers j hj, h]))
      · exact Or.inr (Or.inr (h.frame (hothers j hj)))
  have hthrew : Threw calls s c i → Relay answer calls s (before ++ [(i, .advance)]) (c.act i .advance) := by
    intro h
    obtain ⟨hdb, hstill, _, hothers⟩ := act_threw h
    exact hframe hdb hothers (Or.inr hstill)
  obtain hnew | hret | hold := hall i
  · obtain ⟨e, he⟩ | ⟨k, hk, hfound⟩ := hasks i
    · refine hthrew ⟨e, ?_, ?_⟩
      · rw [hnew.1]
        exact he
      · rw [he]
        rfl
    · have hcode : (c.tasks i).code = .query k := by
        rw [hnew.1]
        exact hk
      have hview : c.view i = c.db := by
        rw [view, hnew.1]
        rfl
      rw [act_query hcode, hview, hfound _ a hanswer]
      exact hframe rfl (fun j hj => set_tasks_ne c _ hj) (Or.inl (by rw [set_tasks_self]))
  · have hstay : c.act i .advance = c := by simp only [act, hret]
    rw [hstay]
    exact hframe rfl (fun j _ => rfl) (Or.inl hret)
  · exact hthrew hold

/-- In every run of calls that start alone and that nothing aborts, one call at a
time looks for the answer. -/
theorem relay_run (hasks : ∀ i, Asks answer (calls i)) (hatomic : ∀ i, (calls i).Atomic)
    (hanswers : ∀ i, Answers answer (calls i) s) {schedule : List (ι × Move ε)}
    (hadvance : ∀ e ∈ schedule, e.2 = .advance) (halone : StartsAlone answer calls s schedule) :
    Relay answer calls s schedule ((start s calls).run schedule) := by
  induction schedule using List.reverseRecOn with
  | nil =>
    cases hs : answer s with
    | none => exact .idle rfl hs (fun j => Or.inl ⟨rfl, fun e he => absurd he List.not_mem_nil⟩)
    | some a => exact .settled a hs (fun j => Or.inl ⟨rfl, fun e he => absurd he List.not_mem_nil⟩)
  | append_singleton before e ih =>
    obtain ⟨i, m⟩ := e
    obtain rfl : m = .advance := hadvance (i, m) (List.mem_append_right _ List.mem_cons_self)
    have hbefore : StartsAlone answer calls s before := by
      intro n hn
      have hn' : n < (before ++ [(i, Move.advance)]).length := by
        rw [List.length_append]
        omega
      have h := halone n hn'
      rw [List.take_append_of_le_length (le_of_lt hn), List.getElem_append_left hn] at h
      exact h
    have hlast := halone before.length (by simp)
    rw [List.take_append_of_le_length (le_refl _), List.take_length, List.getElem_concat_length rfl] at hlast
    have hrun : (start s calls).run (before ++ [(i, .advance)]) = ((start s calls).run before).act i .advance :=
      runFrom_append _ _ _
    rw [hrun]
    cases ih (fun e he => hadvance e (List.mem_append_left _ he)) hbefore with
    | idle hdb hnone hall => exact Relay.of_idle hdb hnone hall hasks hatomic
    | running w hdb hnone hw hothers =>
      by_cases hi : i = w
      · subst hi
        exact Relay.of_running hdb hnone hw hothers (hanswers i)
      · obtain hnew | hold := hothers i hi
        · -- the call starts, so the one that ran is over
          obtain ⟨e, he, hei⟩ | hsome | hover := hlast
          · exact absurd hei (hnew.2 e he)
          · rw [hdb, hnone] at hsome
            cases hsome
          · obtain ⟨e, he, rfl⟩ := hw.started
            have hthrew := hw.threw hnone (hanswers _) (hover e he).1
            refine Relay.of_idle hdb hnone (fun j => ?_) hasks hatomic
            by_cases hj : j = e.1
            · subst hj
              exact Or.inr ⟨hthrew, (hover e he).2⟩
            · exact hothers j hj
        · obtain ⟨hdb', hstill, hheld, hframe⟩ := act_threw hold.1
          refine .running w (hdb'.trans hdb) hnone ?_ (fun j hj => ?_)
          · rw [hframe w (Ne.symm hi)]
            exact hw.frame hi _
          · by_cases hji : j = i
            · subst hji
              exact Or.inr ⟨hstill, hheld⟩
            · exact (hothers j hj).frame hji (hframe j hji) _
    | settled a hanswer hall => exact Relay.of_settled hanswer hall hasks

omit [DecidableEq ι] [Fintype ι] [DecidableEq κ] in
theorem Unstarted.unreturned (h : Unstarted calls s before c i) (hasks : Asks answer (calls i)) {a : α} :
    (c.tasks i).code ≠ .ret a := by
  rw [h.1]
  obtain ⟨e, he⟩ | ⟨k, hk, _⟩ := hasks
  · exact fun hret => by cases he.symm.trans hret
  · exact fun hret => by cases hk.symm.trans hret

omit [DecidableEq ι] [Fintype ι] [DecidableEq κ] in
theorem Threw.unreturned (h : Threw calls s c i) {a : α} : (c.tasks i).code ≠ .ret a := by
  obtain ⟨e, he, _⟩ := h
  exact fun hret => by cases he.symm.trans hret

omit [DecidableEq ι] [Fintype ι] [DecidableEq κ] in
theorem Resting.unreturned (h : Resting calls s before c i) (hasks : Asks answer (calls i)) {a : α} :
    (c.tasks i).code ≠ .ret a := h.elim (fun h => h.unreturned hasks) (fun h => h.1.unreturned)

omit [Fintype ι] [DecidableEq κ] in
/-- A call that returned has returned the answer that is stored. -/
theorem Relay.returned (h : Relay answer calls s before c) (hasks : ∀ i, Asks answer (calls i))
    (hanswers : ∀ i, Answers answer (calls i) s) {a : α} (hret : (c.tasks i).code = .ret a) : answer c.db = some a := by
  cases h with
  | idle hdb hnone hall => exact ((hall i).unreturned (hasks i) hret).elim
  | running w hdb hnone hw hothers =>
    by_cases hi : i = w
    · subst hi
      exact ((hw.threw hnone (hanswers i) (by rw [hret]; rfl)).unreturned hret).elim
    · exact ((hothers i hi).unreturned (hasks i) hret).elim
  | settled b hanswer hall =>
    obtain h | h | h := hall i
    · exact (h.unreturned (hasks i) hret).elim
    · cases hret.symm.trans h
      exact hanswer
    · exact (h.unreturned hret).elim

omit [Fintype ι] [DecidableEq κ] in
/-- A call that threw would have thrown that alone. -/
theorem Relay.threw (h : Relay answer calls s before c) {e : ε} (hraise : (c.tasks i).code = .raise e) :
    (calls i).eval s s = .error (e, s) := by
  have hnew : Unstarted calls s before c i → (calls i).eval s s = .error (e, s) := by
    intro hnew
    rw [hnew.1] at hraise
    have hcode : calls i = .raise e := hraise
    rw [hcode]
    rfl
  have hold : Threw calls s c i → (calls i).eval s s = .error (e, s) := by
    rintro ⟨e', he', halone⟩
    cases hraise.symm.trans he'
    exact halone
  cases h with
  | idle hdb hnone hall => exact (hall i).elim hnew (fun h => hold h.1)
  | running w hdb hnone hw hothers =>
    by_cases hi : i = w
    · subst hi
      have hruns := hw.runs
      rw [hraise] at hruns
      exact hruns.symm
    · exact (hothers i hi).elim hnew (fun h => hold h.1)
  | settled b hanswer hall =>
    obtain h | h | h := hall i
    · exact hnew h
    · cases hraise.symm.trans h
    · exact hold h

omit [Fintype ι] [DecidableEq κ] in
/-- A call that has had as many turns as it issues statements alone has finished. -/
theorem Relay.finished (h : Relay answer calls s before c) (hasks : ∀ i, Asks answer (calls i))
    (hturns : (calls i).statements s ≤ before.countP (fun e => e.1 = i)) : (c.tasks i).code.finished = true := by
  have hnew : Unstarted calls s before c i → (c.tasks i).code.finished = true := by
    intro hnew
    rw [hnew.1]
    obtain ⟨e, he⟩ | ⟨k, hk, _⟩ := hasks i
    · change (calls i).finished = true
      rw [he]
      rfl
    · rw [hk, Program.statements_query, hnew.never] at hturns
      omega
  have hold : Threw calls s c i → (c.tasks i).code.finished = true := by
    rintro ⟨e, he, _⟩
    rw [he]
    rfl
  cases h with
  | idle hdb hnone hall => exact (hall i).elim hnew (fun h => hold h.1)
  | running w hdb hnone hw hothers =>
    by_cases hi : i = w
    · subst hi
      by_contra hunfinished
      have hcount := hw.left (eq_false_of_ne_true hunfinished)
      have hone := Program.statements_pos (eq_false_of_ne_true hunfinished) ((c.tasks i).pending s)
      omega
    · exact (hothers i hi).elim hnew (fun h => hold h.1)
  | settled b hanswer hall =>
    obtain h | h | h := hall i
    · exact hnew h
    · rw [h]
      rfl
    · exact hold h

end Relay

end Config

end HostPanel.Lib
