import HostPanel.Lib.Growth
import HostPanel.Lib.Interleaving

namespace HostPanel.Lib

variable {ι σ κ ε α : Type}

namespace Program

variable (rel : σ → σ → Prop)

/-- A call that relies on the committed tables to change by `rel` only: it
returns what meets `Q` and throws what meets `E`. It starts from tables `b`
that were committed before; `dirty` tells whether it has written since its last
commit. -/
def Relies (Q : α → σ → Prop) (E : ε → Prop) : Program σ κ ε α → Bool → σ → Prop
  | ret a, _, b => Q a b
  | raise e, _, _ => E e
  | query k, dirty, b => ∀ v, rel b v → (k v).Relies Q E dirty (if dirty then b else v)
  | exec stmt k, dirty, b => ∀ v, rel b v →
      match stmt v with
      | .error e => E e
      | .ok eff => (k (eff.apply v)).Relies Q E true (if dirty then b else v)
  | commit k, _, b => k.Relies Q E false b

/-- The first write of every transaction that commits brings about `I`, on all
tables grown from those it saw; `done` tells whether it was made. -/
def Promises (I : σ → Prop) : Program σ κ ε α → Bool → σ → Prop
  | ret _, _, _ => True
  | raise _, _, _ => True
  | query k, done, b => ∀ v, rel b v → (k v).Promises I done (if done then b else v)
  | exec stmt k, done, b => ∀ v eff, rel b v → stmt v = .ok eff →
      (done = false → ∀ t, rel v t → I (eff.apply t)) ∧
        (k (eff.apply v)).Promises I true (if done then b else v)
  | commit _, done, _ => done = true

variable {rel} {Q : α → σ → Prop} {E : ε → Prop}

theorem Relies.mono {p : Program σ κ ε α} {Q' : α → σ → Prop} {dirty : Bool} {b : σ}
    (hp : p.Relies rel Q E dirty b) (h : ∀ a b', Q a b' → Q' a b') : p.Relies rel Q' E dirty b := by
  induction p generalizing dirty b with
  | ret a => exact h a b hp
  | raise e => exact hp
  | query k ih => exact fun v hv => ih v (hp v hv)
  | exec stmt k ih =>
    intro v hv
    have hk := hp v hv
    cases hs : stmt v with
    | error e =>
      rw [hs] at hk
      exact hk
    | ok eff =>
      rw [hs] at hk
      exact ih (eff.apply v) hk
  | commit k ih => exact ih hp

theorem Relies.bind_ret {β : Type} {p : Program σ κ ε α} {g : α → β} {Q : β → σ → Prop} {dirty : Bool} {b : σ}
    (h : p.Relies rel (fun a b' => Q (g a) b') E dirty b) : (p >>= fun a => ret (g a)).Relies rel Q E dirty b := by
  induction p generalizing dirty b with
  | ret a => exact h
  | raise e => exact h
  | query k ih => exact fun v hv => ih v (h v hv)
  | exec stmt k ih =>
    intro v hv
    have hk := h v hv
    cases hs : stmt v with
    | error e =>
      rw [hs] at hk
      exact hk
    | ok eff =>
      rw [hs] at hk
      exact ih (eff.apply v) hk
  | commit k ih => exact ih h

/-- Whatever it reads, the program returns only what meets `Q`. -/
def Returns (Q : α → Prop) : Program σ κ ε α → Prop
  | ret a => Q a
  | raise _ => True
  | query k => ∀ v, (k v).Returns Q
  | exec _ k => ∀ v, (k v).Returns Q
  | commit k => k.Returns Q

theorem Returns.bind {β : Type} {Q : β → Prop} (p : Program σ κ ε α) {f : α → Program σ κ ε β}
    (hf : ∀ a, (f a).Returns Q) : (p >>= f).Returns Q := by
  induction p with
  | ret a => exact hf a
  | raise e => trivial
  | query k ih => exact fun v => ih v
  | exec stmt k ih => exact fun v => ih v
  | commit k ih => exact ih

theorem Returns.mono {p : Program σ κ ε α} {Q Q' : α → Prop} (hp : p.Returns Q) (h : ∀ a, Q a → Q' a) :
    p.Returns Q' := by
  induction p with
  | ret a => exact h a hp
  | raise e => trivial
  | query k ih => exact fun v => ih v (hp v)
  | exec stmt k ih => exact fun v => ih v (hp v)
  | commit k ih => exact ih hp

theorem Returns.relies {p : Program σ κ ε α} {Q : α → Prop} (hp : p.Returns Q) (hE : ∀ e, E e) (dirty : Bool)
    (b : σ) : p.Relies rel (fun a _ => Q a) E dirty b := by
  induction p generalizing dirty b with
  | ret a => exact hp
  | raise e => exact hE e
  | query k ih => exact fun v _ => ih v (hp v) dirty _
  | exec stmt k ih =>
    intro v _
    cases hs : stmt v with
    | error e => exact hE e
    | ok eff => exact ih (eff.apply v) (hp _) true _
  | commit k ih => exact ih hp false b

variable {I : σ → Prop}

theorem promises_of_done (p : Program σ κ ε α) (b : σ) : p.Promises rel I true b := by
  induction p generalizing b with
  | ret a => trivial
  | raise e => trivial
  | query k ih => exact fun v _ => ih v b
  | exec stmt k ih => exact fun v eff _ _ => ⟨fun h => (nomatch h), ih (eff.apply v) b⟩
  | commit k => exact rfl

theorem Promises.bind {β : Type} {p : Program σ κ ε α} {f : α → Program σ κ ε β} {done : Bool} {b : σ}
    (hp : p.Promises rel I done b) (hf : ∀ a b', (f a).Promises rel I false b') :
    (p >>= f).Promises rel I done b := by
  induction p generalizing done b with
  | ret a =>
    cases done with
    | false => exact hf a b
    | true => exact promises_of_done (f a) b
  | raise e => trivial
  | query k ih => exact fun v hv => ih v (hp v hv)
  | exec stmt k ih => exact fun v eff hv hs => ⟨(hp v eff hv hs).1, ih _ (hp v eff hv hs).2⟩
  | commit k => exact hp

end Program

namespace Config

variable {rel : σ → σ → Prop}

/-- All that the calls have written, or will, changes the tables by `rel`. -/
structure Grows (rel : σ → σ → Prop) (c : Config ι σ κ ε α) : Prop where
  writes : ∀ i, (c.tasks i).code.Guarantees rel
  pending : ∀ i s, rel s ((c.tasks i).pending s)

theorem grows_start (hrefl : ∀ s, rel s s) {calls : ι → Program σ κ ε α} (hcalls : ∀ i, (calls i).Guarantees rel)
    (s : σ) : Grows rel (start s calls) := ⟨hcalls, fun _ s => hrefl s⟩

variable [DecidableEq ι]

theorem Acted.grows (hrefl : ∀ s, rel s s) (htrans : ∀ s t u, rel s t → rel t u → rel s u)
    {c c' : Config ι σ κ ε α} {i : ι} {m : Move ε} (h : Acted c i m c') (hg : c.Grows rel) :
    c'.Grows rel ∧ rel c.db c'.db := by
  have hframe : ∀ j, j ≠ i → (c'.tasks j).code.Guarantees rel ∧ ∀ s, rel s ((c'.tasks j).pending s) := by
    intro j hj
    rw [h.frame hj]
    exact ⟨hg.writes j, hg.pending j⟩
  have hmoved : (c'.tasks i).code.Guarantees rel ∧ (∀ s, rel s ((c'.tasks i).pending s)) ∧ rel c.db c'.db := by
    have hcode := hg.writes i
    cases h with
    | stay _ => exact ⟨hcode, hg.pending i, hrefl _⟩
    | rolled _ e =>
      rw [set_tasks_self]
      exact ⟨trivial, hrefl, hrefl _⟩
    | queried k hc =>
      rw [hc] at hcode
      rw [set_tasks_self]
      exact ⟨hcode _, hg.pending i, hrefl _⟩
    | wrote stmt k eff hc hs hb =>
      rw [hc] at hcode
      rw [set_tasks_self]
      exact ⟨hcode.2 _, fun s => htrans _ _ _ (hg.pending i s) (hcode.1 _ _ hs _), hrefl _⟩
    | committed k hc =>
      rw [hc] at hcode
      rw [land_tasks_self]
      exact ⟨hcode, hrefl, hg.pending i c.db⟩
  refine ⟨⟨fun j => ?_, fun j => ?_⟩, hmoved.2.2⟩
  · by_cases hj : j = i
    · exact hj ▸ hmoved.1
    · exact (hframe j hj).1
  · by_cases hj : j = i
    · exact hj ▸ hmoved.2.1
    · exact (hframe j hj).2

/-- Where a call stands that relies on the tables changing by `rel` only. -/
def Relying (rel : σ → σ → Prop) (Q : α → σ → Prop) (E : ε → Prop) (i : ι) (c : Config ι σ κ ε α) : Prop :=
  ∃ dirty b, rel b c.db ∧ (c.tasks i).code.Relies rel Q E dirty b ∧ (dirty = false → (c.tasks i).pending = id)

/-- A call has committed what it promised, or has not committed anything. -/
def Promising (rel : σ → σ → Prop) (I : σ → Prop) (i : ι) (c : Config ι σ κ ε α) : Prop :=
  I c.db ∨ (c.tasks i).commits = 0 ∧ ∃ done b, rel b c.db ∧ (c.tasks i).code.Promises rel I done b ∧
    (done = false → (c.tasks i).pending = id) ∧ (done = true → ∀ t, rel b t → I ((c.tasks i).pending t))

section Steps

variable (hrefl : ∀ s, rel s s) (htrans : ∀ s t u, rel s t → rel t u → rel s u)
variable {Q : α → σ → Prop} {E : ε → Prop} {I : σ → Prop}

include hrefl in
omit [DecidableEq ι] in
theorem rel_base {c : Config ι σ κ ε α} {i : ι} {dirty : Bool} {b : σ} (hb : rel b c.db)
    (hclean : dirty = false → (c.tasks i).pending = id) : rel (if dirty then b else c.view i) c.db := by
  cases dirty with
  | true => exact hb
  | false =>
    have hview : c.view i = c.db := congrArg (fun f => f c.db) (hclean rfl)
    rw [if_neg Bool.false_ne_true, hview]
    exact hrefl _

variable [DecidableEq κ] [Fintype ι]

include hrefl htrans in
theorem relying_act {c : Config ι σ κ ε α} {i j : ι} {m : Move ε} (hg : c.Grows rel) (h : c.Relying rel Q E i)
    (habort : j = i → ∀ e, m = .abort e → E e) : (c.act j m).Relying rel Q E i := by
  obtain ⟨dirty, b, hb, hcode, hclean⟩ := h
  have hacted := act_acted c j m
  by_cases hj : j = i
  swap
  · refine ⟨dirty, b, htrans _ _ _ hb (hacted.grows hrefl htrans hg).2, ?_⟩
    rw [hacted.frame (Ne.symm hj)]
    exact ⟨hcode, hclean⟩
  subst hj
  have hview : rel b (c.view j) := htrans _ _ _ hb (hg.pending j c.db)
  have hbase : rel (if dirty then b else c.view j) c.db := rel_base hrefl hb hclean
  have hrolled : ∀ e, E e → (c.set j ((c.tasks j).rollback e)).Relying rel Q E j := by
    intro e he
    refine ⟨false, b, hb, ?_⟩
    rw [set_tasks_self]
    exact ⟨he, fun _ => rfl⟩
  cases m with
  | abort e =>
    cases hc : (c.tasks j).code with
    | ret a =>
      simp only [act, hc]
      exact ⟨dirty, b, hb, hcode, hclean⟩
    | raise _ | query _ | exec _ _ | commit _ =>
      simp only [act, hc]
      exact hrolled e (habort rfl e rfl)
  | advance =>
    cases hc : (c.tasks j).code with
    | ret a =>
      simp only [act, hc]
      exact ⟨dirty, b, hb, hcode, hclean⟩
    | raise e =>
      rw [act_raise hc]
      rw [hc] at hcode
      exact hrolled e hcode
    | query k =>
      rw [hc] at hcode
      rw [act_query hc]
      refine ⟨dirty, _, hbase, ?_⟩
      rw [set_tasks_self]
      exact ⟨hcode _ hview, hclean⟩
    | exec stmt k =>
      rw [hc] at hcode
      have hnext := hcode _ hview
      cases hs : stmt (c.view j) with
      | error e =>
        rw [hs] at hnext
        rw [act_failed hc hs]
        exact hrolled e hnext
      | ok eff =>
        rw [hs] at hnext
        by_cases hblocked : c.Blocked j eff.locks
        · have hstay : c.act j .advance = c := by simp only [act, hc, hs, if_pos hblocked]
          rw [hstay]
          exact ⟨dirty, b, hb, hc ▸ hcode, hclean⟩
        · rw [act_exec hc hs hblocked]
          refine ⟨true, _, hbase, ?_⟩
          rw [set_tasks_self]
          exact ⟨hnext, fun hdirty => Bool.noConfusion hdirty⟩
    | commit k =>
      rw [hc] at hcode
      rw [act_commit hc]
      refine ⟨false, b, hview, ?_⟩
      rw [land_tasks_self]
      exact ⟨hcode, fun _ => rfl⟩

omit [DecidableEq κ] [Fintype ι] in
include hrefl htrans in
theorem Acted.promising (hstable : ∀ s t, rel s t → I s → I t) {c c' : Config ι σ κ ε α} {i j : ι} {m : Move ε}
    (hacted : Acted c j m c') (hg : c.Grows rel) (h : c.Promising rel I i) : c'.Promising rel I i := by
  have hdb := (hacted.grows hrefl htrans hg).2
  obtain hdone | ⟨hcommits, done, b, hb, hcode, hclean, hmade⟩ := h
  · exact Or.inl (hstable _ _ hdb hdone)
  by_cases hj : j = i
  swap
  · refine Or.inr ?_
    rw [hacted.frame (Ne.symm hj)]
    exact ⟨hcommits, done, b, htrans _ _ _ hb hdb, hcode, hclean, hmade⟩
  subst hj
  have hview : rel b (c.view j) := htrans _ _ _ hb (hg.pending j c.db)
  have hbase : rel (if done then b else c.view j) c.db := rel_base hrefl hb hclean
  cases hacted with
  | stay _ => exact Or.inr ⟨hcommits, done, b, hb, hcode, hclean, hmade⟩
  | rolled _ e =>
    refine Or.inr ?_
    rw [set_tasks_self]
    exact ⟨hcommits, false, b, hb, trivial, fun _ => rfl, fun hf => nomatch hf⟩
  | queried k hc =>
    rw [hc] at hcode
    refine Or.inr ?_
    rw [set_tasks_self]
    refine ⟨hcommits, done, _, hbase, hcode _ hview, hclean, fun hd t ht => hmade hd t ?_⟩
    rw [if_pos hd] at ht
    exact ht
  | wrote stmt k eff hc hs hblocked =>
    rw [hc] at hcode
    obtain ⟨hfirst, hnext⟩ := hcode _ _ hview hs
    have hwrites := hg.writes j
    rw [hc] at hwrites
    refine Or.inr ?_
    rw [set_tasks_self]
    refine ⟨hcommits, true, _, hbase, hnext, fun hf => (nomatch hf), fun _ t ht => ?_⟩
    cases done with
    | false =>
      change I (eff.apply ((c.tasks j).pending t))
      rw [hclean rfl]
      exact hfirst rfl t ht
    | true => exact hstable _ _ (hwrites.1 _ _ hs _) (hmade rfl t ht)
  | committed k hc =>
    rw [hc] at hcode
    exact Or.inl (hmade hcode c.db hb)

include hrefl htrans in
theorem grows_run {c : Config ι σ κ ε α} (hg : c.Grows rel) (schedule : List (ι × Move ε)) :
    (c.run schedule).Grows rel ∧ rel c.db (c.run schedule).db := by
  induction schedule generalizing c with
  | nil => exact ⟨hg, hrefl c.db⟩
  | cons x schedule ih =>
    obtain ⟨hg', hdb⟩ := (act_acted c x.1 x.2).grows hrefl htrans hg
    obtain ⟨hlast, hrest⟩ := ih hg'
    exact ⟨hlast, htrans _ _ _ hdb hrest⟩

include hrefl htrans in
theorem relying_run {c : Config ι σ κ ε α} {i : ι} (hg : c.Grows rel) (h : c.Relying rel Q E i)
    (schedule : List (ι × Move ε)) (habort : ∀ e, (i, Move.abort e) ∈ schedule → E e) :
    (c.run schedule).Relying rel Q E i := by
  induction schedule generalizing c with
  | nil => exact h
  | cons x schedule ih =>
    obtain ⟨j, m⟩ := x
    have hnow : j = i → ∀ e, m = .abort e → E e := by
      rintro rfl e rfl
      exact habort e List.mem_cons_self
    exact ih ((act_acted c j m).grows hrefl htrans hg).1 (relying_act hrefl htrans hg h hnow)
      (fun e he => habort e (List.mem_cons_of_mem _ he))

include hrefl htrans in
theorem promising_run (hstable : ∀ s t, rel s t → I s → I t) {c : Config ι σ κ ε α} {i : ι} (hg : c.Grows rel)
    (h : c.Promising rel I i) (schedule : List (ι × Move ε)) : (c.run schedule).Promising rel I i := by
  induction schedule generalizing c with
  | nil => exact h
  | cons x schedule ih =>
    have hacted := act_acted c x.1 x.2
    exact ih (hacted.grows hrefl htrans hg).1 (hacted.promising hrefl htrans hstable hg h)

theorem run_frame {i : ι} {schedule : List (ι × Move ε)} (hi : ∀ x ∈ schedule, x.1 ≠ i) (c : Config ι σ κ ε α) :
    (c.run schedule).tasks i = c.tasks i := by
  induction schedule generalizing c with
  | nil => rfl
  | cons x schedule ih =>
    have hmoved := (act_acted c x.1 x.2).frame (Ne.symm (hi x List.mem_cons_self))
    exact (ih (fun y hy => hi y (List.mem_cons_of_mem x hy)) (c.act x.1 x.2)).trans hmoved

end Steps

section Ends

variable {Q : α → σ → Prop} {E : ε → Prop} {c : Config ι σ κ ε α} {i : ι}

omit [DecidableEq ι] in
theorem Relying.returned (h : c.Relying rel Q E i) {a : α} (ha : (c.tasks i).code = .ret a) :
    ∃ b, rel b c.db ∧ Q a b := by
  obtain ⟨dirty, b, hb, hcode, _⟩ := h
  rw [ha] at hcode
  exact ⟨b, hb, hcode⟩

omit [DecidableEq ι] in
theorem Relying.raised (h : c.Relying rel Q E i) {e : ε} (he : (c.tasks i).code = .raise e) : E e := by
  obtain ⟨dirty, b, hb, hcode, _⟩ := h
  rw [he] at hcode
  exact hcode

end Ends

end Config

end HostPanel.Lib
