import HostPanel.Lib.Rely

namespace HostPanel.Lib

variable {ι σ κ ε α ρ τ χ : Type} [DecidableEq τ] {key : ρ → τ}

variable (members : σ → Table key) (place : ρ → χ) (entry : κ → Option χ) (lockOf : τ → κ) (seat : α → χ) (name : α → τ)

/-- A call that adds one member, with a lock of its place and one of its key,
in the transaction after which it returns the two, and throws only what meets
`E`. It sees only tables that meet `I`; `added` is the member it has added. -/
def Program.Admits (I : σ → Prop) (E : ε → Prop) : Program σ κ ε α → Option ρ → Prop
  | ret _, _ => False
  | raise e, _ => E e
  | query k, added => ∀ v, I v → (k v).Admits I E added
  | exec stmt k, added => ∀ v eff, I v → stmt v = .ok eff →
      ((∀ l ∈ eff.locks, entry l = none) ∧ (∀ s, members (eff.apply s) = members s) ∧
          (k (eff.apply v)).Admits I E added) ∨
        (added = none ∧ ∃ row, (∃ l ∈ eff.locks, entry l = some (place row)) ∧ lockOf (key row) ∈ eff.locks ∧
          (∀ l ∈ eff.locks, ∀ x, entry l = some x → x = place row) ∧ (members v).find (key row) = none ∧
          (∀ s, members (eff.apply s) = (members s).insert row) ∧ (k (eff.apply v)).Admits I E (some row))
  | commit k, none => k.Admits I E none
  | commit k, some row => ∃ a, k = ret a ∧ seat a = place row ∧ name a = key row

/-- A part of a call that adds no member and returns what meets `Q`. -/
def Program.Spares (I : σ → Prop) (E : ε → Prop) (Q : α → Prop) : Program σ κ ε α → Prop
  | ret a => Q a
  | raise e => E e
  | query k => ∀ v, I v → (k v).Spares I E Q
  | exec stmt k => ∀ v eff, I v → stmt v = .ok eff →
      (∀ l ∈ eff.locks, entry l = none) ∧ (∀ s, members (eff.apply s) = members s) ∧ (k (eff.apply v)).Spares I E Q
  | commit k => k.Spares I E Q

namespace Program

variable {β : Type} {I : σ → Prop} {E : ε → Prop} {Q : α → Prop} {p : Program σ κ ε α} {f : α → Program σ κ ε β}
variable {members place entry lockOf} {seat : β → χ} {name : β → τ}

omit [DecidableEq τ] in
theorem Spares.bind {Q' : β → Prop} (hp : p.Spares members entry I E Q)
    (hf : ∀ a, Q a → (f a).Spares members entry I E Q') : (p >>= f).Spares members entry I E Q' := by
  induction p with
  | ret a => exact hf a hp
  | raise e => exact hp
  | query k ih => exact fun v hv => ih v (hp v hv)
  | exec stmt k ih => exact fun v eff hv hs => ⟨(hp v eff hv hs).1, (hp v eff hv hs).2.1, ih _ (hp v eff hv hs).2.2⟩
  | commit k ih => exact ih hp

theorem Spares.admits (hp : p.Spares members entry I E Q)
    (hf : ∀ a, Q a → (f a).Admits members place entry lockOf seat name I E none) :
    (p >>= f).Admits members place entry lockOf seat name I E none := by
  induction p with
  | ret a => exact hf a hp
  | raise e => exact hp
  | query k ih => exact fun v hv => ih v (hp v hv)
  | exec stmt k ih =>
    exact fun v eff hv hs => Or.inl ⟨(hp v eff hv hs).1, (hp v eff hv hs).2.1, ih _ (hp v eff hv hs).2.2⟩
  | commit k ih => exact ih hp

end Program

namespace Config

variable [DecidableEq ι]

/-- The error with which the database refuses the next statement of a call. -/
def refusal? (c : Config ι σ κ ε α) (i : ι) : Option ε :=
  match (c.tasks i).code with
  | .exec stmt _ =>
    match stmt (c.view i) with
    | .error e => some e
    | .ok _ => none
  | _ => none

/-- The error of an aborted call or of a refused statement meets `E`. -/
def Refused (E : ε → Prop) (c : Config ι σ κ ε α) (i : ι) : Move ε → Prop
  | .abort e => E e
  | .advance => ∀ e ∈ c.refusal? i, E e

omit [DecidableEq ι] in
theorem refused_true (c : Config ι σ κ ε α) (i : ι) (m : Move ε) : Refused (fun _ => True) c i m := by
  cases m with
  | abort e => trivial
  | advance => exact fun _ _ => trivial

/-- The write of a member finds its place empty, and no other call is adding
one there. -/
def Alone (c : Config ι σ κ ε α) (i : ι) (view : σ) (eff : Effect σ κ) : Prop :=
  ∀ l ∈ eff.locks, ∀ x ∈ entry l,
    (∀ r ∈ (members view).rows, place r ≠ x) ∧ ∀ j, j ≠ i → ∀ l' ∈ (c.tasks j).held, entry l' ≠ some x

def EntersAlone (c : Config ι σ κ ε α) (i : ι) (m : Move ε) : Prop :=
  c.Writes (fun _ view eff => Alone members place entry c i view eff) i m

section Decidability

variable [Fintype ι] [DecidableEq χ]

instance (c : Config ι σ κ ε α) (i : ι) (view : σ) (eff : Effect σ κ) :
    Decidable (Alone members place entry c i view eff) :=
  inferInstanceAs (Decidable (∀ l ∈ eff.locks, ∀ x ∈ entry l, _ ∧ _))

instance [DecidableEq κ] (c : Config ι σ κ ε α) (i : ι) (m : Move ε) :
    Decidable (EntersAlone members place entry c i m) :=
  inferInstanceAs (Decidable (c.Writes _ i m))

omit [Fintype ι] [DecidableEq χ] in
instance {E : ε → Prop} [DecidablePred E] (c : Config ι σ κ ε α) (i : ι) (m : Move ε) : Decidable (Refused E c i m) :=
  match m with
  | .abort e => inferInstanceAs (Decidable (E e))
  | .advance => inferInstanceAs (Decidable (∀ e ∈ c.refusal? i, E e))

end Decidability

/-- Everything a move can do, with the errors it can end in. -/
inductive Ran (E : ε → Prop) (c : Config ι σ κ ε α) (i : ι) (m : Move ε) : Config ι σ κ ε α → Prop
  | stay : Ran E c i m c
  | rolled (e : ε) (he : (c.tasks i).code = .raise e ∨ E e) (hret : ∀ a, (c.tasks i).code ≠ .ret a) :
      Ran E c i m (c.set i ((c.tasks i).rollback e))
  | queried (k : σ → Program σ κ ε α) (hc : (c.tasks i).code = .query k) :
      Ran E c i m (c.set i { c.tasks i with code := k (c.view i), seen := c.view i })
  | wrote (stmt : σ → Except ε (Effect σ κ)) (k : σ → Program σ κ ε α) (eff : Effect σ κ) (hm : m = .advance)
      (hc : (c.tasks i).code = .exec stmt k) (hs : stmt (c.view i) = .ok eff) (hb : ¬ c.Blocked i eff.locks) :
      Ran E c i m (c.set i { c.tasks i with
        code := k (eff.apply (c.view i))
        pending := eff.apply ∘ (c.tasks i).pending
        held := eff.locks ++ (c.tasks i).held })
  | committed (k : Program σ κ ε α) (hc : (c.tasks i).code = .commit k) : Ran E c i m (c.land i k)

theorem act_ran [Fintype ι] [DecidableEq κ] {E : ε → Prop} {c : Config ι σ κ ε α} {i : ι} {m : Move ε}
    (h : Refused E c i m) : Ran E c i m (c.act i m) := by
  cases m with
  | abort e =>
    cases hc : (c.tasks i).code with
    | ret a =>
      have hstay : c.act i (.abort e) = c := by simp only [act, hc]
      rw [hstay]
      exact .stay
    | raise _ | query _ | exec _ _ | commit _ =>
      have hrolled : c.act i (.abort e) = c.set i ((c.tasks i).rollback e) := by simp only [act, hc]
      rw [hrolled]
      exact .rolled e (Or.inr h) (by simp [hc])
  | advance =>
    cases hc : (c.tasks i).code with
    | ret a =>
      have hstay : c.act i .advance = c := by simp only [act, hc]
      rw [hstay]
      exact .stay
    | raise e =>
      rw [act_raise hc]
      exact .rolled e (Or.inl hc) (by simp [hc])
    | query k =>
      rw [act_query hc]
      exact .queried k hc
    | exec stmt k =>
      cases hs : stmt (c.view i) with
      | error e =>
        rw [act_failed hc hs]
        exact .rolled e (Or.inr (h e (by simp [refusal?, hc, hs]))) (by simp [hc])
      | ok eff =>
        by_cases hb : c.Blocked i eff.locks
        · have hstay : c.act i .advance = c := by simp only [act, hc, hs, if_pos hb]
          rw [hstay]
          exact .stay
        · rw [act_exec hc hs hb]
          exact .wrote stmt k eff rfl hc hs hb
    | commit k =>
      rw [act_commit hc]
      exact .committed k hc

theorem Ran.frame {E : ε → Prop} {c c' : Config ι σ κ ε α} {i j : ι} (h : Ran E c i m c') (hj : j ≠ i) :
    c'.tasks j = c.tasks j := by
  cases h with
  | stay => rfl
  | rolled e he hret => exact set_tasks_ne c _ hj
  | queried k hc => exact set_tasks_ne c _ hj
  | wrote stmt k eff hm hc hs hb => exact set_tasks_ne c _ hj
  | committed k hc => exact land_tasks_ne c k hj

variable (I : σ → Prop) (E : ε → Prop)

/-- How far a call has got with adding its member. -/
inductive Entry (db : σ) (t : Task σ κ ε α) : Prop
  | outside (hcode : t.code.Admits members place entry lockOf seat name I E none)
      (hpending : ∀ s, members (t.pending s) = members s) (hheld : ∀ l ∈ t.held, entry l = none)
  | entering (row : ρ) (hcode : t.code.Admits members place entry lockOf seat name I E (some row))
      (hpending : ∀ s, members (t.pending s) = (members s).insert row)
      (hheld : ∃ l ∈ t.held, entry l = some (place row)) (hlocked : lockOf (key row) ∈ t.held)
      (hnew : (members db).find (key row) = none)
  | entered (a : α) (row : ρ) (hcode : t.code = .ret a) (hseat : seat a = place row) (hname : name a = key row)
      (hmem : row ∈ members db) (hheld : ∀ l ∈ t.held, entry l = none)

/-- The call is adding a member of the place, or has added one. -/
def Claims (x : χ) (t : Task σ κ ε α) : Prop :=
  (∃ l ∈ t.held, entry l = some x) ∨ ∃ a, t.code = .ret a ∧ seat a = x

/-- The member is from the start, or a call returned it. -/
def Explained (s : σ) (c : Config ι σ κ ε α) (r : ρ) : Prop :=
  r ∈ members s ∨ ∃ i a, (c.tasks i).code = .ret a ∧ seat a = place r ∧ name a = key r

/-- At every place at most one call has added a member, or is adding it; the
members are those of the start and those of the calls that returned. -/
structure Admission (E : ι → ε → Prop) (s : σ) (c : Config ι σ κ ε α) : Prop where
  entries : ∀ i, Entry members place entry lockOf seat name I (E i) c.db (c.tasks i)
  once : ∀ i j x, Claims entry seat x (c.tasks i) → Claims entry seat x (c.tasks j) → i = j
  origin : ∀ r ∈ members c.db, Explained members place seat name s c r
  kept : ∀ r ∈ members s, r ∈ members c.db

variable {members place entry lockOf seat name I E}

section Entries

variable {c c' : Config ι σ κ ε α} {i : ι}

theorem Entry.raised {db : σ} {t : Task σ κ ε α} (h : Entry members place entry lockOf seat name I E db t) {e : ε}
    (hc : t.code = .raise e) : E e := by
  cases h with
  | outside hcode _ _ =>
    rw [hc] at hcode
    exact hcode
  | entering row hcode _ _ _ _ =>
    rw [hc] at hcode
    exact hcode
  | entered a row hcode _ _ _ _ => cases hc.symm.trans hcode

theorem Entry.rolled (db : σ) (t : Task σ κ ε α) {e : ε} (he : E e) :
    Entry members place entry lockOf seat name I E db (t.rollback e) :=
  .outside he (fun _ => rfl) (fun _ hl => absurd hl List.not_mem_nil)

omit [DecidableEq ι] in
theorem Entry.queried (h : Entry members place entry lockOf seat name I E c.db (c.tasks i)) (hview : I (c.view i))
    {k : σ → Program σ κ ε α} (hc : (c.tasks i).code = .query k) :
    Entry members place entry lockOf seat name I E c.db { c.tasks i with code := k (c.view i), seen := c.view i } := by
  cases h with
  | outside hcode hpending hheld =>
    rw [hc] at hcode
    exact .outside (hcode _ hview) hpending hheld
  | entering row hcode hpending hheld hlocked hnew =>
    rw [hc] at hcode
    exact .entering row (hcode _ hview) hpending hheld hlocked hnew
  | entered a row hcode _ _ _ _ => cases hc.symm.trans hcode

omit [DecidableEq ι] in
/-- A write of a call that adds no member keeps its entry; one that does finds
the key of the member free. -/
theorem Entry.wrote (h : Entry members place entry lockOf seat name I E c.db (c.tasks i)) (hview : I (c.view i))
    {stmt : σ → Except ε (Effect σ κ)} {k : σ → Program σ κ ε α} {eff : Effect σ κ}
    (hc : (c.tasks i).code = .exec stmt k) (hs : stmt (c.view i) = .ok eff) :
    Entry members place entry lockOf seat name I E c.db { c.tasks i with
        code := k (eff.apply (c.view i))
        pending := eff.apply ∘ (c.tasks i).pending
        held := eff.locks ++ (c.tasks i).held } ∧
      ((∀ l ∈ eff.locks, entry l = none) ∨
        members (c.view i) = members c.db ∧ ∀ l ∈ (c.tasks i).held, entry l = none) := by
  cases h with
  | outside hcode hpending hheld =>
    rw [hc] at hcode
    obtain ⟨hnone, hsame, hnext⟩ | ⟨_, row, ⟨l, hl, hentry⟩, hlock, _, hfree, hinsert, hnext⟩ := hcode _ eff hview hs
    · refine ⟨.outside hnext (fun s => (hsame _).trans (hpending s)) (fun l hl => ?_), Or.inl hnone⟩
      obtain hl | hl := List.mem_append.mp hl
      · exact hnone l hl
      · exact hheld l hl
    · have hdb : members (c.view i) = members c.db := hpending c.db
      refine ⟨.entering row hnext (fun s => ?_) ⟨l, List.mem_append_left _ hl, hentry⟩ (List.mem_append_left _ hlock)
        (hdb ▸ hfree), Or.inr ⟨hdb, hheld⟩⟩
      change members (eff.apply ((c.tasks i).pending s)) = (members s).insert row
      rw [hinsert, hpending]
  | entering row hcode hpending hheld hlocked hnew =>
    rw [hc] at hcode
    obtain ⟨hnone, hsame, hnext⟩ | ⟨hadded, _⟩ := hcode _ eff hview hs
    · obtain ⟨l, hl, hentry⟩ := hheld
      exact ⟨.entering row hnext (fun s => (hsame _).trans (hpending s)) ⟨l, List.mem_append_right _ hl, hentry⟩
        (List.mem_append_right _ hlocked) hnew, Or.inl hnone⟩
    · cases hadded
  | entered a row hcode _ _ _ _ => cases hc.symm.trans hcode

omit [DecidableEq ι] in
theorem Entry.query_ne_ret (h : Entry members place entry lockOf seat name I E c.db (c.tasks i)) (hview : I (c.view i))
    {k : σ → Program σ κ ε α} (hc : (c.tasks i).code = .query k) (a : α) : k (c.view i) ≠ .ret a := by
  intro hret
  cases h with
  | outside hcode _ _ =>
    rw [hc] at hcode
    exact (hret ▸ hcode _ hview : (Program.ret a).Admits members place entry lockOf seat name I E none)
  | entering row hcode _ _ _ _ =>
    rw [hc] at hcode
    exact (hret ▸ hcode _ hview : (Program.ret a).Admits members place entry lockOf seat name I E (some row))
  | entered b row hcode _ _ _ _ => cases hc.symm.trans hcode

omit [DecidableEq ι] in
theorem Entry.exec_ne_ret (h : Entry members place entry lockOf seat name I E c.db (c.tasks i)) (hview : I (c.view i))
    {stmt : σ → Except ε (Effect σ κ)} {k : σ → Program σ κ ε α} {eff : Effect σ κ}
    (hc : (c.tasks i).code = .exec stmt k) (hs : stmt (c.view i) = .ok eff) (a : α) :
    k (eff.apply (c.view i)) ≠ .ret a := by
  intro hret
  have hnot : ∀ added, ¬ (k (eff.apply (c.view i))).Admits members place entry lockOf seat name I E added := by
    intro added hadmits
    rw [hret] at hadmits
    exact hadmits
  cases h with
  | outside hcode _ _ =>
    rw [hc] at hcode
    obtain ⟨_, _, hnext⟩ | ⟨_, row, _, _, _, _, _, hnext⟩ := hcode _ eff hview hs
    · exact hnot _ hnext
    · exact hnot _ hnext
  | entering row hcode _ _ _ _ =>
    rw [hc] at hcode
    obtain ⟨_, _, hnext⟩ | ⟨hadded, _⟩ := hcode _ eff hview hs
    · exact hnot _ hnext
    · cases hadded
  | entered b row hcode _ _ _ _ => cases hc.symm.trans hcode

theorem Entry.of_members {db db' : σ} {t : Task σ κ ε α} (h : Entry members place entry lockOf seat name I E db t)
    (hdb : members db' = members db) : Entry members place entry lockOf seat name I E db' t := by
  cases h with
  | outside hcode hpending hheld => exact .outside hcode hpending hheld
  | entering row hcode hpending hheld hlocked hnew => exact .entering row hcode hpending hheld hlocked (hdb ▸ hnew)
  | entered a row hcode hseat hname hmem hheld => exact .entered a row hcode hseat hname (hdb ▸ hmem) hheld

/-- Another call adds a member under a key that this one has not locked. -/
theorem Entry.of_insert {db db' : σ} {t : Task σ κ ε α} (h : Entry members place entry lockOf seat name I E db t)
    {row : ρ} (hnew : (members db).find (key row) = none) (hdb : members db' = (members db).insert row)
    (hlock : lockOf (key row) ∉ t.held) : Entry members place entry lockOf seat name I E db' t := by
  have hmem : ∀ r, r ∈ members db' ↔ r ∈ members db ∨ r = row := by
    intro r
    rw [hdb, Table.mem_insert hnew]
  cases h with
  | outside hcode hpending hheld => exact .outside hcode hpending hheld
  | entering other hcode hpending hheld hlocked hfree =>
    refine .entering other hcode hpending hheld hlocked (Table.find_eq_none_iff.mpr (fun r hr hk => ?_))
    obtain hold | rfl := (hmem r).mp hr
    · exact Table.find_eq_none_iff.mp hfree r hold hk
    · exact hlock (hk ▸ hlocked)
  | entered a other hcode hseat hname hold hheld =>
    exact .entered a other hcode hseat hname ((hmem other).mpr (Or.inl hold)) hheld

end Entries

section Steps

variable {E : ι → ε → Prop} {s : σ} {c c' : Config ι σ κ ε α} {i : ι} {m : Move ε}

omit [DecidableEq ι] in
theorem Admission.member (h : Admission members place entry lockOf seat name I E s c) {a : α}
    (ha : (c.tasks i).code = .ret a) : ∃ r ∈ members c.db, place r = seat a ∧ key r = name a := by
  cases h.entries i with
  | outside hcode _ _ =>
    rw [ha] at hcode
    exact hcode.elim
  | entering row hcode _ _ _ _ =>
    rw [ha] at hcode
    exact hcode.elim
  | entered b row hcode hseat hname hmem _ =>
    cases ha.symm.trans hcode
    exact ⟨row, hmem, hseat.symm, hname.symm⟩

omit [DecidableEq ι] in
/-- Where nobody stood at first, at most one member stands. -/
theorem Admission.unique (h : Admission members place entry lockOf seat name I E s c) {x : χ}
    (hs : ∀ r ∈ members s, place r ≠ x) {r r' : ρ} (hr : r ∈ members c.db) (hr' : r' ∈ members c.db)
    (hx : place r = x) (hx' : place r' = x) : r = r' := by
  obtain hold | ⟨i, a, ha, hseat, hname⟩ := h.origin r hr
  · exact absurd hx (hs r hold)
  obtain hold | ⟨j, b, hb, hseat', hname'⟩ := h.origin r' hr'
  · exact absurd hx' (hs r' hold)
  have hij : i = j :=
    h.once i j x (Or.inr ⟨a, ha, hseat.trans hx⟩) (Or.inr ⟨b, hb, hseat'.trans hx'⟩)
  subst hij
  cases ha.symm.trans hb
  exact Table.eq_of_mem hr hr' (hname.symm.trans hname')

omit [DecidableEq τ] in
theorem Explained.ran {e : ε → Prop} {r : ρ} (h : Explained members place seat name s c r) (hran : Ran e c i m c')
    (hret : ∀ a, (c.tasks i).code ≠ .ret a) : Explained members place seat name s c' r := by
  obtain hold | ⟨j, a, ha, hmember⟩ := h
  · exact Or.inl hold
  · have hji : j ≠ i := by
      rintro rfl
      exact hret a ha
    exact Or.inr ⟨j, a, (hran.frame hji).symm ▸ ha, hmember⟩

/-- A move of a call that has not returned and commits no member. -/
theorem Admission.of_task (h : Admission members place entry lockOf seat name I E s c) (hran : Ran (E i) c i m c')
    (hdb : members c'.db = members c.db)
    (hentry : Entry members place entry lockOf seat name I (E i) c'.db (c'.tasks i))
    (hbefore : ∀ a, (c.tasks i).code ≠ .ret a)
    (honce : ∀ j x, j ≠ i → Claims entry seat x (c'.tasks i) → ¬ Claims entry seat x (c.tasks j)) :
    Admission members place entry lockOf seat name I E s c' := by
  refine ⟨fun j => ?_, fun j j' x hj hj' => ?_, fun r hr => ?_, fun r hr => ?_⟩
  · by_cases hji : j = i
    · exact hji ▸ hentry
    · rw [hran.frame hji]
      exact (h.entries j).of_members hdb
  · by_cases hji : j = i <;> by_cases hj'i : j' = i
    · rw [hji, hj'i]
    · rw [hji] at hj
      rw [hran.frame hj'i] at hj'
      exact absurd hj' (honce j' x hj'i hj)
    · rw [hj'i] at hj'
      rw [hran.frame hji] at hj
      exact absurd hj (honce j x hji hj')
    · rw [hran.frame hji] at hj
      rw [hran.frame hj'i] at hj'
      exact h.once j j' x hj hj'
  · exact (h.origin r (hdb ▸ hr)).ran hran hbefore
  · exact hdb ▸ h.kept r hr

theorem Admission.rolled (h : Admission members place entry lockOf seat name I E s c) {e : ε}
    (he : (c.tasks i).code = .raise e ∨ E i e) (hret : ∀ a, (c.tasks i).code ≠ .ret a) :
    Admission members place entry lockOf seat name I E s (c.set i ((c.tasks i).rollback e)) := by
  have hthrown : E i e := he.elim (h.entries i).raised id
  refine h.of_task (Ran.rolled (m := .advance) e he hret) rfl ?_ hret ?_
  · rw [set_tasks_self]
    exact Entry.rolled _ _ hthrown
  · rw [set_tasks_self]
    rintro j x _ (⟨l, hl, _⟩ | ⟨a, ha, _⟩)
    · exact absurd hl List.not_mem_nil
    · cases ha

theorem Admission.queried (h : Admission members place entry lockOf seat name I E s c) (hview : I (c.view i))
    {k : σ → Program σ κ ε α} (hc : (c.tasks i).code = .query k) :
    Admission members place entry lockOf seat name I E s
      (c.set i { c.tasks i with code := k (c.view i), seen := c.view i }) := by
  refine h.of_task (Ran.queried (m := .advance) k hc) rfl ?_ (by simp [hc]) ?_
  · rw [set_tasks_self]
    exact (h.entries i).queried hview hc
  · rw [set_tasks_self]
    rintro j x hj (hheld | ⟨a, ha, _⟩) hclaims
    · exact hj (h.once j i x hclaims (Or.inl hheld))
    · exact (h.entries i).query_ne_ret hview hc a ha

/-- A write that adds a member is the first of its place. -/
theorem Admission.wrote (h : Admission members place entry lockOf seat name I E s c) (hview : I (c.view i))
    (halone : EntersAlone members place entry c i .advance) {stmt : σ → Except ε (Effect σ κ)}
    {k : σ → Program σ κ ε α} {eff : Effect σ κ} (hc : (c.tasks i).code = .exec stmt k)
    (hs : stmt (c.view i) = .ok eff) (hb : ¬ c.Blocked i eff.locks) :
    Admission members place entry lockOf seat name I E s (c.set i { c.tasks i with
      code := k (eff.apply (c.view i))
      pending := eff.apply ∘ (c.tasks i).pending
      held := eff.locks ++ (c.tasks i).held }) := by
  obtain ⟨hnext, hadds⟩ := (h.entries i).wrote hview hc hs
  refine h.of_task (.wrote stmt k eff rfl hc hs hb) rfl ?_ (by simp [hc]) ?_
  · rw [set_tasks_self]
    exact hnext
  · rw [set_tasks_self]
    rintro j x hj (⟨l, hl, hx⟩ | ⟨a, ha, _⟩) hclaims
    · obtain hnew | hold := List.mem_append.mp hl
      · obtain hnone | ⟨hdb, _⟩ := hadds
        · rw [hnone l hnew] at hx
          cases hx
        · obtain ⟨hfree, hothers⟩ := halone stmt k eff rfl hc hs hb l hnew x hx
          obtain ⟨l', hl', hx'⟩ | ⟨a, ha, hseat⟩ := hclaims
          · exact hothers j hj l' hl' hx'
          · obtain ⟨r, hr, hplace, _⟩ := h.member ha
            exact hfree r (hdb ▸ hr) (hplace.trans hseat)
      · exact hj (h.once j i x hclaims (Or.inl ⟨l, hold, hx⟩))
    · exact (h.entries i).exec_ne_ret hview hc hs a ha

theorem Admission.landed (h : Admission members place entry lockOf seat name I E s c) (hx : Exclusive c)
    {k : Program σ κ ε α} (hc : (c.tasks i).code = .commit k) :
    Admission members place entry lockOf seat name I E s (c.land i k) := by
  have hran : Ran (E i) c i .advance (c.land i k) := .committed k hc
  have hbefore : ∀ a, (c.tasks i).code ≠ .ret a := by simp [hc]
  cases h.entries i with
  | outside hcode hpending hheld =>
    rw [hc] at hcode
    refine h.of_task hran (hpending c.db) ?_ hbefore ?_
    · rw [land_tasks_self]
      exact .outside hcode (fun _ => rfl) (fun l hl => absurd hl List.not_mem_nil)
    · rw [land_tasks_self]
      rintro j x _ (⟨l, hl, _⟩ | ⟨a, ha, _⟩)
      · exact absurd hl List.not_mem_nil
      · have hret : (Program.ret a).Admits members place entry lockOf seat name I (E i) none := ha ▸ hcode
        exact hret.elim
  | entered a row hcode _ _ _ _ => cases hc.symm.trans hcode
  | entering row hcode hpending hheld hlocked hnew =>
    rw [hc] at hcode
    obtain ⟨a, rfl, hseat, hname⟩ := hcode
    have hdb : members (c.land i (.ret a)).db = (members c.db).insert row := hpending c.db
    have hmem : ∀ r, r ∈ members (c.land i (.ret a)).db ↔ r ∈ members c.db ∨ r = row := by
      intro r
      rw [hdb, Table.mem_insert hnew]
    -- the claim of the call is the one it had while it was adding the row
    have hclaims : ∀ j x, Claims entry seat x ((c.land i (.ret a)).tasks j) → Claims entry seat x (c.tasks j) := by
      intro j x hj
      by_cases hji : j = i
      · subst hji
        rw [land_tasks_self] at hj
        obtain ⟨l, hl, _⟩ | ⟨b, hb, hx⟩ := hj
        · exact absurd hl List.not_mem_nil
        · cases hb
          exact Or.inl (hx ▸ hseat ▸ hheld)
      · exact land_tasks_ne c (.ret a) hji ▸ hj
    refine ⟨fun j => ?_, fun j j' x hj hj' => h.once j j' x (hclaims j x hj) (hclaims j' x hj'), fun r hr => ?_,
      fun r hr => (hmem r).mpr (Or.inl (h.kept r hr))⟩
    · by_cases hji : j = i
      · subst hji
        rw [land_tasks_self]
        exact .entered a row rfl hseat hname ((hmem row).mpr (Or.inr rfl)) (fun l hl => absurd hl List.not_mem_nil)
      · rw [land_tasks_ne c _ hji]
        exact (h.entries j).of_insert hnew hdb (hx i j (Ne.symm hji) _ hlocked)
    · obtain hold | rfl := (hmem r).mp hr
      · exact (h.origin r hold).ran hran hbefore
      · exact Or.inr ⟨i, a, by rw [land_tasks_self]; rfl, hseat, hname⟩

theorem Admission.ran (h : Admission members place entry lockOf seat name I E s c) (hx : Exclusive c)
    (hview : I (c.view i)) (halone : EntersAlone members place entry c i m) (hran : Ran (E i) c i m c') :
    Admission members place entry lockOf seat name I E s c' := by
  cases hran with
  | stay => exact h
  | rolled e he hret => exact h.rolled he hret
  | queried k hc => exact h.queried hview hc
  | wrote stmt k eff hm hc hs hb => exact h.wrote hview (hm ▸ halone) hc hs hb
  | committed k hc => exact h.landed hx hc

omit [DecidableEq ι] in
theorem admission_start {calls : ι → Program σ κ ε α}
    (hcalls : ∀ i, (calls i).Admits members place entry lockOf seat name I (E i) none) (s : σ) :
    Admission members place entry lockOf seat name I E s (start s calls) := by
  have hnone : ∀ i, ∀ l ∈ ((start s calls).tasks i).held, entry l = none := fun _ _ hl => absurd hl List.not_mem_nil
  have hret : ∀ i a, ((start s calls).tasks i).code ≠ .ret a := by
    intro i a ha
    have hadmits := hcalls i
    rw [show calls i = .ret a from ha] at hadmits
    exact hadmits
  refine ⟨fun i => .outside (hcalls i) (fun _ => rfl) (hnone i), ?_, fun r hr => Or.inl hr, fun r hr => hr⟩
  rintro i j x (⟨l, hl, _⟩ | ⟨a, ha, _⟩)
  · exact absurd hl List.not_mem_nil
  · exact absurd ha (hret i a)

end Steps

/-- In every run in which each member is added alone, at an empty place, no
place is filled twice. -/
theorem admission_run [Fintype ι] [DecidableEq κ] (rel : σ → σ → Prop) (hrefl : ∀ s, rel s s)
    (htrans : ∀ s t u, rel s t → rel t u → rel s u) {E : ι → ε → Prop} {calls : ι → Program σ κ ε α} {s : σ}
    (hgrows : ∀ i, (calls i).Guarantees rel) (hview : ∀ v, rel s v → I v)
    (hcalls : ∀ i, (calls i).Admits members place entry lockOf seat name I (E i) none) {schedule : List (ι × Move ε)}
    (halone : Along (EntersAlone members place entry) (start s calls) schedule)
    (hrefused : Along (fun c i m => Refused (E i) c i m) (start s calls) schedule) :
    Admission members place entry lockOf seat name I E s ((start s calls).run schedule) := by
  have hinv : ((start s calls).run schedule).Grows rel ∧ rel s ((start s calls).run schedule).db ∧
      Exclusive ((start s calls).run schedule) ∧
      Admission members place entry lockOf seat name I E s ((start s calls).run schedule) := by
    refine runFrom_inv (I := fun c => c.Grows rel ∧ rel s c.db ∧ Exclusive c ∧
      Admission members place entry lockOf seat name I E s c) ?_
      ⟨grows_start hrefl hgrows s, hrefl s, exclusive_start s calls, admission_start hcalls s⟩ (halone.and hrefused)
    rintro c ⟨i, m⟩ ⟨hg, hdb, hx, h⟩ ⟨hentering, herror⟩
    have hacted := act_acted c i m
    obtain ⟨hg', hstep⟩ := hacted.grows hrefl htrans hg
    have hseen : I (c.view i) := hview _ (htrans _ _ _ hdb (hg.pending i c.db))
    exact ⟨hg', htrans _ _ _ hdb hstep, hacted.exclusive hx, h.ran hx hseen hentering (act_ran herror)⟩
  exact hinv.2.2.2

end Config

end HostPanel.Lib
