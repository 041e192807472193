import HostPanel.Lib.Growth
import HostPanel.Model.Schema

namespace HostPanel.Model

open HostPanel.Lib HostPanel.Lib.Program

variable {ρ ι α β : Type}

/-- One model of the schema: its table, the lock of a row, the index entries a
row takes up and whether the rows it refers to exist. -/
structure Relation (key : ρ → ι) where
  get : Store → Table key
  set : Table key → Store → Store
  get_set : ∀ t s, get (set t s) = t := by intro t s; rfl
  lock : ι → Lock
  entries : ρ → List Lock := fun r => [lock (key r)]
  lock_mem : ∀ r, lock (key r) ∈ entries r := by intro r; exact List.mem_cons_self
  references : ρ → Store → Bool := fun _ _ => true

def ensure (p : Prop) [Decidable p] (e : Failure) : Db Unit := if p then .ret () else .raise e

def lift : Except Failure α → Db α
  | .ok a => .ret a
  | .error e => .raise e

namespace Relation

variable [DecidableEq ι] {key : ρ → ι} (R : Relation key)

def modify (i : ι) (f : ρ → ρ) (hf : ∀ r, key (f r) = key r := by intro r; rfl) (s : Store) : Store :=
  R.set ((R.get s).modify i f hf) s

def modifyWhere (p : ρ → Bool) (f : ρ → ρ) (hf : ∀ r, key (f r) = key r := by intro r; rfl) (s : Store) : Store :=
  R.set ((R.get s).updateWhere p f hf) s

def insert (row : ρ) (s : Store) : Store := R.set ((R.get s).insert row) s

/-- No index entry of the row is taken. -/
def Fresh (row : ρ) (s : Store) : Prop :=
  (R.entries row).Nodup ∧ ∀ q ∈ (R.get s).rows, ∀ l ∈ R.entries row, l ∉ R.entries q

instance (row : ρ) (s : Store) : Decidable (R.Fresh row s) :=
  inferInstanceAs (Decidable (_ ∧ _))

def findFirst (p : ρ → Bool) : Db (Option ρ) := .query (fun v => .ret ((R.get v).rows.find? p))

def findUnique (i : ι) : Db (Option ρ) := .query (fun v => .ret ((R.get v).find i))

def findUniqueOrThrow (i : ι) : Db ρ :=
  .query (fun v =>
    match (R.get v).find i with
    | some r => .ret r
    | none => .raise .recordNotFound)

def update (i : ι) (f : ρ → ρ) (hf : ∀ r, key (f r) = key r := by intro r; rfl) : Db ρ :=
  .exec
    (fun v =>
      match (R.get v).find i with
      | some _ => .ok ⟨[R.lock i], R.modify i f hf⟩
      | none => .error .recordNotFound)
    (fun v =>
      match (R.get v).find i with
      | some r => .ret r
      | none => .raise .recordNotFound)

/-- The rows a write finds in `v`, as long as they meet its condition. -/
def found (p : ρ → Bool) (v : Store) (r : ρ) : Bool :=
  p r && (R.get v).rows.any (fun q => p q && decide (key q = key r))

/-- Rows inserted while the write is not committed yet are none of those it found. -/
def updateMany (p : ρ → Bool) (f : ρ → ρ) (hf : ∀ r, key (f r) = key r := by intro r; rfl) : Db Unit :=
  .exec
    (fun v => .ok ⟨((R.get v).rows.filter p).map (fun r => R.lock (key r)), R.modifyWhere (R.found p v) f hf⟩)
    (fun _ => .ret ())

def create (row : ρ) : Db ρ :=
  .exec
    (fun v =>
      if R.Fresh row v then
        if R.references row v then .ok ⟨R.entries row, R.insert row⟩ else .error .foreignKeyViolation
      else .error .uniqueViolation)
    (fun _ => .ret row)

/-- `INSERT ... ON CONFLICT DO UPDATE` with nothing to set: the row of the index,
as it was or new. -/
def upsert (p : ρ → Bool) (row : ρ) : Db ρ :=
  .exec
    (fun v =>
      match (R.get v).rows.find? p with
      | some r => .ok ⟨[R.lock (key r)], id⟩
      | none =>
        if R.Fresh row v then
          if R.references row v then .ok ⟨R.entries row, R.insert row⟩ else .error .foreignKeyViolation
        else .error .uniqueViolation)
    (fun v =>
      match (R.get v).rows.find? p with
      | some r => .ret r
      | none => .raise .recordNotFound)

variable {R}

theorem find_of_fresh {row : ρ} {s : Store} (h : R.Fresh row s) : (R.get s).find (key row) = none := by
  rw [Table.find_eq_none_iff]
  intro q hq hk
  exact h.2 q hq (R.lock (key row)) (R.lock_mem row) (hk ▸ R.lock_mem q)

theorem fresh_single_iff {row : ρ} {s : Store} (hentries : ∀ r, R.entries r = [R.lock (key r)])
    (hlock : Function.Injective R.lock) : R.Fresh row s ↔ (R.get s).find (key row) = none := by
  refine ⟨find_of_fresh, fun h => ?_⟩
  refine ⟨by simp [hentries], fun q hq l hl hl' => ?_⟩
  rw [hentries, List.mem_singleton] at hl hl'
  exact Table.find_eq_none_iff.mp h q hq (hlock (hl'.symm.trans hl))

/-- A row with one unique index besides its key. -/
theorem fresh_pair_iff {mark : ρ → Lock} {row : ρ} {s : Store} (hentries : ∀ r, R.entries r = [R.lock (key r), mark r])
    (hlock : Function.Injective R.lock) (hapart : ∀ i r, R.lock i ≠ mark r) :
    R.Fresh row s ↔ (R.get s).find (key row) = none ∧ ∀ q ∈ (R.get s).rows, mark q ≠ mark row := by
  unfold Fresh
  simp only [hentries, List.mem_cons, List.not_mem_nil, or_false, Table.find_eq_none_iff, Table.mem_def]
  constructor
  · rintro ⟨_, h⟩
    exact ⟨fun q hq hk => h q hq _ (Or.inl rfl) (Or.inl (by rw [hk])),
      fun q hq hm => h q hq _ (Or.inr rfl) (Or.inr hm.symm)⟩
  · rintro ⟨hid, hmark⟩
    refine ⟨by simp [hapart], fun q hq l hl hl' => ?_⟩
    obtain rfl | rfl := hl
    · obtain hl' | hl' := hl'
      · exact hid q hq (hlock hl').symm
      · exact hapart _ _ hl'
    · obtain hl' | hl' := hl'
      · exact hapart _ _ hl'.symm
      · exact hmark q hq hl'.symm

theorem find_modify {i : ι} {f : ρ → ρ} (hf : ∀ r, key (f r) = key r) {s : Store} {r : ρ}
    (h : (R.get s).find i = some r) : (R.get (R.modify i f hf s)).find i = some (f r) := by
  rw [modify, R.get_set, Table.find_modify_self, h, Option.map_some]

theorem effect_of_update {i : ι} {f : ρ → ρ} {hf : ∀ r, key (f r) = key r} {v : Store} {eff : Effect Store Lock}
    (h : (match (R.get v).find i with
      | some _ => (.ok ⟨[R.lock i], R.modify i f hf⟩ : Except Failure (Effect Store Lock))
      | none => .error .recordNotFound) = .ok eff) :
    ∃ r, (R.get v).find i = some r ∧ eff = ⟨[R.lock i], R.modify i f hf⟩ := by
  cases hr : (R.get v).find i with
  | none =>
    rw [hr] at h
    cases h
  | some r =>
    rw [hr] at h
    exact ⟨r, rfl, (Except.ok.inj h).symm⟩

/-- What an insert does where it does not fail. -/
theorem effect_of_create {row : ρ} {v : Store} {eff : Effect Store Lock}
    (h : (if R.Fresh row v then
        if R.references row v then (.ok ⟨R.entries row, R.insert row⟩ : Except Failure (Effect Store Lock))
        else .error .foreignKeyViolation
      else .error .uniqueViolation) = .ok eff) : R.Fresh row v ∧ eff = ⟨R.entries row, R.insert row⟩ := by
  by_cases hfresh : R.Fresh row v
  · by_cases hrefs : R.references row v = true
    · rw [if_pos hfresh, if_pos hrefs] at h
      exact ⟨hfresh, (Except.ok.inj h).symm⟩
    · rw [if_pos hfresh, if_neg hrefs] at h
      cases h
  · rw [if_neg hfresh] at h
    cases h

/-- What an upsert does where it does not fail: nothing, or it inserts. -/
theorem effect_of_upsert {p : ρ → Bool} {row : ρ} {v : Store} {eff : Effect Store Lock}
    (h : (match (R.get v).rows.find? p with
      | some r => (.ok ⟨[R.lock (key r)], id⟩ : Except Failure (Effect Store Lock))
      | none =>
        if R.Fresh row v then
          if R.references row v then .ok ⟨R.entries row, R.insert row⟩ else .error .foreignKeyViolation
        else .error .uniqueViolation) = .ok eff) :
    (∃ r, (R.get v).rows.find? p = some r ∧ eff = ⟨[R.lock (key r)], id⟩) ∨
      R.Fresh row v ∧ eff = ⟨R.entries row, R.insert row⟩ := by
  cases hr : (R.get v).rows.find? p with
  | some r =>
    rw [hr] at h
    exact Or.inl ⟨r, rfl, (Except.ok.inj h).symm⟩
  | none =>
    rw [hr] at h
    by_cases hfresh : R.Fresh row v
    · by_cases hrefs : R.references row v = true
      · simp only [hfresh, hrefs, if_true] at h
        exact Or.inr ⟨hfresh, (Except.ok.inj h).symm⟩
      · simp [hfresh, hrefs] at h
    · simp [hfresh] at h

theorem of_found {p : ρ → Bool} {v : Store} {r : ρ} (h : R.found p v r = true) : p r = true :=
  (Bool.and_eq_true_iff.mp h).1

theorem modifyWhere_found (p : ρ → Bool) (f : ρ → ρ) (hf : ∀ r, key (f r) = key r) (v : Store) :
    R.modifyWhere (R.found p v) f hf v = R.modifyWhere p f hf v := by
  refine congrArg (fun t => R.set t v) (Table.updateWhere_congr _ hf (fun r hr => ?_))
  cases hp : p r with
  | false => rw [found, hp, Bool.false_and]
  | true =>
    rw [found, hp, Bool.true_and, List.any_eq_true]
    exact ⟨r, hr, by simp [hp]⟩

section Evaluation

variable {c v : Store} {out : β × Store × Store}

omit [DecidableEq ι] in
theorem eval_findFirst_bind {p : ρ → Bool} {k : Option ρ → Db β} :
    (R.findFirst p >>= k).eval c v = .ok out ↔ (k ((R.get v).rows.find? p)).eval c v = .ok out := Iff.rfl

theorem eval_findUniqueOrThrow_bind {i : ι} {k : ρ → Db β} :
    (R.findUniqueOrThrow i >>= k).eval c v = .ok out ↔
      ∃ r, (R.get v).find i = some r ∧ (k r).eval c v = .ok out := by
  cases h : (R.get v).find i <;> simp [findUniqueOrThrow, h]

theorem eval_update_bind {i : ι} {f : ρ → ρ} {hf : ∀ r, key (f r) = key r} {k : ρ → Db β} :
    (R.update i f hf >>= k).eval c v = .ok out ↔
      ∃ r, (R.get v).find i = some r ∧ (k (f r)).eval c (R.modify i f hf v) = .ok out := by
  cases h : (R.get v).find i with
  | none => simp [update, eval_exec, h]
  | some r =>
    have hr : (R.get (R.modify i f hf v)).find i = some (f r) := find_modify hf h
    simp [update, eval_exec, h, hr]

theorem eval_updateMany_bind {p : ρ → Bool} {f : ρ → ρ} {hf : ∀ r, key (f r) = key r} {k : Unit → Db β} :
    (R.updateMany p f hf >>= k).eval c v = .ok out ↔ (k ()).eval c (R.modifyWhere p f hf v) = .ok out := by
  rw [← modifyWhere_found]
  rfl

theorem eval_create_bind {row : ρ} {k : ρ → Db β} :
    (R.create row >>= k).eval c v = .ok out ↔
      R.Fresh row v ∧ R.references row v = true ∧ (k row).eval c (R.insert row v) = .ok out := by
  by_cases hu : R.Fresh row v
  · by_cases hr : R.references row v = true
    · simp [create, eval_exec, hu, hr]
    · simp [create, eval_exec, hu, hr]
  · simp [create, eval_exec, hu]

end Evaluation

omit [DecidableEq ι] in
theorem uncommitted_findFirst (p : ρ → Bool) : (R.findFirst p).Uncommitted := fun _ => trivial

theorem uncommitted_findUniqueOrThrow (i : ι) : (R.findUniqueOrThrow i).Uncommitted := by
  intro v
  cases h : (R.get v).find i <;> simp only [h] <;> trivial

theorem uncommitted_update (i : ι) (f : ρ → ρ) (hf : ∀ r, key (f r) = key r) :
    (R.update i f hf).Uncommitted := by
  intro v
  cases h : (R.get v).find i <;> simp only [h] <;> trivial

theorem uncommitted_updateMany (p : ρ → Bool) (f : ρ → ρ) (hf : ∀ r, key (f r) = key r) :
    (R.updateMany p f hf).Uncommitted := fun _ => trivial

theorem uncommitted_create (row : ρ) : (R.create row).Uncommitted := fun _ => trivial

section Leaves

variable {π : Store → β}

omit [DecidableEq ι] in
theorem leaves_findFirst (p : ρ → Bool) : (R.findFirst p).Leaves π := fun _ => trivial

theorem leaves_findUniqueOrThrow (i : ι) : (R.findUniqueOrThrow i).Leaves π := by
  intro v
  cases h : (R.get v).find i <;> simp only [h] <;> trivial

theorem leaves_update (i : ι) (f : ρ → ρ) (hf : ∀ r, key (f r) = key r) (h : ∀ t, π (R.modify i f hf t) = π t) :
    (R.update i f hf).Leaves π := by
  constructor
  · intro v eff he
    obtain ⟨_, _, rfl⟩ := effect_of_update he
    exact h
  · intro v
    cases hr : (R.get v).find i <;> simp only [hr] <;> trivial

theorem leaves_updateMany (p : ρ → Bool) (f : ρ → ρ) (hf : ∀ r, key (f r) = key r)
    (h : ∀ q t, π (R.modifyWhere q f hf t) = π t) : (R.updateMany p f hf).Leaves π := by
  refine ⟨?_, fun _ => trivial⟩
  intro v eff he
  cases he
  exact h _

theorem leaves_create (row : ρ) (h : ∀ t, π (R.insert row t) = π t) : (R.create row).Leaves π := by
  refine ⟨?_, fun _ => trivial⟩
  intro v eff he
  obtain ⟨_, rfl⟩ := effect_of_create he
  exact h

end Leaves

section Guarantees

variable {rel : Store → Store → Prop}

omit [DecidableEq ι] in
theorem guarantees_findFirst (p : ρ → Bool) : (R.findFirst p).Guarantees rel := fun _ => trivial

theorem guarantees_findUnique (i : ι) : (R.findUnique i).Guarantees rel := fun _ => trivial

theorem guarantees_findUniqueOrThrow (i : ι) : (R.findUniqueOrThrow i).Guarantees rel := by
  intro v
  cases h : (R.get v).find i <;> simp only [h] <;> trivial

theorem guarantees_update (i : ι) (f : ρ → ρ) (hf : ∀ r, key (f r) = key r) (h : ∀ t, rel t (R.modify i f hf t)) :
    (R.update i f hf).Guarantees rel := by
  constructor
  · intro v eff he
    obtain ⟨_, _, rfl⟩ := effect_of_update he
    exact h
  · intro v
    cases hr : (R.get v).find i <;> simp only [hr] <;> trivial

theorem guarantees_updateMany (p : ρ → Bool) (f : ρ → ρ) (hf : ∀ r, key (f r) = key r)
    (h : ∀ q : ρ → Bool, (∀ r, q r = true → p r = true) → ∀ t, rel t (R.modifyWhere q f hf t)) :
    (R.updateMany p f hf).Guarantees rel := by
  refine ⟨?_, fun _ => trivial⟩
  intro v eff he
  cases he
  exact h _ (fun _ => of_found)

theorem guarantees_create (row : ρ) (h : ∀ t, rel t (R.insert row t)) : (R.create row).Guarantees rel := by
  refine ⟨?_, fun _ => trivial⟩
  intro v eff he
  obtain ⟨_, rfl⟩ := effect_of_create he
  exact h

theorem guarantees_upsert {p : ρ → Bool} {row : ρ} (hrefl : ∀ t, rel t t)
    (h : ∀ t, rel t (R.insert row t)) : (R.upsert p row).Guarantees rel := by
  refine ⟨fun v eff hs => ?_, fun v => ?_⟩
  · obtain ⟨r, _, rfl⟩ | ⟨_, rfl⟩ := effect_of_upsert hs
    · exact hrefl
    · exact h
  · cases hr : (R.get v).rows.find? p <;> simp only [hr] <;> trivial

end Guarantees

variable {P : Store → Store → Effect Store Lock → Prop}

omit [DecidableEq ι] in
theorem ensures_findFirst {p : ρ → Bool} {Q : Option ρ → Store → Prop} {seen : Store} :
    (R.findFirst p).Ensures P Q seen ↔ ∀ v, Q ((R.get v).rows.find? p) v := Iff.rfl

theorem ensures_findUniqueOrThrow {i : ι} {Q : ρ → Store → Prop} {seen : Store} :
    (R.findUniqueOrThrow i).Ensures P Q seen ↔ ∀ v r, (R.get v).find i = some r → Q r v := by
  simp only [findUniqueOrThrow, Ensures]
  refine forall_congr' (fun v => ?_)
  cases h : (R.get v).find i with
  | none => simp [Ensures]
  | some r => simp [Ensures]

theorem ensures_update {i : ι} {f : ρ → ρ} {hf : ∀ r, key (f r) = key r} {Q : ρ → Store → Prop} {seen : Store} :
    (R.update i f hf).Ensures P Q seen ↔
      ∀ v r, (R.get v).find i = some r → P seen v ⟨[R.lock i], R.modify i f hf⟩ ∧ Q (f r) seen := by
  simp only [update, Ensures]
  refine forall_congr' (fun v => ?_)
  cases h : (R.get v).find i with
  | none => simp
  | some r =>
    have hr : (R.get (R.modify i f hf v)).find i = some (f r) := find_modify hf h
    simp [hr, Ensures]

end Relation

theorem eval_ensure_bind {p : Prop} [Decidable p] {e : Failure} {k : Unit → Db β} {c v : Store}
    {out : β × Store × Store} :
    (ensure p e >>= k).eval c v = .ok out ↔ p ∧ (k ()).eval c v = .ok out := by
  by_cases hp : p <;> simp [ensure, hp]

theorem eval_ensure_ok {p : Prop} [Decidable p] {e : Failure} {c v c' v' : Store} {a : Unit}
    (h : (ensure p e).eval c v = .ok (a, c', v')) : c' = c ∧ v' = v := by
  by_cases hp : p
  · simp only [ensure, hp, if_true] at h
    cases h
    exact ⟨rfl, rfl⟩
  · simp [ensure, hp] at h

theorem eval_lift_bind {x : Except Failure α} {k : α → Db β} {c v : Store} {out : β × Store × Store} :
    (lift x >>= k).eval c v = .ok out ↔ ∃ a, x = .ok a ∧ (k a).eval c v = .ok out := by
  cases x <;> simp [lift]

theorem lift_ok_bind {x : Except Failure α} {a : α} {k : α → Db β} (h : x = .ok a) : (lift x >>= k) = k a := by
  rw [h]
  rfl

theorem after_ensure_bind {p : Prop} [Decidable p] {e : Failure} {k : Unit → Db β} (s : Store) :
    (ensure p e >>= k).after s = s ∨ p ∧ (ensure p e >>= k).after s = (k ()).after s := by
  by_cases hp : p
  · rw [ensure, if_pos hp]
    exact Or.inr ⟨hp, rfl⟩
  · rw [ensure, if_neg hp]
    exact Or.inl rfl

theorem Relation.after_findUniqueOrThrow_bind [DecidableEq ι] {key : ρ → ι} {R : Relation key} {i : ι}
    {k : ρ → Db β} (s : Store) :
    (R.findUniqueOrThrow i >>= k).after s = s ∨
      ∃ r, (R.get s).find i = some r ∧ (R.findUniqueOrThrow i >>= k).after s = (k r).after s := by
  have hq : (R.findUniqueOrThrow i >>= k).after s =
      ((match (R.get s).find i with
        | some r => .ret r
        | none => .raise .recordNotFound : Db ρ) >>= k).after s := rfl
  rw [hq]
  cases h : (R.get s).find i with
  | none => exact Or.inl rfl
  | some r => exact Or.inr ⟨r, rfl, rfl⟩

theorem uncommitted_ensure (p : Prop) [Decidable p] (e : Failure) : (ensure p e).Uncommitted := by
  unfold ensure
  split <;> trivial

theorem uncommitted_lift (x : Except Failure α) : (lift x).Uncommitted := by
  cases x <;> trivial

theorem leaves_ensure {π : Store → β} (p : Prop) [Decidable p] (e : Failure) : (ensure p e).Leaves π := by
  unfold ensure
  split <;> trivial

theorem leaves_lift {π : Store → β} (x : Except Failure α) : (lift x).Leaves π := by
  cases x <;> trivial

theorem guarantees_ensure {rel : Store → Store → Prop} (p : Prop) [Decidable p] (e : Failure) :
    (ensure p e).Guarantees rel := by
  unfold ensure
  split <;> trivial

theorem guarantees_lift {rel : Store → Store → Prop} (x : Except Failure α) : (lift x).Guarantees rel := by
  cases x <;> trivial

theorem ensures_ensure {P : Store → Store → Effect Store Lock → Prop} {p : Prop} [Decidable p] {e : Failure}
    {Q : Unit → Store → Prop} {seen : Store} : (ensure p e).Ensures P Q seen ↔ (p → Q () seen) := by
  by_cases hp : p <;> simp [ensure, hp, Ensures]

theorem ensures_lift {P : Store → Store → Effect Store Lock → Prop} {x : Except Failure α}
    {Q : α → Store → Prop} {seen : Store} : (lift x).Ensures P Q seen ↔ ∀ a, x = .ok a → Q a seen := by
  cases x <;> simp [lift, Ensures]

/-- The row a `tenantId` column refers to. -/
abbrev Store.hasTenant (s : Store) (tenantId : Id) : Bool := (s.tenants.find tenantId).isSome

namespace prisma

def tenant : Relation Tenant.id where
  get s := s.tenants
  set t s := { s with tenants := t }
  lock := .tenant
  entries r := [.tenant r.id, .tenantSlug r.slug]

def client : Relation Client.id where
  get s := s.clients
  set t s := { s with clients := t }
  lock := .client
  entries r := [.client r.id, .clientEmail r.tenantId r.email]
  references r s := s.hasTenant r.tenantId && r.clientGroupId.all (fun g => (s.clientGroups.find g).isSome)

def clientNote : Relation ClientNote.id where
  get s := s.clientNotes
  set t s := { s with clientNotes := t }
  lock := .clientNote
  references r s := (s.clients.find r.clientId).isSome

def clientContact : Relation ClientContact.id where
  get s := s.clientContacts
  set t s := { s with clientContacts := t }
  lock := .clientContact
  entries r := [.clientContact r.id, .contactEmail r.tenantId r.email]
  references r s := (s.clients.find r.clientId).isSome

def emailVerificationToken : Relation EmailVerificationToken.id where
  get s := s.emailVerificationTokens
  set t s := { s with emailVerificationTokens := t }
  lock := .emailVerificationToken
  entries r := [.emailVerificationToken r.id, .tokenHash r.tokenHash]
  references r s := s.hasTenant r.tenantId

def passwordResetToken : Relation PasswordResetToken.id where
  get s := s.passwordResetTokens
  set t s := { s with passwordResetTokens := t }
  lock := .passwordResetToken
  entries r := [.passwordResetToken r.id, .resetTokenHash r.tokenHash]
  references r s := s.hasTenant r.tenantId

def role : Relation Role.id where
  get s := s.roles
  set t s := { s with roles := t }
  lock := .role
  entries r := [.role r.id, .roleKey r.tenantId r.key]
  references r s := s.hasTenant r.tenantId

def permission : Relation Permission.id where
  get s := s.permissions
  set t s := { s with permissions := t }
  lock := .permission
  entries r := [.permission r.id, .permissionKey r.key]

def rolePermission : Relation RolePermission.ref where
  get s := s.rolePermissions
  set t s := { s with rolePermissions := t }
  lock := .rolePermission
  references r s := (s.roles.find r.roleId).isSome && (s.permissions.find r.permissionId).isSome

def staffUser : Relation StaffUser.id where
  get s := s.staffUsers
  set t s := { s with staffUsers := t }
  lock := .staffUser
  entries r := [.staffUser r.id, .staffEmail r.tenantId r.email]
  references r s := s.hasTenant r.tenantId && (s.roles.find r.roleId).isSome

def staffSession : Relation StaffSession.id where
  get s := s.staffSessions
  set t s := { s with staffSessions := t }
  lock := .staffSession
  entries r := [.staffSession r.id, .staffTokenHash r.tokenHash]
  references r s := s.hasTenant r.tenantId && (s.staffUsers.find r.userId).isSome

def clientSession : Relation ClientSession.id where
  get s := s.clientSessions
  set t s := { s with clientSessions := t }
  lock := .clientSession
  entries r := [.clientSession r.id, .clientTokenHash r.tokenHash]
  references r s := s.hasTenant r.tenantId && (s.clientContacts.find r.contactId).isSome

def loginEvent : Relation LoginEvent.id where
  get s := s.loginEvents
  set t s := { s with loginEvents := t }
  lock := .loginEvent
  references r s := s.hasTenant r.tenantId

def productGroup : Relation ProductGroup.id where
  get s := s.productGroups
  set t s := { s with productGroups := t }
  lock := .productGroup
  entries r := [.productGroup r.id, .productGroupSlug r.tenantId r.slug]
  references r s := s.hasTenant r.tenantId

def product : Relation Product.id where
  get s := s.products
  set t s := { s with products := t }
  lock := .product
  entries r := [.product r.id, .productSlug r.tenantId r.slug]
  references r s := s.hasTenant r.tenantId && (s.productGroups.find r.productGroupId).isSome

def productPrice : Relation ProductPrice.id where
  get s := s.productPrices
  set t s := { s with productPrices := t }
  lock := .productPrice
  references r s :=
    s.hasTenant r.tenantId && (s.products.find r.productId).isSome &&
      r.clientGroupId.all (fun g => (s.clientGroups.find g).isSome)

def order : Relation Order.id where
  get s := s.orders
  set t s := { s with orders := t }
  lock := .order
  entries r :=
    .order r.id :: .orderNumber r.tenantId r.orderNumber ::
      ((r.idempotencyKey.map (.idempotencyKey r.tenantId)).toList ++ r.items.map (fun i => .orderItem i.id))
  references r s :=
    s.hasTenant r.tenantId && (s.clients.find r.clientId).isSome &&
      r.items.all (fun i =>
        i.productId.all (fun p => (s.products.find p).isSome) &&
          i.productPriceId.all (fun p => (s.productPrices.find p).isSome))

def invoice : Relation Invoice.id where
  get s := s.invoices
  set t s := { s with invoices := t }
  lock := .invoice
  entries r := [.invoice r.id, .invoiceNumber r.tenantId r.invoiceNumber]
  references r s :=
    s.hasTenant r.tenantId && (s.clients.find r.clientId).isSome && r.orderId.all (fun o => (s.orders.find o).isSome)

def systemSetting : Relation SystemSetting.ref where
  get s := s.systemSettings
  set t s := { s with systemSettings := t }
  lock := .systemSetting
  entries r := [.systemSetting r.ref, .systemSettingId r.id]
  references r s := s.hasTenant r.tenantId

def counter : Relation Counter.ref where
  get s := s.counters
  set t s := { s with counters := t }
  lock := .counter
  references r s := s.hasTenant r.tenantId

end prisma

end HostPanel.Model
