import HostPanel.Lib.Ownership
import HostPanel.Model.Services

namespace HostPanel.Model

open HostPanel.Lib

/-- A row of one of the tables; a row of a log with its position. -/
inductive Row where
  | clientGroup (r : ClientGroup)
  | client (r : Client)
  | clientNote (r : ClientNote)
  | clientContact (r : ClientContact)
  | emailVerificationToken (r : EmailVerificationToken)
  | staffUser (r : StaffUser)
  | staffSession (r : StaffSession)
  | clientSession (r : ClientSession)
  | passwordResetToken (r : PasswordResetToken)
  | role (r : Role)
  | loginEvent (r : LoginEvent)
  | productGroup (r : ProductGroup)
  | product (r : Product)
  | productPrice (r : ProductPrice)
  | order (r : Order)
  | invoice (r : Invoice)
  | systemSetting (r : SystemSetting)
  | counter (r : Counter)
  | statusHistory (n : ℕ) (r : StatusHistory)
  | auditLog (n : ℕ) (r : AuditLog)
  | emailLog (n : ℕ) (r : EmailLog)

inductive RowKey where
  | clientGroup (id : Id)
  | client (id : Id)
  | clientNote (id : Id)
  | clientContact (id : Id)
  | emailVerificationToken (id : Id)
  | staffUser (id : Id)
  | staffSession (id : Id)
  | clientSession (id : Id)
  | passwordResetToken (id : Id)
  | role (id : Id)
  | loginEvent (id : Id)
  | productGroup (id : Id)
  | product (id : Id)
  | productPrice (id : Id)
  | order (id : Id)
  | invoice (id : Id)
  | systemSetting (ref : Id × String)
  | counter (ref : Id × String)
  | statusHistory (n : ℕ)
  | auditLog (n : ℕ)
  | emailLog (n : ℕ)

def Store.Has (s : Store) : Row → Prop
  | .clientGroup r => r ∈ s.clientGroups
  | .client r => r ∈ s.clients
  | .clientNote r => r ∈ s.clientNotes
  | .clientContact r => r ∈ s.clientContacts
  | .emailVerificationToken r => r ∈ s.emailVerificationTokens
  | .staffUser r => r ∈ s.staffUsers
  | .staffSession r => r ∈ s.staffSessions
  | .clientSession r => r ∈ s.clientSessions
  | .passwordResetToken r => r ∈ s.passwordResetTokens
  | .role r => r ∈ s.roles
  | .loginEvent r => r ∈ s.loginEvents
  | .productGroup r => r ∈ s.productGroups
  | .product r => r ∈ s.products
  | .productPrice r => r ∈ s.productPrices
  | .order r => r ∈ s.orders
  | .invoice r => r ∈ s.invoices
  | .systemSetting r => r ∈ s.systemSettings
  | .counter r => r ∈ s.counters
  | .statusHistory n r => s.statusHistories[n]? = some r
  | .auditLog n r => s.auditLogs[n]? = some r
  | .emailLog n r => s.emailLogs[n]? = some r

namespace Row

def key : Row → RowKey
  | clientGroup r => .clientGroup r.id
  | client r => .client r.id
  | clientNote r => .clientNote r.id
  | clientContact r => .clientContact r.id
  | emailVerificationToken r => .emailVerificationToken r.id
  | staffUser r => .staffUser r.id
  | staffSession r => .staffSession r.id
  | clientSession r => .clientSession r.id
  | passwordResetToken r => .passwordResetToken r.id
  | role r => .role r.id
  | loginEvent r => .loginEvent r.id
  | productGroup r => .productGroup r.id
  | product r => .product r.id
  | productPrice r => .productPrice r.id
  | order r => .order r.id
  | invoice r => .invoice r.id
  | systemSetting r => .systemSetting r.ref
  | counter r => .counter r.ref
  | statusHistory n _ => .statusHistory n
  | auditLog n _ => .auditLog n
  | emailLog n _ => .emailLog n

def tenantId : Row → Id
  | clientGroup r => r.tenantId
  | client r => r.tenantId
  | clientNote r => r.tenantId
  | clientContact r => r.tenantId
  | emailVerificationToken r => r.tenantId
  | staffUser r => r.tenantId
  | staffSession r => r.tenantId
  | clientSession r => r.tenantId
  | passwordResetToken r => r.tenantId
  | role r => r.tenantId
  | loginEvent r => r.tenantId
  | productGroup r => r.tenantId
  | product r => r.tenantId
  | productPrice r => r.tenantId
  | order r => r.tenantId
  | invoice r => r.tenantId
  | systemSetting r => r.tenantId
  | counter r => r.tenantId
  | statusHistory _ r => r.tenantId
  | auditLog _ r => r.tenantId
  | emailLog _ r => r.tenantId

end Row

def StatusHistoryEntityType.rowKey (id : Id) : StatusHistoryEntityType → RowKey
  | client => .client id
  | order => .order id
  | invoice => .invoice id

/-- The row an audit entry is about, when its table is kept here. -/
def AuditEntityType.rowKey? (id : Id) : AuditEntityType → Option RowKey
  | client => some (.client id)
  | clientContact => some (.clientContact id)
  | staffUser => some (.staffUser id)
  | staffSession => some (.staffSession id)
  | clientSession => some (.clientSession id)
  | role => some (.role id)
  | productGroup => some (.productGroup id)
  | product => some (.product id)
  | productPrice => some (.productPrice id)
  | order => some (.order id)
  | invoice => some (.invoice id)
  | _ => none

def OrderItem.productKey? (item : OrderItem) : Option RowKey := item.productId.map .product

/-- The rows a row refers to by `clientId`, `orderId`, `productId` or
`entityId`. -/
def Row.refs : Row → List RowKey
  | clientNote r => [.client r.clientId]
  | clientContact r => [.client r.clientId]
  | productPrice r => [.product r.productId]
  | order r => .client r.clientId :: r.items.filterMap OrderItem.productKey?
  | invoice r => .client r.clientId :: (r.orderId.map .order).toList
  | statusHistory _ r => [r.entityType.rowKey r.entityId]
  | auditLog _ r => (r.entityType.rowKey? r.entityId).toList
  | _ => []

def tenancy : Ownership Store Row RowKey Id := ⟨Store.Has, Row.key, Row.tenantId, Row.refs⟩

/-- The rows of one model of the schema among all rows. -/
structure Kind {ρ ι : Type} {key : ρ → ι} (R : Relation key) where
  row : ρ → Row
  row? : Row → Option ρ
  rowKey : ι → RowKey
  row?_eq : ∀ x r, row? x = some r ↔ x = row r := by intro x r; cases x <;> simp
  has_row : ∀ s r, s.Has (row r) ↔ r ∈ R.get s := by intro s r; exact Iff.rfl
  frame : ∀ x t s, row? x = none → ((R.set t s).Has x ↔ s.Has x) := by
    intro x t s h
    cases x <;> first | exact Iff.rfl | cases h
  key_row : ∀ r, (row r).key = rowKey (key r) := by intro r; rfl
  of_key : ∀ x i, x.key = rowKey i → ∃ r, x = row r ∧ key r = i := by
    intro x i h
    cases x <;> first | exact ⟨_, rfl, by injection h⟩ | cases h

namespace Kind

variable {ρ ι : Type} [DecidableEq ι] {key : ρ → ι} {R : Relation key} (K : Kind R) {T : Id} {s s' : Store}

omit [DecidableEq ι] in
theorem row?_row (r : ρ) : K.row? (K.row r) = some r := (K.row?_eq _ _).mpr rfl

theorem belongs_iff {i : ι} :
    tenancy.Belongs T s (K.rowKey i) ↔ ∃ r, (R.get s).find i = some r ∧ (K.row r).tenantId = T := by
  constructor
  · rintro ⟨x, hx, hkey, ho⟩
    obtain ⟨r, rfl, hi⟩ := K.of_key x i hkey
    exact ⟨r, Table.find_eq_some_iff.mpr ⟨(K.has_row s r).mp hx, hi⟩, ho⟩
  · rintro ⟨r, hr, ho⟩
    refine ⟨K.row r, (K.has_row s r).mpr (Table.mem_of_find hr), ?_, ho⟩
    rw [← Table.key_of_find hr]
    exact K.key_row r

/-- The row under a key, if there is one, is the tenant's. -/
def Owned (K : Kind R) (T : Id) (s : Store) (i : ι) : Prop :=
  ∀ r, (R.get s).find i = some r → (K.row r).tenantId = T

theorem Owned.belongs {K : Kind R} {i : ι} {r : ρ} (h : K.Owned T s i) (hr : (R.get s).find i = some r) :
    tenancy.Belongs T s (K.rowKey i) := K.belongs_iff.mpr ⟨r, hr, h r hr⟩

theorem owned_of_belongs {i : ι} (s' : Store) (hget : R.get s' = R.get s) (h : tenancy.Belongs T s' (K.rowKey i)) :
    K.Owned T s i := by
  obtain ⟨r, hr, ho⟩ := K.belongs_iff.mp h
  rw [hget] at hr
  intro q hq
  rw [Option.some.inj (hq.symm.trans hr)]
  exact ho

omit [DecidableEq ι] in
theorem kept (h : tenancy.Isolated T s s') {r : ρ} (hr : r ∈ R.get s) (ho : (K.row r).tenantId ≠ T) :
    r ∈ R.get s' :=
  (K.has_row s' r).mp (h.kept _ ((K.has_row s r).mpr hr) ho)

omit [DecidableEq ι] in
theorem fixed_where (h : tenancy.Isolated T s s') {r : ρ} (p : ρ → Bool) (f : ρ → ρ)
    (hf : ∀ r, key (f r) = key r) (hmod : R.get s' = (R.get s).updateWhere p f hf) (hr : r ∈ R.get s)
    (hp : p r = true) (ho : (K.row r).tenantId ≠ T) : f r = r := by
  have hkept := K.kept h hr ho
  rw [hmod] at hkept
  exact Table.fixed_of_mem_updateWhere hr hp hkept

theorem fixed (h : tenancy.Isolated T s s') {i : ι} {r : ρ} (f : ρ → ρ) (hf : ∀ r, key (f r) = key r)
    (hmod : R.get s' = (R.get s).modify i f hf) (hr : (R.get s).find i = some r) (ho : (K.row r).tenantId ≠ T) :
    f r = r :=
  K.fixed_where h _ f hf hmod (Table.mem_of_find hr) (decide_eq_true (Table.key_of_find hr)) ho

theorem closed (h : tenancy.Isolated T s s') {r : ρ} (hr : r ∈ R.get s') (hnew : (R.get s).find (key r) = none)
    (ho : (K.row r).tenantId = T) : ∀ k ∈ (K.row r).refs, tenancy.Belongs T s' k := by
  refine h.closed (K.row r) ((K.has_row s' r).mpr hr) (fun x hx hkey => ?_) ho
  obtain ⟨q, rfl, hq⟩ := K.of_key x (key r) (hkey.trans (K.key_row r))
  exact Table.find_eq_none_iff.mp hnew q ((K.has_row s q).mp hx) hq

theorem within_insert {r : ρ} (hnew : (R.get s).find (key r) = none)
    (hrefs : (K.row r).tenantId = T → ∀ k ∈ (K.row r).refs, tenancy.Belongs T s k) :
    tenancy.Within T s (R.insert r s) := by
  have hmem : ∀ q, q ∈ R.get (R.insert r s) ↔ q ∈ R.get s ∨ q = r := by
    intro q
    rw [Relation.insert, R.get_set]
    exact Table.mem_insert hnew
  refine Ownership.within_add (K.row r) ?_ ?_ hrefs
  · intro x hx
    cases hk : K.row? x with
    | none => exact (K.frame x _ s hk).mpr hx
    | some q =>
      rw [(K.row?_eq x q).mp hk] at hx ⊢
      exact (K.has_row _ q).mpr ((hmem q).mpr (Or.inl ((K.has_row s q).mp hx)))
  · intro x hx
    cases hk : K.row? x with
    | none => exact Or.inl ((K.frame x _ s hk).mp hx)
    | some q =>
      rw [(K.row?_eq x q).mp hk] at hx ⊢
      cases (hmem q).mp ((K.has_row _ q).mp hx) with
      | inl hold => exact Or.inl ((K.has_row s q).mpr hold)
      | inr he => exact Or.inr (congrArg K.row he)

/-- Rewrite the rows of the kind that meet a condition. -/
def rewrite (p : ρ → Bool) (f : ρ → ρ) (x : Row) : Row :=
  match K.row? x with
  | some r => K.row (if p r then f r else r)
  | none => x

omit [DecidableEq ι] in
theorem rewrite_row (p : ρ → Bool) (f : ρ → ρ) (r : ρ) :
    K.rewrite p f (K.row r) = K.row (if p r then f r else r) := by
  rw [rewrite, K.row?_row]

omit [DecidableEq ι] in
theorem rewrite_other (p : ρ → Bool) (f : ρ → ρ) {x : Row} (hk : K.row? x = none) : K.rewrite p f x = x := by
  rw [rewrite, hk]

omit [DecidableEq ι] in
theorem rewrite_eq {β : Type} {p : ρ → Bool} {f : ρ → ρ} {g : Row → β} (hg : ∀ r, g (K.row (f r)) = g (K.row r))
    (x : Row) : g (K.rewrite p f x) = g x := by
  cases hk : K.row? x with
  | none => rw [K.rewrite_other p f hk]
  | some r =>
    rw [(K.row?_eq x r).mp hk, K.rewrite_row]
    by_cases hp : p r
    · rw [if_pos hp, hg]
    · rw [if_neg hp]

omit [DecidableEq ι] in
theorem within_modifyWhere {p : ρ → Bool} {f : ρ → ρ} (hf : ∀ r, key (f r) = key r)
    (howner : ∀ r, (K.row (f r)).tenantId = (K.row r).tenantId) (hrefs : ∀ r, (K.row (f r)).refs = (K.row r).refs)
    (hkept : ∀ r ∈ R.get s, p r = true → (K.row r).tenantId ≠ T → f r = r) :
    tenancy.Within T s (R.modifyWhere p f hf s) := by
  have hmem : ∀ q, q ∈ R.get (R.modifyWhere p f hf s) ↔ ∃ r ∈ R.get s, q = if p r then f r else r := by
    intro q
    rw [Relation.modifyWhere, R.get_set]
    exact Table.mem_updateWhere
  refine Ownership.within_map (K.rewrite p f) ?_ ?_ (K.rewrite_eq (g := Row.key) ?_) (K.rewrite_eq howner)
    (K.rewrite_eq hrefs) ?_
  · intro x hx
    cases hk : K.row? x with
    | none =>
      rw [K.rewrite_other p f hk]
      exact (K.frame x _ s hk).mpr hx
    | some r =>
      rw [(K.row?_eq x r).mp hk] at hx ⊢
      rw [K.rewrite_row]
      exact (K.has_row _ _).mpr ((hmem _).mpr ⟨r, (K.has_row s r).mp hx, rfl⟩)
  · intro x hx
    cases hk : K.row? x with
    | none => exact ⟨x, (K.frame x _ s hk).mp hx, (K.rewrite_other p f hk).symm⟩
    | some q =>
      rw [(K.row?_eq x q).mp hk] at hx ⊢
      obtain ⟨r, hr, rfl⟩ := (hmem q).mp ((K.has_row _ q).mp hx)
      exact ⟨K.row r, (K.has_row s r).mpr hr, (K.rewrite_row p f r).symm⟩
  · intro r
    rw [K.key_row, K.key_row, hf]
  · intro x hx ho
    cases hk : K.row? x with
    | none => exact K.rewrite_other p f hk
    | some r =>
      rw [(K.row?_eq x r).mp hk] at hx ho ⊢
      rw [K.rewrite_row]
      by_cases hp : p r = true
      · rw [if_pos hp, hkept r ((K.has_row s r).mp hx) hp ho]
      · rw [if_neg hp]

theorem within_modify {i : ι} {f : ρ → ρ} (hf : ∀ r, key (f r) = key r)
    (howner : ∀ r, (K.row (f r)).tenantId = (K.row r).tenantId) (hrefs : ∀ r, (K.row (f r)).refs = (K.row r).refs)
    (hown : K.Owned T s i) : tenancy.Within T s (R.modify i f hf s) := by
  refine K.within_modifyWhere hf howner hrefs (fun r hr hp ho => absurd (hown r ?_) ho)
  exact Table.find_eq_some_iff.mpr ⟨hr, of_decide_eq_true hp⟩

end Kind

namespace Kind

def client : Kind prisma.client where
  row := .client
  row? | .client r => some r | _ => none
  rowKey := .client

def clientNote : Kind prisma.clientNote where
  row := .clientNote
  row? | .clientNote r => some r | _ => none
  rowKey := .clientNote

def staffUser : Kind prisma.staffUser where
  row := .staffUser
  row? | .staffUser r => some r | _ => none
  rowKey := .staffUser

def staffSession : Kind prisma.staffSession where
  row := .staffSession
  row? | .staffSession r => some r | _ => none
  rowKey := .staffSession

def product : Kind prisma.product where
  row := .product
  row? | .product r => some r | _ => none
  rowKey := .product

def order : Kind prisma.order where
  row := .order
  row? | .order r => some r | _ => none
  rowKey := .order

def invoice : Kind prisma.invoice where
  row := .invoice
  row? | .invoice r => some r | _ => none
  rowKey := .invoice

def counter : Kind prisma.counter where
  row := .counter
  row? | .counter r => some r | _ => none
  rowKey := .counter

end Kind

theorem getElem?_snoc {α : Type} {l : List α} {a x : α} {n : ℕ} :
    (l ++ [a])[n]? = some x ↔ l[n]? = some x ∨ (n = l.length ∧ x = a) := by
  obtain h | h | h := Nat.lt_trichotomy n l.length
  · rw [List.getElem?_append_left h]
    exact ⟨Or.inl, fun hor => hor.resolve_right (fun hn => absurd hn.1 h.ne)⟩
  · subst h
    simp [eq_comm]
  · have hl : (l ++ [a]).length ≤ n := by
      rw [List.length_append, List.length_singleton]
      exact h
    rw [List.getElem?_eq_none hl, List.getElem?_eq_none h.le]
    exact iff_of_false (fun hn => nomatch hn) (fun hor => hor.elim (fun hn => nomatch hn) (fun hn => h.ne' hn.1))

section Changes

variable {T : Id} {s s' : Store}

theorem within_withStatusHistory (row : StatusHistory)
    (h : row.tenantId = T → tenancy.Belongs T s (row.entityType.rowKey row.entityId)) :
    tenancy.Within T s (s.withStatusHistory row) := by
  refine Ownership.within_add (.statusHistory s.statusHistories.length row) ?_ ?_ ?_
  · intro x hx
    cases x with
    | statusHistory n r => exact getElem?_snoc.mpr (Or.inl hx)
    | _ => exact hx
  · intro x hx
    cases x with
    | statusHistory n r =>
      obtain hold | ⟨rfl, rfl⟩ := getElem?_snoc.mp hx
      · exact Or.inl hold
      · exact Or.inr rfl
    | _ => exact Or.inl hx
  · intro ho k hk
    rw [List.mem_singleton.mp hk]
    exact h ho

theorem within_withAuditLog (row : AuditLog)
    (h : row.tenantId = T → ∀ k ∈ row.entityType.rowKey? row.entityId, tenancy.Belongs T s k) :
    tenancy.Within T s (s.withAuditLog row) := by
  refine Ownership.within_add (.auditLog s.auditLogs.length row) ?_ ?_ ?_
  · intro x hx
    cases x with
    | auditLog n r => exact getElem?_snoc.mpr (Or.inl hx)
    | _ => exact hx
  · intro x hx
    cases x with
    | auditLog n r =>
      obtain hold | ⟨rfl, rfl⟩ := getElem?_snoc.mp hx
      · exact Or.inl hold
      · exact Or.inr rfl
    | _ => exact Or.inl hx
  · intro ho k hk
    exact h ho k (Option.mem_toList.mp hk)

theorem closed_audit (h : tenancy.Isolated T s s') (row : AuditLog) (hlogs : s'.auditLogs = s.auditLogs ++ [row])
    (ho : row.tenantId = T) : ∀ k ∈ row.entityType.rowKey? row.entityId, tenancy.Belongs T s' k := by
  have hhas : s'.Has (.auditLog s.auditLogs.length row) := by
    change s'.auditLogs[s.auditLogs.length]? = some row
    rw [hlogs]
    exact getElem?_snoc.mpr (Or.inr ⟨rfl, rfl⟩)
  intro k hk
  refine h.closed (.auditLog s.auditLogs.length row) hhas (fun x hx hkey => ?_) ho k (Option.mem_toList.mpr hk)
  cases x with
  | auditLog n r =>
    have hn : n = s.auditLogs.length := RowKey.auditLog.inj hkey
    exact absurd (List.getElem?_eq_some_iff.mp hx).1 (by omega)
  | _ => cases hkey

theorem within_withLabelledAudit {label : Option String} {row : String → AuditLog}
    (h : ∀ text, (row text).tenantId = T →
      ∀ k ∈ (row text).entityType.rowKey? (row text).entityId, tenancy.Belongs T s k) :
    tenancy.Within T s (s.withLabelledAudit label row) :=
  Store.of_withLabelledAudit (Ownership.within_refl s) (fun text => within_withAuditLog _ (h text))

theorem within_withCounter (name : String) (value : Int4) : tenancy.Within T s (s.withCounter (T, name) value) := by
  have hmod : tenancy.Within T s (prisma.counter.modify (T, name) (fun r => { r with value := value })
      (fun _ => rfl) s) := by
    refine Kind.counter.within_modify _ (fun _ => rfl) (fun _ => rfl) (fun r hr => ?_)
    have href : r.ref = (T, name) := Table.key_of_find hr
    exact congrArg Prod.fst href
  refine hmod.trans ?_
  let t := prisma.counter.modify (T, name) (fun r => { r with value := value }) (fun _ => rfl) s
  change tenancy.Within T t (prisma.counter.insert ⟨T, name, value⟩ t)
  cases hf : t.counters.find (T, name) with
  | none => exact Kind.counter.within_insert hf (fun _ k hk => absurd hk List.not_mem_nil)
  | some r =>
    have hsame : prisma.counter.insert ⟨T, name, value⟩ t = t := by
      have hmem : Counter.ref ⟨T, name, value⟩ ∈ t.counters.rows.map Counter.ref :=
        List.mem_map.mpr ⟨r, Table.mem_of_find hf, Table.key_of_find hf⟩
      have hins : t.counters.insert ⟨T, name, value⟩ = t.counters := dif_pos hmem
      rw [Relation.insert, prisma.counter, hins]
    rw [hsame]
    exact Ownership.within_refl t

theorem OrderStep.within {target : Option Id} {toStatus : OrderStatus} {actor : TransitionActor}
    {reason : Option String} (h : OrderStep s target toStatus actor reason s')
    (hown : ∀ id, target = some id → Kind.order.Owned T s id) : tenancy.Within T s s' := by
  cases target with
  | none =>
    have he : s' = s := h
    rw [he]
    exact Ownership.within_refl s
  | some id =>
    obtain ⟨o, hfound, _, _, rfl⟩ := h
    have hid : o.id = id := Table.key_of_find hfound
    subst hid
    have hbelongs := (hown o.id rfl).belongs hfound
    have hmove : tenancy.Within T s (prisma.order.modify o.id (fun r => { r with status := toStatus })
        (fun _ => rfl) s) :=
      Kind.order.within_modify _ (fun _ => rfl) (fun _ => rfl) (hown o.id rfl)
    have hlog := hmove.trans (within_withStatusHistory (orderMove o toStatus actor reason)
      (fun _ => hmove.belongs hbelongs))
    refine hlog.trans (within_withLabelledAudit (fun text _ k hk => ?_))
    cases hk
    exact hlog.belongs hbelongs

end Changes

end HostPanel.Model
