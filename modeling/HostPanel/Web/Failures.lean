import HostPanel.Lib.Errors
import HostPanel.Access.Provisioning
import HostPanel.Model.Web

namespace HostPanel.Model

open HostPanel.Lib HostPanel.Lib.Program

/-- Not an `AppError`: the actions rethrow it. -/
def Failure.Rethrown : Failure → Prop
  | .app .. => False
  | _ => True

section Statements

variable {ρ ι α : Type} [DecidableEq ι] {key : ρ → ι} {R : Relation key}

theorem throws_ensure_of {p : Prop} [Decidable p] (h : p) (e : Failure) : (ensure p e).Throws Failure.Rethrown := by
  rw [ensure, if_pos h]
  trivial

theorem throws_lift {x : Except Failure α} (h : ∀ e, x = .error e → e.Rethrown) : (lift x).Throws Failure.Rethrown := by
  cases x with
  | ok a => trivial
  | error e => exact h e rfl

theorem toInt4_error {n : Number} {e : Failure} (h : toInt4 n = .error e) : e.Rethrown := by
  unfold toInt4 at h
  split at h
  · split at h <;> cases h
    trivial
  · cases h
    trivial

namespace Relation

theorem throws_findUniqueOrThrow (i : ι) : (R.findUniqueOrThrow i).Throws Failure.Rethrown := by
  intro v
  simp only
  split <;> trivial

theorem throws_update (i : ι) (f : ρ → ρ) (hf : ∀ r, key (f r) = key r) : (R.update i f hf).Throws Failure.Rethrown := by
  refine ⟨fun v e he => ?_, fun v => ?_⟩
  · simp only at he
    split at he <;> cases he
    trivial
  · simp only
    split <;> trivial

theorem throws_create (row : ρ) : (R.create row).Throws Failure.Rethrown := by
  refine ⟨fun v e he => ?_, fun _ => trivial⟩
  simp only at he
  split at he
  · split at he <;> cases he
    trivial
  · cases he
    trivial

theorem throws_upsert (p : ρ → Bool) (row : ρ) : (R.upsert p row).Throws Failure.Rethrown := by
  refine ⟨fun v e he => ?_, fun v => ?_⟩
  · simp only at he
    split at he
    · cases he
    · split at he
      · split at he <;> cases he
        trivial
      · cases he
        trivial
  · simp only
    split <;> trivial

end Relation

theorem throws_appendLog (tenantId : Id) (append : Store → Store) :
    (appendLog tenantId append).Throws Failure.Rethrown := by
  refine ⟨fun v e he => ?_, fun _ => trivial⟩
  simp only at he
  split at he <;> cases he
  trivial

theorem throws_recordAuditLog (row : AuditLog) : (recordAuditLog row).Throws Failure.Rethrown := throws_appendLog _ _

theorem throws_recordStatusTransition (row : StatusHistory) : (recordStatusTransition row).Throws Failure.Rethrown :=
  throws_appendLog _ _

theorem throws_whenTruthy {text : Option String} {k : String → Db Unit} (hk : ∀ t, (k t).Throws Failure.Rethrown) :
    (whenTruthy text k).Throws Failure.Rethrown := by
  unfold whenTruthy
  split
  · trivial
  · split
    · trivial
    · exact hk _

theorem throws_nextSequenceNumber (tenantId : Id) (sequence : String) (options : SequenceOptions) :
    (nextSequenceNumber tenantId sequence options).Throws Failure.Rethrown := by
  refine Throws.bind ⟨fun v e he => ?_, fun v => ?_⟩ (fun _ => trivial)
  · simp only at he
    cases hnext : v.incremented (tenantId, sequence) with
    | ok value =>
      rw [hnext] at he
      cases he
    | error x =>
      rw [hnext] at he
      cases he
      unfold Store.incremented at hnext
      split at hnext
      · split at hnext
        · exact toInt4_error hnext
        · cases hnext
          trivial
      · exact toInt4_error hnext
  · simp only
    split <;> trivial

theorem leaves_nextSequenceNumber {π : Store → α} {tenantId : Id} {sequence : String} (options : SequenceOptions)
    (h : ∀ (t : Store) value, π (t.withCounter (tenantId, sequence) value) = π t) :
    (nextSequenceNumber tenantId sequence options).Leaves π := by
  refine Leaves.bind ⟨fun v eff he t => ?_, fun v => ?_⟩ (fun _ => trivial)
  · simp only at he
    cases hnext : v.incremented (tenantId, sequence) with
    | error x =>
      rw [hnext] at he
      cases he
    | ok value =>
      rw [hnext] at he
      cases he
      exact h t value
  · simp only
    split <;> trivial

theorem throws_queueEmail (env : Env) (row : EmailLog) : (queueEmail env row).Throws Failure.Rethrown := by
  refine Throws.bind (Throws.transaction (throws_appendLog _ _)) (fun _ => ?_)
  unfold ensure
  split <;> trivial

end Statements

section Services

variable {env : Env}

theorem throws_sendVerification (input : RegisterClientInput) (email : String) (contactId : Id) :
    (sendVerification env input email contactId).Throws Failure.Rethrown :=
  (Relation.throws_create _).transaction.bind (fun _ => throws_queueEmail _ _)

theorem throws_sendPasswordLink (token : PasswordResetToken) (mail : EmailLog) :
    (sendPasswordLink env token mail).Throws Failure.Rethrown :=
  (Relation.throws_create _).transaction.bind (fun _ => throws_queueEmail _ _)

theorem throwsLate_registerClient (input : RegisterClientInput) : (registerClient env input).ThrowsLate Failure.Rethrown := by
  refine (Relation.uncommitted_findFirst _).bind_throwsLate (fun _ => ?_)
  refine (Relation.uncommitted_findFirst _).bind_throwsLate (fun _ => ?_)
  refine (uncommitted_ensure _ _).bind_throwsLate (fun _ => ?_)
  refine (uncommitted_insertClient _ _ _ _).transaction_bind_throwsLate (fun created => ?_)
  exact (throws_sendVerification _ _ _).bind (fun _ => trivial)

theorem throwsLate_verifyClientEmail (token : String) : (verifyClientEmail env token).ThrowsLate Failure.Rethrown := by
  refine (Relation.uncommitted_findFirst _).bind_throwsLate (fun found => ?_)
  refine (uncommitted_orThrow _ _).bind_throwsLate (fun record => ?_)
  refine (Relation.uncommitted_findUniqueOrThrow _).bind_throwsLate (fun contact => ?_)
  refine (uncommitted_markVerified _ _ _).transaction_bind_throwsLate (fun _ => ?_)
  exact throws_queueEmail _ _

theorem throwsLate_createStaffUser (actor : StaffActor) (input : CreateStaffUserInput) :
    (createStaffUser env actor input).ThrowsLate Failure.Rethrown := by
  refine (uncommitted_requirePermission _ _).bind_throwsLate (fun _ => ?_)
  refine (Relation.uncommitted_findFirst _).bind_throwsLate (fun found => ?_)
  refine (uncommitted_orThrow _ _).bind_throwsLate (fun role => ?_)
  refine (Relation.uncommitted_findFirst _).bind_throwsLate (fun existing => ?_)
  refine (uncommitted_ensure _ _).bind_throwsLate (fun _ => ?_)
  refine Uncommitted.transaction_bind_throwsLate ?_ (fun user => ?_)
  · refine (Relation.uncommitted_create _).bind (fun created => ?_)
    exact (uncommitted_recordAuditLog _).bind (fun _ => trivial)
  · exact (throws_sendPasswordLink _ _).bind (fun _ => trivial)

theorem atomic_changeClientStatusTo (actor : StaffActor) (clientId : Id) (status reason : String) :
    (changeClientStatusTo env actor clientId status reason).Atomic := by
  unfold changeClientStatusTo
  split
  · exact atomic_changeClientStatus _ _ _ _ _
  · refine (uncommitted_requirePermission _ _).bind_atomic (fun _ => ?_)
    exact (Relation.uncommitted_findUniqueOrThrow _).bind_atomic (fun _ => trivial)

theorem throws_invoiceItems (order : Order) (items : List OrderItem) :
    ∀ e, invoiceItems order items = .error e → e.Rethrown := by
  intro e h
  induction items with
  | nil => cases h
  | cons item items ih =>
    unfold invoiceItems at h
    cases hitem : invoiceItem order item with
    | error x =>
      rw [hitem] at h
      cases h
      unfold invoiceItem at hitem
      cases htotal : toInt4 (Number.add item.lineTotal.val item.setupFeeSnapshot.val) with
      | error y =>
        rw [htotal] at hitem
        cases hitem
        exact toInt4_error htotal
      | ok total =>
        rw [htotal] at hitem
        cases hitem
    | ok line =>
      rw [hitem] at h
      cases hrest : invoiceItems order items with
      | error x =>
        rw [hrest] at h
        cases h
        exact ih hrest
      | ok lines =>
        rw [hrest] at h
        cases h

/-- An order that waits to be invoiced may be moved on. -/
theorem throwsAt_awaitPayment {order stored : Order} (actor : TransitionActor) {v : Store} (c : Store)
    (hfound : v.orders.find order.id = some stored) (hstatus : stored.status = .pending) :
    (awaitPayment order actor).ThrowsAt Failure.Rethrown c v := by
  unfold awaitPayment
  split
  case isFalse =>
    intro e c' h
    cases h
  case isTrue =>
  refine ThrowsAt.bind_ret (fun e c' hmove => ?_)
  have hallowed : isValidOrderTransition stored.status .awaitingPayment = true := by
    rw [hstatus]
    decide
  obtain hread | ⟨found, c₁, v₁, hread, hrest⟩ := eval_bind_error hmove
  · exact (Relation.throws_findUniqueOrThrow _).eval_error hread
  · have hget : (prisma.order.get v).find order.id = some stored := hfound
    simp only [Relation.findUniqueOrThrow, eval_query, hget, eval_ret, Except.ok.injEq, Prod.mk.injEq] at hread
    obtain ⟨rfl, rfl, rfl⟩ := hread
    refine Throws.eval_error (Q := Failure.Rethrown) ?_ hrest
    refine (throws_ensure_of hallowed _).bind (fun _ => (Relation.throws_update _ _ _).bind (fun _ => ?_))
    refine (throws_recordStatusTransition _).bind (fun _ => ?_)
    exact (throws_whenTruthy (fun _ => throws_recordAuditLog _)).bind (fun _ => trivial)

/-- Invoicing an order that waits for its invoice throws no `AppError`. -/
theorem throwsAt_issueInvoiceForOrder {order stored : Order} (actor : TransitionActor) {s : Store}
    (hfound : s.orders.find order.id = some stored) (hstatus : stored.status = .pending) :
    (issueInvoiceForOrder env order actor).ThrowsAt Failure.Rethrown s s := by
  -- the statements before the move leave the orders alone
  refine ThrowsAt.transaction ?_
  refine Leaves.bind_throwsAt (π := Store.orders) (Relation.leaves_findUniqueOrThrow _)
    (Relation.throws_findUniqueOrThrow _) rfl (fun client c₁ v₁ hc₁ hv₁ => ?_)
  refine Leaves.bind_throwsAt (π := Store.orders) (p := getCompanyProfile order.tenantId) (fun _ => trivial)
    (fun _ => trivial) (hc₁.trans hv₁.symm) (fun company c₂ v₂ hc₂ hv₂ => ?_)
  refine Leaves.bind_throwsAt (π := Store.orders) (leaves_nextSequenceNumber _ (fun _ _ => rfl))
    (throws_nextSequenceNumber _ _ _) (hc₂.trans hv₂.symm) (fun invoiceNumber c₃ v₃ hc₃ hv₃ => ?_)
  refine Leaves.bind_throwsAt (π := Store.orders) (leaves_lift _) (throws_lift (throws_invoiceItems _ _))
    (hc₃.trans hv₃.symm) (fun items c₄ v₄ hc₄ hv₄ => ?_)
  refine Leaves.bind_throwsAt (π := Store.orders) (Relation.leaves_create _ (fun _ => rfl)) (Relation.throws_create _)
    (hc₄.trans hv₄.symm) (fun invoice c₅ v₅ hc₅ hv₅ => ?_)
  refine Leaves.bind_throwsAt (π := Store.orders) (leaves_recordStatusTransition _ (fun _ => rfl))
    (throws_recordStatusTransition _) (hc₅.trans hv₅.symm) (fun _ c₆ v₆ hc₆ hv₆ => ?_)
  refine Leaves.bind_throwsAt (π := Store.orders) (leaves_recordAuditLog _ (fun _ => rfl)) (throws_recordAuditLog _)
    (hc₆.trans hv₆.symm) (fun _ c₇ v₇ _ hv₇ => ?_)
  have horders : v₇.orders = s.orders := by rw [hv₇, hv₆, hv₅, hv₄, hv₃, hv₂, hv₁]
  exact (throwsAt_awaitPayment actor c₇ (horders ▸ hfound) hstatus).bind_ret

theorem throws_closePrevious (previous : Option ProductPrice) (effectiveFrom : DateTime) :
    (closePrevious previous effectiveFrom).Throws Failure.Rethrown := by
  cases previous with
  | none => trivial
  | some r => exact (Relation.throws_update _ _ _).bind (fun _ => trivial)

theorem throws_setProductPrice {actor : StaffActor} (hpermitted : hasPermission actor.permissions .productsWrite = true)
    (input : SetProductPriceInput) : (setProductPrice env actor input).Throws Failure.Rethrown := by
  refine (throws_ensure_of hpermitted _).bind (fun _ => Throws.transaction ?_)
  refine Throws.bind (p := findLatestPrice env (ProductPrice.current actor.tenantId input)) (fun _ => trivial)
    (fun previous => ?_)
  refine (throws_closePrevious _ _).bind (fun _ => ?_)
  refine (throws_lift (fun _ => toInt4_error)).bind (fun price => ?_)
  refine (throws_lift (fun _ => toInt4_error)).bind (fun setupFee => ?_)
  refine (Relation.throws_create _).bind (fun created => ?_)
  exact (throws_recordAuditLog _).bind (fun _ => trivial)

/-- Every member of staff belongs to a tenant that exists. -/
def Store.Housed (s : Store) : Prop := ∀ u ∈ s.staffUsers, (s.tenants.find u.tenantId).isSome = true

theorem throws_upsertPermissions (n : ℕ) (keys : List PermissionKey) :
    (upsertPermissions env n keys).Throws Failure.Rethrown := by
  induction keys generalizing n with
  | nil => trivial
  | cons key keys ih => exact (Relation.throws_upsert _ _).transaction.bind (fun _ => ih (n + 1))

theorem throws_upsertRolePermissions (permissions : List Permission) (roleId : Id) (keys : List PermissionKey) :
    (upsertRolePermissions permissions roleId keys).Throws Failure.Rethrown := by
  induction keys with
  | nil => trivial
  | cons key keys ih =>
    rw [upsertRolePermissions]
    cases permissionIdOf permissions key with
    | none => exact ih
    | some permissionId => exact (Relation.throws_upsert _ _).transaction.bind (fun _ => ih)

theorem throws_upsertRoles (tenantId : Id) (permissions : List Permission) (n : ℕ) (roleKeys : List StaffRoleKey) :
    (upsertRoles env tenantId permissions n roleKeys).Throws Failure.Rethrown := by
  induction roleKeys generalizing n with
  | nil => trivial
  | cons roleKey roleKeys ih =>
    refine (Relation.throws_upsert _ _).transaction.bind (fun role => ?_)
    refine (throws_upsertRolePermissions _ _ _).bind (fun _ => ?_)
    exact (ih (n + 1)).bind (fun _ => trivial)

theorem throws_installRoles (tenantId : Id) : (installRoles env tenantId).Throws Failure.Rethrown := by
  refine (throws_upsertPermissions _ _).bind (fun _ => ?_)
  refine Throws.bind (fun _ => trivial) (fun permissions => ?_)
  refine (throws_upsertRoles _ _ _ _).bind (fun roleIds => ?_)
  cases superAdminRoleId roleIds <;> trivial

/-- The catalog is installed without a word to the accounts. -/
theorem staffUsers_installRoles {tenantId roleId : Id} {s c t : Store}
    (h : (installRoles env tenantId).eval s s = .ok (roleId, c, t)) : t.staffUsers = s.staffUsers := by
  refine same_of_setup (π := Store.staffUsers) ?_ h
  have hpermissions : ∀ n keys, (upsertPermissions env n keys).Guarantees (fun s t => t.staffUsers = s.staffUsers) := by
    intro n keys
    induction keys generalizing n with
    | nil => trivial
    | cons key keys ih =>
      refine (Guarantees.transaction ?_).bind (fun _ => ih (n + 1))
      exact Relation.guarantees_upsert (fun _ => rfl) (fun _ => rfl)
  refine (hpermissions _ _).bind (fun _ => Guarantees.bind (fun _ => trivial) (fun permissions => ?_))
  refine Guarantees.bind ?_ (fun _ => guarantees_orThrow _ _)
  refine guarantees_upsertRoles ?_ ?_ ?_ _ _ _ _
  · exact fun _ => rfl
  · exact fun _ _ _ => rfl
  · exact fun _ _ => rfl

theorem throwsAt_insertSuperAdmin {input : BootstrapInput} {tenantId roleId : Id} {email : String} {v : Store} (c : Store)
    (hnone : v.staffUsers.rows.countP (fun r => r.tenantId == tenantId) = 0) :
    (insertSuperAdmin env input tenantId email roleId).ThrowsAt Failure.Rethrown c v := by
  intro e c' h
  simp only [insertSuperAdmin, countStaff, query_bind, eval_query, ret_bind] at h
  refine Throws.eval_error (Q := Failure.Rethrown) ?_ h
  refine (throws_ensure_of hnone _).bind (fun _ => (Relation.throws_create _).bind (fun created => ?_))
  exact (throws_recordAuditLog _).bind (fun _ => trivial)

/-- The upsert of the tenant: it is there, or it is new. -/
theorem upsertTenant_ok {slug name : String} {id : Id} {s c t : Store} {tenant : Tenant}
    (h : (transaction (prisma.tenant.upsert (fun r => r.slug == slug) { id := id, slug := slug, name := name })).eval s s =
      .ok (tenant, c, t)) :
    c = t ∧ t.staffUsers = s.staffUsers ∧ (t = s ∨ s.tenants.find tenant.id = none) := by
  obtain ⟨hc, hstored⟩ := upsert_ok h
  obtain ⟨_, c', hev⟩ := eval_transaction_ok.mp h
  rw [Relation.upsert, eval_exec] at hev
  split at hev
  case h_1 => cases hev
  case h_2 eff heff =>
  have ht : t = eff.apply s := by
    split at hev <;> cases hev
    rfl
  obtain ⟨_, _, rfl⟩ | ⟨hfresh, rfl⟩ := Relation.effect_of_upsert heff
  · exact ⟨hc, congrArg Store.staffUsers ht, Or.inl ht⟩
  · have hnone := Relation.find_of_fresh hfresh
    have hstaff : t.staffUsers = s.staffUsers := by rw [ht]; rfl
    refine ⟨hc, hstaff, Or.inr ?_⟩
    have hslug : s.tenants.rows.find? (fun r => r.slug == slug) = none := by
      refine List.find?_eq_none.mpr (fun q hq hsame => ?_)
      refine hfresh.2 q hq (.tenantSlug slug) (by simp [prisma.tenant]) ?_
      simp [prisma.tenant, beq_iff_eq.mp hsame]
    have hrows : t.tenants.rows = s.tenants.rows ++ [{ id := id, slug := slug, name := name }] := by
      rw [ht]
      exact Table.insert_rows (t := s.tenants) (r := { id := id, slug := slug, name := name }) hnone
    change t.tenants.rows.find? (fun r => r.slug == slug) = some tenant at hstored
    rw [hrows, List.find?_append, hslug] at hstored
    simp only [List.find?_cons_of_pos, beq_self_eq_true, Option.none_or, Option.some.injEq] at hstored
    rw [← hstored]
    exact hnone

/-- A setup that is refused leaves everything as it was. -/
theorem eval_error_of_bootstrapSuperAdmin {input : BootstrapInput} {s c : Store} {e : Failure} (hhoused : s.Housed)
    (h : (bootstrapSuperAdmin env input).eval s s = .error (e, c)) (he : ¬ e.Rethrown) : c = s := by
  obtain hweak | ⟨_, c₀, v₀, hstrong, hrest⟩ := eval_bind_error h
  · exact eval_error_of_atomic (uncommitted_ensure _ _).atomic hweak
  obtain ⟨rfl, rfl⟩ := eval_ensure_ok hstrong
  obtain hupsert | ⟨tenant, c₁, v₁, hupsert, hchecks⟩ := eval_bind_error hrest
  · exact absurd ((Relation.throws_upsert _ _).transaction.eval_error hupsert) he
  obtain ⟨rfl, hstaff, htenant⟩ := upsertTenant_ok hupsert
  by_cases hnone : c₁.staffUsers.rows.countP (fun r => r.tenantId == tenant.id) = 0
  · -- nothing that follows is refused
    obtain hassert | ⟨_, c₂, v₂, hassert, hinstall⟩ := eval_bind_error hchecks
    · simp only [assertSetupNotComplete, countStaff, query_bind, eval_query, ret_bind] at hassert
      exact absurd ((throws_ensure_of hnone _).eval_error hassert) he
    · simp only [assertSetupNotComplete, countStaff, query_bind, eval_query, ret_bind] at hassert
      obtain ⟨rfl, rfl⟩ := eval_ensure_ok hassert
      obtain hroles | ⟨roleId, c₃, v₃, hroles, hlast⟩ := eval_bind_error hinstall
      · exact absurd ((throws_installRoles _).eval_error hroles) he
      · rw [← staffUsers_installRoles hroles] at hnone
        exact absurd ((throwsAt_insertSuperAdmin c₃ hnone).transaction.bind_ret e c hlast) he
  · obtain ⟨u, hu, htid⟩ := List.countP_pos_iff.mp (Nat.pos_of_ne_zero hnone)
    have hassert : (assertSetupNotComplete tenant.id).eval c₁ c₁ = .error (setupCompleted, c₁) := by
      simp only [assertSetupNotComplete, countStaff, query_bind, eval_query, ret_bind, ensure, if_neg hnone, eval_raise]
    rw [eval_bind, hassert] at hchecks
    cases hchecks
    obtain hsame | hnew := htenant
    · exact hsame
    · have hhome := hhoused u (hstaff ▸ hu)
      rw [beq_iff_eq.mp htid, hnew] at hhome
      cases hhome

end Services

end HostPanel.Model
