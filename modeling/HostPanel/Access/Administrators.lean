import HostPanel.Lib.Run
import HostPanel.Access.Provisioning

namespace HostPanel.Model

open HostPanel.Lib HostPanel.Lib.Program

/-- An active account of the tenant whose role may manage staff. -/
def Store.IsAdministrator (s : Store) (tenantId : Id) (r : StaffUser) : Prop :=
  r ∈ s.staffUsers ∧ r.tenantId = tenantId ∧ r.status = .active ∧ PermissionKey.staffManage.name ∈ s.permissionsOf r.roleId

def Store.Administered (s : Store) (tenantId : Id) : Prop := ∃ r, s.IsAdministrator tenantId r

/-- The account is the only one left that may manage the staff of the tenant. -/
def Store.LastAdministrator (s : Store) (tenantId id : Id) : Prop :=
  s.Administered tenantId ∧ ∀ r, s.IsAdministrator tenantId r → r.id = id

inductive StaffCall where
  | createStaffUser (env : Env) (actor : StaffActor) (input : CreateStaffUserInput)
  | disableStaffUser (env : Env) (actor : StaffActor) (targetUserId : Id)
  | setStaffPassword (env : Env) (token newPassword : String)
  | bootstrapSuperAdmin (env : Env) (input : BootstrapInput)

namespace StaffCall

def after (s : Store) : StaffCall → Store
  | createStaffUser env actor input => (Model.createStaffUser env actor input).after s
  | disableStaffUser env actor targetUserId => (Model.disableStaffUser env actor targetUserId).after s
  | setStaffPassword env token newPassword => (Model.setStaffPassword env token newPassword).after s
  | bootstrapSuperAdmin env input => (Model.bootstrapSuperAdmin env input).after s

/-- The accounts the call may disable. -/
def Disables (s : Store) (id : Id) : StaffCall → Prop
  | disableStaffUser _ actor targetUserId =>
    hasPermission actor.permissions .staffManage = true ∧ s.hasTenant actor.tenantId = true ∧ targetUserId = id
  | _ => False

/-- The call does not disable the last account that may manage the staff of the
tenant. -/
def SparesLast (tenantId : Id) (s : Store) (call : StaffCall) : Prop :=
  ∀ id, call.Disables s id → ¬ s.LastAdministrator tenantId id

end StaffCall

abbrev runStaff (s : Store) (calls : List StaffCall) : Store := runFrom StaffCall.after s calls

/-- What is added to the catalog and to the tenants stays, and accounts keep
their tenant and role, and their status unless they may be lost. -/
structure Store.Upholds (lost : Id → Prop) (s t : Store) : Prop where
  tenants : s.tenants.rows <+: t.tenants.rows
  permissions : ∀ r ∈ s.permissions, r ∈ t.permissions
  rolePermissions : ∀ r ∈ s.rolePermissions, r ∈ t.rolePermissions
  staffUsers : ∀ r ∈ s.staffUsers, ∃ q ∈ t.staffUsers, q.id = r.id ∧ q.tenantId = r.tenantId ∧ q.roleId = r.roleId ∧
    (¬ lost r.id → q.status = r.status)

variable {lost : Id → Prop}

theorem Store.upholds_refl (s : Store) : s.Upholds lost s :=
  ⟨List.prefix_refl _, fun _ h => h, fun _ h => h, fun r hr => ⟨r, hr, rfl, rfl, rfl, fun _ => rfl⟩⟩

theorem Store.Upholds.trans {s t u : Store} (h : s.Upholds lost t) (h' : t.Upholds lost u) : s.Upholds lost u := by
  refine ⟨h.tenants.trans h'.tenants, fun r hr => h'.permissions r (h.permissions r hr),
    fun r hr => h'.rolePermissions r (h.rolePermissions r hr), fun r hr => ?_⟩
  obtain ⟨q, hq, hid, htenant, hrole, hstatus⟩ := h.staffUsers r hr
  obtain ⟨p, hp, hid', htenant', hrole', hstatus'⟩ := h'.staffUsers q hq
  refine ⟨p, hp, hid'.trans hid, htenant'.trans htenant, hrole'.trans hrole, fun hkeep => ?_⟩
  exact (hstatus' (hid ▸ hkeep)).trans (hstatus hkeep)

section Kept

variable {s t : Store} {tenantId : Id}

theorem Store.Upholds.permissionsOf (h : s.Upholds lost t) (roleId : Id) :
    s.permissionsOf roleId ⊆ t.permissionsOf roleId := by
  intro key hkey
  simp only [Store.permissionsOf, List.mem_filterMap, List.mem_filter, Option.map_eq_some_iff] at hkey ⊢
  obtain ⟨r, ⟨hr, hrole⟩, p, hp, hname⟩ := hkey
  have hp' : t.permissions.find r.permissionId = some p := by
    have hid : p.id = r.permissionId := Table.key_of_find hp
    rw [← hid]
    exact Table.find_of_mem (h.permissions p (Table.mem_of_find hp))
  exact ⟨r, ⟨h.rolePermissions r hr, hrole⟩, p, hp', hname⟩

theorem Store.Upholds.administered (h : s.Upholds lost t) {r : StaffUser} (hr : s.IsAdministrator tenantId r)
    (hkeep : ¬ lost r.id) : t.Administered tenantId := by
  obtain ⟨hmem, htenant, hactive, hperm⟩ := hr
  obtain ⟨q, hq, _, htenant', hrole, hstatus⟩ := h.staffUsers r hmem
  refine ⟨q, hq, htenant'.trans htenant, (hstatus hkeep).trans hactive, ?_⟩
  rw [hrole]
  exact h.permissionsOf r.roleId hperm

/-- The tenant of the installation, with some account. -/
def Store.Installed (s : Store) (slug : String) (tenantId : Id) : Prop :=
  (s.tenants.rows.find? (fun r => r.slug == slug)).map Tenant.id = some tenantId ∧
    ∃ r ∈ s.staffUsers, r.tenantId = tenantId

theorem Store.Installed.hasTenant {slug : String} (h : s.Installed slug tenantId) : s.hasTenant tenantId = true := by
  obtain ⟨tenant, hfound, rfl⟩ := Option.map_eq_some_iff.mp h.1
  rw [Store.hasTenant, Table.find_of_mem (List.mem_of_find?_eq_some hfound)]
  rfl

theorem Store.Upholds.installed {slug : String} (h : s.Upholds lost t) (hs : s.Installed slug tenantId) :
    t.Installed slug tenantId := by
  obtain ⟨⟨new, hnew⟩, hstaff⟩ := h.tenants, hs.2
  refine ⟨?_, ?_⟩
  · obtain ⟨tenant, hfound, hid⟩ := Option.map_eq_some_iff.mp hs.1
    rw [← hnew, List.find?_append, hfound]
    exact congrArg some hid
  · obtain ⟨r, hr, htenant⟩ := hstaff
    obtain ⟨q, hq, _, htenant', _⟩ := h.staffUsers r hr
    exact ⟨q, hq, htenant'.trans htenant⟩

end Kept

section Calls

variable {env : Env}

theorem upholds_of_modifyStaff (s : Store) (i : Id) (f : StaffUser → StaffUser) (hf : ∀ r, (f r).id = r.id)
    (h : ∀ r, (f r).tenantId = r.tenantId ∧ (f r).roleId = r.roleId)
    (hstatus : ∀ r, r.id = i → ¬ lost i → (f r).status = r.status) :
    s.Upholds lost (prisma.staffUser.modify i f hf s) := by
  refine { @Store.upholds_refl lost s with staffUsers := fun r hr => ?_ }
  by_cases hid : r.id = i
  · have hmem : f r ∈ s.staffUsers.modify i f hf := Table.mem_modify.mpr (Or.inr ⟨r, hr, hid, rfl⟩)
    exact ⟨f r, hmem, hf r, (h r).1, (h r).2, fun hkeep => hstatus r hid (hid ▸ hkeep)⟩
  · have hmem : r ∈ s.staffUsers.modify i f hf := Table.mem_modify.mpr (Or.inl ⟨hr, hid⟩)
    exact ⟨r, hmem, rfl, rfl, rfl, fun _ => rfl⟩

/-- Rows of other tables, and rows that are only added. -/
def Store.staffing (s : Store) :
    Table Tenant.id × Table Permission.id × Table RolePermission.ref × Table StaffUser.id :=
  (s.tenants, s.permissions, s.rolePermissions, s.staffUsers)

theorem upholds_of_staffing (s t : Store) (h : t.staffing = s.staffing) : s.Upholds lost t := by
  simp only [Store.staffing, Prod.mk.injEq] at h
  obtain ⟨ht, hp, hr, hu⟩ := h
  have hrefl := @Store.upholds_refl lost s
  exact ⟨ht ▸ hrefl.tenants, hp ▸ hrefl.permissions, hr ▸ hrefl.rolePermissions, hu ▸ hrefl.staffUsers⟩

theorem upholds_insertStaff (s : Store) (row : StaffUser) : s.Upholds lost (prisma.staffUser.insert row s) :=
  { @Store.upholds_refl lost s with
    staffUsers := fun r hr => ⟨r, Table.mem_insert_of_mem hr, rfl, rfl, rfl, fun _ => rfl⟩ }

theorem upholding_createStaffUser (actor : StaffActor) (input : CreateStaffUserInput) :
    (createStaffUser env actor input).Guarantees (Store.Upholds lost) := by
  refine (guarantees_requirePermission _ _).bind (fun _ => (Relation.guarantees_findFirst _).bind (fun found => ?_))
  refine (guarantees_orThrow _ _).bind (fun role => (Relation.guarantees_findFirst _).bind (fun existing => ?_))
  refine (guarantees_ensure _ _).bind (fun _ => Guarantees.bind (Guarantees.transaction ?_) (fun user => ?_))
  · refine (Relation.guarantees_create _ (fun t => upholds_insertStaff t _)).bind (fun created => ?_)
    exact (guarantees_recordAuditLog _ (fun t => upholds_of_staffing t _ rfl)).bind (fun _ => trivial)
  · refine Guarantees.bind (Guarantees.bind (Guarantees.transaction ?_) (fun _ => ?_)) (fun _ => trivial)
    · exact Relation.guarantees_create _ (fun t => upholds_of_staffing t _ rfl)
    · exact (leaves_queueEmail env _ (fun _ _ => rfl)).guarantees upholds_of_staffing

theorem upholding_setStaffPassword (token newPassword : String) :
    (setStaffPassword env token newPassword).Guarantees (Store.Upholds lost) := by
  refine (guarantees_findPasswordToken _ _).bind (fun record => Guarantees.transaction ?_)
  refine Guarantees.bind (Relation.guarantees_update _ _ _ (fun t => ?_)) (fun _ => ?_)
  · exact upholds_of_modifyStaff t _ _ _ (fun _ => ⟨rfl, rfl⟩) (fun _ _ _ => rfl)
  · exact (Relation.guarantees_update _ _ _ (fun t => upholds_of_staffing t _ rfl)).bind (fun _ => trivial)

theorem keptBySetup_upholds : KeptBySetup (Store.Upholds lost) where
  refl := Store.upholds_refl
  tenant row t := { @Store.upholds_refl lost t with tenants := prefix_insert t.tenants row }
  permission _ _ t := { @Store.upholds_refl lost t with permissions := fun _ h => Table.mem_insert_of_mem h }
  role _ _ t := upholds_of_staffing t _ rfl
  rolePermission _ t := { @Store.upholds_refl lost t with rolePermissions := fun _ h => Table.mem_insert_of_mem h }
  staffUser row t := upholds_insertStaff t row
  auditLog _ t := upholds_of_staffing t _ rfl

theorem disableStaffUser_ok_iff {actor : StaffActor} {targetUserId : Id} {s c' s' : Store} {u : Unit} :
    (disableStaffUser env actor targetUserId).eval s s = .ok (u, c', s') ↔
      hasPermission actor.permissions .staffManage = true ∧ (s.staffUsers.find targetUserId).isSome = true ∧
        s.hasTenant actor.tenantId = true ∧ c' = s' ∧ s' = s.disableStaff env actor targetUserId := by
  simp only [disableStaffUser, eval_requirePermission_bind, transaction, bind_assoc, Relation.eval_update_bind,
    eval_recordAuditLog_bind, Relation.eval_updateMany_bind, eval_commit, eval_ret, Except.ok.injEq, Prod.mk.injEq]
  constructor
  · rintro ⟨hperm, target, hfound, htenant, _, rfl, rfl⟩
    have hid : target.id = targetUserId := Table.key_of_find hfound
    subst hid
    exact ⟨hperm, Option.isSome_iff_exists.mpr ⟨target, hfound⟩, htenant, rfl, rfl⟩
  · rintro ⟨hperm, hsome, htenant, rfl, rfl⟩
    obtain ⟨target, hfound⟩ := Option.isSome_iff_exists.mp hsome
    have hid : target.id = targetUserId := Table.key_of_find hfound
    subst hid
    exact ⟨hperm, target, hfound, htenant, trivial, rfl, rfl⟩

/-- A call keeps every account but the one it may disable. -/
theorem StaffCall.upholds (call : StaffCall) (s : Store) : s.Upholds (fun id => call.Disables s id) (call.after s) := by
  have hafter : ∀ {α : Type} {p : Db α}, p.Guarantees (Store.Upholds (fun id => call.Disables s id)) →
      s.Upholds (fun id => call.Disables s id) (p.after s) :=
    fun hp => after_of_guarantees Store.upholds_refl (fun _ _ _ => .trans) hp s
  cases call with
  | createStaffUser env actor input => exact hafter (upholding_createStaffUser actor input)
  | setStaffPassword env token newPassword => exact hafter (upholding_setStaffPassword token newPassword)
  | bootstrapSuperAdmin env input => exact hafter (keptBySetup_upholds.bootstrapSuperAdmin input)
  | disableStaffUser env actor targetUserId =>
    obtain he | ⟨_, c, s', hev, he⟩ := after_of_atomic (atomic_disableStaffUser env actor targetUserId) s
    · rw [StaffCall.after, he]
      exact s.upholds_refl
    · rw [StaffCall.after, he]
      obtain ⟨hperm, _, htenant, _, rfl⟩ := disableStaffUser_ok_iff.mp hev
      have hmodify : s.Upholds (fun id => Disables s id (.disableStaffUser env actor targetUserId))
          (prisma.staffUser.modify targetUserId (fun r => { r with status := .disabled, updatedAt := env.now })
            (fun _ => rfl) s) :=
        upholds_of_modifyStaff s _ _ _ (fun _ => ⟨rfl, rfl⟩) (fun r _ hkeep => absurd ⟨hperm, htenant, rfl⟩ hkeep)
      exact hmodify.trans (upholds_of_staffing _ _ rfl)

theorem StaffCall.Disables.eq {call : StaffCall} {s : Store} {id id' : Id} (h : call.Disables s id)
    (h' : call.Disables s id') : id = id' := by
  cases call with
  | createStaffUser | setStaffPassword | bootstrapSuperAdmin => exact h.elim
  | disableStaffUser env actor targetUserId => exact h.2.2.symm.trans h'.2.2

theorem StaffCall.SparesLast.administered {call : StaffCall} {s : Store} {tenantId : Id}
    (h : call.SparesLast tenantId s) (hs : s.Administered tenantId) : (call.after s).Administered tenantId := by
  obtain ⟨r, hr⟩ := hs
  by_cases hd : call.Disables s r.id
  · have hother : ∃ q, s.IsAdministrator tenantId q ∧ q.id ≠ r.id := by
      by_contra hnone
      push Not at hnone
      exact h r.id hd ⟨⟨r, hr⟩, hnone⟩
    obtain ⟨q, hq, hne⟩ := hother
    exact (call.upholds s).administered hq (fun hd' => hne (hd'.eq hd))
  · exact (call.upholds s).administered hr hd

/-- Disabling the last account that may manage staff leaves none. -/
theorem StaffCall.not_administered {call : StaffCall} {s : Store} {tenantId id : Id} (hd : call.Disables s id)
    (hlast : s.LastAdministrator tenantId id) : ¬ (call.after s).Administered tenantId := by
  cases call with
  | createStaffUser | setStaffPassword | bootstrapSuperAdmin => exact hd.elim
  | disableStaffUser env actor targetUserId =>
    obtain ⟨hperm, htenants, rfl⟩ := hd
    obtain ⟨⟨r, hr⟩, honly⟩ := hlast
    have hfound : (s.staffUsers.find targetUserId).isSome = true := by
      rw [← honly r hr, Table.find_of_mem hr.1]
      rfl
    have hev : (Model.disableStaffUser env actor targetUserId).eval s s =
        .ok ((), s.disableStaff env actor targetUserId, s.disableStaff env actor targetUserId) :=
      disableStaffUser_ok_iff.mpr ⟨hperm, hfound, htenants, rfl, rfl⟩
    have hafter : StaffCall.after s (.disableStaffUser env actor targetUserId) = s.disableStaff env actor targetUserId := by
      rw [StaffCall.after, Program.after, run, hev]
    rw [hafter]
    rintro ⟨q, hq, htenant, hactive, hheld⟩
    have hq' : q ∈ s.staffUsers.modify targetUserId (fun r => { r with status := .disabled, updatedAt := env.now })
        (fun _ => rfl) := hq
    obtain ⟨hold, hne⟩ | ⟨p, _, _, rfl⟩ := Table.mem_modify.mp hq'
    · exact hne (honly q ⟨hold, htenant, hactive, hheld⟩)
    · cases hactive

end Calls

section Setup

variable {env : Env}

abbrev Kept : Store → Store → Prop := Store.Upholds (fun _ => False)

theorem kept_of_setup {α : Type} {p : Db α} (hp : p.Guarantees Kept) {s c t : Store} {a : α}
    (h : p.eval s s = .ok (a, c, t)) : Kept s t :=
  rel_of_guarantees Store.upholds_refl (fun _ _ _ => .trans) hp h

theorem bootstrapSuperAdmin_ok {input : BootstrapInput} {s t : Store} {result : BootstrapResult}
    (hnamed : s.PermissionsNamed) (h : (bootstrapSuperAdmin env input).run s = (t, .ok result)) :
    t.Administered result.tenantId ∧ t.Installed env.defaultTenantSlug result.tenantId := by
  obtain ⟨c, hev⟩ := run_ok_iff.mp h
  obtain ⟨htenant, hprovisioned, user, huser, _, htid, hactive, hsuper⟩ := bootstrapSuperAdmin_setUp hev
  have hnamed' : t.PermissionsNamed :=
    named_of_setup (keptBySetup_permissionsNamed.bootstrapSuperAdmin input) hev hnamed
  have hheld := hprovisioned.mem_permissionsOf hnamed' (hprovisioned.superAdmin hsuper)
    PermissionKey.staffManage.mem_allPermissions
  exact ⟨⟨user, huser, htid, beq_iff_eq.mp (Bool.and_eq_true_iff.mp hactive).1, hheld⟩, htenant, user, huser, htid⟩

/-- Once the installation has an account, setup is refused. -/
theorem bootstrapSuperAdmin_refused {s : Store} {tenantId : Id} (h : s.Installed env.defaultTenantSlug tenantId)
    (input : BootstrapInput) : (bootstrapSuperAdmin env input).completes s = false := by
  obtain ⟨tenant, hfound, rfl⟩ := Option.map_eq_some_iff.mp h.1
  obtain ⟨r, hr, htenant⟩ := h.2
  rw [Bool.eq_false_iff]
  intro hcompletes
  obtain ⟨t, result, hrun, _⟩ := returns_iff.mp hcompletes
  obtain ⟨c, hev⟩ := run_ok_iff.mp hrun
  rw [bootstrapSuperAdmin, eval_ensure_bind] at hev
  obtain ⟨q, c₁, t₁, hupsert, hchecks⟩ := eval_bind_ok.mp hev.2
  have hkept : Kept s t₁ :=
    kept_of_setup (Relation.guarantees_upsert Store.upholds_refl (keptBySetup_upholds.tenant _)).transaction hupsert
  obtain ⟨rfl, hslug⟩ := upsert_ok hupsert
  obtain ⟨hnone, _⟩ := eval_assertSetupNotComplete_bind.mp hchecks
  have hq : q = tenant := by
    obtain ⟨new, hnew⟩ := hkept.tenants
    have hsame : c₁.tenants.rows.find? (fun r => r.slug == env.defaultTenantSlug) = some tenant := by
      rw [← hnew, List.find?_append, hfound]
      rfl
    exact Option.some.inj (hslug.symm.trans hsame)
  obtain ⟨r', hr', _, htenant', _⟩ := hkept.staffUsers r hr
  refine List.countP_eq_zero.mp hnone r' hr' ?_
  rw [hq, htenant', htenant]
  exact beq_self_eq_true _

end Setup

/-- The tenant has an account that may manage its staff, or setup is open. -/
def Store.Operable (s : Store) (slug : String) (tenantId : Id) : Prop :=
  s.Administered tenantId ∨
    ∃ env input, env.defaultTenantSlug = slug ∧ (bootstrapSuperAdmin env input).completes s = true

/-- After setup, every state of a run is operable exactly when no call of it
disables the last account that may manage the staff. -/
theorem operable_iff {env : Env} {input : BootstrapInput} {s₀ s : Store} {result : BootstrapResult}
    (hnamed : s₀.PermissionsNamed) (hsetup : (bootstrapSuperAdmin env input).run s₀ = (s, .ok result))
    (calls : List StaffCall) :
    (∀ before, before <+: calls → (runStaff s before).Operable env.defaultTenantSlug result.tenantId) ↔
      AlongRun StaffCall.after (StaffCall.SparesLast result.tenantId) s calls := by
  obtain ⟨hadmin, hinstalled⟩ := bootstrapSuperAdmin_ok hnamed hsetup
  clear hsetup hnamed
  have hrefused : ∀ {t : Store}, t.Installed env.defaultTenantSlug result.tenantId →
      t.Operable env.defaultTenantSlug result.tenantId → t.Administered result.tenantId := by
    rintro t ht (hadmin | ⟨env', input', hslug, hcompletes⟩)
    · exact hadmin
    · rw [bootstrapSuperAdmin_refused (hslug ▸ ht) input'] at hcompletes
      cases hcompletes
  induction calls generalizing s with
  | nil =>
    refine ⟨fun _ => trivial, fun _ before hbefore => ?_⟩
    rw [List.prefix_nil.mp hbefore]
    exact Or.inl hadmin
  | cons call calls ih =>
    have hinstalled' := (call.upholds s).installed hinstalled
    constructor
    · intro hall
      have hnext : (call.after s).Administered result.tenantId :=
        hrefused hinstalled' (hall [call] (List.prefix_append [call] calls))
      refine ⟨fun id hid hlast => StaffCall.not_administered hid hlast hnext, (ih hnext hinstalled').mp ?_⟩
      exact fun before hbefore => hall (call :: before) (List.cons_prefix_cons.mpr ⟨rfl, hbefore⟩)
    · rintro ⟨hspares, hrest⟩ before hbefore
      have hnext := StaffCall.SparesLast.administered hspares hadmin
      cases before with
      | nil => exact Or.inl hadmin
      | cons first before =>
        obtain ⟨rfl, hrestBefore⟩ := List.cons_prefix_cons.mp hbefore
        exact (ih hnext hinstalled').mpr hrest before hrestBefore

namespace Sample

/-- The super admin disables its own account. -/
def selfDisabling : StaffCall := .disableStaffUser (env "b") superAdmin "id-a1"

/-- It invites an account of its own role first. -/
def appointing : StaffCall :=
  .createStaffUser (env "c") superAdmin { email := "next@example.test", name := "Next", roleKey := "super_admin" }

end Sample

open Sample

theorem installed_administrator {r : StaffUser} (hr : installed.IsAdministrator "id-a0" r) : r.id = "id-a1" := by
  have hmem : r.id ∈ installed.staffUsers.rows.map StaffUser.id := List.mem_map_of_mem hr.1
  rw [run_setup.2.1] at hmem
  exact List.mem_singleton.mp hmem

/-- The only administrator disables its own account, and neither setup nor
anybody else can bring one back. -/
theorem administrator_disables_itself :
    (bootstrapSuperAdmin (env "a") setupForm).run {} =
        (installed, .ok { tenantId := "id-a0", staffUserId := "id-a1", email := "admin@example.test" }) ∧
      (loadStaffActor "id-a1").returns installed (fun _ a => decide (a = some superAdmin)) = true ∧
      hasPermission superAdmin.permissions .staffManage = true ∧
      ¬ (runStaff installed [selfDisabling]).Operable (env "a").defaultTenantSlug "id-a0" := by
  obtain ⟨hrun, _, hload⟩ := run_setup
  obtain ⟨hadmin, hinstalled⟩ := bootstrapSuperAdmin_ok permissionsNamed_empty hrun
  have hd : selfDisabling.Disables installed "id-a1" := ⟨by decide, hinstalled.hasTenant, rfl⟩
  refine ⟨hrun, hload, by decide, ?_⟩
  rintro (hleft | ⟨env', input, hslug, hcompletes⟩)
  · exact StaffCall.not_administered hd ⟨hadmin, fun r hr => installed_administrator hr⟩ hleft
  · have hstill := (selfDisabling.upholds installed).installed hinstalled
    rw [← hslug] at hstill
    cases (bootstrapSuperAdmin_refused hstill input).symm.trans hcompletes

/-- The super admin may go once it has appointed another account that manages the
staff. -/
theorem operable_appointed :
    (∀ before, before <+: [appointing, selfDisabling] →
      (runStaff installed before).Operable (env "a").defaultTenantSlug "id-a0") ∧
    (runStaff installed [appointing, selfDisabling]).staffUsers.rows.map (fun r => (r.id, r.status)) =
      [("id-a1", .disabled), ("id-c0", .active)] := by
  have hrun : (((appointing.after installed).staffUsers.find "id-c0").any (fun r => r.tenantId == "id-a0" &&
      r.status == .active && ((appointing.after installed).permissionsOf r.roleId).contains "staff.manage") &&
        decide ((runStaff installed [appointing, selfDisabling]).staffUsers.rows.map (fun r => (r.id, r.status)) =
          [("id-a1", .disabled), ("id-c0", .active)])) = true := by
    decide +kernel
  obtain ⟨happointed, hdisabled⟩ := Bool.and_eq_true_iff.mp hrun
  refine ⟨(operable_iff permissionsNamed_empty run_setup.1 _).mpr ⟨fun _ hd => hd.elim, ?_, trivial⟩,
    of_decide_eq_true hdisabled⟩
  rintro id ⟨_, _, rfl⟩ ⟨_, honly⟩
  obtain ⟨r, hfound, hheld⟩ := (Option.any_eq_true _ _).mp happointed
  simp only [Bool.and_eq_true, beq_iff_eq, List.contains_iff_mem] at hheld
  have hid := honly r ⟨Table.mem_of_find hfound, hheld.1.1, hheld.1.2, hheld.2⟩
  rw [Table.key_of_find hfound] at hid
  revert hid
  decide

end HostPanel.Model
