import HostPanel.Model.Staff

namespace HostPanel.Model

open HostPanel.Lib HostPanel.Lib.Program

def staffRoleKeys : List StaffRoleKey :=
  [.superAdmin, .admin, .billingStaff, .supportStaff, .salesStaff, .technicalStaff, .financeStaff, .readonlyStaff]

def staffRoleLabels : StaffRoleKey → String
  | .superAdmin => "Super Admin"
  | .admin => "Admin"
  | .billingStaff => "Billing Staff"
  | .supportStaff => "Support Staff"
  | .salesStaff => "Sales Staff"
  | .technicalStaff => "Technical Staff"
  | .financeStaff => "Finance Staff"
  | .readonlyStaff => "Read-only Staff"

def readOnlyPermissions : List PermissionKey :=
  [.clientsRead, .productsRead, .ordersRead, .invoicesRead, .paymentsRead, .reportsFinance, .auditRead]

def defaultRolePermissions : StaffRoleKey → List PermissionKey
  | .superAdmin => allPermissions
  | .admin => allPermissions.filter (fun p => p ≠ .rolesManage)
  | .billingStaff =>
    [.clientsRead, .ordersRead, .invoicesRead, .invoicesWrite, .paymentsRead, .paymentsRefund, .reportsFinance,
      .auditRead]
  | .financeStaff =>
    [.clientsRead, .ordersRead, .invoicesRead, .invoicesWrite, .paymentsRead, .paymentsRefund, .reportsFinance,
      .auditRead, .settingsManage]
  | .supportStaff => [.clientsRead, .clientsContactsManage, .clientsImpersonate, .ordersRead, .supportManage]
  | .salesStaff => [.clientsRead, .clientsWrite, .productsRead, .ordersRead, .ordersWrite]
  | .technicalStaff => [.clientsRead, .ordersRead, .domainsManage, .provisioningManage, .supportManage]
  | .readonlyStaff => readOnlyPermissions

structure BootstrapInput where
  name : String
  email : String
  password : String
  ip : Option String := none

structure BootstrapResult where
  tenantId : Id
  staffUserId : Id
  email : String

/-- `length` of a JavaScript string: a character beyond the first plane counts
twice. -/
def jsLength (s : String) : ℕ := (s.toList.map (fun c => if 65536 ≤ c.toNat then 2 else 1)).sum

def setupCompleted : Failure :=
  businessRuleError "setup.already_completed"
    "Setup has already been completed. Sign in, or ask an existing admin for an invite."

def countStaff (tenantId : Id) : Db ℕ :=
  .query (fun v => .ret (v.staffUsers.rows.countP (fun r => r.tenantId == tenantId)))

def assertSetupNotComplete (tenantId : Id) : Db Unit := do
  let existingStaffCount ← countStaff tenantId
  ensure (existingStaffCount = 0) setupCompleted

/-- What stands before the first dot of a permission's key. -/
def PermissionKey.category (key : PermissionKey) : String :=
  String.ofList (key.name.toList.takeWhile (fun c => c != '.'))

/-- The loop over the permission catalog; `n` ids are drawn before it. -/
def upsertPermissions (env : Env) : ℕ → List PermissionKey → Db Unit
  | _, [] => .ret ()
  | n, key :: keys => do
    let _ ← transaction (prisma.permission.upsert (fun r => r.key == key.name)
      { id := env.cuid n, key := key.name, category := key.category })
    upsertPermissions env (n + 1) keys

/-- The id under a key in the permissions found; an empty id counts as none. -/
def permissionIdOf (permissions : List Permission) (key : PermissionKey) : Option Id :=
  ((permissions.reverse.find? (fun r => r.key == key.name)).map Permission.id).filter (fun id => id != "")

def upsertRolePermissions (permissions : List Permission) (roleId : Id) : List PermissionKey → Db Unit
  | [] => .ret ()
  | key :: keys =>
    match permissionIdOf permissions key with
    | none => upsertRolePermissions permissions roleId keys
    | some permissionId => do
      let _ ← transaction (prisma.rolePermission.upsert
        (fun r => r.roleId == roleId && r.permissionId == permissionId)
        { roleId := roleId, permissionId := permissionId })
      upsertRolePermissions permissions roleId keys

/-- The loop over the roles, with the id of each. -/
def upsertRoles (env : Env) (tenantId : Id) (permissions : List Permission) :
    ℕ → List StaffRoleKey → Db (List (StaffRoleKey × Id))
  | _, [] => .ret []
  | n, roleKey :: roleKeys => do
    let role ← transaction (prisma.role.upsert (fun r => r.tenantId == tenantId && r.key == roleKey.name)
      { id := env.cuid n, tenantId := tenantId, key := roleKey.name, name := staffRoleLabels roleKey })
    upsertRolePermissions permissions role.id (defaultRolePermissions roleKey)
    let rest ← upsertRoles env tenantId permissions (n + 1) roleKeys
    return (roleKey, role.id) :: rest

def superAdminRoleId (roleIds : List (StaffRoleKey × Id)) : Option Id :=
  ((roleIds.find? (fun r => r.1 == .superAdmin)).map Prod.snd).filter (fun id => id != "")

def setupAudit (input : BootstrapInput) (tenantId : Id) (email : String) (userId : Id) : AuditLog :=
  { tenantId := tenantId
    actorType := .system
    actorId := none
    actorLabel := some "setup wizard"
    action := "staff_user.created"
    entityType := .staffUser
    entityId := userId
    ip := input.ip
    afterState := some [("email", .scalar (.str email)), ("name", .scalar (.str input.name)),
      ("roleKey", .scalar (.str "super_admin"))]
    reason := some "First-run production setup (/admin/setup)" }

/-- The transaction of `bootstrapSuperAdmin`: count again, then insert. -/
def insertSuperAdmin (env : Env) (input : BootstrapInput) (tenantId : Id) (email : String) (roleId : Id) :
    Db StaffUser := do
  let alreadySetUp ← countStaff tenantId
  ensure (alreadySetUp = 0) setupCompleted
  let created ← prisma.staffUser.create
    { id := env.cuid 1
      tenantId := tenantId
      email := email
      name := input.name
      roleId := roleId
      passwordHash := env.hashPassword input.password
      status := .active
      emailVerifiedAt := some env.now
      mustChangePassword := false
      updatedAt := env.now }
  recordAuditLog (setupAudit input tenantId email created.id)
  return created

/-- The permissions and roles of a new tenant, up to the id of its first role. -/
def installRoles (env : Env) (tenantId : Id) : Db Id := do
  upsertPermissions env 2 allPermissions
  let permissions ← .query (fun v => .ret v.permissions.rows)
  let roleIds ← upsertRoles env tenantId permissions (2 + allPermissions.length) staffRoleKeys
  orThrow (superAdminRoleId roleIds) (.error "super_admin role missing after bootstrap")

def bootstrapSuperAdmin (env : Env) (input : BootstrapInput) : Db BootstrapResult := do
  let email := normalizeEmail input.email
  ensure (10 ≤ jsLength input.password)
    (validationError "setup.weak_password" "Password must be at least 10 characters.")
  let tenant ← transaction (prisma.tenant.upsert (fun r => r.slug == env.defaultTenantSlug)
    { id := env.cuid 0, slug := env.defaultTenantSlug, name := env.appName })
  assertSetupNotComplete tenant.id
  let roleId ← installRoles env tenant.id
  let staffUser ← transaction (insertSuperAdmin env input tenant.id email roleId)
  return { tenantId := tenant.id, staffUserId := staffUser.id, email := email }

section Loops

variable {env : Env} {rel : Store → Store → Prop}

theorem guarantees_upsertRolePermissions (hrefl : ∀ t, rel t t)
    (hgrant : ∀ row t, rel t (prisma.rolePermission.insert row t)) (permissions : List Permission) (roleId : Id)
    (keys : List PermissionKey) : (upsertRolePermissions permissions roleId keys).Guarantees rel := by
  induction keys with
  | nil => trivial
  | cons key keys ih =>
    rw [upsertRolePermissions]
    cases permissionIdOf permissions key with
    | none => exact ih
    | some permissionId =>
      refine Guarantees.bind (Guarantees.transaction ?_) (fun _ => ih)
      exact Relation.guarantees_upsert hrefl (hgrant _)

theorem guarantees_upsertRoles (hrefl : ∀ t, rel t t)
    (hrole : ∀ row, row.id ≠ "" → ∀ t, rel t (prisma.role.insert row t))
    (hgrant : ∀ row t, rel t (prisma.rolePermission.insert row t)) (tenantId : Id) (permissions : List Permission)
    (n : ℕ) (roleKeys : List StaffRoleKey) : (upsertRoles env tenantId permissions n roleKeys).Guarantees rel := by
  induction roleKeys generalizing n with
  | nil => trivial
  | cons roleKey roleKeys ih =>
    refine Guarantees.bind (Guarantees.transaction ?_) (fun role => ?_)
    · exact Relation.guarantees_upsert hrefl (hrole _ (env.cuid_ne_empty n))
    refine (guarantees_upsertRolePermissions hrefl hgrant _ _ _).bind (fun _ => ?_)
    exact (ih (n + 1)).bind (fun _ => trivial)

theorem guarantees_insertSuperAdmin (hstaff : ∀ row t, rel t (prisma.staffUser.insert row t))
    (haudit : ∀ row (t : Store), rel t (t.withAuditLog row)) (input : BootstrapInput) (tenantId : Id) (email : String)
    (roleId : Id) : (insertSuperAdmin env input tenantId email roleId).Guarantees rel := by
  refine Guarantees.bind (fun _ => trivial) (fun alreadySetUp => (guarantees_ensure _ _).bind (fun _ => ?_))
  refine (Relation.guarantees_create _ (hstaff _)).bind (fun created => ?_)
  exact (guarantees_recordAuditLog _ (haudit _)).bind (fun _ => trivial)

end Loops

/-- What a relation must keep for the setup wizard to keep it: rows are added,
those of the catalog with an id. -/
structure KeptBySetup (rel : Store → Store → Prop) : Prop where
  refl : ∀ t, rel t t
  tenant : ∀ row t, rel t (prisma.tenant.insert row t)
  permission : ∀ row, row.id ≠ "" → ∀ t, rel t (prisma.permission.insert row t)
  role : ∀ row, row.id ≠ "" → ∀ t, rel t (prisma.role.insert row t)
  rolePermission : ∀ row t, rel t (prisma.rolePermission.insert row t)
  staffUser : ∀ row t, rel t (prisma.staffUser.insert row t)
  auditLog : ∀ row (t : Store), rel t (t.withAuditLog row)

namespace KeptBySetup

variable {env : Env} {rel : Store → Store → Prop} (hrel : KeptBySetup rel)

include hrel

theorem upsertPermissions (n : ℕ) (keys : List PermissionKey) : (upsertPermissions env n keys).Guarantees rel := by
  induction keys generalizing n with
  | nil => trivial
  | cons key keys ih =>
    refine Guarantees.bind (Guarantees.transaction ?_) (fun _ => ih (n + 1))
    exact Relation.guarantees_upsert hrel.refl (hrel.permission _ (env.cuid_ne_empty n))

theorem upsertRoles (tenantId : Id) (permissions : List Permission) (n : ℕ) (roleKeys : List StaffRoleKey) :
    (upsertRoles env tenantId permissions n roleKeys).Guarantees rel :=
  guarantees_upsertRoles hrel.refl hrel.role hrel.rolePermission tenantId permissions n roleKeys

theorem installRoles (tenantId : Id) : (installRoles env tenantId).Guarantees rel := by
  refine (hrel.upsertPermissions _ _).bind (fun _ => Guarantees.bind (fun _ => trivial) (fun permissions => ?_))
  exact (hrel.upsertRoles _ _ _ _).bind (fun _ => guarantees_orThrow _ _)

theorem insertSuperAdmin (input : BootstrapInput) (tenantId : Id) (email : String) (roleId : Id) :
    (insertSuperAdmin env input tenantId email roleId).Guarantees rel :=
  guarantees_insertSuperAdmin hrel.staffUser hrel.auditLog input tenantId email roleId

theorem bootstrapSuperAdmin (input : BootstrapInput) : (bootstrapSuperAdmin env input).Guarantees rel := by
  refine (guarantees_ensure _ _).bind (fun _ => Guarantees.bind (Guarantees.transaction ?_) (fun tenant => ?_))
  · exact Relation.guarantees_upsert hrel.refl (hrel.tenant _)
  refine Guarantees.bind (Guarantees.bind (fun _ => trivial) (fun _ => guarantees_ensure _ _)) (fun _ => ?_)
  refine (hrel.installRoles _).bind (fun roleId => ?_)
  exact (hrel.insertSuperAdmin _ _ _ _).transaction.bind (fun _ => trivial)

end KeptBySetup

end HostPanel.Model
