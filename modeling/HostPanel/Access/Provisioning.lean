import HostPanel.Access.Grants
import HostPanel.Lib.Faults
import HostPanel.Lib.Run

namespace HostPanel.Model

open HostPanel.Lib HostPanel.Lib.Program

/-- Tenants, permissions, roles and grants are added, and none is taken away. -/
structure Store.Extended (s t : Store) : Prop where
  tenants : s.tenants.rows <+: t.tenants.rows
  permissions : ∀ r ∈ s.permissions, r ∈ t.permissions
  roles : s.roles.rows <+: t.roles.rows
  rolePermissions : ∀ r ∈ s.rolePermissions, r ∈ t.rolePermissions

theorem Store.extended_refl (s : Store) : s.Extended s := 
  ⟨List.prefix_refl _, fun _ h => h, List.prefix_refl _, fun _ h => h⟩

theorem Store.Extended.trans {s t u : Store} (h : s.Extended t) (h' : t.Extended u) : s.Extended u :=
  ⟨h.tenants.trans h'.tenants, fun r hr => h'.permissions r (h.permissions r hr), h.roles.trans h'.roles,
    fun r hr => h'.rolePermissions r (h.rolePermissions r hr)⟩

theorem Store.Extended.roleOf {s t : Store} (h : s.Extended t) {tenantId : Id} {roleKey : String} {role : Role}
    (hrole : s.roleOf tenantId roleKey = some role) : t.roleOf tenantId roleKey = some role :=
  h.roles.find?_eq_some hrole

/-- Every permission has an id. -/
def Store.PermissionsNamed (s : Store) : Prop := ∀ r ∈ s.permissions, r.id ≠ ""

abbrev NamesKept : Store → Store → Prop := fun s t => s.PermissionsNamed → t.PermissionsNamed

theorem prefix_insert {ρ ι : Type} [DecidableEq ι] {key : ρ → ι} (t : Table key) (row : ρ) :
    t.rows <+: (t.insert row).rows := by
  by_cases h : key row ∈ t.rows.map key
  · rw [Table.insert, dif_pos h]
  · rw [Table.insert, dif_neg h]
    exact List.prefix_append _ _

/-- The tables that the wizard fills before its last transaction. -/
def Store.catalog (s : Store) :
    Table Tenant.id × Table Permission.id × Table Role.id × Table RolePermission.ref :=
  (s.tenants, s.permissions, s.roles, s.rolePermissions)

theorem extended_of_catalog (s t : Store) (h : t.catalog = s.catalog) : s.Extended t := by
  simp only [Store.catalog, Prod.mk.injEq] at h
  obtain ⟨htenants, hpermissions, hroles, hgrants⟩ := h
  have hrefl := s.extended_refl
  exact ⟨htenants ▸ hrefl.tenants, hpermissions ▸ hrefl.permissions, hroles ▸ hrefl.roles,
    hgrants ▸ hrefl.rolePermissions⟩

theorem keptBySetup_extended : KeptBySetup Store.Extended where
  refl := Store.extended_refl
  tenant row t := { t.extended_refl with tenants := prefix_insert t.tenants row }
  permission _ _ t := { t.extended_refl with permissions := fun _ h => Table.mem_insert_of_mem h }
  role row _ t := { t.extended_refl with roles := prefix_insert t.roles row }
  rolePermission _ t := { t.extended_refl with rolePermissions := fun _ h => Table.mem_insert_of_mem h }
  staffUser _ t := extended_of_catalog t _ rfl
  auditLog _ t := extended_of_catalog t _ rfl

theorem keptBySetup_permissionsNamed : KeptBySetup NamesKept where
  refl _ h := h
  tenant _ _ h := h
  permission row hid t h := by
    intro r hr
    obtain hold | rfl := Table.of_mem_insert (t := t.permissions) hr
    · exact h r hold
    · exact hid
  role _ _ _ h := h
  rolePermission _ _ h := h
  staffUser _ _ h := h
  auditLog _ _ h := h

theorem rel_of_guarantees {α : Type} {rel : Store → Store → Prop} {p : Db α} (hrefl : ∀ s, rel s s)
    (htrans : ∀ s t u, rel s t → rel t u → rel s u) (hp : p.Guarantees rel) {s c t : Store} {a : α}
    (h : p.eval s s = .ok (a, c, t)) : rel s t := by
  have hrel := eval_of_guarantees hrefl htrans hp (hrefl s)
  rw [h] at hrel
  exact htrans _ _ _ hrel.1 hrel.2

theorem named_of_setup {α : Type} {p : Db α} (hp : p.Guarantees NamesKept) {s c t : Store} {a : α}
    (h : p.eval s s = .ok (a, c, t)) (hs : s.PermissionsNamed) : t.PermissionsNamed :=
  rel_of_guarantees (fun _ h => h) (fun _ _ _ h h' hs => h' (h hs)) hp h hs

theorem extended_of_setup {α : Type} {p : Db α} (hp : p.Guarantees Store.Extended) {s c t : Store} {a : α}
    (h : p.eval s s = .ok (a, c, t)) : s.Extended t :=
  rel_of_guarantees Store.extended_refl (fun _ _ _ => .trans) hp h

theorem same_of_setup {α γ : Type} {π : Store → γ} {p : Db α} (hp : p.Guarantees (fun s t => π t = π s)) {s c t : Store}
    {a : α} (h : p.eval s s = .ok (a, c, t)) : π t = π s := by
  refine rel_of_guarantees ?_ ?_ hp h
  · exact fun _ => rfl
  · exact fun _ _ _ h h' => h'.trans h

section Upsert

variable {ρ ι : Type} [DecidableEq ι] {key : ρ → ι} {R : Relation key} {p : ρ → Bool} {row r : ρ} {s c t : Store}

/-- An upsert of its own ends with the row it returns. -/
theorem upsert_ok (h : (transaction (R.upsert p row)).eval s s = .ok (r, c, t)) :
    c = t ∧ (R.get t).rows.find? p = some r := by
  obtain ⟨hc, c', hev⟩ := eval_transaction_ok.mp h
  rw [Relation.upsert, eval_exec] at hev
  split at hev
  · cases hev
  · rename_i eff _
    cases hr : (R.get (eff.apply s)).rows.find? p with
    | none =>
      simp only [hr] at hev
      cases hev
    | some q =>
      simp only [hr] at hev
      cases hev
      exact ⟨hc, hr⟩

theorem upsert_again (h : (R.get t).rows.find? p = some r) :
    (transaction (R.upsert p row)).eval t t = .ok (r, t, t) := by
  refine eval_transaction_ok.mpr ⟨rfl, t, ?_⟩
  rw [Relation.upsert, eval_exec]
  simp only [h, id_eq]
  rfl

end Upsert

section Loops

variable {env : Env}

/-- Every key of the catalog gets a permission. -/
theorem upsertPermissions_ok {n : ℕ} {keys : List PermissionKey} {s c t : Store} {u : Unit}
    (h : (upsertPermissions env n keys).eval s s = .ok (u, c, t)) :
    c = t ∧ ∀ key ∈ keys, ∃ r ∈ t.permissions, r.key = key.name := by
  induction keys generalizing n s with
  | nil =>
    cases h
    exact ⟨rfl, fun key hkey => absurd hkey List.not_mem_nil⟩
  | cons key keys ih =>
    obtain ⟨r, c₁, t₁, hfirst, hrest⟩ := eval_bind_ok.mp h
    obtain ⟨rfl, hfound⟩ := upsert_ok hfirst
    obtain ⟨hc, hkeys⟩ := ih hrest
    have hkept : c₁.Extended t := extended_of_setup (keptBySetup_extended.upsertPermissions _ _) hrest
    refine ⟨hc, fun k hk => ?_⟩
    obtain rfl | hk := List.mem_cons.mp hk
    · exact ⟨r, hkept.permissions r (List.mem_of_find?_eq_some hfound), by simpa using List.find?_some hfound⟩
    · exact hkeys k hk

theorem upsertPermissions_again {n : ℕ} {keys : List PermissionKey} {t : Store}
    (h : ∀ key ∈ keys, ∃ r ∈ t.permissions, r.key = key.name) :
    (upsertPermissions env n keys).eval t t = .ok ((), t, t) := by
  induction keys generalizing n with
  | nil => rfl
  | cons key keys ih =>
    obtain ⟨r, hr, hkey⟩ := h key List.mem_cons_self
    have hsome : (t.permissions.rows.find? (fun r => r.key == key.name)).isSome = true :=
      List.find?_isSome.mpr ⟨r, hr, beq_iff_eq.mpr hkey⟩
    obtain ⟨q, hq⟩ := Option.isSome_iff_exists.mp hsome
    exact eval_bind_ok.mpr ⟨q, t, t, upsert_again hq, ih (fun k hk => h k (List.mem_cons_of_mem key hk))⟩

/-- The role holds the permissions of the keys, as far as the catalog names them. -/
def Store.Granted (s : Store) (permissions : List Permission) (roleId : Id) (keys : List PermissionKey) : Prop :=
  ∀ key ∈ keys, ∀ id, permissionIdOf permissions key = some id →
    ∃ r ∈ s.rolePermissions, r.roleId = roleId ∧ r.permissionId = id

theorem Store.Extended.granted {s t : Store} (h : s.Extended t) {permissions : List Permission} {roleId : Id}
    {keys : List PermissionKey} (hs : s.Granted permissions roleId keys) : t.Granted permissions roleId keys := by
  intro key hkey id hid
  obtain ⟨r, hr, hmatch⟩ := hs key hkey id hid
  exact ⟨r, h.rolePermissions r hr, hmatch⟩

/-- A role gets the permissions that the catalog names. -/
theorem upsertRolePermissions_ok {permissions : List Permission} {roleId : Id} {keys : List PermissionKey}
    {s c t : Store} {u : Unit} (h : (upsertRolePermissions permissions roleId keys).eval s s = .ok (u, c, t)) :
    c = t ∧ t.Granted permissions roleId keys := by
  induction keys generalizing s with
  | nil =>
    cases h
    exact ⟨rfl, fun key hkey => absurd hkey List.not_mem_nil⟩
  | cons key keys ih =>
    rw [upsertRolePermissions] at h
    cases hid : permissionIdOf permissions key with
    | none =>
      rw [hid] at h
      obtain ⟨hc, hkeys⟩ := ih h
      refine ⟨hc, fun k hk id hkid => ?_⟩
      obtain rfl | hk := List.mem_cons.mp hk
      · rw [hid] at hkid
        cases hkid
      · exact hkeys k hk id hkid
    | some permissionId =>
      rw [hid] at h
      obtain ⟨r, c₁, t₁, hfirst, hrest⟩ := eval_bind_ok.mp h
      obtain ⟨rfl, hfound⟩ := upsert_ok hfirst
      obtain ⟨hc, hkeys⟩ := ih hrest
      have hkept : c₁.Extended t := extended_of_setup (guarantees_upsertRolePermissions Store.extended_refl
        keptBySetup_extended.rolePermission _ _ _) hrest
      refine ⟨hc, fun k hk id hkid => ?_⟩
      obtain rfl | hk := List.mem_cons.mp hk
      · rw [hid] at hkid
        cases hkid
        have hmatch := List.find?_some hfound
        simp only [Bool.and_eq_true, beq_iff_eq] at hmatch
        exact ⟨r, hkept.rolePermissions r (List.mem_of_find?_eq_some hfound), hmatch⟩
      · exact hkeys k hk id hkid

theorem upsertRolePermissions_again {permissions : List Permission} {roleId : Id} {keys : List PermissionKey}
    {t : Store} (h : t.Granted permissions roleId keys) :
    (upsertRolePermissions permissions roleId keys).eval t t = .ok ((), t, t) := by
  induction keys with
  | nil => rfl
  | cons key keys ih =>
    have hrest := ih (fun k hk => h k (List.mem_cons_of_mem key hk))
    rw [upsertRolePermissions]
    cases hid : permissionIdOf permissions key with
    | none => exact hrest
    | some permissionId =>
      obtain ⟨r, hr, hrole, hpermission⟩ := h key List.mem_cons_self permissionId hid
      have hsome : (t.rolePermissions.rows.find?
          (fun r => r.roleId == roleId && r.permissionId == permissionId)).isSome = true := by
        refine List.find?_isSome.mpr ⟨r, hr, ?_⟩
        rw [hrole, hpermission, beq_self_eq_true, beq_self_eq_true, Bool.and_self]
      obtain ⟨q, hq⟩ := Option.isSome_iff_exists.mp hsome
      exact eval_bind_ok.mpr ⟨q, t, t, upsert_again hq, hrest⟩

/-- The ids of the roles of a tenant, as the wizard collects them. -/
def Store.roleIds (s : Store) (tenantId : Id) (roleKeys : List StaffRoleKey) : List (StaffRoleKey × Id) :=
  roleKeys.map (fun roleKey => (roleKey, ((s.roleOf tenantId roleKey.name).map Role.id).getD ""))

theorem Store.roleIds_cons {s : Store} {tenantId : Id} {roleKey : StaffRoleKey} {role : Role}
    (h : s.roleOf tenantId roleKey.name = some role) (roleKeys : List StaffRoleKey) :
    s.roleIds tenantId (roleKey :: roleKeys) = (roleKey, role.id) :: s.roleIds tenantId roleKeys := by
  rw [Store.roleIds, List.map_cons, h]
  rfl

/-- The tenant has the role, with its default permissions at least. -/
def Store.HasRole (s : Store) (tenantId : Id) (permissions : List Permission) (roleKey : StaffRoleKey) : Prop :=
  ∃ role, s.roleOf tenantId roleKey.name = some role ∧ s.Granted permissions role.id (defaultRolePermissions roleKey)

/-- Every role of the loop ends with its default permissions. -/
theorem upsertRoles_ok {tenantId : Id} {permissions : List Permission} {n : ℕ} {roleKeys : List StaffRoleKey}
    {s c t : Store} {roleIds : List (StaffRoleKey × Id)}
    (h : (upsertRoles env tenantId permissions n roleKeys).eval s s = .ok (roleIds, c, t)) :
    c = t ∧ roleIds = t.roleIds tenantId roleKeys ∧ ∀ roleKey ∈ roleKeys, t.HasRole tenantId permissions roleKey := by
  induction roleKeys generalizing n s roleIds with
  | nil =>
    cases h
    exact ⟨rfl, rfl, fun roleKey hkey => absurd hkey List.not_mem_nil⟩
  | cons roleKey roleKeys ih =>
    obtain ⟨role, c₁, t₁, hrole, hrest⟩ := eval_bind_ok.mp h
    obtain ⟨rfl, hfound⟩ := upsert_ok hrole
    obtain ⟨_, c₂, t₂, hgrants, hrest⟩ := eval_bind_ok.mp hrest
    have hkept₁ : c₁.Extended t₂ := extended_of_setup (guarantees_upsertRolePermissions Store.extended_refl
      keptBySetup_extended.rolePermission _ _ _) hgrants
    obtain ⟨rfl, hkeys⟩ := upsertRolePermissions_ok hgrants
    obtain ⟨rest, c₃, t₃, hlater, hret⟩ := eval_bind_ok.mp hrest
    have hkept₂ : c₂.Extended t₃ := extended_of_setup (keptBySetup_extended.upsertRoles _ _ _ _) hlater
    cases hret
    obtain ⟨hc, hids, hroles⟩ := ih hlater
    have hlast : t.roleOf tenantId roleKey.name = some role := (hkept₁.trans hkept₂).roleOf hfound
    refine ⟨hc, ?_, fun k hk => ?_⟩
    · rw [Store.roleIds_cons hlast, hids]
    · obtain rfl | hk := List.mem_cons.mp hk
      · exact ⟨role, hlast, hkept₂.granted hkeys⟩
      · exact hroles k hk

theorem upsertRoles_again {tenantId : Id} {permissions : List Permission} {n : ℕ} {roleKeys : List StaffRoleKey}
    {t : Store} (h : ∀ roleKey ∈ roleKeys, t.HasRole tenantId permissions roleKey) :
    (upsertRoles env tenantId permissions n roleKeys).eval t t = .ok (t.roleIds tenantId roleKeys, t, t) := by
  induction roleKeys generalizing n with
  | nil => rfl
  | cons roleKey roleKeys ih =>
    obtain ⟨role, hrole, hgranted⟩ := h roleKey List.mem_cons_self
    have hrest := ih (n := n + 1) (fun k hk => h k (List.mem_cons_of_mem roleKey hk))
    refine eval_bind_ok.mpr ⟨role, t, t, upsert_again hrole, ?_⟩
    refine eval_bind_ok.mpr ⟨(), t, t, upsertRolePermissions_again hgranted, ?_⟩
    refine eval_bind_ok.mpr ⟨_, t, t, hrest, ?_⟩
    rw [Store.roleIds_cons hrole]
    rfl

end Loops

theorem PermissionKey.mem_allPermissions (key : PermissionKey) : key ∈ allPermissions := by
  cases key <;> decide

theorem permissionIdOf_isSome {permissions : Table Permission.id} (hnamed : ∀ r ∈ permissions, r.id ≠ "")
    {key : PermissionKey} (h : ∃ r ∈ permissions, r.key = key.name) :
    ∃ p ∈ permissions, p.key = key.name ∧ permissionIdOf permissions.rows key = some p.id := by
  obtain ⟨r, hr, hkey⟩ := h
  have hsome : (permissions.rows.reverse.find? (fun r => r.key == key.name)).isSome = true :=
    List.find?_isSome.mpr ⟨r, List.mem_reverse.mpr hr, beq_iff_eq.mpr hkey⟩
  obtain ⟨p, hp⟩ := Option.isSome_iff_exists.mp hsome
  have hmem : p ∈ permissions := List.mem_reverse.mp (List.mem_of_find?_eq_some hp)
  refine ⟨p, hmem, by simpa using List.find?_some hp, ?_⟩
  simp [permissionIdOf, hp, hnamed p hmem]

theorem superAdminRoleId_cons (id : Id) (rest : List (StaffRoleKey × Id)) :
    superAdminRoleId ((.superAdmin, id) :: rest) = if id = "" then none else some id := by
  by_cases h : id = "" <;> simp [superAdminRoleId, h]

/-- Every permission of the catalog is there, and the tenant has every role of
it with its default permissions at least. -/
structure Store.Provisioned (s : Store) (tenantId : Id) : Prop where
  permissions : ∀ key ∈ allPermissions, ∃ r ∈ s.permissions, r.key = key.name
  roles : ∀ roleKey ∈ staffRoleKeys, s.HasRole tenantId s.permissions.rows roleKey

section Provisioned

variable {env : Env} {s c t : Store} {tenantId roleId : Id}

theorem Store.Provisioned.of_catalog (h : s.Provisioned tenantId) (hsame : t.catalog = s.catalog) :
    t.Provisioned tenantId := by
  have hext := extended_of_catalog s t hsame
  have hpermissions : t.permissions = s.permissions := congrArg (fun x => x.2.1) hsame
  constructor
  · rw [hpermissions]
    exact h.permissions
  · intro roleKey hkey
    obtain ⟨role, hrole, hgranted⟩ := h.roles roleKey hkey
    rw [hpermissions]
    exact ⟨role, hext.roleOf hrole, hext.granted hgranted⟩

theorem Store.Provisioned.mem_permissionsOf (h : s.Provisioned tenantId) (hnamed : s.PermissionsNamed)
    {keys : List PermissionKey} (hgranted : s.Granted s.permissions.rows roleId keys) {key : PermissionKey}
    (hkey : key ∈ keys) : key.name ∈ s.permissionsOf roleId := by
  obtain ⟨p, hp, hpkey, hpid⟩ := permissionIdOf_isSome hnamed (h.permissions key key.mem_allPermissions)
  obtain ⟨r, hr, hrole, hpermission⟩ := hgranted key hkey p.id hpid
  have hfound : s.permissions.find r.permissionId = some p := by
    rw [hpermission]
    exact Table.find_of_mem hp
  simp only [Store.permissionsOf, List.mem_filterMap, List.mem_filter, beq_iff_eq, Option.map_eq_some_iff]
  exact ⟨r, ⟨hr, hrole⟩, p, hfound, hpkey⟩

theorem Store.Provisioned.superAdmin (h : s.Provisioned tenantId)
    (hid : superAdminRoleId (s.roleIds tenantId staffRoleKeys) = some roleId) :
    s.Granted s.permissions.rows roleId allPermissions := by
  obtain ⟨role, hrole, hgranted⟩ := h.roles .superAdmin (by decide)
  rw [staffRoleKeys, Store.roleIds_cons hrole, superAdminRoleId_cons] at hid
  split at hid
  · cases hid
  · cases hid
    exact hgranted

theorem permissions_upsertRoles {permissions : List Permission} {n : ℕ} {roleKeys : List StaffRoleKey}
    {roleIds : List (StaffRoleKey × Id)}
    (h : (upsertRoles env tenantId permissions n roleKeys).eval s s = .ok (roleIds, c, t)) :
    t.permissions = s.permissions := by
  have hguarantees : (upsertRoles env tenantId permissions n roleKeys).Guarantees
      (fun s t => t.permissions = s.permissions) := by
    apply guarantees_upsertRoles <;> intros <;> rfl
  exact same_of_setup hguarantees h

/-- The loops of the wizard install the catalog, whatever of it was there. -/
theorem installRoles_ok (h : (installRoles env tenantId).eval s s = .ok (roleId, c, t)) :
    c = t ∧ t.Provisioned tenantId ∧ superAdminRoleId (t.roleIds tenantId staffRoleKeys) = some roleId := by
  obtain ⟨_, c₁, t₁, hcatalog, hrest⟩ := eval_bind_ok.mp h
  obtain ⟨rfl, hkeys⟩ := upsertPermissions_ok hcatalog
  have hbody : (upsertRoles env tenantId c₁.permissions.rows (2 + allPermissions.length) staffRoleKeys >>=
      fun roleIds => orThrow (superAdminRoleId roleIds) (.error "super_admin role missing after bootstrap")).eval
        c₁ c₁ = .ok (roleId, c, t) := hrest
  obtain ⟨roleIds, c₂, t₂, hroles, hid⟩ := eval_bind_ok.mp hbody
  -- The loop over the roles adds no permission, so the ids it looked up are still those of the catalog.
  have hsame : t₂.permissions = c₁.permissions := permissions_upsertRoles hroles
  obtain ⟨rfl, rfl, hall⟩ := upsertRoles_ok hroles
  cases hsuper : superAdminRoleId (c₂.roleIds tenantId staffRoleKeys) with
  | none =>
    rw [hsuper] at hid
    cases hid
  | some id =>
    rw [hsuper] at hid
    cases hid
    rw [← hsame] at hkeys hall
    exact ⟨rfl, ⟨hkeys, hall⟩, hsuper⟩

theorem installRoles_again (h : t.Provisioned tenantId)
    (hid : superAdminRoleId (t.roleIds tenantId staffRoleKeys) = some roleId) :
    (installRoles env tenantId).eval t t = .ok (roleId, t, t) := by
  refine eval_bind_ok.mpr ⟨(), t, t, upsertPermissions_again h.permissions, ?_⟩
  change (upsertRoles env tenantId t.permissions.rows (2 + allPermissions.length) staffRoleKeys >>= fun roleIds =>
      orThrow (superAdminRoleId roleIds) (.error "super_admin role missing after bootstrap")).eval t t = _
  refine eval_bind_ok.mpr ⟨_, t, t, upsertRoles_again h.roles, ?_⟩
  rw [hid]
  rfl

theorem insertSuperAdmin_ok {input : BootstrapInput} {email : String} {user : StaffUser}
    (h : (insertSuperAdmin env input tenantId email roleId).eval s s = .ok (user, c, t)) :
    user ∈ t.staffUsers ∧ user.tenantId = tenantId ∧ user.roleId = roleId ∧ user.isActive = true := by
  have hbody : (ensure (s.staffUsers.rows.countP (fun r => r.tenantId == tenantId) = 0) setupCompleted >>= fun _ =>
      prisma.staffUser.create _ >>= fun created =>
        recordAuditLog (setupAudit input tenantId email created.id) >>= fun _ => .ret created).eval s s =
      .ok (user, c, t) := h
  rw [eval_ensure_bind, Relation.eval_create_bind, eval_recordAuditLog_bind] at hbody
  obtain ⟨_, hfresh, _, _, hret⟩ := hbody
  cases hret
  exact ⟨(Table.mem_insert (t := s.staffUsers) (Relation.find_of_fresh hfresh)).mpr (Or.inr rfl), rfl, rfl, rfl⟩

theorem catalog_insertSuperAdmin {input : BootstrapInput} {email : String} {user : StaffUser}
    (h : (transaction (insertSuperAdmin env input tenantId email roleId)).eval s s = .ok (user, c, t)) :
    t.catalog = s.catalog := by
  have hguarantees : (transaction (insertSuperAdmin env input tenantId email roleId)).Guarantees
      (fun s t => t.catalog = s.catalog) := by
    apply Guarantees.transaction
    apply guarantees_insertSuperAdmin <;> intros <;> rfl
  exact same_of_setup hguarantees h

theorem eval_assertSetupNotComplete_bind {β : Type} {k : Unit → Db β} {c v : Store} {out : β × Store × Store} :
    (assertSetupNotComplete tenantId >>= k).eval c v = .ok out ↔
      v.staffUsers.rows.countP (fun r => r.tenantId == tenantId) = 0 ∧ (k ()).eval c v = .ok out := eval_ensure_bind

end Provisioned

/-- What setup leaves: the catalog of the default tenant, and an account of its
super admin. -/
structure Store.SetUp (t : Store) (slug : String) (result : BootstrapResult) : Prop where
  tenant : (t.tenants.rows.find? (fun r => r.slug == slug)).map Tenant.id = some result.tenantId
  provisioned : t.Provisioned result.tenantId
  account : ∃ user ∈ t.staffUsers, user.id = result.staffUserId ∧ user.tenantId = result.tenantId ∧
    user.isActive = true ∧ superAdminRoleId (t.roleIds result.tenantId staffRoleKeys) = some user.roleId

theorem bootstrapSuperAdmin_setUp {env : Env} {input : BootstrapInput} {s c t : Store} {result : BootstrapResult}
    (h : (bootstrapSuperAdmin env input).eval s s = .ok (result, c, t)) : t.SetUp env.defaultTenantSlug result := by
  rw [bootstrapSuperAdmin, eval_ensure_bind] at h
  obtain ⟨tenant, c₁, t₁, htenant, hchecks⟩ := eval_bind_ok.mp h.2
  obtain ⟨rfl, hslug⟩ := upsert_ok htenant
  obtain ⟨_, hinstall⟩ := eval_assertSetupNotComplete_bind.mp hchecks
  obtain ⟨roleId, c₂, t₂, hroles, hlast⟩ := eval_bind_ok.mp hinstall
  have hext : c₁.Extended t₂ := extended_of_setup (keptBySetup_extended.installRoles _) hroles
  obtain ⟨rfl, hprovisioned, hid⟩ := installRoles_ok hroles
  obtain ⟨user, c₃, t₃, htx, hret⟩ := eval_bind_ok.mp hlast
  have hsame := catalog_insertSuperAdmin htx
  obtain ⟨_, _, hinsert⟩ := eval_transaction_ok.mp htx
  obtain ⟨huser, htid, hrole, hactive⟩ := insertSuperAdmin_ok hinsert
  cases hret
  have hfirst : t.tenants.rows.find? (fun r => r.slug == env.defaultTenantSlug) = some tenant :=
    (hext.trans (extended_of_catalog _ _ hsame)).tenants.find?_eq_some hslug
  refine ⟨congrArg (Option.map Tenant.id) hfirst, hprovisioned.of_catalog hsame, user, huser, rfl, htid, hactive, ?_⟩
  have hids : t.roleIds tenant.id staffRoleKeys = c₂.roleIds tenant.id staffRoleKeys := by
    have hrows : t.roles = c₂.roles := congrArg (fun x => x.2.2.1) hsame
    simp only [Store.roleIds, Store.roleOf, hrows]
  rw [hrole, ← hid, hids]

/-- An attempt at setup, which a fault at one of its statements may end. -/
structure SetupAttempt where
  env : Env
  input : BootstrapInput
  fault : Failure
  statement : ℕ

def SetupAttempt.after (s : Store) (attempt : SetupAttempt) : Store :=
  ((bootstrapSuperAdmin attempt.env attempt.input).cut attempt.fault attempt.statement).after s

/-- Wherever earlier attempts failed, every permission they left has an id. -/
theorem permissionsNamed_attempts {s : Store} (h : s.PermissionsNamed) (attempts : List SetupAttempt) :
    (runFrom SetupAttempt.after s attempts).PermissionsNamed := by
  refine runFrom_inv (G := fun _ _ => True) (fun t attempt ht _ => ?_) h (alongRun_of_forall (fun _ _ => trivial) s attempts)
  have hguarantees : ((bootstrapSuperAdmin attempt.env attempt.input).cut attempt.fault attempt.statement).Guarantees
      NamesKept := (keptBySetup_permissionsNamed.bootstrapSuperAdmin attempt.input).cut attempt.statement
  exact after_of_guarantees (fun _ hs => hs) (fun _ _ _ hs hs' hr => hs' (hs hr)) hguarantees t ht

/-- A setup that goes through leaves every role with its default permissions at
least, whatever an earlier one left, takes no grant away, and makes an account
with every permission; its loops have nothing more to do. -/
theorem setup_provisions {env : Env} {input : BootstrapInput} {s t : Store} {result : BootstrapResult}
    (hnamed : s.PermissionsNamed) (h : (bootstrapSuperAdmin env input).run s = (t, .ok result)) :
    (t.tenants.rows.find? (fun r => r.slug == env.defaultTenantSlug)).map Tenant.id = some result.tenantId ∧
      (∀ roleKey ∈ staffRoleKeys, ∃ role, t.roleOf result.tenantId roleKey.name = some role ∧
        ∀ key ∈ defaultRolePermissions roleKey, key.name ∈ t.permissionsOf role.id) ∧
      (∀ r ∈ s.rolePermissions, r ∈ t.rolePermissions) ∧
      (∃ actor, (loadStaffActor result.staffUserId).run t = (t, .ok (some actor)) ∧
        ∀ key ∈ allPermissions, hasPermission actor.permissions key = true) ∧
      ∀ env' : Env, ∃ roleId, (installRoles env' result.tenantId).run t = (t, .ok roleId) := by
  obtain ⟨c, hev⟩ := run_ok_iff.mp h
  obtain ⟨htenant, hprovisioned, user, huser, hid, _, hactive, hsuper⟩ := bootstrapSuperAdmin_setUp hev
  have hnamed' : t.PermissionsNamed :=
    named_of_setup (keptBySetup_permissionsNamed.bootstrapSuperAdmin input) hev hnamed
  have hext : s.Extended t := extended_of_setup (keptBySetup_extended.bootstrapSuperAdmin input) hev
  refine ⟨htenant, fun roleKey hkey => ?_, hext.rolePermissions, ?_, fun env' => ⟨user.roleId, ?_⟩⟩
  · obtain ⟨role, hrole, hgranted⟩ := hprovisioned.roles roleKey hkey
    exact ⟨role, hrole, fun key hdefault => hprovisioned.mem_permissionsOf hnamed' hgranted hdefault⟩
  · refine ⟨user.actor (t.permissionsOf user.roleId), run_ok_iff.mpr ⟨t, ?_⟩, fun key hkey => ?_⟩
    · rw [run_loadStaffActor, ← hid, Table.find_of_mem huser, Option.filter_some, if_pos hactive]
      rfl
    · exact decide_eq_true
        (hprovisioned.mem_permissionsOf hnamed' (hprovisioned.superAdmin hsuper) hkey)
  · exact run_ok_iff.mpr ⟨t, installRoles_again hprovisioned hsuper⟩

namespace Sample

def setupForm : BootstrapInput := { name := "Admin", email := "admin@example.test", password := "correct horse" }

/-- A new installation. -/
def installed : Store := (bootstrapSuperAdmin (env "a") setupForm).after {}

/-- An installation that a fault cut off after seven grants of the first role. -/
def halfInstalled : Store := runFrom SetupAttempt.after {} [⟨env "a", setupForm, connectionLost, 60⟩]

/-- The account that setup created, as it acts. -/
def superAdmin : StaffActor :=
  { id := "id-a1", tenantId := "id-a0", label := "Admin <admin@example.test>"
    permissions := allPermissions.map PermissionKey.name }

end Sample

open Sample

set_option maxRecDepth 100000 in
theorem setup_returns :
    (bootstrapSuperAdmin (env "a") setupForm).returns {} (fun t r =>
      decide (r.tenantId = "id-a0" ∧ r.staffUserId = "id-a1" ∧ r.email = "admin@example.test" ∧
        t.staffUsers.rows.map StaffUser.id = ["id-a1"]) &&
        (loadStaffActor "id-a1").returns t (fun _ a => decide (a = some superAdmin))) = true := by
  decide +kernel

theorem run_setup :
    (bootstrapSuperAdmin (env "a") setupForm).run {} =
        (installed, .ok { tenantId := "id-a0", staffUserId := "id-a1", email := "admin@example.test" }) ∧
      installed.staffUsers.rows.map StaffUser.id = ["id-a1"] ∧
      (loadStaffActor "id-a1").returns installed (fun _ a => decide (a = some superAdmin)) = true := by
  obtain ⟨t, result, hrun, htest⟩ := returns_iff.mp setup_returns
  have ht : installed = t := by rw [installed, Program.after, hrun]
  obtain ⟨hresult, hload⟩ := Bool.and_eq_true_iff.mp htest
  obtain ⟨htenant, huser, hemail, hids⟩ := of_decide_eq_true hresult
  obtain ⟨tenantId, staffUserId, email⟩ := result
  simp only at htenant huser hemail
  subst htenant huser hemail
  exact ⟨ht ▸ hrun, ht ▸ hids, ht ▸ hload⟩

theorem permissionsNamed_empty : Store.PermissionsNamed {} := fun r hr => absurd hr (Table.not_mem_empty r)

set_option maxRecDepth 100000 in
theorem setup_resumes :
    halfInstalled.rolePermissions.rows.length = 7 ∧
      (bootstrapSuperAdmin (env "b") setupForm).returns halfInstalled (fun _ _ => true) = true := by
  decide +kernel

/-- Setup takes up what an attempt left that failed half way. -/
theorem setup_provisions_resumed :
    halfInstalled.rolePermissions.rows.length = 7 ∧
    ∃ t result, (bootstrapSuperAdmin (env "b") setupForm).run halfInstalled = (t, .ok result) ∧
      (t.tenants.rows.find? (fun r => r.slug == (env "b").defaultTenantSlug)).map Tenant.id = some result.tenantId ∧
      (∀ roleKey ∈ staffRoleKeys, ∃ role, t.roleOf result.tenantId roleKey.name = some role ∧
        ∀ key ∈ defaultRolePermissions roleKey, key.name ∈ t.permissionsOf role.id) ∧
      (∀ r ∈ halfInstalled.rolePermissions, r ∈ t.rolePermissions) ∧
      (∃ actor, (loadStaffActor result.staffUserId).run t = (t, .ok (some actor)) ∧
        ∀ key ∈ allPermissions, hasPermission actor.permissions key = true) ∧
      ∀ env' : Env, ∃ roleId, (installRoles env' result.tenantId).run t = (t, .ok roleId) := by
  obtain ⟨t, result, hrun, _⟩ := returns_iff.mp setup_resumes.2
  exact ⟨setup_resumes.1, t, result, hrun,
    setup_provisions (permissionsNamed_attempts permissionsNamed_empty _) hrun⟩

end HostPanel.Model
