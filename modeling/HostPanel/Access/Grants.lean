import Mathlib.Data.Finset.Basic
import Mathlib.Data.Set.Finite.Basic
import HostPanel.Access.Invites
import HostPanel.Model.Setup

namespace HostPanel.Model

open HostPanel.Lib HostPanel.Lib.Program

/-- Invitations, each made by the account the one before created: the tables and
the actor after the last, if all of them go through. -/
def inviteChain : Store → StaffActor → List (Env × CreateStaffUserInput) → Option (Store × StaffActor)
  | s, actor, [] => some (s, actor)
  | s, actor, (env, input) :: calls =>
    match (createStaffUser env actor input).run s with
    | (_, .error _) => none
    | (s', .ok user) =>
      match (loadStaffActor user.id).run s' with
      | (_, .ok (some next)) => inviteChain s' next calls
      | _ => none

/-- The tables that say what an account may do. -/
def Store.grants (s : Store) : Table Role.id × Table Permission.id × Table RolePermission.ref × Table Tenant.id :=
  (s.roles, s.permissions, s.rolePermissions, s.tenants)

theorem roleOf_of_grants {s t : Store} (h : t.grants = s.grants) (tenantId : Id) (roleKey : String) :
    t.roleOf tenantId roleKey = s.roleOf tenantId roleKey := by
  simp only [Store.grants, Prod.mk.injEq] at h
  rw [Store.roleOf, Store.roleOf, h.1]

theorem permissionsOf_of_grants {s t : Store} (h : t.grants = s.grants) (roleId : Id) :
    t.permissionsOf roleId = s.permissionsOf roleId := by
  simp only [Store.grants, Prod.mk.injEq] at h
  rw [Store.permissionsOf, Store.permissionsOf, h.2.1, h.2.2.1]

section Step

variable {env : Env} {actor : StaffActor} {input : CreateStaffUserInput} {s s' : Store} {user : CreatedStaffUser}

/-- The account an invitation creates: an active one of the actor's tenant, in
the role asked for. -/
structure Created (s : Store) (actor : StaffActor) (roleKey : String) (s' : Store) (role : Role)
    (row : StaffUser) : Prop where
  tenant : (s.tenants.find actor.tenantId).isSome = true
  role_found : s.roleOf actor.tenantId roleKey = some role
  stored : s'.staffUsers.find row.id = some row
  tenantId : row.tenantId = actor.tenantId
  roleId : row.roleId = role.id
  active : row.isActive = true
  grants : s'.grants = s.grants

theorem createStaffUser_creates (h : (createStaffUser env actor input).run s = (s', .ok user)) :
    ∃ role row, row.id = user.id ∧ Created s actor input.roleKey s' role row := by
  obtain ⟨c, hev⟩ := run_ok_iff.mp h
  obtain ⟨role, hadmitted, _, rfl, _, rfl⟩ := createStaffUser_ok_iff.mp hev
  refine ⟨role, newStaffUser env actor input role, rfl, hadmitted.tenant, hadmitted.role_found, ?_, rfl, rfl, rfl, rfl⟩
  exact Table.find_insert_self (t := s.staffUsers) (r := newStaffUser env actor input role) hadmitted.fresh

theorem Created.loads {roleKey : String} {role : Role} {row : StaffUser}
    (h : Created s actor roleKey s' role row) :
    (loadStaffActor row.id).run s' = (s', .ok (some (row.actor (s.permissionsOf role.id)))) := by
  have hload := run_loadStaffActor s' row.id
  rw [h.stored, Option.filter_some, if_pos h.active, Option.map_some, h.roleId, permissionsOf_of_grants h.grants] at hload
  unfold run
  rw [hload]

end Step

/-- What a role key of a tenant stands for grants no more than an actor holds. -/
def Store.GrantsWithin (s : Store) (actor : StaffActor) : Prop :=
  ∀ roleKey role, s.roleOf actor.tenantId roleKey = some role → s.permissionsOf role.id ⊆ actor.permissions

/-- Every account of a chain acts for the tenant of the first actor, with what
one of its roles grants. -/
theorem inviteChain_actor {s s' : Store} {actor last : StaffActor} {calls : List (Env × CreateStaffUserInput)}
    (h : inviteChain s actor calls = some (s', last)) :
    last = actor ∨ (s.tenants.find actor.tenantId).isSome = true ∧
      ∃ roleKey role, s.roleOf actor.tenantId roleKey = some role ∧ last.permissions = s.permissionsOf role.id := by
  induction calls generalizing s actor with
  | nil =>
    cases h
    exact Or.inl rfl
  | cons call calls ih =>
    obtain ⟨env, input⟩ := call
    rw [inviteChain] at h
    cases hrun : (createStaffUser env actor input).run s with
    | mk t result =>
      rw [hrun] at h
      cases result with
      | error e => cases h
      | ok user =>
        obtain ⟨role, row, hid, hcreated⟩ := createStaffUser_creates hrun
        simp only [← hid, hcreated.loads] at h
        have htenant : (row.actor (s.permissionsOf role.id)).tenantId = actor.tenantId := hcreated.tenantId
        refine Or.inr ⟨hcreated.tenant, ?_⟩
        obtain hlast | ⟨_, roleKey, role', hrole, hlast⟩ := ih h
        · exact ⟨input.roleKey, role, hcreated.role_found, congrArg StaffActor.permissions hlast⟩
        · rw [htenant, roleOf_of_grants hcreated.grants] at hrole
          rw [permissionsOf_of_grants hcreated.grants] at hlast
          exact ⟨roleKey, role', hrole, hlast⟩

section Quiet

/-- A string of letters. -/
def letters (n : ℕ) : String := String.ofList (List.replicate (n + 1) 'a')

theorem letters_injective : Function.Injective letters := by
  intro n m h
  simpa using congrArg List.length (String.ofList_injective h)

theorem normalizeEmail_letters (n : ℕ) : normalizeEmail (letters n) = letters n := by
  have hascii : ∀ c ∈ (letters n).toList, c.toNat < 128 := by
    intro c hc
    rw [letters, String.toList_ofList] at hc
    rw [List.eq_of_mem_replicate hc]
    decide
  have hlower : Char.toLower 'a' = 'a' := by decide
  have hspace : isWhiteSpace 'a' = false := by decide
  have hdrop : (List.replicate (n + 1) 'a').dropWhile isWhiteSpace = List.replicate (n + 1) 'a' := by
    rw [List.replicate_succ, List.dropWhile_cons_of_neg (by simp [hspace])]
  rw [normalizeEmail, toLowerCase_ascii hascii]
  simp only [letters, trim, String.toList_ofList, List.map_replicate, hlower, hdrop, List.reverse_replicate]

theorem exists_letters (taken : List String) : ∃ n, letters n ∉ taken := by
  obtain ⟨n, hn⟩ := (Set.Finite.preimage letters_injective.injOn taken.finite_toSet).exists_notMem
  exact ⟨n, hn⟩

/-- Surroundings that draw one string for ids and tokens. -/
def quietEnv (n : ℕ) : Env where
  now := 0
  cuid _ := letters n
  cuid_ne_empty _ h := by
    have hl := congrArg String.length h
    simp [letters] at hl
  randomUUID := letters n
  generateToken := letters n
  hashToken := id
  hashPassword := id
  verifyPassword storedHash plainPassword := storedHash == plainPassword
  placeholderToken := letters n
  verifyTotpToken _ _ := false
  recoveryCode _ := letters n
  cipher := ⟨fun _ => [], fun _ => "", fun _ _ _ => ([], []), fun _ _ _ _ => none⟩
  encryptionKey := ""
  randomBytes := []
  defaultTenantSlug := "default"
  appName := "HostPanel"
  queueAvailable := true
  tieBreak _ := 0

/-- The strings that the accounts and the links of a store take. -/
def Store.taken (s : Store) : List String :=
  s.staffUsers.rows.map StaffUser.id ++ s.staffUsers.rows.map StaffUser.email ++
    s.passwordResetTokens.rows.map PasswordResetToken.id ++ s.passwordResetTokens.rows.map PasswordResetToken.tokenHash

/-- An actor that may manage staff can invite into any role of its tenant. -/
theorem exists_createStaffUser {s : Store} {actor : StaffActor} {roleKey : String} {role : Role}
    (hperm : hasPermission actor.permissions .staffManage = true) (htenant : (s.tenants.find actor.tenantId).isSome = true)
    (hrole : s.roleOf actor.tenantId roleKey = some role) :
    ∃ env input s' user, input.roleKey = roleKey ∧ (createStaffUser env actor input).run s = (s', .ok user) := by
  obtain ⟨n, hn⟩ := exists_letters s.taken
  simp only [Store.taken, List.mem_append, List.mem_map, not_or, not_exists, not_and] at hn
  obtain ⟨⟨⟨hid, hemail⟩, htoken⟩, hhash⟩ := hn
  let input : CreateStaffUserInput := ⟨letters n, "", roleKey, none⟩
  have hadmitted : StaffAdmitted (quietEnv n) actor input s role := by
    refine ⟨hperm, hrole, List.find?_eq_none.mpr (fun q hq hmatch => ?_), Table.find_eq_none_iff.mpr hid, htenant⟩
    simp only [StaffUser.hasEmail, input, normalizeEmail_letters, Bool.and_eq_true, beq_iff_eq] at hmatch
    exact hemail q hq hmatch.2
  have hsent : LinkSent (quietEnv n) (staffInviteToken (quietEnv n) actor)
      (s.admitStaff (quietEnv n) actor input role) := by
    refine ⟨⟨by simp [prisma.passwordResetToken], fun q hq l hl hl' => ?_⟩, htenant, rfl⟩
    simp only [prisma.passwordResetToken, List.mem_cons, List.not_mem_nil, or_false] at hl hl'
    obtain rfl | rfl := hl
    · obtain hl' | hl' := hl'
      · exact htoken q hq (Lock.passwordResetToken.inj hl').symm
      · cases hl'
    · obtain hl' | hl' := hl'
      · cases hl'
      · exact hhash q hq (Lock.resetTokenHash.inj hl').symm
  exact ⟨quietEnv n, input, _, _, rfl, run_ok_iff.mpr ⟨_, createStaffUser_ok_iff.mpr ⟨role, hadmitted, hsent, rfl, rfl, rfl⟩⟩⟩

end Quiet

/-- Nobody is granted more than the actor who starts a chain of invitations
holds exactly when no role of its tenant grants more. -/
theorem grants_held_iff (s : Store) (actor : StaffActor)
    (hperm : hasPermission actor.permissions .staffManage = true) :
    ((∀ env input s' user, (createStaffUser env actor input).run s = (s', .ok user) →
        ∀ row, s'.staffUsers.find user.id = some row → s'.permissionsOf row.roleId ⊆ actor.permissions) ∧
      ∀ calls s' last, inviteChain s actor calls = some (s', last) → last.permissions ⊆ actor.permissions) ↔
      ((s.tenants.find actor.tenantId).isSome = true → s.GrantsWithin actor) := by
  constructor
  · rintro ⟨hcreate, _⟩ htenant roleKey role hrole
    obtain ⟨env, input, s', user, rfl, hrun⟩ := exists_createStaffUser hperm htenant hrole
    obtain ⟨role', row, hid, hcreated⟩ := createStaffUser_creates hrun
    have hsame : role' = role := Option.some.inj (hcreated.role_found.symm.trans hrole)
    have hheld := hcreate env input s' user hrun row (hid ▸ hcreated.stored)
    rw [permissionsOf_of_grants hcreated.grants, hcreated.roleId, hsame] at hheld
    exact hheld
  · intro hwithin
    constructor
    · intro env input s' user hrun row hrow
      obtain ⟨role, row', hid, hcreated⟩ := createStaffUser_creates hrun
      rw [← hid, hcreated.stored] at hrow
      cases hrow
      rw [permissionsOf_of_grants hcreated.grants, hcreated.roleId]
      exact hwithin hcreated.tenant _ _ hcreated.role_found
    · intro calls s' last hchain
      obtain rfl | ⟨htenant, roleKey, role, hrole, hlast⟩ := inviteChain_actor hchain
      · exact List.Subset.refl _
      · rw [hlast]
        exact hwithin htenant roleKey role hrole

namespace Sample

/-- A tenant whose roles carry the default permissions, with one admin. -/
def headOffice : Store :=
  { tenants := (∅ : Table Tenant.id).insert { id := "tenant", slug := "default", name := "HostPanel" }
    roles := staffRoleKeys.foldl (fun t roleKey =>
      t.insert { id := roleKey.name, tenantId := "tenant", key := roleKey.name, name := staffRoleLabels roleKey }) ∅
    permissions := allPermissions.foldl (fun t key =>
      t.insert { id := key.name, key := key.name, category := key.category }) ∅
    rolePermissions := staffRoleKeys.foldl (fun t roleKey =>
      (defaultRolePermissions roleKey).foldl (fun t key =>
        t.insert { roleId := roleKey.name, permissionId := key.name }) t) ∅
    staffUsers := (∅ : Table StaffUser.id).insert { operator with roleId := "admin" } }

def administrator : StaffActor :=
  { id := "staff", tenantId := "tenant", label := "Staff <staff@example.test>"
    permissions := (defaultRolePermissions .admin).map PermissionKey.name }

/-- A super admin of the same tenant. -/
def founder : StaffActor := { administrator with permissions := allPermissions.map PermissionKey.name }

def promotion : CreateStaffUserInput :=
  { email := "friend@example.test", name := "Friend", roleKey := StaffRoleKey.superAdmin.name }

end Sample

open Sample

theorem permissionsOf_headOffice (roleId : Id) :
    headOffice.permissionsOf roleId ⊆ allPermissions.map PermissionKey.name := by
  have hcatalog : headOffice.permissions.rows.map Permission.key = allPermissions.map PermissionKey.name := by
    decide +kernel
  intro key hkey
  simp only [Store.permissionsOf, List.mem_filterMap, Option.map_eq_some_iff] at hkey
  obtain ⟨_, _, p, hp, rfl⟩ := hkey
  rw [← hcatalog]
  exact List.mem_map_of_mem (Table.mem_of_find hp)

/-- A super admin holds all there is to grant. -/
theorem grants_held_superAdmin :
    hasPermission founder.permissions .staffManage = true ∧
      ∀ calls s' last, inviteChain headOffice founder calls = some (s', last) →
        last.permissions ⊆ founder.permissions :=
  ⟨by decide, ((grants_held_iff headOffice founder (by decide)).mpr
    (fun _ _ role _ => permissionsOf_headOffice role.id)).2⟩

/-- An admin invites a super admin, who holds what the admin does not. -/
theorem admin_grants_rolesManage :
    (loadStaffActor "staff").returns headOffice (fun _ a => decide (a = some administrator)) = true ∧
      hasPermission administrator.permissions .staffManage = true ∧
      PermissionKey.rolesManage.name ∉ administrator.permissions ∧
      (inviteChain headOffice administrator [(env "a", promotion)]).any
        (fun r => decide (PermissionKey.rolesManage.name ∈ r.2.permissions)) = true := by
  decide +kernel

end HostPanel.Model
