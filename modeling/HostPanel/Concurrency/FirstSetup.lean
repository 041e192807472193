import HostPanel.Lib.Admission
import HostPanel.Model.Setup
import HostPanel.Model.Services

namespace HostPanel.Model

open HostPanel.Lib HostPanel.Lib.Program

/-- A submission of the setup form. -/
structure SetupCall where
  env : Env
  input : BootstrapInput

abbrev setupMachine {ι : Type} (s : Store) (calls : ι → SetupCall) : Config ι Store Lock Failure BootstrapResult :=
  Config.start s (fun i => bootstrapSuperAdmin (calls i).env (calls i).input)

/-- The tenant for which a lock takes up the e-mail of a staff user. -/
def Lock.staffTenant? : Lock → Option Id
  | .staffEmail tenantId _ => some tenantId
  | _ => none

/-- Every role has an id. -/
def Store.RolesNamed (s : Store) : Prop := ∀ r ∈ s.roles, r.id ≠ ""

/-- A call of the setup wizard: it may insert one staff user, at the end. -/
abbrev Installs {α : Type} (seat name : α → Id) (E : Failure → Prop) (p : Db α) : Prop :=
  p.Admits (fun s : Store => s.staffUsers) StaffUser.tenantId Lock.staffTenant? Lock.staffUser seat name
    Store.RolesNamed E none

/-- A part of the wizard that leaves the staff users alone. -/
abbrev Prepares {α : Type} (E : Failure → Prop) (p : Db α) (Q : α → Prop) : Prop :=
  p.Spares (fun s : Store => s.staffUsers) Lock.staffTenant? Store.RolesNamed E Q

section Upserts

variable {ρ ι : Type} [DecidableEq ι] {key : ρ → ι} {R : Relation key} {E : Failure → Prop}

/-- A table whose rows and locks are none of staff users. -/
structure Relation.Apart (R : Relation key) : Prop where
  lock : ∀ i, (R.lock i).staffTenant? = none
  entries : ∀ row, ∀ l ∈ R.entries row, l.staffTenant? = none
  insert : ∀ row s, (R.insert row s).staffUsers = s.staffUsers

/-- The row an upsert returns was there before, or is the new one. -/
theorem prepares_upsert {p : ρ → Bool} {row : ρ} {Q : ρ → Prop} (hR : R.Apart) (hp : p row = true)
    (hQ : ∀ v, v.RolesNamed → ∀ r ∈ R.get v, Q r) (hrow : Q row) :
    Prepares E (transaction (R.upsert p row)) Q := by
  intro v eff hv hs
  obtain ⟨r, hr, rfl⟩ | ⟨hfresh, rfl⟩ := Relation.effect_of_upsert hs
  · refine ⟨fun l hl => ?_, fun _ => rfl, ?_⟩
    · rw [List.mem_singleton.mp hl]
      exact hR.lock _
    · simp only [id_eq, hr]
      exact hQ v hv r (List.mem_of_find?_eq_some hr)
  · refine ⟨hR.entries row, hR.insert row, ?_⟩
    have hrows : (R.get (R.insert row v)).rows = (R.get v).rows ++ [row] := by
      rw [Relation.insert, R.get_set, Table.insert_rows (Relation.find_of_fresh hfresh)]
    have hfound : ((R.get (R.insert row v)).rows.find? p).isSome = true :=
      List.find?_isSome.mpr ⟨row, by simp [hrows], hp⟩
    obtain ⟨r, hr⟩ := Option.isSome_iff_exists.mp hfound
    have hmem := List.mem_of_find?_eq_some hr
    rw [hrows, List.mem_append, List.mem_singleton] at hmem
    simp only [hr]
    obtain hold | rfl := hmem
    · exact hQ v hv r hold
    · exact hrow

end Upserts

theorem apart_tenant : prisma.tenant.Apart :=
  ⟨fun _ => rfl, fun _ => by simp [prisma.tenant, Lock.staffTenant?], fun _ _ => rfl⟩

theorem apart_permission : prisma.permission.Apart :=
  ⟨fun _ => rfl, fun _ => by simp [prisma.permission, Lock.staffTenant?], fun _ _ => rfl⟩

theorem apart_rolePermission : prisma.rolePermission.Apart :=
  ⟨fun _ => rfl, fun _ => by simp [prisma.rolePermission, Lock.staffTenant?], fun _ _ => rfl⟩

theorem apart_role : prisma.role.Apart :=
  ⟨fun _ => rfl, fun _ => by simp [prisma.role, Lock.staffTenant?], fun _ _ => rfl⟩

section Wizard

variable {env : Env} {E : Failure → Prop}

theorem prepares_upsertPermissions (n : ℕ) (keys : List PermissionKey) :
    Prepares E (upsertPermissions env n keys) (fun _ => True) := by
  induction keys generalizing n with
  | nil => trivial
  | cons key keys ih =>
    refine Spares.bind (Q := fun _ => True) ?_ (fun _ _ => ih (n + 1))
    apply prepares_upsert apart_permission
    · exact beq_self_eq_true key.name
    · exact fun _ _ _ _ => trivial
    · trivial

theorem prepares_upsertRolePermissions (permissions : List Permission) (roleId : Id) (keys : List PermissionKey) :
    Prepares E (upsertRolePermissions permissions roleId keys) (fun _ => True) := by
  induction keys with
  | nil => trivial
  | cons key keys ih =>
    unfold upsertRolePermissions
    cases permissionIdOf permissions key with
    | none => exact ih
    | some permissionId =>
      refine Spares.bind (Q := fun _ => True) ?_ (fun _ _ => ih)
      apply prepares_upsert apart_rolePermission
      · simp
      · exact fun _ _ _ _ => trivial
      · trivial

/-- Each role gets an entry, with an id. -/
theorem prepares_upsertRoles (tenantId : Id) (permissions : List Permission) (n : ℕ)
    (roleKeys : List StaffRoleKey) :
    Prepares E (upsertRoles env tenantId permissions n roleKeys)
      (fun roleIds => roleIds.map Prod.fst = roleKeys ∧ ∀ r ∈ roleIds, r.2 ≠ "") := by
  induction roleKeys generalizing n with
  | nil => exact ⟨rfl, fun r hr => absurd hr List.not_mem_nil⟩
  | cons roleKey roleKeys ih =>
    refine Spares.bind (Q := fun role => role.id ≠ "") ?_ (fun role hrole => ?_)
    · apply prepares_upsert apart_role
      · simp
      · exact fun v hv r hr => hv r hr
      · exact env.cuid_ne_empty n
    · refine Spares.bind (prepares_upsertRolePermissions permissions role.id _) (fun _ _ => ?_)
      refine Spares.bind (ih (n + 1)) (fun rest hrest => ⟨?_, fun r hr => ?_⟩)
      · simp [hrest.1]
      · obtain rfl | hr := List.mem_cons.mp hr
        · exact hrole
        · exact hrest.2 r hr

theorem superAdminRoleId_isSome {roleIds : List (StaffRoleKey × Id)} (hkeys : roleIds.map Prod.fst = staffRoleKeys)
    (hids : ∀ r ∈ roleIds, r.2 ≠ "") : ∃ id, superAdminRoleId roleIds = some id := by
  have hmem : StaffRoleKey.superAdmin ∈ roleIds.map Prod.fst := by
    rw [hkeys]
    exact List.mem_cons_self
  obtain ⟨r, hr, hkey⟩ := List.mem_map.mp hmem
  have hsome : (roleIds.find? (fun r => r.1 == .superAdmin)).isSome = true :=
    List.find?_isSome.mpr ⟨r, hr, beq_iff_eq.mpr hkey⟩
  obtain ⟨q, hq⟩ := Option.isSome_iff_exists.mp hsome
  have hid := hids q (List.mem_of_find?_eq_some hq)
  refine ⟨q.2, ?_⟩
  simp [superAdminRoleId, hq, hid]

theorem prepares_installRoles (tenantId : Id) :
    Prepares E (installRoles env tenantId) (fun _ => True) := by
  refine Spares.bind (prepares_upsertPermissions _ _) (fun _ _ => Spares.bind (Q := fun _ => True) ?_ (fun _ _ => ?_))
  · exact fun _ _ => trivial
  · refine Spares.bind (prepares_upsertRoles tenantId _ _ _) (fun roleIds hroles => ?_)
    obtain ⟨id, hid⟩ := superAdminRoleId_isSome hroles.1 hroles.2
    rw [hid]
    trivial

theorem prepares_ensure {p : Prop} [Decidable p] {e : Failure} (h : ¬ p → E e) :
    Prepares E (ensure p e) (fun _ => True) := by
  by_cases hp : p
  · rw [ensure, if_pos hp]
    trivial
  · rw [ensure, if_neg hp]
    exact h hp

theorem installs_insertSuperAdmin (hE : E setupCompleted) (input : BootstrapInput) (tenantId : Id) (email : String)
    (roleId : Id) :
    Installs BootstrapResult.tenantId BootstrapResult.staffUserId E
      (transaction (insertSuperAdmin env input tenantId email roleId) >>= fun staffUser =>
        .ret { tenantId := tenantId, staffUserId := staffUser.id, email := email }) := by
  rw [transaction, bind_assoc, insertSuperAdmin, bind_assoc]
  refine Spares.admits (Q := fun _ => True) (fun _ _ => trivial) (fun alreadySetUp _ => ?_)
  rw [bind_assoc]
  refine Spares.admits (prepares_ensure (fun _ => hE)) (fun _ _ => ?_)
  intro v eff _ hs
  obtain ⟨hfresh, rfl⟩ := Relation.effect_of_create hs
  refine Or.inr ⟨rfl, _, ⟨.staffEmail tenantId email, ?_, rfl⟩, List.mem_cons_self, ?_, Relation.find_of_fresh hfresh,
    fun _ => rfl, ?_⟩
  · exact List.mem_cons_of_mem _ List.mem_cons_self
  · intro l hl x hx
    simp only [prisma.staffUser, List.mem_cons, List.not_mem_nil, or_false] at hl
    obtain rfl | rfl := hl
    · cases hx
    · exact (Option.some.inj hx).symm
  · rintro w eff' _ hs'
    obtain rfl := effect_of_appendLog hs'
    exact Or.inl ⟨fun l hl => absurd hl List.not_mem_nil, fun _ => rfl, _, rfl, rfl, rfl⟩

/-- A call inserts one staff user, or throws; once its password is long enough
it throws nothing but that setup is over. -/
theorem installs_bootstrapSuperAdmin (input : BootstrapInput)
    (hE : ∀ e, (10 ≤ jsLength input.password → e = setupCompleted) → E e) :
    Installs BootstrapResult.tenantId BootstrapResult.staffUserId E (bootstrapSuperAdmin env input) := by
  have hcompleted : E setupCompleted := hE _ (fun _ => rfl)
  refine Spares.admits (prepares_ensure (fun hweak => hE _ (fun hlong => absurd hlong hweak))) (fun _ _ => ?_)
  refine Spares.admits (Q := fun _ => True) ?_ (fun tenant _ => ?_)
  · apply prepares_upsert apart_tenant
    · exact beq_self_eq_true _
    · exact fun _ _ _ _ => trivial
    · trivial
  refine Spares.admits (Spares.bind (Q := fun _ => True) (fun _ _ => trivial)
    (fun _ _ => prepares_ensure (fun _ => hcompleted))) (fun _ _ => ?_)
  refine Spares.admits (prepares_installRoles tenant.id) (fun roleId _ => ?_)
  exact installs_insertSuperAdmin hcompleted input tenant.id _ roleId

end Wizard

section Roles

variable {env : Env}

/-- The relation under which every role keeps an id. -/
abbrev KeepsNames (s t : Store) : Prop := s.RolesNamed → t.RolesNamed

theorem rolesNamed_insert {role : Role} (hid : role.id ≠ "") {s : Store} (h : s.RolesNamed) :
    (prisma.role.insert role s).RolesNamed := by
  intro r hr
  obtain hold | rfl := Table.of_mem_insert (t := s.roles) hr
  · exact h r hold
  · exact hid

theorem keptBySetup_names : KeptBySetup KeepsNames where
  refl _ h := h
  tenant _ _ h := h
  permission _ _ _ h := h
  role _ hid _ h := rolesNamed_insert hid h
  rolePermission _ _ h := h
  staffUser _ _ h := h
  auditLog _ _ h := h

end Roles

/-- Each insert of a staff user finds no other of its tenant, committed or in
another open transaction. -/
def InsertsFirst {ι : Type} : Config ι Store Lock Failure BootstrapResult → ι → Move Failure → Prop :=
  Config.EntersAlone (fun s => s.staffUsers) StaffUser.tenantId Lock.staffTenant?

instance {ι : Type} [Fintype ι] [DecidableEq ι] (c : Config ι Store Lock Failure BootstrapResult) (i : ι)
    (m : Move Failure) : Decidable (InsertsFirst c i m) :=
  inferInstanceAs (Decidable (Config.EntersAlone _ _ _ c i m))

/-- The error setup may end in for a password of the right length. -/
def SetupCall.Refusal (call : SetupCall) (e : Failure) : Prop :=
  10 ≤ jsLength call.input.password → e = setupCompleted

instance (call : SetupCall) : DecidablePred call.Refusal := fun _ => inferInstanceAs (Decidable (_ → _))

section Runs

variable {ι : Type} [Fintype ι] [DecidableEq ι] {s : Store} {calls : ι → SetupCall}

theorem admission_setup (hroles : s.RolesNamed) {E : ι → Failure → Prop}
    (hE : ∀ i e, (calls i).Refusal e → E i e) {schedule : List (ι × Move Failure)}
    (hfirst : Config.Along InsertsFirst (setupMachine s calls) schedule)
    (hrefused : Config.Along (fun c i m => Config.Refused (E i) c i m) (setupMachine s calls) schedule) :
    Config.Admission (fun s : Store => s.staffUsers) StaffUser.tenantId Lock.staffTenant? Lock.staffUser
      BootstrapResult.tenantId BootstrapResult.staffUserId Store.RolesNamed E s
      ((setupMachine s calls).run schedule) := by
  refine Config.admission_run KeepsNames (fun _ h => h) (fun _ _ _ h h' hs => h' (h hs)) ?_ (fun v hv => hv hroles) ?_
    hfirst hrefused
  · exact fun i => keptBySetup_names.bootstrapSuperAdmin _
  · exact fun i => installs_bootstrapSuperAdmin _ (hE i)

/-- In every interleaving in which each insert of a staff user is the first of
its tenant, a tenant without staff gets at most one staff user, of the one call
that returns; the other calls change no staff user and, where the database
refuses none of their statements, end in `setup.already_completed`. -/
theorem setup_at_most_once (hroles : s.RolesNamed)
    (schedule : List (ι × Move Failure)) (hfirst : Config.Along InsertsFirst (setupMachine s calls) schedule) :
    (∀ i j a b, (((setupMachine s calls).run schedule).tasks i).code = .ret a →
        (((setupMachine s calls).run schedule).tasks j).code = .ret b → a.tenantId = b.tenantId → i = j) ∧
      (∀ tenantId, (∀ r ∈ s.staffUsers, r.tenantId ≠ tenantId) →
        ∀ r ∈ ((setupMachine s calls).run schedule).db.staffUsers,
          ∀ r' ∈ ((setupMachine s calls).run schedule).db.staffUsers, r.tenantId = tenantId → r'.tenantId = tenantId → r = r') ∧
      (∀ r ∈ s.staffUsers, r ∈ ((setupMachine s calls).run schedule).db.staffUsers) ∧
      (∀ r ∈ ((setupMachine s calls).run schedule).db.staffUsers, r ∈ s.staffUsers ∨
        ∃ i a, (((setupMachine s calls).run schedule).tasks i).code = .ret a ∧ a.tenantId = r.tenantId ∧
          a.staffUserId = r.id) ∧
      (Config.Along (fun c i m => Config.Refused (calls i).Refusal c i m) (setupMachine s calls) schedule →
        ∀ i e, (((setupMachine s calls).run schedule).tasks i).code = .raise e →
          10 ≤ jsLength (calls i).input.password → e = setupCompleted) := by
  have h := admission_setup hroles (E := fun _ _ => True) (fun _ _ _ => trivial) hfirst
    (alongRun_of_forall (fun c (m : ι × Move Failure) => Config.refused_true c m.fst m.snd) _ schedule)
  refine ⟨fun i j a b ha hb hab => ?_, fun tenantId hnone r hr r' hr' => ?_, h.kept, h.origin,
    fun hrefused i e he => ?_⟩
  · exact h.once i j b.tenantId (Or.inr ⟨a, ha, hab⟩) (Or.inr ⟨b, hb, rfl⟩)
  · exact h.unique hnone hr hr'
  · exact ((admission_setup hroles (fun _ _ h => h) hfirst hrefused).entries i).raised he

end Runs

namespace Sample

/-- Two submissions of the setup form, with different e-mails. -/
def twoForms (second : Bool) : SetupCall where
  env := env (if second then "b" else "a")
  input :=
    { name := "Admin"
      email := if second then "b@example.test" else "a@example.test"
      password := "correct horse" }

def formMoves (second : Bool) (n : ℕ) : List (Bool × Move Failure) := List.replicate n (second, .advance)

/-- Both calls count before either inserts. -/
def formsAtOnce : List (Bool × Move Failure) :=
  formMoves false 216 ++ formMoves true 216 ++ formMoves false 1 ++ formMoves true 1 ++ formMoves false 3 ++
    formMoves true 3

def formsInTurn : List (Bool × Move Failure) := formMoves false 220 ++ formMoves true 4

end Sample

open Sample in
set_option maxRecDepth 100000 in
theorem setup_twice :
    ((setupMachine {} twoForms).run formsAtOnce).db.staffUsers.rows.map (fun r => (r.tenantId, r.email)) =
        [("id-a0", "a@example.test"), ("id-a0", "b@example.test")] ∧
      Config.Along (fun c i m => Config.Refused (twoForms i).Refusal c i m) (setupMachine {} twoForms) formsAtOnce :=
  by decide +kernel

open Sample in
set_option maxRecDepth 100000 in
theorem setup_at_most_once_inTurn :
    ((setupMachine {} twoForms).run formsInTurn).db.staffUsers.rows.map StaffUser.email = ["a@example.test"] ∧
      (∀ r ∈ ((setupMachine {} twoForms).run formsInTurn).db.staffUsers,
        ∀ r' ∈ ((setupMachine {} twoForms).run formsInTurn).db.staffUsers,
          r.tenantId = "id-a0" → r'.tenantId = "id-a0" → r = r') ∧
      ∀ i e, (((setupMachine {} twoForms).run formsInTurn).tasks i).code = .raise e → e = setupCompleted := by
  have hroles : Store.RolesNamed {} := fun r hr => absurd hr (Table.not_mem_empty r)
  have hrun : Config.Along InsertsFirst (setupMachine {} twoForms) formsInTurn ∧
      Config.Along (fun c i m => Config.Refused (twoForms i).Refusal c i m) (setupMachine {} twoForms) formsInTurn ∧
      ((setupMachine {} twoForms).run formsInTurn).db.staffUsers.rows.map StaffUser.email = ["a@example.test"] := by
    decide +kernel
  obtain ⟨_, hone, _, _, hraise⟩ := setup_at_most_once hroles formsInTurn hrun.1
  refine ⟨hrun.2.2, hone "id-a0" (fun r hr => absurd hr (Table.not_mem_empty r)), fun i e he => ?_⟩
  exact hraise hrun.2.1 i e he (by cases i <;> decide)

end HostPanel.Model
