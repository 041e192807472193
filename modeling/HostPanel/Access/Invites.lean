import HostPanel.Access.Sessions

namespace HostPanel.Model

open HostPanel.Lib HostPanel.Lib.Program

/-- The role of a tenant under a key. -/
def Store.roleOf (s : Store) (tenantId : Id) (roleKey : String) : Option Role :=
  s.roles.rows.find? (fun r => r.tenantId == tenantId && r.key == roleKey)

theorem Store.roleOf_mem {s : Store} {tenantId : Id} {roleKey : String} {role : Role}
    (h : s.roleOf tenantId roleKey = some role) : role ∈ s.roles := List.mem_of_find?_eq_some h

theorem eval_queueEmail_bind {β : Type} {env : Env} {row : EmailLog} {k : Unit → Db β} {c v : Store}
    {out : β × Store × Store} :
    (queueEmail env row >>= k).eval c v = .ok out ↔
      v.hasTenant row.tenantId = true ∧ env.queueAvailable = true ∧
        (k ()).eval { v with emailLogs := v.emailLogs ++ [row] } { v with emailLogs := v.emailLogs ++ [row] } =
          .ok out := by
  simp only [queueEmail, transaction, bind_assoc, eval_appendLog_bind, commit_bind, ret_bind, eval_commit,
    eval_ensure_bind]

/-- The checks and the writes of `createStaffUser` up to its first commit. -/
def admitStaffUser (env : Env) (actor : StaffActor) (input : CreateStaffUserInput) : Db StaffUser := do
  requirePermission actor.permissions .staffManage
  let found ← prisma.role.findFirst (fun r => r.tenantId == actor.tenantId && r.key == input.roleKey)
  let role ← orThrow found (validationError "staff.invalid_role" "Unknown role.")
  let existing ← prisma.staffUser.findFirst (StaffUser.hasEmail actor.tenantId (normalizeEmail input.email))
  ensure (existing.isNone = true)
    (businessRuleError "staff.email_taken" "A staff account with this email already exists.")
  insertStaffUser env actor input (normalizeEmail input.email) role

/-- What `createStaffUser` does once the account is committed. -/
def inviteStaffUser (env : Env) (actor : StaffActor) (input : CreateStaffUserInput) (user : StaffUser) :
    Db CreatedStaffUser := do
  sendPasswordLink env (passwordToken env (env.cuid 1) actor.tenantId .staff user.id passwordSetTokenTtlMs)
    { tenantId := actor.tenantId
      toEmail := normalizeEmail input.email
      templateKey := "staff_invite"
      subject := "You've been added to " ++ env.appName
      relatedEntityType := some "STAFF_USER"
      relatedEntityId := some user.id }
  return { id := user.id, email := normalizeEmail input.email, name := input.name }

theorem createStaffUser_eq (env : Env) (actor : StaffActor) (input : CreateStaffUserInput) :
    createStaffUser env actor input =
      transaction (admitStaffUser env actor input) >>= inviteStaffUser env actor input := by
  simp only [createStaffUser, admitStaffUser, transaction, bind_assoc]
  rfl

def newStaffUser (env : Env) (actor : StaffActor) (input : CreateStaffUserInput) (role : Role) : StaffUser :=
  { id := env.cuid 0
    tenantId := actor.tenantId
    email := normalizeEmail input.email
    name := input.name
    roleId := role.id
    passwordHash := env.hashPassword env.placeholderToken
    mustChangePassword := true
    updatedAt := env.now }

/-- What `createStaffUser` checks before it stores the account. -/
structure StaffAdmitted (env : Env) (actor : StaffActor) (input : CreateStaffUserInput) (s : Store) (role : Role) :
    Prop where
  permitted : hasPermission actor.permissions .staffManage = true
  role_found : s.roleOf actor.tenantId input.roleKey = some role
  unused : s.staffUsers.rows.find? (StaffUser.hasEmail actor.tenantId (normalizeEmail input.email)) = none
  fresh : s.staffUsers.find (env.cuid 0) = none
  tenant : (s.tenants.find actor.tenantId).isSome = true

/-- The tables once the account is stored. -/
def Store.admitStaff (s : Store) (env : Env) (actor : StaffActor) (input : CreateStaffUserInput) (role : Role) :
    Store :=
  (prisma.staffUser.insert (newStaffUser env actor input role) s).withAuditLog
    (staffUserCreatedAudit actor input (normalizeEmail input.email) (env.cuid 0))

theorem fresh_newStaffUser_iff {env : Env} {actor : StaffActor} {input : CreateStaffUserInput} {role : Role}
    {s : Store} (hunused : s.staffUsers.rows.find? (StaffUser.hasEmail actor.tenantId (normalizeEmail input.email)) = none) :
    prisma.staffUser.Fresh (newStaffUser env actor input role) s ↔ s.staffUsers.find (env.cuid 0) = none := by
  rw [Relation.fresh_pair_iff (fun _ => rfl) (fun _ _ => Lock.staffUser.inj) (fun _ _ => Lock.noConfusion)]
  refine and_iff_left (fun q hq hsame => ?_)
  obtain ⟨htenant, hemail⟩ := Lock.staffEmail.inj hsame
  have hother := List.find?_eq_none.mp hunused q hq
  simp only [StaffUser.hasEmail, Bool.and_eq_true, beq_iff_eq] at hother
  exact hother ⟨htenant, hemail⟩

theorem admitStaffUser_ok_iff {env : Env} {actor : StaffActor} {input : CreateStaffUserInput} {c s c' s' : Store}
    {user : StaffUser} :
    (admitStaffUser env actor input).eval c s = .ok (user, c', s') ↔
      ∃ role, StaffAdmitted env actor input s role ∧ user = newStaffUser env actor input role ∧ c' = c ∧
        s' = s.admitStaff env actor input role := by
  simp only [admitStaffUser, insertStaffUser, eval_requirePermission_bind, Relation.eval_findFirst_bind,
    eval_orThrow_bind, eval_ensure_bind, Relation.eval_create_bind, eval_recordAuditLog_bind, pure_eq_ret, eval_ret,
    Except.ok.injEq, Prod.mk.injEq, Option.isNone_iff_eq_none]
  constructor
  · rintro ⟨hperm, role, hrole, hunused, hfresh, hrefs, _, rfl, rfl, rfl⟩
    exact ⟨role, ⟨hperm, hrole, hunused, (fresh_newStaffUser_iff hunused).mp hfresh, (Bool.and_eq_true_iff.mp hrefs).1⟩,
      rfl, rfl, rfl⟩
  · rintro ⟨role, h, rfl, rfl, rfl⟩
    have hstored : (s.roles.find role.id).isSome = true := by
      rw [Table.find_of_mem (Store.roleOf_mem h.role_found)]
      rfl
    exact ⟨h.permitted, role, h.role_found, h.unused, (fresh_newStaffUser_iff h.unused).mpr h.fresh,
      Bool.and_eq_true_iff.mpr ⟨h.tenant, hstored⟩, h.tenant, rfl, rfl, rfl⟩

theorem uncommitted_admitStaffUser (env : Env) (actor : StaffActor) (input : CreateStaffUserInput) :
    (admitStaffUser env actor input).Uncommitted := by
  refine (uncommitted_requirePermission _ _).bind (fun _ => Uncommitted.bind (Relation.uncommitted_findFirst _) ?_)
  refine fun found => (uncommitted_orThrow _ _).bind (fun role => ?_)
  refine Uncommitted.bind (Relation.uncommitted_findFirst _) (fun _ => (uncommitted_ensure _ _).bind (fun _ => ?_))
  refine (Relation.uncommitted_create _).bind (fun _ => ?_)
  exact (uncommitted_recordAuditLog _).bind (fun _ => trivial)

/-- What must hold for the link of a new account to be stored and mailed. -/
structure LinkSent (env : Env) (token : PasswordResetToken) (s : Store) : Prop where
  fresh : prisma.passwordResetToken.Fresh token s
  tenant : (s.tenants.find token.tenantId).isSome = true
  queue : env.queueAvailable = true

/-- The tables once the link is stored and mailed. -/
def Store.sendLink (s : Store) (token : PasswordResetToken) (mail : EmailLog) : Store :=
  { prisma.passwordResetToken.insert token s with emailLogs := s.emailLogs ++ [mail] }

theorem eval_sendPasswordLink_bind {β : Type} {env : Env} {token : PasswordResetToken} {mail : EmailLog}
    {k : Unit → Db β} {c v : Store} {out : β × Store × Store} (hmail : mail.tenantId = token.tenantId) :
    (sendPasswordLink env token mail >>= k).eval c v = .ok out ↔
      LinkSent env token v ∧ (k ()).eval (v.sendLink token mail) (v.sendLink token mail) = .ok out := by
  simp only [sendPasswordLink, transaction, bind_assoc, Relation.eval_create_bind, commit_bind, ret_bind, eval_commit,
    eval_queueEmail_bind]
  constructor
  · rintro ⟨hfresh, htenant, _, hqueue, hk⟩
    exact ⟨⟨hfresh, htenant, hqueue⟩, hk⟩
  · rintro ⟨h, hk⟩
    exact ⟨h.fresh, h.tenant, by rw [hmail]; exact h.tenant, h.queue, hk⟩

def staffInviteToken (env : Env) (actor : StaffActor) : PasswordResetToken :=
  passwordToken env (env.cuid 1) actor.tenantId .staff (env.cuid 0) passwordSetTokenTtlMs

def staffInviteMail (env : Env) (actor : StaffActor) (input : CreateStaffUserInput) : EmailLog :=
  { tenantId := actor.tenantId
    toEmail := normalizeEmail input.email
    templateKey := "staff_invite"
    subject := "You've been added to " ++ env.appName
    relatedEntityType := some "STAFF_USER"
    relatedEntityId := some (env.cuid 0) }

/-- What a call that returns checked and stored. -/
theorem createStaffUser_ok_iff {env : Env} {actor : StaffActor} {input : CreateStaffUserInput} {s c' s' : Store}
    {user : CreatedStaffUser} :
    (createStaffUser env actor input).eval s s = .ok (user, c', s') ↔
      ∃ role, StaffAdmitted env actor input s role ∧
        LinkSent env (staffInviteToken env actor) (s.admitStaff env actor input role) ∧
        user = { id := env.cuid 0, email := normalizeEmail input.email, name := input.name } ∧ c' = s' ∧
        s' = (s.admitStaff env actor input role).sendLink (staffInviteToken env actor)
          (staffInviteMail env actor input) := by
  rw [createStaffUser_eq, eval_bind_ok]
  simp only [eval_transaction_ok, admitStaffUser_ok_iff, inviteStaffUser]
  constructor
  · rintro ⟨_, _, _, ⟨rfl, _, role, hadmitted, rfl, _, rfl⟩, hinvite⟩
    rw [eval_sendPasswordLink_bind rfl] at hinvite
    obtain ⟨hsent, hret⟩ := hinvite
    cases hret
    exact ⟨role, hadmitted, hsent, rfl, rfl, rfl⟩
  · rintro ⟨role, hadmitted, hsent, rfl, rfl, rfl⟩
    refine ⟨_, _, _, ⟨rfl, s, role, hadmitted, rfl, rfl, rfl⟩, ?_⟩
    rw [eval_sendPasswordLink_bind rfl]
    exact ⟨hsent, rfl⟩

end HostPanel.Model
