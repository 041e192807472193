import HostPanel.Model.LoginGuard

namespace HostPanel.Model

open HostPanel.Lib HostPanel.Lib.Program

def passwordSetTokenTtlMs : ℤ := 24 * 60 * 60 * 1000

def passwordResetTokenTtlMs : ℤ := 60 * 60 * 1000

def getKey (env : Env) : Except Failure (List UInt8) :=
  let key := env.cipher.fromBase64 env.encryptionKey
  if key.length = 32 then .ok key
  else .error (.error
    "ENCRYPTION_KEY must be a base64 string decoding to exactly 32 bytes (openssl rand -base64 32)")

/-- `iv.authTag.ciphertext`, each in base64. -/
def encryptSecret (env : Env) (plaintext : String) : Except Failure String := do
  let key ← getKey env
  let iv := env.randomBytes
  let (encrypted, authTag) := env.cipher.encipher key iv plaintext
  return env.cipher.toBase64 iv ++ "." ++ env.cipher.toBase64 authTag ++ "." ++ env.cipher.toBase64 encrypted

def malformedCiphertext : Failure := .error "Malformed ciphertext: expected \"iv.authTag.data\""

def decryptSecret (env : Env) (ciphertext : String) : Except Failure String :=
  match (ciphertext.toList.splitOn '.').map String.ofList with
  | [ivB64, tagB64, dataB64] =>
    if ivB64 = "" ∨ tagB64 = "" ∨ dataB64 = "" then .error malformedCiphertext
    else do
      let key ← getKey env
      match env.cipher.decipher key (env.cipher.fromBase64 ivB64) (env.cipher.fromBase64 tagB64)
        (env.cipher.fromBase64 dataB64) with
      | some plaintext => return plaintext
      | none => .error (.error "Unsupported state or unable to authenticate data")
  | _ => .error malformedCiphertext

inductive StaffRoleKey where
  | superAdmin
  | admin
  | billingStaff
  | supportStaff
  | salesStaff
  | technicalStaff
  | financeStaff
  | readonlyStaff
deriving DecidableEq

def StaffRoleKey.name : StaffRoleKey → String
  | superAdmin => "super_admin"
  | admin => "admin"
  | billingStaff => "billing_staff"
  | supportStaff => "support_staff"
  | salesStaff => "sales_staff"
  | technicalStaff => "technical_staff"
  | financeStaff => "finance_staff"
  | readonlyStaff => "readonly_staff"

def allPermissions : List PermissionKey :=
  [.clientsRead, .clientsWrite, .clientsContactsManage, .clientsImpersonate, .productsRead, .productsWrite,
    .ordersRead, .ordersWrite, .invoicesRead, .invoicesWrite, .paymentsRead, .paymentsRefund, .domainsManage,
    .provisioningManage, .supportManage, .staffManage, .rolesManage, .settingsManage, .reportsFinance, .auditRead]

/-- The keys of a role's permissions, whatever the tables call them. -/
def Store.permissionsOf (s : Store) (roleId : Id) : List String :=
  (s.rolePermissions.rows.filter (fun r => r.roleId == roleId)).filterMap (fun r =>
    (s.permissions.find r.permissionId).map Permission.key)

/-- The account may be used at all. -/
def StaffUser.isActive (user : StaffUser) : Bool := user.status == .active && user.deletedAt == none

def StaffUser.actor (user : StaffUser) (permissions : List String) : StaffActor :=
  { id := user.id
    tenantId := user.tenantId
    label := user.name ++ " <" ++ user.email ++ ">"
    permissions := permissions }

def staffActor : Option StaffUser → Db (Option StaffActor)
  | none => .ret none
  | some user => .query (fun v => .ret (some (user.actor (v.permissionsOf user.roleId))))

/-- The actor of a staff user, from the tables as they are now. -/
def loadStaffActor (userId : Id) : Db (Option StaffActor) := do
  let user ← prisma.staffUser.findUnique userId
  staffActor (user.filter StaffUser.isActive)

def StaffUser.hasEmail (tenantId : Id) (email : String) (r : StaffUser) : Bool :=
  r.tenantId == tenantId && r.email == email

structure CreateStaffUserInput where
  email : String
  name : String
  roleKey : String
  ip : Option String := none

structure CreatedStaffUser where
  id : Id
  email : String
  name : String
deriving DecidableEq

def staffUserCreatedAudit (actor : StaffActor) (input : CreateStaffUserInput) (email : String) (userId : Id) :
    AuditLog :=
  { tenantId := actor.tenantId
    actorType := .staff
    actorId := some actor.id
    actorLabel := some actor.label
    action := "staff_user.created"
    entityType := .staffUser
    entityId := userId
    ip := input.ip
    afterState := some [("email", .scalar (.str email)), ("name", .scalar (.str input.name)),
      ("roleKey", .scalar (.str input.roleKey))] }

/-- The transaction of `createStaffUser`. -/
def insertStaffUser (env : Env) (actor : StaffActor) (input : CreateStaffUserInput) (email : String) (role : Role) :
    Db StaffUser := do
  let created ← prisma.staffUser.create
    { id := env.cuid 0
      tenantId := actor.tenantId
      email := email
      name := input.name
      roleId := role.id
      passwordHash := env.hashPassword env.placeholderToken
      mustChangePassword := true
      updatedAt := env.now }
  recordAuditLog (staffUserCreatedAudit actor input email created.id)
  return created

def passwordToken (env : Env) (id tenantId : Id) (actorType : AuthActorType) (actorId : Id) (ttl : ℤ) :
    PasswordResetToken :=
  { id := id
    tenantId := tenantId
    actorType := actorType
    actorId := actorId
    tokenHash := env.hashToken env.generateToken
    expiresAt := env.now + ttl }

/-- Store the hash of a fresh token, then mail the token. -/
def sendPasswordLink (env : Env) (token : PasswordResetToken) (mail : EmailLog) : Db Unit := do
  let _ ← transaction (prisma.passwordResetToken.create token)
  queueEmail env mail

def createStaffUser (env : Env) (actor : StaffActor) (input : CreateStaffUserInput) : Db CreatedStaffUser := do
  requirePermission actor.permissions .staffManage
  let found ← prisma.role.findFirst (fun r => r.tenantId == actor.tenantId && r.key == input.roleKey)
  let role ← orThrow found (validationError "staff.invalid_role" "Unknown role.")
  let email := normalizeEmail input.email
  let existing ← prisma.staffUser.findFirst (StaffUser.hasEmail actor.tenantId email)
  ensure (existing.isNone = true)
    (businessRuleError "staff.email_taken" "A staff account with this email already exists.")
  let user ← transaction (insertStaffUser env actor input email role)
  sendPasswordLink env (passwordToken env (env.cuid 1) actor.tenantId .staff user.id passwordSetTokenTtlMs)
    { tenantId := actor.tenantId
      toEmail := email
      templateKey := "staff_invite"
      subject := "You've been added to " ++ env.appName
      relatedEntityType := some "STAFF_USER"
      relatedEntityId := some user.id }
  return { id := user.id, email := email, name := input.name }

def PasswordResetToken.usable (env : Env) (actorType : AuthActorType) (r : PasswordResetToken) : Bool :=
  r.actorType == actorType && r.consumedAt == none && !decide (r.expiresAt < env.now)

/-- The record of a password link, if the link may still be used. -/
def findPasswordToken (env : Env) (actorType : AuthActorType) (token : String) : Db PasswordResetToken := do
  let record ← prisma.passwordResetToken.findFirst (fun r => r.tokenHash == env.hashToken token)
  orThrow (record.filter (PasswordResetToken.usable env actorType))
    (authenticationError "auth.invalid_token" "This link is invalid or has expired.")

def consumeToken (env : Env) (record : PasswordResetToken) : Db Unit := do
  let _ ← prisma.passwordResetToken.update record.id (fun r => { r with consumedAt := some env.now })
  return ()

def setStaffPassword (env : Env) (token newPassword : String) : Db Unit := do
  let record ← findPasswordToken env .staff token
  transaction do
    let _ ← prisma.staffUser.update record.actorId
      (fun r => { r with
        passwordHash := env.hashPassword newPassword
        mustChangePassword := false
        updatedAt := env.now })
    consumeToken env record

/-- What a reset request does for the account it found; nothing, if it found
none. -/
def mailStaffReset (env : Env) (tenantId : Id) (email : String) : Option StaffUser → Db Unit
  | none => .ret ()
  | some user =>
    sendPasswordLink env (passwordToken env (env.cuid 0) tenantId .staff user.id passwordResetTokenTtlMs)
      { tenantId := tenantId
        toEmail := email
        templateKey := "reset_password"
        subject := "Reset your " ++ env.appName ++ " password"
        relatedEntityType := some "STAFF_USER"
        relatedEntityId := some user.id }

def requestStaffPasswordReset (env : Env) (tenantId : Id) (email : String) : Db Unit := do
  let normalized := normalizeEmail email
  let user ← prisma.staffUser.findFirst (StaffUser.hasEmail tenantId normalized)
  mailStaffReset env tenantId normalized (user.filter StaffUser.isActive)

structure StaffLoginInput extends LoginInput where
  totpToken : Option String := none

structure AuthenticatedStaff where
  id : Id
  tenantId : Id
  email : String
  name : String
  mustChangePassword : Bool
deriving DecidableEq

/-- `authenticateStaffUser` from the check of the code on. -/
def checkStaffCode (env : Env) (input : StaffLoginInput) (email : String) (user : StaffUser)
    (secret token : String) : Db Unit :=
  if env.verifyTotpToken secret token = true then .ret ()
  else failLogin env .staff (some user.id) input.toLoginInput email "bad_totp"

def checkSecondFactor (env : Env) (input : StaffLoginInput) (email : String) (user : StaffUser) : Db Unit :=
  if user.twoFactorEnabled = true then
    match input.totpToken.filter (fun t => t != "") with
    | none => .raise (authenticationError "auth.totp_required" "Enter your 2FA code.")
    | some token => do
      let secret ← lift (decryptSecret env (user.twoFactorSecret.getD ""))
      checkStaffCode env input email user secret token
  else .ret ()

def completeStaffLogin (env : Env) (input : StaffLoginInput) (email : String) (user : StaffUser) :
    Db AuthenticatedStaff := do
  succeedLogin env .staff user.id input.toLoginInput email
  let _ ← transaction (prisma.staffUser.update user.id
    (fun r => { r with
      lastLoginAt := some env.now
      lastLoginIp := input.ip.or r.lastLoginIp
      lockedUntil := none
      updatedAt := env.now }))
  return { id := user.id
           tenantId := input.tenantId
           email := user.email
           name := user.name
           mustChangePassword := user.mustChangePassword }

def lockStaffOut (env : Env) (user : StaffUser) (locked : Bool) : Db Unit :=
  if locked = true then do
    let _ ← transaction (prisma.staffUser.update user.id
      (fun r => { r with lockedUntil := some (computeLockoutExpiry env), updatedAt := env.now }))
    return ()
  else .ret ()

/-- `authenticateStaffUser` from the comparison of the password on. -/
def checkStaffPassword (env : Env) (input : StaffLoginInput) (email : String) (user : StaffUser) :
    Db AuthenticatedStaff :=
  if env.verifyPassword user.passwordHash input.password = true then do
    checkSecondFactor env input email user
    completeStaffLogin env input email user
  else do
    let locked ← shouldLockOut env ⟨input.tenantId, .staff, email⟩
    lockStaffOut env user locked
    failLogin env .staff (some user.id) input.toLoginInput email "bad_password"

def checkStaffAccount (env : Env) (input : StaffLoginInput) (email : String) :
    Option StaffUser → Db AuthenticatedStaff
  | none => failLogin env .staff none input.toLoginInput email "not_found_or_disabled"
  | some user =>
    if user.isActive = false then
      failLogin env .staff (some user.id) input.toLoginInput email "not_found_or_disabled"
    else if isLocked user.lockedUntil env.now = true then
      failLogin env .staff (some user.id) input.toLoginInput email "locked"
    else checkStaffPassword env input email user

def authenticateStaffUser (env : Env) (input : StaffLoginInput) : Db AuthenticatedStaff := do
  let email := normalizeEmail input.email
  let user ← prisma.staffUser.findFirst (StaffUser.hasEmail input.tenantId email)
  checkStaffAccount env input email user

def recoveryCodes (env : Env) : List String := (List.range 8).map env.recoveryCode

def confirmStaff2FAEnrollment (env : Env) (userId : Id) (secret token : String) : Db (List String) := do
  ensure (env.verifyTotpToken secret token = true)
    (validationError "auth.totp_invalid" "That code didn't match. Try again.")
  let encrypted ← lift (encryptSecret env secret)
  let _ ← transaction (prisma.staffUser.update userId
    (fun r => { r with
      twoFactorEnabled := true
      twoFactorSecret := some encrypted
      recoveryCodeHashes := some ((recoveryCodes env).map env.hashToken)
      updatedAt := env.now }))
  return recoveryCodes env

def disableStaff2FA (env : Env) (userId : Id) : Db Unit := do
  let _ ← transaction (prisma.staffUser.update userId
    (fun r => { r with
      twoFactorEnabled := false
      twoFactorSecret := none
      recoveryCodeHashes := some []
      updatedAt := env.now }))
  return ()

theorem atomic_setStaffPassword (env : Env) (token newPassword : String) :
    (setStaffPassword env token newPassword).Atomic := by
  refine Uncommitted.bind_atomic ?_ (fun record => Uncommitted.transaction ?_)
  · exact (Relation.uncommitted_findFirst _).bind (fun _ => uncommitted_orThrow _ _)
  · refine (Relation.uncommitted_update _ _ _).bind (fun _ => ?_)
    exact (Relation.uncommitted_update _ _ _).bind (fun _ => trivial)

theorem atomic_disableStaff2FA (env : Env) (userId : Id) : (disableStaff2FA env userId).Atomic := by
  rw [disableStaff2FA, transaction_bind]
  exact (Relation.uncommitted_update _ _ _).bind_atomic (fun _ => ⟨(), rfl⟩)

end HostPanel.Model
