import HostPanel.Model.Staff

namespace HostPanel.Model

open HostPanel.Lib HostPanel.Lib.Program

def ClientContact.isActive (contact : ClientContact) : Bool := contact.status == .active && contact.deletedAt == none

def ClientContact.hasEmail (tenantId : Id) (email : String) (r : ClientContact) : Bool :=
  r.tenantId == tenantId && r.email == email

def ClientContact.actor (contact : ClientContact) : ClientPortalActor :=
  { id := contact.id
    clientId := contact.clientId
    tenantId := contact.tenantId
    label := contact.firstName ++ " " ++ contact.lastName ++ " <" ++ contact.email ++ ">" }

/-- The actor of a contact. The client's own status is not looked at. -/
def loadClientPortalActor (contactId : Id) : Db (Option ClientPortalActor) := do
  let contact ← prisma.clientContact.findUnique contactId
  return (contact.filter ClientContact.isActive).map ClientContact.actor

def mailClientReset (env : Env) (tenantId : Id) (email : String) : Option ClientContact → Db Unit
  | none => .ret ()
  | some contact =>
    sendPasswordLink env (passwordToken env (env.cuid 0) tenantId .clientContact contact.id passwordResetTokenTtlMs)
      { tenantId := tenantId
        toEmail := email
        templateKey := "reset_password"
        subject := "Reset your " ++ env.appName ++ " password"
        relatedEntityType := some "CLIENT_CONTACT"
        relatedEntityId := some contact.id }

def requestClientPasswordReset (env : Env) (tenantId : Id) (email : String) : Db Unit := do
  let normalized := normalizeEmail email
  let contact ← prisma.clientContact.findFirst (ClientContact.hasEmail tenantId normalized)
  mailClientReset env tenantId normalized (contact.filter ClientContact.isActive)

def setClientPassword (env : Env) (token newPassword : String) : Db Unit := do
  let record ← findPasswordToken env .clientContact token
  transaction do
    let _ ← prisma.clientContact.update record.actorId
      (fun r => { r with passwordHash := env.hashPassword newPassword })
    consumeToken env record

structure AuthenticatedClientContact where
  id : Id
  clientId : Id
  tenantId : Id
  email : String
  firstName : String
deriving DecidableEq

def completeClientLogin (env : Env) (input : LoginInput) (email : String) (contact : ClientContact) :
    Db AuthenticatedClientContact := do
  succeedLogin env .clientContact contact.id input email
  transaction do
    let _ ← prisma.clientContact.update contact.id
      (fun r => { r with lastLoginAt := some env.now, lastLoginIp := input.ip.or r.lastLoginIp, lockedUntil := none })
    let _ ← prisma.client.update contact.clientId (fun r => { r with lastLoginAt := some env.now, updatedAt := env.now })
    return ()
  return { id := contact.id
           clientId := contact.clientId
           tenantId := input.tenantId
           email := contact.email
           firstName := contact.firstName }

def lockContactOut (env : Env) (contact : ClientContact) (locked : Bool) : Db Unit :=
  if locked = true then do
    let _ ← transaction (prisma.clientContact.update contact.id
      (fun r => { r with lockedUntil := some (computeLockoutExpiry env) }))
    return ()
  else .ret ()

/-- `authenticateClientContact` from the comparison of the password on. -/
def checkContactPassword (env : Env) (input : LoginInput) (email : String) (contact : ClientContact) :
    Db AuthenticatedClientContact :=
  if env.verifyPassword contact.passwordHash input.password = true then
    completeClientLogin env input email contact
  else do
    let locked ← shouldLockOut env ⟨input.tenantId, .clientContact, email⟩
    lockContactOut env contact locked
    failLogin env .clientContact (some contact.id) input email "bad_password"

def ClientStatus.isBarred (status : ClientStatus) : Bool := status == .suspended || status == .closed

def checkContactAccount (env : Env) (input : LoginInput) (email : String) (contact : ClientContact)
    (client : Client) : Db AuthenticatedClientContact :=
  if contact.isActive = false then
    failLogin env .clientContact (some contact.id) input email "not_found_or_disabled"
  else if client.status.isBarred = true then
    failLogin env .clientContact (some contact.id) input email ("account_" ++ toLowerCase client.status.name)
  else if isLocked contact.lockedUntil env.now = true then
    failLogin env .clientContact (some contact.id) input email "locked"
  else checkContactPassword env input email contact

/-- The contact is read together with its client. -/
def checkFoundContact (env : Env) (input : LoginInput) (email : String) :
    Option ClientContact → Db AuthenticatedClientContact
  | none => failLogin env .clientContact none input email "not_found_or_disabled"
  | some contact => do
    let client ← prisma.client.findUniqueOrThrow contact.clientId
    checkContactAccount env input email contact client

def authenticateClientContact (env : Env) (input : LoginInput) : Db AuthenticatedClientContact := do
  let email := normalizeEmail input.email
  let contact ← prisma.clientContact.findFirst (ClientContact.hasEmail input.tenantId email)
  checkFoundContact env input email contact

end HostPanel.Model
