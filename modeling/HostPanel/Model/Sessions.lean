import HostPanel.Model.Contacts

namespace HostPanel.Model

open HostPanel.Lib HostPanel.Lib.Program

def sessionTtlMs : ℤ := 7 * 24 * 60 * 60 * 1000

def impersonationTtlMs : ℤ := 30 * 60 * 1000

structure StaffSessionInput where
  userId : Id
  tenantId : Id
  ip : Option String := none
  userAgent : Option String := none

def createStaffSession (env : Env) (input : StaffSessionInput) : Db String := do
  let _ ← transaction (prisma.staffSession.create
    { id := env.cuid 0
      tenantId := input.tenantId
      userId := input.userId
      tokenHash := env.hashToken env.generateToken
      ip := input.ip
      userAgent := input.userAgent
      lastSeenAt := env.now
      expiresAt := env.now + sessionTtlMs })
  return env.generateToken

/-- Neither revoked nor past its end. -/
def StaffSession.isLive (now : DateTime) (r : StaffSession) : Bool :=
  r.revokedAt == none && !decide (r.expiresAt < now)

def useStaffSession (env : Env) : Option StaffSession → Db (Option StaffActor)
  | none => .ret none
  | some session => do
    let _ ← transaction (prisma.staffSession.update session.id (fun r => { r with lastSeenAt := env.now }))
    loadStaffActor session.userId

def validateStaffSession (env : Env) (token : String) : Db (Option StaffActor) := do
  let session ← prisma.staffSession.findFirst (fun r => r.tokenHash == env.hashToken token)
  useStaffSession env (session.filter (StaffSession.isLive env.now))

def revokeStaffSession (env : Env) (token reason : String) : Db Unit :=
  transaction (prisma.staffSession.updateMany
    (fun r => r.tokenHash == env.hashToken token && r.revokedAt == none)
    (fun r => { r with revokedAt := some env.now, revokedReason := some reason }))

structure ClientSessionInput where
  contactId : Id
  tenantId : Id
  ip : Option String := none
  userAgent : Option String := none
  impersonatedByStaffUserId : Option Id := none
  impersonationReason : Option String := none

/-- `Boolean(impersonatedByStaffUserId)`: the empty string counts as none. -/
def ClientSessionInput.isImpersonation (input : ClientSessionInput) : Bool :=
  input.impersonatedByStaffUserId.any (fun id => id != "")

def ClientSessionInput.ttlMs (input : ClientSessionInput) : ℤ :=
  if input.isImpersonation = true then impersonationTtlMs else sessionTtlMs

def createClientSession (env : Env) (input : ClientSessionInput) : Db String := do
  let _ ← transaction (prisma.clientSession.create
    { id := env.cuid 0
      tenantId := input.tenantId
      contactId := input.contactId
      tokenHash := env.hashToken env.generateToken
      ip := input.ip
      userAgent := input.userAgent
      lastSeenAt := env.now
      expiresAt := env.now + input.ttlMs
      impersonatedByStaffUserId := input.impersonatedByStaffUserId
      impersonationReason := input.impersonationReason })
  return env.generateToken

structure ClientSessionContext where
  actor : ClientPortalActor
  impersonatedByStaffUserId : Option Id
deriving DecidableEq

def ClientSession.isLive (now : DateTime) (r : ClientSession) : Bool :=
  r.revokedAt == none && !decide (r.expiresAt < now)

def useClientSession (env : Env) : Option ClientSession → Db (Option ClientSessionContext)
  | none => .ret none
  | some session => do
    let _ ← transaction (prisma.clientSession.update session.id (fun r => { r with lastSeenAt := env.now }))
    let actor ← loadClientPortalActor session.contactId
    return actor.map (fun a => { actor := a, impersonatedByStaffUserId := session.impersonatedByStaffUserId })

def validateClientSession (env : Env) (token : String) : Db (Option ClientSessionContext) := do
  let session ← prisma.clientSession.findFirst (fun r => r.tokenHash == env.hashToken token)
  useClientSession env (session.filter (ClientSession.isLive env.now))

def revokeClientSession (env : Env) (token reason : String) : Db Unit :=
  transaction (prisma.clientSession.updateMany
    (fun r => r.tokenHash == env.hashToken token && r.revokedAt == none)
    (fun r => { r with revokedAt := some env.now, revokedReason := some reason }))

end HostPanel.Model
