import HostPanel.Model.Sessions

namespace HostPanel.Model

open HostPanel.Lib HostPanel.Lib.Program

/-- The one tenant of a deployment. -/
def getDefaultTenant (env : Env) : Db Tenant := do
  let found ← prisma.tenant.findFirst (fun r => r.slug == env.defaultTenantSlug)
  orThrow found (.error ("No tenant found for slug \"" ++ env.defaultTenantSlug ++
    "\". Run the seed script (pnpm db:seed) before starting the app."))

/-- The fields of a login form. -/
structure Credentials where
  actorType : AuthActorType
  email : String
  password : String
  totpToken : Option String := none
  ip : Option String := none
  userAgent : Option String := none

structure SessionUser where
  id : Id
  email : String
  name : String
  actorType : AuthActorType
  sessionToken : String
  mustChangePassword : Bool := false
deriving DecidableEq

/-- A form value that counts as missing when it is empty. -/
def whenGiven (value : Option String) : Option String := value.filter (fun v => v != "")

def Credentials.loginInput (raw : Credentials) (tenantId : Id) : LoginInput :=
  { tenantId := tenantId
    email := raw.email
    password := raw.password
    ip := whenGiven raw.ip
    userAgent := whenGiven raw.userAgent }

def authorizeStaff (env : Env) (raw : Credentials) (tenantId : Id) : Db SessionUser := do
  let staff ← authenticateStaffUser env { raw.loginInput tenantId with totpToken := whenGiven raw.totpToken }
  let sessionToken ← createStaffSession (env.drawn 1)
    { userId := staff.id, tenantId := tenantId, ip := whenGiven raw.ip, userAgent := whenGiven raw.userAgent }
  return { id := staff.id, email := staff.email, name := staff.name, actorType := .staff
           sessionToken := sessionToken, mustChangePassword := staff.mustChangePassword }

def authorizeClient (env : Env) (raw : Credentials) (tenantId : Id) : Db SessionUser := do
  let contact ← authenticateClientContact env (raw.loginInput tenantId)
  let sessionToken ← createClientSession (env.drawn 1)
    { contactId := contact.id, tenantId := tenantId, ip := whenGiven raw.ip, userAgent := whenGiven raw.userAgent }
  return { id := contact.id, email := contact.email, name := contact.firstName, actorType := .clientContact
           sessionToken := sessionToken }

/-- Check a login form, then open a session. -/
def authorize (env : Env) (raw : Credentials) : Db SessionUser := do
  ensure (raw.email ≠ "" ∧ raw.password ≠ "")
    (authenticationError "auth.invalid_credentials" "auth.invalid_credentials")
  let tenant ← getDefaultTenant env
  match raw.actorType with
  | .staff => authorizeStaff env raw tenant.id
  | .clientContact => authorizeClient env raw tenant.id

/-- What the cookie of the browser carries. -/
structure Jwt where
  actorType : Option AuthActorType
  sessionToken : Option String
deriving DecidableEq

def SessionUser.jwt (user : SessionUser) : Jwt :=
  { actorType := some user.actorType, sessionToken := some user.sessionToken }

/-- What a request knows of its user. -/
structure WebSession where
  actorType : Option AuthActorType := none
  userId : Option Id := none
  tenantId : Option Id := none
  clientId : Option Id := none
  permissions : List String := []
  impersonatedByStaffUserId : Option Id := none
  name : Option String := none
deriving DecidableEq

def staffWebSession (session : WebSession) (actor : StaffActor) : WebSession :=
  { session with
    actorType := some .staff
    userId := some actor.id
    tenantId := some actor.tenantId
    permissions := actor.permissions
    name := some actor.label }

def clientWebSession (session : WebSession) (context : ClientSessionContext) : WebSession :=
  { session with
    actorType := some .clientContact
    userId := some context.actor.id
    clientId := some context.actor.clientId
    tenantId := some context.actor.tenantId
    impersonatedByStaffUserId := context.impersonatedByStaffUserId
    name := some context.actor.label }

/-- The `session` callback: every request looks the session up again. -/
def sessionCallback (env : Env) (session : WebSession) (token : Jwt) : Db WebSession :=
  match token.actorType, whenGiven token.sessionToken with
  | some .staff, some sessionToken => do
    let actor ← validateStaffSession env sessionToken
    return (actor.map (staffWebSession session)).getD session
  | some .clientContact, some sessionToken => do
    let context ← validateClientSession env sessionToken
    return (context.map (clientWebSession session)).getD session
  | _, _ => .ret session

/-- The browser forgets its cookie; the tables stay as they are. -/
def signOut (_cookie : Option Jwt) : Db (Option Jwt) := .ret none

def logoutAction (cookie : Option Jwt) : Db (Option Jwt) := signOut cookie

def staffLogoutAction (cookie : Option Jwt) : Db (Option Jwt) := signOut cookie

end HostPanel.Model
