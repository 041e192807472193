import HostPanel.Model.Clients

namespace HostPanel.Model

open HostPanel.Lib HostPanel.Lib.Program

def maxFailedAttempts : ℕ := 5

def lockoutWindowMinutes : ℤ := 15

def lockoutDurationMinutes : ℤ := 15

/-- What an attempt is counted under. -/
structure LoginKey where
  tenantId : Id
  actorType : AuthActorType
  email : String
deriving DecidableEq

structure LoginAttempt where
  tenantId : Id
  actorType : AuthActorType
  actorId : Option Id
  email : String
  success : Bool
  reason : Option String := none
  ip : Option String := none
  userAgent : Option String := none

def LoginAttempt.event (input : LoginAttempt) (env : Env) : LoginEvent :=
  { id := env.cuid 0
    tenantId := input.tenantId
    actorType := input.actorType
    actorId := input.actorId
    email := toLowerCase input.email
    success := input.success
    reason := input.reason
    ip := input.ip
    userAgent := input.userAgent
    createdAt := env.now }

def recordLoginAttempt (env : Env) (input : LoginAttempt) : Db Unit := do
  let _ ← transaction (prisma.loginEvent.create (input.event env))
  return ()

def LoginEvent.isFailure (key : LoginKey) (since : DateTime) (r : LoginEvent) : Bool :=
  r.tenantId == key.tenantId && r.actorType == key.actorType && r.email == toLowerCase key.email &&
    r.success == false && decide (since ≤ r.createdAt)

/-- Too many recent failures lock an account out. -/
def shouldLockOut (env : Env) (key : LoginKey) : Db Bool :=
  let since := env.now - lockoutWindowMinutes * 60000
  .query (fun v => .ret (decide (maxFailedAttempts ≤ v.loginEvents.rows.countP (LoginEvent.isFailure key since))))

def computeLockoutExpiry (env : Env) : DateTime := env.now + lockoutDurationMinutes * 60000

/-- `lockedUntil && lockedUntil > new Date()`. -/
def isLocked (lockedUntil : Option DateTime) (now : DateTime) : Bool := lockedUntil.any (fun t => decide (now < t))

/-- What both login functions take. -/
structure LoginInput where
  tenantId : Id
  email : String
  password : String
  ip : Option String := none
  userAgent : Option String := none

/-- Record a failed attempt, then throw the same error whatever the reason. -/
def failLogin {α : Type} (env : Env) (actorType : AuthActorType) (actorId : Option Id) (input : LoginInput)
    (email reason : String) : Db α := do
  recordLoginAttempt env
    { tenantId := input.tenantId
      actorType := actorType
      actorId := actorId
      email := email
      success := false
      reason := some reason
      ip := input.ip
      userAgent := input.userAgent }
  .raise (authenticationError "auth.invalid_credentials" "Incorrect email or password.")

def succeedLogin (env : Env) (actorType : AuthActorType) (actorId : Id) (input : LoginInput) (email : String) :
    Db Unit :=
  recordLoginAttempt env
    { tenantId := input.tenantId
      actorType := actorType
      actorId := some actorId
      email := email
      success := true
      ip := input.ip
      userAgent := input.userAgent }

end HostPanel.Model
