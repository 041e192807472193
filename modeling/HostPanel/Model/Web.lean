import HostPanel.Model.LoginActions
import HostPanel.Model.Admin
import HostPanel.Model.Settings
import HostPanel.Model.Config

namespace HostPanel.Model

open HostPanel.Lib HostPanel.Lib.Program

section Session

/-- `auth()`: the session behind the cookie of a request. -/
def getSession (env : Env) : Option Jwt → Db (Option WebSession)
  | none => .ret none
  | some token => some <$> sessionCallback env {} token

def WebSession.staffActor (session : WebSession) : Option StaffActor :=
  if session.actorType = some .staff then
    match whenGiven session.userId, whenGiven session.tenantId with
    | some userId, some tenantId =>
      some { id := userId, tenantId := tenantId, label := session.name.getD userId, permissions := session.permissions }
    | _, _ => none
  else none

def getStaffActor (session : Option WebSession) : Option StaffActor := session.bind WebSession.staffActor

def WebSession.clientActor (session : WebSession) : Option ClientPortalActor :=
  if session.actorType = some .clientContact then
    match whenGiven session.userId, whenGiven session.clientId, whenGiven session.tenantId with
    | some userId, some clientId, some tenantId =>
      some { id := userId, clientId := clientId, tenantId := tenantId, label := session.name.getD userId }
    | _, _, _ => none
  else none

def getClientActor (session : Option WebSession) : Option ClientPortalActor := session.bind WebSession.clientActor

end Session

/-- `String(formData.get(name) ?? "")`. -/
def formText (field : Option String) : String := field.getD ""

/-- Call a service and report its `AppError` to the form. -/
def attempt {α : Type} (message : String) (p : Db α) (s : Store) : Store × Except Failure ActionState :=
  let outcome := p.run s
  (outcome.1, reportAppError message outcome.2)

section Admin

variable (env : Env) (actor : StaffActor) (s : Store)

structure ClientNoteForm where
  clientId : Option String
  body : Option String

def addClientNoteAction (form : ClientNoteForm) : Store × Except Failure ActionState :=
  if trimmed form.body = "" then (s, .ok (.error "Note cannot be empty."))
  else attempt "Note added." (addClientNote env actor (formText form.clientId) (trimmed form.body)) s

def ClientStatus.ofName? (name : String) : Option ClientStatus :=
  [ClientStatus.active, .pendingVerification, .suspended, .closed].find? (fun status => status.name == name)

/-- `changeClientStatus` with whatever the form says: a status that does not exist
is one that no client can be moved to. -/
def changeClientStatusTo (clientId : Id) (status reason : String) : Db Unit :=
  match ClientStatus.ofName? status with
  | some toStatus => changeClientStatus env actor clientId toStatus reason
  | none => do
    requirePermission actor.permissions .clientsWrite
    let client ← prisma.client.findUniqueOrThrow clientId
    .raise (businessRuleError "client.invalid_transition"
      ("Cannot move a client from " ++ client.status.name ++ " to " ++ status ++ "."))

structure ClientStatusForm where
  clientId : Option String
  status : Option String
  reason : Option String

def changeClientStatusAction (form : ClientStatusForm) : Store × Except Failure ActionState :=
  if trimmed form.reason = "" then (s, .ok (.error "A reason is required for status changes."))
  else
    attempt ("Client status changed to " ++ formText form.status ++ ".")
      (changeClientStatusTo env actor (formText form.clientId) (formText form.status) (trimmed form.reason)) s

structure StaffUserForm where
  email : Option String
  name : Option String
  roleKey : Option String

def createStaffUserAction (form : StaffUserForm) : Store × Except Failure ActionState :=
  if trimmed form.email = "" ∨ trimmed form.name = "" ∨ formText form.roleKey = "" then
    (s, .ok (.error "All fields are required."))
  else
    attempt ("Invited " ++ trimmed form.email ++ ".")
      (createStaffUser env actor
        { email := trimmed form.email, name := trimmed form.name, roleKey := formText form.roleKey }) s

structure ProductGroupForm where
  name : Option String
  slug : Option String

def createProductGroupAction (form : ProductGroupForm) : Store × Except Failure ActionState :=
  if trimmed form.name = "" ∨ trimmed form.slug = "" then (s, .ok (.error "Name and slug are required."))
  else
    attempt "Product group created."
      (createProductGroup env actor { name := trimmed form.name, slug := trimmed form.slug }) s

structure CompanyProfileForm where
  name : Option String
  addressLine1 : Option String
  city : Option String
  state : Option String
  postalCode : Option String
  country : Option String
  taxId : Option String
  supportEmail : Option String

/-- The profile as it is stored: fields left empty are left out. -/
def CompanyProfileForm.profile (form : CompanyProfileForm) : JsonObject :=
  [("name", .scalar (.str (trimmed form.name)))] ++
    jsonField "addressLine1" (orUndefined (trimmed form.addressLine1)) .str ++
    jsonField "city" (orUndefined (trimmed form.city)) .str ++
    jsonField "state" (orUndefined (trimmed form.state)) .str ++
    jsonField "postalCode" (orUndefined (trimmed form.postalCode)) .str ++
    jsonField "country" (orUndefined (trimmed form.country)) .str ++
    jsonField "taxId" (orUndefined (trimmed form.taxId)) .str ++
    jsonField "supportEmail" (orUndefined (trimmed form.supportEmail)) .str

def updateCompanyProfileAction (form : CompanyProfileForm) : Store × Except Failure ActionState :=
  if trimmed form.name = "" then (s, .ok (.error "Company name is required."))
  else attempt "Settings saved." (setSetting env actor companyProfileSettingKey form.profile) s

end Admin

section Portal

structure ProfileForm where
  firstName : Option String
  lastName : Option String
  companyName : Option String
  phone : Option String
  addressLine1 : Option String
  city : Option String
  state : Option String
  postalCode : Option String
  country : Option String

def ProfileForm.patch (form : ProfileForm) : ProfilePatch where
  entries :=
    [(.firstName, some (trimmed form.firstName)), (.lastName, some (trimmed form.lastName)),
      (.companyName, orUndefined (trimmed form.companyName)), (.phone, orUndefined (trimmed form.phone)),
      (.addressLine1, orUndefined (trimmed form.addressLine1)), (.city, orUndefined (trimmed form.city)),
      (.state, orUndefined (trimmed form.state)), (.postalCode, orUndefined (trimmed form.postalCode)),
      (.country, orUndefined (trimmed form.country))]
  nodup := by simp

def updateProfileAction (env : Env) (actor : ClientPortalActor) (form : ProfileForm) (s : Store) :
    Store × Except Failure ActionState :=
  if trimmed form.firstName = "" ∨ trimmed form.lastName = "" then
    (s, .ok (.error "First and last name are required."))
  else attempt "Profile updated." (updateClientProfile env (.clientContact actor) actor.clientId form.patch) s

end Portal

section Public

variable (env : Env) (requestMeta : RequestMeta) (s : Store)

structure SetupForm where
  name : Option String
  email : Option String
  password : Option String
  confirmPassword : Option String

/-- What a form gets back that leads to another page when all went well. -/
def redirectTo {α : Type} (path : String) : Except Failure α → Except Failure ActionResult
  | .ok _ => .ok (.redirect path)
  | .error (.app _ _ message _) => .ok (.error message)
  | .error e => .error e

def bootstrapSuperAdminAction (form : SetupForm) : Store × Except Failure ActionResult :=
  if trimmed form.name = "" ∨ trimmed form.email = "" ∨ formText form.password = "" then
    (s, .ok (.error "All fields are required."))
  else if formText form.password ≠ formText form.confirmPassword then (s, .ok (.error "Passwords don't match."))
  else
    let outcome := (bootstrapSuperAdmin env
      { name := trimmed form.name, email := trimmed form.email, password := formText form.password
        ip := requestMeta.ip }).run s
    (outcome.1, redirectTo "/admin/login" outcome.2)

structure RegisterForm where
  type : Option String
  companyName : Option String
  firstName : Option String
  lastName : Option String
  email : Option String
  password : Option String
  country : Option String

/-- What `RegisterSchema` makes of a form. -/
structure Registration where
  type : ClientType
  companyName : Option String
  firstName : String
  lastName : String
  email : String
  password : String
  country : Option String

/-- `z.email(message)`: the message stands for every issue. -/
def Schema.email (isEmail : String → Bool) (message : String) : Schema String
  | none => .invalid [.said message]
  | some text => if isEmail text then .valid text else .invalid [.said message]

def clientTypeOptions : List (String × ClientType) := [("INDIVIDUAL", .individual), ("COMPANY", .company)]

def registerSchema (isEmail : String → Bool) (form : RegisterForm) : Checked Issue Registration :=
  (Checked.map Registration.mk (Schema.enum clientTypeOptions (some ((whenGiven form.type).getD "INDIVIDUAL"))))
    |>.seq (Schema.optional Schema.string (whenGiven form.companyName))
    |>.seq (Schema.min 1 (.said "First name is required") Schema.string form.firstName)
    |>.seq (Schema.min 1 (.said "Last name is required") Schema.string form.lastName)
    |>.seq (Schema.email isEmail "Enter a valid email address" form.email)
    |>.seq (Schema.min 10 (.said "Password must be at least 10 characters") Schema.string form.password)
    |>.seq (Schema.optional Schema.string (whenGiven form.country))

def Registration.input (data : Registration) (tenantId : Id) (ip : Option String) : RegisterClientInput :=
  { tenantId := tenantId
    type := data.type
    companyName := data.companyName
    firstName := data.firstName
    lastName := data.lastName
    email := data.email
    password := data.password
    country := data.country
    ip := ip }

/-- The body of the action. -/
def register (data : Registration) : Db (Id × Id) := do
  let tenant ← getDefaultTenant env
  registerClient env (data.input tenant.id requestMeta.ip)

def registerAction (zod : Zod) (isEmail : String → Bool) (form : RegisterForm) : Store × Except Failure ActionState :=
  match registerSchema isEmail form with
  | .invalid issues =>
    (s, .ok (.error ((issues.head?.map zod.text).getD "Please check the form and try again.")))
  | .valid data =>
    attempt "Account created! Check your email for a link to verify your address before signing in."
      (register env requestMeta data) s

/-- The page that a verification link leads to. -/
def verifyEmailPage (token : Option SearchParam) : Store × Except Failure ActionState :=
  match token with
  | some (.single text) =>
    if text = "" then (s, .ok (.error "This link is missing its verification token."))
    else attempt "Your email is verified. You can now sign in." (verifyClientEmail env text) s
  | _ => (s, .ok (.error "This link is missing its verification token."))

/-- Ask for a link to a new password; nothing is caught. -/
def requestReset (message : String) (request : Id → String → Db Unit) (email : Option String) :
    Store × Except Failure ActionState :=
  if formText email = "" then (s, .ok (.error "Enter your email address."))
  else
    let outcome := (getDefaultTenant env >>= fun tenant => request tenant.id (formText email)).run s
    (outcome.1, outcome.2.map (fun _ => .success message))

def requestClientPasswordResetAction (email : Option String) : Store × Except Failure ActionState :=
  requestReset env s "If that email has an account, we've sent a password reset link."
    (requestClientPasswordReset env) email

def staffRequestPasswordResetAction (email : Option String) : Store × Except Failure ActionState :=
  requestReset env s "If that email has a staff account, we've sent a password reset link."
    (requestStaffPasswordReset env) email

structure PasswordForm where
  token : Option String
  password : Option String

def setPassword (message : String) (set : String → String → Db Unit) (form : PasswordForm) :
    Store × Except Failure ActionState :=
  if jsLength (formText form.password) < 10 then (s, .ok (.error "Password must be at least 10 characters."))
  else attempt message (set (formText form.token) (formText form.password)) s

def resetClientPasswordAction (form : PasswordForm) : Store × Except Failure ActionState :=
  setPassword s "Password updated. You can now sign in." (setClientPassword env) form

def staffSetPasswordAction (form : PasswordForm) : Store × Except Failure ActionState :=
  setPassword s "Password set. You can now sign in." (setStaffPassword env) form

end Public

/-- The actions of the admin pages, each with its form. -/
inductive StaffAction where
  | addClientNote (form : ClientNoteForm)
  | changeClientStatus (form : ClientStatusForm)
  | createStaffUser (form : StaffUserForm)
  | createProductGroup (form : ProductGroupForm)
  | createProduct (form : ProductForm)
  | markInvoicePaid (form : PaymentForm)
  | updateCompanyProfile (form : CompanyProfileForm)

/-- The actions of the portal. -/
inductive ClientAction where
  | placeOrder (form : OrderForm)
  | updateProfile (form : ProfileForm)

/-- The actions that need no session. -/
inductive PublicAction where
  | clientLogin (library : AuthLibrary) (form : LoginForm)
  | staffLogin (library : AuthLibrary) (form : LoginForm)
  | register (zod : Zod) (isEmail : String → Bool) (form : RegisterForm)
  | verifyEmail (token : Option SearchParam)
  | requestClientPasswordReset (email : Option String)
  | resetClientPassword (form : PasswordForm)
  | staffRequestPasswordReset (email : Option String)
  | staffSetPassword (form : PasswordForm)
  | bootstrapSuperAdmin (form : SetupForm)
  | logout
  | staffLogout

inductive WebAction where
  | staff (action : StaffAction)
  | client (action : ClientAction)
  | anyone (action : PublicAction)
  | adminPage
  | portalPage

/-- A request to the web application. -/
structure WebRequest where
  env : Env
  cookie : Option Jwt
  requestMeta : RequestMeta
  action : WebAction

inductive WebReply where
  | error (message : String)
  | success (message : String)
  | redirect (path : String)
  | page
deriving DecidableEq

def ActionState.reply : ActionState → WebReply
  | error message => .error message
  | success message => .success message

def ActionResult.reply : ActionResult → WebReply
  | error message => .error message
  | redirect path => .redirect path

/-- What an action left and answered, as a reply of the application. -/
def replying {α : Type} (reply : α → WebReply) (outcome : Store × Except Failure α) : Store × Except Failure WebReply :=
  (outcome.1, outcome.2.map reply)

def StaffAction.perform (env : Env) (actor : StaffActor) (s : Store) :
    StaffAction → Store × Except Failure WebReply
  | addClientNote form => replying ActionState.reply (addClientNoteAction env actor s form)
  | changeClientStatus form => replying ActionState.reply (changeClientStatusAction env actor s form)
  | createStaffUser form => replying ActionState.reply (createStaffUserAction env actor s form)
  | createProductGroup form => replying ActionState.reply (createProductGroupAction env actor s form)
  | createProduct form => replying ActionState.reply (createProductAction env actor form s)
  | markInvoicePaid form => replying ActionState.reply (markInvoicePaidAction env actor form s)
  | updateCompanyProfile form => replying ActionState.reply (updateCompanyProfileAction env actor s form)

def ClientAction.perform (env : Env) (actor : ClientPortalActor) (requestMeta : RequestMeta) (s : Store) :
    ClientAction → Store × Except Failure WebReply
  | placeOrder form => replying ActionResult.reply (placeOrderAction env actor requestMeta form s)
  | updateProfile form => replying ActionState.reply (updateProfileAction env actor form s)

def PublicAction.perform (env : Env) (requestMeta : RequestMeta) (s : Store) :
    PublicAction → Store × Except Failure WebReply
  | clientLogin library form => replying ActionResult.reply ((clientLoginAction library requestMeta form).run s)
  | staffLogin library form => replying ActionResult.reply ((staffLoginAction library requestMeta form).run s)
  | register zod isEmail form => replying ActionState.reply (registerAction env requestMeta s zod isEmail form)
  | verifyEmail token => replying ActionState.reply (verifyEmailPage env s token)
  | requestClientPasswordReset email => replying ActionState.reply (requestClientPasswordResetAction env s email)
  | resetClientPassword form => replying ActionState.reply (resetClientPasswordAction env s form)
  | staffRequestPasswordReset email => replying ActionState.reply (staffRequestPasswordResetAction env s email)
  | staffSetPassword form => replying ActionState.reply (staffSetPasswordAction env s form)
  | bootstrapSuperAdmin form => replying ActionResult.reply (bootstrapSuperAdminAction env requestMeta s form)
  | logout => ((logoutAction none).after s, .ok (.redirect "/login"))
  | staffLogout => ((staffLogoutAction none).after s, .ok (.redirect "/admin/login"))

namespace WebRequest

/-- Look the session up, then go on as the actor it stands for, or to the login
page. -/
def withActor {α : Type} (r : WebRequest) (actorOf : Option WebSession → Option α) (loginPath : String)
    (k : α → Store → Store × Except Failure WebReply) (s : Store) : Store × Except Failure WebReply :=
  match (getSession r.env r.cookie).run s with
  | (t, .error e) => (t, .error e)
  | (t, .ok session) =>
    match actorOf session with
    | none => (t, .ok (.redirect loginPath))
    | some actor => k actor t

/-- `requireStaffActor`, then the rest of the request. -/
def asStaff (r : WebRequest) (k : StaffActor → Store → Store × Except Failure WebReply) (s : Store) :
    Store × Except Failure WebReply := r.withActor getStaffActor "/admin/login" k s

/-- `requireClientActor`, then the rest of the request. -/
def asClient (r : WebRequest) (k : ClientPortalActor → Store → Store × Except Failure WebReply) (s : Store) :
    Store × Except Failure WebReply := r.withActor getClientActor "/login" k s

def respond (r : WebRequest) (s : Store) : Store × Except Failure WebReply :=
  match r.action with
  | .staff action => r.asStaff (fun actor t => action.perform r.env actor t) s
  | .client action => r.asClient (fun actor t => action.perform r.env actor r.requestMeta t) s
  | .anyone action => action.perform r.env r.requestMeta s
  | .adminPage => r.asStaff (fun _ t => (t, .ok .page)) s
  | .portalPage => r.asClient (fun _ t => (t, .ok .page)) s

def after (s : Store) (r : WebRequest) : Store := (r.respond s).1

end WebRequest

abbrev runWeb (s : Store) (requests : List WebRequest) : Store := runFrom WebRequest.after s requests

end HostPanel.Model
