import HostPanel.Model.Services
import HostPanel.Model.Login

namespace HostPanel.Model

open HostPanel.Lib HostPanel.Lib.Program

/-- What is asked of the session, login, password, staff and client services. -/
inductive AccessOp where
  | createStaffSession (input : StaffSessionInput)
  | validateStaffSession (token : String)
  | revokeStaffSession (token reason : String)
  | createClientSession (input : ClientSessionInput)
  | validateClientSession (token : String)
  | revokeClientSession (token reason : String)
  | authenticateStaffUser (input : StaffLoginInput)
  | createStaffUser (actor : StaffActor) (input : CreateStaffUserInput)
  | disableStaffUser (actor : StaffActor) (targetUserId : Id)
  | setStaffPassword (token newPassword : String)
  | requestStaffPasswordReset (tenantId : Id) (email : String)
  | confirmStaff2FAEnrollment (userId : Id) (secret token : String)
  | disableStaff2FA (userId : Id)
  | authenticateClientContact (input : LoginInput)
  | setClientPassword (token newPassword : String)
  | requestClientPasswordReset (tenantId : Id) (email : String)
  | registerClient (input : RegisterClientInput)
  | verifyClientEmail (token : String)
  | addClientNote (actor : StaffActor) (clientId : Id) (body : String)
  | changeClientStatus (actor : StaffActor) (clientId : Id) (toStatus : ClientStatus) (reason : String)
  | updateClientProfile (actor : Actor) (clientId : Id) (patch : ProfilePatch)
  | authorize (raw : Credentials)
  | sessionCallback (session : WebSession) (token : Jwt)
  | logoutAction (cookie : Option Jwt)
  | staffLogoutAction (cookie : Option Jwt)

/-- What they answer. -/
inductive AccessReply where
  | done
  | sessionToken (token : String)
  | staffActor (actor : Option StaffActor)
  | clientContext (context : Option ClientSessionContext)
  | staff (staff : AuthenticatedStaff)
  | contact (contact : AuthenticatedClientContact)
  | createdStaff (user : CreatedStaffUser)
  | createdClient (clientId contactId : Id)
  | recoveryCodes (codes : List String)
  | sessionUser (user : SessionUser)
  | webSession (session : WebSession)
  | cookie (cookie : Option Jwt)
deriving DecidableEq

/-- A call with its surroundings, the time among them. -/
structure AccessCall where
  env : Env
  op : AccessOp

namespace AccessCall

def program (call : AccessCall) : Db AccessReply :=
  match call.op with
  | .createStaffSession input => .sessionToken <$> createStaffSession call.env input
  | .validateStaffSession token => .staffActor <$> validateStaffSession call.env token
  | .revokeStaffSession token reason => (fun _ => .done) <$> revokeStaffSession call.env token reason
  | .createClientSession input => .sessionToken <$> createClientSession call.env input
  | .validateClientSession token => .clientContext <$> validateClientSession call.env token
  | .revokeClientSession token reason => (fun _ => .done) <$> revokeClientSession call.env token reason
  | .authenticateStaffUser input => .staff <$> authenticateStaffUser call.env input
  | .createStaffUser actor input => .createdStaff <$> createStaffUser call.env actor input
  | .disableStaffUser actor targetUserId => (fun _ => .done) <$> disableStaffUser call.env actor targetUserId
  | .setStaffPassword token newPassword => (fun _ => .done) <$> setStaffPassword call.env token newPassword
  | .requestStaffPasswordReset tenantId email => (fun _ => .done) <$> requestStaffPasswordReset call.env tenantId email
  | .confirmStaff2FAEnrollment userId secret token =>
    .recoveryCodes <$> confirmStaff2FAEnrollment call.env userId secret token
  | .disableStaff2FA userId => (fun _ => .done) <$> disableStaff2FA call.env userId
  | .authenticateClientContact input => .contact <$> authenticateClientContact call.env input
  | .setClientPassword token newPassword => (fun _ => .done) <$> setClientPassword call.env token newPassword
  | .requestClientPasswordReset tenantId email =>
    (fun _ => .done) <$> requestClientPasswordReset call.env tenantId email
  | .registerClient input => (fun ids => .createdClient ids.1 ids.2) <$> registerClient call.env input
  | .verifyClientEmail token => (fun _ => .done) <$> verifyClientEmail call.env token
  | .addClientNote actor clientId body => (fun _ => .done) <$> addClientNote call.env actor clientId body
  | .changeClientStatus actor clientId toStatus reason =>
    (fun _ => .done) <$> changeClientStatus call.env actor clientId toStatus reason
  | .updateClientProfile actor clientId patch => (fun _ => .done) <$> updateClientProfile call.env actor clientId patch
  | .authorize raw => .sessionUser <$> authorize call.env raw
  | .sessionCallback session token => .webSession <$> sessionCallback call.env session token
  | .logoutAction cookie => .cookie <$> logoutAction cookie
  | .staffLogoutAction cookie => .cookie <$> staffLogoutAction cookie

def after (s : Store) (call : AccessCall) : Store := call.program.after s

/-- The services hash tokens the same way. -/
def Hashing (hash : String → String) (calls : List AccessCall) : Prop := ∀ call ∈ calls, call.env.hashToken = hash

/-- The calls are made one after the other, the first not before `t`. -/
def InOrder (t : DateTime) (calls : List AccessCall) : Prop :=
  (t :: calls.map (fun call => call.env.now)).Pairwise (· ≤ ·)

instance (t : DateTime) (calls : List AccessCall) : Decidable (InOrder t calls) :=
  inferInstanceAs (Decidable (List.Pairwise _ _))

end AccessCall

abbrev runAccess (s : Store) (calls : List AccessCall) : Store := runFrom AccessCall.after s calls

theorem runAccess_append (s : Store) (calls later : List AccessCall) :
    runAccess s (calls ++ later) = runAccess (runAccess s calls) later := runFrom_append s calls later

namespace Sample

/-- The surroundings of a call at an instant. -/
def moment (tag : String) (now : DateTime) : Env := { env tag with now := now }

def operator : StaffUser :=
  { id := "staff", tenantId := "tenant", email := "staff@example.test", passwordHash := "hash-correct horse"
    name := "Staff", roleId := "role", updatedAt := 0 }

def member : ClientContact :=
  { id := "contact", tenantId := "tenant", clientId := "client", email := "client@example.test"
    passwordHash := "hash-correct horse", firstName := "Demo", lastName := "Client" }

/-- A tenant with one member of staff and one client. -/
def office : Store :=
  { vacant with
    roles := (∅ : Table Role.id).insert { id := "role", tenantId := "tenant", key := "admin", name := "Admin" }
    staffUsers := (∅ : Table StaffUser.id).insert operator
    clients := (∅ : Table Client.id).insert client
    clientContacts := (∅ : Table ClientContact.id).insert member }

end Sample

end HostPanel.Model
