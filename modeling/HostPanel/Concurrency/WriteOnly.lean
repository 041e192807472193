import HostPanel.Concurrency.Logs

namespace HostPanel.Model

open HostPanel.Lib HostPanel.Lib.Program

variable {ι α : Type}

section Services

variable {rel : LogTables → LogTables → Prop} (hrel : KeptByLogging rel) {env : Env}

section Reads

theorem steady_findLatestPrice (p : ProductPrice → Bool) : (findLatestPrice env p).Steady (Store.Beside rel) :=
  steady_read (fun _ => rfl)

theorem steady_getCurrentPrice (tenantId productId : Id) (currency billingCycle : String) (clientGroupId : Option Id) :
    (getCurrentPrice env tenantId productId currency billingCycle clientGroupId).Steady (Store.Beside rel) := by
  refine (steady_lift _).bind (fun cycle => Steady.bind ?_ (fun groupPrice => ?_))
  · unfold findGroupPrice
    split
    · exact steady_findLatestPrice _
    · trivial
  · cases groupPrice with
    | none => exact steady_findLatestPrice _
    | some price => trivial

theorem steady_orderLine (tenantId : Id) (currency : String) (clientGroupId : Option Id) (subtotal : Money)
    (item : CreateOrderItemInput) :
    (orderLine env tenantId currency clientGroupId subtotal item).Steady (Store.Beside rel) := by
  refine (steady_getCurrentPrice _ _ _ _ _).bind (fun found => (steady_orThrow _ _).bind (fun priceRow => ?_))
  refine (Relation.steady_findUniqueOrThrow _).bind (fun product => ?_)
  refine (steady_lift _).bind (fun unitPrice => (steady_lift _).bind (fun setupFee => ?_))
  refine (steady_lift _).bind (fun gross => (steady_lift _).bind (fun lineTotal => ?_))
  exact (steady_lift _).bind (fun _ => trivial)

theorem steady_orderLines (tenantId : Id) (currency : String) (clientGroupId : Option Id) (subtotal : Money)
    (items : List CreateOrderItemInput) :
    (orderLines env tenantId currency clientGroupId subtotal items).Steady (Store.Beside rel) := by
  induction items generalizing subtotal with
  | nil => trivial
  | cons item items ih =>
    exact (steady_orderLine _ _ _ _ _).bind (fun line => (ih line.1).bind (fun _ => trivial))

theorem steady_loadStaffActor (userId : Id) : (loadStaffActor userId).Steady (Store.Beside rel) := by
  refine (Relation.steady_findUnique _).bind (fun user => ?_)
  cases user.filter StaffUser.isActive with
  | none => trivial
  | some user => exact steady_read (fun _ => rfl)

theorem steady_loadClientPortalActor (contactId : Id) :
    (loadClientPortalActor contactId).Steady (Store.Beside rel) :=
  (Relation.steady_findUnique _).bind (fun _ => trivial)

theorem steady_findPasswordToken (actorType : AuthActorType) (token : String) :
    (findPasswordToken env actorType token).Steady (Store.Beside rel) :=
  (Relation.steady_findFirst _).bind (fun _ => steady_orThrow _ _)

end Reads

section Logins

theorem steady_recordLoginAttempt (input : LoginAttempt) :
    (recordLoginAttempt env input).Steady (Store.Beside rel) :=
  (Relation.steady_create _).transaction.bind (fun _ => trivial)

theorem steady_failLogin (actorType : AuthActorType) (actorId : Option Id) (input : LoginInput)
    (email reason : String) : (failLogin env actorType actorId input email reason : Db α).Steady (Store.Beside rel) :=
  (steady_recordLoginAttempt _).bind (fun _ => trivial)

theorem steady_checkSecondFactor (input : StaffLoginInput) (email : String) (user : StaffUser) :
    (checkSecondFactor env input email user).Steady (Store.Beside rel) := by
  unfold checkSecondFactor
  split
  · cases input.totpToken.filter (fun t => t != "") with
    | none => trivial
    | some token =>
      refine (steady_lift _).bind (fun secret => ?_)
      unfold checkStaffCode
      split
      · trivial
      · exact steady_failLogin _ _ _ _ _
  · trivial

theorem steady_checkStaffPassword (input : StaffLoginInput) (email : String) (user : StaffUser) :
    (checkStaffPassword env input email user).Steady (Store.Beside rel) := by
  unfold checkStaffPassword
  split
  · refine (steady_checkSecondFactor _ _ _).bind (fun _ => (steady_recordLoginAttempt _).bind (fun _ => ?_))
    exact (Relation.steady_update _ _ _).transaction.bind (fun _ => trivial)
  · -- the events of logins are no logs: the lockout reads them
    refine Steady.bind (steady_read (fun _ => rfl)) (fun locked => Steady.bind ?_ (fun _ => steady_failLogin _ _ _ _ _))
    unfold lockStaffOut
    split
    · exact (Relation.steady_update _ _ _).transaction.bind (fun _ => trivial)
    · trivial

theorem steady_authenticateStaffUser (input : StaffLoginInput) :
    (authenticateStaffUser env input).Steady (Store.Beside rel) := by
  refine (Relation.steady_findFirst _).bind (fun found => ?_)
  cases found with
  | none => exact steady_failLogin _ _ _ _ _
  | some user =>
    simp only [checkStaffAccount]
    split
    · exact steady_failLogin _ _ _ _ _
    split
    · exact steady_failLogin _ _ _ _ _
    exact steady_checkStaffPassword _ _ _

theorem steady_checkContactPassword (input : LoginInput) (email : String) (contact : ClientContact) :
    (checkContactPassword env input email contact).Steady (Store.Beside rel) := by
  unfold checkContactPassword
  split
  · refine (steady_recordLoginAttempt _).bind (fun _ => Steady.bind (Steady.transaction ?_) (fun _ => trivial))
    refine (Relation.steady_update _ _ _).bind (fun _ => ?_)
    exact (Relation.steady_update _ _ _).bind (fun _ => trivial)
  · refine Steady.bind (steady_read (fun _ => rfl)) (fun locked => Steady.bind ?_ (fun _ => steady_failLogin _ _ _ _ _))
    unfold lockContactOut
    split
    · exact (Relation.steady_update _ _ _).transaction.bind (fun _ => trivial)
    · trivial

theorem steady_authenticateClientContact (input : LoginInput) :
    (authenticateClientContact env input).Steady (Store.Beside rel) := by
  refine (Relation.steady_findFirst _).bind (fun found => ?_)
  cases found with
  | none => exact steady_failLogin _ _ _ _ _
  | some contact =>
    refine (Relation.steady_findUniqueOrThrow _).bind (fun client => ?_)
    unfold checkContactAccount
    split
    · exact steady_failLogin _ _ _ _ _
    split
    · exact steady_failLogin _ _ _ _ _
    split
    · exact steady_failLogin _ _ _ _ _
    exact steady_checkContactPassword _ _ _

end Logins

section Sessions

theorem steady_createStaffSession (input : StaffSessionInput) :
    (createStaffSession env input).Steady (Store.Beside rel) :=
  (Relation.steady_create _).transaction.bind (fun _ => trivial)

theorem steady_createClientSession (input : ClientSessionInput) :
    (createClientSession env input).Steady (Store.Beside rel) :=
  (Relation.steady_create _).transaction.bind (fun _ => trivial)

theorem steady_validateStaffSession (token : String) :
    (validateStaffSession env token).Steady (Store.Beside rel) := by
  refine (Relation.steady_findFirst _).bind (fun session => ?_)
  cases session.filter (StaffSession.isLive env.now) with
  | none => trivial
  | some session =>
    exact (Relation.steady_update _ _ _).transaction.bind (fun _ => steady_loadStaffActor _)

theorem steady_validateClientSession (token : String) :
    (validateClientSession env token).Steady (Store.Beside rel) := by
  refine (Relation.steady_findFirst _).bind (fun session => ?_)
  cases session.filter (ClientSession.isLive env.now) with
  | none => trivial
  | some session =>
    refine (Relation.steady_update _ _ _).transaction.bind (fun _ => ?_)
    exact (steady_loadClientPortalActor _).bind (fun _ => trivial)

theorem steady_authorize (raw : Credentials) : (authorize env raw).Steady (Store.Beside rel) := by
  refine (steady_ensure _ _).bind (fun _ => (steady_getDefaultTenant env).bind (fun tenant => ?_))
  cases raw.actorType with
  | staff =>
    refine (steady_authenticateStaffUser _).bind (fun staff => ?_)
    exact (steady_createStaffSession _).bind (fun _ => trivial)
  | clientContact =>
    refine (steady_authenticateClientContact _).bind (fun contact => ?_)
    exact (steady_createClientSession _).bind (fun _ => trivial)

theorem steady_sessionCallback (session : WebSession) (token : Jwt) :
    (sessionCallback env session token).Steady (Store.Beside rel) := by
  unfold sessionCallback
  split
  · exact (steady_validateStaffSession _).bind (fun _ => trivial)
  · exact (steady_validateClientSession _).bind (fun _ => trivial)
  · trivial

end Sessions

theorem steady_consumeToken (record : PasswordResetToken) : (consumeToken env record).Steady (Store.Beside rel) :=
  (Relation.steady_update _ _ _).bind (fun _ => trivial)

theorem steady_setStaffPassword (token newPassword : String) :
    (setStaffPassword env token newPassword).Steady (Store.Beside rel) := by
  refine (steady_findPasswordToken _ _).bind (fun record => Steady.transaction ?_)
  exact (Relation.steady_update _ _ _).bind (fun _ => steady_consumeToken record)

theorem steady_setClientPassword (token newPassword : String) :
    (setClientPassword env token newPassword).Steady (Store.Beside rel) := by
  refine (steady_findPasswordToken _ _).bind (fun record => Steady.transaction ?_)
  exact (Relation.steady_update _ _ _).bind (fun _ => steady_consumeToken record)

theorem steady_confirmStaff2FAEnrollment (userId : Id) (secret token : String) :
    (confirmStaff2FAEnrollment env userId secret token).Steady (Store.Beside rel) := by
  refine (steady_ensure _ _).bind (fun _ => (steady_lift _).bind (fun encrypted => ?_))
  exact (Relation.steady_update _ _ _).transaction.bind (fun _ => trivial)

theorem steady_disableStaff2FA (userId : Id) : (disableStaff2FA env userId).Steady (Store.Beside rel) :=
  (Relation.steady_update _ _ _).transaction.bind (fun _ => trivial)

theorem steady_addClientNote (actor : StaffActor) (clientId : Id) (body : String) :
    (addClientNote env actor clientId body).Steady (Store.Beside rel) :=
  (steady_ensure _ _).bind (fun _ => (Relation.steady_create _).transaction.bind (fun _ => trivial))

section Setup

theorem steady_upsertPermissions (n : ℕ) (keys : List PermissionKey) :
    (upsertPermissions env n keys).Steady (Store.Beside rel) := by
  induction keys generalizing n with
  | nil => trivial
  | cons key keys ih => exact (Relation.steady_upsert _ _).transaction.bind (fun _ => ih (n + 1))

theorem steady_upsertRolePermissions (permissions : List Permission) (roleId : Id) (keys : List PermissionKey) :
    (upsertRolePermissions permissions roleId keys).Steady (Store.Beside rel) := by
  induction keys with
  | nil => trivial
  | cons key keys ih =>
    rw [upsertRolePermissions]
    cases permissionIdOf permissions key with
    | none => exact ih
    | some permissionId => exact (Relation.steady_upsert _ _).transaction.bind (fun _ => ih)

theorem steady_upsertRoles (tenantId : Id) (permissions : List Permission) (n : ℕ) (roleKeys : List StaffRoleKey) :
    (upsertRoles env tenantId permissions n roleKeys).Steady (Store.Beside rel) := by
  induction roleKeys generalizing n with
  | nil => trivial
  | cons roleKey roleKeys ih =>
    refine (Relation.steady_upsert _ _).transaction.bind (fun role => ?_)
    refine (steady_upsertRolePermissions _ _ _).bind (fun _ => ?_)
    exact (ih (n + 1)).bind (fun _ => trivial)

theorem steady_installRoles (tenantId : Id) : (installRoles env tenantId).Steady (Store.Beside rel) := by
  refine (steady_upsertPermissions _ _).bind (fun _ => Steady.bind (steady_read (fun _ => rfl)) (fun permissions => ?_))
  exact (steady_upsertRoles _ _ _ _).bind (fun _ => steady_orThrow _ _)

end Setup

include hrel

section Accounts

theorem steady_sendPasswordLink (token : PasswordResetToken) (mail : EmailLog) :
    (sendPasswordLink env token mail).Steady (Store.Beside rel) :=
  (Relation.steady_create _).transaction.bind (fun _ => steady_queueEmail hrel _ mail)

theorem steady_requestStaffPasswordReset (tenantId : Id) (email : String) :
    (requestStaffPasswordReset env tenantId email).Steady (Store.Beside rel) := by
  refine (Relation.steady_findFirst _).bind (fun found => ?_)
  cases found.filter StaffUser.isActive with
  | none => trivial
  | some user => exact steady_sendPasswordLink hrel _ _

theorem steady_requestClientPasswordReset (tenantId : Id) (email : String) :
    (requestClientPasswordReset env tenantId email).Steady (Store.Beside rel) := by
  refine (Relation.steady_findFirst _).bind (fun found => ?_)
  cases found.filter ClientContact.isActive with
  | none => trivial
  | some contact => exact steady_sendPasswordLink hrel _ _

theorem steady_createStaffUser (actor : StaffActor) (input : CreateStaffUserInput) :
    (createStaffUser env actor input).Steady (Store.Beside rel) := by
  refine (steady_ensure _ _).bind (fun _ => (Relation.steady_findFirst _).bind (fun found => ?_))
  refine (steady_orThrow _ _).bind (fun role => (Relation.steady_findFirst _).bind (fun existing => ?_))
  refine (steady_ensure _ _).bind (fun _ => Steady.bind (Steady.transaction ?_) (fun user => ?_))
  · exact (Relation.steady_create _).bind (fun _ => (steady_recordAuditLog hrel _).bind (fun _ => trivial))
  · exact (steady_sendPasswordLink hrel _ _).bind (fun _ => trivial)

theorem steady_disableStaffUser (actor : StaffActor) (targetUserId : Id) :
    (disableStaffUser env actor targetUserId).Steady (Store.Beside rel) := by
  refine (steady_ensure _ _).bind (fun _ => Steady.transaction ?_)
  refine (Relation.steady_update _ _ _).bind (fun target => (steady_recordAuditLog hrel _).bind (fun _ => ?_))
  exact Relation.steady_updateMany _ _ _

theorem steady_insertSuperAdmin (input : BootstrapInput) (tenantId : Id) (email : String) (roleId : Id) :
    (insertSuperAdmin env input tenantId email roleId).Steady (Store.Beside rel) := by
  refine Steady.bind (steady_read (fun _ => rfl)) (fun _ => (steady_ensure _ _).bind (fun _ => ?_))
  exact (Relation.steady_create _).bind (fun _ => (steady_recordAuditLog hrel _).bind (fun _ => trivial))

theorem steady_bootstrapSuperAdmin (input : BootstrapInput) :
    (bootstrapSuperAdmin env input).Steady (Store.Beside rel) := by
  refine (steady_ensure _ _).bind (fun _ => (Relation.steady_upsert _ _).transaction.bind (fun tenant => ?_))
  refine Steady.bind (Steady.bind (steady_read (fun _ => rfl)) (fun _ => steady_ensure _ _)) (fun _ => ?_)
  refine (steady_installRoles _).bind (fun roleId => ?_)
  exact (steady_insertSuperAdmin hrel _ _ _ _).transaction.bind (fun _ => trivial)

end Accounts

section Clients

theorem steady_transitionClientStatus (clientId : Id) (toStatus : ClientStatus) (actor : TransitionActor)
    (reason : Option String) : (transitionClientStatus env clientId toStatus actor reason).Steady (Store.Beside rel) := by
  refine (Relation.steady_findUniqueOrThrow _).bind (fun client => (steady_ensure _ _).bind (fun _ => ?_))
  refine (Relation.steady_update _ _ _).bind (fun updated => ?_)
  exact (steady_recordStatusTransition hrel _).bind (fun _ => trivial)

theorem steady_registerClient (input : RegisterClientInput) :
    (registerClient env input).Steady (Store.Beside rel) := by
  refine (Relation.steady_findFirst _).bind (fun _ => (Relation.steady_findFirst _).bind (fun _ => ?_))
  refine (steady_ensure _ _).bind (fun _ => Steady.bind (Steady.transaction ?_) (fun created => Steady.bind ?_ ?_))
  · refine (Relation.steady_create _).bind (fun client => (Relation.steady_create _).bind (fun contact => ?_))
    refine (steady_recordStatusTransition hrel _).bind (fun _ => ?_)
    exact (steady_recordAuditLog hrel _).bind (fun _ => trivial)
  · exact (Relation.steady_create _).transaction.bind (fun _ => steady_queueEmail hrel _ _)
  · exact fun _ => trivial

theorem steady_verifyClientEmail (token : String) : (verifyClientEmail env token).Steady (Store.Beside rel) := by
  refine (Relation.steady_findFirst _).bind (fun found => (steady_orThrow _ _).bind (fun record => ?_))
  refine (Relation.steady_findUniqueOrThrow _).bind (fun contact => ?_)
  refine Steady.bind (Steady.transaction ?_) (fun _ => steady_queueEmail hrel _ _)
  refine (Relation.steady_update _ _ _).bind (fun _ => (Relation.steady_update _ _ _).bind (fun _ => ?_))
  refine (Relation.steady_findUniqueOrThrow _).bind (fun client => ?_)
  unfold verifyPending
  split
  · refine (steady_transitionClientStatus hrel _ _ _ _).bind (fun _ => ?_)
    exact (Relation.steady_update _ _ _).bind (fun _ => trivial)
  · trivial

theorem steady_changeClientStatus (actor : StaffActor) (clientId : Id) (toStatus : ClientStatus) (reason : String) :
    (changeClientStatus env actor clientId toStatus reason).Steady (Store.Beside rel) := by
  refine (steady_ensure _ _).bind (fun _ => Steady.transaction ?_)
  exact (steady_transitionClientStatus hrel _ _ _ _).bind (fun _ => steady_recordAuditLog hrel _)

theorem steady_updateClientProfile (actor : Actor) (clientId : Id) (patch : ProfilePatch) :
    (updateClientProfile env actor clientId patch).Steady (Store.Beside rel) := by
  refine Steady.bind (by cases actor <;> exact steady_ensure _ _) (fun _ => Steady.transaction ?_)
  refine (Relation.steady_findUniqueOrThrow _).bind (fun before => ?_)
  exact (Relation.steady_update _ _ _).bind (fun _ => steady_recordAuditLog hrel _)

end Clients

section Catalog

theorem steady_setSetting (actor : StaffActor) (key : String) (value : JsonObject) :
    (setSetting env actor key value).Steady (Store.Beside rel) := by
  refine (steady_ensure _ _).bind (fun _ => Steady.transaction ?_)
  refine (Relation.steady_findUnique _).bind (fun before => ?_)
  exact (Relation.steady_upsertSet _ _ _ _).bind (fun _ => steady_recordAuditLog hrel _)

theorem steady_createProductGroup (actor : StaffActor) (input : ProductGroupInput) :
    (createProductGroup env actor input).Steady (Store.Beside rel) := by
  refine (steady_ensure _ _).bind (fun _ => Steady.transaction ((steady_lift _).bind (fun sortOrder => ?_)))
  exact (Relation.steady_create _).bind (fun _ => (steady_recordAuditLog hrel _).bind (fun _ => trivial))

theorem steady_createProduct (actor : StaffActor) (input : ProductInput) :
    (createProduct env actor input).Steady (Store.Beside rel) := by
  refine (steady_ensure _ _).bind (fun _ => Steady.transaction ?_)
  refine (steady_lift _).bind (fun stockLimit => (steady_lift _).bind (fun sortOrder => ?_))
  exact (Relation.steady_create _).bind (fun _ => (steady_recordAuditLog hrel _).bind (fun _ => trivial))

theorem steady_setProductPrice (actor : StaffActor) (input : SetProductPriceInput) :
    (setProductPrice env actor input).Steady (Store.Beside rel) := by
  refine (steady_ensure _ _).bind (fun _ => Steady.transaction ?_)
  refine (steady_findLatestPrice _).bind (fun previous => Steady.bind ?_ (fun _ => ?_))
  · cases previous with
    | none => trivial
    | some r => exact (Relation.steady_update _ _ _).bind (fun _ => trivial)
  refine (steady_lift _).bind (fun price => (steady_lift _).bind (fun setupFee => ?_))
  exact (Relation.steady_create _).bind (fun _ => (steady_recordAuditLog hrel _).bind (fun _ => trivial))

end Catalog

section Billing

theorem steady_transitionOrderStatus (orderId : Id) (toStatus : OrderStatus) (actor : TransitionActor)
    (reason : Option String) : (transitionOrderStatus orderId toStatus actor reason).Steady (Store.Beside rel) := by
  refine (Relation.steady_findUniqueOrThrow _).bind (fun order => (steady_ensure _ _).bind (fun _ => ?_))
  refine (Relation.steady_update _ _ _).bind (fun updated => ?_)
  refine (steady_recordStatusTransition hrel _).bind (fun _ => Steady.bind ?_ (fun _ => trivial))
  exact steady_whenTruthy (fun _ => steady_recordAuditLog hrel _)

theorem steady_insertOrder (actor : Actor) (input : CreateOrderInput) (client : Client) :
    (insertOrder env actor input client).Steady (Store.Beside rel) := by
  refine (steady_lift _).bind (fun start => (steady_orderLines _ _ _ _ _).bind (fun lines => ?_))
  refine (steady_nextSequenceNumber _ _ _).bind (fun orderNumber => (steady_lift _).bind (fun items => ?_))
  refine (steady_lift _).bind (fun subtotal => (steady_lift _).bind (fun total => ?_))
  refine (Relation.steady_create _).bind (fun order => (steady_recordStatusTransition hrel _).bind (fun _ => ?_))
  exact (steady_recordAuditLog hrel _).bind (fun _ => trivial)

theorem steady_createOrder (actor : Actor) (input : CreateOrderInput) :
    (createOrder env actor input).Steady (Store.Beside rel) := by
  refine Steady.bind (by cases actor <;> exact steady_ensure _ _) (fun _ => (steady_ensure _ _).bind (fun _ => ?_))
  refine (Relation.steady_findFirst _).bind (fun existing => ?_)
  cases existing with
  | some order => trivial
  | none =>
    refine (Relation.steady_findUniqueOrThrow _).bind (fun client => ?_)
    exact (steady_insertOrder hrel _ _ _).transaction

theorem steady_issueInvoiceForOrder (order : Order) (actor : TransitionActor) :
    (issueInvoiceForOrder env order actor).Steady (Store.Beside rel) := by
  refine Steady.transaction ((Relation.steady_findUniqueOrThrow _).bind (fun client => ?_))
  refine (steady_getCompanyProfile _).bind (fun company => (steady_nextSequenceNumber _ _ _).bind (fun number => ?_))
  refine (steady_lift _).bind (fun items => (Relation.steady_create _).bind (fun invoice => ?_))
  refine (steady_recordStatusTransition hrel _).bind (fun _ => (steady_recordAuditLog hrel _).bind (fun _ => ?_))
  refine Steady.bind ?_ (fun _ => trivial)
  unfold awaitPayment
  split
  · exact (steady_transitionOrderStatus hrel _ _ _ _).bind (fun _ => trivial)
  · trivial

theorem steady_settleOrder (actor : StaffActor) (invoice : Invoice) (nextStatus : InvoiceStatus) :
    (settleOrder actor invoice nextStatus).Steady (Store.Beside rel) := by
  unfold settleOrder
  split
  · exact steady_whenTruthy (fun _ => (steady_transitionOrderStatus hrel _ _ _ _).bind (fun _ => trivial))
  · trivial

theorem steady_markInvoicePaidManually (actor : StaffActor) (invoiceId : Id) (input : PaymentInput) :
    (markInvoicePaidManually env actor invoiceId input).Steady (Store.Beside rel) := by
  refine (steady_ensure _ _).bind (fun _ => (steady_lift _).bind (fun amount => Steady.transaction ?_))
  refine (Relation.steady_findUniqueOrThrow _).bind (fun invoice => (steady_ensure _ _).bind (fun _ => ?_))
  refine (steady_lift _).bind (fun currentPaid => (steady_lift _).bind (fun payment => ?_))
  refine (steady_lift _).bind (fun newPaid => (steady_lift _).bind (fun total => (steady_ensure _ _).bind (fun _ => ?_)))
  refine (steady_lift _).bind (fun paid => (steady_lift _).bind (fun due => ?_))
  refine (Relation.steady_update _ _ _).bind (fun updated => (steady_recordStatusTransition hrel _).bind (fun _ => ?_))
  refine (steady_recordAuditLog hrel _).bind (fun _ => ?_)
  exact (steady_settleOrder hrel _ _ _).bind (fun _ => trivial)

theorem steady_transitionInvoiceStatus (invoiceId : Id) (toStatus : InvoiceStatus) (actor : TransitionActor)
    (reason : Option String) :
    (transitionInvoiceStatus invoiceId toStatus actor reason).Steady (Store.Beside rel) := by
  refine (Relation.steady_findUniqueOrThrow _).bind (fun invoice => (steady_ensure _ _).bind (fun _ => ?_))
  refine (Relation.steady_update _ _ _).bind (fun updated => ?_)
  exact (steady_recordStatusTransition hrel _).bind (fun _ => trivial)

theorem steady_cancelInvoice (actor : StaffActor) (invoiceId : Id) (reason : String) :
    (cancelInvoice actor invoiceId reason).Steady (Store.Beside rel) := by
  refine (steady_ensure _ _).bind (fun _ => Steady.transaction ?_)
  refine (steady_transitionInvoiceStatus hrel _ _ _ _).bind (fun updated => ?_)
  exact (steady_recordAuditLog hrel _).bind (fun _ => trivial)

end Billing

theorem AccessCall.steady_program (call : AccessCall) : call.program.Steady (Store.Beside rel) := by
  obtain ⟨env, op⟩ := call
  cases op with
  | createStaffSession input => exact (steady_createStaffSession _).map _
  | validateStaffSession token => exact (steady_validateStaffSession _).map _
  | revokeStaffSession token reason => exact (Relation.steady_updateMany _ _ _).transaction.map _
  | createClientSession input => exact (steady_createClientSession _).map _
  | validateClientSession token => exact (steady_validateClientSession _).map _
  | revokeClientSession token reason => exact (Relation.steady_updateMany _ _ _).transaction.map _
  | authenticateStaffUser input => exact (steady_authenticateStaffUser _).map _
  | createStaffUser actor input => exact (steady_createStaffUser hrel _ _).map _
  | disableStaffUser actor targetUserId => exact (steady_disableStaffUser hrel _ _).map _
  | setStaffPassword token newPassword => exact (steady_setStaffPassword _ _).map _
  | requestStaffPasswordReset tenantId email => exact (steady_requestStaffPasswordReset hrel _ _).map _
  | confirmStaff2FAEnrollment userId secret token => exact (steady_confirmStaff2FAEnrollment _ _ _).map _
  | disableStaff2FA userId => exact (steady_disableStaff2FA _).map _
  | authenticateClientContact input => exact (steady_authenticateClientContact _).map _
  | setClientPassword token newPassword => exact (steady_setClientPassword _ _).map _
  | requestClientPasswordReset tenantId email => exact (steady_requestClientPasswordReset hrel _ _).map _
  | registerClient input => exact (steady_registerClient hrel _).map _
  | verifyClientEmail token => exact (steady_verifyClientEmail hrel _).map _
  | addClientNote actor clientId body => exact (steady_addClientNote _ _ _).map _
  | changeClientStatus actor clientId toStatus reason => exact (steady_changeClientStatus hrel _ _ _ _).map _
  | updateClientProfile actor clientId patch => exact (steady_updateClientProfile hrel _ _ _).map _
  | authorize raw => exact (steady_authorize _).map _
  | sessionCallback session token => exact (steady_sessionCallback _ _).map _
  | logoutAction cookie | staffLogoutAction cookie => trivial

end Services

theorem ExportedCall.steady_reply {rel : LogTables → LogTables → Prop} (hrel : KeptByLogging rel)
    (call : ExportedCall) : call.reply.Steady (Store.Beside rel) := by
  cases call with
  | access call => exact (call.steady_program hrel).map _
  | recordLoginAttempt env input => exact (steady_recordLoginAttempt _).map _
  | bootstrapSuperAdmin env input => exact (steady_bootstrapSuperAdmin hrel _).map _
  | setSetting env actor key value => exact (steady_setSetting hrel _ _ _).map _
  | createProductGroup env actor input => exact (steady_createProductGroup hrel _ _).map _
  | createProduct env actor input => exact (steady_createProduct hrel _ _).map _
  | setProductPrice env actor input => exact (steady_setProductPrice hrel _ _).map _
  | nextSequenceNumber tenantId key options => exact (steady_nextSequenceNumber _ _ _).transaction.map _
  | createOrder env actor input => exact (steady_createOrder hrel _ _).map _
  | transitionOrderStatus orderId toStatus actor reason =>
    exact (steady_transitionOrderStatus hrel _ _ _ _).transaction.map _
  | issueInvoiceForOrder env order actor => exact (steady_issueInvoiceForOrder hrel _ _).map _
  | markInvoicePaidManually env actor invoiceId input => exact (steady_markInvoicePaidManually hrel _ _ _).map _
  | cancelInvoice actor invoiceId reason => exact (steady_cancelInvoice hrel _ _ _).map _

/-- Services started side by side. -/
def exportedRun (s : Store) (calls : ι → ExportedCall) : Config ι Store Lock Failure ExportedReply :=
  .start s (fun i => (calls i).reply)

section Runs

variable [Fintype ι] [DecidableEq ι] (calls : ι → ExportedCall) (s : Store)

theorem alike_disturbed {events : List (Config.Incident ι Store Failure)}
    (houtside : ∀ f, .outside f ∈ events → ∀ t : Store, (f t).unlogged = t.unlogged) :
    Config.Alike (Store.Beside (fun _ _ => True)) (runFrom Config.happen (exportedRun s calls) events)
      ((exportedRun s calls).run (events.filterMap Config.Incident.move?)) := by
  have hrel : KeptByLogging (fun _ _ => True) := fun _ _ _ h => h
  have hstart : Config.Alike (Store.Beside (fun _ _ => True)) (exportedRun s calls) (exportedRun s calls) :=
    Config.alike_start ⟨rfl, trivial⟩ (fun i => (calls i).steady_reply hrel)
  exact hstart.disturbed (fun f hf t u h => ⟨(houtside f hf t).trans h.unlogged, trivial⟩)

/-- Started with `l` in the logs, the services end with `l` and the rows that
they add to empty logs. -/
theorem db_withLogs (l : LogTables) (schedule : List (ι × Move Failure)) :
    ((exportedRun (s.withLogs l) calls).run schedule).db =
      ((exportedRun s.unlogged calls).run schedule).db.withLogs
        (l ++ ((exportedRun s.unlogged calls).run schedule).db.logs) := by
  have hrel : KeptByLogging (fun m m' => m' = l ++ m) := by
    rintro m m' rows rfl
    exact LogTables.append_assoc l m rows
  have hstart : Config.Alike (Store.Beside (fun m m' => m' = l ++ m)) (exportedRun s.unlogged calls)
      (exportedRun (s.withLogs l) calls) :=
    Config.alike_start ⟨rfl, (LogTables.append_empty l).symm⟩ (fun i => (calls i).steady_reply hrel)
  have hend := (hstart.run schedule).db
  rw [← hend.logs]
  exact Store.eq_withLogs hend.unlogged.symm

/-- No service reads the logs, and rows are only added to them: the same rows,
whatever is there. -/
theorem logs_write_only (events : List (Config.Incident ι Store Failure))
    (houtside : ∀ f, .outside f ∈ events → ∀ t : Store, (f t).unlogged = t.unlogged) :
    let schedule := events.filterMap Config.Incident.move?
    let disturbed := runFrom Config.happen (exportedRun s calls) events
    let quiet := (exportedRun s calls).run schedule
    (∀ i, (disturbed.tasks i).code = (quiet.tasks i).code) ∧ disturbed.db.unlogged = quiet.db.unlogged ∧
      ∃ rows, quiet.db.logs = s.logs ++ rows ∧
        ∀ l, ((exportedRun (s.withLogs l) calls).run schedule).db = quiet.db.withLogs (l ++ rows) := by
  have halike := alike_disturbed calls s houtside
  refine ⟨fun i => (halike.tasks i).code, halike.db.unlogged, ?_⟩
  have hquiet := db_withLogs calls s s.logs (events.filterMap Config.Incident.move?)
  have hlogs := congrArg Store.logs hquiet
  refine ⟨_, hlogs, fun l => ?_⟩
  rw [db_withLogs calls s l]
  exact (congrArg (fun u : Store => u.withLogs _) hquiet).symm

end Runs

namespace Sample

/-- One call suspends the client, the other reactivates it. -/
def suspendAndReactivate (second : Bool) : ExportedCall :=
  .access ⟨env "review", .changeClientStatus staff "client" (if second then .active else .suspended) "review"⟩

/-- The logs are emptied between the two calls. -/
def pruning : List (Config.Incident Bool Store Failure) :=
  List.replicate 5 (.move false .advance) ++ [.outside Store.unlogged] ++ List.replicate 5 (.move true .advance)

end Sample

open Sample in
theorem logs_write_only_pruned :
    let disturbed := runFrom Config.happen (exportedRun (shop 0) suspendAndReactivate) pruning
    let quiet := (exportedRun (shop 0) suspendAndReactivate).run (pruning.filterMap Config.Incident.move?)
    disturbed.db.auditLogs.length = 1 ∧ quiet.db.auditLogs.length = 2 ∧
      (disturbed.db.clients.find "client").map Client.status = some .active ∧
      disturbed.db.unlogged = quiet.db.unlogged := by
  have houtside : ∀ f, .outside f ∈ pruning → ∀ t : Store, (f t).unlogged = t.unlogged := by
    intro f hf t
    have hprune : f = Store.unlogged := by simpa [pruning] using hf
    rw [hprune]
    rfl
  refine ⟨by decide +kernel, by decide +kernel, by decide +kernel, ?_⟩
  exact (logs_write_only suspendAndReactivate (shop 0) pruning houtside).2.1

end HostPanel.Model
