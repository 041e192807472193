import HostPanel.Concurrency.ResetLinks
import HostPanel.Web.Services

namespace HostPanel.Model

open HostPanel.Lib HostPanel.Lib.Program

/-- What a relation must keep for the services of accounts, catalog and settings
to keep it, where they leave the links to new passwords alone. -/
structure KeptByServices (rel : Store → Store → Prop) : Prop where
  trans : ∀ s t u, rel s t → rel t u → rel s u
  setup : KeptBySetup rel
  events : KeptByEvents rel
  clients : KeptByClients rel
  mail : ∀ (t : Store) rows, rel t { t with emailLogs := rows }
  staffUser : KeptByStaff rel
  contact : KeptByContacts rel
  newStaffSession : ∀ row t, rel t (prisma.staffSession.insert row t)
  staffSession : ∀ i at_ t, rel t (prisma.staffSession.modify i (fun r => { r with lastSeenAt := at_ }) (fun _ => rfl) t)
  newClientSession : ∀ row t, rel t (prisma.clientSession.insert row t)
  clientSession : ∀ i at_ t, rel t (prisma.clientSession.modify i (fun r => { r with lastSeenAt := at_ }) (fun _ => rfl) t)
  productGroup : ∀ row t, rel t (prisma.productGroup.insert row t)
  product : ∀ row t, rel t (prisma.product.insert row t)
  newSetting : ∀ row t, rel t (prisma.systemSetting.insert row t)
  setting : ∀ i f hf t, rel t (prisma.systemSetting.modify i f hf t)

/-- What a relation must keep for the services that make links to new passwords to
keep it, too. -/
structure KeptByRequests (rel : Store → Store → Prop) : Prop extends KeptByServices rel where
  newLink : ∀ row t, rel t (prisma.passwordResetToken.insert row t)

/-- What a relation must keep for the services that set passwords to keep it, too. -/
structure KeptByLinks (rel : Store → Store → Prop) : Prop extends KeptByRequests rel where
  staffPassword : ∀ i hash at_ t, rel t (prisma.staffUser.modify i
    (fun r => { r with passwordHash := hash, mustChangePassword := false, updatedAt := at_ }) (fun _ => rfl) t)
  contactPassword : ∀ i hash t, rel t (prisma.clientContact.modify i
    (fun r => { r with passwordHash := hash }) (fun _ => rfl) t)
  link : ∀ i at_ t, rel t (prisma.passwordResetToken.modify i (fun r => { r with consumedAt := some at_ }) (fun _ => rfl) t)

/-- The call makes or uses a link to a new password. -/
def ServiceCall.handlesLinks : ServiceCall → Bool
  | requestStaffPasswordReset .. | requestClientPasswordReset .. | setStaffPassword .. | setClientPassword ..
  | createStaffUser .. => true
  | _ => false

/-- The password that a call sets. -/
def ServiceCall.password? : ServiceCall → Option PasswordCall
  | setStaffPassword env token newPassword => some ⟨env, .staff, token, newPassword⟩
  | setClientPassword env token newPassword => some ⟨env, .clientContact, token, newPassword⟩
  | _ => none

namespace KeptByServices

variable {rel : Store → Store → Prop} (h : KeptByServices rel) {env : Env}

include h

theorem of_guarantees {α : Type} {p : Db α} (hp : p.Guarantees rel) (s : Store) : rel s (p.after s) :=
  after_of_guarantees h.setup.refl h.trans hp s

theorem recordAuditLog (row : AuditLog) : (recordAuditLog row).Guarantees rel :=
  guarantees_recordAuditLog row (h.setup.auditLog row)

theorem queueEmail (row : EmailLog) : (queueEmail env row).Guarantees rel := by
  refine Guarantees.bind (Guarantees.transaction ⟨?_, fun _ => trivial⟩) (fun _ => guarantees_ensure _ _)
  intro v eff heff
  obtain rfl := effect_of_appendLog heff
  exact fun t => h.mail t _

theorem authenticateStaffUser (input : StaffLoginInput) : (authenticateStaffUser env input).Guarantees rel :=
  guarantees_authenticateStaffUser h.events h.staffUser input

theorem authenticateClientContact (input : LoginInput) : (authenticateClientContact env input).Guarantees rel :=
  guarantees_authenticateClientContact h.events h.contact h.clients input

theorem validateStaffSession (token : String) : (validateStaffSession env token).Guarantees rel := by
  refine (Relation.guarantees_findFirst _).bind (fun session => ?_)
  cases session.filter (StaffSession.isLive env.now) with
  | none => trivial
  | some session =>
    refine Guarantees.bind (Guarantees.transaction ?_) (fun _ => guarantees_loadStaffActor _)
    exact Relation.guarantees_update _ _ _ (h.staffSession _ _)

theorem validateClientSession (token : String) : (validateClientSession env token).Guarantees rel := by
  refine (Relation.guarantees_findFirst _).bind (fun session => ?_)
  cases session.filter (ClientSession.isLive env.now) with
  | none => trivial
  | some session =>
    refine Guarantees.bind (Guarantees.transaction ?_) (fun _ => ?_)
    · exact Relation.guarantees_update _ _ _ (h.clientSession _ _)
    · exact Guarantees.bind ((Relation.guarantees_findUnique _).bind (fun _ => trivial)) (fun _ => trivial)

theorem createStaffSession (input : StaffSessionInput) : (createStaffSession env input).Guarantees rel :=
  (Relation.guarantees_create _ (h.newStaffSession _)).transaction.bind (fun _ => trivial)

theorem createClientSession (input : ClientSessionInput) : (createClientSession env input).Guarantees rel :=
  (Relation.guarantees_create _ (h.newClientSession _)).transaction.bind (fun _ => trivial)

theorem createProductGroup (actor : StaffActor) (input : ProductGroupInput) :
    (createProductGroup env actor input).Guarantees rel := by
  refine (guarantees_requirePermission _ _).bind (fun _ => Guarantees.transaction ?_)
  refine (guarantees_lift _).bind (fun sortOrder => ?_)
  refine (Relation.guarantees_create _ (h.productGroup _)).bind (fun group => ?_)
  exact (h.recordAuditLog _).bind (fun _ => trivial)

theorem createProduct (actor : StaffActor) (input : ProductInput) : (createProduct env actor input).Guarantees rel := by
  refine (guarantees_requirePermission _ _).bind (fun _ => Guarantees.transaction ?_)
  refine (guarantees_lift _).bind (fun stockLimit => (guarantees_lift _).bind (fun sortOrder => ?_))
  refine (Relation.guarantees_create _ (h.product _)).bind (fun product => ?_)
  exact (h.recordAuditLog _).bind (fun _ => trivial)

theorem setSetting (actor : StaffActor) (key : String) (value : JsonObject) :
    (setSetting env actor key value).Guarantees rel := by
  refine (guarantees_requirePermission _ _).bind (fun _ => Guarantees.transaction ?_)
  refine (Relation.guarantees_findUnique _).bind (fun before => Guarantees.bind ?_ (fun after => h.recordAuditLog _))
  exact Relation.guarantees_upsertSet _ _ _ _ (h.setting _ _ _) (h.newSetting _)

/-- The services of accounts, catalog and settings. -/
theorem serviceCall (call : ServiceCall) (s : Store) :
    (∃ c, call = .books c) ∨ call.handlesLinks = true ∨ rel s (call.after s) := by
  cases call with
  | books c => exact Or.inl ⟨c, rfl⟩
  | validateStaffSession env token => exact Or.inr (Or.inr (h.of_guarantees (h.validateStaffSession token) s))
  | validateClientSession env token => exact Or.inr (Or.inr (h.of_guarantees (h.validateClientSession token) s))
  | authenticateStaffUser env input => exact Or.inr (Or.inr (h.of_guarantees (h.authenticateStaffUser input) s))
  | authenticateClientContact env input => exact Or.inr (Or.inr (h.of_guarantees (h.authenticateClientContact input) s))
  | createStaffSession env input => exact Or.inr (Or.inr (h.of_guarantees (h.createStaffSession input) s))
  | createClientSession env input => exact Or.inr (Or.inr (h.of_guarantees (h.createClientSession input) s))
  | createProductGroup env actor input => exact Or.inr (Or.inr (h.of_guarantees (h.createProductGroup actor input) s))
  | createProduct env actor input => exact Or.inr (Or.inr (h.of_guarantees (h.createProduct actor input) s))
  | setSetting env actor key value => exact Or.inr (Or.inr (h.of_guarantees (h.setSetting actor key value) s))
  | bootstrapSuperAdmin env input => exact Or.inr (Or.inr (h.of_guarantees (h.setup.bootstrapSuperAdmin input) s))
  | _ => exact Or.inr (Or.inl rfl)

end KeptByServices

namespace KeptByRequests

variable {rel : Store → Store → Prop} (h : KeptByRequests rel) {env : Env}

include h

theorem sendPasswordLink (token : PasswordResetToken) (mail : EmailLog) :
    (sendPasswordLink env token mail).Guarantees rel :=
  (Relation.guarantees_create _ (h.newLink _)).transaction.bind (fun _ => h.queueEmail mail)

theorem requestStaffPasswordReset (tenantId : Id) (email : String) :
    (requestStaffPasswordReset env tenantId email).Guarantees rel := by
  refine (Relation.guarantees_findFirst _).bind (fun found => ?_)
  cases found.filter StaffUser.isActive with
  | none => trivial
  | some user => exact h.sendPasswordLink _ _

theorem requestClientPasswordReset (tenantId : Id) (email : String) :
    (requestClientPasswordReset env tenantId email).Guarantees rel := by
  refine (Relation.guarantees_findFirst _).bind (fun found => ?_)
  cases found.filter ClientContact.isActive with
  | none => trivial
  | some contact => exact h.sendPasswordLink _ _

theorem createStaffUser (actor : StaffActor) (input : CreateStaffUserInput) :
    (createStaffUser env actor input).Guarantees rel := by
  refine (guarantees_requirePermission _ _).bind (fun _ => (Relation.guarantees_findFirst _).bind (fun found => ?_))
  refine (guarantees_orThrow _ _).bind (fun role => (Relation.guarantees_findFirst _).bind (fun existing => ?_))
  refine (guarantees_ensure _ _).bind (fun _ => Guarantees.bind (Guarantees.transaction ?_) (fun user => ?_))
  · refine (Relation.guarantees_create _ (h.setup.staffUser _)).bind (fun created => ?_)
    exact (h.recordAuditLog _).bind (fun _ => trivial)
  · exact (h.sendPasswordLink _ _).bind (fun _ => trivial)

/-- All services but those of the books, and of new passwords. -/
theorem serviceCall (call : ServiceCall) (s : Store) :
    (∃ c, call = .books c) ∨ (∃ pc, call.password? = some pc) ∨ rel s (call.after s) := by
  obtain hbooks | hlinks | hkept := h.toKeptByServices.serviceCall call s
  · exact Or.inl hbooks
  · refine Or.inr ?_
    cases call with
    | requestStaffPasswordReset env tenantId email =>
      exact Or.inr (h.of_guarantees (h.requestStaffPasswordReset tenantId email) s)
    | requestClientPasswordReset env tenantId email =>
      exact Or.inr (h.of_guarantees (h.requestClientPasswordReset tenantId email) s)
    | createStaffUser env actor input =>
      exact Or.inr (h.of_guarantees (h.createStaffUser actor input) s)
    | setStaffPassword env token newPassword => exact Or.inl ⟨_, rfl⟩
    | setClientPassword env token newPassword => exact Or.inl ⟨_, rfl⟩
    | _ => cases hlinks
  · exact Or.inr (Or.inr hkept)

end KeptByRequests

namespace KeptByLinks

variable {rel : Store → Store → Prop} (h : KeptByLinks rel) {env : Env}

include h

theorem consumeToken (record : PasswordResetToken) : (consumeToken env record).Guarantees rel :=
  (Relation.guarantees_update _ _ _ (h.link _ _)).bind (fun _ => trivial)

theorem setStaffPassword (token newPassword : String) : (setStaffPassword env token newPassword).Guarantees rel := by
  refine (guarantees_findPasswordToken _ _).bind (fun record => Guarantees.transaction ?_)
  exact (Relation.guarantees_update _ _ _ (h.staffPassword _ _ _)).bind (fun _ => h.consumeToken record)

theorem setClientPassword (token newPassword : String) : (setClientPassword env token newPassword).Guarantees rel := by
  refine (guarantees_findPasswordToken _ _).bind (fun record => Guarantees.transaction ?_)
  exact (Relation.guarantees_update _ _ _ (h.contactPassword _ _)).bind (fun _ => h.consumeToken record)

theorem anyServiceCall (call : ServiceCall) (s : Store) : (∃ c, call = .books c) ∨ rel s (call.after s) := by
  obtain hbooks | ⟨pc, hpassword⟩ | hkept := h.serviceCall call s
  · exact Or.inl hbooks
  · refine Or.inr ?_
    cases call with
    | setStaffPassword env token newPassword => exact h.of_guarantees (h.setStaffPassword token newPassword) s
    | setClientPassword env token newPassword => exact h.of_guarantees (h.setClientPassword token newPassword) s
    | _ => cases hpassword
  · exact Or.inr hkept

end KeptByLinks

/-- The accounts, the sessions and the links to new passwords. -/
def Store.keyring (s : Store) :
    Table StaffUser.id × Table StaffSession.id × Table ClientContact.id × Table ClientSession.id ×
      Table PasswordResetToken.id :=
  (s.staffUsers, s.staffSessions, s.clientContacts, s.clientSessions, s.passwordResetTokens)

/-- What a relation must keep for the calls of the books to keep it, where they
disable no account. -/
structure KeptByCalls (rel : Store → Store → Prop) : Prop where
  trans : ∀ s t u, rel s t → rel t u → rel s u
  keyring : ∀ s t : Store, t.keyring = s.keyring → rel s t
  verified : ∀ i at_ t, rel t (prisma.clientContact.modify i
    (fun r => { r with emailVerifiedAt := some at_ }) (fun _ => rfl) t)
  newContact : ∀ row t, rel t (prisma.clientContact.insert row t)

namespace KeptByCalls

variable {rel : Store → Store → Prop} (h : KeptByCalls rel) {env : Env}

include h

theorem of_guarantees {α : Type} {p : Db α} (hp : p.Guarantees rel) (s : Store) : rel s (p.after s) :=
  after_of_guarantees (fun t => h.keyring t t rfl) h.trans hp s

theorem of_unbilled {s t : Store} (ht : t.unbilled = s.unbilled) : rel s t := by
  have hkeyring : t.unbilled.keyring = s.unbilled.keyring := congrArg Store.keyring ht
  exact h.keyring s t hkeyring

theorem recordAuditLog (row : AuditLog) : (recordAuditLog row).Guarantees rel :=
  guarantees_recordAuditLog row (fun t => h.keyring t _ rfl)

theorem recordStatusTransition (row : StatusHistory) : (recordStatusTransition row).Guarantees rel :=
  guarantees_recordStatusTransition row (fun t => h.keyring t _ rfl)

theorem updateClient (i : Id) (f : Client → Client) (hf : ∀ r, (f r).id = r.id) :
    (prisma.client.update i f hf).Guarantees rel :=
  Relation.guarantees_update _ _ _ (fun t => h.keyring t _ rfl)

theorem registerClient (input : RegisterClientInput) : (registerClient env input).Guarantees rel := by
  refine (Relation.guarantees_findFirst _).bind (fun _ => (Relation.guarantees_findFirst _).bind (fun _ => ?_))
  refine (guarantees_ensure _ _).bind (fun _ => Guarantees.bind (Guarantees.transaction ?_) (fun ids => ?_))
  · refine (Relation.guarantees_create _ (fun t => h.keyring t _ rfl)).bind (fun client => ?_)
    refine (Relation.guarantees_create _ (h.newContact _)).bind (fun contact => ?_)
    exact (h.recordStatusTransition _).bind (fun _ => (h.recordAuditLog _).bind (fun _ => trivial))
  · have hleaves : (sendVerification env input (normalizeEmail input.email) ids.2).Leaves Store.keyring :=
      leaves_sendVerification env input _ _ (fun _ _ => rfl) (fun _ _ => rfl)
    exact (hleaves.guarantees h.keyring).bind (fun _ => trivial)

theorem transitionClientStatus (clientId : Id) (toStatus : ClientStatus) (actor : TransitionActor)
    (reason : Option String) : (transitionClientStatus env clientId toStatus actor reason).Guarantees rel := by
  refine (Relation.guarantees_findUniqueOrThrow _).bind (fun _ => (guarantees_ensure _ _).bind (fun _ => ?_))
  exact (h.updateClient _ _ _).bind (fun _ => (h.recordStatusTransition _).bind (fun _ => trivial))

theorem verifyClientEmail (token : String) : (verifyClientEmail env token).Guarantees rel := by
  refine (Relation.guarantees_findFirst _).bind (fun found => (guarantees_orThrow _ _).bind (fun record => ?_))
  refine (Relation.guarantees_findUniqueOrThrow _).bind (fun contact => ?_)
  refine Guarantees.bind (Guarantees.transaction ?_) (fun _ => ?_)
  · refine (Relation.guarantees_update _ _ _ (h.verified _ _)).bind (fun _ => ?_)
    refine (Relation.guarantees_update _ _ _ (fun t => h.keyring t _ rfl)).bind (fun _ => ?_)
    refine (Relation.guarantees_findUniqueOrThrow _).bind (fun client => ?_)
    unfold verifyPending
    split
    · exact (h.transitionClientStatus _ _ _ _).bind (fun _ => (h.updateClient _ _ _).bind (fun _ => trivial))
    · trivial
  · exact (leaves_queueEmail (π := Store.keyring) env _ (fun _ _ => rfl)).guarantees h.keyring

theorem call (call : Call) (hdisable : ∀ env actor id, call ≠ .disableStaffUser env actor id) (s : Store) :
    rel s (call.after s) := by
  cases call with
  | setProductPrice env actor input =>
    have hleaves : (setProductPrice env actor input).Leaves Store.keyring :=
      leaves_setProductPrice _ _ _ (fun _ _ => rfl) (fun _ _ => rfl)
    exact h.keyring s _ (after_of_leaves hleaves s)
  | createOrder env actor input =>
    obtain hsame | ⟨order, c, t, hev, hafter⟩ := after_of_atomic (atomic_createOrder env actor input) s
    · exact h.of_unbilled (congrArg Store.unbilled hsame)
    · exact h.of_unbilled ((congrArg Store.unbilled hafter).trans (unbilled_createOrder actor input hev).2)
  | issueInvoiceForOrder env order actor => exact h.of_unbilled (unbilled_after_issueInvoiceForOrder order actor s)
  | markInvoicePaidManually env actor invoiceId input =>
    exact h.of_unbilled (unbilled_after_markInvoicePaidManually actor invoiceId input s)
  | cancelInvoice actor invoiceId reason =>
    obtain hsame | ⟨updated, c, t, hev, hafter⟩ := after_of_atomic (atomic_cancelInvoice actor invoiceId reason) s
    · exact h.of_unbilled (congrArg Store.unbilled hsame)
    · obtain ⟨_, _, invoice, hcancelled⟩ := cancelInvoice_ok hev
      refine h.of_unbilled ((congrArg Store.unbilled hafter).trans ?_)
      rw [hcancelled.after]
      rfl
  | registerClient env input => exact h.of_guarantees (h.registerClient input) s
  | verifyClientEmail env token => exact h.of_guarantees (h.verifyClientEmail token) s
  | addClientNote env actor clientId body =>
    refine h.of_guarantees (p := addClientNote env actor clientId body) ?_ s
    refine (guarantees_requirePermission _ _).bind (fun _ => ?_)
    exact (Relation.guarantees_create _ (fun t => h.keyring t _ rfl)).transaction.bind (fun _ => trivial)
  | changeClientStatus env actor clientId toStatus reason =>
    refine h.of_guarantees (p := changeClientStatus env actor clientId toStatus reason) ?_ s
    refine (guarantees_requirePermission _ _).bind (fun _ => Guarantees.transaction ?_)
    exact (h.transitionClientStatus _ _ _ _).bind (fun _ => h.recordAuditLog _)
  | updateClientProfile env actor clientId patch =>
    refine h.of_guarantees (p := updateClientProfile env actor clientId patch) ?_ s
    refine Guarantees.bind (by cases actor <;> exact guarantees_ensure _ _) (fun _ => Guarantees.transaction ?_)
    refine (Relation.guarantees_findUniqueOrThrow _).bind (fun before => ?_)
    exact (h.updateClient _ _ _).bind (fun _ => h.recordAuditLog _)
  | disableStaffUser env actor targetUserId => exact absurd rfl (hdisable env actor targetUserId)

end KeptByCalls

end HostPanel.Model
