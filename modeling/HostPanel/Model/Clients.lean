import HostPanel.Lib.CaseMapping
import HostPanel.Model.Invoices

namespace HostPanel.Model

open HostPanel.Lib HostPanel.Lib.Program

def emailVerificationTtlMs : ℤ := 24 * 60 * 60 * 1000

def clientTransitions : ClientStatus → List ClientStatus
  | .pendingVerification => [.active, .closed]
  | .active => [.suspended, .closed]
  | .suspended => [.active, .closed]
  | .closed => []

def isValidClientTransition (fromStatus toStatus : ClientStatus) : Bool :=
  decide (toStatus ∈ clientTransitions fromStatus)

theorem isValidClientTransition_self (status : ClientStatus) : isValidClientTransition status status = false := by
  cases status <;> decide

def clientMove (client : Client) (toStatus : ClientStatus) (actor : TransitionActor) (reason : Option String) :
    StatusHistory :=
  { tenantId := client.tenantId
    entityType := .client
    entityId := client.id
    fromStatus := some (.client client.status)
    toStatus := .client toStatus
    actorType := actor.type
    actorId := actor.id
    reason := reason }

def transitionClientStatus (env : Env) (clientId : Id) (toStatus : ClientStatus) (actor : TransitionActor)
    (reason : Option String) : Db Client := do
  let client ← prisma.client.findUniqueOrThrow clientId
  ensure (isValidClientTransition client.status toStatus = true)
    (businessRuleError "client.invalid_transition"
      ("Cannot move a client from " ++ client.status.name ++ " to " ++ toStatus.name ++ "."))
  let updated ← prisma.client.update clientId (fun r => { r with status := toStatus, updatedAt := env.now })
  recordStatusTransition (clientMove client toStatus actor reason)
  return updated

def isWhiteSpace (c : Char) : Bool :=
  c.toNat ∈ [9, 10, 11, 12, 13, 32, 160, 5760, 8232, 8233, 8239, 8287, 12288, 65279] ||
    (8192 ≤ c.toNat && c.toNat ≤ 8202)

def trim (s : String) : String :=
  String.ofList (((s.toList.dropWhile isWhiteSpace).reverse.dropWhile isWhiteSpace).reverse)

/-- `email.toLowerCase().trim()`. -/
def normalizeEmail (s : String) : String := trim (toLowerCase s)

structure RegisterClientInput where
  tenantId : Id
  type : ClientType
  companyName : Option String := none
  firstName : String
  lastName : String
  email : String
  password : String
  country : Option String := none
  currency : Option String := none
  ip : Option String := none

/-- Keep a record of the email, then hand it to the queue. -/
def queueEmail (env : Env) (row : EmailLog) : Db Unit := do
  transaction (appendLog row.tenantId (fun s => { s with emailLogs := s.emailLogs ++ [row] }))
  ensure (env.queueAvailable = true) .queueUnavailable

def clientCreated (input : RegisterClientInput) (clientId contactId : Id) : StatusHistory :=
  { tenantId := input.tenantId
    entityType := .client
    entityId := clientId
    fromStatus := none
    toStatus := .client .pendingVerification
    actorType := .clientContact
    actorId := some contactId
    reason := some "self_registration" }

def clientCreatedAudit (input : RegisterClientInput) (email : String) (clientId contactId : Id) : AuditLog :=
  { tenantId := input.tenantId
    actorType := .clientContact
    actorId := some contactId
    actorLabel := some (input.firstName ++ " " ++ input.lastName ++ " <" ++ email ++ ">")
    action := "client.created"
    entityType := .client
    entityId := clientId
    ip := input.ip
    afterState := some [("email", .scalar (.str email)), ("type", .scalar (.str (match input.type with
      | .individual => "INDIVIDUAL"
      | .company => "COMPANY")))] }

/-- The transaction of `registerClient`. -/
def insertClient (env : Env) (input : RegisterClientInput) (email passwordHash : String) : Db (Id × Id) := do
  let client ← prisma.client.create
    { id := env.cuid 0
      tenantId := input.tenantId
      type := input.type
      companyName := input.companyName
      firstName := input.firstName
      lastName := input.lastName
      email := email
      country := input.country
      currency := input.currency.getD "USD"
      status := .pendingVerification
      updatedAt := env.now }
  let contact ← prisma.clientContact.create
    { id := env.cuid 1
      tenantId := input.tenantId
      clientId := client.id
      email := email
      passwordHash := passwordHash
      firstName := input.firstName
      lastName := input.lastName
      isPrimary := true
      permBilling := true
      permSupport := true
      permDomains := true
      permServices := true }
  recordStatusTransition (clientCreated input client.id contact.id)
  recordAuditLog (clientCreatedAudit input email client.id contact.id)
  return (client.id, contact.id)

/-- What `registerClient` does once the account exists. -/
def sendVerification (env : Env) (input : RegisterClientInput) (email : String) (contactId : Id) : Db Unit := do
  let _ ← transaction (prisma.emailVerificationToken.create
    { id := env.cuid 2
      tenantId := input.tenantId
      actorType := .clientContact
      actorId := contactId
      email := email
      tokenHash := env.hashToken env.generateToken
      expiresAt := env.now + emailVerificationTtlMs })
  queueEmail env
    { tenantId := input.tenantId
      toEmail := email
      templateKey := "verify_email"
      subject := "Verify your email for " ++ env.appName
      relatedEntityType := some "CLIENT_CONTACT"
      relatedEntityId := some contactId }

def registerClient (env : Env) (input : RegisterClientInput) : Db (Id × Id) := do
  let email := normalizeEmail input.email
  let existingClient ← prisma.client.findFirst (fun r => r.tenantId == input.tenantId && r.email == email)
  let existingContact ← prisma.clientContact.findFirst (fun r => r.tenantId == input.tenantId && r.email == email)
  ensure (existingClient.isNone = true ∧ existingContact.isNone = true)
    (businessRuleError "client.email_taken" "An account with this email already exists.")
  let created ← transaction (insertClient env input email (env.hashPassword input.password))
  sendVerification env input email created.2
  return created

def EmailVerificationToken.usable (env : Env) (r : EmailVerificationToken) : Bool :=
  r.actorType == .clientContact && r.consumedAt == none && !decide (r.expiresAt < env.now)

def verifyPending (env : Env) (client : Client) (contactId : Id) : Db Unit :=
  if client.status = .pendingVerification then do
    let _ ← transitionClientStatus env client.id .active { type := .clientContact, id := some contactId }
      (some "email_verified")
    let _ ← prisma.client.update client.id
      (fun r => { r with verificationStatus := .verified, updatedAt := env.now })
    return ()
  else .ret ()

/-- The transaction of `verifyClientEmail`. -/
def markVerified (env : Env) (record : EmailVerificationToken) (contact : ClientContact) : Db Unit := do
  let _ ← prisma.clientContact.update contact.id (fun r => { r with emailVerifiedAt := some env.now })
  let _ ← prisma.emailVerificationToken.update record.id (fun r => { r with consumedAt := some env.now })
  let client ← prisma.client.findUniqueOrThrow contact.clientId
  verifyPending env client contact.id

def welcomeEmail (env : Env) (contact : ClientContact) : EmailLog :=
  { tenantId := contact.tenantId
    toEmail := contact.email
    templateKey := "welcome"
    subject := "Welcome to " ++ env.appName
    relatedEntityType := some "CLIENT_CONTACT"
    relatedEntityId := some contact.id }

def verifyClientEmail (env : Env) (token : String) : Db Unit := do
  let found ← prisma.emailVerificationToken.findFirst (fun r => r.tokenHash == env.hashToken token)
  let record ← orThrow (found.filter (EmailVerificationToken.usable env))
    (.app .authentication "auth.invalid_token" "This verification link is invalid or has expired.")
  let contact ← prisma.clientContact.findUniqueOrThrow record.actorId
  transaction (markVerified env record contact)
  queueEmail env (welcomeEmail env contact)

def addClientNote (env : Env) (actor : StaffActor) (clientId : Id) (body : String) : Db Unit := do
  requirePermission actor.permissions .clientsWrite
  let _ ← transaction (prisma.clientNote.create
    { id := env.cuid 0
      tenantId := actor.tenantId
      clientId := clientId
      body := body
      authorStaffUserId := some actor.id
      authorLabel := actor.label })
  return ()

def clientStatusChangedAudit (actor : StaffActor) (clientId : Id) (status : ClientStatus) (reason : String) :
    AuditLog :=
  { tenantId := actor.tenantId
    actorType := .staff
    actorId := some actor.id
    actorLabel := some actor.label
    action := "client.status_changed"
    entityType := .client
    entityId := clientId
    reason := some reason
    afterState := some [("status", .scalar (.str status.name))] }

def changeClientStatus (env : Env) (actor : StaffActor) (clientId : Id) (toStatus : ClientStatus) (reason : String) :
    Db Unit := do
  requirePermission actor.permissions .clientsWrite
  transaction do
    let updated ← transitionClientStatus env clientId toStatus { type := .staff, id := some actor.id } (some reason)
    recordAuditLog (clientStatusChangedAudit actor clientId updated.status reason)

inductive ProfileField where
  | firstName
  | lastName
  | companyName
  | phone
  | addressLine1
  | addressLine2
  | city
  | state
  | postalCode
  | country
  | language
  | timezone
deriving DecidableEq

def ProfileField.key : ProfileField → String
  | firstName => "firstName"
  | lastName => "lastName"
  | companyName => "companyName"
  | phone => "phone"
  | addressLine1 => "addressLine1"
  | addressLine2 => "addressLine2"
  | city => "city"
  | state => "state"
  | postalCode => "postalCode"
  | country => "country"
  | language => "language"
  | timezone => "timezone"

def Client.profile (r : Client) : ProfileField → Option String
  | .firstName => some r.firstName
  | .lastName => some r.lastName
  | .companyName => r.companyName
  | .phone => r.phone
  | .addressLine1 => r.addressLine1
  | .addressLine2 => r.addressLine2
  | .city => r.city
  | .state => r.state
  | .postalCode => r.postalCode
  | .country => r.country
  | .language => some r.language
  | .timezone => some r.timezone

def Client.withProfile (r : Client) (field : ProfileField) (value : String) : Client :=
  match field with
  | .firstName => { r with firstName := value }
  | .lastName => { r with lastName := value }
  | .companyName => { r with companyName := some value }
  | .phone => { r with phone := some value }
  | .addressLine1 => { r with addressLine1 := some value }
  | .addressLine2 => { r with addressLine2 := some value }
  | .city => { r with city := some value }
  | .state => { r with state := some value }
  | .postalCode => { r with postalCode := some value }
  | .country => { r with country := some value }
  | .language => { r with language := value }
  | .timezone => { r with timezone := value }

/-- The keys of the patch object with their values; `none` is a key whose
value is undefined. -/
structure ProfilePatch where
  entries : List (ProfileField × Option String)
  nodup : (entries.map Prod.fst).Nodup

def Client.patched (r : Client) (entries : List (ProfileField × Option String)) : Client :=
  entries.foldl (fun r e => match e.2 with
    | some value => r.withProfile e.1 value
    | none => r) r

theorem Client.withProfile_id (r : Client) (field : ProfileField) (value : String) :
    (r.withProfile field value).id = r.id := by
  cases field <;> rfl

theorem Client.patched_id (entries : List (ProfileField × Option String)) (r : Client) :
    (r.patched entries).id = r.id := by
  induction entries generalizing r with
  | nil => rfl
  | cons e entries ih =>
    obtain ⟨field, value⟩ := e
    cases value with
    | none => exact ih r
    | some value => exact (ih _).trans (r.withProfile_id field value)

/-- The row once the patch is written; with no value to set nothing is. -/
def ProfilePatch.write (patch : ProfilePatch) (now : DateTime) (r : Client) : Client :=
  if patch.entries.all (fun e => e.2.isNone) then r else { r.patched patch.entries with updatedAt := now }

theorem ProfilePatch.write_id (patch : ProfilePatch) (now : DateTime) (r : Client) : (patch.write now r).id = r.id := by
  unfold ProfilePatch.write
  split
  · rfl
  · exact Client.patched_id patch.entries r

theorem Client.patched_tenantId (entries : List (ProfileField × Option String)) (r : Client) :
    (r.patched entries).tenantId = r.tenantId := by
  induction entries generalizing r with
  | nil => rfl
  | cons e entries ih =>
    obtain ⟨field, value⟩ := e
    cases value with
    | none => exact ih r
    | some value =>
      refine (ih _).trans ?_
      cases field <;> rfl

theorem ProfilePatch.write_tenantId (patch : ProfilePatch) (now : DateTime) (r : Client) :
    (patch.write now r).tenantId = r.tenantId := by
  unfold ProfilePatch.write
  split
  · rfl
  · exact Client.patched_tenantId patch.entries r

def ProfilePatch.json (patch : ProfilePatch) : JsonObject :=
  (patch.entries.map (fun e => jsonField e.1.key e.2 .str)).flatten

def profileScalar : Option String → Scalar
  | some value => .str value
  | none => .null

/-- The patched fields of a row. -/
def ProfilePatch.fields (patch : ProfilePatch) (r : Client) : List (String × Scalar) :=
  patch.entries.map (fun e => (e.1.key, profileScalar (r.profile e.1)))

def clientUpdatedAudit (actor : Actor) (patch : ProfilePatch) (before after : Client) : AuditLog :=
  { tenantId := after.tenantId
    actorType := actor.type
    actorId := some actor.id
    actorLabel := some actor.label
    action := "client.updated"
    entityType := .client
    entityId := before.id
    beforeState := some patch.json
    afterState := some ((patch.fields after).map (fun e => (e.1, .scalar e.2)))
    metadata := some [("previousValues", .obj (patch.fields before))] }

def requireProfileActor (actor : Actor) (clientId : Id) : Db Unit :=
  match actor with
  | .clientContact a =>
    ensure (a.clientId = clientId) (businessRuleError "client.forbidden" "You can only manage your own account.")
  | .staff a => requirePermission a.permissions .clientsWrite

def updateClientProfile (env : Env) (actor : Actor) (clientId : Id) (patch : ProfilePatch) : Db Unit := do
  requireProfileActor actor clientId
  transaction do
    let before ← prisma.client.findUniqueOrThrow clientId
    let after ← prisma.client.update clientId (patch.write env.now) (patch.write_id env.now)
    recordAuditLog (clientUpdatedAudit actor patch before after)

def staffUserDisabledAudit (actor : StaffActor) (targetUserId : Id) : AuditLog :=
  { tenantId := actor.tenantId
    actorType := .staff
    actorId := some actor.id
    actorLabel := some actor.label
    action := "staff_user.disabled"
    entityType := .staffUser
    entityId := targetUserId }

def StaffSession.openFor (userId : Id) (r : StaffSession) : Bool :=
  r.userId == userId && r.revokedAt == none

def disableStaffUser (env : Env) (actor : StaffActor) (targetUserId : Id) : Db Unit := do
  requirePermission actor.permissions .staffManage
  transaction do
    let target ← prisma.staffUser.update targetUserId (fun r => { r with status := .disabled, updatedAt := env.now })
    recordAuditLog (staffUserDisabledAudit actor target.id)
    prisma.staffSession.updateMany (StaffSession.openFor targetUserId)
      (fun r => { r with revokedAt := some env.now, revokedReason := some "account_disabled" })

/-- The tables once an account is disabled. -/
def Store.disableStaff (s : Store) (env : Env) (actor : StaffActor) (targetUserId : Id) : Store :=
  prisma.staffSession.modifyWhere (StaffSession.openFor targetUserId)
    (fun r => { r with revokedAt := some env.now, revokedReason := some "account_disabled" }) (fun _ => rfl)
    ((prisma.staffUser.modify targetUserId (fun r => { r with status := .disabled, updatedAt := env.now }) (fun _ => rfl)
      s).withAuditLog
      (staffUserDisabledAudit actor targetUserId))

/-- The tables after a client moved. -/
def Store.moveClient (s : Store) (env : Env) (client : Client) (toStatus : ClientStatus) (actor : TransitionActor)
    (reason : Option String) : Store :=
  (prisma.client.modify client.id (fun r => { r with status := toStatus, updatedAt := env.now }) (fun _ => rfl)
    s).withStatusHistory
    (clientMove client toStatus actor reason)

theorem eval_transitionClientStatus_bind {β : Type} {env : Env} {clientId : Id} {toStatus : ClientStatus}
    {actor : TransitionActor} {reason : Option String} {k : Client → Db β} {c v : Store} {out : β × Store × Store} :
    (transitionClientStatus env clientId toStatus actor reason >>= k).eval c v = .ok out ↔
      ∃ client, v.clients.find clientId = some client ∧ isValidClientTransition client.status toStatus = true ∧
        v.hasTenant client.tenantId = true ∧
        (k { client with status := toStatus, updatedAt := env.now }).eval c
          (v.moveClient env client toStatus actor reason) = .ok out := by
  simp only [transitionClientStatus, bind_assoc, Relation.eval_findUniqueOrThrow_bind, eval_ensure_bind,
    Relation.eval_update_bind, eval_recordStatusTransition_bind, pure_eq_ret, ret_bind]
  constructor
  · rintro ⟨client, hi, hv, r, hr, htenant, hk⟩
    have hid : client.id = clientId := Table.key_of_find hi
    have he : r = client := Option.some.inj (hr.symm.trans hi)
    subst hid he
    exact ⟨r, hi, hv, htenant, hk⟩
  · rintro ⟨client, hi, hv, htenant, hk⟩
    have hid : client.id = clientId := Table.key_of_find hi
    subst hid
    exact ⟨client, hi, hv, client, hi, htenant, hk⟩

theorem uncommitted_transitionClientStatus (env : Env) (clientId : Id) (toStatus : ClientStatus) (actor : TransitionActor)
    (reason : Option String) : (transitionClientStatus env clientId toStatus actor reason).Uncommitted := by
  refine (Relation.uncommitted_findUniqueOrThrow _).bind (fun _ => ?_)
  refine (uncommitted_ensure _ _).bind (fun _ => ?_)
  refine (Relation.uncommitted_update _ _ _).bind (fun _ => ?_)
  exact (uncommitted_recordStatusTransition _).bind (fun _ => trivial)

theorem uncommitted_insertClient (env : Env) (input : RegisterClientInput) (email passwordHash : String) :
    (insertClient env input email passwordHash).Uncommitted := by
  refine (Relation.uncommitted_create _).bind (fun _ => (Relation.uncommitted_create _).bind (fun _ => ?_))
  refine (uncommitted_recordStatusTransition _).bind (fun _ => ?_)
  exact (uncommitted_recordAuditLog _).bind (fun _ => trivial)

theorem uncommitted_verifyPending (env : Env) (client : Client) (contactId : Id) :
    (verifyPending env client contactId).Uncommitted := by
  unfold verifyPending
  split
  · refine (uncommitted_transitionClientStatus _ _ _ _ _).bind (fun _ => ?_)
    exact (Relation.uncommitted_update _ _ _).bind (fun _ => trivial)
  · trivial

theorem uncommitted_markVerified (env : Env) (record : EmailVerificationToken) (contact : ClientContact) :
    (markVerified env record contact).Uncommitted := by
  refine (Relation.uncommitted_update _ _ _).bind (fun _ => (Relation.uncommitted_update _ _ _).bind (fun _ => ?_))
  exact (Relation.uncommitted_findUniqueOrThrow _).bind (fun _ => uncommitted_verifyPending _ _ _)

theorem atomic_addClientNote (env : Env) (actor : StaffActor) (clientId : Id) (body : String) :
    (addClientNote env actor clientId body).Atomic := by
  refine (uncommitted_requirePermission _ _).bind_atomic (fun _ => ?_)
  rw [transaction, bind_assoc]
  exact (Relation.uncommitted_create _).bind_atomic (fun _ => ⟨(), rfl⟩)

theorem atomic_changeClientStatus (env : Env) (actor : StaffActor) (clientId : Id) (toStatus : ClientStatus) (reason : String) :
    (changeClientStatus env actor clientId toStatus reason).Atomic := by
  refine (uncommitted_requirePermission _ _).bind_atomic (fun _ => Uncommitted.transaction ?_)
  exact (uncommitted_transitionClientStatus _ _ _ _ _).bind (fun _ => uncommitted_recordAuditLog _)

theorem uncommitted_requireProfileActor (actor : Actor) (clientId : Id) :
    (requireProfileActor actor clientId).Uncommitted := by
  cases actor <;> exact uncommitted_ensure _ _

theorem atomic_updateClientProfile (env : Env) (actor : Actor) (clientId : Id) (patch : ProfilePatch) :
    (updateClientProfile env actor clientId patch).Atomic := by
  refine (uncommitted_requireProfileActor _ _).bind_atomic (fun _ => Uncommitted.transaction ?_)
  refine (Relation.uncommitted_findUniqueOrThrow _).bind (fun _ => ?_)
  exact (Relation.uncommitted_update _ _ _).bind (fun _ => uncommitted_recordAuditLog _)

theorem atomic_disableStaffUser (env : Env) (actor : StaffActor) (targetUserId : Id) :
    (disableStaffUser env actor targetUserId).Atomic := by
  refine (uncommitted_requirePermission _ _).bind_atomic (fun _ => Uncommitted.transaction ?_)
  refine (Relation.uncommitted_update _ _ _).bind (fun _ => (uncommitted_recordAuditLog _).bind (fun _ => ?_))
  exact Relation.uncommitted_updateMany _ _ _

section Mail

variable {α : Type} {π : Store → α}

theorem leaves_queueEmail (env : Env) (row : EmailLog)
    (h : ∀ (t : Store) (rows : List EmailLog), π { t with emailLogs := rows } = π t) :
    (queueEmail env row).Leaves π := by
  exact (Leaves.transaction (leaves_appendLog (fun t => h t _))).bind (fun _ => leaves_ensure _ _)

theorem leaves_sendVerification (env : Env) (input : RegisterClientInput) (email : String) (contactId : Id)
    (htoken : ∀ (t : Store) (tokens : Table EmailVerificationToken.id),
      π { t with emailVerificationTokens := tokens } = π t)
    (hmail : ∀ (t : Store) (rows : List EmailLog), π { t with emailLogs := rows } = π t) :
    (sendVerification env input email contactId).Leaves π := by
  refine (Leaves.transaction (Relation.leaves_create _ (fun t => htoken t _))).bind (fun _ => ?_)
  exact leaves_queueEmail env _ hmail

end Mail

section Outcomes

variable {env : Env} {actor : StaffActor} {clientId : Id} {s c' s' : Store} {u : Unit}

theorem addClientNote_returns_iff {body : String} :
    (∃ r, (addClientNote env actor clientId body).eval s s = .ok r) ↔
      hasPermission actor.permissions .clientsWrite = true ∧ (s.clients.find clientId).isSome = true ∧
        s.clientNotes.find (env.cuid 0) = none := by
  simp only [addClientNote, eval_requirePermission_bind, transaction, bind_assoc, Relation.eval_create_bind,
    commit_bind, ret_bind, pure_eq_ret, eval_commit, eval_ret, exists_and_left]
  rw [Relation.fresh_single_iff (fun _ => rfl) (fun _ _ h => Lock.clientNote.inj h)]
  exact and_congr_right (fun _ => ⟨fun h => ⟨h.2.1, h.1⟩, fun h => ⟨h.2, h.1, _, rfl⟩⟩)

theorem changeClientStatus_returns_iff {toStatus : ClientStatus} {reason : String} :
    (∃ r, (changeClientStatus env actor clientId toStatus reason).eval s s = .ok r) ↔
      hasPermission actor.permissions .clientsWrite = true ∧ ∃ client, s.clients.find clientId = some client ∧
        isValidClientTransition client.status toStatus = true ∧ s.hasTenant client.tenantId = true ∧
        s.hasTenant actor.tenantId = true := by
  simp only [changeClientStatus, eval_requirePermission_bind, transaction, bind_assoc,
    eval_transitionClientStatus_bind, eval_recordAuditLog_bind, eval_commit, eval_ret, exists_and_left]
  constructor
  · rintro ⟨hperm, _, client, hfound, hvalid, htenant, hactor, _⟩
    exact ⟨hperm, client, hfound, hvalid, htenant, hactor⟩
  · rintro ⟨hperm, client, hfound, hvalid, htenant, hactor⟩
    exact ⟨hperm, _, client, hfound, hvalid, htenant, hactor, rfl⟩

/-- Whoever changes a profile may: a contact that of its own client, staff with
the permission. -/
def mayChangeProfile (actor : Actor) (clientId : Id) : Prop :=
  match actor with
  | .clientContact a => a.clientId = clientId
  | .staff a => hasPermission a.permissions .clientsWrite = true

theorem eval_requireProfileActor_bind {β : Type} {profileActor : Actor} {k : Unit → Db β} {c v : Store}
    {out : β × Store × Store} :
    (requireProfileActor profileActor clientId >>= k).eval c v = .ok out ↔
      mayChangeProfile profileActor clientId ∧ (k ()).eval c v = .ok out := by
  cases profileActor <;> exact eval_ensure_bind

theorem updateClientProfile_returns_iff {profileActor : Actor} {patch : ProfilePatch} :
    (∃ r, (updateClientProfile env profileActor clientId patch).eval s s = .ok r) ↔
      mayChangeProfile profileActor clientId ∧ ∃ client, s.clients.find clientId = some client ∧
        s.hasTenant client.tenantId = true := by
  simp only [updateClientProfile, eval_requireProfileActor_bind, transaction, bind_assoc,
    Relation.eval_findUniqueOrThrow_bind, Relation.eval_update_bind, eval_recordAuditLog_bind, eval_commit, eval_ret,
    exists_and_left]
  constructor
  · rintro ⟨hmay, _, _, hfound, client, hfound', htenant, _⟩
    rw [clientUpdatedAudit, patch.write_tenantId] at htenant
    exact ⟨hmay, client, hfound', htenant⟩
  · rintro ⟨hmay, client, hfound, htenant⟩
    refine ⟨hmay, _, client, hfound, client, hfound, ?_, rfl⟩
    rw [clientUpdatedAudit, patch.write_tenantId]
    exact htenant

theorem addClientNote_ok {body : String} (h : (addClientNote env actor clientId body).eval s s = .ok (u, c', s')) :
    (s.clients.find clientId).isSome = true ∧
      ∃ note : ClientNote, note.tenantId = actor.tenantId ∧ note.clientId = clientId ∧
        prisma.clientNote.Fresh note s ∧ s' = prisma.clientNote.insert note s := by
  simp only [addClientNote, eval_requirePermission_bind, transaction, bind_assoc, Relation.eval_create_bind,
    commit_bind, ret_bind, pure_eq_ret, eval_commit, eval_ret, Except.ok.injEq, Prod.mk.injEq] at h
  obtain ⟨_, hfresh, hrefs, _, _, rfl⟩ := h
  exact ⟨hrefs, _, rfl, rfl, hfresh, rfl⟩

theorem changeClientStatus_ok {toStatus : ClientStatus} {reason : String}
    (h : (changeClientStatus env actor clientId toStatus reason).eval s s = .ok (u, c', s')) :
    ∃ client, s.clients.find clientId = some client ∧ isValidClientTransition client.status toStatus = true ∧
      s' = (s.moveClient env client toStatus { type := .staff, id := some actor.id } (some reason)).withAuditLog
        (clientStatusChangedAudit actor clientId toStatus reason) := by
  simp only [changeClientStatus, eval_requirePermission_bind, transaction, bind_assoc,
    eval_transitionClientStatus_bind, eval_recordAuditLog_bind, eval_commit, eval_ret, Except.ok.injEq,
    Prod.mk.injEq] at h
  obtain ⟨_, client, hfound, hvalid, _, _, _, _, rfl⟩ := h
  exact ⟨client, hfound, hvalid, rfl⟩

theorem updateClientProfile_ok {profileActor : Actor} {patch : ProfilePatch}
    (h : (updateClientProfile env profileActor clientId patch).eval s s = .ok (u, c', s')) :
    ∃ client, s.clients.find clientId = some client ∧
      s' = (prisma.client.modify clientId (patch.write env.now) (patch.write_id env.now) s).withAuditLog
        (clientUpdatedAudit profileActor patch client (patch.write env.now client)) := by
  obtain ⟨_, c₁, v₁, hactor, hbody⟩ := eval_bind_ok.mp h
  have hread : c₁ = s ∧ v₁ = s := by
    cases profileActor <;> exact eval_ensure_ok hactor
  rw [hread.1, hread.2] at hbody
  simp only [transaction, bind_assoc, Relation.eval_findUniqueOrThrow_bind, Relation.eval_update_bind,
    eval_recordAuditLog_bind, eval_commit, eval_ret, Except.ok.injEq, Prod.mk.injEq] at hbody
  obtain ⟨client, hfound, r, hr, _, _, _, rfl⟩ := hbody
  have he : r = client := Option.some.inj (hr.symm.trans hfound)
  subst he
  exact ⟨r, hfound, rfl⟩

theorem disableStaffUser_returns_iff {targetUserId : Id} :
    (∃ r, (disableStaffUser env actor targetUserId).eval s s = .ok r) ↔
      hasPermission actor.permissions .staffManage = true ∧ (s.staffUsers.find targetUserId).isSome = true ∧
        s.hasTenant actor.tenantId = true := by
  simp only [disableStaffUser, eval_requirePermission_bind, transaction, bind_assoc, Relation.eval_update_bind,
    eval_recordAuditLog_bind, Relation.eval_updateMany_bind, eval_commit, eval_ret, exists_and_left]
  refine and_congr_right (fun _ => ⟨?_, ?_⟩)
  · rintro ⟨_, target, hfound, htenant, _⟩
    exact ⟨Option.isSome_iff_exists.mpr ⟨target, hfound⟩, htenant⟩
  · rintro ⟨hsome, htenant⟩
    obtain ⟨target, hfound⟩ := Option.isSome_iff_exists.mp hsome
    exact ⟨_, target, hfound, htenant, rfl⟩

/-- A registration that gets as far as the account. -/
theorem registerClient_after (env : Env) (input : RegisterClientInput) (s : Store) :
    (registerClient env input).after s = s ∨ ∃ ids c' s', (insertClient env input (normalizeEmail input.email)
      (env.hashPassword input.password)).eval s s = .ok (ids, c', s') ∧
      (registerClient env input).after s =
        (sendVerification env input (normalizeEmail input.email) ids.2 >>= fun _ => .ret ids).after s' := by
  have h := after_ensure_bind
    (p := (s.clients.rows.find? (fun r =>
        r.tenantId == input.tenantId && r.email == normalizeEmail input.email)).isNone = true ∧
      (s.clientContacts.rows.find? (fun r =>
        r.tenantId == input.tenantId && r.email == normalizeEmail input.email)).isNone = true)
    (e := businessRuleError "client.email_taken" "An account with this email already exists.")
    (k := fun _ => transaction (insertClient env input (normalizeEmail input.email)
        (env.hashPassword input.password)) >>= fun created =>
      sendVerification env input (normalizeEmail input.email) created.2 >>= fun _ => .ret created) s
  obtain he | ⟨_, he⟩ := h
  · exact Or.inl he
  · rcases after_transaction_bind (uncommitted_insertClient env input (normalizeEmail input.email)
        (env.hashPassword input.password)) s with ht | ⟨ids, c₁, s₁, hev, ht⟩
    · exact Or.inl (he.trans ht)
    · exact Or.inr ⟨ids, c₁, s₁, hev, he.trans ht⟩

/-- A verification that gets as far as the mail. -/
theorem verifyClientEmail_after (env : Env) (token : String) (s : Store) :
    (verifyClientEmail env token).after s = s ∨ ∃ record contact mail c' s',
      (markVerified env record contact).eval s s = .ok ((), c', s') ∧
      (verifyClientEmail env token).after s = (queueEmail env mail).after s' := by
  have hq : (verifyClientEmail env token).after s =
      (orThrow ((s.emailVerificationTokens.rows.find? (fun r => r.tokenHash == env.hashToken token)).filter
        (EmailVerificationToken.usable env))
        (.app .authentication "auth.invalid_token" "This verification link is invalid or has expired.") >>=
        fun record => prisma.clientContact.findUniqueOrThrow record.actorId >>= fun contact =>
          transaction (markVerified env record contact) >>= fun _ =>
            queueEmail env (welcomeEmail env contact)).after s := rfl
  rw [hq]
  obtain he | ⟨record, _, he⟩ := after_orThrow_bind s
  · exact Or.inl he
  rcases Relation.after_findUniqueOrThrow_bind (R := prisma.clientContact) (i := record.actorId)
      (k := fun contact => transaction (markVerified env record contact) >>= fun _ =>
        queueEmail env (welcomeEmail env contact)) s with hc | ⟨contact, _, hc⟩
  · exact Or.inl (he.trans hc)
  obtain ht | ⟨_, c₁, s₁, hev, ht⟩ := after_transaction_bind (uncommitted_markVerified env record contact) s
  · exact Or.inl (he.trans (hc.trans ht))
  · exact Or.inr ⟨record, contact, _, c₁, s₁, hev, he.trans (hc.trans ht)⟩

theorem disableStaffUser_ok {targetUserId : Id}
    (h : (disableStaffUser env actor targetUserId).eval s s = .ok (u, c', s')) :
    ∃ target, s.staffUsers.find targetUserId = some target ∧
      s' = prisma.staffSession.modifyWhere (StaffSession.openFor targetUserId)
        (fun r => { r with revokedAt := some env.now, revokedReason := some "account_disabled" }) (fun _ => rfl)
        ((prisma.staffUser.modify targetUserId (fun r => { r with status := .disabled, updatedAt := env.now })
          (fun _ => rfl) s).withAuditLog (staffUserDisabledAudit actor targetUserId)) := by
  simp only [disableStaffUser, eval_requirePermission_bind, transaction, bind_assoc, Relation.eval_update_bind,
    eval_recordAuditLog_bind, Relation.eval_updateMany_bind, eval_commit, eval_ret, Except.ok.injEq,
    Prod.mk.injEq] at h
  obtain ⟨_, target, hfound, _, _, _, rfl⟩ := h
  have hid : target.id = targetUserId := Table.key_of_find hfound
  subst hid
  exact ⟨target, hfound, rfl⟩

end Outcomes

end HostPanel.Model
