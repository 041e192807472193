import HostPanel.Books.Entities

namespace HostPanel.Model

open HostPanel.Lib HostPanel.Lib.Program

/-- The calls whose changes are to be audited. -/
inductive SensitiveCall where
  | addClientNote (env : Env) (actor : StaffActor) (clientId : Id) (body : String)
  | changeClientStatus (env : Env) (actor : StaffActor) (clientId : Id) (toStatus : ClientStatus) (reason : String)
  | updateClientProfile (env : Env) (actor : Actor) (clientId : Id) (patch : ProfilePatch)
  | createStaffUser (env : Env) (actor : StaffActor) (input : CreateStaffUserInput)
  | disableStaffUser (env : Env) (actor : StaffActor) (targetUserId : Id)
  | setStaffPassword (env : Env) (token newPassword : String)
  | disableStaff2FA (env : Env) (userId : Id)
  | setSetting (env : Env) (actor : StaffActor) (key : String) (value : JsonObject)
  | createProductGroup (env : Env) (actor : StaffActor) (input : ProductGroupInput)
  | createProduct (env : Env) (actor : StaffActor) (input : ProductInput)
  | setProductPrice (env : Env) (actor : StaffActor) (input : SetProductPriceInput)
  | createOrder (env : Env) (actor : Actor) (input : CreateOrderInput)
  | issueInvoiceForOrder (env : Env) (order : Order) (actor : TransitionActor)
  | markInvoicePaidManually (env : Env) (actor : StaffActor) (invoiceId : Id) (input : PaymentInput)
  | cancelInvoice (actor : StaffActor) (invoiceId : Id) (reason : String)

namespace SensitiveCall

def program : SensitiveCall → Db Unit
  | addClientNote env actor clientId body => Model.addClientNote env actor clientId body
  | changeClientStatus env actor clientId toStatus reason => Model.changeClientStatus env actor clientId toStatus reason
  | updateClientProfile env actor clientId patch => Model.updateClientProfile env actor clientId patch
  | createStaffUser env actor input => (fun _ => ()) <$> Model.createStaffUser env actor input
  | disableStaffUser env actor targetUserId => Model.disableStaffUser env actor targetUserId
  | setStaffPassword env token newPassword => Model.setStaffPassword env token newPassword
  | disableStaff2FA env userId => Model.disableStaff2FA env userId
  | setSetting env actor key value => Model.setSetting env actor key value
  | createProductGroup env actor input => (fun _ => ()) <$> Model.createProductGroup env actor input
  | createProduct env actor input => (fun _ => ()) <$> Model.createProduct env actor input
  | setProductPrice env actor input => (fun _ => ()) <$> Model.setProductPrice env actor input
  | createOrder env actor input => (fun _ => ()) <$> Model.createOrder env actor input
  | issueInvoiceForOrder env order actor => (fun _ => ()) <$> Model.issueInvoiceForOrder env order actor
  | markInvoicePaidManually env actor invoiceId input =>
    (fun _ => ()) <$> Model.markInvoicePaidManually env actor invoiceId input
  | cancelInvoice actor invoiceId reason => (fun _ => ()) <$> Model.cancelInvoice actor invoiceId reason

/-- The acting user, where the call has one. -/
def actorId : SensitiveCall → Option Id
  | addClientNote _ actor _ _ | changeClientStatus _ actor _ _ _ | createStaffUser _ actor _
  | disableStaffUser _ actor _ | setSetting _ actor _ _ | createProductGroup _ actor _ | createProduct _ actor _
  | setProductPrice _ actor _ | markInvoicePaidManually _ actor _ _ | cancelInvoice actor _ _ => some actor.id
  | updateClientProfile _ actor _ _ | createOrder _ actor _ => some actor.id
  | issueInvoiceForOrder _ _ actor => actor.id
  | setStaffPassword _ _ _ | disableStaff2FA _ _ => none

/-- In each transaction of the call every entity that changes is named by a new
row of the log, with the acting user; a call that throws adds no row. -/
def Audited (call : SensitiveCall) (s : Store) : Prop := (auditOf call.actorId).Covers call.program s

end SensitiveCall

section Accounts

variable {env : Env} {actor : StaffActor} {s : Store}

theorem changeClientStatus_covered (clientId : Id) (toStatus : ClientStatus) (reason : String) :
    (auditOf (some actor.id)).Covers (changeClientStatus env actor clientId toStatus reason) s := by
  refine (Audit.covers_iff_of_atomic (atomic_changeClientStatus _ _ _ _ _)).mpr (fun u c s' h => ?_)
  obtain ⟨client, hfound, _, rfl⟩ := changeClientStatus_ok h
  have hid : client.id = clientId := Table.key_of_find hfound
  subst hid
  refine Audit.accounted_of_row rfl (e := (.client, client.id)) ⟨Or.inl rfl, fun _ h => h⟩ (fun e he => ?_)
  exact backs_client.modify (f := fun r => { r with status := toStatus, updatedAt := env.now }) (fun _ => rfl) s he

theorem updateClientProfile_covered (profileActor : Actor) (clientId : Id) (patch : ProfilePatch) :
    (auditOf (some profileActor.id)).Covers (updateClientProfile env profileActor clientId patch) s := by
  refine (Audit.covers_iff_of_atomic (atomic_updateClientProfile _ _ _ _)).mpr (fun u c s' h => ?_)
  obtain ⟨client, hfound, rfl⟩ := updateClientProfile_ok h
  have hid : client.id = clientId := Table.key_of_find hfound
  subst hid
  refine Audit.accounted_of_row rfl (e := (.client, client.id)) ⟨Or.inl rfl, fun _ h => h⟩ (fun e he => ?_)
  exact backs_client.modify (patch.write_id env.now) s he

/-- The sessions that end with an account are part of its change. -/
theorem disableStaffUser_covered (targetUserId : Id) :
    (auditOf (some actor.id)).Covers (disableStaffUser env actor targetUserId) s := by
  refine (Audit.covers_iff_of_atomic (atomic_disableStaffUser _ _ _)).mpr (fun u c s' h => ?_)
  obtain ⟨target, _, rfl⟩ := disableStaffUser_ok h
  refine Audit.accounted_of_row rfl (e := (.staffUser, targetUserId)) ⟨Or.inl rfl, fun _ h => h⟩ (fun e he => ?_)
  have hopen : ∀ r : StaffSession, r.openFor targetUserId = true → r.userId = targetUserId := by
    intro r hr
    rw [StaffSession.openFor, Bool.and_eq_true, beq_iff_eq] at hr
    exact hr.1
  have hsessions := entity_modifySessions
    (f := fun r => { r with revokedAt := some env.now, revokedReason := some "account_disabled" })
    (fun _ => rfl) (fun _ => rfl) hopen
  refine (hsessions _ he).trans ?_
  exact backs_staffUser.modify (f := fun r => { r with status := .disabled, updatedAt := env.now }) (fun _ => rfl) s he

theorem setSetting_covered (key : String) (value : JsonObject) :
    (auditOf (some actor.id)).Covers (setSetting env actor key value) s := by
  refine (Audit.covers_iff_of_atomic (atomic_setSetting _ _ _ _)).mpr (fun u c s' h => ?_)
  let row : SystemSetting :=
    { id := env.cuid 0, tenantId := actor.tenantId, key := key, value := value, updatedBy := some actor.id }
  change (requirePermission actor.permissions .settingsManage >>= fun _ => transaction
    (prisma.systemSetting.findUnique row.ref >>= fun before =>
      prisma.systemSetting.upsertSet row.ref row (fun r => { r with value := value, updatedBy := some actor.id })
        (fun _ => rfl) >>= fun after =>
        recordAuditLog (settingUpdatedAudit actor key value (before.map SystemSetting.value) after.id))).eval s s = _ at h
  rw [eval_requirePermission_bind, eval_transaction_ok] at h
  obtain ⟨_, _, c₁, hbody⟩ := h
  change (prisma.systemSetting.upsertSet row.ref row _ _ >>= _).eval s s = _ at hbody
  obtain ⟨old, hold, hlogged⟩ | ⟨_, _, _, hlogged⟩ := Relation.eval_upsertSet_bind.mp hbody
  · cases (eval_recordAuditLog_bind.mp hlogged).2
    refine Audit.accounted_of_row rfl (e := (.systemSetting, old.id)) ⟨Or.inl rfl, fun _ h => h⟩ (fun e he => ?_)
    exact entity_modifySetting (f := fun r => { r with value := value, updatedBy := some actor.id })
      (fun _ => rfl) (fun _ => rfl) hold he
  · cases (eval_recordAuditLog_bind.mp hlogged).2
    refine Audit.accounted_of_row rfl (e := (.systemSetting, row.id)) ⟨Or.inl rfl, fun _ h => h⟩ (fun e he => ?_)
    exact entity_insertSetting row s he

theorem createProductGroup_covered (input : ProductGroupInput) :
    (auditOf (some actor.id)).Covers (createProductGroup env actor input) s := by
  refine (Audit.covers_iff_of_atomic (atomic_createProductGroup _ _ _)).mpr (fun group c s' h => ?_)
  simp only [createProductGroup, eval_requirePermission_bind, eval_transaction_ok, eval_lift_bind,
    Relation.eval_create_bind, eval_recordAuditLog_bind, pure_eq_ret, eval_ret, Except.ok.injEq, Prod.mk.injEq] at h
  obtain ⟨_, rfl, _, sortOrder, _, _, _, _, rfl, _, rfl⟩ := h
  refine Audit.accounted_of_row rfl (e := (.productGroup, env.cuid 0)) ⟨Or.inl rfl, fun _ h => h⟩ (fun e he => ?_)
  exact backs_productGroup.insert _ s he

theorem createProduct_covered (input : ProductInput) :
    (auditOf (some actor.id)).Covers (createProduct env actor input) s := by
  refine (Audit.covers_iff_of_atomic (atomic_createProduct _ _ _)).mpr (fun product c s' h => ?_)
  obtain ⟨stockLimit, sortOrder, _, _, _, rfl⟩ := createProduct_ok_iff.mp h
  refine Audit.accounted_of_row rfl (e := (.product, env.cuid 0)) ⟨Or.inl rfl, fun _ h => h⟩ (fun e he => ?_)
  exact backs_product.insert (newProduct env actor input stockLimit sortOrder) s he

/-- The row of the new price names the price it closed. -/
theorem setProductPrice_covered (input : SetProductPriceInput) :
    (auditOf (some actor.id)).Covers (setProductPrice env actor input) s := by
  refine (Audit.covers_iff_of_atomic (atomic_setProductPrice _ _ _)).mpr (fun price c s' h => ?_)
  obtain ⟨amount, setupFee, _, _, _, rfl⟩ := setProductPrice_ok_iff.mp h
  let row := priceCreatedAudit env actor input (env.cuid 0) (s.previousPrice env actor input)
  have hclosePrice : ∀ previous stop, (s.closePrice previous stop).auditLogs = s.auditLogs := by
    intro previous stop
    cases previous <;> rfl
  have hlog : (auditOf (some actor.id)).log (s.storePrice env actor input amount setupFee) =
      (auditOf (some actor.id)).log s ++ [row] := congrArg (fun rows => rows ++ [row]) (hclosePrice _ _)
  refine (Audit.accounted_iff hlog).mpr (fun e hne => ?_)
  refine ⟨row, List.mem_singleton.mpr rfl, ?_, fun _ h => h⟩
  by_contra hnot
  obtain ⟨hnew, hclosed⟩ := not_or.mp hnot
  have hinsert := backs_productPrice.insert (newPrice env actor input amount setupFee)
    (s.closePrice (s.previousPrice env actor input) (input.start env)) (fun he => hnew he.symm)
  refine hne (Eq.trans hinsert ?_)
  cases hprevious : s.previousPrice env actor input with
  | none => rfl
  | some previous =>
    refine backs_productPrice.modify (f := fun r => { r with effectiveTo := some (input.start env) }) (fun _ => rfl) s
      (fun he => hclosed ?_)
    subst he
    refine ⟨rfl, ?_⟩
    change (s.previousPrice env actor input).map _ = _
    rw [hprevious]
    rfl

theorem createOrder_covered (orderActor : Actor) (input : CreateOrderInput) :
    (auditOf (some orderActor.id)).Covers (createOrder env orderActor input) s := by
  refine (Audit.covers_iff_of_atomic (atomic_createOrder _ _ _)).mpr (fun order c s' h => ?_)
  obtain ⟨_, ⟨_, rfl⟩ | ⟨_, client, rows, hp⟩⟩ := createOrder_ok h
  · exact Audit.accounted_refl _
  · obtain ⟨value, _, _, rfl⟩ := hp.after
    refine Audit.accounted_of_row rfl (e := (.order, order.id)) ⟨Or.inl rfl, fun _ h => h⟩ (fun e he => ?_)
    exact backs_order.insert order (s.withCounter (orderActor.tenantId, "order_number") value) he

theorem cancelInvoice_covered (invoiceId : Id) (reason : String) :
    (auditOf (some actor.id)).Covers (cancelInvoice actor invoiceId reason) s := by
  refine (Audit.covers_iff_of_atomic (atomic_cancelInvoice _ _ _)).mpr (fun updated c s' h => ?_)
  obtain ⟨_, _, invoice, hcancelled⟩ := cancelInvoice_ok h
  have hid : invoice.id = invoiceId := Table.key_of_find hcancelled.found
  subst hid
  rw [hcancelled.after]
  refine Audit.accounted_of_row rfl (e := (.invoice, invoice.id)) ⟨Or.inl rfl, fun _ h => h⟩ (fun e he => ?_)
  exact backs_invoice.modify (f := fun r => { r with status := .cancelled }) (fun _ => rfl) s he

theorem admitStaff_accounted (input : CreateStaffUserInput) (role : Role) (s : Store) :
    (auditOf (some actor.id)).Accounted s (s.admitStaff env actor input role) := by
  refine Audit.accounted_of_row rfl (e := (.staffUser, env.cuid 0)) ⟨Or.inl rfl, fun _ h => h⟩ (fun e he => ?_)
  exact backs_staffUser.insert (newStaffUser env actor input role) s he

end Accounts

section Exceptions

variable {env : Env} {actor : StaffActor} {s : Store}

def newClientNote (env : Env) (actor : StaffActor) (clientId : Id) (body : String) : ClientNote :=
  { id := env.cuid 0
    tenantId := actor.tenantId
    clientId := clientId
    body := body
    authorStaffUserId := some actor.id
    authorLabel := actor.label }

/-- What `addClientNote` checks before it stores a note. -/
structure NoteAccepted (env : Env) (actor : StaffActor) (clientId : Id) (body : String) (s : Store) : Prop where
  permitted : hasPermission actor.permissions .clientsWrite = true
  client : (s.clients.find clientId).isSome = true
  fresh : prisma.clientNote.Fresh (newClientNote env actor clientId body) s

theorem addClientNote_ok_iff {clientId : Id} {body : String} {u : Unit} {c s' : Store} :
    (addClientNote env actor clientId body).eval s s = .ok (u, c, s') ↔
      NoteAccepted env actor clientId body s ∧ c = s' ∧
        s' = prisma.clientNote.insert (newClientNote env actor clientId body) s := by
  simp only [addClientNote, eval_requirePermission_bind, transaction, bind_assoc, Relation.eval_create_bind,
    commit_bind, ret_bind, pure_eq_ret, eval_commit, eval_ret, Except.ok.injEq, Prod.mk.injEq]
  constructor
  · rintro ⟨hperm, hfresh, hclient, _, rfl, rfl⟩
    exact ⟨⟨hperm, hclient, hfresh⟩, rfl, rfl⟩
  · rintro ⟨h, rfl, rfl⟩
    exact ⟨h.permitted, h.fresh, h.client, trivial, rfl, rfl⟩

/-- A note comes without a row. -/
theorem addClientNote_covered_iff (actorId : Option Id) (clientId : Id) (body : String) :
    (auditOf actorId).Covers (addClientNote env actor clientId body) s ↔ ¬ NoteAccepted env actor clientId body s := by
  rw [Audit.covers_iff_of_atomic (atomic_addClientNote env actor clientId body)]
  constructor
  · intro h haccepted
    have hstored := h () _ _ (addClientNote_ok_iff.mpr ⟨haccepted, rfl, rfl⟩)
    have hlog : (auditOf actorId).log (prisma.clientNote.insert (newClientNote env actor clientId body) s) =
        (auditOf actorId).log s := rfl
    rw [Audit.accounted_iff_of_unlogged hlog] at hstored
    obtain ⟨_, hnotes⟩ := EntityState.client.inj (hstored (AuditEntityType.client, clientId))
    have hrows : (prisma.clientNote.insert (newClientNote env actor clientId body) s).clientNotes.rows =
        s.clientNotes.rows ++ [newClientNote env actor clientId body] :=
      Table.insert_rows (Relation.find_of_fresh haccepted.fresh)
    rw [hrows, List.filter_append] at hnotes
    simp [newClientNote] at hnotes
  · intro hnot u c s' hev
    exact absurd (addClientNote_ok_iff.mp hev).1 hnot

/-- A change of a staff user without a row. -/
theorem unlogged_staffUser_iff {actorId : Option Id} {userId : Id} {f : StaffUser → StaffUser}
    (hf : ∀ r, (f r).id = r.id) {t : Store} {user : StaffUser} (hfound : s.staffUsers.find userId = some user)
    (hlog : t.auditLogs = s.auditLogs) (hentity : ∀ e, t.entity e = (prisma.staffUser.modify userId f hf s).entity e) :
    (auditOf actorId).Accounted s t ↔ f user = user := by
  rw [Audit.accounted_iff_of_unlogged hlog]
  change (∀ e, t.entity e = s.entity e) ↔ _
  simp only [hentity]
  have hchanged : (prisma.staffUser.modify userId f hf s).staffUsers.find userId = some (f user) :=
    Relation.find_modify (R := prisma.staffUser) hf hfound
  constructor
  · intro h
    obtain ⟨hrow, _⟩ := EntityState.staffUser.inj (h (.staffUser, userId))
    rw [hchanged, hfound] at hrow
    exact Option.some.inj hrow
  · intro hfix e
    by_cases he : e = (.staffUser, userId)
    · subst he
      refine congrArg (fun r => EntityState.staffUser r _) (hchanged.trans ?_)
      rw [hfix, hfound]
    · exact backs_staffUser.modify hf s he

/-- The record of a password link that may be used. -/
def Store.staffLink (s : Store) (env : Env) (token : String) : Option PasswordResetToken :=
  (s.passwordResetTokens.rows.find? (fun r => r.tokenHash == env.hashToken token)).filter
    (PasswordResetToken.usable env .staff)

def StaffUser.withPassword (now : DateTime) (passwordHash : String) (user : StaffUser) : StaffUser :=
  { user with passwordHash := passwordHash, mustChangePassword := false, updatedAt := now }

def StaffUser.withoutSecondFactor (now : DateTime) (user : StaffUser) : StaffUser :=
  { user with twoFactorEnabled := false, twoFactorSecret := none, recoveryCodeHashes := some [], updatedAt := now }

theorem StaffUser.withPassword_id (now : DateTime) (passwordHash : String) (user : StaffUser) :
    (user.withPassword now passwordHash).id = user.id := rfl

theorem StaffUser.withoutSecondFactor_id (now : DateTime) (user : StaffUser) :
    (user.withoutSecondFactor now).id = user.id := rfl

theorem PasswordResetToken.consumed_id (env : Env) (r : PasswordResetToken) :
    ({ r with consumedAt := some env.now } : PasswordResetToken).id = r.id := rfl

/-- The tables once the password of an account is set. -/
def Store.setPassword (s : Store) (env : Env) (record : PasswordResetToken) (newPassword : String) : Store :=
  prisma.passwordResetToken.modify record.id (fun r => { r with consumedAt := some env.now })
    (PasswordResetToken.consumed_id env)
    (prisma.staffUser.modify record.actorId (StaffUser.withPassword env.now (env.hashPassword newPassword))
      (StaffUser.withPassword_id _ _) s)

theorem setStaffPassword_ok_iff {token newPassword : String} {u : Unit} {c s' : Store} :
    (setStaffPassword env token newPassword).eval s s = .ok (u, c, s') ↔
      ∃ record user, s.staffLink env token = some record ∧ s.staffUsers.find record.actorId = some user ∧ c = s' ∧
        s' = s.setPassword env record newPassword := by
  simp only [setStaffPassword, findPasswordToken, consumeToken, bind_assoc, Relation.eval_findFirst_bind,
    eval_orThrow_bind, eval_transaction_ok, Relation.eval_update_bind, pure_eq_ret, eval_ret, Except.ok.injEq,
    Prod.mk.injEq]
  constructor
  · rintro ⟨record, hrecord, rfl, _, user, huser, _, _, _, _, rfl⟩
    exact ⟨record, user, hrecord, huser, rfl, rfl⟩
  · rintro ⟨record, user, hrecord, huser, rfl, rfl⟩
    have hmem : record ∈ s.passwordResetTokens := List.mem_of_find?_eq_some (Option.filter_eq_some_iff.mp hrecord).1
    exact ⟨record, hrecord, rfl, s, user, huser, record, Table.find_of_mem hmem, trivial, rfl, rfl⟩

/-- The account has that password already, need not change it, and was written
at that very time. -/
def StaffUser.HasPassword (user : StaffUser) (now : DateTime) (passwordHash : String) : Prop :=
  user.passwordHash = passwordHash ∧ user.mustChangePassword = false ∧ user.updatedAt = now

theorem StaffUser.withPassword_eq_self_iff {user : StaffUser} {now : DateTime} {passwordHash : String} :
    user.withPassword now passwordHash = user ↔ user.HasPassword now passwordHash := by
  constructor
  · intro h
    exact ⟨congrArg StaffUser.passwordHash h.symm, congrArg mustChangePassword h.symm, congrArg updatedAt h.symm⟩
  · rintro ⟨hhash, hmust, hupdated⟩
    rw [withPassword, ← hhash, ← hmust, ← hupdated]

theorem setStaffPassword_covered_iff (token newPassword : String) :
    (auditOf none).Covers (setStaffPassword env token newPassword) s ↔
      ∀ record user, s.staffLink env token = some record → s.staffUsers.find record.actorId = some user →
        user.HasPassword env.now (env.hashPassword newPassword) := by
  have hstored : ∀ record user, s.staffUsers.find record.actorId = some user →
      ((auditOf none).Accounted s (s.setPassword env record newPassword) ↔
        user.HasPassword env.now (env.hashPassword newPassword)) := by
    intro record user huser
    have hlog : (s.setPassword env record newPassword).auditLogs = s.auditLogs := rfl
    exact (unlogged_staffUser_iff (StaffUser.withPassword_id _ _) huser hlog (fun _ => rfl)).trans
      StaffUser.withPassword_eq_self_iff
  rw [Audit.covers_iff_of_atomic (atomic_setStaffPassword env token newPassword)]
  constructor
  · intro h record user hrecord huser
    exact (hstored record user huser).mp (h () _ _ (setStaffPassword_ok_iff.mpr ⟨record, user, hrecord, huser, rfl, rfl⟩))
  · intro h u c s' hev
    obtain ⟨record, user, hrecord, huser, _, rfl⟩ := setStaffPassword_ok_iff.mp hev
    exact (hstored record user huser).mpr (h record user hrecord huser)

/-- Nothing of a second factor is stored for the account, which was written at
that very time. -/
def StaffUser.LacksSecondFactor (user : StaffUser) (now : DateTime) : Prop :=
  user.twoFactorEnabled = false ∧ user.twoFactorSecret = none ∧ user.recoveryCodeHashes = some [] ∧
    user.updatedAt = now

theorem StaffUser.withoutSecondFactor_eq_self_iff {user : StaffUser} {now : DateTime} :
    user.withoutSecondFactor now = user ↔ user.LacksSecondFactor now := by
  constructor
  · intro h
    exact ⟨congrArg twoFactorEnabled h.symm, congrArg twoFactorSecret h.symm, congrArg recoveryCodeHashes h.symm,
      congrArg updatedAt h.symm⟩
  · rintro ⟨henabled, hsecret, hcodes, hupdated⟩
    rw [withoutSecondFactor, ← henabled, ← hsecret, ← hcodes, ← hupdated]

theorem disableStaff2FA_ok_iff {userId : Id} {u : Unit} {c s' : Store} :
    (disableStaff2FA env userId).eval s s = .ok (u, c, s') ↔
      ∃ user, s.staffUsers.find userId = some user ∧ c = s' ∧
        s' = prisma.staffUser.modify userId (StaffUser.withoutSecondFactor env.now)
          (StaffUser.withoutSecondFactor_id env.now) s := by
  simp only [disableStaff2FA, transaction, bind_assoc, Relation.eval_update_bind, commit_bind, ret_bind, pure_eq_ret,
    eval_commit, eval_ret, Except.ok.injEq, Prod.mk.injEq]
  constructor
  · rintro ⟨user, huser, _, rfl, rfl⟩
    exact ⟨user, huser, rfl, rfl⟩
  · rintro ⟨user, huser, rfl, rfl⟩
    exact ⟨user, huser, trivial, rfl, rfl⟩

theorem disableStaff2FA_covered_iff (userId : Id) :
    (auditOf none).Covers (disableStaff2FA env userId) s ↔
      ∀ user, s.staffUsers.find userId = some user → user.LacksSecondFactor env.now := by
  have hstored : ∀ user, s.staffUsers.find userId = some user →
      ((auditOf none).Accounted s (prisma.staffUser.modify userId (StaffUser.withoutSecondFactor env.now)
        (StaffUser.withoutSecondFactor_id env.now) s) ↔ user.LacksSecondFactor env.now) := by
    intro user huser
    have hlog : (prisma.staffUser.modify userId (StaffUser.withoutSecondFactor env.now)
      (StaffUser.withoutSecondFactor_id env.now) s).auditLogs = s.auditLogs := rfl
    exact (unlogged_staffUser_iff (StaffUser.withoutSecondFactor_id env.now) huser hlog (fun _ => rfl)).trans
      StaffUser.withoutSecondFactor_eq_self_iff
  rw [Audit.covers_iff_of_atomic (atomic_disableStaff2FA env userId)]
  constructor
  · intro h user huser
    exact (hstored user huser).mp (h () _ _ (disableStaff2FA_ok_iff.mpr ⟨user, huser, rfl, rfl⟩))
  · intro h u c s' hev
    obtain ⟨user, huser, _, rfl⟩ := disableStaff2FA_ok_iff.mp hev
    exact (hstored user huser).mpr (h user huser)

/-- The link is sent for every account the call admits. -/
theorem createStaffUser_covered_iff (input : CreateStaffUserInput) :
    (auditOf (some actor.id)).Covers (createStaffUser env actor input) s ↔
      ∀ role, StaffAdmitted env actor input s role → LinkSent env (staffInviteToken env actor) s := by
  have hleaves : ∀ user, (inviteStaffUser env actor input user).Leaves (auditOf (some actor.id)).seen := by
    intro user
    refine Leaves.bind (Leaves.bind (Leaves.transaction ?_) (fun _ => ?_)) (fun _ => trivial)
    · exact Relation.leaves_create _ (fun t => rfl)
    · exact leaves_queueEmail env _ (fun t rows => rfl)
  -- what the invitation needs, the account does not change
  have hsent : ∀ role, LinkSent env (staffInviteToken env actor) (s.admitStaff env actor input role) ↔
      LinkSent env (staffInviteToken env actor) s := fun role => ⟨fun h => ⟨h.1, h.2, h.3⟩, fun h => ⟨h.1, h.2, h.3⟩⟩
  rw [createStaffUser_eq, Audit.covers_transaction_bind_iff (uncommitted_admitStaffUser env actor input) hleaves]
  constructor
  · intro h role hadmitted
    have hlog : (s.admitStaff env actor input role).auditLogs ≠ s.auditLogs := by
      simp [Store.admitStaff, Store.withAuditLog, Relation.insert, prisma.staffUser]
    cases hinvite : (inviteStaffUser env actor input (newStaffUser env actor input role)).eval
        (s.admitStaff env actor input role) (s.admitStaff env actor input role) with
    | ok r =>
      rw [inviteStaffUser, eval_sendPasswordLink_bind rfl] at hinvite
      exact (hsent role).mp hinvite.1
    | error x =>
      have hev : (admitStaffUser env actor input).eval s s =
          .ok (newStaffUser env actor input role, s, s.admitStaff env actor input role) :=
        admitStaffUser_ok_iff.mpr ⟨role, hadmitted, rfl, rfl, rfl⟩
      exact absurd ((h _ s _ hev).2 x.2 x.1 (run_error_iff.mpr hinvite)) hlog
  · intro h user c t hev
    obtain ⟨role, hadmitted, rfl, _, rfl⟩ := admitStaffUser_ok_iff.mp hev
    refine ⟨admitStaff_accounted input role s, fun u e hrun => ?_⟩
    have hok : ∃ r, (inviteStaffUser env actor input (newStaffUser env actor input role)).eval
        (s.admitStaff env actor input role) (s.admitStaff env actor input role) = .ok r := by
      refine ⟨_, (eval_sendPasswordLink_bind rfl).mpr ⟨(hsent role).mpr (h role hadmitted), rfl⟩⟩
    obtain ⟨r, hr⟩ := hok
    rw [run_error_iff, hr] at hrun
    cases hrun

/-- The actor has a label that is not empty. -/
def TransitionActor.Labelled (actor : TransitionActor) : Prop := ∃ text, actor.label = some text ∧ text ≠ ""

section OrderMoves

variable {mover : TransitionActor} {toStatus : OrderStatus} {reason : Option String}

theorem entity_moveOrder (order : Order) (t : Store) {e : AuditEntityType × Id} (he : e ≠ (.order, order.id)) :
    (t.moveOrder order toStatus mover reason).entity e = t.entity e := by
  have hmoved := backs_order.modify (f := fun o => { o with status := toStatus }) (fun _ => rfl) t he
  exact Store.of_withLabelledAudit (P := fun u => u.entity e = t.entity e) hmoved (fun _ => hmoved)

theorem moveOrder_accounted {actorId : Option Id} (hactor : ∀ id, actorId = some id → mover.id = some id)
    (hlabel : mover.Labelled) (order : Order) (t : Store) :
    (auditOf actorId).Accounted t (t.moveOrder order toStatus mover reason) := by
  obtain ⟨text, htext, hne⟩ := hlabel
  have hlog : (auditOf actorId).log (t.moveOrder order toStatus mover reason) =
      (auditOf actorId).log t ++ [orderMoveAudit order toStatus mover text reason] := by
    simp only [auditOf, Store.moveOrder, Store.withLabelledAudit, htext, if_neg hne]
    rfl
  refine Audit.accounted_of_row hlog (e := (.order, order.id)) ⟨Or.inl rfl, hactor⟩ (fun e he => ?_)
  exact entity_moveOrder order t he

theorem auditLogs_moveOrder (hlabel : ¬ mover.Labelled) (order : Order) (t : Store) :
    (t.moveOrder order toStatus mover reason).auditLogs = t.auditLogs := by
  unfold Store.moveOrder Store.withLabelledAudit
  cases htext : mover.label with
  | none => rfl
  | some text =>
    have hempty : text = "" := by
      by_contra hne
      exact hlabel ⟨text, htext, hne⟩
    simp only [if_pos hempty]
    rfl

/-- An invoice is written with its row; then an order moves, which is a change
of its own. -/
theorem orderStep_accounted_iff {actorId : Option Id} {invoiceId : Id} {row : AuditLog} {t u : Store}
    (hlog : t.auditLogs = s.auditLogs ++ [row]) (hnames : row.Names actorId (.invoice, invoiceId))
    (hframe : ∀ e, e ≠ (.invoice, invoiceId) → t.entity e = s.entity e) {target : Option Id}
    (hactor : ∀ id, actorId = some id → mover.id = some id) (hstep : OrderStep t target toStatus mover reason u) :
    (auditOf actorId).Accounted s u ↔ target = none ∨ mover.Labelled := by
  have hwritten : (auditOf actorId).Accounted s t := Audit.accounted_of_row hlog hnames hframe
  cases target with
  | none =>
    rw [hstep]
    exact iff_of_true hwritten (Or.inl rfl)
  | some id =>
    obtain ⟨order, hfound, hvalid, _, rfl⟩ := hstep
    have hid : order.id = id := Table.key_of_find hfound
    subst hid
    by_cases hlabel : mover.Labelled
    · exact iff_of_true (hwritten.trans (moveOrder_accounted hactor hlabel order t)) (Or.inr hlabel)
    refine iff_of_false (fun h => ?_) (fun h => h.elim (fun hnone => nomatch hnone) hlabel)
    have hlog' : (auditOf actorId).log (t.moveOrder order toStatus mover reason) =
        (auditOf actorId).log s ++ [row] := (auditLogs_moveOrder hlabel order t).trans hlog
    -- the order moved, and the row is about the invoice
    have hmoved : (t.moveOrder order toStatus mover reason).entity (.order, order.id) ≠
        s.entity (.order, order.id) := by
      rw [← hframe (.order, order.id) (fun he => nomatch he)]
      intro he
      have hrow := EntityState.order.inj he
      rw [moveOrder_orders, Table.find_modify_self, hfound] at hrow
      have hstatus : toStatus = order.status := congrArg Order.status (Option.some.inj hrow)
      rw [hstatus, isValidOrderTransition_self] at hvalid
      cases hvalid
    obtain ⟨row', hmem, hnames'⟩ := (Audit.accounted_iff hlog').mp h (.order, order.id) hmoved
    rw [List.mem_singleton.mp hmem] at hnames'
    obtain hsubject | ⟨hprice, _⟩ := hnames.entity
    · obtain hother | ⟨hprice, _⟩ := hnames'.entity
      · rw [hsubject] at hother
        cases hother
      · cases hprice
    · cases hprice

end OrderMoves

theorem Issued.accounted_iff {order : Order} {mover : TransitionActor} {client : Client} {invoice : Invoice} {s' : Store}
    (h : Issued env order mover client s invoice s') :
    (auditOf mover.id).Accounted s s' ↔ (order.status = .pending → mover.Labelled) := by
  obtain ⟨value, _, _, hstep⟩ := h.after
  let row := invoiceIssuedAudit order mover invoice.invoiceNumber invoice.id
  let t := s.issueInvoice order mover invoice value
  have hlog : t.auditLogs = s.auditLogs ++ [row] := rfl
  have hnames : row.Names mover.id (.invoice, invoice.id) := ⟨Or.inl rfl, fun _ h => h⟩
  have hframe : ∀ e, e ≠ (.invoice, invoice.id) → t.entity e = s.entity e :=
    fun e he => backs_invoice.insert invoice (s.withCounter (order.tenantId, "invoice_number") value) he
  rw [orderStep_accounted_iff hlog hnames hframe (fun _ h => h) hstep]
  by_cases hpending : order.status = .pending <;> simp [hpending]

theorem issueInvoiceForOrder_covered_iff (order : Order) (mover : TransitionActor) :
    (auditOf mover.id).Covers (issueInvoiceForOrder env order mover) s ↔
      (order.Invoiceable env s → order.status = .pending → mover.Labelled) := by
  rw [Audit.covers_iff_of_atomic (atomic_issueInvoiceForOrder env order mover)]
  constructor
  · intro h hinvoiceable
    obtain ⟨invoice, c, s', hev⟩ := issueInvoiceForOrder_returns_iff.mpr hinvoiceable
    obtain ⟨_, client, hissued⟩ := issueInvoiceForOrder_ok hev
    exact hissued.accounted_iff.mp (h _ _ _ hev)
  · intro h invoice c s' hev
    obtain ⟨_, client, hissued⟩ := issueInvoiceForOrder_ok hev
    exact hissued.accounted_iff.mpr (h hissued.invoiceable)

/-- A payment of all that is due, taken for an order that becomes paid by it. -/
structure OrderSettled (actor : StaffActor) (invoiceId : Id) (input : PaymentInput) (s : Store) (invoice : Invoice)
    (amount : ℤ) (order : Order) : Prop where
  permitted : hasPermission actor.permissions .invoicesWrite = true
  found : s.invoices.find invoiceId = some invoice
  tenant_found : s.hasTenant invoice.tenantId = true
  amount_eq : input.amount = .integer amount
  payment : Payment invoice amount invoice.total 0 .paid
  orderId : invoice.orderId = some order.id
  named : order.id ≠ ""
  order_found : s.orders.find order.id = some order
  order_tenant : s.hasTenant order.tenantId = true
  valid : isValidOrderTransition order.status .paid = true

theorem OrderSettled.target {invoiceId : Id} {input : PaymentInput} {invoice : Invoice} {amount : ℤ} {order : Order}
    (h : OrderSettled actor invoiceId input s invoice amount order) :
    (if InvoiceStatus.paid = .paid then invoice.orderId.filter (fun id => id != "") else none) = some order.id :=
  settledOrder_eq_some_iff.mpr ⟨rfl, h.orderId, h.named⟩

/-- Where a payment moves an order, it settles that order. -/
theorem Paid.orderSettled {invoiceId id : Id} {input : PaymentInput} {invoice : Invoice} {amount : ℤ} {paid due : Int4}
    {status : InvoiceStatus} {s' : Store} (h : Paid env actor invoiceId input s invoice amount paid due status s')
    (htarget : (if status = .paid then invoice.orderId.filter (fun id => id != "") else none) = some id) :
    ∃ order, OrderSettled actor invoiceId input s invoice amount order := by
  obtain ⟨order, hfound, hvalid, htenant⟩ := exists_orderStep_iff.mp ⟨s', h.after⟩ id htarget
  have hid : order.id = id := Table.key_of_find hfound
  subst hid
  obtain ⟨hstatus, horder, hnamed⟩ := settledOrder_eq_some_iff.mp htarget
  have hpayment := h.payment
  subst hstatus
  have hdue : due = 0 := by
    by_contra hne
    have hopen : due.val ≠ 0 := fun hz => hne (Subtype.ext hz)
    have hstatus := hpayment.status_eq
    rw [if_neg hopen] at hstatus
    cases hstatus
  subst hdue
  have hall : paid = invoice.total := by
    have hsum := hpayment.due_eq
    apply Subtype.ext
    change (0 : ℤ) = _ at hsum
    omega
  subst hall
  exact ⟨order, h.permitted, h.found, h.tenant_found, h.amount_eq, hpayment, horder, hnamed, hfound, htenant, hvalid⟩

theorem OrderSettled.paid {invoiceId : Id} {input : PaymentInput} {invoice : Invoice} {amount : ℤ} {order : Order}
    (h : OrderSettled actor invoiceId input s invoice amount order) (env : Env) :
    ∃ s', Paid env actor invoiceId input s invoice amount invoice.total 0 .paid s' := by
  let t := s.payInvoice actor invoice invoice.total 0 .paid (Payment.paidAt env invoice .paid) amount input
  have hstep : OrderStep t (some order.id) .paid actor.transitionActor (some "invoice_paid")
      (t.moveOrder order .paid actor.transitionActor (some "invoice_paid")) :=
    ⟨order, h.order_found, h.valid, h.order_tenant, rfl⟩
  rw [← h.target] at hstep
  exact ⟨_, h.permitted, h.found, h.tenant_found, h.amount_eq, h.payment, hstep⟩

theorem StaffActor.labelled_iff : actor.transitionActor.Labelled ↔ actor.label ≠ "" := by
  simp [TransitionActor.Labelled, StaffActor.transitionActor]

theorem Paid.accounted_iff {invoiceId : Id} {input : PaymentInput} {invoice : Invoice} {amount : ℤ} {paid due : Int4}
    {status : InvoiceStatus} {s' : Store} (h : Paid env actor invoiceId input s invoice amount paid due status s') :
    (auditOf (some actor.id)).Accounted s s' ↔
      (if status = .paid then invoice.orderId.filter (fun id => id != "") else none) = none ∨ actor.label ≠ "" := by
  let row := paymentRecordedAudit actor invoice status paid.val input
  let t := s.payInvoice actor invoice paid due status (Payment.paidAt env invoice status) amount input
  have hlog : t.auditLogs = s.auditLogs ++ [row] := rfl
  have hnames : row.Names (some actor.id) (.invoice, invoice.id) := ⟨Or.inl rfl, fun _ h => h⟩
  rw [← StaffActor.labelled_iff]
  refine orderStep_accounted_iff hlog hnames (fun e he => ?_) (fun _ h => h) h.after
  exact backs_invoice.modify (f := Invoice.withPayment paid due status (Payment.paidAt env invoice status))
    (Invoice.withPayment_id _ _ _ _) s he

theorem markInvoicePaidManually_covered_iff (invoiceId : Id) (input : PaymentInput) :
    (auditOf (some actor.id)).Covers (markInvoicePaidManually env actor invoiceId input) s ↔
      ((∃ invoice amount order, OrderSettled actor invoiceId input s invoice amount order) → actor.label ≠ "") := by
  rw [Audit.covers_iff_of_atomic (atomic_markInvoicePaidManually env actor invoiceId input)]
  constructor
  · rintro h ⟨invoice, amount, order, hsettled⟩
    obtain ⟨s', hpaid⟩ := hsettled.paid env
    have hcommitted := h _ _ _ (markInvoicePaidManually_takes hpaid)
    rw [hpaid.accounted_iff, hsettled.target] at hcommitted
    exact hcommitted.resolve_left (fun hnone => nomatch hnone)
  · intro h updated c s' hev
    obtain ⟨_, invoice, amount, paid, due, status, hpaid⟩ := markInvoicePaidManually_ok hev
    rw [hpaid.accounted_iff]
    cases htarget : (if status = .paid then invoice.orderId.filter (fun id => id != "") else none) with
    | none => exact Or.inl rfl
    | some id =>
      obtain ⟨order, hsettled⟩ := hpaid.orderSettled htarget
      exact Or.inr (h ⟨invoice, amount, order, hsettled⟩)

end Exceptions

/-- When the log accounts for a call. -/
def SensitiveCall.Covered (s : Store) : SensitiveCall → Prop
  | addClientNote env actor clientId body => ¬ NoteAccepted env actor clientId body s
  | createStaffUser env actor input =>
    ∀ role, StaffAdmitted env actor input s role → LinkSent env (staffInviteToken env actor) s
  | setStaffPassword env token newPassword =>
    ∀ record user, s.staffLink env token = some record → s.staffUsers.find record.actorId = some user →
      user.HasPassword env.now (env.hashPassword newPassword)
  | disableStaff2FA env userId => ∀ user, s.staffUsers.find userId = some user → user.LacksSecondFactor env.now
  | issueInvoiceForOrder env order actor => order.Invoiceable env s → order.status = .pending → actor.Labelled
  | markInvoicePaidManually _ actor invoiceId input =>
    (∃ invoice amount order, OrderSettled actor invoiceId input s invoice amount order) → actor.label ≠ ""
  | changeClientStatus _ _ _ _ _ | updateClientProfile _ _ _ _ | disableStaffUser _ _ _ | setSetting _ _ _ _
  | createProductGroup _ _ _ | createProduct _ _ _ | setProductPrice _ _ _ | createOrder _ _ _
  | cancelInvoice _ _ _ => True

/-- A call is audited where it is covered, and only there. -/
theorem sensitive_call_audited_iff (call : SensitiveCall) (s : Store) : call.Audited s ↔ call.Covered s := by
  cases call with
  | addClientNote env actor clientId body => exact addClientNote_covered_iff _ clientId body
  | changeClientStatus env actor clientId toStatus reason =>
    exact iff_of_true (changeClientStatus_covered clientId toStatus reason) trivial
  | updateClientProfile env actor clientId patch =>
    exact iff_of_true (updateClientProfile_covered actor clientId patch) trivial
  | createStaffUser env actor input => exact (Audit.covers_map_iff _).trans (createStaffUser_covered_iff input)
  | disableStaffUser env actor targetUserId => exact iff_of_true (disableStaffUser_covered targetUserId) trivial
  | setStaffPassword env token newPassword => exact setStaffPassword_covered_iff token newPassword
  | disableStaff2FA env userId => exact disableStaff2FA_covered_iff userId
  | setSetting env actor key value => exact iff_of_true (setSetting_covered key value) trivial
  | createProductGroup env actor input =>
    exact iff_of_true ((Audit.covers_map_iff _).mpr (createProductGroup_covered input)) trivial
  | createProduct env actor input =>
    exact iff_of_true ((Audit.covers_map_iff _).mpr (createProduct_covered input)) trivial
  | setProductPrice env actor input =>
    exact iff_of_true ((Audit.covers_map_iff _).mpr (setProductPrice_covered input)) trivial
  | createOrder env actor input =>
    exact iff_of_true ((Audit.covers_map_iff _).mpr (createOrder_covered actor input)) trivial
  | issueInvoiceForOrder env order actor =>
    exact (Audit.covers_map_iff _).trans (issueInvoiceForOrder_covered_iff order actor)
  | markInvoicePaidManually env actor invoiceId input =>
    exact (Audit.covers_map_iff _).trans (markInvoicePaidManually_covered_iff invoiceId input)
  | cancelInvoice actor invoiceId reason =>
    exact iff_of_true ((Audit.covers_map_iff _).mpr (cancelInvoice_covered invoiceId reason)) trivial

/-- A note on a client of the shop leaves no trace in the log. -/
theorem note_leaves_no_row :
    ¬ (SensitiveCall.addClientNote (Sample.env "n") Sample.staff "client" "Called about the invoice.").Audited
      (Sample.shop 0) := by
  intro h
  have hcovered := (addClientNote_covered_iff (some Sample.staff.id) "client" "Called about the invoice.").mp h
  exact hcovered ⟨by decide +kernel, by decide +kernel, by decide +kernel⟩

end HostPanel.Model
