import HostPanel.Access.Logins

namespace HostPanel.Model

open HostPanel.Lib HostPanel.Lib.Program

/-- A staff user keeps its id, and once inactive it stays so. -/
structure StaffUser.Ages (r r' : StaffUser) : Prop where
  id : r'.id = r.id
  inactive : r.isActive = false → r'.isActive = false

/-- A staff session keeps its owner, its token and its end, and a revocation is
for good. -/
structure StaffSession.Ages (r r' : StaffSession) : Prop where
  id : r'.id = r.id
  userId : r'.userId = r.userId
  tokenHash : r'.tokenHash = r.tokenHash
  expiresAt : r'.expiresAt = r.expiresAt
  revokedAt : r.revokedAt ≠ none → r'.revokedAt = r.revokedAt

structure ClientContact.Ages (r r' : ClientContact) : Prop where
  id : r'.id = r.id
  clientId : r'.clientId = r.clientId
  inactive : r.isActive = false → r'.isActive = false

structure ClientSession.Ages (r r' : ClientSession) : Prop where
  id : r'.id = r.id
  contactId : r'.contactId = r.contactId
  tokenHash : r'.tokenHash = r.tokenHash
  expiresAt : r'.expiresAt = r.expiresAt
  impersonatedByStaffUserId : r'.impersonatedByStaffUserId = r.impersonatedByStaffUserId
  revokedAt : r.revokedAt ≠ none → r'.revokedAt = r.revokedAt

theorem StaffUser.ages_refl (r : StaffUser) : r.Ages r := ⟨rfl, fun h => h⟩

theorem StaffUser.Ages.trans {r r' r'' : StaffUser} (h : r.Ages r') (h' : r'.Ages r'') : r.Ages r'' :=
  ⟨h'.id.trans h.id, fun hi => h'.inactive (h.inactive hi)⟩

theorem StaffUser.ages_disable (now : DateTime) (r : StaffUser) :
    StaffUser.Ages r { r with status := .disabled, updatedAt := now } :=
  ⟨rfl, fun _ => rfl⟩

theorem StaffUser.ages_of_standing {r r' : StaffUser} (h : r'.standing = r.standing) : r.Ages r' := by
  have hid : r'.standing.id = r.standing.id := congrArg StaffUser.id h
  have hactive : r'.standing.isActive = r.standing.isActive := congrArg StaffUser.isActive h
  exact ⟨hid, fun hi => hactive.trans hi⟩

theorem StaffSession.ages_refl (r : StaffSession) : r.Ages r := ⟨rfl, rfl, rfl, rfl, fun _ => rfl⟩

theorem StaffSession.Ages.trans {r r' r'' : StaffSession} (h : r.Ages r') (h' : r'.Ages r'') : r.Ages r'' := by
  refine ⟨h'.id.trans h.id, h'.userId.trans h.userId, h'.tokenHash.trans h.tokenHash,
    h'.expiresAt.trans h.expiresAt, fun hr => ?_⟩
  have hr' := h.revokedAt hr
  exact (h'.revokedAt (hr' ▸ hr)).trans hr'

theorem StaffSession.ages_revoke {r : StaffSession} (h : r.revokedAt = none) (at_ : DateTime) (reason : String) :
    StaffSession.Ages r { r with revokedAt := some at_, revokedReason := some reason } :=
  ⟨rfl, rfl, rfl, rfl, fun hr => absurd h hr⟩

theorem ClientContact.ages_refl (r : ClientContact) : r.Ages r := ⟨rfl, rfl, fun h => h⟩

theorem ClientContact.Ages.trans {r r' r'' : ClientContact} (h : r.Ages r') (h' : r'.Ages r'') : r.Ages r'' :=
  ⟨h'.id.trans h.id, h'.clientId.trans h.clientId, fun hi => h'.inactive (h.inactive hi)⟩

theorem ClientContact.ages_of_standing {r r' : ClientContact} (h : r'.standing = r.standing) : r.Ages r' := by
  have hid : r'.standing.id = r.standing.id := congrArg ClientContact.id h
  have hclient : r'.standing.clientId = r.standing.clientId := congrArg ClientContact.clientId h
  have hactive : r'.standing.isActive = r.standing.isActive := congrArg ClientContact.isActive h
  exact ⟨hid, hclient, fun hi => hactive.trans hi⟩

theorem ClientSession.ages_refl (r : ClientSession) : r.Ages r := ⟨rfl, rfl, rfl, rfl, rfl, fun _ => rfl⟩

theorem ClientSession.Ages.trans {r r' r'' : ClientSession} (h : r.Ages r') (h' : r'.Ages r'') : r.Ages r'' := by
  refine ⟨h'.id.trans h.id, h'.contactId.trans h.contactId, h'.tokenHash.trans h.tokenHash,
    h'.expiresAt.trans h.expiresAt, h'.impersonatedByStaffUserId.trans h.impersonatedByStaffUserId, fun hr => ?_⟩
  have hr' := h.revokedAt hr
  exact (h'.revokedAt (hr' ▸ hr)).trans hr'

variable {H : String → Prop}

/-- Accounts and sessions are only added, and only age; a new session has a
token whose hash meets `H`. -/
structure Store.Ages (H : String → Prop) (s s' : Store) : Prop where
  staffUsers : Grown StaffUser.Ages s.staffUsers.rows s'.staffUsers.rows
  staffSessions : Grown StaffSession.Ages s.staffSessions.rows s'.staffSessions.rows
  clientContacts : Grown ClientContact.Ages s.clientContacts.rows s'.clientContacts.rows
  clientSessions : Grown ClientSession.Ages s.clientSessions.rows s'.clientSessions.rows
  staffTokens : ∀ r ∈ s'.staffSessions, H r.tokenHash ∨ ∃ q ∈ s.staffSessions, q.tokenHash = r.tokenHash
  clientTokens : ∀ r ∈ s'.clientSessions, H r.tokenHash ∨ ∃ q ∈ s.clientSessions, q.tokenHash = r.tokenHash

theorem Store.ages_refl (s : Store) : s.Ages H s :=
  ⟨.refl StaffUser.ages_refl _, .refl StaffSession.ages_refl _, .refl ClientContact.ages_refl _,
    .refl ClientSession.ages_refl _, fun r hr => Or.inr ⟨r, hr, rfl⟩, fun r hr => Or.inr ⟨r, hr, rfl⟩⟩

theorem Store.Ages.trans {s t u : Store} (h : s.Ages H t) (h' : t.Ages H u) : s.Ages H u := by
  refine ⟨h.staffUsers.trans (fun _ _ _ => .trans) h'.staffUsers,
    h.staffSessions.trans (fun _ _ _ => .trans) h'.staffSessions,
    h.clientContacts.trans (fun _ _ _ => .trans) h'.clientContacts,
    h.clientSessions.trans (fun _ _ _ => .trans) h'.clientSessions, fun r hr => ?_, fun r hr => ?_⟩
  · obtain hnew | ⟨q, hq, hhash⟩ := h'.staffTokens r hr
    · exact Or.inl hnew
    · exact hhash ▸ h.staffTokens q hq
  · obtain hnew | ⟨q, hq, hhash⟩ := h'.clientTokens r hr
    · exact Or.inl hnew
    · exact hhash ▸ h.clientTokens q hq

theorem Store.Ages.mono {H' : String → Prop} {s t : Store} (h : s.Ages H t) (hH : ∀ x, H x → H' x) : s.Ages H' t :=
  { h with
    staffTokens := fun r hr => (h.staffTokens r hr).imp_left (hH _)
    clientTokens := fun r hr => (h.clientTokens r hr).imp_left (hH _) }

section Writes

variable (s : Store)

theorem ages_modifyStaffUser (i : Id) (f : StaffUser → StaffUser) (hf : ∀ r, (f r).id = r.id)
    (h : ∀ r, StaffUser.Ages r (f r)) : s.Ages H (prisma.staffUser.modify i f hf s) :=
  { s.ages_refl with
    staffUsers := Table.grown_updateWhere StaffUser.ages_refl _ _ f hf (fun r _ => h r) }

theorem ages_insertStaffUser (row : StaffUser) : s.Ages H (prisma.staffUser.insert row s) :=
  { s.ages_refl with staffUsers := Table.grown_insert StaffUser.ages_refl _ row }

theorem ages_modifyStaffSession (p : StaffSession → Bool) (f : StaffSession → StaffSession)
    (hf : ∀ r, (f r).id = r.id) (h : ∀ r, p r = true → r.Ages (f r)) :
    s.Ages H (prisma.staffSession.modifyWhere p f hf s) := by
  refine { s.ages_refl with
    staffSessions := Table.grown_updateWhere StaffSession.ages_refl _ p f hf h
    staffTokens := fun r hr => ?_ }
  have hr' : r ∈ s.staffSessions.updateWhere p f hf := hr
  obtain ⟨q, hq, rfl⟩ := Table.mem_updateWhere.mp hr'
  refine Or.inr ⟨q, hq, ?_⟩
  by_cases hp : p q = true
  · rw [if_pos hp, (h q hp).tokenHash]
  · rw [if_neg hp]

theorem ages_insertStaffSession (row : StaffSession) (h : H row.tokenHash) :
    s.Ages H (prisma.staffSession.insert row s) := by
  refine { s.ages_refl with
    staffSessions := Table.grown_insert StaffSession.ages_refl _ row
    staffTokens := fun r hr => ?_ }
  obtain hold | rfl := Table.of_mem_insert (t := s.staffSessions) hr
  · exact Or.inr ⟨r, hold, rfl⟩
  · exact Or.inl h

theorem ages_modifyContact (i : Id) (f : ClientContact → ClientContact) (hf : ∀ r, (f r).id = r.id)
    (h : ∀ r, ClientContact.Ages r (f r)) : s.Ages H (prisma.clientContact.modify i f hf s) :=
  { s.ages_refl with
    clientContacts := Table.grown_updateWhere ClientContact.ages_refl _ _ f hf (fun r _ => h r) }

theorem ages_insertContact (row : ClientContact) : s.Ages H (prisma.clientContact.insert row s) :=
  { s.ages_refl with clientContacts := Table.grown_insert ClientContact.ages_refl _ row }

theorem ages_modifyClientSession (p : ClientSession → Bool) (f : ClientSession → ClientSession)
    (hf : ∀ r, (f r).id = r.id) (h : ∀ r, p r = true → r.Ages (f r)) :
    s.Ages H (prisma.clientSession.modifyWhere p f hf s) := by
  refine { s.ages_refl with
    clientSessions := Table.grown_updateWhere ClientSession.ages_refl _ p f hf h
    clientTokens := fun r hr => ?_ }
  have hr' : r ∈ s.clientSessions.updateWhere p f hf := hr
  obtain ⟨q, hq, rfl⟩ := Table.mem_updateWhere.mp hr'
  refine Or.inr ⟨q, hq, ?_⟩
  by_cases hp : p q = true
  · rw [if_pos hp, (h q hp).tokenHash]
  · rw [if_neg hp]

theorem ages_insertClientSession (row : ClientSession) (h : H row.tokenHash) :
    s.Ages H (prisma.clientSession.insert row s) := by
  refine { s.ages_refl with
    clientSessions := Table.grown_insert ClientSession.ages_refl _ row
    clientTokens := fun r hr => ?_ }
  obtain hold | rfl := Table.of_mem_insert (t := s.clientSessions) hr
  · exact Or.inr ⟨r, hold, rfl⟩
  · exact Or.inl h

end Writes

/-- The accounts and the sessions. -/
def Store.accounts (s : Store) :
    Table StaffUser.id × Table StaffSession.id × Table ClientContact.id × Table ClientSession.id :=
  (s.staffUsers, s.staffSessions, s.clientContacts, s.clientSessions)

theorem ages_of_accounts (s t : Store) (h : t.accounts = s.accounts) : s.Ages H t := by
  simp only [Store.accounts, Prod.mk.injEq] at h
  obtain ⟨hu, hs, hc, hcs⟩ := h
  have hrefl := s.ages_refl (H := H)
  exact ⟨hu ▸ hrefl.staffUsers, hs ▸ hrefl.staffSessions, hc ▸ hrefl.clientContacts, hcs ▸ hrefl.clientSessions,
    hs ▸ hrefl.staffTokens, hcs ▸ hrefl.clientTokens⟩

/-- A store but for the rows that tell of no account, session or history: clients
with their notes, the tokens sent by e-mail, the mail and the login events. -/
def Store.withoutTraces (s : Store) : Store :=
  { s with
    clients := ∅
    clientNotes := ∅
    emailVerificationTokens := ∅
    passwordResetTokens := ∅
    loginEvents := ∅
    emailLogs := [] }

/-- What a relation must keep for every access service to keep it: accounts and
sessions are added or aged, histories appended to. -/
structure KeptByAccess (H : String → Prop) (rel : Store → Store → Prop) : Prop where
  traces : ∀ s t : Store, t.withoutTraces = s.withoutTraces → rel s t
  auditLog : ∀ row (t : Store), rel t (t.withAuditLog row)
  statusHistory : ∀ row (t : Store), rel t (t.withStatusHistory row)
  staffUser : ∀ i f hf, (∀ r, StaffUser.Ages r (f r)) → ∀ t, rel t (prisma.staffUser.modify i f hf t)
  newStaffUser : ∀ row t, rel t (prisma.staffUser.insert row t)
  staffSession : ∀ p f hf, (∀ r, p r = true → StaffSession.Ages r (f r)) →
    ∀ t, rel t (prisma.staffSession.modifyWhere p f hf t)
  newStaffSession : ∀ row, H row.tokenHash → ∀ t, rel t (prisma.staffSession.insert row t)
  contact : ∀ i f hf, (∀ r, ClientContact.Ages r (f r)) → ∀ t, rel t (prisma.clientContact.modify i f hf t)
  newContact : ∀ row t, rel t (prisma.clientContact.insert row t)
  clientSession : ∀ p f hf, (∀ r, p r = true → ClientSession.Ages r (f r)) →
    ∀ t, rel t (prisma.clientSession.modifyWhere p f hf t)
  newClientSession : ∀ row, H row.tokenHash → ∀ t, rel t (prisma.clientSession.insert row t)

theorem keptByAccess_ages : KeptByAccess H (Store.Ages H) where
  traces s t h := by
    have haccounts : t.withoutTraces.accounts = s.withoutTraces.accounts := congrArg Store.accounts h
    exact ages_of_accounts s t haccounts
  auditLog _ t := ages_of_accounts t _ rfl
  statusHistory _ t := ages_of_accounts t _ rfl
  staffUser i f hf h t := ages_modifyStaffUser t i f hf h
  newStaffUser row t := ages_insertStaffUser t row
  staffSession p f hf h t := ages_modifyStaffSession t p f hf h
  newStaffSession row h t := ages_insertStaffSession t row h
  contact i f hf h t := ages_modifyContact t i f hf h
  newContact row t := ages_insertContact t row
  clientSession p f hf h t := ages_modifyClientSession t p f hf h
  newClientSession row h t := ages_insertClientSession t row h

section Guarantees

variable {α : Type} {env : Env} {rel : Store → Store → Prop} (hrel : KeptByAccess H rel)

theorem guarantees_loadStaffActor (userId : Id) : (loadStaffActor userId).Guarantees rel := by
  refine (Relation.guarantees_findUnique _).bind (fun user => ?_)
  cases user.filter StaffUser.isActive with
  | none => trivial
  | some user => exact fun _ => trivial

theorem guarantees_findPasswordToken (actorType : AuthActorType) (token : String) :
    (findPasswordToken env actorType token).Guarantees rel :=
  (Relation.guarantees_findFirst _).bind (fun _ => guarantees_orThrow _ _)

include hrel

theorem KeptByAccess.of_leaves {p : Db α} (hp : p.Leaves Store.withoutTraces) : p.Guarantees rel :=
  hp.guarantees hrel.traces

theorem kept_recordAuditLog (row : AuditLog) : (recordAuditLog row).Guarantees rel :=
  guarantees_recordAuditLog row (hrel.auditLog row)

theorem kept_recordStatusTransition (row : StatusHistory) : (recordStatusTransition row).Guarantees rel :=
  guarantees_recordStatusTransition row (hrel.statusHistory row)

theorem kept_queueEmail (row : EmailLog) : (queueEmail env row).Guarantees rel :=
  hrel.of_leaves (leaves_queueEmail env row (fun _ _ => rfl))

theorem kept_updateStaffUser (i : Id) (f : StaffUser → StaffUser) (hf : ∀ r, (f r).id = r.id)
    (h : ∀ r, StaffUser.Ages r (f r)) : (prisma.staffUser.update i f hf).Guarantees rel :=
  Relation.guarantees_update i f hf (hrel.staffUser i f hf h)

theorem kept_updateContact (i : Id) (f : ClientContact → ClientContact) (hf : ∀ r, (f r).id = r.id)
    (h : ∀ r, ClientContact.Ages r (f r)) : (prisma.clientContact.update i f hf).Guarantees rel :=
  Relation.guarantees_update i f hf (hrel.contact i f hf h)

theorem kept_events : KeptByEvents rel := fun _ t => hrel.traces t _ rfl

theorem kept_staff : KeptByStaff rel :=
  fun i f hf h => hrel.staffUser i f hf (fun r => StaffUser.ages_of_standing (h r))

theorem kept_sendPasswordLink (token : PasswordResetToken) (mail : EmailLog) :
    (sendPasswordLink env token mail).Guarantees rel := by
  refine Guarantees.bind (Guarantees.transaction ?_) (fun _ => kept_queueEmail hrel mail)
  exact hrel.of_leaves (Relation.leaves_create _ (fun _ => rfl))

theorem kept_consumeToken (record : PasswordResetToken) : (consumeToken env record).Guarantees rel :=
  hrel.of_leaves ((Relation.leaves_update _ _ _ (fun _ => rfl)).bind (fun _ => trivial))

theorem kept_createStaffSession (input : StaffSessionInput) (h : H (env.hashToken env.generateToken)) :
    (createStaffSession env input).Guarantees rel :=
  (Relation.guarantees_create _ (hrel.newStaffSession _ h)).transaction.bind (fun _ => trivial)

theorem kept_validateStaffSession (token : String) : (validateStaffSession env token).Guarantees rel := by
  refine (Relation.guarantees_findFirst _).bind (fun session => ?_)
  cases session.filter (StaffSession.isLive env.now) with
  | none => trivial
  | some session =>
    refine Guarantees.bind (Guarantees.transaction ?_) (fun _ => guarantees_loadStaffActor _)
    exact Relation.guarantees_update _ _ _
      (hrel.staffSession _ _ _ (fun _ _ => ⟨rfl, rfl, rfl, rfl, fun _ => rfl⟩))

theorem kept_revokeStaffSession (token reason : String) :
    (revokeStaffSession env token reason).Guarantees rel := by
  apply Guarantees.transaction
  refine Relation.guarantees_updateMany _ _ _ (fun q hq => hrel.staffSession q _ _ (fun r hr => ?_))
  have hp := hq r hr
  rw [Bool.and_eq_true, beq_iff_eq, beq_iff_eq] at hp
  exact StaffSession.ages_revoke hp.2 _ _

theorem kept_createClientSession (input : ClientSessionInput) (h : H (env.hashToken env.generateToken)) :
    (createClientSession env input).Guarantees rel :=
  (Relation.guarantees_create _ (hrel.newClientSession _ h)).transaction.bind (fun _ => trivial)

theorem kept_validateClientSession (token : String) : (validateClientSession env token).Guarantees rel := by
  refine (Relation.guarantees_findFirst _).bind (fun session => ?_)
  cases session.filter (ClientSession.isLive env.now) with
  | none => trivial
  | some session =>
    refine Guarantees.bind (Guarantees.transaction ?_) (fun _ => ?_)
    · exact Relation.guarantees_update _ _ _
        (hrel.clientSession _ _ _ (fun _ _ => ⟨rfl, rfl, rfl, rfl, rfl, fun _ => rfl⟩))
    · exact Guarantees.bind ((Relation.guarantees_findUnique _).bind (fun _ => trivial)) (fun _ => trivial)

theorem kept_revokeClientSession (token reason : String) :
    (revokeClientSession env token reason).Guarantees rel := by
  apply Guarantees.transaction
  refine Relation.guarantees_updateMany _ _ _ (fun q hq => hrel.clientSession q _ _ (fun r hr => ?_))
  have hp := hq r hr
  rw [Bool.and_eq_true, beq_iff_eq, beq_iff_eq] at hp
  exact ⟨rfl, rfl, rfl, rfl, rfl, fun hrevoked => absurd hp.2 hrevoked⟩

theorem kept_authenticateStaffUser (input : StaffLoginInput) :
    (authenticateStaffUser env input).Guarantees rel :=
  guarantees_authenticateStaffUser (kept_events hrel) (kept_staff hrel) input

theorem kept_createStaffUser (actor : StaffActor) (input : CreateStaffUserInput) :
    (createStaffUser env actor input).Guarantees rel := by
  refine (guarantees_requirePermission _ _).bind (fun _ => (Relation.guarantees_findFirst _).bind (fun found => ?_))
  refine (guarantees_orThrow _ _).bind (fun role => (Relation.guarantees_findFirst _).bind (fun existing => ?_))
  refine (guarantees_ensure _ _).bind (fun _ => Guarantees.bind (Guarantees.transaction ?_) (fun user => ?_))
  · refine (Relation.guarantees_create _ (hrel.newStaffUser _)).bind (fun created => ?_)
    exact (kept_recordAuditLog hrel _).bind (fun _ => trivial)
  · exact (kept_sendPasswordLink hrel _ _).bind (fun _ => trivial)

theorem kept_disableStaffUser (actor : StaffActor) (targetUserId : Id) :
    (disableStaffUser env actor targetUserId).Guarantees rel := by
  refine (guarantees_requirePermission _ _).bind (fun _ => Guarantees.transaction ?_)
  refine (kept_updateStaffUser hrel _ _ _ (StaffUser.ages_disable env.now)).bind (fun target => ?_)
  refine (kept_recordAuditLog hrel _).bind (fun _ => ?_)
  refine Relation.guarantees_updateMany _ _ _ (fun q hq => hrel.staffSession q _ _ (fun r hr => ?_))
  have hp := hq r hr
  rw [StaffSession.openFor, Bool.and_eq_true, beq_iff_eq, beq_iff_eq] at hp
  exact StaffSession.ages_revoke hp.2 _ _

theorem kept_setStaffPassword (token newPassword : String) :
    (setStaffPassword env token newPassword).Guarantees rel := by
  refine (guarantees_findPasswordToken _ _).bind (fun record => Guarantees.transaction ?_)
  refine Guarantees.bind ?_ (fun _ => kept_consumeToken hrel record)
  exact kept_updateStaffUser hrel _ _ _ (fun _ => ⟨rfl, fun h => h⟩)

theorem kept_requestStaffPasswordReset (tenantId : Id) (email : String) :
    (requestStaffPasswordReset env tenantId email).Guarantees rel := by
  refine (Relation.guarantees_findFirst _).bind (fun found => ?_)
  cases found.filter StaffUser.isActive with
  | none => trivial
  | some user => exact kept_sendPasswordLink hrel _ _

theorem kept_confirmStaff2FAEnrollment (userId : Id) (secret token : String) :
    (confirmStaff2FAEnrollment env userId secret token).Guarantees rel := by
  refine (guarantees_ensure _ _).bind (fun _ => (guarantees_lift _).bind (fun encrypted => ?_))
  refine Guarantees.bind (Guarantees.transaction ?_) (fun _ => trivial)
  exact kept_updateStaffUser hrel _ _ _ (fun _ => ⟨rfl, fun h => h⟩)

theorem kept_disableStaff2FA (userId : Id) : (disableStaff2FA env userId).Guarantees rel := by
  refine Guarantees.bind (Guarantees.transaction ?_) (fun _ => trivial)
  exact kept_updateStaffUser hrel _ _ _ (fun _ => ⟨rfl, fun h => h⟩)

theorem kept_updateClient (i : Id) (f : Client → Client) (hf : ∀ r, (f r).id = r.id) :
    (prisma.client.update i f hf).Guarantees rel :=
  hrel.of_leaves (Relation.leaves_update _ _ _ (fun _ => rfl))

theorem kept_authenticateClientContact (input : LoginInput) :
    (authenticateClientContact env input).Guarantees rel := by
  refine guarantees_authenticateClientContact (kept_events hrel) (fun i f hf h => ?_) (fun i at_ t => ?_) input
  · exact hrel.contact i f hf (fun r => ClientContact.ages_of_standing (h r))
  · exact hrel.traces t _ rfl

theorem kept_setClientPassword (token newPassword : String) :
    (setClientPassword env token newPassword).Guarantees rel := by
  refine (guarantees_findPasswordToken _ _).bind (fun record => Guarantees.transaction ?_)
  refine Guarantees.bind ?_ (fun _ => kept_consumeToken hrel record)
  exact kept_updateContact hrel _ _ _ (fun _ => ⟨rfl, rfl, fun h => h⟩)

theorem kept_requestClientPasswordReset (tenantId : Id) (email : String) :
    (requestClientPasswordReset env tenantId email).Guarantees rel := by
  refine (Relation.guarantees_findFirst _).bind (fun found => ?_)
  cases found.filter ClientContact.isActive with
  | none => trivial
  | some contact => exact kept_sendPasswordLink hrel _ _

theorem kept_registerClient (input : RegisterClientInput) : (registerClient env input).Guarantees rel := by
  refine (Relation.guarantees_findFirst _).bind (fun _ => (Relation.guarantees_findFirst _).bind (fun _ => ?_))
  refine (guarantees_ensure _ _).bind (fun _ => Guarantees.bind (Guarantees.transaction ?_) (fun created => ?_))
  · refine (hrel.of_leaves (Relation.leaves_create _ (fun _ => rfl))).bind (fun client => ?_)
    refine (Relation.guarantees_create _ (hrel.newContact _)).bind (fun contact => ?_)
    refine (kept_recordStatusTransition hrel _).bind (fun _ => ?_)
    exact (kept_recordAuditLog hrel _).bind (fun _ => trivial)
  · exact (hrel.of_leaves (leaves_sendVerification env input _ _ (fun _ _ => rfl) (fun _ _ => rfl))).bind
      (fun _ => trivial)

theorem kept_transitionClientStatus (clientId : Id) (toStatus : ClientStatus) (actor : TransitionActor)
    (reason : Option String) : (transitionClientStatus env clientId toStatus actor reason).Guarantees rel := by
  refine (Relation.guarantees_findUniqueOrThrow _).bind (fun client => (guarantees_ensure _ _).bind (fun _ => ?_))
  refine (kept_updateClient hrel _ _ _).bind (fun updated => ?_)
  exact (kept_recordStatusTransition hrel _).bind (fun _ => trivial)

theorem kept_verifyPending (client : Client) (contactId : Id) :
    (verifyPending env client contactId).Guarantees rel := by
  unfold verifyPending
  split
  · refine (kept_transitionClientStatus hrel _ _ _ _).bind (fun _ => ?_)
    exact (kept_updateClient hrel _ _ _).bind (fun _ => trivial)
  · trivial

theorem kept_verifyClientEmail (token : String) : (verifyClientEmail env token).Guarantees rel := by
  refine (Relation.guarantees_findFirst _).bind (fun found => (guarantees_orThrow _ _).bind (fun record => ?_))
  refine (Relation.guarantees_findUniqueOrThrow _).bind (fun contact => ?_)
  refine Guarantees.bind (Guarantees.transaction ?_) (fun _ => kept_queueEmail hrel _)
  refine Guarantees.bind (kept_updateContact hrel _ _ _ ?_) (fun _ => ?_)
  · exact fun _ => ⟨rfl, rfl, fun h => h⟩
  refine (hrel.of_leaves (Relation.leaves_update _ _ _ (fun _ => rfl))).bind (fun _ => ?_)
  exact (Relation.guarantees_findUniqueOrThrow _).bind (fun client => kept_verifyPending hrel client _)

theorem kept_addClientNote (actor : StaffActor) (clientId : Id) (body : String) :
    (addClientNote env actor clientId body).Guarantees rel := by
  refine (guarantees_requirePermission _ _).bind (fun _ => Guarantees.bind (Guarantees.transaction ?_) (fun _ => trivial))
  exact hrel.of_leaves (Relation.leaves_create _ (fun _ => rfl))

theorem kept_changeClientStatus (actor : StaffActor) (clientId : Id) (toStatus : ClientStatus) (reason : String) :
    (changeClientStatus env actor clientId toStatus reason).Guarantees rel := by
  refine (guarantees_requirePermission _ _).bind (fun _ => Guarantees.transaction ?_)
  exact (kept_transitionClientStatus hrel _ _ _ _).bind (fun _ => kept_recordAuditLog hrel _)

theorem kept_updateClientProfile (actor : Actor) (clientId : Id) (patch : ProfilePatch) :
    (updateClientProfile env actor clientId patch).Guarantees rel := by
  refine Guarantees.bind ?_ (fun _ => Guarantees.transaction ?_)
  · cases actor <;> exact guarantees_ensure _ _
  · refine (Relation.guarantees_findUniqueOrThrow _).bind (fun before => ?_)
    exact (kept_updateClient hrel _ _ _).bind (fun _ => kept_recordAuditLog hrel _)

theorem kept_authorizeStaff (raw : Credentials) (tenantId : Id) (h : H (env.hashToken env.generateToken)) :
    (authorizeStaff env raw tenantId).Guarantees rel := by
  refine (kept_authenticateStaffUser hrel _).bind (fun staff => Guarantees.bind ?_ (fun _ => trivial))
  exact kept_createStaffSession hrel _ h

theorem kept_authorizeClient (raw : Credentials) (tenantId : Id) (h : H (env.hashToken env.generateToken)) :
    (authorizeClient env raw tenantId).Guarantees rel := by
  refine (kept_authenticateClientContact hrel _).bind (fun contact => Guarantees.bind ?_ (fun _ => trivial))
  exact kept_createClientSession hrel _ h

theorem kept_authorize (raw : Credentials) (h : H (env.hashToken env.generateToken)) :
    (authorize env raw).Guarantees rel := by
  refine (guarantees_ensure _ _).bind (fun _ => Guarantees.bind ?_ (fun tenant => ?_))
  · exact (Relation.guarantees_findFirst _).bind (fun _ => guarantees_orThrow _ _)
  · cases raw.actorType with
    | staff => exact kept_authorizeStaff hrel raw tenant.id h
    | clientContact => exact kept_authorizeClient hrel raw tenant.id h

theorem kept_sessionCallback (session : WebSession) (token : Jwt) :
    (sessionCallback env session token).Guarantees rel := by
  unfold sessionCallback
  split
  · exact (kept_validateStaffSession hrel _).bind (fun _ => trivial)
  · exact (kept_validateClientSession hrel _).bind (fun _ => trivial)
  · trivial

/-- Every access service writes within what the relation keeps. -/
theorem AccessCall.guarantees (call : AccessCall) (h : H (call.env.hashToken call.env.generateToken)) :
    call.program.Guarantees rel := by
  obtain ⟨env, op⟩ := call
  cases op with
  | createStaffSession input => exact (kept_createStaffSession hrel input h).bind (fun _ => trivial)
  | validateStaffSession token => exact (kept_validateStaffSession hrel token).bind (fun _ => trivial)
  | revokeStaffSession token reason => exact (kept_revokeStaffSession hrel token reason).bind (fun _ => trivial)
  | createClientSession input => exact (kept_createClientSession hrel input h).bind (fun _ => trivial)
  | validateClientSession token => exact (kept_validateClientSession hrel token).bind (fun _ => trivial)
  | revokeClientSession token reason => exact (kept_revokeClientSession hrel token reason).bind (fun _ => trivial)
  | authenticateStaffUser input => exact (kept_authenticateStaffUser hrel input).bind (fun _ => trivial)
  | createStaffUser actor input => exact (kept_createStaffUser hrel actor input).bind (fun _ => trivial)
  | disableStaffUser actor userId => exact (kept_disableStaffUser hrel actor userId).bind (fun _ => trivial)
  | setStaffPassword token password => exact (kept_setStaffPassword hrel token password).bind (fun _ => trivial)
  | requestStaffPasswordReset tenantId email =>
    exact (kept_requestStaffPasswordReset hrel tenantId email).bind (fun _ => trivial)
  | confirmStaff2FAEnrollment userId secret token =>
    exact (kept_confirmStaff2FAEnrollment hrel userId secret token).bind (fun _ => trivial)
  | disableStaff2FA userId => exact (kept_disableStaff2FA hrel userId).bind (fun _ => trivial)
  | authenticateClientContact input => exact (kept_authenticateClientContact hrel input).bind (fun _ => trivial)
  | setClientPassword token password => exact (kept_setClientPassword hrel token password).bind (fun _ => trivial)
  | requestClientPasswordReset tenantId email =>
    exact (kept_requestClientPasswordReset hrel tenantId email).bind (fun _ => trivial)
  | registerClient input => exact (kept_registerClient hrel input).bind (fun _ => trivial)
  | verifyClientEmail token => exact (kept_verifyClientEmail hrel token).bind (fun _ => trivial)
  | addClientNote actor clientId body => exact (kept_addClientNote hrel actor clientId body).bind (fun _ => trivial)
  | changeClientStatus actor clientId toStatus reason =>
    exact (kept_changeClientStatus hrel actor clientId toStatus reason).bind (fun _ => trivial)
  | updateClientProfile actor clientId patch =>
    exact (kept_updateClientProfile hrel actor clientId patch).bind (fun _ => trivial)
  | authorize raw => exact (kept_authorize hrel raw h).bind (fun _ => trivial)
  | sessionCallback session token => exact (kept_sessionCallback hrel session token).bind (fun _ => trivial)
  | logoutAction cookie => trivial
  | staffLogoutAction cookie => trivial

end Guarantees

theorem AccessCall.aging (call : AccessCall) (h : H (call.env.hashToken call.env.generateToken)) :
    call.program.Guarantees (Store.Ages H) := call.guarantees keptByAccess_ages h

/-- The hash of a token that one of the calls drew. -/
def AccessCall.Drew (calls : List AccessCall) (hash : String) : Prop :=
  ∃ call ∈ calls, hash = call.env.hashToken call.env.generateToken

theorem ages_runAccess (s : Store) (calls : List AccessCall) : s.Ages (AccessCall.Drew calls) (runAccess s calls) := by
  induction calls generalizing s with
  | nil => exact s.ages_refl
  | cons call calls ih =>
    have hdrew : AccessCall.Drew (call :: calls) (call.env.hashToken call.env.generateToken) :=
      ⟨call, List.mem_cons_self, rfl⟩
    have hfirst : s.Ages (AccessCall.Drew (call :: calls)) (call.after s) :=
      after_of_guarantees Store.ages_refl (fun _ _ _ => Store.Ages.trans) (call.aging hdrew) s
    refine hfirst.trans ((ih (call.after s)).mono ?_)
    rintro x ⟨c, hc, hx⟩
    exact ⟨c, List.mem_cons_of_mem call hc, hx⟩

end HostPanel.Model
