import HostPanel.Access.Pending
import HostPanel.Web.Writes

namespace HostPanel.Model

open HostPanel.Lib HostPanel.Lib.Program

/-- A login and a new password leave the account as active as it was. -/
structure StaffUser.Stands (r r' : StaffUser) : Prop where
  id_eq : r'.id = r.id
  isActive : r'.isActive = r.isActive

structure ClientContact.Stands (r r' : ClientContact) : Prop where
  id_eq : r'.id = r.id
  isActive : r'.isActive = r.isActive

/-- Only the time of the last use changes. -/
def StaffSession.Stands (r r' : StaffSession) : Prop := r' = { r with lastSeenAt := r'.lastSeenAt }

def ClientSession.Stands (r r' : ClientSession) : Prop := r' = { r with lastSeenAt := r'.lastSeenAt }

/-- The sessions of one state stand in another, and the accounts are as active. -/
structure Store.Stands (s t : Store) : Prop where
  staffUsers : Grown StaffUser.Stands s.staffUsers.rows t.staffUsers.rows
  staffSessions : Grown StaffSession.Stands s.staffSessions.rows t.staffSessions.rows
  clientContacts : Grown ClientContact.Stands s.clientContacts.rows t.clientContacts.rows
  clientSessions : Grown ClientSession.Stands s.clientSessions.rows t.clientSessions.rows

theorem StaffUser.stands_refl (r : StaffUser) : r.Stands r := ⟨rfl, rfl⟩

theorem StaffUser.Stands.trans {r r' r'' : StaffUser} (h : r.Stands r') (h' : r'.Stands r'') : r.Stands r'' :=
  ⟨h'.id_eq.trans h.id_eq, h'.isActive.trans h.isActive⟩

theorem StaffUser.stands_of_standing {r r' : StaffUser} (hid : r'.id = r.id) (h : r'.standing = r.standing) : r.Stands r' := by
  have hactive : r'.standing.isActive = r.standing.isActive := congrArg StaffUser.isActive h
  exact ⟨hid, hactive⟩

theorem ClientContact.stands_of_standing {r r' : ClientContact} (hid : r'.id = r.id) (h : r'.standing = r.standing) :
    r.Stands r' := by
  have hactive : r'.standing.isActive = r.standing.isActive := congrArg ClientContact.isActive h
  exact ⟨hid, hactive⟩

theorem ClientContact.stands_refl (r : ClientContact) : r.Stands r := ⟨rfl, rfl⟩

theorem ClientContact.Stands.trans {r r' r'' : ClientContact} (h : r.Stands r') (h' : r'.Stands r'') : r.Stands r'' :=
  ⟨h'.id_eq.trans h.id_eq, h'.isActive.trans h.isActive⟩

theorem StaffSession.stands_refl (r : StaffSession) : r.Stands r := rfl

theorem StaffSession.Stands.trans {r r' r'' : StaffSession} (h : r.Stands r') (h' : r'.Stands r'') : r.Stands r'' := by
  unfold StaffSession.Stands at *
  rw [h', h]

theorem ClientSession.stands_refl (r : ClientSession) : r.Stands r := rfl

theorem ClientSession.Stands.trans {r r' r'' : ClientSession} (h : r.Stands r') (h' : r'.Stands r'') :
    r.Stands r'' := by
  unfold ClientSession.Stands at *
  rw [h', h]

namespace Store

variable {s t u : Store}

theorem stands_refl (s : Store) : s.Stands s :=
  ⟨.refl StaffUser.stands_refl _, .refl StaffSession.stands_refl _, .refl ClientContact.stands_refl _,
    .refl ClientSession.stands_refl _⟩

theorem Stands.trans (h : s.Stands t) (h' : t.Stands u) : s.Stands u :=
  ⟨h.staffUsers.trans (fun _ _ _ => .trans) h'.staffUsers, h.staffSessions.trans (fun _ _ _ => .trans) h'.staffSessions,
    h.clientContacts.trans (fun _ _ _ => .trans) h'.clientContacts,
    h.clientSessions.trans (fun _ _ _ => .trans) h'.clientSessions⟩

theorem stands_of_accounts (s : Store) {t : Store} (h : t.accounts = s.accounts) : s.Stands t := by
  simp only [Store.accounts, Prod.mk.injEq] at h
  obtain ⟨husers, hsessions, hcontacts, hclients⟩ := h
  have hrefl := s.stands_refl
  exact ⟨husers ▸ hrefl.staffUsers, hsessions ▸ hrefl.staffSessions, hcontacts ▸ hrefl.clientContacts,
    hclients ▸ hrefl.clientSessions⟩

theorem stands_modifyStaffUser (s : Store) (i : Id) (f : StaffUser → StaffUser) (hf : ∀ r, (f r).id = r.id)
    (h : ∀ r, StaffUser.Stands r (f r)) : s.Stands (prisma.staffUser.modify i f hf s) :=
  { s.stands_refl with staffUsers := Table.grown_updateWhere StaffUser.stands_refl _ _ f hf (fun r _ => h r) }

theorem stands_modifyContact (s : Store) (i : Id) (f : ClientContact → ClientContact) (hf : ∀ r, (f r).id = r.id)
    (h : ∀ r, ClientContact.Stands r (f r)) : s.Stands (prisma.clientContact.modify i f hf s) :=
  { s.stands_refl with clientContacts := Table.grown_updateWhere ClientContact.stands_refl _ _ f hf (fun r _ => h r) }

theorem Stands.staffSession (h : s.Stands t) {hash : String} {r : StaffSession}
    (hr : staffBearer.sessionOf s hash = some r) : ∃ r', staffBearer.sessionOf t hash = some r' ∧ r.Stands r' := by
  apply h.staffSessions.find? _ hr
  intro q q' hq
  change decide (q'.tokenHash = hash) = decide (q.tokenHash = hash)
  rw [hq]

theorem Stands.clientSession (h : s.Stands t) {hash : String} {r : ClientSession}
    (hr : clientBearer.sessionOf s hash = some r) : ∃ r', clientBearer.sessionOf t hash = some r' ∧ r.Stands r' := by
  apply h.clientSessions.find? _ hr
  intro q q' hq
  change decide (q'.tokenHash = hash) = decide (q.tokenHash = hash)
  rw [hq]

/-- A token that is accepted stays accepted at the same instant. -/
theorem Stands.acceptsStaff (h : s.Stands t) {now : DateTime} {hash : String} {r : StaffSession} {account : StaffUser}
    (hacc : staffBearer.accepts s now hash = some (r, account)) :
    ∃ r' account', staffBearer.accepts t now hash = some (r', account') ∧ account'.id = account.id := by
  obtain ⟨hr, hlive, haccount, hactive⟩ := Bearer.accepts_eq_some_iff.mp hacc
  obtain ⟨r', hr', hstands⟩ := h.staffSession hr
  obtain ⟨account', haccount', hsame⟩ := Table.find_of_grown h.staffUsers (fun _ _ hq => hq.id_eq) haccount
  have hlive' : staffBearer.live now r' = true := by
    rw [hstands]
    exact hlive
  have howner : staffBearer.account t r' = some account' := by
    rw [hstands]
    exact haccount'
  exact ⟨r', account', Bearer.accepts_eq_some_iff.mpr ⟨hr', hlive', howner, hsame.isActive.trans hactive⟩, hsame.id_eq⟩

theorem Stands.acceptsClient (h : s.Stands t) {now : DateTime} {hash : String} {r : ClientSession}
    {contact : ClientContact} (hacc : clientBearer.accepts s now hash = some (r, contact)) :
    ∃ r' contact', clientBearer.accepts t now hash = some (r', contact') ∧ contact'.id = contact.id := by
  obtain ⟨hr, hlive, hcontact, hactive⟩ := Bearer.accepts_eq_some_iff.mp hacc
  obtain ⟨r', hr', hstands⟩ := h.clientSession hr
  obtain ⟨contact', hcontact', hsame⟩ := Table.find_of_grown h.clientContacts (fun _ _ hq => hq.id_eq) hcontact
  have hlive' : clientBearer.live now r' = true := by
    rw [hstands]
    exact hlive
  have howner : clientBearer.account t r' = some contact' := by
    rw [hstands]
    exact hcontact'
  exact ⟨r', contact', Bearer.accepts_eq_some_iff.mpr ⟨hr', hlive', howner, hsame.isActive.trans hactive⟩, hsame.id_eq⟩

end Store

/-- The services that the web application uses end no session and close no
account. -/
theorem keptByLinks_stands : KeptByLinks Store.Stands where
  trans _ _ _ := .trans
  setup :=
    { refl := Store.stands_refl
      tenant := fun _ t => t.stands_of_accounts rfl
      permission := fun _ _ t => t.stands_of_accounts rfl
      role := fun _ _ t => t.stands_of_accounts rfl
      rolePermission := fun _ t => t.stands_of_accounts rfl
      staffUser := fun row t =>
        { t.stands_refl with staffUsers := Table.grown_insert StaffUser.stands_refl _ row }
      auditLog := fun _ t => t.stands_of_accounts rfl }
  events _ t := t.stands_of_accounts rfl
  clients _ _ t := t.stands_of_accounts rfl
  mail t _ := t.stands_of_accounts rfl
  staffUser i f hf hstanding t :=
    t.stands_modifyStaffUser i f hf (fun r => StaffUser.stands_of_standing (hf r) (hstanding r))
  contact i f hf hstanding t :=
    t.stands_modifyContact i f hf (fun r => ClientContact.stands_of_standing (hf r) (hstanding r))
  staffPassword i _ _ t := t.stands_modifyStaffUser i _ _ (fun _ => ⟨rfl, rfl⟩)
  contactPassword i _ t := t.stands_modifyContact i _ _ (fun _ => ⟨rfl, rfl⟩)
  newStaffSession row t :=
    { t.stands_refl with staffSessions := Table.grown_insert StaffSession.stands_refl _ row }
  staffSession _ at_ t :=
    { t.stands_refl with
      staffSessions := Table.grown_updateWhere StaffSession.stands_refl t.staffSessions _
        (fun r => { r with lastSeenAt := at_ }) (fun _ => rfl) (fun _ _ => rfl) }
  newClientSession row t :=
    { t.stands_refl with clientSessions := Table.grown_insert ClientSession.stands_refl _ row }
  clientSession _ at_ t :=
    { t.stands_refl with
      clientSessions := Table.grown_updateWhere ClientSession.stands_refl t.clientSessions _
        (fun r => { r with lastSeenAt := at_ }) (fun _ => rfl) (fun _ _ => rfl) }
  newLink _ t := t.stands_of_accounts rfl
  link _ _ t := t.stands_of_accounts rfl
  productGroup _ t := t.stands_of_accounts rfl
  product _ t := t.stands_of_accounts rfl
  newSetting _ t := t.stands_of_accounts rfl
  setting _ _ _ t := t.stands_of_accounts rfl

theorem keptByCalls_stands : KeptByCalls Store.Stands where
  trans _ _ _ := .trans
  keyring s t h := by
    have haccounts : t.accounts = s.accounts := by
      simp only [Store.keyring, Prod.mk.injEq] at h
      simp only [Store.accounts, h]
    exact s.stands_of_accounts haccounts
  verified i _ t := t.stands_modifyContact i _ _ (fun _ => ⟨rfl, rfl⟩)
  newContact row t :=
    { t.stands_refl with clientContacts := Table.grown_insert ClientContact.stands_refl _ row }

theorem ServiceCall.stands (call : ServiceCall) {s : Store} (hweb : call.OfWeb s) : s.Stands (call.after s) := by
  obtain ⟨c, rfl⟩ | hstands := keptByLinks_stands.anyServiceCall call s
  · refine keptByCalls_stands.call c (fun env actor id hdisable => ?_) s
    rw [hdisable] at hweb
    exact hweb
  · exact hstands

theorem WebRequest.stands {r : WebRequest} (hfaithful : r.Faithful) (s : Store) : s.Stands (r.after s) :=
  (WebRequest.served hfaithful s).inv (I := fun t => s.Stands t) (fun _ call ht hmade => ht.trans (call.stands hmade.ofWeb))
    s.stands_refl

theorem stands_runWeb {requests : List WebRequest} (hfaithful : ∀ r ∈ requests, r.Faithful) (s : Store) :
    s.Stands (runWeb s requests) :=
  runFrom_inv (I := fun t => s.Stands t) (G := fun _ r => r.Faithful) (fun t _ ht hr => ht.trans (WebRequest.stands hr t))
    s.stands_refl (alongRun_of_mem (fun r hr _ => hfaithful r hr))

/-- The token under the hash is accepted for the account. -/
def Store.Honors (s : Store) (now : DateTime) (hash : String) : AuthActorType → Id → Prop
  | .staff, id => ∃ r account, staffBearer.accepts s now hash = some (r, account) ∧ account.id = id
  | .clientContact, id => ∃ r contact, clientBearer.accepts s now hash = some (r, contact) ∧ contact.id = id

theorem Store.Stands.honors {s t : Store} (h : s.Stands t) {now : DateTime} {hash : String} {actorType : AuthActorType}
    {id : Id} (hacc : s.Honors now hash actorType id) : t.Honors now hash actorType id := by
  cases actorType with
  | staff =>
    obtain ⟨r, account, hacc, rfl⟩ := hacc
    exact h.acceptsStaff hacc
  | clientContact =>
    obtain ⟨r, contact, hacc, rfl⟩ := hacc
    exact h.acceptsClient hacc

section Login

variable {env : Env} {s c t : Store}

/-- Only an active member of staff passes the check of the password. -/
theorem authenticateStaffUser_active {input : StaffLoginInput} {staff : AuthenticatedStaff} {v : Store}
    (h : (authenticateStaffUser env input).eval s s = .ok (staff, c, v)) :
    ∃ user ∈ s.staffUsers, user.id = staff.id ∧ user.isActive = true := by
  change (checkStaffAccount env input (normalizeEmail input.email)
    (s.staffUnder input.tenantId (normalizeEmail input.email))).eval s s = _ at h
  cases hfound : s.staffUnder input.tenantId (normalizeEmail input.email) with
  | none =>
    rw [hfound] at h
    exact absurd h failLogin_not_ok
  | some user =>
    rw [hfound] at h
    simp only [checkStaffAccount] at h
    split at h
    · exact absurd h failLogin_not_ok
    rename_i hactive
    split at h
    · exact absurd h failLogin_not_ok
    unfold checkStaffPassword at h
    split at h
    · obtain ⟨_, c₁, v₁, _, hcomplete⟩ := eval_bind_ok.mp h
      obtain ⟨_, c₂, v₂, _, hupdate⟩ := eval_bind_ok.mp hcomplete
      obtain ⟨_, c₃, v₃, _, hreturn⟩ := eval_bind_ok.mp hupdate
      have hid : user.id = staff.id := by
        cases hreturn
        rfl
      exact ⟨user, List.mem_of_find?_eq_some hfound, hid, (Bool.not_eq_false _).mp hactive⟩
    · obtain ⟨_, c₁, v₁, _, hlock⟩ := eval_bind_ok.mp h
      obtain ⟨_, c₂, v₂, _, hfail⟩ := eval_bind_ok.mp hlock
      exact absurd hfail failLogin_not_ok

theorem createStaffSession_opens {input : StaffSessionInput} {token : String}
    (h : (createStaffSession env input).eval s s = .ok (token, c, t)) :
    ∃ row : StaffSession, row.userId = input.userId ∧ row.tokenHash = env.hashToken token ∧
      row.expiresAt = env.now + sessionTtlMs ∧ row.revokedAt = none ∧ prisma.staffSession.Fresh row s ∧
      t = prisma.staffSession.insert row s := by
  simp only [createStaffSession, transaction, bind_assoc, Relation.eval_create_bind, commit_bind, ret_bind,
    pure_eq_ret, eval_commit, eval_ret, Except.ok.injEq, Prod.mk.injEq] at h
  obtain ⟨hfresh, _, rfl, _, rfl⟩ := h
  exact ⟨_, rfl, rfl, rfl, rfl, hfresh, rfl⟩

theorem createClientSession_opens {input : ClientSessionInput} {token : String}
    (h : (createClientSession env input).eval s s = .ok (token, c, t)) :
    ∃ row : ClientSession, row.contactId = input.contactId ∧ row.tokenHash = env.hashToken token ∧
      row.expiresAt = env.now + input.ttlMs ∧ row.revokedAt = none ∧ prisma.clientSession.Fresh row s ∧
      t = prisma.clientSession.insert row s := by
  simp only [createClientSession, transaction, bind_assoc, Relation.eval_create_bind, commit_bind, ret_bind,
    pure_eq_ret, eval_commit, eval_ret, Except.ok.injEq, Prod.mk.injEq] at h
  obtain ⟨hfresh, _, rfl, _, rfl⟩ := h
  exact ⟨_, rfl, rfl, rfl, rfl, hfresh, rfl⟩

theorem eval_getDefaultTenant_ok {tenant : Tenant} {v d : Store} (h : (getDefaultTenant env).eval c v = .ok (tenant, d, t)) :
    d = c ∧ t = v := by
  unfold getDefaultTenant orThrow at h
  rw [Relation.eval_findFirst_bind] at h
  split at h
  · cases h
    exact ⟨rfl, rfl⟩
  · cases h

theorem stands_of_eval {α : Type} {p : Db α} (hp : p.Guarantees Store.Stands) {a : α} {v : Store}
    (hsettled : p.Settled false) (h : p.eval s s = .ok (a, c, v)) : c = v ∧ s.Stands v := by
  have heval := eval_of_guarantees Store.stands_refl (fun _ _ _ => .trans) hp s.stands_refl
  rw [h] at heval
  exact ⟨eval_ok_of_settled hsettled (fun _ => rfl) h, heval.1.trans heval.2⟩

/-- A login that goes through opens a session that serves for a week. -/
theorem authorizeStaff_accepts {raw : Credentials} {tenantId : Id} {user : SessionUser}
    (h : (authorizeStaff env raw tenantId).eval s s = .ok (user, c, t)) {now : DateTime}
    (hnow : now ≤ env.now + sessionTtlMs) :
    user.actorType = .staff ∧ t.Honors now (env.hashToken user.sessionToken) .staff user.id := by
  obtain ⟨staff, d, v, hauth, hrest⟩ := eval_bind_ok.mp h
  obtain ⟨token, d', t', hcreate, hreturn⟩ := eval_bind_ok.mp hrest
  cases hreturn
  obtain ⟨rfl, hstands⟩ := stands_of_eval (keptByLinks_stands.authenticateStaffUser _)
    (settled_authenticateStaffUser _) hauth
  obtain ⟨account, hmem, hid, hactive⟩ := authenticateStaffUser_active hauth
  obtain ⟨account', hfound, hsame⟩ :=
    Table.find_of_grown hstands.staffUsers (fun _ _ hq => hq.id_eq) (Table.find_of_mem hmem)
  obtain ⟨row, huser, hhash, hexpires, hrevoked, hfresh, rfl⟩ := createStaffSession_opens hcreate
  refine ⟨rfl, row, account', Bearer.accepts_eq_some_iff.mpr ⟨?_, ?_, ?_, hsame.isActive.trans hactive⟩,
    hsame.id_eq.trans hid⟩
  · have hopen := sessionOf_insert_staff hfresh
    rwa [hhash] at hopen
  · have hend : row.expiresAt = env.now + sessionTtlMs := hexpires
    simp [staffBearer, StaffSession.isLive, hend, hrevoked, hnow]
  · change d.staffUsers.find row.userId = some account'
    rw [huser, ← hid]
    exact hfound

theorem authorizeClient_accepts {raw : Credentials} {tenantId : Id} {user : SessionUser}
    (h : (authorizeClient env raw tenantId).eval s s = .ok (user, c, t)) {now : DateTime}
    (hnow : now ≤ env.now + sessionTtlMs) :
    user.actorType = .clientContact ∧ t.Honors now (env.hashToken user.sessionToken) .clientContact user.id := by
  obtain ⟨out, d, v, hauth, hrest⟩ := eval_bind_ok.mp h
  obtain ⟨token, d', t', hcreate, hreturn⟩ := eval_bind_ok.mp hrest
  cases hreturn
  obtain ⟨contact, client, hsigns, rfl⟩ :=
    run_authenticateClientContact_iff.mp ⟨v, run_ok_iff.mpr ⟨d, hauth⟩⟩
  obtain ⟨rfl, hstands⟩ := stands_of_eval (keptByLinks_stands.authenticateClientContact _)
    (settled_authenticateClientContact _) hauth
  have hmem : contact ∈ s.clientContacts := List.mem_of_find?_eq_some hsigns.contact_found
  obtain ⟨contact', hfound, hsame⟩ :=
    Table.find_of_grown hstands.clientContacts (fun _ _ hq => hq.id_eq) (Table.find_of_mem hmem)
  obtain ⟨row, hcontact, hhash, hexpires, hrevoked, hfresh, rfl⟩ := createClientSession_opens hcreate
  refine ⟨rfl, row, contact', Bearer.accepts_eq_some_iff.mpr ⟨?_, ?_, ?_, hsame.isActive.trans hsigns.active⟩,
    hsame.id_eq⟩
  · have hopen := sessionOf_insert_client hfresh
    rwa [hhash] at hopen
  · have hend : row.expiresAt = env.now + sessionTtlMs := hexpires
    simp [clientBearer, ClientSession.isLive, hend, hrevoked, hnow]
  · change d.clientContacts.find row.contactId = some contact'
    rw [hcontact]
    exact hfound

theorem authorize_accepts {raw : Credentials} {user : SessionUser}
    (h : (authorize env raw).eval s s = .ok (user, c, t)) {now : DateTime} (hnow : now ≤ env.now + sessionTtlMs) :
    t.Honors now (env.hashToken user.sessionToken) user.actorType user.id := by
  obtain ⟨_, c₁, v₁, hgiven, hrest⟩ := eval_bind_ok.mp h
  obtain ⟨rfl, rfl⟩ := eval_ensure_ok hgiven
  obtain ⟨tenant, c₂, v₂, htenant, hlogin⟩ := eval_bind_ok.mp hrest
  obtain ⟨rfl, rfl⟩ := eval_getDefaultTenant_ok htenant
  cases hactor : raw.actorType with
  | staff =>
    rw [hactor] at hlogin
    obtain ⟨htype, haccepts⟩ := authorizeStaff_accepts hlogin hnow
    rwa [htype]
  | clientContact =>
    rw [hactor] at hlogin
    obtain ⟨htype, haccepts⟩ := authorizeClient_accepts hlogin hnow
    rwa [htype]

end Login

/-- All accounts have ids, and tenants and clients they belong to. -/
structure Store.Named (s : Store) : Prop where
  staffUsers : ∀ r ∈ s.staffUsers, r.id ≠ "" ∧ r.tenantId ≠ ""
  clientContacts : ∀ r ∈ s.clientContacts, r.id ≠ "" ∧ r.clientId ≠ "" ∧ r.tenantId ≠ ""

namespace WebRequest

variable {s start : Store} {requests : List WebRequest} {r : WebRequest}

/-- The session cookie of the request is not empty. -/
def CarriesToken (r : WebRequest) : Prop := ∃ actorType token, r.cookie = some ⟨actorType, some token⟩ ∧ token ≠ ""

theorem whenGiven_of_ne {text : String} (h : text ≠ "") : whenGiven (some text) = some text := by
  simp [whenGiven, Option.filter, h]

/-- Who is signed in by the cookie, as far as its kind of session goes. -/
def SignedIn (r : WebRequest) (s : Store) (id : Id) : AuthActorType → Prop
  | .staff => ∃ actor, r.ActsAs s (.staff actor) ∧ actor.id = id
  | .clientContact => ∃ actor, r.ActsAs s (.clientContact actor) ∧ actor.id = id

theorem carriesToken_of_signedIn {id : Id} {actorType : AuthActorType} (h : r.SignedIn s id actorType) :
    r.CarriesToken := by
  have hne : ∀ kind, r.cookie = some ⟨kind, some ""⟩ → s.webSession r.env r.cookie = some {} := by
    intro kind hcookie
    rw [hcookie]
    cases kind with
    | none => rfl
    | some kind => cases kind <;> rfl
  cases actorType with
  | staff =>
    obtain ⟨actor, hactor, _⟩ := h
    obtain ⟨token, hcookie, _⟩ := getStaffActor_webSession hactor
    refine ⟨_, token, hcookie, ?_⟩
    rintro rfl
    unfold ActsAs at hactor
    rw [hne _ hcookie] at hactor
    cases hactor
  | clientContact =>
    obtain ⟨actor, hactor, _⟩ := h
    obtain ⟨token, _, hcookie, _⟩ := getClientActor_webSession hactor
    refine ⟨_, token, hcookie, ?_⟩
    rintro rfl
    unfold ActsAs at hactor
    rw [hne _ hcookie] at hactor
    cases hactor

/-- A cookie whose token is honored signs in. -/
theorem signedIn_of_honors (hnamed : s.Named) {token : String} {actorType : AuthActorType} {id : Id}
    (hcookie : r.cookie = some ⟨some actorType, some token⟩) (hne : token ≠ "")
    (h : s.Honors r.env.now (r.env.hashToken token) actorType id) : r.SignedIn s id actorType := by
  cases actorType with
  | staff =>
    obtain ⟨q, account, hacc, rfl⟩ := h
    obtain ⟨_, _, howner, _⟩ := Bearer.accepts_eq_some_iff.mp hacc
    obtain ⟨hid, htenant⟩ := hnamed.staffUsers account (Table.mem_of_find howner)
    refine ⟨account.actor (s.permissionsOf account.roleId), ?_, rfl⟩
    simp only [ActsAs, hcookie, Store.webSession, whenGiven_of_ne hne, Store.staffActorOf, hacc]
    simp [getStaffActor, WebSession.staffActor, staffWebSession, StaffUser.actor, whenGiven_of_ne hid, whenGiven_of_ne htenant]
  | clientContact =>
    obtain ⟨q, contact, hacc, rfl⟩ := h
    obtain ⟨_, _, howner, _⟩ := Bearer.accepts_eq_some_iff.mp hacc
    obtain ⟨hid, hclient, htenant⟩ := hnamed.clientContacts contact (Table.mem_of_find howner)
    refine ⟨contact.actor, ?_, rfl⟩
    simp only [ActsAs, hcookie, Store.webSession, whenGiven_of_ne hne, Store.clientContextOf, hacc]
    simp [getClientActor, WebSession.clientActor, clientWebSession, ClientContact.actor, whenGiven_of_ne hid,
      whenGiven_of_ne hclient, whenGiven_of_ne htenant]

theorem credentials_of_not_login {action : WebAction} {requestMeta : RequestMeta} (h : action.isLogin = false) :
    action.credentials? requestMeta = none := by
  cases action with
  | anyone action =>
    cases action with
    | clientLogin library form => cases h
    | staffLogin library form => cases h
    | _ => rfl
  | _ => rfl

/-- A login serves for a week, whatever the panel is asked in between. -/
theorem honors_of_signsIn {login : WebRequest} (hlogin : login.Faithful) {user : SessionUser} (hsigns : login.SignsIn s user)
    {later : List WebRequest} (hlater : ∀ q ∈ later, q.Faithful) {now : DateTime}
    (hnow : now ≤ login.env.now + sessionTtlMs) :
    (runWeb (login.after s) later).Honors now (login.env.hashToken user.sessionToken) user.actorType user.id := by
  obtain ⟨library, raw, hraw, hok⟩ := hsigns
  have hafter : login.after s = (authorize login.env raw).after s := by
    obtain hnot | ⟨library', raw', hraw', hafter⟩ := after_login hlogin s
    · rw [credentials_of_not_login hnot] at hraw
      cases hraw
    · cases hraw.symm.trans hraw'
      exact hafter
  cases hrun : (authorize login.env raw).run s with
  | mk t result =>
    rw [hrun] at hok
    obtain rfl : result = .ok user := hok
    obtain ⟨c, hev⟩ := run_ok_iff.mp hrun
    have ht : login.after s = t := by rw [hafter, Program.after, hrun]
    rw [ht]
    exact (stands_runWeb hlater t).honors (authorize_accepts hev hnow)

end WebRequest

/-- Sessions are exact: in every run that starts without sessions, a cookie signs in
just when one of the logins that went through drew its token for the account, no more than
seven days before. No request ends a session, neither a logout nor a new password. -/
theorem web_sessions_exact {start : Store} {requests : List WebRequest} (hfaithful : ∀ q ∈ requests, q.Faithful)
    (hstaff : start.staffSessions.rows = []) (hclient : start.clientSessions.rows = [])
    (hnamed : (runWeb start requests).Named) (r : WebRequest) (actorType : AuthActorType) (id : Id) :
    r.SignedIn (runWeb start requests) id actorType ↔ r.CarriesToken ∧ r.BackedBy start requests actorType id := by
  constructor
  · intro h
    refine ⟨WebRequest.carriesToken_of_signedIn h, ?_⟩
    cases actorType with
    | staff =>
      obtain ⟨actor, hactor, rfl⟩ := h
      obtain ⟨account, _, _, rfl, hbacked⟩ := WebRequest.staffActor_backed hfaithful hstaff hactor
      exact hbacked
    | clientContact =>
      obtain ⟨actor, hactor, rfl⟩ := h
      obtain ⟨contact, _, _, rfl, hbacked⟩ := WebRequest.clientActor_backed hfaithful hclient hactor
      exact hbacked
  · rintro ⟨⟨kind, given, hgiven, hne⟩, token, before, login, later, user, hcookie, rfl, hsigns, rfl, rfl, hhash, hnow⟩
    cases hgiven.symm.trans hcookie
    refine WebRequest.signedIn_of_honors hnamed hcookie hne ?_
    rw [← hhash]
    have hrun : runWeb start (before ++ login :: later) = runWeb (login.after (runWeb start before)) later :=
      runFrom_append start before (login :: later)
    rw [hrun]
    refine WebRequest.honors_of_signsIn (hfaithful login ?_) hsigns (fun q hq => hfaithful q ?_) hnow
    · exact List.mem_append_right before List.mem_cons_self
    · exact List.mem_append_right before (List.mem_cons_of_mem login hq)

namespace Sample

/-- The contact comes back six days after the login. -/
def returnVisit : WebRequest where
  env := moment "c" 518400000
  cookie := some { actorType := some .clientContact, sessionToken := some "token-a" }
  requestMeta := nowhere
  action := .portalPage

theorem portal_named : (runWeb portal [memberSignIn, orderRequest]).Named := by
  have hstaff : ∀ r ∈ (runWeb portal [memberSignIn, orderRequest]).staffUsers.rows, r.id ≠ "" ∧ r.tenantId ≠ "" := by
    decide +kernel
  have hcontacts : ∀ r ∈ (runWeb portal [memberSignIn, orderRequest]).clientContacts.rows,
      r.id ≠ "" ∧ r.clientId ≠ "" ∧ r.tenantId ≠ "" := by
    decide +kernel
  exact ⟨hstaff, hcontacts⟩

end Sample

open Sample in
/-- The return visit is still backed by the login. -/
theorem web_sessions_exact_visit :
    returnVisit.SignedIn (runWeb portal [memberSignIn, orderRequest]) "contact" .clientContact ∧
      returnVisit.BackedBy portal [memberSignIn, orderRequest] .clientContact "contact" := by
  have hactor : getClientActor ((runWeb portal [memberSignIn, orderRequest]).webSession returnVisit.env
      returnVisit.cookie) = some member.actor := by
    decide +kernel
  have hsigned : returnVisit.SignedIn (runWeb portal [memberSignIn, orderRequest]) "contact" .clientContact :=
    ⟨member.actor, hactor, rfl⟩
  have hexact := web_sessions_exact memberOrders_faithful rfl rfl portal_named returnVisit .clientContact "contact"
  exact ⟨hsigned, (hexact.mp hsigned).2⟩

end HostPanel.Model
