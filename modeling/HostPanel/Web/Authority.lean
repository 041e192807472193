import HostPanel.Web.Sessions

namespace HostPanel.Model

open HostPanel.Lib HostPanel.Lib.Program

/-- Every session was there before, perhaps younger. -/
structure Store.SessionsAged (s t : Store) : Prop where
  staff : ∀ r' ∈ t.staffSessions, ∃ r ∈ s.staffSessions, r.Ages r'
  client : ∀ r' ∈ t.clientSessions, ∃ r ∈ s.clientSessions, r.Ages r'

theorem Store.sessionsAged_refl (s : Store) : s.SessionsAged s :=
  ⟨fun r hr => ⟨r, hr, r.ages_refl⟩, fun r hr => ⟨r, hr, r.ages_refl⟩⟩

theorem Store.SessionsAged.trans {s t u : Store} (h : s.SessionsAged t) (h' : t.SessionsAged u) : s.SessionsAged u := by
  refine ⟨fun r'' hr'' => ?_, fun r'' hr'' => ?_⟩
  · obtain ⟨r', hr', hage'⟩ := h'.staff r'' hr''
    obtain ⟨r, hr, hage⟩ := h.staff r' hr'
    exact ⟨r, hr, hage.trans hage'⟩
  · obtain ⟨r', hr', hage'⟩ := h'.client r'' hr''
    obtain ⟨r, hr, hage⟩ := h.client r' hr'
    exact ⟨r, hr, hage.trans hage'⟩

theorem sessionsAged_of_accounts (s t : Store) (h : t.accounts = s.accounts) : s.SessionsAged t := by
  simp only [Store.accounts, Prod.mk.injEq] at h
  obtain ⟨_, hstaff, _, hclient⟩ := h
  exact ⟨hstaff ▸ s.sessionsAged_refl.staff, hclient ▸ s.sessionsAged_refl.client⟩

theorem keptByAccess_sessionsAged : KeptByAccess (fun _ => False) Store.SessionsAged where
  traces s t h := by
    have haccounts : t.withoutTraces.accounts = s.withoutTraces.accounts := congrArg Store.accounts h
    exact sessionsAged_of_accounts s t haccounts
  auditLog _ t := sessionsAged_of_accounts t _ rfl
  statusHistory _ t := sessionsAged_of_accounts t _ rfl
  staffUser _ _ _ _ t := ⟨t.sessionsAged_refl.staff, t.sessionsAged_refl.client⟩
  newStaffUser _ t := ⟨t.sessionsAged_refl.staff, t.sessionsAged_refl.client⟩
  staffSession p f hf h t := by
    refine ⟨fun r' hr' => ?_, t.sessionsAged_refl.client⟩
    obtain ⟨r, hr, rfl⟩ := Table.mem_updateWhere.mp (show r' ∈ t.staffSessions.updateWhere p f hf from hr')
    refine ⟨r, hr, ?_⟩
    split
    · exact h r ‹_›
    · exact r.ages_refl
  newStaffSession _ h := h.elim
  contact _ _ _ _ t := ⟨t.sessionsAged_refl.staff, t.sessionsAged_refl.client⟩
  newContact _ t := ⟨t.sessionsAged_refl.staff, t.sessionsAged_refl.client⟩
  clientSession p f hf h t := by
    refine ⟨t.sessionsAged_refl.staff, fun r' hr' => ?_⟩
    obtain ⟨r, hr, rfl⟩ := Table.mem_updateWhere.mp (show r' ∈ t.clientSessions.updateWhere p f hf from hr')
    refine ⟨r, hr, ?_⟩
    split
    · exact h r ‹_›
    · exact r.ages_refl
  newClientSession _ h := h.elim

theorem keptBySetup_sessionsAged : KeptBySetup Store.SessionsAged where
  refl := Store.sessionsAged_refl
  tenant _ t := sessionsAged_of_accounts t _ rfl
  permission _ _ t := sessionsAged_of_accounts t _ rfl
  role _ _ t := sessionsAged_of_accounts t _ rfl
  rolePermission _ t := sessionsAged_of_accounts t _ rfl
  staffUser _ t := ⟨t.sessionsAged_refl.staff, t.sessionsAged_refl.client⟩
  auditLog _ t := sessionsAged_of_accounts t _ rfl

theorem keptByWeb_sessionsAged : KeptByWeb Store.SessionsAged where
  trans _ _ _ := .trans
  access := keptByAccess_sessionsAged
  setup := keptBySetup_sessionsAged
  billing := sessionsAged_of_accounts

section Login

variable {env : Env}

/-- The row of a session is the one that the login of the user opened. -/
structure SessionUser.OpensStaff (env : Env) (user : SessionUser) (r : StaffSession) : Prop where
  actorType : user.actorType = .staff
  account : r.userId = user.id
  token : r.tokenHash = env.hashToken user.sessionToken
  end_ : r.expiresAt = env.now + sessionTtlMs

structure SessionUser.OpensClient (env : Env) (user : SessionUser) (r : ClientSession) : Prop where
  actorType : user.actorType = .clientContact
  account : r.contactId = user.id
  token : r.tokenHash = env.hashToken user.sessionToken
  end_ : r.expiresAt = env.now + sessionTtlMs
  own : r.impersonatedByStaffUserId = none

/-- The sessions after a login of the user: his new one, and older ones. -/
structure Store.LoggedIn (env : Env) (user : SessionUser) (s t : Store) : Prop where
  staff : ∀ r' ∈ t.staffSessions, (∃ r ∈ s.staffSessions, r.Ages r') ∨ user.OpensStaff env r'
  client : ∀ r' ∈ t.clientSessions, (∃ r ∈ s.clientSessions, r.Ages r') ∨ user.OpensClient env r'

theorem atomic_createStaffSession (input : StaffSessionInput) : (createStaffSession env input).Atomic := by
  rw [createStaffSession, transaction_bind]
  exact (Relation.uncommitted_create _).bind_atomic (fun _ => ⟨_, rfl⟩)

theorem atomic_createClientSession (input : ClientSessionInput) : (createClientSession env input).Atomic := by
  rw [createClientSession, transaction_bind]
  exact (Relation.uncommitted_create _).bind_atomic (fun _ => ⟨_, rfl⟩)

theorem createStaffSession_stored {input : StaffSessionInput} {c v c' t : Store} {token : String}
    (h : (createStaffSession env input).eval c v = .ok (token, c', t)) :
    token = env.generateToken ∧ ∃ row : StaffSession, row.userId = input.userId ∧
      row.tokenHash = env.hashToken token ∧ row.expiresAt = env.now + sessionTtlMs ∧
      t = prisma.staffSession.insert row v := by
  simp only [createStaffSession, transaction, bind_assoc, Relation.eval_create_bind, commit_bind, ret_bind,
    pure_eq_ret, eval_commit, eval_ret, Except.ok.injEq, Prod.mk.injEq] at h
  obtain ⟨_, _, rfl, _, rfl⟩ := h
  exact ⟨rfl, _, rfl, rfl, rfl, rfl⟩

theorem createClientSession_stored {input : ClientSessionInput} {c v c' t : Store} {token : String}
    (h : (createClientSession env input).eval c v = .ok (token, c', t)) :
    token = env.generateToken ∧ ∃ row : ClientSession, row.contactId = input.contactId ∧
      row.tokenHash = env.hashToken token ∧ row.impersonatedByStaffUserId = input.impersonatedByStaffUserId ∧
      row.expiresAt = env.now + input.ttlMs ∧ t = prisma.clientSession.insert row v := by
  simp only [createClientSession, transaction, bind_assoc, Relation.eval_create_bind, commit_bind, ret_bind,
    pure_eq_ret, eval_commit, eval_ret, Except.ok.injEq, Prod.mk.injEq] at h
  obtain ⟨_, _, rfl, _, rfl⟩ := h
  exact ⟨rfl, _, rfl, rfl, rfl, rfl, rfl⟩

/-- What a login leaves of the sessions it found, where it is refused and where
it goes through. -/
def SessionsOf (env : Env) (s : Store) : Except (Failure × Store) (SessionUser × Store × Store) → Prop
  | .error (_, c) => s.SessionsAged c
  | .ok (user, _, t) => s.LoggedIn env user t

theorem authorizeStaff_sessions (raw : Credentials) (tenantId : Id) {s c v : Store} (hc : s.SessionsAged c)
    (hv : c.SessionsAged v) : SessionsOf env s ((authorizeStaff env raw tenantId).eval c v) := by
  have hkept : (authenticateStaffUser env { raw.loginInput tenantId with totpToken := whenGiven raw.totpToken }).Guarantees
      Store.SessionsAged := kept_authenticateStaffUser keptByAccess_sessionsAged _
  have hauth := eval_of_guarantees Store.sessionsAged_refl (fun _ _ _ => Store.SessionsAged.trans) hkept hv
  rw [authorizeStaff, eval_bind]
  cases hstaff : (authenticateStaffUser env
      { raw.loginInput tenantId with totpToken := whenGiven raw.totpToken }).eval c v with
  | error x =>
    rw [hstaff] at hauth
    exact hc.trans hauth
  | ok out =>
    obtain ⟨staff, c', v'⟩ := out
    rw [hstaff] at hauth
    simp only [eval_bind]
    cases hcreate : (createStaffSession (env.drawn 1)
        { userId := staff.id, tenantId := tenantId, ip := whenGiven raw.ip,
          userAgent := whenGiven raw.userAgent }).eval c' v' with
    | error x =>
      obtain ⟨e, d⟩ := x
      cases eval_error_of_atomic (atomic_createStaffSession _) hcreate
      exact hc.trans hauth.1
    | ok out =>
      obtain ⟨token, c'', t⟩ := out
      obtain ⟨rfl, row, huser, hhash, hend, rfl⟩ := createStaffSession_stored hcreate
      have hold := (hc.trans hauth.1).trans hauth.2
      refine ⟨fun r' hr' => ?_, fun r' hr' => Or.inl (hold.client r' hr')⟩
      obtain hr' | rfl := Table.of_mem_insert (t := v'.staffSessions) hr'
      · exact Or.inl (hold.staff r' hr')
      · exact Or.inr ⟨rfl, huser, hhash, hend⟩

theorem authorizeClient_sessions (raw : Credentials) (tenantId : Id) {s c v : Store} (hc : s.SessionsAged c)
    (hv : c.SessionsAged v) : SessionsOf env s ((authorizeClient env raw tenantId).eval c v) := by
  have hkept : (authenticateClientContact env (raw.loginInput tenantId)).Guarantees Store.SessionsAged :=
    kept_authenticateClientContact keptByAccess_sessionsAged _
  have hauth := eval_of_guarantees Store.sessionsAged_refl (fun _ _ _ => Store.SessionsAged.trans) hkept hv
  rw [authorizeClient, eval_bind]
  cases hcontact : (authenticateClientContact env (raw.loginInput tenantId)).eval c v with
  | error x =>
    rw [hcontact] at hauth
    exact hc.trans hauth
  | ok out =>
    obtain ⟨contact, c', v'⟩ := out
    rw [hcontact] at hauth
    simp only [eval_bind]
    cases hcreate : (createClientSession (env.drawn 1)
        { contactId := contact.id, tenantId := tenantId, ip := whenGiven raw.ip,
          userAgent := whenGiven raw.userAgent }).eval c' v' with
    | error x =>
      obtain ⟨e, d⟩ := x
      cases eval_error_of_atomic (atomic_createClientSession _) hcreate
      exact hc.trans hauth.1
    | ok out =>
      obtain ⟨token, c'', t⟩ := out
      obtain ⟨rfl, row, hid, hhash, hown, hend, rfl⟩ := createClientSession_stored hcreate
      have hold := (hc.trans hauth.1).trans hauth.2
      refine ⟨fun r' hr' => Or.inl (hold.staff r' hr'), fun r' hr' => ?_⟩
      obtain hr' | rfl := Table.of_mem_insert (t := v'.clientSessions) hr'
      · exact Or.inl (hold.client r' hr')
      · exact Or.inr ⟨rfl, hid, hhash, hend, hown⟩

theorem authorize_sessions (raw : Credentials) (s : Store) : SessionsOf env s ((authorize env raw).eval s s) := by
  rw [authorize, eval_bind]
  cases hgiven : (ensure (raw.email ≠ "" ∧ raw.password ≠ "")
      (authenticationError "auth.invalid_credentials" "auth.invalid_credentials")).eval s s with
  | error x =>
    obtain ⟨e, c⟩ := x
    cases eval_error_of_atomic (uncommitted_ensure _ _).atomic hgiven
    exact s.sessionsAged_refl
  | ok out =>
    obtain ⟨_, c, v⟩ := out
    obtain ⟨hc, hv⟩ := eval_ensure_ok hgiven
    rw [hc, hv]
    have htenant := eval_of_guarantees Store.sessionsAged_refl (fun _ _ _ => Store.SessionsAged.trans)
      (p := getDefaultTenant env) ((Relation.guarantees_findFirst _).bind (fun _ => guarantees_orThrow _ _))
      s.sessionsAged_refl
    simp only [eval_bind]
    cases hfound : (getDefaultTenant env).eval s s with
    | error x =>
      rw [hfound] at htenant
      exact htenant
    | ok out =>
      obtain ⟨tenant, c', v'⟩ := out
      rw [hfound] at htenant
      cases hactor : raw.actorType with
      | staff => exact authorizeStaff_sessions raw tenant.id htenant.1 htenant.2
      | clientContact => exact authorizeClient_sessions raw tenant.id htenant.1 htenant.2

end Login

section Session

variable {env : Env} {s : Store}

/-- The session that a cookie stands for. -/
def Store.webSession (s : Store) (env : Env) : Option Jwt → Option WebSession
  | none => none
  | some token =>
    match token.actorType, whenGiven token.sessionToken with
    | some .staff, some sessionToken =>
      some (((s.staffActorOf env.now (env.hashToken sessionToken)).map (staffWebSession {})).getD {})
    | some .clientContact, some sessionToken =>
      some (((s.clientContextOf env.now (env.hashToken sessionToken)).map (clientWebSession {})).getD {})
    | _, _ => some {}

theorem run_getSession (s : Store) (env : Env) (cookie : Option Jwt) :
    ((getSession env cookie).run s).2 = .ok (s.webSession env cookie) := by
  cases cookie with
  | none => rfl
  | some token =>
    refine (reply_map some (sessionCallback env {} token) s).trans ?_
    unfold sessionCallback Store.webSession
    simp only
    generalize token.actorType = actorType
    generalize whenGiven token.sessionToken = sessionToken
    cases actorType with
    | none => rfl
    | some actorType =>
      cases sessionToken with
      | none => cases actorType <;> rfl
      | some sessionToken =>
        cases actorType with
        | staff =>
          have hmap := reply_map (fun actor : Option StaffActor => (actor.map (staffWebSession {})).getD {})
            (validateStaffSession env sessionToken) s
          refine (congrArg (Except.map some) hmap).trans ?_
          rw [run_validateStaffSession]
          rfl
        | clientContact =>
          have hmap := reply_map (fun context : Option ClientSessionContext => (context.map (clientWebSession {})).getD {})
            (validateClientSession env sessionToken) s
          refine (congrArg (Except.map some) hmap).trans ?_
          rw [run_validateClientSession]
          rfl

theorem whenGiven_eq_some {text : Option String} {value : String} (h : whenGiven text = some value) : text = some value :=
  (Option.filter_eq_some_iff.mp h).1

theorem staffActor_staffWebSession {actor a : StaffActor} (h : (staffWebSession {} actor).staffActor = some a) :
    a = actor := by
  unfold WebSession.staffActor at h
  rw [if_pos (show (staffWebSession {} actor).actorType = some .staff from rfl)] at h
  split at h
  · rename_i userId tenantId huser htenant
    cases whenGiven_eq_some huser
    cases whenGiven_eq_some htenant
    cases h
    rfl
  · cases h

theorem clientActor_clientWebSession {context : ClientSessionContext} {a : ClientPortalActor}
    (h : (clientWebSession {} context).clientActor = some a) : a = { context.actor with permissions := [] } := by
  unfold WebSession.clientActor at h
  rw [if_pos (show (clientWebSession {} context).actorType = some .clientContact from rfl)] at h
  split at h
  · rename_i userId clientId tenantId huser hclient htenant
    cases whenGiven_eq_some huser
    cases whenGiven_eq_some hclient
    cases whenGiven_eq_some htenant
    cases h
    rfl
  · cases h

/-- What a request knows of its user comes from the session its cookie names. -/
theorem webSession_cases (s : Store) (env : Env) (cookie : Option Jwt) :
    (∃ token, cookie = some { actorType := some .staff, sessionToken := some token } ∧
      s.webSession env cookie =
        some (((s.staffActorOf env.now (env.hashToken token)).map (staffWebSession {})).getD {})) ∨
      (∃ token, cookie = some { actorType := some .clientContact, sessionToken := some token } ∧
        s.webSession env cookie =
          some (((s.clientContextOf env.now (env.hashToken token)).map (clientWebSession {})).getD {})) ∨
      s.webSession env cookie = none ∨ s.webSession env cookie = some {} := by
  cases cookie with
  | none => exact Or.inr (Or.inr (Or.inl rfl))
  | some jwt =>
    obtain ⟨actorType, sessionToken⟩ := jwt
    simp only [Store.webSession]
    cases hgiven : whenGiven sessionToken with
    | none =>
      refine Or.inr (Or.inr (Or.inr ?_))
      cases actorType with
      | none => rfl
      | some type => cases type <;> rfl
    | some token =>
      cases whenGiven_eq_some hgiven
      cases actorType with
      | none => exact Or.inr (Or.inr (Or.inr rfl))
      | some type =>
        cases type with
        | staff => exact Or.inl ⟨token, rfl, rfl⟩
        | clientContact => exact Or.inr (Or.inl ⟨token, rfl, rfl⟩)

/-- A member of staff acts by the token of a session that is accepted for him. -/
theorem getStaffActor_webSession {cookie : Option Jwt} {a : StaffActor}
    (h : getStaffActor (s.webSession env cookie) = some a) :
    ∃ token, cookie = some { actorType := some .staff, sessionToken := some token } ∧
      s.staffActorOf env.now (env.hashToken token) = some a := by
  obtain ⟨token, hcookie, hsession⟩ | ⟨token, _, hsession⟩ | hsession | hsession := webSession_cases s env cookie
  · refine ⟨token, hcookie, ?_⟩
    rw [hsession] at h
    cases hactor : s.staffActorOf env.now (env.hashToken token) with
    | none =>
      rw [hactor] at h
      cases h
    | some actor =>
      rw [hactor] at h
      exact congrArg some (staffActor_staffWebSession h).symm
  · rw [hsession] at h
    cases hcontext : s.clientContextOf env.now (env.hashToken token) <;> rw [hcontext] at h <;> cases h
  · rw [hsession] at h
    cases h
  · rw [hsession] at h
    cases h

theorem getClientActor_webSession {cookie : Option Jwt} {a : ClientPortalActor}
    (h : getClientActor (s.webSession env cookie) = some a) :
    ∃ token context, cookie = some { actorType := some .clientContact, sessionToken := some token } ∧
      s.clientContextOf env.now (env.hashToken token) = some context ∧ a = { context.actor with permissions := [] } := by
  obtain ⟨token, _, hsession⟩ | ⟨token, hcookie, hsession⟩ | hsession | hsession := webSession_cases s env cookie
  · rw [hsession] at h
    cases hactor : s.staffActorOf env.now (env.hashToken token) <;> rw [hactor] at h <;> cases h
  · rw [hsession] at h
    cases hcontext : s.clientContextOf env.now (env.hashToken token) with
    | none =>
      rw [hcontext] at h
      cases h
    | some context =>
      rw [hcontext] at h
      exact ⟨token, context, hcookie, hcontext, clientActor_clientWebSession h⟩
  · rw [hsession] at h
    cases h
  · rw [hsession] at h
    cases h

end Session

section Requests

variable {s : Store}

/-- What a login form asks to be checked. -/
def PublicAction.credentials? (requestMeta : RequestMeta) : PublicAction → Option (AuthLibrary × Credentials)
  | clientLogin library form => some (library, form.credentials .clientContact requestMeta)
  | staffLogin library form => some (library, form.credentials .staff requestMeta)
  | _ => none

def WebAction.credentials? (requestMeta : RequestMeta) : WebAction → Option (AuthLibrary × Credentials)
  | anyone action => action.credentials? requestMeta
  | _ => none

namespace WebRequest

/-- The authentication library has credentials checked by `authorize`, which
alone changes the tables in a sign-in. -/
def Faithful (r : WebRequest) : Prop :=
  ∀ library raw, r.action.credentials? r.requestMeta = some (library, raw) →
    ∀ s, (library.signIn raw).after s = (authorize r.env raw).after s

/-- The request is a login that goes through for the user. -/
def SignsIn (r : WebRequest) (s : Store) (user : SessionUser) : Prop :=
  ∃ library raw, r.action.credentials? r.requestMeta = some (library, raw) ∧
    ((authorize r.env raw).run s).2 = .ok user

theorem after_performLogin (library : AuthLibrary) (actorType : AuthActorType) (requestMeta : RequestMeta)
    (form : LoginForm) (fallbackPath : String) (s : Store) :
    (performLogin library actorType requestMeta form fallbackPath).after s =
      (library.signIn (form.credentials actorType requestMeta)).after s := by
  refine after_bind_of_returns (fun result => ?_) s
  cases whenGiven (extractErrorCode library result) with
  | none => exact ⟨_, rfl⟩
  | some code => exact ⟨_, rfl⟩

/-- A login leaves what its check leaves. -/
theorem after_login {r : WebRequest} (hfaithful : r.Faithful) (s : Store) :
    r.action.isLogin = false ∨
      ∃ library raw, r.action.credentials? r.requestMeta = some (library, raw) ∧ r.after s = (authorize r.env raw).after s := by
  unfold Faithful at hfaithful
  unfold WebRequest.after WebRequest.respond
  cases haction : r.action with
  | anyone action =>
    rw [haction] at hfaithful
    cases action with
    | clientLogin library form =>
      refine Or.inr ⟨library, form.credentials .clientContact r.requestMeta, rfl, ?_⟩
      exact (after_performLogin _ _ _ _ _ s).trans (hfaithful _ _ rfl s)
    | staffLogin library form =>
      refine Or.inr ⟨library, form.credentials .staff r.requestMeta, rfl, ?_⟩
      exact (after_performLogin _ _ _ _ _ s).trans (hfaithful _ _ rfl s)
    | _ => exact Or.inl rfl
  | _ => exact Or.inl rfl

/-- A session after a request was there before, or a login opened it. -/
theorem sessions_step {r : WebRequest} (hfaithful : r.Faithful) (s : Store) :
    (∀ q' ∈ (r.after s).staffSessions, (∃ q ∈ s.staffSessions, q.Ages q') ∨
        ∃ user, r.SignsIn s user ∧ user.OpensStaff r.env q') ∧
      ∀ q' ∈ (r.after s).clientSessions, (∃ q ∈ s.clientSessions, q.Ages q') ∨
        ∃ user, r.SignsIn s user ∧ user.OpensClient r.env q' := by
  obtain hlogin | ⟨library, raw, hraw, hafter⟩ := after_login hfaithful s
  · have haged := keptByWeb_sessionsAged.request r s hlogin
    exact ⟨fun q' hq' => Or.inl (haged.staff q' hq'), fun q' hq' => Or.inl (haged.client q' hq')⟩
  · have hsessions : SessionsOf r.env s ((authorize r.env raw).eval s s) := authorize_sessions raw s
    rw [hafter, after_eq_outcome]
    cases hev : (authorize r.env raw).eval s s with
    | error x =>
      rw [hev] at hsessions
      exact ⟨fun q' hq' => Or.inl (hsessions.staff q' hq'), fun q' hq' => Or.inl (hsessions.client q' hq')⟩
    | ok out =>
      obtain ⟨user, c, t⟩ := out
      rw [hev] at hsessions
      have hsigns : r.SignsIn s user := by
        refine ⟨library, raw, hraw, ?_⟩
        rw [run_ok_iff.mpr ⟨c, hev⟩]
      refine ⟨fun q' hq' => (hsessions.staff q' hq').imp_right (fun h => ⟨user, hsigns, h⟩), fun q' hq' => ?_⟩
      exact (hsessions.client q' hq').imp_right (fun h => ⟨user, hsigns, h⟩)

/-- One of the requests is a login that went through for the account, no longer
ago than a session lasts, and drew the token in the cookie. -/
def BackedBy (r : WebRequest) (start : Store) (requests : List WebRequest) (actorType : AuthActorType) (id : Id) : Prop :=
  ∃ token before login later user, r.cookie = some { actorType := some actorType, sessionToken := some token } ∧
    requests = before ++ login :: later ∧ login.SignsIn (runWeb start before) user ∧ user.actorType = actorType ∧
    user.id = id ∧ login.env.hashToken user.sessionToken = r.env.hashToken token ∧
    r.env.now ≤ login.env.now + sessionTtlMs

variable {start : Store} {requests : List WebRequest} {r : WebRequest}

/-- In a run that starts without sessions every session was opened by a login. -/
theorem staffSession_origin (hfaithful : ∀ q ∈ requests, q.Faithful) (hnone : start.staffSessions.rows = [])
    {q' : StaffSession} (hq' : q' ∈ (runWeb start requests).staffSessions) :
    ∃ before login later user, requests = before ++ login :: later ∧ login.SignsIn (runWeb start before) user ∧
      ∃ q, user.OpensStaff login.env q ∧ q.Ages q' := by
  have hstep : ∀ (s : Store) (r : WebRequest), r.Faithful → ∀ q', q' ∈ (r.after s).staffSessions →
      (∃ q, q ∈ s.staffSessions ∧ q.Ages q') ∨ ∃ user, r.SignsIn s user ∧ user.OpensStaff r.env q' :=
    fun s _ hr => (sessions_step hr s).1
  have horigin := runFrom_origin (fun (s : Store) q => q ∈ s.staffSessions) StaffSession.ages_refl
    (fun _ _ _ => .trans) hstep (alongRun_of_mem (fun r hr _ => hfaithful r hr)) hq'
  obtain ⟨q, hq, _⟩ | ⟨before, login, later, q, hsplit, ⟨user, hsigns, hopens⟩, hage⟩ := horigin
  · rw [Table.mem_def, hnone] at hq
    exact absurd hq List.not_mem_nil
  · exact ⟨before, login, later, user, hsplit, hsigns, q, hopens, hage⟩

theorem clientSession_origin (hfaithful : ∀ q ∈ requests, q.Faithful) (hnone : start.clientSessions.rows = [])
    {q' : ClientSession} (hq' : q' ∈ (runWeb start requests).clientSessions) :
    ∃ before login later user, requests = before ++ login :: later ∧ login.SignsIn (runWeb start before) user ∧
      ∃ q, user.OpensClient login.env q ∧ q.Ages q' := by
  have hstep : ∀ (s : Store) (r : WebRequest), r.Faithful → ∀ q', q' ∈ (r.after s).clientSessions →
      (∃ q, q ∈ s.clientSessions ∧ q.Ages q') ∨ ∃ user, r.SignsIn s user ∧ user.OpensClient r.env q' :=
    fun s _ hr => (sessions_step hr s).2
  have horigin := runFrom_origin (fun (s : Store) q => q ∈ s.clientSessions) ClientSession.ages_refl
    (fun _ _ _ => .trans) hstep (alongRun_of_mem (fun r hr _ => hfaithful r hr)) hq'
  obtain ⟨q, hq, _⟩ | ⟨before, login, later, q, hsplit, ⟨user, hsigns, hopens⟩, hage⟩ := horigin
  · rw [Table.mem_def, hnone] at hq
    exact absurd hq List.not_mem_nil
  · exact ⟨before, login, later, user, hsplit, hsigns, q, hopens, hage⟩

/-- Whom a staff token is accepted for signed in with it. -/
theorem staffActor_backed (hfaithful : ∀ q ∈ requests, q.Faithful) (hnone : start.staffSessions.rows = []) {a : StaffActor}
    (h : getStaffActor ((runWeb start requests).webSession r.env r.cookie) = some a) :
    ∃ account, (runWeb start requests).staffUsers.find account.id = some account ∧ account.isActive = true ∧
      a = account.actor ((runWeb start requests).permissionsOf account.roleId) ∧
      r.BackedBy start requests .staff account.id := by
  obtain ⟨token, hcookie, hactor⟩ := getStaffActor_webSession h
  obtain ⟨⟨q', account⟩, haccepts, rfl⟩ := Option.map_eq_some_iff.mp hactor
  obtain ⟨hfound, hlive, howner, hactive⟩ := Bearer.accepts_eq_some_iff.mp haccepts
  obtain ⟨before, login, later, user, hsplit, hsigns, q, hopens, hage⟩ :=
    staffSession_origin hfaithful hnone (List.mem_of_find?_eq_some hfound)
  have hid : account.id = q'.userId := Table.key_of_find howner
  have hhash : q'.tokenHash = r.env.hashToken token := Bearer.token_of_sessionOf (B := staffBearer) hfound
  have hend : ¬ q'.expiresAt < r.env.now := by
    simpa [staffBearer, StaffSession.isLive] using (Bool.and_eq_true_iff.mp hlive).2
  refine ⟨account, hid.symm ▸ howner, hactive, rfl, token, before, login, later, user, hcookie, hsplit, hsigns,
    hopens.actorType, ?_, ?_, ?_⟩
  · exact hopens.account.symm.trans (hage.userId.symm.trans hid.symm)
  · exact hopens.token.symm.trans (hage.tokenHash.symm.trans hhash)
  · rw [hage.expiresAt, hopens.end_, not_lt] at hend
    exact hend

theorem clientActor_backed (hfaithful : ∀ q ∈ requests, q.Faithful) (hnone : start.clientSessions.rows = [])
    {a : ClientPortalActor} (h : getClientActor ((runWeb start requests).webSession r.env r.cookie) = some a) :
    ∃ contact, (runWeb start requests).clientContacts.find contact.id = some contact ∧ contact.isActive = true ∧
      a = contact.actor ∧ r.BackedBy start requests .clientContact contact.id := by
  obtain ⟨token, context, hcookie, hactor, rfl⟩ := getClientActor_webSession h
  obtain ⟨⟨q', contact⟩, haccepts, rfl⟩ := Option.map_eq_some_iff.mp hactor
  obtain ⟨hfound, hlive, howner, hactive⟩ := Bearer.accepts_eq_some_iff.mp haccepts
  obtain ⟨before, login, later, user, hsplit, hsigns, q, hopens, hage⟩ :=
    clientSession_origin hfaithful hnone (List.mem_of_find?_eq_some hfound)
  have hid : contact.id = q'.contactId := Table.key_of_find howner
  have hhash : q'.tokenHash = r.env.hashToken token := Bearer.token_of_sessionOf (B := clientBearer) hfound
  have hend : ¬ q'.expiresAt < r.env.now := by
    simpa [clientBearer, ClientSession.isLive] using (Bool.and_eq_true_iff.mp hlive).2
  refine ⟨contact, hid.symm ▸ howner, hactive, rfl, token, before, login, later, user, hcookie, hsplit, hsigns,
    hopens.actorType, ?_, ?_, ?_⟩
  · exact hopens.account.symm.trans (hage.contactId.symm.trans hid.symm)
  · exact hopens.token.symm.trans (hage.tokenHash.symm.trans hhash)
  · rw [hage.expiresAt, hopens.end_, not_lt] at hend
    exact hend

end WebRequest

end Requests

section Effects

variable {env : Env} {s : Store}

/-- The permission that an action of the admin pages takes. -/
def StaffAction.permission : StaffAction → PermissionKey
  | addClientNote _ => .clientsWrite
  | changeClientStatus _ => .clientsWrite
  | createStaffUser _ => .staffManage
  | createProductGroup _ => .productsWrite
  | createProduct _ => .productsWrite
  | markInvoicePaid _ => .invoicesWrite
  | updateCompanyProfile _ => .settingsManage

theorem after_unpermitted {α : Type} {permissions : List String} {permission : PermissionKey} {p : Db α}
    {f : Unit → Db α} (hp : p = (requirePermission permissions permission >>= f))
    (h : hasPermission permissions permission ≠ true) (s : Store) : p.after s = s := by
  rw [hp, requirePermission, ensure, if_neg h]
  rfl

theorem attempt_unpermitted {α : Type} {permissions : List String} {permission : PermissionKey} {message : String}
    {p : Db α} {f : Unit → Db α} (hp : p = (requirePermission permissions permission >>= f))
    (h : hasPermission permissions permission ≠ true) (s : Store) : (attempt message p s).1 = s :=
  after_unpermitted hp h s

/-- An action that the actor has no permission for changes nothing. -/
theorem StaffAction.unpermitted (action : StaffAction) {actor : StaffActor}
    (h : hasPermission actor.permissions action.permission ≠ true) (s : Store) : (action.perform env actor s).1 = s := by
  cases action with
  | addClientNote form =>
    simp only [StaffAction.perform, replying, addClientNoteAction]
    split
    · rfl
    · exact attempt_unpermitted rfl h s
  | changeClientStatus form =>
    simp only [StaffAction.perform, replying, changeClientStatusAction]
    split
    · rfl
    · unfold changeClientStatusTo
      split
      · exact attempt_unpermitted rfl h s
      · exact attempt_unpermitted rfl h s
  | createStaffUser form =>
    simp only [StaffAction.perform, replying, createStaffUserAction]
    split
    · rfl
    · exact attempt_unpermitted rfl h s
  | createProductGroup form =>
    simp only [StaffAction.perform, replying, createProductGroupAction]
    split
    · rfl
    · exact attempt_unpermitted rfl h s
  | createProduct form =>
    simp only [StaffAction.perform, replying, createProductAction]
    split
    · rfl
    · split
      · rfl
      · rfl
      · exact after_unpermitted (bind_assoc _ _ _) h s
  | markInvoicePaid form =>
    simp only [StaffAction.perform, replying, markInvoicePaidAction]
    split
    · rfl
    · split
      · rfl
      · rfl
      · exact after_unpermitted rfl h s
  | updateCompanyProfile form =>
    simp only [StaffAction.perform, replying, updateCompanyProfileAction]
    split
    · rfl
    · exact attempt_unpermitted rfl h s

/-- A request that needs an actor: it is sent to the login page, or it goes on as
the actor its cookie stands for. -/
theorem WebRequest.withActor_cases {α : Type} (r : WebRequest) (actorOf : Option WebSession → Option α) (loginPath : String)
    (k : α → Store → Store × Except Failure WebReply) (s : Store) :
    ∃ t : Store, t.unseen = s.unseen ∧
      ((r.withActor actorOf loginPath k s = (t, .ok (.redirect loginPath))) ∨
        ∃ actor, actorOf (s.webSession r.env r.cookie) = some actor ∧ r.withActor actorOf loginPath k s = k actor t) := by
  have hleaves : (getSession r.env r.cookie).Leaves Store.unseen := leaves_getSession r.cookie
  have hseen := after_of_leaves hleaves s
  have hanswer := run_getSession s r.env r.cookie
  unfold Program.after at hseen
  unfold WebRequest.withActor
  cases hrun : (getSession r.env r.cookie).run s with
  | mk t result =>
    rw [hrun] at hseen hanswer
    obtain rfl : result = .ok (s.webSession r.env r.cookie) := hanswer
    refine ⟨t, hseen, ?_⟩
    cases hactor : actorOf (s.webSession r.env r.cookie) with
    | none => exact Or.inl (by simp only [hactor])
    | some actor => exact Or.inr ⟨actor, rfl, by simp only [hactor]⟩

/-- In every run that starts without sessions, a request to an admin action is
sent to the login page and changes nothing, or it is backed by a login of an account that is
active and, if anything changes, whose role now has the permission of the action. -/
theorem staff_request_authorized {start : Store} {requests : List WebRequest} {r : WebRequest} {action : StaffAction}
    (hfaithful : ∀ q ∈ requests, q.Faithful) (hnone : start.staffSessions.rows = []) (haction : r.action = .staff action) :
    ((r.respond (runWeb start requests)).2 = .ok (.redirect "/admin/login") ∧
        (r.after (runWeb start requests)).unseen = (runWeb start requests).unseen) ∨
      ∃ account, (runWeb start requests).staffUsers.find account.id = some account ∧ account.isActive = true ∧
        r.BackedBy start requests .staff account.id ∧
        ((r.after (runWeb start requests)).unseen = (runWeb start requests).unseen ∨
          hasPermission ((runWeb start requests).permissionsOf account.roleId) action.permission = true) := by
  unfold WebRequest.after WebRequest.respond
  rw [haction]
  obtain ⟨t, hseen, hlogin | ⟨actor, hactor, hgoes⟩⟩ := r.withActor_cases getStaffActor "/admin/login"
    (fun actor t => action.perform r.env actor t) (runWeb start requests)
  · refine Or.inl ?_
    simp only [WebRequest.asStaff, hlogin]
    exact ⟨trivial, hseen⟩
  · obtain ⟨account, hfound, hactive, rfl, hbacked⟩ := WebRequest.staffActor_backed hfaithful hnone hactor
    refine Or.inr ⟨account, hfound, hactive, hbacked, ?_⟩
    simp only [WebRequest.asStaff, hgoes]
    by_cases hpermitted : hasPermission ((runWeb start requests).permissionsOf account.roleId) action.permission = true
    · exact Or.inr hpermitted
    · rw [action.unpermitted hpermitted]
      exact Or.inl hseen

end Effects

namespace Sample

/-- The office, whose role may write to clients. -/
def clerks : Store :=
  { office with
    permissions := (∅ : Table Permission.id).insert
      { id := "permission", key := PermissionKey.clientsWrite.name, category := "clients" }
    rolePermissions := (∅ : Table RolePermission.ref).insert { roleId := "role", permissionId := "permission" } }

theorem staffSignIn_faithful : ∀ q ∈ [staffSignIn], q.Faithful := by
  intro q hq library raw hraw s
  cases List.mem_singleton.mp hq
  cases hraw
  exact after_bind_ret _ _ s

end Sample

open Sample in
/-- The note is written by the member of staff who signed in a minute before. -/
theorem staff_request_authorized_note :
    (noteRequest.respond (runWeb clerks [staffSignIn])).2 = .ok (.success "Note added.") ∧
      ∃ account, (runWeb clerks [staffSignIn]).staffUsers.find account.id = some account ∧ account.isActive = true ∧
        noteRequest.BackedBy clerks [staffSignIn] .staff account.id ∧
        ((noteRequest.after (runWeb clerks [staffSignIn])).unseen = (runWeb clerks [staffSignIn]).unseen ∨
          hasPermission ((runWeb clerks [staffSignIn]).permissionsOf account.roleId) .clientsWrite = true) := by
  have hreply : (noteRequest.respond (runWeb clerks [staffSignIn])).2 = .ok (.success "Note added.") :=
    ok_of_toOption (by decide +kernel)
  have hnone : clerks.staffSessions.rows = [] := rfl
  have haction : noteRequest.action = .staff (.addClientNote { clientId := some "client", body := some "called" }) := rfl
  obtain ⟨hredirect, _⟩ | hbacked := staff_request_authorized staffSignIn_faithful hnone haction
  · rw [hreply] at hredirect
    cases hredirect
  · exact ⟨hreply, hbacked⟩

end HostPanel.Model
