import HostPanel.Access.Lifetime
import HostPanel.Lib.Matching
import HostPanel.Model.OrderArithmetic

namespace HostPanel.Model

open HostPanel.Lib HostPanel.Lib.Program

/-- What is asked of the services a client of the portal meets. -/
inductive PortalOp where
  | authenticateClientContact (input : LoginInput)
  | authorizeClient (raw : Credentials) (tenantId : Id)
  | createClientSession (input : ClientSessionInput)
  | validateClientSession (token : String)
  | changeClientStatus (actor : StaffActor) (clientId : Id) (toStatus : ClientStatus) (reason : String)
  | createOrder (actor : Actor) (input : CreateOrderInput)

structure PortalCall where
  env : Env
  op : PortalOp

namespace PortalCall

def after (s : Store) (call : PortalCall) : Store :=
  match call.op with
  | .authenticateClientContact input => (authenticateClientContact call.env input).after s
  | .authorizeClient raw tenantId => (authorizeClient call.env raw tenantId).after s
  | .createClientSession input => (createClientSession call.env input).after s
  | .validateClientSession token => (validateClientSession call.env token).after s
  | .changeClientStatus actor clientId toStatus reason =>
    (changeClientStatus call.env actor clientId toStatus reason).after s
  | .createOrder actor input => (createOrder call.env actor input).after s

/-- The calls are made one after the other, the first not before `t`. -/
def InOrder (t : DateTime) (calls : List PortalCall) : Prop :=
  (t :: calls.map (fun call => call.env.now)).Pairwise (· ≤ ·)

instance (t : DateTime) (calls : List PortalCall) : Decidable (InOrder t calls) :=
  inferInstanceAs (Decidable (List.Pairwise _ _))

end PortalCall

abbrev runPortal (s : Store) (calls : List PortalCall) : Store := runFrom PortalCall.after s calls

/-- Every session of a contact of the client was revoked or is past its end, or
the contact may no longer be used. -/
def Store.PortalOver (s : Store) (clientId : Id) (now : DateTime) : Prop :=
  ∀ r ∈ s.clientSessions, ∀ contact, s.clientContacts.find r.contactId = some contact → contact.clientId = clientId →
    r.isLive now = false ∨ contact.isActive = false

/-- The client is suspended or closed. -/
def Store.Barred (s : Store) (clientId : Id) : Prop :=
  ∃ client, s.clients.find clientId = some client ∧ client.status.isBarred = true

/-- A client is barred only when its sessions are over, no session is opened
for an active contact of a barred client, and no actor of one places an order
that passes the other checks. -/
def PortalCall.Cuts (s : Store) (call : PortalCall) : Prop :=
  match call.op with
  | .changeClientStatus actor clientId toStatus _ =>
    hasPermission actor.permissions .clientsWrite = true →
      (∃ client, s.clients.find clientId = some client ∧ isValidClientTransition client.status toStatus = true) →
        toStatus.isBarred = true → s.PortalOver clientId call.env.now
  | .createClientSession input =>
    ∀ contact, s.clientContacts.find input.contactId = some contact → contact.isActive = true →
      ¬ s.Barred contact.clientId
  | .createOrder (.clientContact actor) input => s.Barred actor.clientId →
    ¬ s.Accepts call.env (.clientContact actor) input
  | _ => True

/-- The contacts and their sessions are the same, each only aged. -/
structure Store.Quiet (s s' : Store) : Prop where
  contacts : List.Forall₂ ClientContact.Ages s.clientContacts.rows s'.clientContacts.rows
  sessions : List.Forall₂ ClientSession.Ages s.clientSessions.rows s'.clientSessions.rows

theorem Store.quiet_refl (s : Store) : s.Quiet s :=
  ⟨List.forall₂_same.mpr (fun r _ => r.ages_refl), List.forall₂_same.mpr (fun r _ => r.ages_refl)⟩

theorem Store.Quiet.trans {s t u : Store} (h : s.Quiet t) (h' : t.Quiet u) : s.Quiet u := by
  refine ⟨(forall₂_comp h.contacts h'.contacts).imp ?_, (forall₂_comp h.sessions h'.sessions).imp ?_⟩
  · exact fun r r'' ⟨r', hr, hr'⟩ => hr.trans hr'
  · exact fun r r'' ⟨r', hr, hr'⟩ => hr.trans hr'

/-- The contacts and their sessions. -/
def Store.portal (s : Store) : Table ClientContact.id × Table ClientSession.id := (s.clientContacts, s.clientSessions)

theorem quiet_of_portal (s t : Store) (h : t.portal = s.portal) : s.Quiet t := by
  simp only [Store.portal, Prod.mk.injEq] at h
  obtain ⟨hcontacts, hsessions⟩ := h
  exact ⟨hcontacts ▸ s.quiet_refl.contacts, hsessions ▸ s.quiet_refl.sessions⟩

section Quiet

variable {α : Type} {env : Env}

theorem quiet_of_leaves {p : Db α} (hp : p.Leaves Store.portal) : p.Guarantees Store.Quiet :=
  hp.guarantees quiet_of_portal

theorem quiet_modifyContact (i : Id) (f : ClientContact → ClientContact) (hf : ∀ r, (f r).id = r.id)
    (h : ∀ r, ClientContact.Ages r (f r)) (s : Store) : s.Quiet (prisma.clientContact.modify i f hf s) := by
  refine ⟨forall₂_map (fun r => ?_) _, s.quiet_refl.sessions⟩
  split
  · exact h r
  · exact r.ages_refl

theorem quiet_updateClientSession (i : Id) (f : ClientSession → ClientSession) (hf : ∀ r, (f r).id = r.id)
    (h : ∀ r, ClientSession.Ages r (f r)) : (prisma.clientSession.update i f hf).Guarantees Store.Quiet := by
  refine Relation.guarantees_update i f hf (fun s => ⟨s.quiet_refl.contacts, forall₂_map (fun r => ?_) _⟩)
  split
  · exact h r
  · exact r.ages_refl

theorem quiet_authenticateClientContact (input : LoginInput) :
    (authenticateClientContact env input).Guarantees Store.Quiet := by
  refine guarantees_authenticateClientContact (fun _ t => quiet_of_portal t _ rfl) (fun i f hf h t => ?_)
    (fun _ _ t => quiet_of_portal t _ rfl) input
  exact quiet_modifyContact i f hf (fun r => ClientContact.ages_of_standing (h r)) t

theorem quiet_validateClientSession (token : String) : (validateClientSession env token).Guarantees Store.Quiet := by
  refine (Relation.guarantees_findFirst _).bind (fun session => ?_)
  cases session.filter (ClientSession.isLive env.now) with
  | none => trivial
  | some session =>
    refine Guarantees.bind (Guarantees.transaction ?_) (fun _ => ?_)
    · exact quiet_updateClientSession _ _ _ (fun _ => ⟨rfl, rfl, rfl, rfl, rfl, fun _ => rfl⟩)
    · exact Guarantees.bind ((Relation.guarantees_findUnique _).bind (fun _ => trivial)) (fun _ => trivial)

theorem quiet_changeClientStatus (actor : StaffActor) (clientId : Id) (toStatus : ClientStatus) (reason : String) :
    (changeClientStatus env actor clientId toStatus reason).Guarantees Store.Quiet := by
  refine Guarantees.bind (guarantees_ensure _ _) (fun _ => Guarantees.transaction ?_)
  refine Guarantees.bind ?_ (fun _ => quiet_of_leaves (leaves_recordAuditLog _ (fun _ => rfl)))
  refine (Relation.guarantees_findUniqueOrThrow _).bind (fun client => (guarantees_ensure _ _).bind (fun _ => ?_))
  refine (quiet_of_leaves (Relation.leaves_update _ _ _ (fun _ => rfl))).bind (fun updated => ?_)
  exact (quiet_of_leaves (leaves_recordStatusTransition _ (fun _ => rfl))).bind (fun _ => trivial)

theorem quiet_after {p : Db α} (hp : p.Guarantees Store.Quiet) (s : Store) : s.Quiet (p.after s) :=
  after_of_guarantees Store.quiet_refl (fun _ _ _ => Store.Quiet.trans) hp s

theorem quiet_after_createOrder (actor : Actor) (input : CreateOrderInput) (s : Store) :
    s.Quiet ((createOrder env actor input).after s) := by
  obtain hsame | ⟨order, c, s', hok, hafter⟩ := after_of_atomic (atomic_createOrder env actor input) s
  · rw [hsame]
    exact s.quiet_refl
  · rw [hafter]
    obtain ⟨_, ⟨_, hs'⟩ | ⟨_, client, rows, hplaced⟩⟩ := createOrder_ok hok
    · exact hs' ▸ s.quiet_refl
    · obtain ⟨value, _, _, hs'⟩ := hplaced.after
      apply quiet_of_portal
      rw [hs']
      simp only [Store.portal, Store.placeOrder, Store.withAuditLog, Store.withStatusHistory, Relation.insert,
        prisma.order, Store.withCounter]

end Quiet

section Steps

variable {s s' : Store} {clientId : Id} {now now' : DateTime}

theorem ClientSession.not_isLive_later {r : ClientSession} (h : r.isLive now = false) (hle : now ≤ now') :
    r.isLive now' = false := by
  by_contra hlive
  rw [r.ages_refl.isLive hle ((Bool.not_eq_false _).mp hlive)] at h
  cases h

theorem Store.PortalOver.later (h : s.PortalOver clientId now) (hle : now ≤ now') : s.PortalOver clientId now' :=
  fun r hr contact hfound hclient => (h r hr contact hfound hclient).imp_left (fun hdead =>
    ClientSession.not_isLive_later hdead hle)

theorem Store.Quiet.contact (h : s.Quiet s') {id : Id} {contact' : ClientContact}
    (hfound : s'.clientContacts.find id = some contact') :
    ∃ contact, s.clientContacts.find id = some contact ∧ contact.Ages contact' := by
  obtain ⟨contact, hmem, hage⟩ := exists_left_of_forall₂ h.contacts (Table.mem_of_find hfound)
  have hid : contact.id = id := hage.id.symm.trans (Table.key_of_find hfound)
  exact ⟨contact, hid ▸ Table.find_of_mem hmem, hage⟩

theorem Store.PortalOver.quiet (h : s.PortalOver clientId now) (hq : s.Quiet s') : s'.PortalOver clientId now := by
  intro r' hr' contact' hfound' hclient
  obtain ⟨r, hr, hsession⟩ := exists_left_of_forall₂ hq.sessions hr'
  obtain ⟨contact, hfound, hcontact⟩ := hq.contact hfound'
  rw [hsession.contactId] at hfound
  obtain hdead | hinactive := h r hr contact hfound (hcontact.clientId.symm.trans hclient)
  · refine Or.inl ?_
    by_contra hlive
    rw [hsession.isLive le_rfl ((Bool.not_eq_false _).mp hlive)] at hdead
    cases hdead
  · exact Or.inr (hcontact.inactive hinactive)

theorem Store.PortalOver.insert (h : s.PortalOver clientId now) {row : ClientSession}
    (hrow : ∀ contact, s.clientContacts.find row.contactId = some contact → contact.isActive = true →
      contact.clientId ≠ clientId) : (prisma.clientSession.insert row s).PortalOver clientId now := by
  intro r hr contact hfound hclient
  obtain hold | rfl := Table.of_mem_insert (t := s.clientSessions) hr
  · exact h r hold contact hfound hclient
  · refine Or.inr ?_
    by_contra hactive
    exact hrow contact hfound ((Bool.not_eq_false _).mp hactive) hclient

theorem after_createClientSession (env : Env) (input : ClientSessionInput) (s : Store) :
    (createClientSession env input).after s = s ∨ ∃ row : ClientSession, row.contactId = input.contactId ∧
      (createClientSession env input).after s = prisma.clientSession.insert row s := by
  have hatomic : (createClientSession env input).Atomic := fun _ => ⟨env.generateToken, rfl⟩
  obtain hsame | ⟨token, c, s', hok, hafter⟩ := after_of_atomic hatomic s
  · exact Or.inl hsame
  · obtain ⟨_, row, hcontact, _, _, _, _, _, hs'⟩ := createClientSession_ok hok
    exact Or.inr ⟨row, hcontact, hafter.trans hs'⟩

section Logins

variable {env : Env} {input : LoginInput} {c v c' v' : Store}

theorem failLogin_not_ok {α : Type} {actorType : AuthActorType} {actorId : Option Id} {email reason : String}
    {out : α × Store × Store} :
    (failLogin env actorType actorId input email reason : Db α).eval c v ≠ .ok out := by
  intro h
  obtain ⟨_, _, _, _, hraise⟩ := eval_bind_ok.mp h
  cases hraise

theorem completeClientLogin_ok {email : String} {contact : ClientContact} {out : AuthenticatedClientContact}
    (h : (completeClientLogin env input email contact).eval c v = .ok (out, c', v')) :
    out.id = contact.id ∧ c' = v' := by
  obtain ⟨_, _, _, _, hrest⟩ := eval_bind_ok.mp h
  obtain ⟨_, _, _, hwrite, hret⟩ := eval_bind_ok.mp hrest
  cases hret
  exact ⟨rfl, (eval_transaction_ok.mp hwrite).1⟩

theorem checkContactPassword_ok {email : String} {contact : ClientContact} {out : AuthenticatedClientContact}
    (h : (checkContactPassword env input email contact).eval c v = .ok (out, c', v')) :
    out.id = contact.id ∧ c' = v' := by
  unfold checkContactPassword at h
  split at h
  · exact completeClientLogin_ok h
  · obtain ⟨_, _, _, _, hrest⟩ := eval_bind_ok.mp h
    obtain ⟨_, _, _, _, hfail⟩ := eval_bind_ok.mp hrest
    exact absurd hfail failLogin_not_ok

theorem checkContactAccount_ok {email : String} {contact : ClientContact} {client : Client}
    {out : AuthenticatedClientContact}
    (h : (checkContactAccount env input email contact client).eval c v = .ok (out, c', v')) :
    out.id = contact.id ∧ c' = v' ∧ client.status.isBarred = false := by
  unfold checkContactAccount at h
  split at h
  · exact absurd h failLogin_not_ok
  split at h
  · exact absurd h failLogin_not_ok
  rename_i hbarred
  split at h
  · exact absurd h failLogin_not_ok
  · obtain ⟨hid, hcommitted⟩ := checkContactPassword_ok h
    exact ⟨hid, hcommitted, Bool.not_eq_true _ ▸ hbarred⟩

/-- A login that succeeds is of a contact whose client is not barred. -/
theorem authenticateClientContact_ok {out : AuthenticatedClientContact}
    (h : (authenticateClientContact env input).eval s s = .ok (out, c', s')) :
    c' = s' ∧ ∃ contact, s.clientContacts.find out.id = some contact ∧ ¬ s.Barred contact.clientId := by
  change (checkFoundContact env input (normalizeEmail input.email)
    (s.clientContacts.rows.find? (ClientContact.hasEmail input.tenantId (normalizeEmail input.email)))).eval s s = _ at h
  cases hfound : s.clientContacts.rows.find?
      (ClientContact.hasEmail input.tenantId (normalizeEmail input.email)) with
  | none =>
    rw [hfound] at h
    exact absurd h failLogin_not_ok
  | some contact =>
    rw [hfound, checkFoundContact] at h
    obtain ⟨client, hclient, hcheck⟩ := Relation.eval_findUniqueOrThrow_bind.mp h
    obtain ⟨hid, hcommitted, hopen⟩ := checkContactAccount_ok hcheck
    have hmem : contact ∈ s.clientContacts := List.mem_of_find?_eq_some hfound
    refine ⟨hcommitted, contact, hid ▸ Table.find_of_mem hmem, ?_⟩
    rintro ⟨client', hclient', hbarred⟩
    cases hclient.symm.trans hclient'
    rw [hopen] at hbarred
    cases hbarred

end Logins

/-- The session a login form asks for. -/
def Credentials.sessionInput (raw : Credentials) (contactId tenantId : Id) : ClientSessionInput :=
  { contactId := contactId, tenantId := tenantId, ip := whenGiven raw.ip, userAgent := whenGiven raw.userAgent }

/-- A login form opens no session of a barred client. -/
theorem Store.PortalOver.afterLogin (h : s.PortalOver clientId now) (hbarred : s.Barred clientId) {env : Env}
    (raw : Credentials) (tenantId : Id) : ((authorizeClient env raw tenantId).after s).PortalOver clientId now := by
  have hquiet : s.Quiet ((authenticateClientContact env (raw.loginInput tenantId)).after s) :=
    quiet_after (quiet_authenticateClientContact _) s
  have hsame : (authenticateClientContact env (raw.loginInput tenantId)).after s = outcome _ := after_eq_outcome _ s
  cases hlogin : (authenticateClientContact env (raw.loginInput tenantId)).eval s s with
  | error x =>
    obtain ⟨e, c⟩ := x
    rw [hsame, hlogin] at hquiet
    have hafter : (authorizeClient env raw tenantId).after s = c := after_bind_error hlogin
    rw [hafter]
    exact h.quiet hquiet
  | ok x =>
    obtain ⟨contact, c, t⟩ := x
    rw [hsame, hlogin] at hquiet
    obtain ⟨rfl, owner, howner, hopen⟩ := authenticateClientContact_ok hlogin
    have hafter : (authorizeClient env raw tenantId).after s =
        (createClientSession (env.drawn 1) (raw.sessionInput contact.id tenantId)).after c :=
      (after_bind_ok hlogin).trans (after_bind_ret _ _ c)
    have hover := h.quiet hquiet
    rw [hafter]
    rcases after_createClientSession (env.drawn 1) (raw.sessionInput contact.id tenantId) c with
      hnone | ⟨row, hcontact, hinsert⟩
    · rw [hnone]
      exact hover
    · rw [hinsert]
      refine hover.insert (fun contact' hfound _ hclient => hopen ?_)
      rw [hcontact] at hfound
      obtain ⟨owner', howner', hage⟩ := hquiet.contact hfound
      cases howner.symm.trans howner'
      rw [← hage.clientId, hclient]
      exact hbarred

/-- One call on a client that is barred already. -/
theorem Store.PortalOver.call (h : s.PortalOver clientId now) (hbarred : s.Barred clientId) (call : PortalCall)
    (hcuts : call.Cuts s) : (call.after s).PortalOver clientId now := by
  obtain ⟨env, op⟩ := call
  cases op with
  | authenticateClientContact input => exact h.quiet (quiet_after (quiet_authenticateClientContact input) s)
  | authorizeClient raw tenantId => exact h.afterLogin hbarred raw tenantId
  | createClientSession input =>
    change ((createClientSession env input).after s).PortalOver clientId now
    obtain hsame | ⟨row, hcontact, hafter⟩ := after_createClientSession env input s
    · rw [hsame]
      exact h
    · rw [hafter]
      refine h.insert (fun contact hfound hactive hclient => ?_)
      rw [hcontact] at hfound
      exact hcuts contact hfound hactive (hclient ▸ hbarred)
  | validateClientSession token => exact h.quiet (quiet_after (quiet_validateClientSession token) s)
  | changeClientStatus actor id toStatus reason =>
    exact h.quiet (quiet_after (quiet_changeClientStatus actor id toStatus reason) s)
  | createOrder actor input => exact h.quiet (quiet_after_createOrder actor input s)

theorem Store.PortalOver.refuses (h : s.PortalOver clientId now) {hash : String}
    (howned : ∀ r ∈ s.clientSessions, r.tokenHash = hash → ∀ contact,
      s.clientContacts.find r.contactId = some contact → contact.clientId = clientId) :
    s.clientContextOf now hash = none := by
  refine Option.map_eq_none_iff.mpr (Bearer.accepts_eq_none_iff.mpr (fun r hr => ?_))
  have hmem : r ∈ s.clientSessions := List.mem_of_find?_eq_some hr
  have hhash : r.tokenHash = hash := Bearer.token_of_sessionOf hr
  obtain hlive | hdead := Bool.eq_false_or_eq_true (r.isLive now)
  · refine Or.inr (fun contact hfound => ?_)
    obtain hdead | hinactive := h r hmem contact hfound (howned r hmem hhash contact hfound)
    · rw [hlive] at hdead
      cases hdead
    · exact hinactive
  · exact Or.inl hdead

theorem rejected_of_not_accepts {env : Env} {actor : ClientPortalActor} {input : CreateOrderInput}
    (h : ¬ s.Accepts env (.clientContact actor) input) :
    ∃ e, ((createOrder env (.clientContact actor) input).run s).2 = .error e := by
  cases hrun : ((createOrder env (.clientContact actor) input).run s).2 with
  | error e => exact ⟨e, rfl⟩
  | ok order =>
    obtain ⟨c, hok⟩ := run_ok_iff.mp (Prod.ext rfl hrun)
    exact absurd (createOrder_returns_iff.mp ⟨_, hok⟩) h

end Steps

/-- The client has the status when the call is made, and the call meets the
condition. -/
def PortalCall.CutsIn (clientId : Id) (status : ClientStatus) (s : Store) (call : PortalCall) : Prop :=
  (s.clients.find clientId).map Client.status = some status ∧ call.Cuts s

theorem barred_of_status {s : Store} {clientId : Id} {status : ClientStatus} (hbarred : status.isBarred = true)
    (h : (s.clients.find clientId).map Client.status = some status) : s.Barred clientId := by
  obtain ⟨client, hfound, rfl⟩ := Option.map_eq_some_iff.mp h
  exact ⟨client, hfound, hbarred⟩

theorem Store.PortalOver.run {s : Store} {clientId : Id} {now : DateTime} {status : ClientStatus}
    (hbarred : status.isBarred = true) (h : s.PortalOver clientId now) {calls : List PortalCall}
    (hcalls : AlongRun PortalCall.after (PortalCall.CutsIn clientId status) s calls) :
    (runPortal s calls).PortalOver clientId now := by
  refine runFrom_inv (I := fun t : Store => t.PortalOver clientId now) (fun t call ht hcuts => ?_) h hcalls
  exact ht.call (barred_of_status hbarred hcuts.1) call hcuts.2

theorem changeClientStatus_guard {s : Store} {env : Env} {actor : StaffActor} {clientId : Id} {status : ClientStatus}
    {reason : String} (h : (changeClientStatus env actor clientId status reason).completes s = true) :
    hasPermission actor.permissions .clientsWrite = true ∧
      ∃ client, s.clients.find clientId = some client ∧ isValidClientTransition client.status status = true := by
  obtain ⟨s', u, hrun, _⟩ := returns_iff.mp h
  obtain ⟨c, hok⟩ := run_ok_iff.mp hrun
  obtain ⟨client, hfound, hvalid, _⟩ := changeClientStatus_ok hok
  exact ⟨(eval_ensure_bind.mp hok).1, client, hfound, hvalid⟩

/-- In a run whose calls meet the condition, a client that was suspended or
closed is cut off as long as it stays so. -/
theorem barred_client_cut_off (s : Store) {bar : PortalCall} {actor : StaffActor} {clientId : Id}
    {status : ClientStatus} {reason : String} (hop : bar.op = .changeClientStatus actor clientId status reason)
    (hbarred : status.isBarred = true)
    (hcommitted : (changeClientStatus bar.env actor clientId status reason).completes s = true)
    (hcuts : bar.Cuts s) (between : List PortalCall) (check : PortalCall)
    (horder : PortalCall.InOrder bar.env.now (between ++ [check]))
    (hrun : AlongRun PortalCall.after (PortalCall.CutsIn clientId status) (bar.after s) (between ++ [check])) :
    (∀ token, check.op = .validateClientSession token →
      (∀ r ∈ (runPortal (bar.after s) between).clientSessions, r.tokenHash = check.env.hashToken token →
        ∀ contact, (runPortal (bar.after s) between).clientContacts.find r.contactId = some contact →
          contact.clientId = clientId) →
      ((validateClientSession check.env token).run (runPortal (bar.after s) between)).2 = .ok none) ∧
    ∀ client input, check.op = .createOrder (.clientContact client) input → client.clientId = clientId →
      ∃ e, ((createOrder check.env (.clientContact client) input).run (runPortal (bar.after s) between)).2 = .error e := by
  have hover : s.PortalOver clientId bar.env.now := by
    obtain ⟨env, op⟩ := bar
    cases hop
    obtain ⟨hpermission, hvalid⟩ := changeClientStatus_guard hcommitted
    exact hcuts hpermission hvalid hbarred
  have hafter : (bar.after s).PortalOver clientId bar.env.now := by
    obtain ⟨env, op⟩ := bar
    cases hop
    exact hover.quiet (quiet_after (quiet_changeClientStatus actor clientId status reason) s)
  obtain ⟨hbetween, hcheck, _⟩ := alongRun_append.mp hrun
  have hnow : bar.env.now ≤ check.env.now := (List.pairwise_cons.mp horder).1 check.env.now (by simp)
  have hstill := (hafter.run hbarred hbetween).later hnow
  refine ⟨fun token hvalidate howned => ?_, fun client input hcreate hclient => ?_⟩
  · rw [run_validateClientSession, hstill.refuses howned]
  · apply rejected_of_not_accepts
    obtain ⟨env, op⟩ := check
    cases hcreate
    exact hcheck.2 (hclient ▸ barred_of_status hbarred hcheck.1)

namespace Sample

/-- The shop, with a contact of its client signed in at time 0. -/
def storefront : Store :=
  PortalCall.after { shop 0 with tenants := office.tenants, clientContacts := office.clientContacts }
    ⟨moment "a" 0, .createClientSession { contactId := "contact", tenantId := "tenant" }⟩

def suspension (now : DateTime) : PortalCall := ⟨moment "b" now, .changeClientStatus staff "client" .suspended "unpaid"⟩

end Sample

open Sample in
/-- A client that was just suspended still has its session, and still orders. -/
theorem suspended_client_served :
    (changeClientStatus (moment "b" 1) staff "client" .suspended "unpaid").completes storefront = true ∧
      (((suspension 1).after storefront).clients.find "client").map Client.status = some .suspended ∧
      ((validateClientSession (moment "c" 2) "token-a").run ((suspension 1).after storefront)).2 =
        .ok (some { actor := member.actor, impersonatedByStaffUserId := none }) ∧
      (createOrder (moment "c" 2) (.clientContact contact) twoMonths).completes ((suspension 1).after storefront) =
        true := by
  refine ⟨by decide +kernel, by decide +kernel, ?_, by decide +kernel⟩
  rw [run_validateClientSession]
  exact congrArg Except.ok (by decide +kernel)

namespace Sample

/-- The contact tries to sign in, and to use the session. -/
def afterwards : List PortalCall :=
  [⟨moment "c" (sessionTtlMs + 2), .authenticateClientContact
      { tenantId := "tenant", email := "client@example.test", password := "correct horse" }⟩,
    ⟨moment "d" (sessionTtlMs + 3), .validateClientSession "token-a"⟩]

end Sample

open Sample in
/-- A client suspended after its session has ended. -/
theorem barred_client_cut_off_late :
    ((validateClientSession (moment "e" (sessionTtlMs + 4)) "token-a").run
      (runPortal ((suspension (sessionTtlMs + 1)).after storefront) afterwards)).2 = .ok none := by
  have hdead : ∀ r ∈ storefront.clientSessions.rows, r.isLive (sessionTtlMs + 1) = false := by decide +kernel
  have hcuts : (suspension (sessionTtlMs + 1)).Cuts storefront :=
    fun _ _ _ r hr _ _ _ => Or.inl (hdead r hr)
  have howner : ∀ r ∈ (runPortal ((suspension (sessionTtlMs + 1)).after storefront) afterwards).clientSessions.rows,
      ((runPortal ((suspension (sessionTtlMs + 1)).after storefront) afterwards).clientContacts.find r.contactId).all
        (fun contact => contact.clientId == "client") = true := by
    decide +kernel
  have hop : (suspension (sessionTtlMs + 1)).op = .changeClientStatus staff "client" .suspended "unpaid" := rfl
  refine (barred_client_cut_off storefront hop rfl (by decide +kernel) hcuts afterwards
    ⟨moment "e" (sessionTtlMs + 4), .validateClientSession "token-a"⟩ (by decide)
    ⟨⟨by decide +kernel, trivial⟩, ⟨by decide +kernel, trivial⟩, ⟨by decide +kernel, trivial⟩, trivial⟩).1 "token-a" rfl ?_
  intro r hr _ contact hfound
  have hsame := howner r hr
  rw [hfound] at hsame
  exact beq_iff_eq.mp hsame

end HostPanel.Model
