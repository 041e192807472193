import HostPanel.Access.Attempts
import HostPanel.Access.Portal
import HostPanel.Access.Registrations
import HostPanel.Model.OrderArithmetic

namespace HostPanel.Model

open HostPanel.Lib HostPanel.Lib.Program

/-- What a client account goes through from its registration to its orders. -/
inductive AccountCall where
  | registerClient (env : Env) (input : RegisterClientInput)
  | authenticateClientContact (env : Env) (input : LoginInput)
  | createClientSession (env : Env) (input : ClientSessionInput)
  | validateClientSession (env : Env) (token : String)
  | createOrder (env : Env) (actor : Actor) (input : CreateOrderInput)
  | verifyClientEmail (env : Env) (token : String)
  | changeClientStatus (env : Env) (actor : StaffActor) (clientId : Id) (toStatus : ClientStatus) (reason : String)

def AccountCall.after (s : Store) : AccountCall → Store
  | registerClient env input => (Model.registerClient env input).after s
  | authenticateClientContact env input => (Model.authenticateClientContact env input).after s
  | createClientSession env input => (Model.createClientSession env input).after s
  | validateClientSession env token => (Model.validateClientSession env token).after s
  | createOrder env actor input => (Model.createOrder env actor input).after s
  | verifyClientEmail env token => (Model.verifyClientEmail env token).after s
  | changeClientStatus env actor clientId toStatus reason =>
    (Model.changeClientStatus env actor clientId toStatus reason).after s

/-- The client still has to verify its email. -/
def Store.Pending (s : Store) (clientId : Id) : Prop :=
  ∃ client, s.clients.find clientId = some client ∧ client.status = .pendingVerification

section Login

variable {env : Env} {input : LoginInput} {s : Store} {contact : ClientContact} {client : Client}

/-- The login form is right: the contact is active and not locked, its client is
not barred, the password is its own and the attempt can be recorded. -/
structure SignsIn (env : Env) (input : LoginInput) (s : Store) (contact : ClientContact) (client : Client) : Prop where
  contact_found : s.contactUnder input.tenantId (normalizeEmail input.email) = some contact
  client_found : s.clients.find contact.clientId = some client
  active : contact.isActive = true
  unbarred : client.status.isBarred = false
  unlocked : isLocked contact.lockedUntil env.now = false
  password : env.verifyPassword contact.passwordHash input.password = true
  tenant : (s.tenants.find input.tenantId).isSome = true
  event : s.loginEvents.find (env.cuid 0) = none

def LoginInput.success (input : LoginInput) (env : Env) (contactId : Id) (email : String) : LoginEvent :=
  LoginAttempt.event
    { tenantId := input.tenantId
      actorType := .clientContact
      actorId := some contactId
      email := email
      success := true
      ip := input.ip
      userAgent := input.userAgent } env

def ClientContact.signedIn (contact : ClientContact) (input : LoginInput) : AuthenticatedClientContact :=
  { id := contact.id
    clientId := contact.clientId
    tenantId := input.tenantId
    email := contact.email
    firstName := contact.firstName }

theorem eval_completeClientLogin_iff (email : String) {out : AuthenticatedClientContact} {c c' s' : Store} :
    (completeClientLogin env input email contact).eval c s = .ok (out, c', s') ↔
      prisma.loginEvent.Fresh (input.success env contact.id email) s ∧
        (s.tenants.find input.tenantId).isSome = true ∧ (s.clientContacts.find contact.id).isSome = true ∧
        (s.clients.find contact.clientId).isSome = true ∧ out = contact.signedIn input ∧ c' = s' ∧
        s' = prisma.client.modify contact.clientId
          (fun r => { r with lastLoginAt := some env.now, updatedAt := env.now }) (fun _ => rfl)
          (prisma.clientContact.modify contact.id (fun r =>
            { r with lastLoginAt := some env.now, lastLoginIp := input.ip.or r.lastLoginIp, lockedUntil := none })
            (fun _ => rfl) (prisma.loginEvent.insert (input.success env contact.id email) s)) := by
  simp only [completeClientLogin, succeedLogin, recordLoginAttempt, transaction, bind_assoc, Relation.eval_create_bind,
    commit_bind, ret_bind, pure_eq_ret, eval_commit, Relation.eval_update_bind, eval_ret, Except.ok.injEq, Prod.mk.injEq]
  constructor
  · rintro ⟨hfresh, htenant, r, hr, q, hq, rfl, rfl, rfl⟩
    exact ⟨hfresh, htenant, Option.isSome_iff_exists.mpr ⟨r, hr⟩, Option.isSome_iff_exists.mpr ⟨q, hq⟩, rfl, rfl, rfl⟩
  · rintro ⟨hfresh, htenant, hcontact, hclient, rfl, rfl, rfl⟩
    obtain ⟨r, hr⟩ := Option.isSome_iff_exists.mp hcontact
    obtain ⟨q, hq⟩ := Option.isSome_iff_exists.mp hclient
    exact ⟨hfresh, htenant, r, hr, q, hq, rfl, rfl, rfl⟩

theorem wrongPassword_throws {email : String} {c v : Store} {out : AuthenticatedClientContact × Store × Store}
    (hpassword : env.verifyPassword contact.passwordHash input.password ≠ true) :
    (checkContactPassword env input email contact).eval c v ≠ .ok out := by
  intro h
  rw [checkContactPassword, if_neg hpassword] at h
  obtain ⟨_, _, _, _, hrest⟩ := eval_bind_ok.mp h
  obtain ⟨_, _, _, _, hfail⟩ := eval_bind_ok.mp hrest
  exact failLogin_not_ok hfail

theorem eval_checkContactAccount_iff {email : String} {out : AuthenticatedClientContact} {c c' s' : Store} :
    (checkContactAccount env input email contact client).eval c s = .ok (out, c', s') ↔
      contact.isActive = true ∧ client.status.isBarred = false ∧ isLocked contact.lockedUntil env.now = false ∧
        env.verifyPassword contact.passwordHash input.password = true ∧
          (completeClientLogin env input email contact).eval c s = .ok (out, c', s') := by
  constructor
  · intro h
    unfold checkContactAccount at h
    split at h
    · exact absurd h failLogin_not_ok
    rename_i hactive
    split at h
    · exact absurd h failLogin_not_ok
    rename_i hbarred
    split at h
    · exact absurd h failLogin_not_ok
    rename_i hlocked
    by_cases hpassword : env.verifyPassword contact.passwordHash input.password = true
    · rw [checkContactPassword, if_pos hpassword] at h
      exact ⟨(Bool.not_eq_false _).mp hactive, (Bool.not_eq_true _).mp hbarred, (Bool.not_eq_true _).mp hlocked,
        hpassword, h⟩
    · exact absurd h (wrongPassword_throws hpassword)
  · rintro ⟨hactive, hbarred, hlocked, hpassword, h⟩
    simp only [checkContactAccount, hactive, hbarred, hlocked, checkContactPassword, hpassword, Bool.true_eq_false,
      Bool.false_eq_true, if_false, if_true]
    exact h

/-- A login succeeds exactly when the form is right. -/
theorem run_authenticateClientContact_iff {out : AuthenticatedClientContact} :
    (∃ s', (authenticateClientContact env input).run s = (s', .ok out)) ↔
      ∃ contact client, SignsIn env input s contact client ∧ out = contact.signedIn input := by
  constructor
  · rintro ⟨s', hrun⟩
    obtain ⟨c, hev⟩ := run_ok_iff.mp hrun
    cases hfound : s.contactUnder input.tenantId (normalizeEmail input.email) with
    | none =>
      change (checkFoundContact env input (normalizeEmail input.email)
        (s.contactUnder input.tenantId (normalizeEmail input.email))).eval s s = _ at hev
      rw [hfound] at hev
      exact absurd hev failLogin_not_ok
    | some contact =>
      change (checkFoundContact env input (normalizeEmail input.email)
        (s.contactUnder input.tenantId (normalizeEmail input.email))).eval s s = _ at hev
      rw [hfound, checkFoundContact] at hev
      obtain ⟨client, hclient, hcheck⟩ := Relation.eval_findUniqueOrThrow_bind.mp hev
      obtain ⟨hactive, hbarred, hlocked, hpassword, hlogin⟩ := eval_checkContactAccount_iff.mp hcheck
      obtain ⟨hfresh, htenant, _, _, hout, _, _⟩ := (eval_completeClientLogin_iff _).mp hlogin
      exact ⟨contact, client, ⟨hfound, hclient, hactive, hbarred, hlocked, hpassword, htenant,
        Relation.find_of_fresh hfresh⟩, hout⟩
  · rintro ⟨contact, client, h, rfl⟩
    have hcontact : s.clientContacts.find contact.id = some contact :=
      Table.find_of_mem (List.mem_of_find?_eq_some h.contact_found)
    have hlogin := (eval_completeClientLogin_iff (normalizeEmail input.email) (c := s)).mpr
      ⟨fresh_loginEvent h.event, h.tenant, by rw [hcontact]; rfl, by rw [h.client_found]; rfl, rfl, rfl, rfl⟩
    have hcheck := eval_checkContactAccount_iff.mpr ⟨h.active, h.unbarred, h.unlocked, h.password, hlogin⟩
    exact ⟨_, run_ok_iff.mpr ⟨_, (eval_foundContact h.contact_found h.client_found).trans hcheck⟩⟩

end Login

/-- The order of a contact goes through, under a key that is new. -/
structure Orders (env : Env) (actor : ClientPortalActor) (input : CreateOrderInput) (s : Store) : Prop where
  unused : s.orders.rows.find? (Order.hasKey actor.tenantId input.idempotencyKey) = none
  accepted : s.Accepts env (.clientContact actor) input

theorem run_createOrder_iff {env : Env} {actor : ClientPortalActor} {input : CreateOrderInput} {s : Store} :
    (∃ order s', (createOrder env (.clientContact actor) input).run s = (s', .ok order) ∧ order ∉ s.orders) ↔
      Orders env actor input s := by
  constructor
  · rintro ⟨order, s', hrun, hnew⟩
    obtain ⟨c, hev⟩ := run_ok_iff.mp hrun
    refine ⟨?_, createOrder_returns_iff.mp ⟨_, hev⟩⟩
    obtain ⟨hfound, _⟩ | ⟨hnone, _⟩ := (createOrder_ok hev).2
    · exact absurd (List.mem_of_find?_eq_some hfound) hnew
    · exact hnone
  · rintro ⟨hunused, haccepted⟩
    obtain ⟨⟨order, c, s'⟩, hev⟩ := createOrder_returns_iff.mpr haccepted
    refine ⟨order, s', run_ok_iff.mpr ⟨c, hev⟩, fun hmem => ?_⟩
    obtain ⟨hfound, _⟩ | ⟨_, client, rows, hplaced⟩ := (createOrder_ok hev).2
    · exact nomatch hunused.symm.trans hfound
    · exact Table.find_eq_none_iff.mp (Relation.find_of_fresh hplaced.fresh) _ hmem rfl

namespace AccountCall

/-- Nothing is done for a contact of a pending client: no login returns and no
order is committed. -/
def Refuses (s : Store) : AccountCall → Prop
  | authenticateClientContact env input => ∀ s' out,
      (Model.authenticateClientContact env input).run s = (s', .ok out) → ¬s.Pending out.clientId
  | createOrder env (.clientContact actor) input => ∀ order s',
      (Model.createOrder env (.clientContact actor) input).run s = (s', .ok order) → order ∉ s.orders →
        ¬s.Pending actor.clientId
  | _ => True

/-- No contact of a pending client gives its right password, or places an order
that goes through. -/
def Waits (s : Store) : AccountCall → Prop
  | authenticateClientContact env input => ∀ contact client, SignsIn env input s contact client →
      client.status ≠ .pendingVerification
  | createOrder env (.clientContact actor) input => Orders env actor input s → ¬s.Pending actor.clientId
  | _ => True

theorem refuses_iff_waits (s : Store) (call : AccountCall) : call.Refuses s ↔ call.Waits s := by
  cases call with
  | authenticateClientContact env input =>
    constructor
    · intro h contact client hin hpending
      obtain ⟨s', hrun⟩ := run_authenticateClientContact_iff.mpr ⟨contact, client, hin, rfl⟩
      exact h s' _ hrun ⟨client, hin.client_found, hpending⟩
    · rintro h s' out hrun ⟨client', hclient', hpending⟩
      obtain ⟨contact, client, hin, rfl⟩ := run_authenticateClientContact_iff.mp ⟨s', hrun⟩
      have he : client' = client := Option.some.inj (hclient'.symm.trans hin.client_found)
      exact h contact client hin (he ▸ hpending)
  | createOrder env actor input =>
    cases actor with
    | staff actor => exact Iff.rfl
    | clientContact actor =>
      constructor
      · intro h horders
        obtain ⟨order, s', hrun, hnew⟩ := run_createOrder_iff.mpr horders
        exact h order s' hrun hnew
      · exact fun h order s' hrun hnew => h (run_createOrder_iff.mp ⟨order, s', hrun, hnew⟩)
  | registerClient | createClientSession | validateClientSession | verifyClientEmail | changeClientStatus => exact Iff.rfl

/-- In a run nothing is done for contacts of pending clients exactly when none of
them tries with the right password or an order that goes through. -/
theorem pending_refused_iff (s : Store) (calls : List AccountCall) :
    AlongRun after Refuses s calls ↔ AlongRun after Waits s calls :=
  ⟨fun h => h.imp (fun s call => (refuses_iff_waits s call).mp),
    fun h => h.imp (fun s call => (refuses_iff_waits s call).mpr)⟩

end AccountCall

namespace Sample

/-- The shop on the day a client registered. -/
def openDay : Store :=
  (registerClient (env "a") applicant).after (shop 0)

def hasty : LoginInput := { tenantId := "tenant", email := "new@example.test", password := "correct horse" }

def hastyContact : ClientPortalActor :=
  { id := "id-a1", clientId := "id-a0", tenantId := "tenant", label := "New Client <new@example.test>" }

/-- The client signs in and orders before the link in the mail was followed. -/
def hastyCalls : List AccountCall :=
  [.authenticateClientContact (env "b") hasty,
    .createOrder (env "c") (.clientContact hastyContact) { twoMonths with clientId := "id-a0" }]

end Sample

/-- The contact of a client that has not verified its email signs in and orders. -/
theorem pending_client_served :
    (Sample.openDay.clients.find "id-a0").map Client.status = some .pendingVerification ∧
      ((authenticateClientContact (Sample.env "b") Sample.hasty).run Sample.openDay).2 =
        .ok { id := "id-a1", clientId := "id-a0", tenantId := "tenant", email := "new@example.test", firstName := "New" } ∧
      (runFrom AccountCall.after Sample.openDay Sample.hastyCalls).orders.rows.map
        (fun o => (o.clientId, o.status)) = [("id-a0", .pending)] ∧
      ((runFrom AccountCall.after Sample.openDay Sample.hastyCalls).clients.find "id-a0").map Client.status =
        some .pendingVerification ∧
      ¬AlongRun AccountCall.after AccountCall.Refuses Sample.openDay Sample.hastyCalls := by
  have hstatus : (Sample.openDay.clients.find "id-a0").map Client.status = some .pendingVerification := by decide +kernel
  have hlogin : ((authenticateClientContact (Sample.env "b") Sample.hasty).run Sample.openDay).2 =
      .ok { id := "id-a1", clientId := "id-a0", tenantId := "tenant", email := "new@example.test", firstName := "New" } := by
    decide +kernel
  refine ⟨hstatus, hlogin, by decide +kernel, by decide +kernel, fun h => ?_⟩
  obtain ⟨client, hfound, hpending⟩ := Option.map_eq_some_iff.mp hstatus
  have hrun := Prod.mk.eta (p := (authenticateClientContact (Sample.env "b") Sample.hasty).run Sample.openDay)
  rw [hlogin] at hrun
  exact h.1 _ _ hrun.symm ⟨client, hfound, hpending⟩

end HostPanel.Model
