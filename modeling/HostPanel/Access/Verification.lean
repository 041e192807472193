import HostPanel.Lib.Mirror
import HostPanel.Access.Registrations

namespace HostPanel.Model

open HostPanel.Lib HostPanel.Lib.Program

/-- The calls that bring client accounts on their way. -/
inductive VerificationCall where
  | registerClient (env : Env) (input : RegisterClientInput)
  | changeClientStatus (env : Env) (actor : StaffActor) (clientId : Id) (toStatus : ClientStatus) (reason : String)
  | verifyClientEmail (env : Env) (token : String)

def VerificationCall.after (s : Store) : VerificationCall → Store
  | registerClient env input => (Model.registerClient env input).after s
  | changeClientStatus env actor clientId toStatus reason =>
    (Model.changeClientStatus env actor clientId toStatus reason).after s
  | verifyClientEmail env token => (Model.verifyClientEmail env token).after s

/-- A client is verified just when the email of one of its contacts is. -/
abbrev Store.VerificationAgrees (s : Store) : Prop :=
  Mirrors ClientContact.clientId (fun r : Client => r.verificationStatus = .verified)
    (fun r : ClientContact => r.emailVerifiedAt.isSome = true) s.clients s.clientContacts

/-- The token is that of a link that can be used, of a contact and its client. -/
structure Redeems (env : Env) (token : String) (s : Store) (record : EmailVerificationToken)
    (contact : ClientContact) (client : Client) : Prop where
  token_found : s.emailVerificationTokens.rows.find? (fun r => r.tokenHash == env.hashToken token) = some record
  usable : record.usable env = true
  contact_found : s.clientContacts.find record.actorId = some contact
  client_found : s.clients.find contact.clientId = some client
  tenant : client.status = .pendingVerification → s.hasTenant client.tenantId = true

theorem EmailVerificationToken.consumed_id (env : Env) (r : EmailVerificationToken) :
    ({ r with consumedAt := some env.now } : EmailVerificationToken).id = r.id := rfl

theorem ClientContact.verified_id (env : Env) (r : ClientContact) :
    ({ r with emailVerifiedAt := some env.now } : ClientContact).id = r.id := rfl

theorem Client.verified_id (env : Env) (r : Client) :
    ({ r with verificationStatus := .verified, updatedAt := env.now } : Client).id = r.id := rfl

/-- The tables once the email of a contact is verified. -/
def Store.verifyContact (s : Store) (env : Env) (record : EmailVerificationToken) (contact : ClientContact) : Store :=
  prisma.emailVerificationToken.modify record.id (fun r => { r with consumedAt := some env.now })
    (EmailVerificationToken.consumed_id env)
    (prisma.clientContact.modify contact.id (fun r => { r with emailVerifiedAt := some env.now })
      (ClientContact.verified_id env) s)

/-- The tables once a client that waited for its email is active. -/
def Store.verifyClient (s : Store) (env : Env) (client : Client) (contactId : Id) : Store :=
  prisma.client.modify client.id (fun r => { r with verificationStatus := .verified, updatedAt := env.now })
    (Client.verified_id env)
    (s.moveClient env client .active { type := .clientContact, id := some contactId } (some "email_verified"))

def Store.verifyPending (s : Store) (env : Env) (client : Client) (contactId : Id) : Store :=
  if client.status = .pendingVerification then s.verifyClient env client contactId else s

theorem eval_verifyPending_iff {env : Env} {client : Client} {contactId : Id} {c v c' v' : Store}
    (hfound : v.clients.find client.id = some client) :
    (verifyPending env client contactId).eval c v = .ok ((), c', v') ↔
      (client.status = .pendingVerification → v.hasTenant client.tenantId = true) ∧ c' = c ∧
        v' = v.verifyPending env client contactId := by
  by_cases hp : client.status = .pendingVerification
  · have hmoved : (v.moveClient env client .active { type := .clientContact, id := some contactId }
        (some "email_verified")).clients.find client.id = some { client with status := .active, updatedAt := env.now } :=
      (Table.find_modify_self v.clients client.id (fun r => { r with status := .active, updatedAt := env.now })
        (fun _ => rfl)).trans (by rw [hfound]; rfl)
    have hvalid : isValidClientTransition client.status .active = true := by
      rw [hp]
      decide
    rw [Model.verifyPending, if_pos hp, Store.verifyPending, if_pos hp]
    simp only [eval_transitionClientStatus_bind, Relation.eval_update_bind, pure_eq_ret, eval_ret, Except.ok.injEq,
      Prod.mk.injEq]
    constructor
    · rintro ⟨q, hq, _, htenant, _, _, _, rfl, rfl⟩
      have he : q = client := Option.some.inj (hq.symm.trans hfound)
      subst he
      exact ⟨fun _ => htenant, rfl, rfl⟩
    · rintro ⟨htenant, rfl, rfl⟩
      exact ⟨client, hfound, hvalid, htenant hp, _, hmoved, trivial, rfl, rfl⟩
  · rw [Model.verifyPending, if_neg hp, Store.verifyPending, if_neg hp]
    simp only [eval_ret, Except.ok.injEq, Prod.mk.injEq]
    constructor
    · rintro ⟨_, rfl, rfl⟩
      exact ⟨fun h => absurd h hp, rfl, rfl⟩
    · rintro ⟨_, rfl, rfl⟩
      exact ⟨trivial, rfl, rfl⟩

theorem eval_markVerified_iff {env : Env} {record : EmailVerificationToken} {contact : ClientContact}
    {s c c' s' : Store} (hcontact : s.clientContacts.find contact.id = some contact)
    (hrecord : s.emailVerificationTokens.find record.id = some record) :
    (markVerified env record contact).eval c s = .ok ((), c', s') ↔
      ∃ client, s.clients.find contact.clientId = some client ∧
        (client.status = .pendingVerification → s.hasTenant client.tenantId = true) ∧ c' = c ∧
          s' = (s.verifyContact env record contact).verifyPending env client contact.id := by
  have hpending : ∀ client, s.clients.find contact.clientId = some client →
      ((verifyPending env client contact.id).eval c (s.verifyContact env record contact) = .ok ((), c', s') ↔ _) :=
    fun client hclient => eval_verifyPending_iff (v := s.verifyContact env record contact)
      ((congrArg s.clients.find (Table.key_of_find hclient)).trans hclient)
  simp only [markVerified, Relation.eval_update_bind, Relation.eval_findUniqueOrThrow_bind]
  constructor
  · rintro ⟨_, _, _, _, client, hclient, hk⟩
    exact ⟨client, hclient, (hpending client hclient).mp hk⟩
  · rintro ⟨client, hclient, hk⟩
    exact ⟨contact, hcontact, record, hrecord, client, hclient, (hpending client hclient).mpr hk⟩

/-- The checks and the writes of `verifyClientEmail` up to its commit. -/
def redeemToken (env : Env) (token : String) : Db ClientContact := do
  let found ← prisma.emailVerificationToken.findFirst (fun r => r.tokenHash == env.hashToken token)
  let record ← orThrow (found.filter (EmailVerificationToken.usable env))
    (.app .authentication "auth.invalid_token" "This verification link is invalid or has expired.")
  let contact ← prisma.clientContact.findUniqueOrThrow record.actorId
  markVerified env record contact
  return contact

theorem verifyClientEmail_eq (env : Env) (token : String) :
    verifyClientEmail env token =
      transaction (redeemToken env token) >>= fun contact => queueEmail env (welcomeEmail env contact) := by
  simp only [verifyClientEmail, redeemToken, transaction, bind_assoc]
  rfl

theorem uncommitted_redeemToken (env : Env) (token : String) : (redeemToken env token).Uncommitted := by
  refine (Relation.uncommitted_findFirst _).bind (fun _ => (uncommitted_orThrow _ _).bind (fun _ => ?_))
  refine (Relation.uncommitted_findUniqueOrThrow _).bind (fun _ => ?_)
  exact (uncommitted_markVerified _ _ _).bind (fun _ => trivial)

theorem eval_redeemToken_iff {env : Env} {token : String} {contact : ClientContact} {c s c' s' : Store} :
    (redeemToken env token).eval c s = .ok (contact, c', s') ↔
      ∃ record client, Redeems env token s record contact client ∧ c' = c ∧
        s' = (s.verifyContact env record contact).verifyPending env client contact.id := by
  have hmarked : ∀ record r, s.emailVerificationTokens.rows.find? (fun r => r.tokenHash == env.hashToken token) =
      some record → s.clientContacts.find record.actorId = some r →
        ((markVerified env record r).eval c s = .ok ((), c', s') ↔ _) :=
    fun record r hrecord hr => eval_markVerified_iff
      ((congrArg s.clientContacts.find (Table.key_of_find hr)).trans hr)
      (Table.find_of_mem (List.mem_of_find?_eq_some hrecord))
  simp only [redeemToken, Relation.eval_findFirst_bind, eval_orThrow_bind, Relation.eval_findUniqueOrThrow_bind,
    Option.filter_eq_some_iff]
  simp only [eval_bind_ok, pure_eq_ret, eval_ret, Except.ok.injEq, Prod.mk.injEq]
  constructor
  · rintro ⟨record, ⟨hfound, husable⟩, r, hr, _, _, _, hmark, rfl, rfl, rfl⟩
    obtain ⟨client, hclient, htenant, hstored⟩ := (hmarked record r hfound hr).mp hmark
    exact ⟨record, client, ⟨hfound, husable, hr, hclient, htenant⟩, hstored⟩
  · rintro ⟨record, client, h, hstored⟩
    exact ⟨record, ⟨h.token_found, h.usable⟩, contact, h.contact_found, (), _, _,
      (hmarked record contact h.token_found h.contact_found).mpr ⟨client, h.client_found, h.tenant, hstored⟩, rfl, rfl,
      rfl⟩

/-- A link is redeemed and its contact welcomed, or nothing is stored. -/
theorem verifyClientEmail_cases (env : Env) (token : String) (s : Store) :
    (∃ record contact client, Redeems env token s record contact client ∧
      (verifyClientEmail env token).after s = (queueEmail env (welcomeEmail env contact)).after
        ((s.verifyContact env record contact).verifyPending env client contact.id)) ∨
      (∀ record contact client, ¬Redeems env token s record contact client) ∧
        (verifyClientEmail env token).after s = s := by
  rw [verifyClientEmail_eq]
  by_cases h : ∃ record contact client, Redeems env token s record contact client
  · obtain ⟨record, contact, client, hr⟩ := h
    have hok := (eval_redeemToken_iff (c := s)).mpr ⟨record, client, hr, rfl, rfl⟩
    exact Or.inl ⟨record, contact, client, hr, after_bind_ok (eval_transaction_ok.mpr ⟨rfl, s, hok⟩)⟩
  · have hnone : ∀ record contact client, ¬Redeems env token s record contact client :=
      fun record contact client hr => h ⟨record, contact, client, hr⟩
    obtain hs | ⟨contact, _, _, hok, _⟩ := after_transaction_bind
      (f := fun contact => queueEmail env (welcomeEmail env contact)) (uncommitted_redeemToken env token) s
    · exact Or.inr ⟨hnone, hs⟩
    · obtain ⟨record, client, hr, _⟩ := eval_redeemToken_iff.mp hok
      exact absurd hr (hnone record contact client)

theorem redeems_of_completes {env : Env} {token : String} {s : Store}
    (h : (verifyClientEmail env token).completes s = true) :
    ∃ record contact client, Redeems env token s record contact client := by
  obtain ⟨_, hall⟩ := completes_iff.mp h
  rw [verifyClientEmail_eq, eval_bind_ok] at hall
  obtain ⟨contact, _, _, htx, _⟩ := hall
  obtain ⟨_, _, hok⟩ := eval_transaction_ok.mp htx
  obtain ⟨record, client, hr, _⟩ := eval_redeemToken_iff.mp hok
  exact ⟨record, contact, client, hr⟩

/-- The clients and the contacts. -/
def Store.clientAccounts (s : Store) : Table Client.id × Table ClientContact.id := (s.clients, s.clientContacts)

theorem clientAccounts_queueEmail (env : Env) (row : EmailLog) (s : Store) :
    ((queueEmail env row).after s).clientAccounts = s.clientAccounts :=
  after_of_leaves (leaves_queueEmail env row (fun _ _ => rfl)) s

theorem Store.clientAccounts_verifyPending (s : Store) (env : Env) (client : Client) (contactId : Id) :
    (s.verifyPending env client contactId).clientAccounts =
      (if client.status = .pendingVerification then
        (s.clients.modify client.id (fun r => { r with status := .active, updatedAt := env.now })).modify client.id
          (fun r => { r with verificationStatus := .verified, updatedAt := env.now }) else s.clients,
        s.clientContacts) := by
  unfold Store.verifyPending
  split <;> rfl

/-- A verification keeps the two marks together just when the client is still
waiting for it, or verified already. -/
theorem agrees_verify_iff {env : Env} {token : String} {record : EmailVerificationToken} {contact : ClientContact}
    {client : Client} {s t : Store} (h : s.VerificationAgrees) (hr : Redeems env token s record contact client)
    (ht : t.clientAccounts = ((s.verifyContact env record contact).verifyPending env client contact.id).clientAccounts) :
    t.VerificationAgrees ↔ client.status = .pendingVerification ∨ client.verificationStatus = .verified := by
  rw [Store.clientAccounts_verifyPending] at ht
  have hcontacts : t.clientContacts = s.clientContacts.modify contact.id
      (fun r => { r with emailVerifiedAt := some env.now }) := congrArg Prod.snd ht
  have hmem : client ∈ s.clients := Table.mem_of_find hr.client_found
  have hid : contact.id = record.actorId := Table.key_of_find hr.contact_found
  have howner : contact.clientId = client.id := (Table.key_of_find hr.client_found).symm
  by_cases hp : client.status = .pendingVerification
  · rw [if_pos hp] at ht
    have hclients : t.clients = (s.clients.modify client.id (fun r =>
        { r with status := .active, updatedAt := env.now })).modify client.id (fun r =>
          { r with verificationStatus := .verified, updatedAt := env.now }) := congrArg Prod.fst ht
    refine iff_of_true ?_ (Or.inl hp)
    have hactive := h.modify_owner client.id (f := fun r => { r with status := .active, updatedAt := env.now })
      (fun _ => rfl) (fun _ => Iff.rfl)
    have hmoved : { client with status := .active, updatedAt := env.now } ∈
        s.clients.modify client.id (fun r => { r with status := .active, updatedAt := env.now }) :=
      Table.mem_modify.mpr (Or.inr ⟨client, hmem, rfl, rfl⟩)
    rw [Store.VerificationAgrees, hclients, hcontacts]
    exact (hactive.mark_iff (g := fun r => { r with emailVerifiedAt := some env.now }) (fun _ => rfl) (fun _ => rfl)
      (fun _ => rfl) (hid ▸ hr.contact_found) (Table.replaced_modify hmoved
        (fun r => { r with verificationStatus := .verified, updatedAt := env.now }) (fun _ => rfl)) howner).mpr rfl
  · rw [if_neg hp] at ht
    have hclients : t.clients = s.clients := congrArg Prod.fst ht
    rw [Store.VerificationAgrees, hclients, hcontacts, or_iff_right hp]
    exact h.mark_iff (g := fun r => { r with emailVerifiedAt := some env.now }) (fun _ => rfl) (fun _ => rfl)
      (fun _ => rfl) (hid ▸ hr.contact_found) (Table.replaced_refl hmem) howner

theorem agrees_registerClient {env : Env} {input : RegisterClientInput} {s : Store} (h : s.VerificationAgrees) :
    ((registerClient env input).after s).VerificationAgrees := by
  rw [registerClient_eq]
  obtain hs | ⟨ids, _, t, hok, hs⟩ := after_transaction_bind (f := greetClient env input)
    (uncommitted_admitClient env input) s
  · rw [hs]
    exact h
  · obtain ⟨hadmitted, _, _, rfl⟩ := admitClient_ok_iff.mp hok
    have hleaves : (greetClient env input ids).Leaves Store.clientAccounts :=
      (leaves_sendVerification env input _ _ (fun _ _ => rfl) (fun _ _ => rfl)).bind (fun _ => trivial)
    have hafter := after_of_leaves hleaves (s.admitClient env input)
    have hclients : ((greetClient env input ids).after (s.admitClient env input)).clients =
        s.clients.insert (newClient env input) := congrArg Prod.fst hafter
    have hcontacts : ((greetClient env input ids).after (s.admitClient env input)).clientContacts =
        s.clientContacts.insert (newClientContact env input) := congrArg Prod.snd hafter
    have howner : ∃ r ∈ s.clients.insert (newClient env input), r.id = env.cuid 0 :=
      ⟨newClient env input, (Table.mem_insert hadmitted.fresh_client).mpr (Or.inr rfl), rfl⟩
    rw [hs, Store.VerificationAgrees, hclients, hcontacts]
    exact (h.insert_owner hadmitted.fresh_client VerificationStatus.noConfusion).insert_part howner
      hadmitted.fresh_contact Bool.noConfusion

theorem agrees_changeClientStatus {env : Env} {actor : StaffActor} {clientId : Id} {toStatus : ClientStatus} {reason : String}
    {s : Store} (h : s.VerificationAgrees) :
    ((changeClientStatus env actor clientId toStatus reason).after s).VerificationAgrees := by
  obtain hs | ⟨_, _, t, hok, hs⟩ := after_of_atomic (atomic_changeClientStatus env actor clientId toStatus reason) s
  · rw [hs]
    exact h
  · obtain ⟨client, _, _, rfl⟩ := changeClientStatus_ok hok
    rw [hs]
    exact h.modify_owner client.id (f := fun r => { r with status := toStatus, updatedAt := env.now }) (fun _ => rfl)
      (fun _ => Iff.rfl)

namespace VerificationCall

/-- A link is not redeemed after its client left the status of waiting for it,
unless the client is verified already. -/
def InTime (s : Store) : VerificationCall → Prop
  | verifyClientEmail env token => ∀ record contact client, Redeems env token s record contact client →
      client.status = .pendingVerification ∨ client.verificationStatus = .verified
  | _ => True

/-- A verification that returns leaves its contact and its client verified. -/
def Verifies (s : Store) (call : VerificationCall) : Prop :=
  match call with
  | verifyClientEmail env token => (Model.verifyClientEmail env token).completes s = true →
      ∃ record contact, s.emailVerificationTokens.rows.find? (fun r => r.tokenHash == env.hashToken token) = some record ∧
        (call.after s).clientContacts.find record.actorId = some contact ∧ contact.emailVerifiedAt.isSome = true ∧
          ∃ client, (call.after s).clients.find contact.clientId = some client ∧ client.verificationStatus = .verified
  | _ => True

theorem agrees_after_iff {s : Store} {call : VerificationCall} (h : s.VerificationAgrees) :
    (call.after s).VerificationAgrees ↔ call.InTime s := by
  cases call with
  | registerClient env input => exact iff_of_true (agrees_registerClient h) trivial
  | changeClientStatus env actor clientId toStatus reason => exact iff_of_true (agrees_changeClientStatus h) trivial
  | verifyClientEmail env token =>
    obtain ⟨record, contact, client, hr, hs⟩ | ⟨hnone, hs⟩ := verifyClientEmail_cases env token s
    · have haccounts := congrArg Store.clientAccounts hs
      rw [clientAccounts_queueEmail] at haccounts
      refine (agrees_verify_iff h hr haccounts).trans ⟨fun hc r k c hr' => ?_, fun hc => hc record contact client hr⟩
      have hrecord : r = record := Option.some.inj (hr'.token_found.symm.trans hr.token_found)
      subst hrecord
      have hcontact : k = contact := Option.some.inj (hr'.contact_found.symm.trans hr.contact_found)
      subst hcontact
      have hclient : c = client := Option.some.inj (hr'.client_found.symm.trans hr.client_found)
      subst hclient
      exact hc
    · have hafter : (VerificationCall.verifyClientEmail env token).after s = s := hs
      rw [hafter]
      exact iff_of_true h (fun record contact client hr => absurd hr (hnone record contact client))

theorem verifies_of_agrees {s : Store} {call : VerificationCall} (h : (call.after s).VerificationAgrees) :
    call.Verifies s := by
  cases call with
  | registerClient env input => trivial
  | changeClientStatus env actor clientId toStatus reason => trivial
  | verifyClientEmail env token =>
    intro hok
    obtain ⟨record, contact, client, hr⟩ := redeems_of_completes hok
    obtain ⟨record', contact', client', hr', hs⟩ | ⟨hnone, _⟩ := verifyClientEmail_cases env token s
    · have hrecord : record' = record := Option.some.inj (hr'.token_found.symm.trans hr.token_found)
      have haccounts := congrArg Store.clientAccounts hs
      rw [clientAccounts_queueEmail, Store.clientAccounts_verifyPending] at haccounts
      have hcontacts : ((Model.verifyClientEmail env token).after s).clientContacts =
          s.clientContacts.modify contact'.id (fun r => { r with emailVerifiedAt := some env.now }) :=
        congrArg Prod.snd haccounts
      have hid : contact'.id = record'.actorId := Table.key_of_find hr'.contact_found
      have hfound : s.clientContacts.find contact'.id = some contact' := hid ▸ hr'.contact_found
      have hmarked : ((Model.verifyClientEmail env token).after s).clientContacts.find record'.actorId =
          some { contact' with emailVerifiedAt := some env.now } := by
        rw [hcontacts, ← hid, Table.find_modify_self, hfound]
        rfl
      obtain ⟨owner, howner, hk⟩ := h.owned _ (Table.mem_of_find hmarked)
      refine ⟨record', _, hr'.token_found, hmarked, rfl, owner, ?_, ?_⟩
      · exact Table.find_eq_some_iff.mpr ⟨howner, hk⟩
      · exact (h.mirrored owner howner).mpr ⟨_, Table.mem_of_find hmarked, hk.symm, rfl⟩
    · exact absurd hr (hnone record contact client)

/-- The marks of clients and contacts stay together, and a verification that
returns sets both, exactly when every link of the run is redeemed in time. -/
theorem verification_agrees_iff (s : Store) (calls : List VerificationCall) (h : s.VerificationAgrees) :
    ((∀ before, before <+: calls → (runFrom VerificationCall.after s before).VerificationAgrees) ∧
      AlongRun VerificationCall.after Verifies s calls) ↔ AlongRun VerificationCall.after InTime s calls := by
  have hiff := forall_prefix_iff_alongRun (fun _ _ _ _ _ => trivial)
    (fun s call _ _ hs => @agrees_after_iff s call hs) (I := fun _ => True) (G := fun _ _ => True)
    trivial h (alongRun_of_forall (fun _ _ => trivial) s calls)
  rw [← hiff]
  refine ⟨And.left, fun hall => ⟨hall, ?_⟩⟩
  exact alongRun_of_forall_prefix (fun _ _ _ => verifies_of_agrees) hall

end VerificationCall

theorem agrees_vacant : Sample.vacant.VerificationAgrees := by
  constructor
  · exact fun r hr => absurd hr (Table.not_mem_empty r)
  · exact fun r hr => absurd hr (Table.not_mem_empty r)

namespace Sample

/-- A client registers and follows the link. -/
def linkFollowed : List VerificationCall :=
  [.registerClient (env "a") applicant, .verifyClientEmail (env "b") "token-a"]

/-- A member of staff activates the client before the link is followed. -/
def activatedFirst : List VerificationCall :=
  [.registerClient (env "a") applicant, .changeClientStatus (env "z") staff "id-a0" .active "by phone",
    .verifyClientEmail (env "b") "token-a"]

end Sample

/-- The link is redeemed while the client waits for it, so both are verified. -/
theorem verification_agrees_linkFollowed :
    Sample.vacant.VerificationAgrees ∧
      AlongRun VerificationCall.after VerificationCall.InTime Sample.vacant Sample.linkFollowed ∧
      (∀ before, before <+: Sample.linkFollowed →
        (runFrom VerificationCall.after Sample.vacant before).VerificationAgrees) ∧
      AlongRun VerificationCall.after VerificationCall.Verifies Sample.vacant Sample.linkFollowed := by
  let registered := (VerificationCall.registerClient (Sample.env "a") Sample.applicant).after Sample.vacant
  have hwaiting : ∀ client ∈ registered.clients, client.status = .pendingVerification := by
    change ∀ client ∈ registered.clients.rows, client.status = .pendingVerification
    decide +kernel
  have hin : AlongRun VerificationCall.after VerificationCall.InTime Sample.vacant Sample.linkFollowed :=
    ⟨trivial, fun _ _ _ h => Or.inl (hwaiting _ (Table.mem_of_find h.client_found)), trivial⟩
  exact ⟨agrees_vacant, hin,
    (VerificationCall.verification_agrees_iff Sample.vacant Sample.linkFollowed agrees_vacant).mpr hin⟩

/-- The contact is verified, its client is not, and the call said it went well. -/
theorem verified_contact_of_unverified_client :
    (verifyClientEmail (Sample.env "b") "token-a").completes
        (runFrom VerificationCall.after Sample.vacant (Sample.activatedFirst.take 2)) = true ∧
      (runFrom VerificationCall.after Sample.vacant Sample.activatedFirst).clientContacts.rows.map
        (fun r => (r.clientId, r.emailVerifiedAt.isSome)) = [("id-a0", true)] ∧
      (runFrom VerificationCall.after Sample.vacant Sample.activatedFirst).clients.rows.map
        (fun r => (r.id, r.verificationStatus)) = [("id-a0", .unverified)] ∧
      ¬(runFrom VerificationCall.after Sample.vacant Sample.activatedFirst).VerificationAgrees := by
  have hcontact : ((runFrom VerificationCall.after Sample.vacant Sample.activatedFirst).clientContacts.find "id-a1").map
      (fun r => (r.clientId, r.emailVerifiedAt.isSome)) = some ("id-a0", true) := by decide +kernel
  have hclient : ((runFrom VerificationCall.after Sample.vacant Sample.activatedFirst).clients.find "id-a0").map
      (fun r => r.verificationStatus) = some .unverified := by decide +kernel
  refine ⟨by decide +kernel, by decide +kernel, by decide +kernel, fun h => ?_⟩
  obtain ⟨contact, hfound, hc⟩ := Option.map_eq_some_iff.mp hcontact
  obtain ⟨client, hfound', hu⟩ := Option.map_eq_some_iff.mp hclient
  have hverified := (h.mirrored client (Table.mem_of_find hfound')).mpr ⟨contact, Table.mem_of_find hfound, ?_, ?_⟩
  · rw [hu] at hverified
    exact VerificationStatus.noConfusion hverified
  · exact (congrArg Prod.fst hc).trans (Table.key_of_find hfound').symm
  · exact congrArg Prod.snd hc

end HostPanel.Model
