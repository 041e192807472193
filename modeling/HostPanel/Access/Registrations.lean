import HostPanel.Access.Invites
import HostPanel.Lib.Faults

namespace HostPanel.Model

open HostPanel.Lib HostPanel.Lib.Program

/-- The checks and the writes of `registerClient` up to its first commit. -/
def admitClient (env : Env) (input : RegisterClientInput) : Db (Id × Id) := do
  let email := normalizeEmail input.email
  let existingClient ← prisma.client.findFirst (fun r => r.tenantId == input.tenantId && r.email == email)
  let existingContact ← prisma.clientContact.findFirst (fun r => r.tenantId == input.tenantId && r.email == email)
  ensure (existingClient.isNone = true ∧ existingContact.isNone = true)
    (businessRuleError "client.email_taken" "An account with this email already exists.")
  insertClient env input email (env.hashPassword input.password)

/-- What `registerClient` does once the account is committed. -/
def greetClient (env : Env) (input : RegisterClientInput) (created : Id × Id) : Db (Id × Id) := do
  sendVerification env input (normalizeEmail input.email) created.2
  return created

theorem registerClient_eq (env : Env) (input : RegisterClientInput) :
    registerClient env input = transaction (admitClient env input) >>= greetClient env input := by
  simp only [registerClient, admitClient, transaction, bind_assoc]
  rfl

def newClient (env : Env) (input : RegisterClientInput) : Client :=
  { id := env.cuid 0
    tenantId := input.tenantId
    type := input.type
    companyName := input.companyName
    firstName := input.firstName
    lastName := input.lastName
    email := normalizeEmail input.email
    country := input.country
    currency := input.currency.getD "USD"
    status := .pendingVerification
    updatedAt := env.now }

def newClientContact (env : Env) (input : RegisterClientInput) : ClientContact :=
  { id := env.cuid 1
    tenantId := input.tenantId
    clientId := env.cuid 0
    email := normalizeEmail input.email
    passwordHash := env.hashPassword input.password
    firstName := input.firstName
    lastName := input.lastName
    isPrimary := true
    permBilling := true
    permSupport := true
    permDomains := true
    permServices := true }

def verificationToken (env : Env) (input : RegisterClientInput) : EmailVerificationToken :=
  { id := env.cuid 2
    tenantId := input.tenantId
    actorType := .clientContact
    actorId := env.cuid 1
    email := normalizeEmail input.email
    tokenHash := env.hashToken env.generateToken
    expiresAt := env.now + emailVerificationTtlMs }

/-- What `registerClient` checks before it stores the account. -/
structure ClientAdmitted (env : Env) (input : RegisterClientInput) (s : Store) : Prop where
  tenant : s.hasTenant input.tenantId = true
  unused_client : ∀ r ∈ s.clients, ¬ (r.tenantId = input.tenantId ∧ r.email = normalizeEmail input.email)
  unused_contact : ∀ r ∈ s.clientContacts, ¬ (r.tenantId = input.tenantId ∧ r.email = normalizeEmail input.email)
  fresh_client : s.clients.find (env.cuid 0) = none
  fresh_contact : s.clientContacts.find (env.cuid 1) = none

/-- The tables once the account is stored. -/
def Store.admitClient (s : Store) (env : Env) (input : RegisterClientInput) : Store :=
  ((prisma.clientContact.insert (newClientContact env input) (prisma.client.insert (newClient env input) s)).withStatusHistory
    (clientCreated input (env.cuid 0) (env.cuid 1))).withAuditLog
    (clientCreatedAudit input (normalizeEmail input.email) (env.cuid 0) (env.cuid 1))

theorem fresh_newClient_iff {env : Env} {input : RegisterClientInput} {s : Store} :
    prisma.client.Fresh (newClient env input) s ↔ s.clients.find (env.cuid 0) = none ∧
      ∀ r ∈ s.clients, ¬ (r.tenantId = input.tenantId ∧ r.email = normalizeEmail input.email) := by
  rw [Relation.fresh_pair_iff (fun _ => rfl) (fun _ _ => Lock.client.inj) (fun _ _ => Lock.noConfusion)]
  simp only [Lock.clientEmail.injEq, ne_eq]
  exact Iff.rfl

theorem fresh_newClientContact_iff {env : Env} {input : RegisterClientInput} {s : Store} :
    prisma.clientContact.Fresh (newClientContact env input) s ↔ s.clientContacts.find (env.cuid 1) = none ∧
      ∀ r ∈ s.clientContacts, ¬ (r.tenantId = input.tenantId ∧ r.email = normalizeEmail input.email) := by
  rw [Relation.fresh_pair_iff (fun _ => rfl) (fun _ _ => Lock.clientContact.inj) (fun _ _ => Lock.noConfusion)]
  simp only [Lock.contactEmail.injEq, ne_eq]
  exact Iff.rfl

theorem admitClient_ok_iff {env : Env} {input : RegisterClientInput} {c s c' s' : Store} {ids : Id × Id} :
    (admitClient env input).eval c s = .ok (ids, c', s') ↔
      ClientAdmitted env input s ∧ ids = (env.cuid 0, env.cuid 1) ∧ c' = c ∧ s' = s.admitClient env input := by
  have hclient :
      (s.clients.rows.find? (fun r => r.tenantId == input.tenantId && r.email == normalizeEmail input.email)).isNone =
        true ↔ ∀ r ∈ s.clients, ¬ (r.tenantId = input.tenantId ∧ r.email = normalizeEmail input.email) := by
    simp only [Table.isNone_find?_iff, Bool.and_eq_true, beq_iff_eq]
  have hcontact : (s.clientContacts.rows.find? (fun r =>
      r.tenantId == input.tenantId && r.email == normalizeEmail input.email)).isNone = true ↔
        ∀ r ∈ s.clientContacts, ¬ (r.tenantId = input.tenantId ∧ r.email = normalizeEmail input.email) := by
    simp only [Table.isNone_find?_iff, Bool.and_eq_true, beq_iff_eq]
  simp only [admitClient, insertClient, Relation.eval_findFirst_bind, eval_ensure_bind, Relation.eval_create_bind,
    eval_recordStatusTransition_bind, eval_recordAuditLog_bind, pure_eq_ret, eval_ret, Except.ok.injEq, Prod.mk.injEq]
  constructor
  · rintro ⟨_, hfresh, htenant, hfresh', _, _, _, rfl, rfl, rfl⟩
    have hnew := (@fresh_newClient_iff env input s).mp hfresh
    have hnew' := (@fresh_newClientContact_iff env input _).mp hfresh'
    exact ⟨⟨(Bool.and_eq_true_iff.mp htenant).1, hnew.2, hnew'.2, hnew.1, hnew'.1⟩, rfl, rfl, rfl⟩
  · rintro ⟨h, rfl, rfl, rfl⟩
    have hstored : ((s.clients.insert (newClient env input)).find (env.cuid 0)).isSome = true := by
      have hfound := Table.find_insert_self (r := newClient env input) h.fresh_client
      exact Option.isSome_iff_exists.mpr ⟨_, hfound⟩
    have hrefs : prisma.client.references (newClient env input) s = true := Bool.and_eq_true_iff.mpr ⟨h.tenant, rfl⟩
    exact ⟨⟨hclient.mpr h.unused_client, hcontact.mpr h.unused_contact⟩,
      fresh_newClient_iff.mpr ⟨h.fresh_client, h.unused_client⟩, hrefs,
      fresh_newClientContact_iff.mpr ⟨h.fresh_contact, h.unused_contact⟩, hstored, h.tenant, h.tenant, rfl, rfl, rfl⟩

theorem uncommitted_admitClient (env : Env) (input : RegisterClientInput) : (admitClient env input).Uncommitted := by
  refine Uncommitted.bind (Relation.uncommitted_findFirst _) (fun _ => ?_)
  refine Uncommitted.bind (Relation.uncommitted_findFirst _) (fun _ => ?_)
  exact (uncommitted_ensure _ _).bind (fun _ => uncommitted_insertClient _ _ _ _)

section Statements

variable {ρ ι β : Type} [DecidableEq ι] {key : ρ → ι} {R : Relation key} {v : Store}

omit [DecidableEq ι] in
theorem Relation.statements_findFirst_bind {p : ρ → Bool} {k : Option ρ → Db β} :
    (R.findFirst p >>= k).statements v = (k ((R.get v).rows.find? p)).statements v + 1 := rfl

theorem statements_ensure_bind {p : Prop} [Decidable p] {e : Failure} {k : Unit → Db β} (h : p) :
    (ensure p e >>= k).statements v = (k ()).statements v := by
  rw [ensure, if_pos h, ret_bind]

theorem Relation.statements_create_bind {row : ρ} {k : ρ → Db β} (hfresh : R.Fresh row v)
    (hrefs : R.references row v = true) :
    (R.create row >>= k).statements v = (k row).statements (R.insert row v) + 1 := by
  have hstmt : (if R.Fresh row v then
      if R.references row v then Except.ok (Effect.mk (R.entries row) (R.insert row)) else .error Failure.foreignKeyViolation
    else .error .uniqueViolation) = .ok ⟨R.entries row, R.insert row⟩ := by rw [if_pos hfresh, if_pos hrefs]
  rw [create, exec_bind, statements_exec_ok hstmt]
  rfl

theorem statements_orThrow_bind {α : Type} {x : Option α} {e : Failure} {a : α} {k : α → Db β} (h : x = some a) :
    (orThrow x e >>= k).statements v = (k a).statements v := by
  rw [h, orThrow, ret_bind]

theorem statements_appendLog_bind {tenantId : Id} {append : Store → Store} {k : Unit → Db β}
    (h : v.hasTenant tenantId = true) :
    (appendLog tenantId append >>= k).statements v = (k ()).statements (append v) + 1 := by
  have hstmt : (if v.hasTenant tenantId = true then Except.ok (Effect.mk [] append) else .error .foreignKeyViolation) =
      Except.ok (ε := Failure) (Effect.mk ([] : List Lock) append) := if_pos h
  rw [appendLog, exec_bind, statements_exec_ok hstmt]
  rfl

theorem statements_recordStatusTransition_bind {row : StatusHistory} {k : Unit → Db β}
    (h : v.hasTenant row.tenantId = true) :
    (recordStatusTransition row >>= k).statements v = (k ()).statements (v.withStatusHistory row) + 1 :=
  statements_appendLog_bind h

theorem statements_recordAuditLog_bind {row : AuditLog} {k : Unit → Db β} (h : v.hasTenant row.tenantId = true) :
    (recordAuditLog row >>= k).statements v = (k ()).statements (v.withAuditLog row) + 1 :=
  statements_appendLog_bind h

theorem statements_queueEmail_bind {env : Env} {row : EmailLog} {k : Unit → Db β} (htenant : v.hasTenant row.tenantId = true)
    (h : env.queueAvailable = true) :
    (queueEmail env row >>= k).statements v =
      (k ()).statements { v with emailLogs := v.emailLogs ++ [row] } + 2 := by
  simp only [queueEmail, transaction, bind_assoc, commit_bind, ret_bind]
  rw [statements_appendLog_bind htenant, statements_commit, statements_ensure_bind h]

end Statements

section Faults

variable {α β : Type}

/-- A call whose statement fails and that therefore throws has added nothing, and
the same call can be made again with success, wherever it could have been
before. -/
def FailsCleanly (call : Env → Db β) (Added : Store → Store → Prop) (env : Env) (e : Failure) (n : ℕ) (s : Store) :
    Prop :=
  ((call env).cut e n).completes s = false →
    ¬ Added s (((call env).cut e n).after s) ∧
      ∀ env', (call env').completes s = true → (call env').completes (((call env).cut e n).after s) = true

variable {call : Env → Db β} {Added : Store → Store → Prop} {env : Env} {e : Failure} {n : ℕ} {s : Store}

theorem failsCleanly_of_after (hnone : ¬ Added s s) (h : ((call env).cut e n).after s = s) :
    FailsCleanly call Added env e n s := by
  intro _
  rw [h]
  exact ⟨hnone, fun _ hok => hok⟩

/-- What stands in the tables as soon as the first transaction is committed
makes every later fault one that leaves something behind. -/
theorem failsCleanly_iff_of_transaction {entry : Db α} {follow : α → Db β}
    (hcall : call env = transaction entry >>= follow) (hentry : entry.Uncommitted) (hnone : ¬ Added s s)
    (hadded : ∀ a c t m, entry.eval s s = .ok (a, c, t) → Added s (((follow a).cut e m).after t)) :
    FailsCleanly call Added env e n s ↔
      ∀ a c t, entry.eval s s = .ok (a, c, t) →
        n ≤ entry.statements s ∨
          (entry.statements s + 1 + (follow a).statements t ≤ n ∧ (follow a).completes t = true) := by
  constructor
  · intro hclean a c t hev
    rcases Nat.lt_or_ge (entry.statements s) n with hlate | hearly
    · refine Or.inr ?_
      have hafter : ((call env).cut e n).after s = ((follow a).cut e (n - entry.statements s - 1)).after t := by
        rw [hcall]
        exact after_cut_of_late hev hlate
      cases hret : ((call env).cut e n).completes s with
      | false => exact absurd (hafter ▸ hadded a c t _ hev) (hclean hret).1
      | true =>
        obtain ⟨r, hr⟩ := completes_iff.mp hret
        obtain ⟨hall, hcount⟩ := eval_cut_ok_iff.mp hr
        have hstart : (transaction entry).eval s s = .ok (a, t, t) := eval_transaction_ok.mpr ⟨rfl, c, hev⟩
        rw [hcall, statements_bind_ok hstart, transaction, statements_bind_ok hev] at hcount
        rw [hcall, eval_bind, hstart] at hall
        exact ⟨hcount, completes_iff.mpr ⟨r, hall⟩⟩
    · exact Or.inl hearly
  · intro h
    cases hev : entry.eval s s with
    | error x =>
      refine failsCleanly_of_after hnone ?_
      rw [hcall]
      exact after_cut_of_refused hentry hev
    | ok q =>
      obtain ⟨a, c, t⟩ := q
      obtain hearly | ⟨hcount, hok⟩ := h a c t hev
      · refine failsCleanly_of_after hnone ?_
        rw [hcall]
        exact after_cut_of_early hentry hev hearly
      · intro hthrows
        obtain ⟨r, hr⟩ := completes_iff.mp hok
        have hstart : (transaction entry).eval s s = .ok (a, t, t) := eval_transaction_ok.mpr ⟨rfl, c, hev⟩
        have hret : ((call env).cut e n).completes s = true := by
          refine completes_iff.mpr ⟨r, eval_cut_ok_iff.mpr ⟨?_, ?_⟩⟩
          · rw [hcall, eval_bind, hstart]
            exact hr
          · rw [hcall, statements_bind_ok hstart, transaction, statements_bind_ok hev]
            exact hcount
        rw [hret] at hthrows
        cases hthrows

/-- What must hold for the link of a new client to be stored and mailed. -/
structure VerificationSent (env : Env) (input : RegisterClientInput) (s : Store) : Prop where
  tenant : s.hasTenant input.tenantId = true
  fresh : prisma.emailVerificationToken.Fresh (verificationToken env input) s
  queue : env.queueAvailable = true

section Services

variable (env : Env) (e : Failure) (n : ℕ) (s : Store)

def ClientAdded (input : RegisterClientInput) (s t : Store) : Prop :=
  (∃ r ∈ t.clients, r ∉ s.clients ∧ r.tenantId = input.tenantId ∧ r.email = normalizeEmail input.email) ∨
    ∃ r ∈ t.clientContacts, r ∉ s.clientContacts ∧ r.tenantId = input.tenantId ∧ r.email = normalizeEmail input.email

def StaffAdded (actor : StaffActor) (input : CreateStaffUserInput) (s t : Store) : Prop :=
  ∃ r ∈ t.staffUsers, r ∉ s.staffUsers ∧ r.tenantId = actor.tenantId ∧ r.email = normalizeEmail input.email

variable {env s}

theorem statements_admitClient {input : RegisterClientInput} (h : ClientAdmitted env input s) :
    (admitClient env input).statements s = 6 := by
  have hok := (admitClient_ok_iff (c := s) (s := s)).mpr ⟨h, rfl, rfl, rfl⟩
  simp only [admitClient, insertClient, Relation.eval_findFirst_bind, eval_ensure_bind, Relation.eval_create_bind] at hok
  obtain ⟨hunused, hfresh, hrefs, hfresh', hrefs', _⟩ := hok
  rw [admitClient, Relation.statements_findFirst_bind, Relation.statements_findFirst_bind, statements_ensure_bind hunused,
    insertClient, Relation.statements_create_bind hfresh hrefs, Relation.statements_create_bind hfresh' hrefs',
    statements_recordStatusTransition_bind h.tenant, statements_recordAuditLog_bind h.tenant]
  rfl

theorem statements_admitStaffUser {actor : StaffActor} {input : CreateStaffUserInput} {role : Role}
    (h : StaffAdmitted env actor input s role) : (admitStaffUser env actor input).statements s = 4 := by
  have hok := (admitStaffUser_ok_iff (c := s) (s := s)).mpr ⟨role, h, rfl, rfl, rfl⟩
  simp only [admitStaffUser, insertStaffUser, eval_requirePermission_bind, Relation.eval_findFirst_bind,
    eval_orThrow_bind, eval_ensure_bind, Relation.eval_create_bind] at hok
  obtain ⟨hperm, role', hrole, hunused, hfresh, hrefs, _⟩ := hok
  rw [admitStaffUser, requirePermission, statements_ensure_bind hperm, Relation.statements_findFirst_bind,
    statements_orThrow_bind hrole, Relation.statements_findFirst_bind, statements_ensure_bind hunused, insertStaffUser,
    Relation.statements_create_bind hfresh hrefs, statements_recordAuditLog_bind h.tenant]
  rfl

theorem completes_greetClient_iff {input : RegisterClientInput} :
    (greetClient env input (env.cuid 0, env.cuid 1)).completes s = true ↔ VerificationSent env input s := by
  rw [completes_iff]
  simp only [greetClient, sendVerification, transaction, bind_assoc, Relation.eval_create_bind, commit_bind, ret_bind,
    eval_commit, eval_queueEmail_bind, pure_eq_ret, eval_ret]
  constructor
  · rintro ⟨_, hfresh, htenant, _, hqueue, _⟩
    exact ⟨htenant, hfresh, hqueue⟩
  · intro h
    exact ⟨_, h.fresh, h.tenant, h.tenant, h.queue, rfl⟩

theorem statements_greetClient {input : RegisterClientInput} (h : VerificationSent env input s) :
    (greetClient env input (env.cuid 0, env.cuid 1)).statements s = 4 := by
  simp only [greetClient, sendVerification, transaction, bind_assoc, commit_bind, ret_bind]
  refine (Relation.statements_create_bind h.fresh h.tenant).trans ?_
  rw [statements_commit, statements_queueEmail_bind h.tenant h.queue]
  rfl

theorem completes_inviteStaffUser_iff {actor : StaffActor} {input : CreateStaffUserInput} {role : Role} :
    (inviteStaffUser env actor input (newStaffUser env actor input role)).completes s = true ↔
      LinkSent env (staffInviteToken env actor) s := by
  rw [completes_iff, inviteStaffUser]
  constructor
  · rintro ⟨_, hret⟩
    exact ((eval_sendPasswordLink_bind rfl).mp hret).1
  · exact fun hsent => ⟨_, (eval_sendPasswordLink_bind rfl).mpr ⟨hsent, rfl⟩⟩

theorem statements_inviteStaffUser {actor : StaffActor} {input : CreateStaffUserInput} {role : Role}
    (h : LinkSent env (staffInviteToken env actor) s) :
    (inviteStaffUser env actor input (newStaffUser env actor input role)).statements s = 4 := by
  simp only [inviteStaffUser, sendPasswordLink, transaction, bind_assoc, commit_bind, ret_bind]
  refine (Relation.statements_create_bind h.fresh h.tenant).trans ?_
  rw [statements_commit, statements_queueEmail_bind h.tenant h.queue]
  rfl

theorem clientAdded_of_committed {input : RegisterClientInput} {ids : Id × Id} {c t : Store} {m : ℕ}
    (h : (admitClient env input).eval s s = .ok (ids, c, t)) :
    ClientAdded input s (((greetClient env input ids).cut e m).after t) := by
  obtain ⟨hadmitted, _, _, rfl⟩ := admitClient_ok_iff.mp h
  have hleaves : (greetClient env input ids).Leaves (fun t => t.clients) :=
    (leaves_sendVerification env input _ _ (fun _ _ => rfl) (fun _ _ => rfl)).bind (fun _ => trivial)
  have hclients := after_of_leaves (hleaves.cut (e := e) m) (s.admitClient env input)
  refine Or.inl ⟨newClient env input, ?_, fun hold => hadmitted.unused_client _ hold ⟨rfl, rfl⟩, rfl, rfl⟩
  rw [hclients]
  exact (Table.mem_insert hadmitted.fresh_client).mpr (Or.inr rfl)

theorem staffAdded_of_committed {actor : StaffActor} {input : CreateStaffUserInput} {user : StaffUser} {c t : Store}
    {m : ℕ} (h : (admitStaffUser env actor input).eval s s = .ok (user, c, t)) :
    StaffAdded actor input s (((inviteStaffUser env actor input user).cut e m).after t) := by
  obtain ⟨role, hadmitted, _, _, rfl⟩ := admitStaffUser_ok_iff.mp h
  have hleaves : (inviteStaffUser env actor input user).Leaves (fun t => t.staffUsers) := by
    refine Leaves.bind ?_ (fun _ => trivial)
    refine (Leaves.transaction (Relation.leaves_create _ (fun _ => rfl))).bind (fun _ => ?_)
    exact leaves_queueEmail env _ (fun _ _ => rfl)
  have husers := after_of_leaves (hleaves.cut (e := e) m) (s.admitStaff env actor input role)
  refine ⟨newStaffUser env actor input role, ?_, fun hold => ?_, rfl, rfl⟩
  · rw [husers]
    exact (Table.mem_insert hadmitted.fresh).mpr (Or.inr rfl)
  · exact Table.find_eq_none_iff.mp hadmitted.fresh _ hold rfl

/-- A registration fails cleanly at every statement up to the commit of its
account, and at no later one: the six statements before it and the commit itself
for a client, four and the commit for a member of staff. -/
theorem failsCleanly_iff (env : Env) (e : Failure) (n : ℕ) (s : Store) (input : RegisterClientInput)
    (actor : StaffActor) (invited : CreateStaffUserInput) :
    (FailsCleanly (fun env => registerClient env input) (ClientAdded input) env e n s ↔
      (ClientAdmitted env input s → n < 7 ∨ (11 ≤ n ∧ VerificationSent env input s))) ∧
    (FailsCleanly (fun env => createStaffUser env actor invited) (StaffAdded actor invited) env e n s ↔
      ∀ role, StaffAdmitted env actor invited s role →
        n < 5 ∨ (9 ≤ n ∧ LinkSent env (staffInviteToken env actor) s)) := by
  constructor
  · rw [failsCleanly_iff_of_transaction (registerClient_eq env input) (uncommitted_admitClient env input)
      (by rintro (⟨r, hr, hnot, _⟩ | ⟨r, hr, hnot, _⟩) <;> exact hnot hr) (fun _ _ _ _ h => clientAdded_of_committed e h)]
    constructor
    · intro h hadmitted
      have hok := (admitClient_ok_iff (c := s)).mpr ⟨hadmitted, rfl, rfl, rfl⟩
      obtain hearly | ⟨hcount, hsent⟩ := h _ _ _ hok
      · rw [statements_admitClient hadmitted] at hearly
        exact Or.inl (Nat.lt_succ_of_le hearly)
      · have hsent' := completes_greetClient_iff.mp hsent
        rw [statements_admitClient hadmitted, statements_greetClient hsent'] at hcount
        exact Or.inr ⟨hcount, hsent'.tenant, hsent'.fresh, hsent'.queue⟩
    · intro h ids c t hok
      obtain ⟨hadmitted, rfl, _, rfl⟩ := admitClient_ok_iff.mp hok
      rw [statements_admitClient hadmitted]
      obtain hearly | ⟨hcount, hsent⟩ := h hadmitted
      · exact Or.inl (Nat.le_of_lt_succ hearly)
      · have hsent' : VerificationSent env input (s.admitClient env input) :=
          ⟨hsent.tenant, hsent.fresh, hsent.queue⟩
        rw [statements_greetClient hsent']
        exact Or.inr ⟨hcount, completes_greetClient_iff.mpr hsent'⟩
  · rw [failsCleanly_iff_of_transaction (createStaffUser_eq env actor invited)
      (uncommitted_admitStaffUser env actor invited) (by rintro ⟨r, hr, hnot, _⟩; exact hnot hr)
      (fun _ _ _ _ h => staffAdded_of_committed e h)]
    constructor
    · intro h role hadmitted
      have hok := (admitStaffUser_ok_iff (c := s)).mpr ⟨role, hadmitted, rfl, rfl, rfl⟩
      obtain hearly | ⟨hcount, hsent⟩ := h _ _ _ hok
      · rw [statements_admitStaffUser hadmitted] at hearly
        exact Or.inl (Nat.lt_succ_of_le hearly)
      · have hsent' := completes_inviteStaffUser_iff.mp hsent
        rw [statements_admitStaffUser hadmitted, statements_inviteStaffUser hsent'] at hcount
        exact Or.inr ⟨hcount, hsent'.fresh, hsent'.tenant, hsent'.queue⟩
    · intro h user c t hok
      obtain ⟨role, hadmitted, rfl, _, rfl⟩ := admitStaffUser_ok_iff.mp hok
      rw [statements_admitStaffUser hadmitted]
      obtain hearly | ⟨hcount, hsent⟩ := h role hadmitted
      · exact Or.inl (Nat.le_of_lt_succ hearly)
      · have hsent' : LinkSent env (staffInviteToken env actor) (s.admitStaff env actor invited role) :=
          ⟨hsent.fresh, hsent.tenant, hsent.queue⟩
        rw [statements_inviteStaffUser hsent']
        exact Or.inr ⟨hcount, completes_inviteStaffUser_iff.mpr hsent'⟩

end Services

end Faults

namespace Sample

def applicant : RegisterClientInput :=
  { tenantId := "tenant", type := .individual, firstName := "New", lastName := "Client"
    email := "New@Example.test ", password := "correct horse" }

end Sample

open Sample

/-- The database goes away between the account and the insert of its verification
token: the registration throws and keeps the account, and every later try finds
the address taken. -/
theorem lostToken_strands_registration :
    ¬ FailsCleanly (fun env => registerClient env applicant) (ClientAdded applicant) (env "first") connectionLost 7
      vacant ∧
    (((registerClient (env "first") applicant).cut connectionLost 7).run vacant).2 = .error connectionLost ∧
    ((registerClient (env "again") applicant).run
      (((registerClient (env "first") applicant).cut connectionLost 7).after vacant)).2 =
        .error (businessRuleError "client.email_taken" "An account with this email already exists.") := by
  refine ⟨fun h => ?_, by decide +kernel, by decide +kernel⟩
  have hthrows : ((registerClient (env "first") applicant).cut connectionLost 7).completes vacant = false := by
    decide +kernel
  have hretry := (h hthrows).2 (env "again") (by decide +kernel)
  exact absurd hretry (by decide +kernel)

end HostPanel.Model
