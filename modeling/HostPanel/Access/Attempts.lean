import HostPanel.Access.Sessions

namespace HostPanel.Model

open HostPanel.Lib HostPanel.Lib.Program

/-- What a login attempt is counted under. -/
def AccessCall.loginKey? (call : AccessCall) : Option LoginKey :=
  match call.op with
  | .authenticateStaffUser input => some ⟨input.tenantId, .staff, normalizeEmail input.email⟩
  | .authenticateClientContact input => some ⟨input.tenantId, .clientContact, normalizeEmail input.email⟩
  | _ => none

/-- The password a login attempt presents. -/
def AccessCall.password (call : AccessCall) : String :=
  match call.op with
  | .authenticateStaffUser input => input.password
  | .authenticateClientContact input => input.password
  | _ => ""

/-- What an attempt is checked against: `isOpen` when neither the account nor
its client is barred. -/
structure LoginAccount where
  passwordHash : String
  lockedUntil : Option DateTime
  isOpen : Bool

def StaffUser.account (r : StaffUser) : LoginAccount :=
  { passwordHash := r.passwordHash, lockedUntil := r.lockedUntil, isOpen := r.isActive }

def ClientContact.account (r : ClientContact) (client : Client) : LoginAccount :=
  { passwordHash := r.passwordHash, lockedUntil := r.lockedUntil, isOpen := r.isActive && !client.status.isBarred }

def Store.staffUnder (s : Store) (tenantId : Id) (email : String) : Option StaffUser :=
  s.staffUsers.rows.find? (StaffUser.hasEmail tenantId email)

def Store.contactUnder (s : Store) (tenantId : Id) (email : String) : Option ClientContact :=
  s.clientContacts.rows.find? (ClientContact.hasEmail tenantId email)

def Store.accountOf (s : Store) (key : LoginKey) : Option LoginAccount :=
  match key.actorType with
  | .staff => (s.staffUnder key.tenantId key.email).map StaffUser.account
  | .clientContact =>
    (s.contactUnder key.tenantId key.email).bind (fun contact =>
      (s.clients.find contact.clientId).map contact.account)

/-- The attempt gets as far as the comparison of its password, which is wrong. -/
def LoginAccount.rejects (account : LoginAccount) (call : AccessCall) : Bool :=
  account.isOpen && !isLocked account.lockedUntil call.env.now &&
    !call.env.verifyPassword account.passwordHash call.password

def AccessCall.comparesWrong (key : LoginKey) (s : Store) (call : AccessCall) : Bool :=
  (s.accountOf key).any (fun account => account.rejects call)

/-- The failures on record, as `shouldLockOut` counts them. -/
def Store.failures (s : Store) (key : LoginKey) (since : DateTime) : ℕ :=
  s.loginEvents.rows.countP (LoginEvent.isFailure key since)

/-- Those that were wrong passwords. -/
def LoginEvent.isWrongPassword (key : LoginKey) (since : DateTime) (r : LoginEvent) : Bool :=
  r.isFailure key since && r.reason == some "bad_password"

def Store.wrongPasswords (s : Store) (key : LoginKey) (since : DateTime) : ℕ :=
  s.loginEvents.rows.countP (LoginEvent.isWrongPassword key since)

def invalidCredentials : Failure := authenticationError "auth.invalid_credentials" "Incorrect email or password."

/-- An attempt can be recorded: the tenant exists, and the id drawn for the
event is new. -/
structure Store.Records (s : Store) (key : LoginKey) (call : AccessCall) : Prop where
  tenant : (s.tenants.find key.tenantId).isSome = true
  fresh : s.loginEvents.find (call.env.cuid 0) = none

instance (s : Store) (key : LoginKey) (call : AccessCall) : Decidable (s.Records key call) :=
  decidable_of_iff ((s.tenants.find key.tenantId).isSome = true ∧ s.loginEvents.find (call.env.cuid 0) = none)
    ⟨fun h => ⟨h.1, h.2⟩, fun h => ⟨h.tenant, h.fresh⟩⟩

section Refusals

variable {α : Type} {env : Env} {s : Store} {actorType : AuthActorType} {actorId : Option Id} {input : LoginInput}
variable {email reason : String}

/-- The row of a failed attempt. -/
def LoginInput.failure (input : LoginInput) (env : Env) (actorType : AuthActorType) (actorId : Option Id)
    (email reason : String) : LoginEvent :=
  LoginAttempt.event
    { tenantId := input.tenantId
      actorType := actorType
      actorId := actorId
      email := email
      success := false
      reason := some reason
      ip := input.ip
      userAgent := input.userAgent } env

theorem fresh_loginEvent {row : LoginEvent} (h : s.loginEvents.find row.id = none) : prisma.loginEvent.Fresh row s :=
  (Relation.fresh_single_iff (fun _ => rfl) (fun _ _ h => Lock.loginEvent.inj h)).mpr h

theorem eval_failLogin (htenant : (s.tenants.find input.tenantId).isSome = true)
    (hfresh : s.loginEvents.find (env.cuid 0) = none) :
    (failLogin env actorType actorId input email reason : Db α).eval s s =
      .error (invalidCredentials, prisma.loginEvent.insert (input.failure env actorType actorId email reason) s) := by
  have hrow : prisma.loginEvent.Fresh (input.failure env actorType actorId email reason) s := fresh_loginEvent hfresh
  have hrefs : prisma.loginEvent.references (input.failure env actorType actorId email reason) s = true := htenant
  unfold LoginInput.failure at hrow hrefs ⊢
  simp only [failLogin, recordLoginAttempt, transaction, Relation.create, exec_bind, eval_exec, if_pos hrow,
    if_pos hrefs, ret_bind, commit_bind, eval_commit]
  rfl

/-- A locked account is not let through. -/
theorem eval_locked_staff {input : StaffLoginInput} {user : StaffUser}
    (hfound : s.staffUnder input.tenantId (normalizeEmail input.email) = some user)
    (hlocked : isLocked user.lockedUntil env.now = true) (htenant : (s.tenants.find input.tenantId).isSome = true)
    (hfresh : s.loginEvents.find (env.cuid 0) = none) :
    ∃ row, (authenticateStaffUser env input).eval s s =
      .error (invalidCredentials, prisma.loginEvent.insert row s) := by
  change ∃ row, (checkStaffAccount env input (normalizeEmail input.email)
    (s.staffUnder input.tenantId (normalizeEmail input.email))).eval s s = _
  rw [hfound, checkStaffAccount]
  by_cases hactive : user.isActive = false
  · rw [if_pos hactive]
    exact ⟨_, eval_failLogin htenant hfresh⟩
  · rw [if_neg hactive, if_pos hlocked]
    exact ⟨_, eval_failLogin htenant hfresh⟩

theorem eval_foundContact {contact : ClientContact} {client : Client}
    (hfound : s.contactUnder input.tenantId (normalizeEmail input.email) = some contact)
    (hclient : s.clients.find contact.clientId = some client) :
    (authenticateClientContact env input).eval s s =
      (checkContactAccount env input (normalizeEmail input.email) contact client).eval s s := by
  change (checkFoundContact env input (normalizeEmail input.email)
    (s.contactUnder input.tenantId (normalizeEmail input.email))).eval s s = _
  have hget : (prisma.client.get s).find contact.clientId = some client := hclient
  simp only [hfound, checkFoundContact, Relation.findUniqueOrThrow, query_bind, eval_query, hget, ret_bind]

theorem eval_locked_contact {contact : ClientContact} {client : Client}
    (hfound : s.contactUnder input.tenantId (normalizeEmail input.email) = some contact)
    (hclient : s.clients.find contact.clientId = some client) (hlocked : isLocked contact.lockedUntil env.now = true)
    (htenant : (s.tenants.find input.tenantId).isSome = true) (hfresh : s.loginEvents.find (env.cuid 0) = none) :
    ∃ row, (authenticateClientContact env input).eval s s =
      .error (invalidCredentials, prisma.loginEvent.insert row s) := by
  rw [eval_foundContact hfound hclient, checkContactAccount]
  by_cases hactive : contact.isActive = false
  · rw [if_pos hactive]
    exact ⟨_, eval_failLogin htenant hfresh⟩
  rw [if_neg hactive]
  by_cases hbarred : client.status.isBarred = true
  · rw [if_pos hbarred]
    exact ⟨_, eval_failLogin htenant hfresh⟩
  · rw [if_neg hbarred, if_pos hlocked]
    exact ⟨_, eval_failLogin htenant hfresh⟩

def StaffUser.lockedBy (r : StaffUser) (env : Env) : StaffUser :=
  { r with lockedUntil := some (computeLockoutExpiry env), updatedAt := env.now }

def ClientContact.lockedBy (r : ClientContact) (env : Env) : ClientContact :=
  { r with lockedUntil := some (computeLockoutExpiry env) }

theorem eval_shouldLockOut_bind {key : LoginKey} {k : Bool → Db α} {c v : Store} :
    (shouldLockOut env key >>= k).eval c v =
      (k (decide (maxFailedAttempts ≤ v.failures key (env.now - lockoutWindowMinutes * 60000)))).eval c v := rfl

/-- A wrong password locks the account when enough failures are on record, and
is recorded after that. -/
theorem eval_wrong_staff {input : StaffLoginInput} {user : StaffUser}
    (hfound : s.staffUnder input.tenantId (normalizeEmail input.email) = some user) (hactive : user.isActive = true)
    (hunlocked : isLocked user.lockedUntil env.now = false)
    (hwrong : env.verifyPassword user.passwordHash input.password = false)
    (htenant : (s.tenants.find input.tenantId).isSome = true) (hfresh : s.loginEvents.find (env.cuid 0) = none) :
    ∃ t, (authenticateStaffUser env input).eval s s = .error (invalidCredentials, prisma.loginEvent.insert
        (input.failure env .staff (some user.id) (normalizeEmail input.email) "bad_password") t) ∧
      t.loginEvents = s.loginEvents ∧
      (maxFailedAttempts ≤ s.failures ⟨input.tenantId, .staff, normalizeEmail input.email⟩
          (env.now - lockoutWindowMinutes * 60000) →
        ∃ user', t.staffUnder input.tenantId (normalizeEmail input.email) = some user' ∧
          user'.lockedUntil = some (computeLockoutExpiry env)) := by
  have hcheck : (authenticateStaffUser env input).eval s s =
      (checkStaffPassword env input (normalizeEmail input.email) user).eval s s := by
    change (checkStaffAccount env input (normalizeEmail input.email)
      (s.staffUnder input.tenantId (normalizeEmail input.email))).eval s s = _
    rw [hfound, checkStaffAccount, if_neg (by simp [hactive]), if_neg (by simp [hunlocked])]
  have huser : (prisma.staffUser.get s).find user.id = some user := Table.find_of_mem (List.mem_of_find?_eq_some hfound)
  rw [hcheck, checkStaffPassword, if_neg (by simp [hwrong]), eval_shouldLockOut_bind]
  by_cases hcount : maxFailedAttempts ≤ s.failures ⟨input.tenantId, .staff, normalizeEmail input.email⟩
      (env.now - lockoutWindowMinutes * 60000)
  · rw [decide_eq_true hcount, lockStaffOut, if_pos rfl, bind_assoc, eval_transaction_update_bind huser, pure_eq_ret,
      ret_bind]
    refine ⟨_, eval_failLogin htenant hfresh, rfl, fun _ => ⟨user.lockedBy env, ?_, rfl⟩⟩
    exact Table.find?_modify hfound (fun r => r.lockedBy env) (fun _ => rfl) (fun _ => rfl)
  · rw [decide_eq_false hcount, lockStaffOut, if_neg Bool.false_ne_true, ret_bind]
    exact ⟨s, eval_failLogin htenant hfresh, rfl, fun h => absurd h hcount⟩

theorem eval_wrong_contact {contact : ClientContact} {client : Client}
    (hfound : s.contactUnder input.tenantId (normalizeEmail input.email) = some contact)
    (hclient : s.clients.find contact.clientId = some client) (hactive : contact.isActive = true)
    (hopen : client.status.isBarred = false) (hunlocked : isLocked contact.lockedUntil env.now = false)
    (hwrong : env.verifyPassword contact.passwordHash input.password = false)
    (htenant : (s.tenants.find input.tenantId).isSome = true) (hfresh : s.loginEvents.find (env.cuid 0) = none) :
    ∃ t, (authenticateClientContact env input).eval s s = .error (invalidCredentials, prisma.loginEvent.insert
        (input.failure env .clientContact (some contact.id) (normalizeEmail input.email) "bad_password") t) ∧
      t.loginEvents = s.loginEvents ∧
      (maxFailedAttempts ≤ s.failures ⟨input.tenantId, .clientContact, normalizeEmail input.email⟩
          (env.now - lockoutWindowMinutes * 60000) →
        ∃ contact', t.contactUnder input.tenantId (normalizeEmail input.email) = some contact' ∧
          t.clients.find contact'.clientId = some client ∧ contact'.lockedUntil = some (computeLockoutExpiry env)) := by
  have hcontact : (prisma.clientContact.get s).find contact.id = some contact :=
    Table.find_of_mem (List.mem_of_find?_eq_some hfound)
  rw [eval_foundContact hfound hclient, checkContactAccount, if_neg (by simp [hactive]), if_neg (by simp [hopen]),
    if_neg (by simp [hunlocked]), checkContactPassword, if_neg (by simp [hwrong]), eval_shouldLockOut_bind]
  by_cases hcount : maxFailedAttempts ≤ s.failures ⟨input.tenantId, .clientContact, normalizeEmail input.email⟩
      (env.now - lockoutWindowMinutes * 60000)
  · rw [decide_eq_true hcount, lockContactOut, if_pos rfl, bind_assoc, eval_transaction_update_bind hcontact,
      pure_eq_ret, ret_bind]
    refine ⟨_, eval_failLogin htenant hfresh, rfl, fun _ => ⟨contact.lockedBy env, ?_, hclient, rfl⟩⟩
    exact Table.find?_modify hfound (fun r => r.lockedBy env) (fun _ => rfl) (fun _ => rfl)
  · rw [decide_eq_false hcount, lockContactOut, if_neg Bool.false_ne_true, ret_bind]
    exact ⟨s, eval_failLogin htenant hfresh, rfl, fun h => absurd h hcount⟩

end Refusals

/-- Login events are only added, and the tenants stay. -/
structure Store.Logs (s t : Store) : Prop where
  events : s.loginEvents.rows <+: t.loginEvents.rows
  tenants : t.tenants = s.tenants

theorem logs_of_eq (s t : Store) (hevents : t.loginEvents = s.loginEvents) (htenants : t.tenants = s.tenants) :
    s.Logs t :=
  ⟨hevents ▸ List.prefix_rfl, htenants⟩

theorem Store.Logs.trans {s t u : Store} (h : s.Logs t) (h' : t.Logs u) : s.Logs u :=
  ⟨h.events.trans h'.events, h'.tenants.trans h.tenants⟩

theorem logs_insertEvent : KeptByEvents Store.Logs := by
  intro row s
  refine ⟨?_, rfl⟩
  change s.loginEvents.rows <+: (s.loginEvents.insert row).rows
  unfold Table.insert
  split
  · exact List.prefix_rfl
  · exact List.prefix_append _ _

section Attempts

variable {key : LoginKey} {s : Store} {call : AccessCall}

/-- Every login attempt keeps the events on record. -/
theorem logs_attempt (hkey : call.loginKey? = some key) : s.Logs (call.after s) := by
  have hguarantees : call.program.Guarantees Store.Logs := by
    obtain ⟨env, op⟩ := call
    cases op with
    | authenticateStaffUser input =>
      refine Guarantees.bind ?_ (fun _ => trivial)
      exact guarantees_authenticateStaffUser logs_insertEvent (fun _ _ _ _ t => logs_of_eq t _ rfl rfl) input
    | authenticateClientContact input =>
      refine Guarantees.bind ?_ (fun _ => trivial)
      exact guarantees_authenticateClientContact logs_insertEvent (fun _ _ _ _ t => logs_of_eq t _ rfl rfl)
        (fun _ _ t => logs_of_eq t _ rfl rfl) input
    | _ => cases hkey
  exact after_of_guarantees (fun t => logs_of_eq t t rfl rfl) (fun _ _ _ => Store.Logs.trans) hguarantees s

theorem run_map_error {α β : Type} {g : α → β} {p : Db α} {e : Failure} {t : Store} (h : p.eval s s = .error (e, t)) :
    (g <$> p).run s = (t, .error e) := by
  have hmap : (g <$> p) = (p >>= fun a => .ret (g a)) := rfl
  rw [hmap, run, eval_bind, h]

/-- While the account is locked an attempt is refused, and only recorded. -/
theorem refused_of_locked (hkey : call.loginKey? = some key) (hrecords : s.Records key call) {account : LoginAccount}
    (haccount : s.accountOf key = some account) (hlocked : isLocked account.lockedUntil call.env.now = true) :
    ∃ row, call.program.run s = (prisma.loginEvent.insert row s, .error invalidCredentials) := by
  obtain ⟨env, op⟩ := call
  cases op with
  | authenticateStaffUser input =>
    cases hkey
    obtain ⟨user, hfound, rfl⟩ := Option.map_eq_some_iff.mp haccount
    obtain ⟨row, heval⟩ := eval_locked_staff hfound hlocked hrecords.tenant hrecords.fresh
    exact ⟨row, run_map_error heval⟩
  | authenticateClientContact input =>
    cases hkey
    obtain ⟨contact, hfound, hmap⟩ := Option.bind_eq_some_iff.mp haccount
    obtain ⟨client, hclient, rfl⟩ := Option.map_eq_some_iff.mp hmap
    obtain ⟨row, heval⟩ := eval_locked_contact hfound hclient hlocked hrecords.tenant hrecords.fresh
    exact ⟨row, run_map_error heval⟩
  | _ => cases hkey

theorem isWrongPassword_failure (input : LoginInput) (env : Env) (actorType : AuthActorType) (actorId : Option Id)
    (email : String) (since : DateTime) :
    (input.failure env actorType actorId email "bad_password").isWrongPassword ⟨input.tenantId, actorType, email⟩
      since = decide (since ≤ env.now) := by
  simp only [LoginEvent.isWrongPassword, LoginEvent.isFailure, LoginInput.failure, LoginAttempt.event, beq_self_eq_true,
    Bool.true_and, Bool.and_true]
  rfl

theorem rejects_iff {account : LoginAccount} : account.rejects call = true ↔
    account.isOpen = true ∧ isLocked account.lockedUntil call.env.now = false ∧
      call.env.verifyPassword account.passwordHash call.password = false := by
  simp only [LoginAccount.rejects, Bool.and_eq_true, Bool.not_eq_true', and_assoc]

/-- An attempt with a wrong password is refused and recorded, and locks the
account when enough failures are on record. -/
theorem recorded_of_wrong (hkey : call.loginKey? = some key) (hrecords : s.Records key call)
    (hwrong : call.comparesWrong key s = true) :
    ∃ t row, call.after s = prisma.loginEvent.insert row t ∧ t.loginEvents = s.loginEvents ∧
      row.id = call.env.cuid 0 ∧ (∀ since, row.isWrongPassword key since = decide (since ≤ call.env.now)) ∧
      (maxFailedAttempts ≤ s.failures key (call.env.now - lockoutWindowMinutes * 60000) →
        ∃ account, t.accountOf key = some account ∧ account.lockedUntil = some (computeLockoutExpiry call.env)) := by
  obtain ⟨account, haccount, hrejects⟩ := (Option.any_eq_true _ _).mp hwrong
  obtain ⟨hopen, hunlocked, hpassword⟩ := rejects_iff.mp hrejects
  obtain ⟨env, op⟩ := call
  cases op with
  | authenticateStaffUser input =>
    cases hkey
    obtain ⟨user, hfound, rfl⟩ := Option.map_eq_some_iff.mp haccount
    obtain ⟨t, heval, hevents, hlocks⟩ :=
      eval_wrong_staff hfound hopen hunlocked hpassword hrecords.tenant hrecords.fresh
    refine ⟨t, _, congrArg Prod.fst (run_map_error heval), hevents, rfl, isWrongPassword_failure _ _ _ _ _,
      fun hcount => ?_⟩
    obtain ⟨user', hfound', hlocked⟩ := hlocks hcount
    exact ⟨user'.account, Option.map_eq_some_iff.mpr ⟨user', hfound', rfl⟩, hlocked⟩
  | authenticateClientContact input =>
    cases hkey
    obtain ⟨contact, hfound, hmap⟩ := Option.bind_eq_some_iff.mp haccount
    obtain ⟨client, hclient, rfl⟩ := Option.map_eq_some_iff.mp hmap
    obtain ⟨hactive, hbarred⟩ := Bool.and_eq_true_iff.mp hopen
    obtain ⟨t, heval, hevents, hlocks⟩ := eval_wrong_contact hfound hclient hactive ((Bool.not_eq_true' _).mp hbarred)
      hunlocked hpassword hrecords.tenant hrecords.fresh
    refine ⟨t, _, congrArg Prod.fst (run_map_error heval), hevents, rfl, isWrongPassword_failure _ _ _ _ _,
      fun hcount => ?_⟩
    obtain ⟨contact', hfound', hclient', hlocked⟩ := hlocks hcount
    refine ⟨contact'.account client, Option.bind_eq_some_iff.mpr ⟨contact', hfound', ?_⟩, hlocked⟩
    exact Option.map_eq_some_iff.mpr ⟨client, hclient', rfl⟩
  | _ => cases hkey

end Attempts

end HostPanel.Model
