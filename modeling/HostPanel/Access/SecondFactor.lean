import Mathlib.Data.Fintype.EquivFin
import HostPanel.Lib.Lockout
import HostPanel.Access.Attempts

namespace HostPanel.Model

open HostPanel.Lib HostPanel.Lib.Program

/-- The attempt gets as far as the check of its code. -/
def StaffUser.checksCode (user : StaffUser) (env : Env) (input : StaffLoginInput) : Bool :=
  user.isActive && !isLocked user.lockedUntil env.now && env.verifyPassword user.passwordHash input.password &&
    user.twoFactorEnabled && (input.totpToken.filter (fun t => t != "")).isSome &&
    (decryptSecret env (user.twoFactorSecret.getD "")).isOk

def AccessCall.checksCode (s : Store) (call : AccessCall) : Bool :=
  match call.op with
  | .authenticateStaffUser input =>
    (s.staffUnder input.tenantId (normalizeEmail input.email)).any (fun user => user.checksCode call.env input)
  | _ => false

/-- The times at which the calls of a run have a code checked. -/
abbrev codeTimes (s : Store) (calls : List AccessCall) : List DateTime :=
  timesAlong AccessCall.after (fun call => call.env.now) AccessCall.checksCode s calls

/-- The surroundings of one deployment: they hash passwords and seal secrets the
same way. -/
structure Env.Deployed (env env' : Env) : Prop where
  passwords : env'.verifyPassword = env.verifyPassword
  cipher : env'.cipher = env.cipher
  encryptionKey : env'.encryptionKey = env.encryptionKey

/-- A login of a staff user with its password and a wrong code. -/
def AccessCall.Guesses (user : StaffUser) (call : AccessCall) : Prop :=
  ∃ input token, call.op = .authenticateStaffUser input ∧ input.tenantId = user.tenantId ∧
    normalizeEmail input.email = user.email ∧ call.env.verifyPassword user.passwordHash input.password = true ∧
    input.totpToken = some token ∧ token ≠ "" ∧
    ∀ secret, decryptSecret call.env (user.twoFactorSecret.getD "") = .ok secret →
      call.env.verifyTotpToken secret token = false

/-- Logins of a deployment, one after the other, that guess codes of a staff
user; each can be recorded. -/
structure GuessRun (env : Env) (user : StaffUser) (s : Store) (calls : List AccessCall) : Prop where
  order : calls.Pairwise (fun call call' => call.env.now ≤ call'.env.now)
  deployed : ∀ call ∈ calls, env.Deployed call.env
  guesses : ∀ call ∈ calls, call.Guesses user
  records : AlongRun AccessCall.after (fun s call => s.Records ⟨user.tenantId, .staff, user.email⟩ call) s calls

/-- The check of codes can be reached: the account is open, a login can name it
and give its password, and its secret can be opened. -/
structure StaffUser.Reachable (user : StaffUser) (env : Env) : Prop where
  active : user.isActive = true
  named : ∃ email, normalizeEmail email = user.email
  password : ∃ password, env.verifyPassword user.passwordHash password = true
  secret : ∃ secret, decryptSecret env (user.twoFactorSecret.getD "") = .ok secret

theorem Env.Deployed.decryptSecret {env env' : Env} (h : env.Deployed env') (text : String) :
    decryptSecret env' text = Model.decryptSecret env text := by
  have hkey : getKey env' = getKey env := by
    simp only [getKey, h.cipher, h.encryptionKey]
  simp only [Model.decryptSecret, hkey, h.cipher]

theorem checksCode_iff {user : StaffUser} {env : Env} {input : StaffLoginInput} :
    user.checksCode env input = true ↔ user.isActive = true ∧ isLocked user.lockedUntil env.now = false ∧
      env.verifyPassword user.passwordHash input.password = true ∧ user.twoFactorEnabled = true ∧
      (∃ token, input.totpToken = some token ∧ token ≠ "") ∧
      ∃ secret, decryptSecret env (user.twoFactorSecret.getD "") = .ok secret := by
  have htoken : (input.totpToken.filter (fun t => t != "")).isSome = true ↔
      ∃ token, input.totpToken = some token ∧ token ≠ "" := by
    cases input.totpToken <;> simp
  have hsecret : (decryptSecret env (user.twoFactorSecret.getD "")).isOk = true ↔
      ∃ secret, decryptSecret env (user.twoFactorSecret.getD "") = .ok secret := by
    cases decryptSecret env (user.twoFactorSecret.getD "") <;> simp [Except.isOk, Except.toBool]
  simp only [StaffUser.checksCode, Bool.and_eq_true, Bool.not_eq_true', and_assoc, htoken, hsecret]

section Steps

variable {env : Env} {s : Store} {input : StaffLoginInput} {user : StaffUser}

/-- From there on the call is the check of its code. -/
theorem eval_checksCode (hfound : s.staffUnder input.tenantId (normalizeEmail input.email) = some user)
    (hchecks : user.checksCode env input = true) :
    ∃ token secret, input.totpToken = some token ∧ decryptSecret env (user.twoFactorSecret.getD "") = .ok secret ∧
      (authenticateStaffUser env input).eval s s =
        (checkStaffCode env input (normalizeEmail input.email) user secret token >>= fun _ =>
          completeStaffLogin env input (normalizeEmail input.email) user).eval s s := by
  obtain ⟨hactive, hunlocked, hpassword, hfactor, ⟨token, htoken, hne⟩, secret, hsecret⟩ := checksCode_iff.mp hchecks
  refine ⟨token, secret, htoken, hsecret, ?_⟩
  change (checkStaffAccount env input (normalizeEmail input.email)
    (s.staffUnder input.tenantId (normalizeEmail input.email))).eval s s = _
  have hgiven : input.totpToken.filter (fun t => t != "") = some token := by
    simp [htoken, Option.filter, hne]
  rw [hfound, checkStaffAccount, if_neg (by simp [hactive]), if_neg (by simp [hunlocked]), checkStaffPassword,
    if_pos hpassword, checkSecondFactor, if_pos hfactor, hgiven]
  simp only [hsecret, lift, ret_bind]

theorem eval_wrong_code (hfound : s.staffUnder input.tenantId (normalizeEmail input.email) = some user)
    (hchecks : user.checksCode env input = true)
    (hwrong : ∀ token secret, input.totpToken = some token →
      decryptSecret env (user.twoFactorSecret.getD "") = .ok secret → env.verifyTotpToken secret token = false)
    (htenant : (s.tenants.find input.tenantId).isSome = true) (hfresh : s.loginEvents.find (env.cuid 0) = none) :
    ∃ row, (authenticateStaffUser env input).eval s s =
      .error (invalidCredentials, prisma.loginEvent.insert row s) := by
  obtain ⟨token, secret, htoken, hsecret, heval⟩ := eval_checksCode hfound hchecks
  refine ⟨input.failure env .staff (some user.id) (normalizeEmail input.email) "bad_totp", ?_⟩
  rw [heval, checkStaffCode, if_neg (by simp [hwrong token secret htoken hsecret]), eval_bind,
    eval_failLogin htenant hfresh]

/-- The staff users but for what logins write. -/
def Store.staffStanding (s : Store) : List StaffUser := s.staffUsers.rows.map StaffUser.standing

theorem standing_attempt (call : AccessCall) (hop : call.op = .authenticateStaffUser input) :
    (call.after s).staffStanding = s.staffStanding := by
  have hguarantees : call.program.Guarantees (fun s t => t.staffStanding = s.staffStanding) := by
    obtain ⟨env, op⟩ := call
    cases hop
    refine Guarantees.bind ?_ (fun _ => trivial)
    refine guarantees_authenticateStaffUser (fun _ _ => rfl) (fun i f hf h t => ?_) input
    exact Table.map_modify t.staffUsers i f hf _ h
  refine after_of_guarantees ?_ ?_ hguarantees s
  · exact fun _ => rfl
  · exact fun _ _ _ h h' => h'.trans h

theorem staffUnder_standing (s : Store) (tenantId : Id) (email : String) :
    (s.staffUnder tenantId email).map StaffUser.standing =
      s.staffStanding.find? (StaffUser.hasEmail tenantId email) := by
  have hsame : StaffUser.hasEmail tenantId email ∘ StaffUser.standing = StaffUser.hasEmail tenantId email := rfl
  rw [Store.staffStanding, List.find?_map, hsame, Store.staffUnder]

end Steps

section Runs

variable {env : Env} {s : Store} {user : StaffUser}

theorem reachable_of_checksCode {user' : StaffUser} {env' : Env} {input : StaffLoginInput}
    (hstanding : user'.standing = user.standing) (hdeployed : env.Deployed env')
    (hemail : normalizeEmail input.email = user.email) (hchecks : user'.checksCode env' input = true) :
    user.Reachable env := by
  have hactive : user'.standing.isActive = user.standing.isActive := congrArg StaffUser.isActive hstanding
  have hhash : user'.standing.passwordHash = user.standing.passwordHash := congrArg StaffUser.passwordHash hstanding
  have hsealed : user'.standing.twoFactorSecret = user.standing.twoFactorSecret :=
    congrArg StaffUser.twoFactorSecret hstanding
  obtain ⟨hactive', _, hpassword, _, _, secret, hsecret⟩ := checksCode_iff.mp hchecks
  refine ⟨hactive.symm.trans hactive', ⟨input.email, hemail⟩, ⟨input.password, ?_⟩, secret, ?_⟩
  · rw [← hdeployed.passwords, show user.passwordHash = user'.passwordHash from hhash.symm]
    exact hpassword
  · rw [← hdeployed.decryptSecret, show user.twoFactorSecret = user'.twoFactorSecret from hsealed.symm]
    exact hsecret

/-- Where the check of codes cannot be reached, no attempt reaches it. -/
theorem codeTimes_eq_nil (h : ¬ user.Reachable env) {calls : List AccessCall}
    (hfound : (s.staffUnder user.tenantId user.email).map StaffUser.standing = some user.standing)
    (hdeployed : ∀ call ∈ calls, env.Deployed call.env) (hguesses : ∀ call ∈ calls, call.Guesses user) :
    codeTimes s calls = [] := by
  induction calls generalizing s with
  | nil => rfl
  | cons call calls ih =>
    obtain ⟨input, token, hop, htenant, hemail, hpassword, htoken, hne, hwrong⟩ := hguesses call List.mem_cons_self
    have hstep := standing_attempt (s := s) call hop
    have hfound' : ((call.after s).staffUnder user.tenantId user.email).map StaffUser.standing =
        some user.standing := by
      rw [staffUnder_standing, hstep, ← staffUnder_standing, hfound]
    have hrest := ih hfound' (fun c hc => hdeployed c (List.mem_cons_of_mem call hc))
      (fun c hc => hguesses c (List.mem_cons_of_mem call hc))
    have hfirst : call.checksCode s = false := by
      by_contra hchecks
      simp only [Bool.not_eq_false, AccessCall.checksCode, hop, htenant, hemail, Option.any_eq_true] at hchecks
      obtain ⟨user', huser', hchecks⟩ := hchecks
      rw [huser'] at hfound
      exact h (reachable_of_checksCode (Option.some.inj hfound) (hdeployed call List.mem_cons_self) hemail hchecks)
    rw [codeTimes, timesAlong, hfirst]
    exact hrest

/-- Where it can be reached, a guess at an instant has its code checked, and
leaves only its event. -/
theorem exists_guess (h : user.Reachable env) (hfactor : user.twoFactorEnabled = true)
    (hcodes : ∀ secret, ∃ token, token ≠ "" ∧ env.verifyTotpToken secret token = false) {now : DateTime}
    (hunlocked : isLocked user.lockedUntil now = false) (hfound : s.staffUnder user.tenantId user.email = some user)
    (htenant : (s.tenants.find user.tenantId).isSome = true) :
    ∃ call row, call.env.now = now ∧ env.Deployed call.env ∧ call.Guesses user ∧
      s.Records ⟨user.tenantId, .staff, user.email⟩ call ∧ call.checksCode s = true ∧
      call.after s = prisma.loginEvent.insert row s := by
  obtain ⟨email, hemail⟩ := h.named
  obtain ⟨password, hpassword⟩ := h.password
  obtain ⟨secret, hsecret⟩ := h.secret
  obtain ⟨token, hne, hwrong⟩ := hcodes secret
  -- the id of the event is one that no event has
  obtain ⟨id, hid⟩ := Infinite.exists_notMem_finset (insert "" (s.loginEvents.rows.map LoginEvent.id).toFinset)
  rw [Finset.mem_insert, List.mem_toFinset, not_or] at hid
  have hfresh : s.loginEvents.find id = none :=
    Table.find_eq_none_iff.mpr (fun r hr hr' => hid.2 (List.mem_map.mpr ⟨r, hr, hr'⟩))
  let env' : Env := { env with now := now, cuid := fun _ => id, cuid_ne_empty := fun _ => hid.1 }
  let input : StaffLoginInput :=
    { tenantId := user.tenantId, email := email, password := password, totpToken := some token }
  have hdeployed : env.Deployed env' := ⟨rfl, rfl, rfl⟩
  have hsealed : ∀ secret', decryptSecret env' (user.twoFactorSecret.getD "") = .ok secret' → secret' = secret := by
    intro secret' hsecret'
    rw [hdeployed.decryptSecret, hsecret] at hsecret'
    exact (Except.ok.inj hsecret').symm
  have hrejected : ∀ token' secret', input.totpToken = some token' →
      decryptSecret env' (user.twoFactorSecret.getD "") = .ok secret' →
        env'.verifyTotpToken secret' token' = false := by
    intro token' secret' htoken' hsecret'
    cases htoken'
    rw [hsealed secret' hsecret']
    exact hwrong
  have huser : s.staffUnder input.tenantId (normalizeEmail input.email) = some user := by
    rw [← hfound, ← hemail]
  have hchecks : user.checksCode env' input = true :=
    checksCode_iff.mpr ⟨h.active, hunlocked, hpassword, hfactor, ⟨token, rfl, hne⟩, secret,
      (hdeployed.decryptSecret _).trans hsecret⟩
  obtain ⟨row, heval⟩ := eval_wrong_code huser hchecks hrejected htenant hfresh
  refine ⟨⟨env', .authenticateStaffUser input⟩, row, rfl, hdeployed, ?_, ⟨htenant, hfresh⟩, ?_, ?_⟩
  · exact ⟨input, token, rfl, rfl, hemail, hpassword, rfl, hne, fun secret' => hrejected token secret' rfl⟩
  · simp only [AccessCall.checksCode, huser, Option.any_some, hchecks]
  · exact congrArg Prod.fst (run_map_error heval)

/-- Any number of such guesses can follow one another at one instant. -/
theorem exists_guesses (h : user.Reachable env) (hfactor : user.twoFactorEnabled = true)
    (hcodes : ∀ secret, ∃ token, token ≠ "" ∧ env.verifyTotpToken secret token = false) {now : DateTime}
    (hunlocked : isLocked user.lockedUntil now = false) (n : ℕ)
    (hfound : s.staffUnder user.tenantId user.email = some user)
    (htenant : (s.tenants.find user.tenantId).isSome = true) :
    ∃ calls, GuessRun env user s calls ∧ (∀ call ∈ calls, call.env.now = now) ∧
      codeTimes s calls = List.replicate n now := by
  induction n generalizing s with
  | zero => exact ⟨[], ⟨List.Pairwise.nil, by simp, by simp, trivial⟩, by simp, rfl⟩
  | succ n ih =>
    obtain ⟨call, row, hnow, hdeployed, hguesses, hrecords, hchecks, hafter⟩ :=
      exists_guess h hfactor hcodes hunlocked hfound htenant
    obtain ⟨calls, hrun, htimes, hcodeTimes⟩ := ih (s := call.after s) (hafter ▸ hfound) (hafter ▸ htenant)
    refine ⟨call :: calls, ⟨?_, ?_, ?_, hrecords, hrun.records⟩, ?_, ?_⟩
    · refine List.pairwise_cons.mpr ⟨fun c hc => ?_, hrun.order⟩
      rw [hnow, htimes c hc]
    · exact List.forall_mem_cons.mpr ⟨hdeployed, hrun.deployed⟩
    · exact List.forall_mem_cons.mpr ⟨hguesses, hrun.guesses⟩
    · exact List.forall_mem_cons.mpr ⟨hnow, htimes⟩
    · rw [codeTimes, timesAlong, hchecks, if_pos rfl, hnow, List.replicate_succ]
      exact congrArg (List.cons now) hcodeTimes

/-- So fifteen minutes see any number of codes checked. -/
theorem codes_unbounded (h : user.Reachable env) (hfactor : user.twoFactorEnabled = true)
    (hcodes : ∀ secret, ∃ token, token ≠ "" ∧ env.verifyTotpToken secret token = false)
    (hfound : s.staffUnder user.tenantId user.email = some user)
    (htenant : (s.tenants.find user.tenantId).isSome = true) (n : ℕ) :
    ∃ calls, GuessRun env user s calls ∧
      ∃ start, (codeTimes s calls).countP (fun t => start ≤ t ∧ t < start + 15 * 60000) = n := by
  have hunlocked : isLocked user.lockedUntil (user.lockedUntil.getD 0) = false := by
    cases user.lockedUntil <;> simp [isLocked]
  obtain ⟨calls, hrun, _, htimes⟩ := exists_guesses h hfactor hcodes hunlocked n hfound htenant
  refine ⟨calls, hrun, user.lockedUntil.getD 0, ?_⟩
  rw [htimes, List.countP_replicate, if_pos]
  simp

end Runs

/-- The codes checked in fifteen minutes are bounded, however many logins are
made with the right password and a wrong code, exactly where no login can reach
the check. -/
theorem code_guesses_bounded_iff (env : Env) (s : Store) {user : StaffUser} (hfactor : user.twoFactorEnabled = true)
    (hfound : s.staffUnder user.tenantId user.email = some user)
    (htenant : (s.tenants.find user.tenantId).isSome = true)
    (hcodes : ∀ secret, ∃ token, token ≠ "" ∧ env.verifyTotpToken secret token = false) :
    (∃ N, ∀ calls, GuessRun env user s calls → ∀ start,
        (codeTimes s calls).countP (fun t => start ≤ t ∧ t < start + 15 * 60000) ≤ N) ↔
      ¬ user.Reachable env := by
  constructor
  · rintro ⟨N, hbound⟩ hreachable
    obtain ⟨calls, hrun, start, hcount⟩ := codes_unbounded hreachable hfactor hcodes hfound htenant (N + 1)
    have hle := hbound calls hrun start
    omega
  · intro hunreachable
    refine ⟨0, fun calls hrun start => ?_⟩
    have hnone : codeTimes s calls = [] :=
      codeTimes_eq_nil hunreachable (congrArg (Option.map StaffUser.standing) hfound) hrun.deployed hrun.guesses
    rw [hnone, List.countP_nil]

namespace Sample

/-- Surroundings whose encryption key has its 32 bytes. -/
def vault : Env :=
  { env "vault" with cipher := { (env "vault").cipher with fromBase64 := fun _ => List.replicate 32 0 } }

/-- A member of staff with a second factor, whose secret is stored as `text`. -/
def guarded (text : String) : StaffUser := { operator with twoFactorEnabled := true, twoFactorSecret := some text }

def guardedOffice (text : String) : Store :=
  { office with staffUsers := (∅ : Table StaffUser.id).insert (guarded text) }

theorem vault_rejects (secret : String) : ∃ token, token ≠ "" ∧ vault.verifyTotpToken secret token = false :=
  ⟨"000000", by decide, rfl⟩

end Sample

open Sample in
theorem code_guesses_unbounded :
    ¬ ∃ N, ∀ calls, GuessRun vault (guarded "iv.tag.data") (guardedOffice "iv.tag.data") calls → ∀ start,
      (codeTimes (guardedOffice "iv.tag.data") calls).countP (fun t => start ≤ t ∧ t < start + 15 * 60000) ≤ N := by
  have hreachable : (guarded "iv.tag.data").Reachable vault :=
    ⟨by decide, ⟨"staff@example.test", by decide +kernel⟩, ⟨"correct horse", by decide +kernel⟩, "secret", by rfl⟩
  rintro ⟨N, hbound⟩
  obtain ⟨calls, hrun, start, hcount⟩ := codes_unbounded (s := guardedOffice "iv.tag.data") hreachable rfl
    vault_rejects (by rfl) (by decide +kernel) (N + 1)
  have hle := hbound calls hrun start
  omega

open Sample in
/-- A secret that was cut off cannot be opened, and no code is checked. -/
theorem code_guesses_bounded_iff_cut :
    ∃ N, ∀ calls, GuessRun vault (guarded "iv") (guardedOffice "iv") calls → ∀ start,
      (codeTimes (guardedOffice "iv") calls).countP (fun t => start ≤ t ∧ t < start + 15 * 60000) ≤ N := by
  refine (code_guesses_bounded_iff vault (guardedOffice "iv") rfl (by rfl) (by decide +kernel) vault_rejects).mpr ?_
  rintro ⟨_, _, _, secret, hsecret⟩
  have hcut : decryptSecret vault ((guarded "iv").twoFactorSecret.getD "") = .error malformedCiphertext := by rfl
  rw [hcut] at hsecret
  cases hsecret

end HostPanel.Model
