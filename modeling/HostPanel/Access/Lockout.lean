import HostPanel.Lib.Lockout
import HostPanel.Access.Attempts

namespace HostPanel.Model

open HostPanel.Lib HostPanel.Lib.Program

/-- The times at which the attempts of a run compare a wrong password. -/
abbrev wrongTimes (key : LoginKey) (s : Store) (calls : List AccessCall) : List DateTime :=
  timesAlong AccessCall.after (fun call => call.env.now) (AccessCall.comparesWrong key) s calls

/-- The wrong password that makes five is compared while five failures are on
record without it. -/
def AccessCall.LocksInTime (key : LoginKey) (s : Store) (call : AccessCall) : Prop :=
  call.comparesWrong key s = true →
    maxFailedAttempts - 1 ≤ s.wrongPasswords key (call.env.now - lockoutWindowMinutes * 60000) →
      maxFailedAttempts ≤ s.failures key (call.env.now - lockoutWindowMinutes * 60000)

instance (key : LoginKey) (s : Store) (call : AccessCall) : Decidable (call.LocksInTime key s) :=
  inferInstanceAs (Decidable (_ → _ → _))

/-- The account is locked until an instant. -/
def Store.Locked (s : Store) (key : LoginKey) (stop : DateTime) : Prop :=
  ∃ account, s.accountOf key = some account ∧ account.lockedUntil = some stop

/-- A login attempt on the key that can be recorded, and meets the condition. -/
structure AccessCall.Tries (key : LoginKey) (s : Store) (call : AccessCall) : Prop where
  on : call.loginKey? = some key
  records : s.Records key call
  locks : call.LocksInTime key s

theorem isLocked_of_lt {account : LoginAccount} {stop now : DateTime} (h : account.lockedUntil = some stop)
    (hlt : now < stop) : isLocked account.lockedUntil now = true := by
  simp [isLocked, h, hlt]

/-- The login guard is a lockout. -/
theorem lockout_login (key : LoginKey) :
    Lockout AccessCall.after (fun call => call.env.now) (AccessCall.comparesWrong key) (AccessCall.Tries key)
      (fun s since => s.wrongPasswords key since) (fun s stop => s.Locked key stop) (maxFailedAttempts - 1)
      (lockoutWindowMinutes * 60000) (lockoutDurationMinutes * 60000) where
  grows s call since htries := (logs_attempt htries.on).events.sublist.countP_le
  records s call since htries hwrong hle := by
    obtain ⟨t, row, hafter, hevents, hid, hcounts, _⟩ := recorded_of_wrong htries.on htries.records hwrong
    have hfresh : t.loginEvents.find row.id = none := by
      rw [hevents, hid]
      exact htries.records.fresh
    have hrows : (call.after s).loginEvents.rows = s.loginEvents.rows ++ [row] := by
      rw [hafter, ← hevents]
      exact Table.insert_rows hfresh
    have hrow : row.isWrongPassword key since = true := (hcounts since).trans (decide_eq_true hle)
    simp only [Store.wrongPasswords, hrows, List.countP_append, List.countP_singleton, hrow, if_true]
    exact le_rfl
  closes s call htries hwrong hcount := by
    obtain ⟨t, row, hafter, _, _, _, hlocks⟩ := recorded_of_wrong htries.on htries.records hwrong
    obtain ⟨account, haccount, hlocked⟩ := hlocks (htries.locks hwrong hcount)
    rw [hafter]
    exact ⟨account, haccount, hlocked⟩
  keeps s call stop htries hlocked hlt := by
    obtain ⟨account, haccount, huntil⟩ := hlocked
    obtain ⟨row, hrun⟩ := refused_of_locked htries.on htries.records haccount (isLocked_of_lt huntil hlt)
    have hafter : call.after s = prisma.loginEvent.insert row s := congrArg Prod.fst hrun
    rw [hafter]
    exact ⟨account, haccount, huntil⟩
  refuses s call stop hlocked hlt := by
    obtain ⟨account, haccount, huntil⟩ := hlocked
    have hrejects : account.rejects call = false := by
      simp [LoginAccount.rejects, isLocked_of_lt huntil hlt]
    rw [AccessCall.comparesWrong, haccount, Option.any_some, hrejects]

/-- In every run of login attempts on one key that meet the condition, the fifth
wrong password within fifteen minutes locks the account for fifteen minutes,
whatever password is tried, and so no fifteen minutes see a sixth one. -/
theorem five_failures_lock_out (key : LoginKey) (s : Store) (calls : List AccessCall)
    (hkey : ∀ call ∈ calls, call.loginKey? = some key)
    (horder : calls.Pairwise (fun call call' => call.env.now ≤ call'.env.now))
    (hrecords : AlongRun AccessCall.after (fun s call => s.Records key call) s calls)
    (hlocks : AlongRun AccessCall.after (fun s call => call.LocksInTime key s) s calls) :
    (∀ before call between last later, calls = before ++ call :: between ++ last :: later →
      call.comparesWrong key (runAccess s before) = true →
      4 ≤ (wrongTimes key s before).countP (fun t => call.env.now - 15 * 60000 ≤ t) →
      last.env.now < call.env.now + 15 * 60000 →
      last.reply (runAccess s (before ++ call :: between)) = .error invalidCredentials ∧
        last.comparesWrong key (runAccess s (before ++ call :: between)) = false) ∧
    ∀ start, (wrongTimes key s calls).countP (fun t => start ≤ t ∧ t < start + 15 * 60000) ≤ 5 := by
  have htries : AlongRun AccessCall.after (AccessCall.Tries key) s calls := by
    have hon : AlongRun AccessCall.after (fun _ call => call.loginKey? = some key) s calls :=
      alongRun_of_mem (fun call hcall _ => hkey call hcall)
    exact (hon.and (hrecords.and hlocks)).imp (fun _ _ h => ⟨h.1, h.2.1, h.2.2⟩)
  refine ⟨?_, (lockout_login key).at_most le_rfl htries horder⟩
  rintro before call between last later rfl hwrong hfour hlt
  obtain ⟨hrun, hlast, _⟩ := alongRun_append.mp htries
  have htimes : ∀ c ∈ between, c.env.now < call.env.now + 15 * 60000 := by
    intro c hc
    have hle : c.env.now ≤ last.env.now :=
      (List.pairwise_append.mp horder).2.2 c (by simp [hc]) last List.mem_cons_self
    exact lt_of_le_of_lt hle hlt
  have hclosed := (lockout_login key).closed_after hrun hwrong hfour htimes
  refine ⟨?_, (lockout_login key).refuses _ last _ hclosed hlt⟩
  obtain ⟨account, haccount, huntil⟩ := hclosed
  obtain ⟨row, hreply⟩ := refused_of_locked hlast.on hlast.records haccount (isLocked_of_lt huntil hlt)
  exact congrArg Prod.snd hreply

namespace Sample

def staffKey : LoginKey := ⟨"tenant", .staff, "staff@example.test"⟩

def contactKey : LoginKey := ⟨"tenant", .clientContact, "client@example.test"⟩

/-- An attempt with a password at an instant. -/
def tryStaff (now : ℕ) (password : String) : AccessCall :=
  ⟨moment (toString now) now, .authenticateStaffUser
    { tenantId := "tenant", email := "staff@example.test", password := password }⟩

def tryContact (now : ℕ) (password : String) : AccessCall :=
  ⟨moment (toString now) now, .authenticateClientContact
    { tenantId := "tenant", email := "client@example.test", password := password }⟩

def wrongTries (try_ : ℕ → String → AccessCall) (n : ℕ) : List AccessCall :=
  (List.range n).map (fun i => try_ i "wrong")

/-- The office, its member of staff locked out until 1. -/
def lockedOffice : Store :=
  { office with staffUsers := (∅ : Table StaffUser.id).insert { operator with lockedUntil := some 1 } }

end Sample

open Sample in
theorem sixth_attempt_let_in :
    ((wrongTimes staffKey office (wrongTries tryStaff 5)).length = 5 ∧
      (tryStaff 5 "correct horse").program.completes (runAccess office (wrongTries tryStaff 5)) = true ∧
      (wrongTimes staffKey office (wrongTries tryStaff 6)).countP (fun t => 0 ≤ t ∧ t < 0 + 15 * 60000) = 6) ∧
    (wrongTimes contactKey office (wrongTries tryContact 5)).length = 5 ∧
      (tryContact 5 "correct horse").program.completes (runAccess office (wrongTries tryContact 5)) = true ∧
      (wrongTimes contactKey office (wrongTries tryContact 6)).countP (fun t => 0 ≤ t ∧ t < 0 + 15 * 60000) = 6 := by
  decide +kernel

open Sample in
/-- The attempt refused at 0 is on record when the fifth wrong password comes. -/
theorem five_failures_lock_out_early :
    (wrongTimes staffKey lockedOffice (wrongTries tryStaff 6)).length = 5 ∧
      (tryStaff 6 "correct horse").reply (runAccess lockedOffice (wrongTries tryStaff 6)) =
        .error invalidCredentials := by
  refine ⟨by decide +kernel, ?_⟩
  have hlocked := (five_failures_lock_out staffKey lockedOffice (wrongTries tryStaff 6 ++ [tryStaff 6 "correct horse"])
    (by decide +kernel) (by decide +kernel) (by decide +kernel) (by decide +kernel)).1
  exact (hlocked (wrongTries tryStaff 5) (tryStaff 5 "wrong") [] (tryStaff 6 "correct horse") [] rfl (by decide +kernel)
    (by decide +kernel) (by decide +kernel)).1

end HostPanel.Model
