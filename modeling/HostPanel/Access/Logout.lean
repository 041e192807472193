import HostPanel.Access.Lifetime

namespace HostPanel.Model

open HostPanel.Lib HostPanel.Lib.Program

/-- The call is a logout of the browser that carries a session token. -/
def AccessOp.LogsOut (token : String) (op : AccessOp) : Prop :=
  ∃ jwt : Jwt, jwt.sessionToken = some token ∧ (op = .logoutAction (some jwt) ∨ op = .staffLogoutAction (some jwt))

/-- A call that validates the token, by either function, gets `null`. -/
def AccessCall.Refuses (token : String) (s : Store) (call : AccessCall) : Prop :=
  (call.op = .validateStaffSession token → call.reply s = .ok (.staffActor none)) ∧
    (call.op = .validateClientSession token → call.reply s = .ok (.clientContext none))

/-- What the foreign keys of the sessions promise. -/
structure Store.SessionsOwned (s : Store) : Prop where
  staff : ∀ r ∈ s.staffSessions, (s.staffUsers.find r.userId).isSome
  client : ∀ r ∈ s.clientSessions, (s.clientContacts.find r.contactId).isSome

/-- A session under the hash was revoked, is past its end, or its account may
no longer be used. -/
structure Store.SessionOver (s : Store) (now : DateTime) (hash : String) : Prop where
  staff : ∀ r, staffBearer.sessionOf s hash = some r →
    r.revokedAt ≠ none ∨ r.expiresAt < now ∨ ∀ u, s.staffUsers.find r.userId = some u → u.isActive = false
  client : ∀ r, clientBearer.sessionOf s hash = some r →
    r.revokedAt ≠ none ∨ r.expiresAt < now ∨ ∀ c, s.clientContacts.find r.contactId = some c → c.isActive = false

section Refusal

variable {s : Store} {now : DateTime} {hash token : String}

theorem StaffSession.not_isLive_iff {r : StaffSession} :
    r.isLive now = false ↔ r.revokedAt ≠ none ∨ r.expiresAt < now := by
  simp only [StaffSession.isLive, Bool.and_eq_false_iff, beq_eq_false_iff_ne, ne_eq, Bool.not_eq_false',
    decide_eq_true_eq]

theorem ClientSession.not_isLive_iff {r : ClientSession} :
    r.isLive now = false ↔ r.revokedAt ≠ none ∨ r.expiresAt < now := by
  simp only [ClientSession.isLive, Bool.and_eq_false_iff, beq_eq_false_iff_ne, ne_eq, Bool.not_eq_false',
    decide_eq_true_eq]

theorem sessionOver_iff : s.SessionOver now hash ↔
    staffBearer.accepts s now hash = none ∧ clientBearer.accepts s now hash = none := by
  rw [Bearer.accepts_eq_none_iff, Bearer.accepts_eq_none_iff]
  constructor
  · rintro ⟨hstaff, hclient⟩
    refine ⟨fun r hr => ?_, fun r hr => ?_⟩
    · obtain hrevoked | hexpired | howner := hstaff r hr
      · exact Or.inl (StaffSession.not_isLive_iff.mpr (Or.inl hrevoked))
      · exact Or.inl (StaffSession.not_isLive_iff.mpr (Or.inr hexpired))
      · exact Or.inr howner
    · obtain hrevoked | hexpired | howner := hclient r hr
      · exact Or.inl (ClientSession.not_isLive_iff.mpr (Or.inl hrevoked))
      · exact Or.inl (ClientSession.not_isLive_iff.mpr (Or.inr hexpired))
      · exact Or.inr howner
  · rintro ⟨hstaff, hclient⟩
    refine ⟨fun r hr => ?_, fun r hr => ?_⟩
    · rw [← or_assoc, ← StaffSession.not_isLive_iff]
      exact hstaff r hr
    · rw [← or_assoc, ← ClientSession.not_isLive_iff]
      exact hclient r hr

theorem refuses_iff {env : Env} {op : AccessOp} : AccessCall.Refuses token s ⟨env, op⟩ ↔
    (op = .validateStaffSession token → staffBearer.accepts s env.now (env.hashToken token) = none) ∧
      (op = .validateClientSession token → clientBearer.accepts s env.now (env.hashToken token) = none) := by
  constructor
  · rintro ⟨hstaff, hclient⟩
    refine ⟨fun hop => ?_, fun hop => ?_⟩
    · subst hop
      have hnull := hstaff rfl
      rw [reply_validateStaffSession, Except.ok.injEq, AccessReply.staffActor.injEq] at hnull
      exact Option.map_eq_none_iff.mp hnull
    · subst hop
      have hnull := hclient rfl
      rw [reply_validateClientSession, Except.ok.injEq, AccessReply.clientContext.injEq] at hnull
      exact Option.map_eq_none_iff.mp hnull
  · rintro ⟨hstaff, hclient⟩
    refine ⟨fun hop => ?_, fun hop => ?_⟩
    · cases hop
      rw [reply_validateStaffSession, Store.staffActorOf, hstaff rfl]
      rfl
    · cases hop
      rw [reply_validateClientSession, Store.clientContextOf, hclient rfl]
      rfl

end Refusal

section Later

variable {H : String → Prop} {s s' : Store} {now now' : DateTime} {hash : String}

/-- Where no session was added under the hash, none is found later that was not
found before. -/
theorem Store.Ages.sessionOf_none (h : s.Ages H s') (hH : ¬ H hash) :
    (staffBearer.sessionOf s hash = none → staffBearer.sessionOf s' hash = none) ∧
      (clientBearer.sessionOf s hash = none → clientBearer.sessionOf s' hash = none) := by
  simp only [Bearer.sessionOf, List.find?_eq_none, decide_eq_true_eq]
  constructor
  · intro hnone r hr hhash
    obtain hnew | ⟨q, hq, hsame⟩ := h.staffTokens r hr
    · exact hH (hhash ▸ hnew)
    · exact hnone q hq (hsame.trans hhash)
  · intro hnone r hr hhash
    obtain hnew | ⟨q, hq, hsame⟩ := h.clientTokens r hr
    · exact hH (hhash ▸ hnew)
    · exact hnone q hq (hsame.trans hhash)

theorem Store.Ages.staff_refused (h : s.Ages H s') (hH : ¬ H hash) (hs : s.SessionsOwned) (hle : now ≤ now')
    (hnone : staffBearer.accepts s now hash = none) : staffBearer.accepts s' now' hash = none := by
  cases hr : staffBearer.sessionOf s hash with
  | none =>
    refine Bearer.accepts_eq_none_iff.mpr (fun r hr' => ?_)
    rw [(h.sessionOf_none hH).1 hr] at hr'
    cases hr'
  | some r =>
    obtain ⟨u, hu⟩ := Option.isSome_iff_exists.mp (hs.staff r (List.mem_of_find?_eq_some hr))
    exact Bearer.refused_later ⟨r, u, hr, hu⟩ h.staffExpires hle hnone

theorem Store.Ages.client_refused (h : s.Ages H s') (hH : ¬ H hash) (hs : s.SessionsOwned) (hle : now ≤ now')
    (hnone : clientBearer.accepts s now hash = none) : clientBearer.accepts s' now' hash = none := by
  cases hr : clientBearer.sessionOf s hash with
  | none =>
    refine Bearer.accepts_eq_none_iff.mpr (fun r hr' => ?_)
    rw [(h.sessionOf_none hH).2 hr] at hr'
    cases hr'
  | some r =>
    obtain ⟨c, hc⟩ := Option.isSome_iff_exists.mp (hs.client r (List.mem_of_find?_eq_some hr))
    exact Bearer.refused_later ⟨r, c, hr, hc⟩ h.clientExpires hle hnone

end Later

theorem after_logout {token : String} {out : AccessCall} (hout : out.op.LogsOut token) (s : Store) :
    out.after s = s := by
  obtain ⟨env, op⟩ := out
  obtain ⟨jwt, _, rfl | rfl⟩ := hout <;> rfl

/-- After a logout its token is refused by every later validation exactly where
its session was over before. -/
theorem logout_ends_session_iff {token : String} {out : AccessCall} (hout : out.op.LogsOut token) (s : Store)
    (hs : s.SessionsOwned) :
    (∀ later check, AccessCall.Hashing out.env.hashToken (later ++ [check]) →
        AccessCall.InOrder out.env.now (later ++ [check]) →
        ¬ AccessCall.Drew later (out.env.hashToken token) →
        check.Refuses token (runAccess (out.after s) later)) ↔
      s.SessionOver out.env.now (out.env.hashToken token) := by
  rw [sessionOver_iff, after_logout hout]
  constructor
  · intro hrefuses
    have hrefused : ∀ op, AccessCall.Refuses token s ⟨out.env, op⟩ := by
      intro op
      refine hrefuses [] ⟨out.env, op⟩ ?_ ?_ ?_
      · simp [AccessCall.Hashing]
      · simp [AccessCall.InOrder]
      · simp [AccessCall.Drew]
    exact ⟨(refuses_iff.mp (hrefused (.validateStaffSession token))).1 rfl,
      (refuses_iff.mp (hrefused (.validateClientSession token))).2 rfl⟩
  · rintro ⟨hstaff, hclient⟩ later ⟨env, op⟩ hhash horder hdrew
    have hages := ages_runAccess s later
    have hsame : env.hashToken token = out.env.hashToken token :=
      congrFun (hhash ⟨env, op⟩ (by simp)) token
    have hle : out.env.now ≤ env.now := (List.pairwise_cons.mp horder).1 env.now (by simp)
    rw [refuses_iff, hsame]
    exact ⟨fun _ => hages.staff_refused hdrew hs hle hstaff, fun _ => hages.client_refused hdrew hs hle hclient⟩

namespace Sample

def loginForm : Credentials :=
  { email := "staff@example.test", password := "correct horse", actorType := .staff }

def cookie : Jwt := { actorType := some .staff, sessionToken := some "token-a" }

def visit : List AccessCall :=
  [⟨moment "a" 0, .authorize loginForm⟩, ⟨moment "b" 1, .staffLogoutAction (some cookie)⟩]

end Sample

open Sample in
/-- A copied cookie still works after the logout. -/
theorem logout_leaves_session :
    (∃ user, AccessCall.reply office ⟨moment "a" 0, .authorize loginForm⟩ = .ok (.sessionUser user) ∧
      user.jwt = cookie) ∧ ¬ (request 2).Refuses "token-a" (runAccess office visit) := by
  have haccepted : (request 2).reply (runAccess office visit) ≠ .ok (.staffActor none) := by decide +kernel
  exact ⟨⟨_, by rfl, rfl⟩, fun hrefuses => haccepted (hrefuses.1 rfl)⟩

namespace Sample

/-- Tables in which the session of the cookie was revoked. -/
def revoked : Store := runAccess office [⟨moment "a" 0, signIn.op⟩, signOff]

def goodbye : AccessCall := ⟨moment "b" 6, .staffLogoutAction (some cookie)⟩

end Sample

open Sample in
theorem logout_ends_revoked_session :
    (request 20).Refuses "token-a" (runAccess (goodbye.after revoked) [request 10]) := by
  have hout : goodbye.op.LogsOut "token-a" := ⟨cookie, rfl, Or.inr rfl⟩
  have howned : revoked.SessionsOwned :=
    ⟨by simp only [Table.mem_def]; decide +kernel, by simp only [Table.mem_def]; decide +kernel⟩
  have hover : revoked.SessionOver 6 "hash-token-a" :=
    sessionOver_iff.mpr ⟨Option.isNone_iff_eq_none.mp (by decide +kernel), Option.isNone_iff_eq_none.mp (by decide +kernel)⟩
  refine (logout_ends_session_iff hout revoked howned).mpr hover [request 10] (request 20) ?_ (by decide) ?_
  · simp [AccessCall.Hashing, goodbye, request, moment, env]
  · simp [AccessCall.Drew, goodbye, request, moment, env]

end HostPanel.Model
