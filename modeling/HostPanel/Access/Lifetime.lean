import HostPanel.Access.Sessions

namespace HostPanel.Model

open HostPanel.Lib HostPanel.Lib.Program

/-- Whom a session is asked for. -/
inductive SessionInput where
  | staff (input : StaffSessionInput)
  | client (input : ClientSessionInput)

namespace SessionInput

def op : SessionInput → AccessOp
  | staff input => .createStaffSession input
  | client input => .createClientSession input

/-- The validation of a token by the function for its kind. -/
def validation (token : String) : SessionInput → AccessOp
  | staff _ => .validateStaffSession token
  | client _ => .validateClientSession token

def null : SessionInput → AccessReply
  | staff _ => .staffActor none
  | client _ => .clientContext none

def ttlMs : SessionInput → ℤ
  | staff _ => sessionTtlMs
  | client input => input.ttlMs

/-- The answer reports the actor, and the impersonator, the session is for. -/
def Reports : SessionInput → AccessReply → Prop
  | staff input, .staffActor (some a) => a.id = input.userId
  | client input, .clientContext (some x) =>
    x.actor.id = input.contactId ∧ x.impersonatedByStaffUserId = input.impersonatedByStaffUserId
  | _, _ => False

/-- The session is in the tables, under the hash of its token. -/
def Stored (s : Store) (hash : String) (expiresAt : DateTime) : SessionInput → Prop
  | staff input => staffBearer.Held s hash ∧ ∃ r, staffBearer.sessionOf s hash = some r ∧
      r.userId = input.userId ∧ r.expiresAt = expiresAt
  | client input => clientBearer.Held s hash ∧ ∃ r, clientBearer.sessionOf s hash = some r ∧
      r.contactId = input.contactId ∧ r.impersonatedByStaffUserId = input.impersonatedByStaffUserId ∧
      r.expiresAt = expiresAt

/-- What validation answers. -/
def answer (s : Store) (now : DateTime) (hash : String) : SessionInput → AccessReply
  | staff _ => .staffActor (s.staffActorOf now hash)
  | client _ => .clientContext (s.clientContextOf now hash)

end SessionInput

section Issue

variable {s : Store} {env : Env} {token : String}

theorem createStaffSession_ok {input : StaffSessionInput} {c s' : Store}
    (h : (createStaffSession env input).eval s s = .ok (token, c, s')) :
    token = env.generateToken ∧ ∃ row : StaffSession, row.userId = input.userId ∧
      row.tokenHash = env.hashToken token ∧ row.expiresAt = env.now + sessionTtlMs ∧
      prisma.staffSession.Fresh row s ∧ prisma.staffSession.references row s = true ∧
      s' = prisma.staffSession.insert row s := by
  simp only [createStaffSession, transaction, bind_assoc, Relation.eval_create_bind, commit_bind, ret_bind,
    pure_eq_ret, eval_commit, eval_ret, Except.ok.injEq, Prod.mk.injEq] at h
  obtain ⟨hfresh, hrefs, rfl, _, rfl⟩ := h
  exact ⟨rfl, _, rfl, rfl, rfl, hfresh, hrefs, rfl⟩

theorem createClientSession_ok {input : ClientSessionInput} {c s' : Store}
    (h : (createClientSession env input).eval s s = .ok (token, c, s')) :
    token = env.generateToken ∧ ∃ row : ClientSession, row.contactId = input.contactId ∧
      row.tokenHash = env.hashToken token ∧ row.impersonatedByStaffUserId = input.impersonatedByStaffUserId ∧
      row.expiresAt = env.now + input.ttlMs ∧ prisma.clientSession.Fresh row s ∧
      prisma.clientSession.references row s = true ∧ s' = prisma.clientSession.insert row s := by
  simp only [createClientSession, transaction, bind_assoc, Relation.eval_create_bind, commit_bind, ret_bind,
    pure_eq_ret, eval_commit, eval_ret, Except.ok.injEq, Prod.mk.injEq] at h
  obtain ⟨hfresh, hrefs, rfl, _, rfl⟩ := h
  exact ⟨rfl, _, rfl, rfl, rfl, rfl, hfresh, hrefs, rfl⟩

theorem sessionOf_insert_staff {row : StaffSession} (h : prisma.staffSession.Fresh row s) :
    staffBearer.sessionOf (prisma.staffSession.insert row s) row.tokenHash = some row := by
  refine Bearer.sessionOf_of_append (s := s) (Table.insert_rows (Relation.find_of_fresh h)) ?_
  intro q hq hhash
  have hlock : Lock.staffTokenHash row.tokenHash ∈ prisma.staffSession.entries row :=
    List.mem_cons_of_mem _ List.mem_cons_self
  have hother : Lock.staffTokenHash q.tokenHash ∈ prisma.staffSession.entries q :=
    List.mem_cons_of_mem _ List.mem_cons_self
  rw [show q.tokenHash = row.tokenHash from hhash] at hother
  exact h.2 q hq _ hlock hother

theorem sessionOf_insert_client {row : ClientSession} (h : prisma.clientSession.Fresh row s) :
    clientBearer.sessionOf (prisma.clientSession.insert row s) row.tokenHash = some row := by
  refine Bearer.sessionOf_of_append (s := s) (Table.insert_rows (Relation.find_of_fresh h)) ?_
  intro q hq hhash
  have hlock : Lock.clientTokenHash row.tokenHash ∈ prisma.clientSession.entries row :=
    List.mem_cons_of_mem _ List.mem_cons_self
  have hother : Lock.clientTokenHash q.tokenHash ∈ prisma.clientSession.entries q :=
    List.mem_cons_of_mem _ List.mem_cons_self
  rw [show q.tokenHash = row.tokenHash from hhash] at hother
  exact h.2 q hq _ hlock hother

/-- A call that issues a token stores its session. -/
theorem SessionInput.stored_of_reply {input : SessionInput}
    (h : AccessCall.reply s ⟨env, input.op⟩ = .ok (.sessionToken token)) :
    input.Stored (AccessCall.after s ⟨env, input.op⟩) (env.hashToken token) (env.now + input.ttlMs) := by
  cases input with
  | staff input =>
    obtain ⟨_, c, ht, hev⟩ := map_ok (f := AccessReply.sessionToken) (p := createStaffSession env input) h
    cases ht
    obtain ⟨_, row, huser, hhash, hexpires, hfresh, hrefs, hafter⟩ := createStaffSession_ok hev
    have hfound := sessionOf_insert_staff hfresh
    obtain ⟨u, hu⟩ := Option.isSome_iff_exists.mp (Bool.and_eq_true_iff.mp hrefs).2
    rw [← hafter, hhash] at hfound
    have howner : (AccessCall.after s ⟨env, .createStaffSession input⟩).staffUsers.find row.userId = some u := by
      change (AccessReply.sessionToken <$> createStaffSession env input).after s = _ at hafter
      change ((AccessReply.sessionToken <$> createStaffSession env input).after s).staffUsers.find row.userId = some u
      rw [hafter]
      exact hu
    exact ⟨⟨row, u, hfound, howner⟩, row, hfound, huser, hexpires⟩
  | client input =>
    obtain ⟨_, c, ht, hev⟩ := map_ok (f := AccessReply.sessionToken) (p := createClientSession env input) h
    cases ht
    obtain ⟨_, row, hcontact, hhash, himp, hexpires, hfresh, hrefs, hafter⟩ := createClientSession_ok hev
    have hfound := sessionOf_insert_client hfresh
    obtain ⟨u, hu⟩ := Option.isSome_iff_exists.mp (Bool.and_eq_true_iff.mp hrefs).2
    rw [← hafter, hhash] at hfound
    have howner : (AccessCall.after s ⟨env, .createClientSession input⟩).clientContacts.find row.contactId =
        some u := by
      change (AccessReply.sessionToken <$> createClientSession env input).after s = _ at hafter
      change ((AccessReply.sessionToken <$> createClientSession env input).after s).clientContacts.find row.contactId =
        some u
      rw [hafter]
      exact hu
    exact ⟨⟨row, u, hfound, howner⟩, row, hfound, hcontact, himp, hexpires⟩

end Issue

section Lifetime

variable {H : String → Prop} {s s' : Store} {hash : String} {now now' expiresAt : DateTime} {input : SessionInput}

theorem SessionInput.Stored.ages (hs : input.Stored s hash expiresAt) (h : s.Ages H s') :
    input.Stored s' hash expiresAt := by
  cases input with
  | staff input =>
    obtain ⟨hheld, r, hr, huser, hexpires⟩ := hs
    obtain ⟨r', hr', hage⟩ := h.staffSession hr
    exact ⟨hheld.step h.staffExpires, r', hr', hage.userId.trans huser, hage.expiresAt.trans hexpires⟩
  | client input =>
    obtain ⟨hheld, r, hr, hcontact, himp, hexpires⟩ := hs
    obtain ⟨r', hr', hage⟩ := h.clientSession hr
    exact ⟨hheld.step h.clientExpires, r', hr', hage.contactId.trans hcontact,
      hage.impersonatedByStaffUserId.trans himp, hage.expiresAt.trans hexpires⟩

/-- A session that validates to null does so ever after. -/
theorem SessionInput.Stored.null_later (hs : input.Stored s hash expiresAt) (h : s.Ages H s') (hle : now ≤ now')
    (hnull : input.answer s now hash = input.null) : input.answer s' now' hash = input.null := by
  cases input with
  | staff input =>
    have hrefused : staffBearer.accepts s now hash = none :=
      Option.map_eq_none_iff.mp (AccessReply.staffActor.inj hnull)
    have hlater := Bearer.refused_later hs.1 h.staffExpires hle hrefused
    exact congrArg AccessReply.staffActor (Option.map_eq_none_iff.mpr hlater)
  | client input =>
    have hrefused : clientBearer.accepts s now hash = none :=
      Option.map_eq_none_iff.mp (AccessReply.clientContext.inj hnull)
    have hlater := Bearer.refused_later hs.1 h.clientExpires hle hrefused
    exact congrArg AccessReply.clientContext (Option.map_eq_none_iff.mpr hlater)

/-- A session that validates to an actor reports whom it is for, before its end. -/
theorem SessionInput.Stored.reports (hs : input.Stored s hash expiresAt) (now : DateTime) :
    input.answer s now hash = input.null ∨ (input.Reports (input.answer s now hash) ∧ now ≤ expiresAt) := by
  cases input with
  | staff input =>
    obtain ⟨_, r, hr, huser, hexpires⟩ := hs
    cases hacc : staffBearer.accepts s now hash with
    | none => exact Or.inl (congrArg AccessReply.staffActor (Option.map_eq_none_iff.mpr hacc))
    | some x =>
      obtain ⟨q, u⟩ := x
      obtain ⟨hq, hlive, hu, _⟩ := Bearer.accepts_eq_some_iff.mp hacc
      cases hr.symm.trans hq
      have hid : u.id = input.userId := (Table.key_of_find hu).trans huser
      have hend : ¬ r.expiresAt < now := by
        simpa [staffBearer, StaffSession.isLive] using (Bool.and_eq_true_iff.mp hlive).2
      rw [hexpires, not_lt] at hend
      refine Or.inr ⟨?_, hend⟩
      rw [SessionInput.answer, Store.staffActorOf, hacc]
      exact hid
  | client input =>
    obtain ⟨_, r, hr, hcontact, himp, hexpires⟩ := hs
    cases hacc : clientBearer.accepts s now hash with
    | none => exact Or.inl (congrArg AccessReply.clientContext (Option.map_eq_none_iff.mpr hacc))
    | some x =>
      obtain ⟨q, c⟩ := x
      obtain ⟨hq, hlive, hc, _⟩ := Bearer.accepts_eq_some_iff.mp hacc
      cases hr.symm.trans hq
      have hid : c.id = input.contactId := (Table.key_of_find hc).trans hcontact
      have hend : ¬ r.expiresAt < now := by
        simpa [clientBearer, ClientSession.isLive] using (Bool.and_eq_true_iff.mp hlive).2
      rw [hexpires, not_lt] at hend
      refine Or.inr ⟨?_, hend⟩
      rw [SessionInput.answer, Store.clientContextOf, hacc]
      exact ⟨hid, himp⟩

end Lifetime

theorem reply_validation {call : AccessCall} {input : SessionInput} {token : String}
    (h : call.op = input.validation token) (s : Store) :
    call.reply s = .ok (input.answer s call.env.now (call.env.hashToken token)) := by
  obtain ⟨env, op⟩ := call
  cases h
  cases input with
  | staff input => exact reply_validateStaffSession s env token
  | client input => exact reply_validateClientSession s env token

/-- After its issue a token is validated to null, or to whom it is for and
before its end; and once to null, then ever after. -/
theorem session_never_revives {hash : String → String} {env : Env} {input : SessionInput} {token : String} (s : Store)
    (hissue : AccessCall.reply s ⟨env, input.op⟩ = .ok (.sessionToken token)) (calls : List AccessCall)
    (hhash : AccessCall.Hashing hash (⟨env, input.op⟩ :: calls)) (horder : AccessCall.InOrder env.now calls) :
    ∀ before check later, calls = before ++ check :: later → check.op = input.validation token →
      (check.reply (runAccess (AccessCall.after s ⟨env, input.op⟩) before) = .ok input.null ∨
        ∃ reply, check.reply (runAccess (AccessCall.after s ⟨env, input.op⟩) before) = .ok reply ∧
          input.Reports reply ∧ check.env.now ≤ env.now + input.ttlMs) ∧
      (check.reply (runAccess (AccessCall.after s ⟨env, input.op⟩) before) = .ok input.null →
        ∀ between again rest, later = between ++ again :: rest → again.op = input.validation token →
          again.reply (runAccess (AccessCall.after s ⟨env, input.op⟩) (before ++ check :: between)) =
            .ok input.null) := by
  intro before check later hcalls hcheck
  have hstored := SessionInput.stored_of_reply hissue
  have hat := hstored.ages (ages_runAccess _ before)
  have hsame : ∀ call ∈ calls, call.env.hashToken token = env.hashToken token := by
    intro call hcall
    rw [hhash call (List.mem_cons_of_mem _ hcall), hhash ⟨env, input.op⟩ List.mem_cons_self]
  rw [reply_validation hcheck, hsame check (by simp [hcalls])]
  refine ⟨?_, fun hnull between again rest hlater hagain => ?_⟩
  · obtain hnull | ⟨hreports, hend⟩ := hat.reports check.env.now
    · exact Or.inl (congrArg Except.ok hnull)
    · exact Or.inr ⟨_, rfl, hreports, hend⟩
  · have hle : check.env.now ≤ again.env.now := by
      rw [AccessCall.InOrder, hcalls, hlater] at horder
      have hsplit := (List.pairwise_cons.mp horder).2
      rw [List.map_append, List.pairwise_append, List.map_cons, List.pairwise_cons] at hsplit
      exact hsplit.2.1.1 again.env.now (List.mem_map.mpr ⟨again, by simp, rfl⟩)
    have hages : (runAccess (AccessCall.after s ⟨env, input.op⟩) before).Ages (AccessCall.Drew (check :: between))
        (runAccess (AccessCall.after s ⟨env, input.op⟩) (before ++ check :: between)) := by
      rw [runAccess_append]
      exact ages_runAccess _ (check :: between)
    rw [reply_validation hagain, hsame again (by simp [hcalls, hlater])]
    exact congrArg Except.ok (hat.null_later hages hle (Except.ok.inj hnull))

namespace Sample

def signIn : SessionInput := .staff { userId := "staff", tenantId := "tenant" }

def signOff : AccessCall := ⟨moment "b" 5, .revokeStaffSession "token-a" "user_logout"⟩

/-- A request with the token of the first call. -/
def request (now : DateTime) : AccessCall := ⟨moment "c" now, .validateStaffSession "token-a"⟩

end Sample

open Sample in
theorem session_never_revives_revoked :
    (request 20).reply (runAccess (AccessCall.after office ⟨moment "a" 0, signIn.op⟩) ([signOff] ++ [request 10])) =
      .ok (.staffActor none) := by
  have hissue : AccessCall.reply office ⟨moment "a" 0, signIn.op⟩ = .ok (.sessionToken "token-a") := by decide +kernel
  have hnull : (request 10).reply (runAccess (AccessCall.after office ⟨moment "a" 0, signIn.op⟩) [signOff]) =
      .ok signIn.null := by decide +kernel
  have hhash : AccessCall.Hashing (fun token => "hash-" ++ token)
      [⟨moment "a" 0, signIn.op⟩, signOff, request 10, request 20] := by
    simp [AccessCall.Hashing, signOff, request, moment, env]
  exact (session_never_revives office hissue [signOff, request 10, request 20] hhash (by decide) [signOff] (request 10)
    [request 20] rfl rfl).2 hnull [] (request 20) [] rfl rfl

end HostPanel.Model
