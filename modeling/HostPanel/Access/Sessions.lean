import HostPanel.Lib.Bearer
import HostPanel.Access.Aging

namespace HostPanel.Model

open HostPanel.Lib HostPanel.Lib.Program

/-- What a call answers. -/
def AccessCall.reply (s : Store) (call : AccessCall) : Except Failure AccessReply := (call.program.run s).2

def staffBearer : Bearer Store StaffSession StaffUser DateTime String where
  sessions s := s.staffSessions.rows
  token r := r.tokenHash
  live := StaffSession.isLive
  account s r := s.staffUsers.find r.userId
  active := StaffUser.isActive

def clientBearer : Bearer Store ClientSession ClientContact DateTime String where
  sessions s := s.clientSessions.rows
  token r := r.tokenHash
  live := ClientSession.isLive
  account s r := s.clientContacts.find r.contactId
  active := ClientContact.isActive

/-- Whom a staff token stands for at an instant. -/
def Store.staffActorOf (s : Store) (now : DateTime) (hash : String) : Option StaffActor :=
  (staffBearer.accepts s now hash).map (fun x => x.2.actor (s.permissionsOf x.2.roleId))

def Store.clientContextOf (s : Store) (now : DateTime) (hash : String) : Option ClientSessionContext :=
  (clientBearer.accepts s now hash).map (fun x =>
    { actor := x.2.actor, impersonatedByStaffUserId := x.1.impersonatedByStaffUserId })

section Runs

variable {α β : Type} {s : Store} {env : Env}

theorem eval_transaction_update_bind {ρ ι : Type} [DecidableEq ι] {key : ρ → ι} {R : Relation key} {i : ι}
    {f : ρ → ρ} {hf : ∀ r, key (f r) = key r} {k : ρ → Db β} {r : ρ} (h : (R.get s).find i = some r) :
    (transaction (R.update i f hf) >>= k).eval s s = (k (f r)).eval (R.modify i f hf s) (R.modify i f hf s) := by
  have hr : (R.get (R.modify i f hf s)).find i = some (f r) := Relation.find_modify hf h
  simp only [transaction, bind_assoc, Relation.update, exec_bind, eval_exec, h, hr, ret_bind, commit_bind,
    eval_commit]

theorem run_loadStaffActor (s : Store) (userId : Id) :
    (loadStaffActor userId).eval s s =
      .ok (((s.staffUsers.find userId).filter StaffUser.isActive).map
        (fun u => u.actor (s.permissionsOf u.roleId)), s, s) := by
  change (staffActor ((s.staffUsers.find userId).filter StaffUser.isActive)).eval s s = _
  cases (s.staffUsers.find userId).filter StaffUser.isActive <;> rfl

theorem run_validateStaffSession (s : Store) (env : Env) (token : String) :
    ((validateStaffSession env token).run s).2 = .ok (s.staffActorOf env.now (env.hashToken token)) := by
  have hrun : (validateStaffSession env token).eval s s = (useStaffSession env
      ((staffBearer.sessionOf s (env.hashToken token)).filter (StaffSession.isLive env.now))).eval s s := rfl
  have hlive : staffBearer.live = StaffSession.isLive := rfl
  unfold run Store.staffActorOf Bearer.accepts
  rw [hrun, hlive]
  cases h : (staffBearer.sessionOf s (env.hashToken token)).filter (StaffSession.isLive env.now) with
  | none => rfl
  | some r =>
    have hmem : r ∈ s.staffSessions := List.mem_of_find?_eq_some (Option.filter_eq_some_iff.mp h).1
    rw [useStaffSession, eval_transaction_update_bind (Table.find_of_mem hmem), run_loadStaffActor, Option.bind_some,
      Option.map_map]
    rfl

theorem run_validateClientSession (s : Store) (env : Env) (token : String) :
    ((validateClientSession env token).run s).2 = .ok (s.clientContextOf env.now (env.hashToken token)) := by
  have hrun : (validateClientSession env token).eval s s = (useClientSession env
      ((clientBearer.sessionOf s (env.hashToken token)).filter (ClientSession.isLive env.now))).eval s s := rfl
  have hlive : clientBearer.live = ClientSession.isLive := rfl
  unfold run Store.clientContextOf Bearer.accepts
  rw [hrun, hlive]
  cases h : (clientBearer.sessionOf s (env.hashToken token)).filter (ClientSession.isLive env.now) with
  | none => rfl
  | some r =>
    have hmem : r ∈ s.clientSessions := List.mem_of_find?_eq_some (Option.filter_eq_some_iff.mp h).1
    have hmap : ∀ c : Option ClientContact, (c.map ClientContact.actor).map
        (fun a => (⟨a, r.impersonatedByStaffUserId⟩ : ClientSessionContext)) =
        (c.map (fun c => (r, c))).map (fun x => ⟨x.2.actor, x.1.impersonatedByStaffUserId⟩) := by
      intro c
      rw [Option.map_map, Option.map_map]
      rfl
    rw [useClientSession, eval_transaction_update_bind (Table.find_of_mem hmem), Option.bind_some, ← hmap]
    rfl

/-- A call that answers ran its service. -/
theorem map_ok {α β : Type} {f : α → β} {p : Db α} {s : Store} {b : β} (h : ((f <$> p).run s).2 = .ok b) :
    ∃ a c, f a = b ∧ p.eval s s = .ok (a, c, (f <$> p).after s) := by
  have hmap : (f <$> p) = (p >>= fun a => .ret (f a)) := rfl
  unfold Program.after
  unfold run at h ⊢
  rw [hmap, eval_bind] at h ⊢
  cases he : p.eval s s with
  | error x =>
    rw [he] at h
    cases h
  | ok out =>
    obtain ⟨a, c, s'⟩ := out
    rw [he] at h
    exact ⟨a, c, Except.ok.inj h, rfl⟩

theorem reply_map {α β : Type} (f : α → β) (p : Db α) (s : Store) : ((f <$> p).run s).2 = (p.run s).2.map f := by
  have hmap : (f <$> p) = (p >>= fun a => .ret (f a)) := rfl
  unfold run
  rw [hmap, eval_bind]
  cases p.eval s s <;> rfl

theorem reply_validateStaffSession (s : Store) (env : Env) (token : String) :
    AccessCall.reply s ⟨env, .validateStaffSession token⟩ =
      .ok (.staffActor (s.staffActorOf env.now (env.hashToken token))) := by
  refine (reply_map AccessReply.staffActor (validateStaffSession env token) s).trans ?_
  rw [run_validateStaffSession]
  rfl

theorem reply_validateClientSession (s : Store) (env : Env) (token : String) :
    AccessCall.reply s ⟨env, .validateClientSession token⟩ =
      .ok (.clientContext (s.clientContextOf env.now (env.hashToken token))) := by
  refine (reply_map AccessReply.clientContext (validateClientSession env token) s).trans ?_
  rw [run_validateClientSession]
  rfl

end Runs

section Ageing

variable {H : String → Prop} {s s' : Store} {now now' : DateTime}

theorem StaffSession.Ages.isLive {r r' : StaffSession} (h : r.Ages r') (hle : now ≤ now')
    (hlive : r'.isLive now' = true) : r.isLive now = true := by
  simp only [StaffSession.isLive, Bool.and_eq_true, beq_iff_eq, Bool.not_eq_true', decide_eq_false_iff_not] at hlive ⊢
  rw [h.expiresAt] at hlive
  refine ⟨?_, fun hlt => hlive.2 (lt_of_lt_of_le hlt hle)⟩
  by_contra hrevoked
  exact hrevoked ((h.revokedAt hrevoked).symm.trans hlive.1)

theorem ClientSession.Ages.isLive {r r' : ClientSession} (h : r.Ages r') (hle : now ≤ now')
    (hlive : r'.isLive now' = true) : r.isLive now = true := by
  simp only [ClientSession.isLive, Bool.and_eq_true, beq_iff_eq, Bool.not_eq_true', decide_eq_false_iff_not] at hlive ⊢
  rw [h.expiresAt] at hlive
  refine ⟨?_, fun hlt => hlive.2 (lt_of_lt_of_le hlt hle)⟩
  by_contra hrevoked
  exact hrevoked ((h.revokedAt hrevoked).symm.trans hlive.1)

theorem Store.Ages.staffUser (h : s.Ages H s') {id : Id} {u : StaffUser} (hu : s.staffUsers.find id = some u) :
    ∃ u', s'.staffUsers.find id = some u' ∧ u.Ages u' :=
  Table.find_of_grown h.staffUsers (fun _ _ hq => hq.id) hu

theorem Store.Ages.contact (h : s.Ages H s') {id : Id} {c : ClientContact} (hc : s.clientContacts.find id = some c) :
    ∃ c', s'.clientContacts.find id = some c' ∧ c.Ages c' :=
  Table.find_of_grown h.clientContacts (fun _ _ hq => hq.id) hc

theorem Store.Ages.staffSession (h : s.Ages H s') {hash : String} {r : StaffSession}
    (hr : staffBearer.sessionOf s hash = some r) : ∃ r', staffBearer.sessionOf s' hash = some r' ∧ r.Ages r' := by
  apply h.staffSessions.find? _ hr
  intro q q' hq
  change decide (q'.tokenHash = hash) = decide (q.tokenHash = hash)
  rw [hq.tokenHash]

theorem Store.Ages.clientSession (h : s.Ages H s') {hash : String} {r : ClientSession}
    (hr : clientBearer.sessionOf s hash = some r) : ∃ r', clientBearer.sessionOf s' hash = some r' ∧ r.Ages r' := by
  apply h.clientSessions.find? _ hr
  intro q q' hq
  change decide (q'.tokenHash = hash) = decide (q.tokenHash = hash)
  rw [hq.tokenHash]

theorem StaffUser.Ages.isActive {u u' : StaffUser} (h : u.Ages u') (hactive : u'.isActive = true) :
    u.isActive = true := by
  by_contra hinactive
  rw [h.inactive (Bool.not_eq_true _ ▸ hinactive)] at hactive
  cases hactive

theorem ClientContact.Ages.isActive {c c' : ClientContact} (h : c.Ages c') (hactive : c'.isActive = true) :
    c.isActive = true := by
  by_contra hinactive
  rw [h.inactive (Bool.not_eq_true _ ▸ hinactive)] at hactive
  cases hactive

theorem Store.Ages.staffExpires (h : s.Ages H s') : staffBearer.Expires s s' := by
  constructor
  intro hash r hr
  obtain ⟨r', hr', hage⟩ := h.staffSession hr
  refine ⟨r', hr', fun _ _ hle hlive => hage.isLive hle hlive, fun u hu => ?_⟩
  change s.staffUsers.find r.userId = some u at hu
  rw [← hage.userId] at hu
  obtain ⟨u', hu', hageUser⟩ := h.staffUser hu
  exact ⟨u', hu', hageUser.isActive⟩

theorem Store.Ages.clientExpires (h : s.Ages H s') : clientBearer.Expires s s' := by
  constructor
  intro hash r hr
  obtain ⟨r', hr', hage⟩ := h.clientSession hr
  refine ⟨r', hr', fun _ _ hle hlive => hage.isLive hle hlive, fun c hc => ?_⟩
  change s.clientContacts.find r.contactId = some c at hc
  rw [← hage.contactId] at hc
  obtain ⟨c', hc', hageContact⟩ := h.contact hc
  exact ⟨c', hc', hageContact.isActive⟩

end Ageing

end HostPanel.Model
