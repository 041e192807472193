import HostPanel.Lib.Rely
import HostPanel.Access.Sessions

namespace HostPanel.Model

open HostPanel.Lib HostPanel.Lib.Program

/-- The staff user is there and may not be used. -/
def Store.Disabled (userId : Id) (s : Store) : Prop :=
  ∃ r, s.staffUsers.find userId = some r ∧ r.isActive = false

theorem Store.Disabled.ages {H : String → Prop} {s t : Store} {userId : Id} (hd : s.Disabled userId) (h : s.Ages H t) :
    t.Disabled userId := by
  obtain ⟨r, hr, hinactive⟩ := hd
  obtain ⟨r', hr', hage⟩ := h.staffUser hr
  exact ⟨r', hr', hage.inactive hinactive⟩

variable {H : String → Prop} {env : Env} {userId : Id} {b : Store} {E : Failure → Prop}

section Updates

variable {α ρ ι : Type} [DecidableEq ι] {key : ρ → ι} {R : Relation key} {rel : Store → Store → Prop}
  {Q : α → Store → Prop}

theorem relies_transaction_update_bind {i : ι} {f : ρ → ρ} {hf : ∀ r, key (f r) = key r} {k : ρ → Db α}
    (hfound : ∀ v, rel b v → ∃ r, (R.get v).find i = some r)
    (hk : ∀ r v, rel b v → (k r).Relies rel Q E false v) :
    (transaction (R.update i f hf) >>= k).Relies rel Q E false b := by
  intro v hv
  obtain ⟨r, hr⟩ := hfound v hv
  have hmodified : (R.get (R.modify i f hf v)).find i = some (f r) := Relation.find_modify hf hr
  simp only [hr, hmodified]
  exact hk (f r) v hv

end Updates

theorem disabled_modify {f : StaffUser → StaffUser} {hf : ∀ r, (f r).id = r.id} (h : ∀ r, (f r).isActive = false)
    {s : Store} {r : StaffUser} (hr : s.staffUsers.find userId = some r) :
    (prisma.staffUser.modify userId f hf s).Disabled userId :=
  ⟨f r, Relation.find_modify (R := prisma.staffUser) hf hr, h r⟩

/-- The first write of `disableStaffUser` disables the user it found. -/
theorem promises_disableStaffUser (actor : StaffActor) (b : Store) :
    (disableStaffUser env actor userId).Promises (Store.Ages H) (Store.Disabled userId) false b := by
  unfold disableStaffUser requirePermission ensure
  split
  swap
  · trivial
  intro v eff _ hs
  obtain ⟨r, hr, rfl⟩ := Relation.effect_of_update (R := prisma.staffUser) hs
  refine ⟨fun _ t ht => ?_, promises_of_done _ _⟩
  obtain ⟨r', hr', _⟩ := ht.staffUser hr
  exact disabled_modify (fun _ => rfl) hr'

/-- The actor of another user, or none. -/
theorem relies_loadStaffActor {id : Id} {Q : Option StaffActor → Store → Prop} (hb : b.Disabled userId)
    (hnone : ∀ v, Q none v) (hother : id ≠ userId → ∀ v, b.Ages H v → ∀ a, Q (some a) v) :
    (loadStaffActor id).Relies (Store.Ages H) Q E false b := by
  intro v hv
  cases hu : (v.staffUsers.find id).filter StaffUser.isActive with
  | none =>
    change (staffActor ((v.staffUsers.find id).filter StaffUser.isActive)).Relies _ Q E false v
    rw [hu]
    exact hnone v
  | some user =>
    obtain ⟨hfound, hactive⟩ := Option.filter_eq_some_iff.mp hu
    have hne : id ≠ userId := by
      rintro rfl
      obtain ⟨r, hr, hinactive⟩ := hb.ages hv
      cases hr.symm.trans hfound
      rw [hinactive] at hactive
      cases hactive
    change (staffActor ((v.staffUsers.find id).filter StaffUser.isActive)).Relies _ Q E false v
    rw [hu]
    exact fun w hw => hother hne w (hv.trans hw) _

/-- A session of another user under the hash. -/
def Store.HasOther (userId : Id) (hash : String) (s : Store) : Prop :=
  ∃ r ∈ s.staffSessions, r.tokenHash = hash ∧ r.userId ≠ userId

theorem relies_validateStaffSession (token : String) (hb : b.Disabled userId) :
    (validateStaffSession env token).Relies (Store.Ages H)
      (fun actor v => actor = none ∨ v.HasOther userId (env.hashToken token)) E false b := by
  intro v hv
  have hdisabled := hb.ages hv
  cases hs : (v.staffSessions.rows.find? (fun r => r.tokenHash == env.hashToken token)).filter
      (StaffSession.isLive env.now) with
  | none =>
    change (useStaffSession env ((v.staffSessions.rows.find? (fun r => r.tokenHash == env.hashToken token)).filter
      (StaffSession.isLive env.now))).Relies _ _ E false v
    rw [hs]
    exact Or.inl rfl
  | some session =>
    have hfound := (Option.filter_eq_some_iff.mp hs).1
    have hmem := List.mem_of_find?_eq_some hfound
    have hhash : session.tokenHash = env.hashToken token := by simpa using List.find?_some hfound
    change (useStaffSession env ((v.staffSessions.rows.find? (fun r => r.tokenHash == env.hashToken token)).filter
      (StaffSession.isLive env.now))).Relies _ _ E false v
    rw [hs]
    refine relies_transaction_update_bind (fun w hw => ?_) (fun _ w hw => ?_)
    · obtain ⟨r, hr, _⟩ := Table.find_of_grown hw.staffSessions (fun _ _ hq => hq.id) (Table.find_of_mem hmem)
      exact ⟨r, hr⟩
    · refine relies_loadStaffActor (hdisabled.ages hw) (fun _ => Or.inl rfl) (fun hne x hx _ => Or.inr ?_)
      obtain ⟨r, hr, hage⟩ := (hw.trans hx).staffSessions.mem hmem
      exact ⟨r, hr, hage.tokenHash.trans hhash, fun he => hne (hage.userId.symm.trans he)⟩

theorem returns_failLogin {α : Type} {Q : α → Prop} (actorType : AuthActorType) (actorId : Option Id)
    (input : LoginInput) (email reason : String) : (failLogin env actorType actorId input email reason).Returns Q :=
  Returns.bind _ (fun _ => trivial)

theorem returns_checkStaffPassword (input : StaffLoginInput) (email : String) (user : StaffUser) :
    (checkStaffPassword env input email user).Returns (fun staff => staff.id = user.id) := by
  unfold checkStaffPassword
  split
  · refine Returns.bind _ (fun _ => Returns.bind _ (fun _ => Returns.bind _ (fun _ => ?_)))
    exact rfl
  · refine Returns.bind _ (fun _ => Returns.bind _ (fun _ => ?_))
    exact returns_failLogin _ _ _ _ _

theorem returns_checkStaffAccount (input : StaffLoginInput) (email : String) {found : Option StaffUser}
    (h : ∀ user, found = some user → user.isActive = true → user.id ≠ userId) :
    (checkStaffAccount env input email found).Returns (fun staff => staff.id ≠ userId) := by
  cases found with
  | none => exact returns_failLogin _ _ _ _ _
  | some user =>
    rw [checkStaffAccount]
    by_cases hinactive : user.isActive = false
    · rw [if_pos hinactive]
      exact returns_failLogin _ _ _ _ _
    have hne := h user rfl ((Bool.not_eq_false _).mp hinactive)
    rw [if_neg hinactive]
    by_cases hlocked : isLocked user.lockedUntil env.now = true
    · rw [if_pos hlocked]
      exact returns_failLogin _ _ _ _ _
    · rw [if_neg hlocked]
      exact (returns_checkStaffPassword input email user).mono (fun staff he hid => hne (he.symm.trans hid))

theorem relies_authenticateStaffUser (input : StaffLoginInput) (hb : b.Disabled userId) :
    (authenticateStaffUser env input).Relies (Store.Ages H) (fun staff _ => staff.id ≠ userId) (fun _ => True)
      false b := by
  intro v hv
  refine Returns.relies (returns_checkStaffAccount input _ ?_) (fun _ => trivial) false _
  intro user hfound hactive hid
  have hmem : user ∈ v.staffUsers := List.mem_of_find?_eq_some hfound
  obtain ⟨r, hr, hinactive⟩ := hb.ages hv
  have hsame := Table.find_of_mem hmem
  rw [hid] at hsame
  cases hr.symm.trans hsame
  rw [hinactive] at hactive
  cases hactive

section Calls

variable {call : AccessCall}

theorem AccessCall.promises_disabled {actor : StaffActor} (hop : call.op = .disableStaffUser actor userId) (b : Store) :
    call.program.Promises (Store.Ages H) (Store.Disabled userId) false b := by
  obtain ⟨env, op⟩ := call
  cases hop
  exact (promises_disableStaffUser actor b).bind (fun _ _ => trivial)

theorem AccessCall.relies_validation {token : String} (hop : call.op = .validateStaffSession token)
    (hb : b.Disabled userId) : call.program.Relies (Store.Ages H)
      (fun reply v => reply = .staffActor none ∨ v.HasOther userId (call.env.hashToken token)) E false b := by
  obtain ⟨env, op⟩ := call
  cases hop
  refine Relies.bind_ret ((relies_validateStaffSession token hb).mono (fun actor v h => h.imp_left ?_))
  exact congrArg AccessReply.staffActor

theorem AccessCall.relies_authentication {input : StaffLoginInput} (hop : call.op = .authenticateStaffUser input)
    (hb : b.Disabled userId) : call.program.Relies (Store.Ages H)
      (fun reply _ => ∀ staff, reply = .staff staff → staff.id ≠ userId) (fun _ => True) false b := by
  obtain ⟨env, op⟩ := call
  cases hop
  refine Relies.bind_ret ((relies_authenticateStaffUser input hb).mono (fun staff _ hne staff' he => ?_))
  cases he
  exact hne

end Calls

/-- The calls as programs of the machine. -/
abbrev accessMachine {ι : Type} (s : Store) (calls : ι → AccessCall) : Config ι Store Lock Failure AccessReply :=
  Config.start s (fun i => (calls i).program)

abbrev Store.Aged : Store → Store → Prop := Store.Ages (fun _ => True)

section Machine

variable {ι : Type} [Fintype ι] [DecidableEq ι]

open Config

theorem grows_access (s : Store) (calls : ι → AccessCall) (schedule : List (ι × Move Failure)) :
    ((accessMachine s calls).run schedule).Grows Store.Aged := by
  have hstart := grows_start Store.ages_refl (fun i => (calls i).aging (H := fun _ => True) trivial) s
  exact (grows_run Store.ages_refl (fun _ _ _ => Store.Ages.trans) hstart schedule).1

theorem disabled_of_committed (s : Store) (calls : ι → AccessCall) {d : ι} {actor : StaffActor} {userId : Id}
    (hd : (calls d).op = .disableStaffUser actor userId) (schedule : List (ι × Move Failure))
    (hcommitted : 0 < (((accessMachine s calls).run schedule).tasks d).commits) :
    ((accessMachine s calls).run schedule).db.Disabled userId := by
  have hstart : (accessMachine s calls).Promising Store.Aged (Store.Disabled userId) d :=
    Or.inr ⟨rfl, false, s, s.ages_refl, (calls d).promises_disabled hd s, fun _ => rfl, fun hf => nomatch hf⟩
  rcases promising_run Store.ages_refl (fun _ _ _ => Store.Ages.trans) (fun _ _ hst hs => hs.ages hst)
    (grows_start Store.ages_refl (fun i => (calls i).aging trivial) s) hstart schedule with hdone | ⟨hnone, _⟩
  · exact hdone
  · rw [hnone] at hcommitted
    exact absurd hcommitted (lt_irrefl 0)

/-- However the calls interleave, a call that starts after `disableStaffUser` has
committed neither validates a session of the user nor logs the user in. -/
theorem disabled_staff_locked_out (s : Store) (calls : ι → AccessCall) {d : ι} {actor : StaffActor} {userId : Id}
    (hd : (calls d).op = .disableStaffUser actor userId) (before later : List (ι × Move Failure))
    (hcommitted : 0 < (((accessMachine s calls).run before).tasks d).commits) :
    ∀ i, (∀ x ∈ before, x.1 ≠ i) →
      (∀ token, (calls i).op = .validateStaffSession token →
        (∀ r ∈ ((accessMachine s calls).run (before ++ later)).db.staffSessions,
          r.tokenHash = (calls i).env.hashToken token → r.userId = userId) →
        (∀ reply, (((accessMachine s calls).run (before ++ later)).tasks i).code = .ret reply →
          reply = .staffActor none) ∧
        ∀ e, (((accessMachine s calls).run (before ++ later)).tasks i).code = .raise e →
          (i, Move.abort e) ∈ later) ∧
      ∀ input, (calls i).op = .authenticateStaffUser input →
        ∀ staff, (((accessMachine s calls).run (before ++ later)).tasks i).code = .ret (.staff staff) →
          staff.id ≠ userId := by
  intro i hi
  have hdisabled := disabled_of_committed s calls hd before hcommitted
  have hgrows := grows_access s calls before
  have htask : ((accessMachine s calls).run before).tasks i = Task.start (calls i).program s :=
    run_frame hi _
  have hrun : (accessMachine s calls).run (before ++ later) = ((accessMachine s calls).run before).run later :=
    runFrom_append _ _ _
  have hwaiting : ∀ {Q : AccessReply → Store → Prop} {E : Failure → Prop},
      (calls i).program.Relies Store.Aged Q E false ((accessMachine s calls).run before).db →
        ((accessMachine s calls).run before).Relying Store.Aged Q E i := by
    intro Q E hrelies
    refine ⟨false, _, Store.ages_refl _, ?_⟩
    rw [htask]
    exact ⟨hrelies, fun _ => rfl⟩
  rw [hrun]
  constructor
  · intro token hop hsession
    have hrelying := relying_run Store.ages_refl (fun _ _ _ => Store.Ages.trans) hgrows
      (hwaiting ((calls i).relies_validation hop hdisabled)) later (fun e he => he)
    refine ⟨fun reply hreply => ?_, fun e he => hrelying.raised he⟩
    obtain ⟨v, hv, hnull | ⟨r, hr, hhash, hne⟩⟩ := hrelying.returned hreply
    · exact hnull
    · obtain ⟨r', hr', hage⟩ := hv.staffSessions.mem hr
      have huser := hsession r' hr' (hage.tokenHash.trans hhash)
      exact absurd (hage.userId.symm.trans huser) hne
  · intro input hop staff hstaff
    have hrelying := relying_run Store.ages_refl (fun _ _ _ => Store.Ages.trans) hgrows
      (hwaiting ((calls i).relies_authentication hop hdisabled)) later (fun _ _ => trivial)
    obtain ⟨v, _, hne⟩ := hrelying.returned hstaff
    exact hne staff rfl

end Machine

namespace Sample

/-- A disabling, and a session opened and used after it. -/
def lateSession : Fin 3 → AccessCall
  | 0 => ⟨moment "a" 0, .disableStaffUser staff "staff"⟩
  | 1 => ⟨moment "b" 1, .createStaffSession { userId := "staff", tenantId := "tenant" }⟩
  | 2 => ⟨moment "c" 2, .validateStaffSession "token-b"⟩

def disabling : List (Fin 3 × Move Failure) := List.replicate 4 (0, .advance)

def opening : List (Fin 3 × Move Failure) := List.replicate 2 (1, .advance) ++ List.replicate 5 (2, .advance)

end Sample

open Sample in
theorem disabled_staff_locked_out_late :
    ((accessMachine office lateSession).run (disabling ++ opening)).db.staffSessions.rows.map StaffSession.tokenHash =
        ["hash-token-b"] ∧
      (((accessMachine office lateSession).run (disabling ++ opening)).tasks 2).code.finished = true ∧
      ∀ reply, (((accessMachine office lateSession).run (disabling ++ opening)).tasks 2).code = .ret reply →
        reply = .staffActor none := by
  refine ⟨by decide +kernel, by decide +kernel, ?_⟩
  have howned : ∀ r ∈ ((accessMachine office lateSession).run (disabling ++ opening)).db.staffSessions,
      r.tokenHash = (lateSession 2).env.hashToken "token-b" → r.userId = "staff" := by
    simp only [Table.mem_def]
    decide +kernel
  exact ((disabled_staff_locked_out office lateSession (d := 0) rfl disabling opening (by decide +kernel) 2
    (by simp [disabling])).1 "token-b" rfl howned).1

end HostPanel.Model
