import HostPanel.Web.Links

namespace HostPanel.Model

open HostPanel.Lib HostPanel.Lib.Program

/-- The stored password of an account. -/
def Store.passwordOf (s : Store) (id : Id) : AuthActorType → Option String
  | .staff => (s.staffUsers.find id).map StaffUser.passwordHash
  | .clientContact => (s.clientContacts.find id).map ClientContact.passwordHash

/-- No account gets another password. -/
def Store.KeepsPasswords (s t : Store) : Prop :=
  ∀ id actorType hash, s.passwordOf id actorType = some hash → t.passwordOf id actorType = some hash

/-- The call sets the password of the account, through a link to it. -/
def ServiceCall.SetsPassword (call : ServiceCall) (s : Store) (actorType : AuthActorType) (id : Id) (hash : String) : Prop :=
  ∃ pc link, call.password? = some pc ∧ pc.Finds s link ∧ pc.actorType = actorType ∧ link.actorId = id ∧
    pc.env.hashPassword pc.newPassword = hash

section Frame

variable {s t : Store}

theorem passwordOf_of_keyring (h : t.keyring = s.keyring) (id : Id) (actorType : AuthActorType) :
    t.passwordOf id actorType = s.passwordOf id actorType := by
  simp only [Store.keyring, Prod.mk.injEq] at h
  cases actorType <;> simp only [Store.passwordOf, h]

theorem keepsPasswords_of_keyring (s : Store) {t : Store} (h : t.keyring = s.keyring) : s.KeepsPasswords t :=
  fun id actorType _ hhash => (passwordOf_of_keyring h id actorType).trans hhash

theorem Store.KeepsPasswords.trans {u : Store} (h : s.KeepsPasswords t) (h' : t.KeepsPasswords u) : s.KeepsPasswords u :=
  fun id actorType hash hhash => h' id actorType hash (h id actorType hash hhash)

theorem keepsPasswords_of_same (s : Store) {t : Store} (hstaff : t.staffUsers = s.staffUsers)
    (hcontacts : t.clientContacts = s.clientContacts) : s.KeepsPasswords t := by
  intro id actorType hash hhash
  cases actorType <;> simpa only [Store.passwordOf, hstaff, hcontacts] using hhash

theorem keepsPasswords_insertStaffUser (s : Store) (row : StaffUser) :
    s.KeepsPasswords (prisma.staffUser.insert row s) := by
  intro id actorType hash hhash
  cases actorType with
  | staff =>
    obtain ⟨user, huser, hsame⟩ := Option.map_eq_some_iff.mp hhash
    exact Option.map_eq_some_iff.mpr ⟨user, Table.find_insert_of_find huser, hsame⟩
  | clientContact => exact hhash

theorem keepsPasswords_insertContact (s : Store) (row : ClientContact) :
    s.KeepsPasswords (prisma.clientContact.insert row s) := by
  intro id actorType hash hhash
  cases actorType with
  | staff => exact hhash
  | clientContact =>
    obtain ⟨contact, hcontact, hsame⟩ := Option.map_eq_some_iff.mp hhash
    exact Option.map_eq_some_iff.mpr ⟨contact, Table.find_insert_of_find hcontact, hsame⟩

theorem keepsPasswords_modifyStaffUser (s : Store) (i : Id) (f : StaffUser → StaffUser) (hf : ∀ r, (f r).id = r.id)
    (h : ∀ r, (f r).passwordHash = r.passwordHash) : s.KeepsPasswords (prisma.staffUser.modify i f hf s) := by
  intro id actorType hash hhash
  cases actorType with
  | staff => exact (Table.find_modify_map s.staffUsers i f hf StaffUser.passwordHash h id).trans hhash
  | clientContact => exact hhash

theorem keepsPasswords_modifyContact (s : Store) (i : Id) (f : ClientContact → ClientContact)
    (hf : ∀ r, (f r).id = r.id) (h : ∀ r, (f r).passwordHash = r.passwordHash) :
    s.KeepsPasswords (prisma.clientContact.modify i f hf s) := by
  intro id actorType hash hhash
  cases actorType with
  | staff => exact hhash
  | clientContact =>
    exact (Table.find_modify_map s.clientContacts i f hf ClientContact.passwordHash h id).trans hhash

end Frame

theorem keptByRequests_passwords : KeptByRequests Store.KeepsPasswords where
  trans _ _ _ := .trans
  setup :=
    { refl := fun t => keepsPasswords_of_same t rfl rfl
      tenant := fun _ t => keepsPasswords_of_same t rfl rfl
      permission := fun _ _ t => keepsPasswords_of_same t rfl rfl
      role := fun _ _ t => keepsPasswords_of_same t rfl rfl
      rolePermission := fun _ t => keepsPasswords_of_same t rfl rfl
      staffUser := fun row t => keepsPasswords_insertStaffUser t row
      auditLog := fun _ t => keepsPasswords_of_same t rfl rfl }
  events _ t := keepsPasswords_of_same t rfl rfl
  clients _ _ t := keepsPasswords_of_same t rfl rfl
  mail t _ := keepsPasswords_of_same t rfl rfl
  staffUser i f hf hstanding t := by
    refine keepsPasswords_modifyStaffUser t i f hf (fun r => ?_)
    have hhash : (f r).standing.passwordHash = r.standing.passwordHash := congrArg StaffUser.passwordHash (hstanding r)
    exact hhash
  contact i f hf hstanding t := by
    refine keepsPasswords_modifyContact t i f hf (fun r => ?_)
    have hhash : (f r).standing.passwordHash = r.standing.passwordHash :=
      congrArg ClientContact.passwordHash (hstanding r)
    exact hhash
  newStaffSession _ t := keepsPasswords_of_same t rfl rfl
  staffSession _ _ t := keepsPasswords_of_same t rfl rfl
  newClientSession _ t := keepsPasswords_of_same t rfl rfl
  clientSession _ _ t := keepsPasswords_of_same t rfl rfl
  newLink _ t := keepsPasswords_of_same t rfl rfl
  productGroup _ t := keepsPasswords_of_same t rfl rfl
  product _ t := keepsPasswords_of_same t rfl rfl
  newSetting _ t := keepsPasswords_of_same t rfl rfl
  setting _ _ _ t := keepsPasswords_of_same t rfl rfl

theorem keptByCalls_passwords : KeptByCalls Store.KeepsPasswords where
  trans _ _ _ := .trans
  keyring s _ h := keepsPasswords_of_keyring s h
  verified i _ t := keepsPasswords_modifyContact t i _ _ (fun _ => rfl)
  newContact row t := keepsPasswords_insertContact t row

theorem Call.keepsPasswords (call : Call) (s : Store) : s.KeepsPasswords (call.after s) := by
  cases call with
  | disableStaffUser env actor targetUserId =>
    change s.KeepsPasswords ((Model.disableStaffUser env actor targetUserId).after s)
    obtain he | ⟨_, c, t, hev, he⟩ := after_of_atomic (atomic_disableStaffUser env actor targetUserId) s
    · exact keepsPasswords_of_keyring s (congrArg Store.keyring he)
    · rw [he]
      obtain ⟨target, _, rfl⟩ := disableStaffUser_ok hev
      exact keepsPasswords_modifyStaffUser s targetUserId
        (fun r => { r with status := .disabled, updatedAt := env.now }) (fun _ => rfl) (fun _ => rfl)
  | _ => exact keptByCalls_passwords.call _ (fun _ _ _ => Call.noConfusion) s

theorem map_find_modify {ρ : Type} {key : ρ → Id} {t : Table key} {i : Id} {r : ρ} (hr : t.find i = some r) (f : ρ → ρ)
    (hf : ∀ r, key (f r) = key r) (g : ρ → String) (j : Id) :
    ((t.modify i f hf).find j).map g = if j = i then some (g (f r)) else (t.find j).map g := by
  split
  · rename_i hj
    rw [hj, Table.find_modify_self, hr]
    rfl
  · rename_i hj
    rw [Table.find_modify_ne t f hf hj]

/-- Which password a call sets. -/
theorem PasswordCall.passwordOf_of_ok {pc : PasswordCall} {s c t : Store} {u : Unit}
    (h : pc.program.eval s s = .ok (u, c, t)) :
    ∃ link, pc.Finds s link ∧ ∀ id actorType, t.passwordOf id actorType =
      if actorType = pc.actorType then
        if id = link.actorId then some (pc.env.hashPassword pc.newPassword) else s.passwordOf id actorType
      else s.passwordOf id actorType := by
  obtain ⟨env, kind, token, newPassword⟩ := pc
  cases kind with
  | staff =>
    obtain ⟨link, user, hfound, husable, huser, _, rfl⟩ := (eval_setPassword_iff (fun _ => rfl)).mp h
    refine ⟨link, ⟨hfound, husable, Option.isSome_of_eq_some huser⟩, fun id actorType => ?_⟩
    cases actorType with
    | staff =>
      exact map_find_modify huser
        (fun r => { r with
          passwordHash := env.hashPassword newPassword, mustChangePassword := false, updatedAt := env.now })
        (fun _ => rfl) StaffUser.passwordHash id
    | clientContact => rfl
  | clientContact =>
    obtain ⟨link, contact, hfound, husable, hcontact, _, rfl⟩ := (eval_setPassword_iff (fun _ => rfl)).mp h
    refine ⟨link, ⟨hfound, husable, Option.isSome_of_eq_some hcontact⟩, fun id actorType => ?_⟩
    cases actorType with
    | staff => rfl
    | clientContact =>
      exact map_find_modify hcontact (fun r => { r with passwordHash := env.hashPassword newPassword }) (fun _ => rfl)
        ClientContact.passwordHash id

/-- The password of an account as a register. -/
abbrev passwordRegister (actorType : AuthActorType) (id : Id) : Register Store ServiceCall (Option String) where
  value s := s.passwordOf id actorType
  writes s call o := ∃ hash, call.SetsPassword s actorType id hash ∧ o = some hash

theorem passwordOf_isSome {s : Store} {actorType : AuthActorType} {id : Id} :
    (s.passwordOf id actorType).isSome = s.hasAccount id actorType := by
  cases actorType <;> exact Option.isSome_map

theorem ServiceCall.keepsPasswords {call : ServiceCall} (hnone : call.password? = none) (s : Store) :
    s.KeepsPasswords (call.after s) := by
  obtain ⟨c, rfl⟩ | ⟨pc, hpassword⟩ | hkeeps := keptByRequests_passwords.serviceCall call s
  · exact c.keepsPasswords s
  · cases hnone.symm.trans hpassword
  · exact hkeeps

theorem not_setsPassword {call : ServiceCall} {s : Store} {actorType : AuthActorType} {id : Id} {hash : String}
    (hnone : ∀ pc link, call.password? = some pc → ¬ pc.Finds s link) : ¬ call.SetsPassword s actorType id hash := by
  rintro ⟨pc, link, hpassword, hfinds, _⟩
  exact hnone pc link hpassword hfinds

theorem keeps_passwordRegister {actorType : AuthActorType} {id : Id} (s : Store) (call : ServiceCall)
    (haccount : s.hasAccount id actorType = true) : (passwordRegister actorType id).Keeps ServiceCall.after s call := by
  cases hpassword : call.password? with
  | none =>
    rw [← passwordOf_isSome] at haccount
    obtain ⟨hash, hhash⟩ := Option.isSome_iff_exists.mp haccount
    refine Or.inl ⟨(ServiceCall.keepsPasswords hpassword s id actorType hash hhash).trans hhash.symm, ?_⟩
    rintro o ⟨_, hsets, _⟩
    exact not_setsPassword (fun pc link h => absurd (hpassword.symm.trans h) nofun) hsets
  | some pc =>
    have hafter := ServiceCall.after_of_password hpassword s
    obtain ⟨hfails, hsame⟩ | ⟨_, u, c, t, hev, hprogram⟩ := completes_cases pc.atomic_program s
    · refine Or.inl ⟨congrArg (fun q => q.passwordOf id actorType) (hafter.trans hsame), ?_⟩
      rintro o ⟨hash, hsets, _⟩
      refine not_setsPassword (fun pc' link hpassword' hfinds => ?_) hsets
      cases hpassword.symm.trans hpassword'
      rw [PasswordCall.completes_program_iff.mpr ⟨link, hfinds⟩] at hfails
      cases hfails
    · obtain ⟨link, hfinds, hset⟩ := PasswordCall.passwordOf_of_ok hev
      have hvalue := hset id actorType
      rw [← hprogram, ← hafter] at hvalue
      have hwrites : ∀ hash, call.SetsPassword s actorType id hash ↔
          actorType = pc.actorType ∧ id = link.actorId ∧ hash = pc.env.hashPassword pc.newPassword := by
        intro hash
        constructor
        · rintro ⟨pc', link', hpassword', hfinds', rfl, rfl, rfl⟩
          cases hpassword.symm.trans hpassword'
          obtain rfl := Option.some.inj (hfinds'.found.symm.trans hfinds.found)
          exact ⟨rfl, rfl, rfl⟩
        · rintro ⟨rfl, rfl, rfl⟩
          exact ⟨pc, link, hpassword, hfinds, rfl, rfl, rfl⟩
      by_cases htarget : actorType = pc.actorType ∧ id = link.actorId
      · rw [if_pos htarget.1, if_pos htarget.2] at hvalue
        refine Or.inr (fun o => ⟨?_, ?_⟩)
        · rintro ⟨hash, hsets, rfl⟩
          rw [((hwrites hash).mp hsets).2.2]
          exact hvalue.symm
        · rintro rfl
          exact ⟨_, (hwrites _).mpr ⟨htarget.1, htarget.2, rfl⟩, hvalue⟩
      · refine Or.inl ⟨?_, ?_⟩
        · refine hvalue.trans ?_
          split
          · rename_i htype
            exact if_neg (fun hid => htarget ⟨htype, hid⟩)
          · rfl
        · rintro o ⟨hash, hsets, _⟩
          obtain ⟨htype, hid, _⟩ := (hwrites hash).mp hsets
          exact htarget ⟨htype, hid⟩

/-- No call sets the password of the account. -/
abbrev PasswordUnset (actorType : AuthActorType) (id : Id) : Store → List ServiceCall → Prop :=
  AlongRun ServiceCall.after (fun s call => ∀ hash, ¬ call.SetsPassword s actorType id hash)

/-- After any calls the password of an account is the one that was set last, through
a link to it, or else the one it had. -/
theorem account_password_iff {start : Store} {actorType : AuthActorType} {id : Id}
    (haccount : start.hasAccount id actorType = true) (calls : List ServiceCall) (hash : String) :
    (runFrom ServiceCall.after start calls).passwordOf id actorType = some hash ↔
      (start.passwordOf id actorType = some hash ∧ PasswordUnset actorType id start calls) ∨
        ∃ before call later, calls = before ++ call :: later ∧
          call.SetsPassword (runFrom ServiceCall.after start before) actorType id hash ∧
          PasswordUnset actorType id (call.after (runFrom ServiceCall.after start before)) later := by
  have hunset : ∀ (s : Store) (cs : List ServiceCall),
      (passwordRegister actorType id).Unwritten ServiceCall.after s cs ↔ PasswordUnset actorType id s cs := by
    refine fun s cs => ⟨fun h => h.imp (fun q call hun p hsets => hun ⟨_, p, hsets, rfl⟩), fun h => h.imp ?_⟩
    rintro q call hun ⟨o, p, hsets, _⟩
    exact hun p hsets
  have hlast := Register.value_iff (R := passwordRegister actorType id) (I := fun s => s.hasAccount id actorType = true)
    (t := some hash) (fun s call hs => call.keepsAccounts s id actorType hs)
    (fun s call hs => keeps_passwordRegister s call hs) haccount calls
  refine hlast.trans ⟨?_, ?_⟩
  · rintro (⟨hheld, hnone⟩ | ⟨before, call, later, hsplit, ⟨p, hsets, hp⟩, hlater⟩)
    · exact Or.inl ⟨hheld, (hunset _ _).mp hnone⟩
    · cases hp
      exact Or.inr ⟨before, call, later, hsplit, hsets, (hunset _ _).mp hlater⟩
  · rintro (⟨hheld, hnone⟩ | ⟨before, call, later, hsplit, hsets, hlater⟩)
    · exact Or.inl ⟨hheld, (hunset _ _).mpr hnone⟩
    · exact Or.inr ⟨before, call, later, hsplit, ⟨hash, hsets, rfl⟩, (hunset _ _).mpr hlater⟩

open Sample in
/-- The password set through the second link. -/
theorem account_password_iff_askedTwice :
    ∃ before call later, askedTwice = before ++ call :: later ∧
      call.SetsPassword (runFrom ServiceCall.after office before) .clientContact "contact" "hash-fresh" := by
  have hset : (runFrom ServiceCall.after office askedTwice).passwordOf "contact" .clientContact = some "hash-fresh" := by
    decide +kernel
  obtain ⟨hheld, _⟩ | ⟨before, call, later, hsplit, hsets, _⟩ :=
    (account_password_iff (by decide +kernel) askedTwice "hash-fresh").mp hset
  · exact absurd hheld (by decide +kernel)
  · exact ⟨before, call, later, hsplit, hsets⟩

end HostPanel.Model
