import HostPanel.Lib.Faults
import HostPanel.Lib.Register
import HostPanel.Access.Attempts
import HostPanel.Web.Writes

namespace HostPanel.Model

open HostPanel.Lib HostPanel.Lib.Program

/-- The link to a new password that is stored under a hash. -/
def Store.linkUnder (s : Store) (hash : String) : Option PasswordResetToken :=
  s.passwordResetTokens.rows.find? (fun r => r.tokenHash == hash)

def Store.hasAccount (s : Store) (id : Id) : AuthActorType → Bool
  | .staff => (s.staffUsers.find id).isSome
  | .clientContact => (s.clientContacts.find id).isSome

namespace ServiceCall

/-- The link that a call stores: of a reset request, to the active account under the
e-mail address; of an invitation, to the new account. -/
def link? (s : Store) : ServiceCall → Option PasswordResetToken
  | requestStaffPasswordReset env tenantId email =>
    ((s.staffUnder tenantId (normalizeEmail email)).filter StaffUser.isActive).map (fun user =>
      passwordToken env (env.cuid 0) tenantId .staff user.id passwordResetTokenTtlMs)
  | requestClientPasswordReset env tenantId email =>
    ((s.contactUnder tenantId (normalizeEmail email)).filter ClientContact.isActive).map (fun contact =>
      passwordToken env (env.cuid 0) tenantId .clientContact contact.id passwordResetTokenTtlMs)
  | createStaffUser env actor _ => some (staffInviteToken env actor)
  | _ => none

/-- The call stores the link, under a hash that none was under. -/
structure Stores (call : ServiceCall) (s : Store) (link : PasswordResetToken) : Prop where
  link_eq : call.link? s = some link
  fresh : s.linkUnder link.tokenHash = none
  stored : (call.after s).linkUnder link.tokenHash = some link

/-- The call sets a password through the link under the hash. -/
def Uses (call : ServiceCall) (hash : String) (s : Store) : Prop :=
  ∃ pc, call.password? = some pc ∧ pc.hash = hash ∧ pc.program.completes s = true

end ServiceCall

section Passwords

variable {env : Env} {s : Store}

/-- A password is set through a link that may be used, and uses it up. -/
theorem eval_setPassword_iff {ρ : Type} {key : ρ → Id} {R : Relation key} {f : ρ → ρ} {hf : ∀ r, key (f r) = key r}
    (hother : ∀ i, (R.modify i f hf s).passwordResetTokens = s.passwordResetTokens) {actorType : AuthActorType}
    {token : String} {u : Unit} {c t : Store} :
    (findPasswordToken env actorType token >>= fun record =>
        transaction (R.update record.actorId f hf >>= fun _ => consumeToken env record)).eval s s = .ok (u, c, t) ↔
      ∃ record account, s.linkUnder (env.hashToken token) = some record ∧ record.usable env actorType = true ∧
        (R.get s).find record.actorId = some account ∧ c = t ∧
        t = prisma.passwordResetToken.modify record.id (fun r => { r with consumedAt := some env.now })
          (fun _ => rfl) (R.modify record.actorId f hf s) := by
  simp only [findPasswordToken, consumeToken, Program.bind_assoc, Relation.eval_findFirst_bind, eval_orThrow_bind,
    eval_transaction_ok, Relation.eval_update_bind, pure_eq_ret, eval_ret, Except.ok.injEq, Prod.mk.injEq]
  constructor
  · rintro ⟨record, hrecord, rfl, _, account, haccount, _, _, _, _, rfl⟩
    obtain ⟨hlink, husable⟩ := Option.filter_eq_some_iff.mp hrecord
    exact ⟨record, account, hlink, husable, haccount, rfl, rfl⟩
  · rintro ⟨record, account, hlink, husable, haccount, rfl, rfl⟩
    have hmem : record ∈ s.passwordResetTokens := List.mem_of_find?_eq_some hlink
    have hstored : (R.modify record.actorId f hf s).passwordResetTokens.find record.id = some record := by
      rw [hother]
      exact Table.find_of_mem hmem
    exact ⟨record, Option.filter_eq_some_iff.mpr ⟨hlink, husable⟩, rfl, _, account, haccount, record, hstored, trivial,
      rfl, rfl⟩

namespace PasswordCall

/-- What a call that sets a password finds. -/
structure Finds (pc : PasswordCall) (s : Store) (record : PasswordResetToken) : Prop where
  found : s.linkUnder pc.hash = some record
  usable : record.usable pc.env pc.actorType = true
  account : s.hasAccount record.actorId pc.actorType = true

variable {pc : PasswordCall} {record : PasswordResetToken} {u : Unit} {c t : Store}

theorem Finds.ok (h : pc.Finds s record) : ∃ t, pc.program.eval s s = .ok ((), t, t) := by
  obtain ⟨env, actorType, token, newPassword⟩ := pc
  obtain ⟨hfound, husable, haccount⟩ := h
  cases actorType with
  | staff =>
    obtain ⟨user, huser⟩ := Option.isSome_iff_exists.mp haccount
    exact ⟨_, (eval_setPassword_iff (fun _ => rfl)).mpr ⟨record, user, hfound, husable, huser, rfl, rfl⟩⟩
  | clientContact =>
    obtain ⟨contact, hcontact⟩ := Option.isSome_iff_exists.mp haccount
    exact ⟨_, (eval_setPassword_iff (fun _ => rfl)).mpr ⟨record, contact, hfound, husable, hcontact, rfl, rfl⟩⟩

theorem finds_of_ok (h : pc.program.eval s s = .ok (u, c, t)) :
    ∃ record, pc.Finds s record ∧ t.passwordResetTokens =
      s.passwordResetTokens.modify record.id (fun r => { r with consumedAt := some pc.env.now }) (fun _ => rfl) := by
  obtain ⟨env, actorType, token, newPassword⟩ := pc
  cases actorType with
  | staff =>
    obtain ⟨record, user, hfound, husable, huser, _, rfl⟩ := (eval_setPassword_iff (fun _ => rfl)).mp h
    exact ⟨record, ⟨hfound, husable, Option.isSome_of_eq_some huser⟩, rfl⟩
  | clientContact =>
    obtain ⟨record, contact, hfound, husable, hcontact, _, rfl⟩ := (eval_setPassword_iff (fun _ => rfl)).mp h
    exact ⟨record, ⟨hfound, husable, Option.isSome_of_eq_some hcontact⟩, rfl⟩

theorem completes_program_iff : pc.program.completes s = true ↔ ∃ record, pc.Finds s record := by
  rw [completes_iff]
  constructor
  · rintro ⟨⟨u, c, t⟩, hev⟩
    obtain ⟨record, hfinds, _⟩ := finds_of_ok hev
    exact ⟨record, hfinds⟩
  · rintro ⟨record, hfinds⟩
    obtain ⟨t, hev⟩ := hfinds.ok
    exact ⟨_, hev⟩

theorem atomic_program (pc : PasswordCall) : pc.program.Atomic := by
  obtain ⟨env, actorType, token, newPassword⟩ := pc
  cases actorType with
  | staff => exact atomic_setStaffPassword env token newPassword
  | clientContact =>
    refine Uncommitted.bind_atomic ?_ (fun record => Uncommitted.transaction ?_)
    · exact (Relation.uncommitted_findFirst _).bind (fun _ => uncommitted_orThrow _ _)
    · refine (Relation.uncommitted_update _ _ _).bind (fun _ => ?_)
      exact (Relation.uncommitted_update _ _ _).bind (fun _ => trivial)

end PasswordCall

end Passwords

/-- What a call does to the links: nothing, or it stores a new one, or it sets a
password and uses the link up. -/
inductive ServiceCall.LinkStep (call : ServiceCall) (s : Store) : Prop
  | kept (hsame : (call.after s).passwordResetTokens = s.passwordResetTokens) (hunused : ∀ hash, ¬ call.Uses hash s)
  | stored (link : PasswordResetToken) (hlink : call.link? s = some link)
    (hfresh : prisma.passwordResetToken.Fresh link s)
    (hafter : (call.after s).passwordResetTokens = s.passwordResetTokens.insert link)
    (haccount : (call.after s).hasAccount link.actorId link.actorType = true)
    (hunused : ∀ hash, ¬ call.Uses hash s)
  | used (pc : PasswordCall) (record : PasswordResetToken) (hpassword : call.password? = some pc)
    (hfinds : pc.Finds s record) (hafter : (call.after s).passwordResetTokens =
      s.passwordResetTokens.modify record.id (fun r => { r with consumedAt := some pc.env.now }) (fun _ => rfl))

/-- The links are as they were, or one more is stored, to an account there is. -/
def Store.AddsLink (s : Store) (link : PasswordResetToken) (t : Store) : Prop :=
  t.passwordResetTokens = s.passwordResetTokens ∨
    prisma.passwordResetToken.Fresh link s ∧ t.passwordResetTokens = s.passwordResetTokens.insert link ∧
      t.hasAccount link.actorId link.actorType = true

theorem link?_unused {call : ServiceCall} {s : Store} {link : PasswordResetToken} (h : call.link? s = some link) :
    link.consumedAt = none := by
  cases call with
  | requestStaffPasswordReset env tenantId email =>
    obtain ⟨user, _, rfl⟩ := Option.map_eq_some_iff.mp h
    rfl
  | requestClientPasswordReset env tenantId email =>
    obtain ⟨contact, _, rfl⟩ := Option.map_eq_some_iff.mp h
    rfl
  | createStaffUser env actor input =>
    cases h
    rfl
  | _ => cases h

theorem link?_of_password {call : ServiceCall} {s : Store} {pc : PasswordCall} (h : call.password? = some pc) :
    call.link? s = none := by
  cases call with
  | setStaffPassword env token newPassword => rfl
  | setClientPassword env token newPassword => rfl
  | _ => cases h

section Steps

variable {env : Env} {s : Store} {call : ServiceCall}

theorem ServiceCall.not_uses (h : call.password? = none) (hash : String) : ¬ call.Uses hash s := by
  rintro ⟨pc, hpassword, _⟩
  rw [h] at hpassword
  cases hpassword

/-- Of the services outside the books only those that handle links change them. -/
theorem keptByServices_links : KeptByServices (fun s t => t.passwordResetTokens = s.passwordResetTokens) where
  trans _ _ _ h h' := h'.trans h
  setup :=
    { refl := fun _ => rfl
      tenant := fun _ _ => rfl
      permission := fun _ _ _ => rfl
      role := fun _ _ _ => rfl
      rolePermission := fun _ _ => rfl
      staffUser := fun _ _ => rfl
      auditLog := fun _ _ => rfl }
  events _ _ := rfl
  clients _ _ _ := rfl
  mail _ _ := rfl
  staffUser _ _ _ _ _ := rfl
  contact _ _ _ _ _ := rfl
  newStaffSession _ _ := rfl
  staffSession _ _ _ := rfl
  newClientSession _ _ := rfl
  clientSession _ _ _ := rfl
  productGroup _ _ := rfl
  product _ _ := rfl
  newSetting _ _ := rfl
  setting _ _ _ _ := rfl

theorem keptByCalls_links : KeptByCalls (fun s t => t.passwordResetTokens = s.passwordResetTokens) where
  trans _ _ _ h h' := h'.trans h
  keyring s t h := by
    simp only [Store.keyring, Prod.mk.injEq] at h
    exact h.2.2.2.2
  verified _ _ _ := rfl
  newContact _ _ := rfl

theorem Call.links_after (call : Call) (s : Store) : (call.after s).passwordResetTokens = s.passwordResetTokens := by
  cases call with
  | disableStaffUser env actor targetUserId =>
    change ((Model.disableStaffUser env actor targetUserId).after s).passwordResetTokens = _
    obtain he | ⟨_, c, t, hev, he⟩ := after_of_atomic (atomic_disableStaffUser env actor targetUserId) s
    · rw [he]
    · rw [he]
      obtain ⟨target, _, rfl⟩ := disableStaffUser_ok hev
      rfl
  | _ => exact keptByCalls_links.call _ (fun _ _ _ => Call.noConfusion) s

theorem hasAccount_of_keyring {s t : Store} (h : t.keyring = s.keyring) (id : Id) (actorType : AuthActorType) :
    t.hasAccount id actorType = s.hasAccount id actorType := by
  simp only [Store.keyring, Prod.mk.injEq] at h
  cases actorType <;> simp only [Store.hasAccount, h]

theorem addsLink_sendPasswordLink {token : PasswordResetToken} {s : Store}
    (haccount : s.hasAccount token.actorId token.actorType = true) (mail : EmailLog) :
    s.AddsLink token ((sendPasswordLink env token mail).after s) := by
  obtain he | ⟨_, c, t, hev, he⟩ := after_transaction_bind (f := fun _ => queueEmail env mail)
    (Relation.uncommitted_create (R := prisma.passwordResetToken) token) s
  · exact Or.inl (congrArg Store.passwordResetTokens he)
  · have hcreate : (prisma.passwordResetToken.create token >>= ret).eval s s = .ok (_, c, t) :=
      eval_bind_ok.mpr ⟨_, _, _, hev, rfl⟩
    obtain ⟨hfresh, _, hret⟩ := Relation.eval_create_bind.mp hcreate
    cases hret
    have hmail : ((queueEmail env mail).after (prisma.passwordResetToken.insert token s)).keyring =
        (prisma.passwordResetToken.insert token s).keyring :=
      after_of_leaves (leaves_queueEmail (π := Store.keyring) env mail (fun _ _ => rfl)) _
    have hlinks : ((queueEmail env mail).after (prisma.passwordResetToken.insert token s)).passwordResetTokens =
        s.passwordResetTokens.insert token := congrArg (fun k => k.2.2.2.2) hmail
    change s.AddsLink token ((transaction (prisma.passwordResetToken.create token) >>= fun _ =>
      queueEmail env mail).after s)
    rw [he]
    exact Or.inr ⟨hfresh, hlinks, (hasAccount_of_keyring hmail _ _).trans haccount⟩

/-- An invitation stores the account, then the link to it. -/
theorem addsLink_createStaffUser (actor : StaffActor) (input : CreateStaffUserInput) (s : Store) :
    s.AddsLink (staffInviteToken env actor) ((createStaffUser env actor input).after s) := by
  refine after_bind_of_reads (settled_ensure _ _) (leaves_ensure _ _) (Or.inl rfl) (fun _ => ?_)
  refine after_bind_of_reads (settled_findFirst _) (Relation.leaves_findFirst _) (Or.inl rfl) (fun found => ?_)
  refine after_bind_of_reads (settled_orThrow _ _) (leaves_orThrow _ _) (Or.inl rfl) (fun role => ?_)
  refine after_bind_of_reads (settled_findFirst _) (Relation.leaves_findFirst _) (Or.inl rfl) (fun existing => ?_)
  refine after_bind_of_reads (settled_ensure _ _) (leaves_ensure _ _) (Or.inl rfl) (fun _ => ?_)
  obtain he | ⟨user, c, t, hev, he⟩ := after_transaction_bind (p := insertStaffUser env actor input _ role)
    ((Relation.uncommitted_create _).bind (fun _ => (uncommitted_recordAuditLog _).bind (fun _ => trivial))) s
  · exact Or.inl (congrArg Store.passwordResetTokens he)
  · obtain ⟨hfresh, _, hlog⟩ := Relation.eval_create_bind.mp hev
    cases (eval_recordAuditLog_bind.mp hlog).2
    rw [he, pure_eq_ret, after_bind_ret]
    refine addsLink_sendPasswordLink ?_ _
    exact Option.isSome_of_eq_some (Table.find_insert_self (Relation.find_of_fresh hfresh))

theorem addsLink_requestStaffPasswordReset (tenantId : Id) (email : String) (s : Store) :
    ∀ link, (ServiceCall.requestStaffPasswordReset env tenantId email).link? s = some link →
      s.AddsLink link ((requestStaffPasswordReset env tenantId email).after s) := by
  intro link hlink
  change s.AddsLink link ((mailStaffReset env tenantId (normalizeEmail email)
    ((s.staffUnder tenantId (normalizeEmail email)).filter StaffUser.isActive)).after s)
  obtain ⟨user, huser, rfl⟩ := Option.map_eq_some_iff.mp hlink
  rw [huser]
  obtain ⟨hfound, _⟩ := Option.filter_eq_some_iff.mp huser
  refine addsLink_sendPasswordLink ?_ _
  exact Option.isSome_of_eq_some (Table.find_of_mem (List.mem_of_find?_eq_some hfound))

theorem addsLink_requestClientPasswordReset (tenantId : Id) (email : String) (s : Store) :
    ∀ link, (ServiceCall.requestClientPasswordReset env tenantId email).link? s = some link →
      s.AddsLink link ((requestClientPasswordReset env tenantId email).after s) := by
  intro link hlink
  change s.AddsLink link ((mailClientReset env tenantId (normalizeEmail email)
    ((s.contactUnder tenantId (normalizeEmail email)).filter ClientContact.isActive)).after s)
  obtain ⟨contact, hcontact, rfl⟩ := Option.map_eq_some_iff.mp hlink
  rw [hcontact]
  obtain ⟨hfound, _⟩ := Option.filter_eq_some_iff.mp hcontact
  refine addsLink_sendPasswordLink ?_ _
  exact Option.isSome_of_eq_some (Table.find_of_mem (List.mem_of_find?_eq_some hfound))

namespace ServiceCall

theorem linkStep_of_addsLink (hpassword : call.password? = none) (hnone : call.link? s = none → call.after s = s)
    (hadds : ∀ link, call.link? s = some link → s.AddsLink link (call.after s)) : call.LinkStep s := by
  cases hlink : call.link? s with
  | none => exact .kept (congrArg Store.passwordResetTokens (hnone hlink)) (not_uses hpassword)
  | some link =>
    obtain hsame | ⟨hfresh, hafter, haccount⟩ := hadds link hlink
    · exact .kept hsame (not_uses hpassword)
    · exact .stored link hlink hfresh hafter haccount (not_uses hpassword)

theorem after_of_password {pc : PasswordCall} (h : call.password? = some pc) (s : Store) :
    call.after s = pc.program.after s := by
  cases call with
  | setStaffPassword env token newPassword =>
    cases h
    rfl
  | setClientPassword env token newPassword =>
    cases h
    rfl
  | _ => cases h

theorem linkStep_of_password {pc : PasswordCall} (hpassword : call.password? = some pc) : call.LinkStep s := by
  have hprogram := after_of_password hpassword s
  obtain ⟨hfails, hsame⟩ | ⟨hcompletes, u, c, t, hev, hafter⟩ := completes_cases pc.atomic_program s
  · refine .kept (congrArg Store.passwordResetTokens (hprogram.trans hsame)) ?_
    rintro hash ⟨pc', hpassword', _, hcompletes⟩
    cases hpassword.symm.trans hpassword'
    rw [hfails] at hcompletes
    cases hcompletes
  · obtain ⟨record, hfinds, hlinks⟩ := PasswordCall.finds_of_ok hev
    exact .used pc record hpassword hfinds ((congrArg Store.passwordResetTokens (hprogram.trans hafter)).trans hlinks)

theorem linkStep (call : ServiceCall) (s : Store) : call.LinkStep s := by
  obtain ⟨c, rfl⟩ | hlinks | hsame := keptByServices_links.serviceCall call s
  · exact .kept (c.links_after s) (not_uses rfl)
  · cases call with
    | requestStaffPasswordReset env tenantId email =>
      refine linkStep_of_addsLink rfl (fun hnone => ?_) (addsLink_requestStaffPasswordReset tenantId email s)
      change (mailStaffReset env tenantId (normalizeEmail email)
        ((s.staffUnder tenantId (normalizeEmail email)).filter StaffUser.isActive)).after s = s
      rw [Option.map_eq_none_iff.mp hnone]
      rfl
    | requestClientPasswordReset env tenantId email =>
      refine linkStep_of_addsLink rfl (fun hnone => ?_) (addsLink_requestClientPasswordReset tenantId email s)
      change (mailClientReset env tenantId (normalizeEmail email)
        ((s.contactUnder tenantId (normalizeEmail email)).filter ClientContact.isActive)).after s = s
      rw [Option.map_eq_none_iff.mp hnone]
      rfl
    | setStaffPassword env token newPassword => exact linkStep_of_password rfl
    | setClientPassword env token newPassword => exact linkStep_of_password rfl
    | createStaffUser env actor input =>
      refine linkStep_of_addsLink rfl nofun (fun link hlink => ?_)
      cases hlink
      exact addsLink_createStaffUser actor input s
    | _ => cases hlinks
  · cases call with
    | setStaffPassword env token newPassword => exact linkStep_of_password rfl
    | setClientPassword env token newPassword => exact linkStep_of_password rfl
    | _ => exact .kept hsame (not_uses rfl)

end ServiceCall

end Steps

section Slots

variable {s t : Store} {hash : String} {link record : PasswordResetToken}

theorem linkUnder_of_links (h : t.passwordResetTokens = s.passwordResetTokens) : t.linkUnder hash = s.linkUnder hash := by
  rw [Store.linkUnder, h]
  rfl

theorem hash_of_linkUnder (h : s.linkUnder hash = some link) : link.tokenHash = hash := by
  have hp := List.find?_some h
  exact beq_iff_eq.mp hp

theorem linkUnder_of_fresh (h : prisma.passwordResetToken.Fresh link s) : s.linkUnder link.tokenHash = none := by
  refine List.find?_eq_none.mpr (fun q hq hsame => ?_)
  refine h.2 q hq (.resetTokenHash link.tokenHash) (List.mem_cons_of_mem _ List.mem_cons_self) ?_
  rw [← beq_iff_eq.mp hsame]
  exact List.mem_cons_of_mem _ List.mem_cons_self

theorem linkUnder_insert (hfresh : prisma.passwordResetToken.Fresh link s)
    (h : t.passwordResetTokens = s.passwordResetTokens.insert link) (hash : String) :
    t.linkUnder hash = if link.tokenHash = hash then some link else s.linkUnder hash := by
  have hrows : t.passwordResetTokens.rows = s.passwordResetTokens.rows ++ [link] := by
    rw [h]
    exact Table.insert_rows (Relation.find_of_fresh hfresh)
  rw [Store.linkUnder, hrows, List.find?_append]
  split
  · rename_i hsame
    subst hsame
    have hnone : s.passwordResetTokens.rows.find? (fun r => r.tokenHash == link.tokenHash) = none :=
      linkUnder_of_fresh hfresh
    simp [hnone]
  · rename_i hother
    simp [hother, Store.linkUnder]

/-- Only under its own hash a used link changes. -/
theorem linkUnder_used {at_ : DateTime} (hrecord : s.linkUnder record.tokenHash = some record)
    (h : t.passwordResetTokens =
      s.passwordResetTokens.modify record.id (fun r => { r with consumedAt := some at_ }) (fun _ => rfl)) (hash : String) :
    t.linkUnder hash =
      if record.tokenHash = hash then some { record with consumedAt := some at_ } else s.linkUnder hash := by
  have hmodified : t.linkUnder hash = (s.linkUnder hash).map (fun r =>
      if r.id = record.id then { r with consumedAt := some at_ } else r) := by
    rw [Store.linkUnder, h]
    exact Table.find?_modify_map s.passwordResetTokens (fun r => r.tokenHash == hash) record.id
      (fun r => { r with consumedAt := some at_ }) (fun _ => rfl) (fun _ => rfl)
  rw [hmodified]
  split
  · rename_i hsame
    rw [← hsame, hrecord, Option.map_some, if_pos rfl]
  · rename_i hother
    cases hlink : s.linkUnder hash with
    | none => rfl
    | some r =>
      have hid : r.id ≠ record.id := by
        intro hid
        have hr : r = record :=
          Table.eq_of_mem (t := s.passwordResetTokens) (List.mem_of_find?_eq_some hlink) (List.mem_of_find?_eq_some hrecord) hid
        rw [hr] at hlink
        exact hother (hash_of_linkUnder hlink)
      rw [Option.map_some, if_neg hid]

end Slots

/-- The links under one hash as vouchers for a new password. -/
abbrev linkVoucher (hash : String) : Voucher Store ServiceCall PasswordResetToken where
  slot s := s.linkUnder hash
  serves link := link.consumedAt = none
  issues s call link := link.tokenHash = hash ∧ call.Stores s link
  spends s call := call.Uses hash s

theorem keeps_linkVoucher (hash : String) (s : Store) (call : ServiceCall) :
    (linkVoucher hash).Keeps ServiceCall.after s call := by
  cases call.linkStep s with
  | kept hsame hunused =>
    refine Or.inl ⟨linkUnder_of_links hsame, hunused hash, ?_⟩
    rintro link ⟨rfl, hstores⟩
    have hstored := hstores.stored
    rw [linkUnder_of_links hsame, hstores.fresh] at hstored
    cases hstored
  | stored link hlink hfresh hafter _ hunused =>
    have hslot := linkUnder_insert hfresh hafter
    have hissued : ∀ link', call.Stores s link' ↔ link' = link := by
      refine fun link' => ⟨fun hstores => ?_, ?_⟩
      · exact Option.some.inj (hstores.link_eq.symm.trans hlink)
      · rintro rfl
        exact ⟨hlink, linkUnder_of_fresh hfresh, (hslot _).trans (if_pos rfl)⟩
    by_cases hhash : link.tokenHash = hash
    · subst hhash
      refine Or.inr (Or.inl ⟨linkUnder_of_fresh hfresh, hunused _, link, (hslot _).trans (if_pos rfl), ?_, ?_⟩)
      · exact link?_unused hlink
      · intro link'
        exact ⟨fun h => (hissued link').mp h.2,
          fun h => ⟨congrArg PasswordResetToken.tokenHash h, (hissued link').mpr h⟩⟩
    · refine Or.inl ⟨(hslot hash).trans (if_neg hhash), hunused hash, ?_⟩
      rintro link' ⟨hhash', hstores⟩
      rw [(hissued link').mp hstores] at hhash'
      exact hhash hhash'
  | used pc record hpassword hfinds hafter =>
    have hrecord := hash_of_linkUnder hfinds.found
    have hslot := linkUnder_used (hrecord ▸ hfinds.found) hafter
    have hcompletes : pc.program.completes s = true := PasswordCall.completes_program_iff.mpr ⟨record, hfinds⟩
    have hunissued : ∀ link, ¬ (linkVoucher hash).issues s call link := by
      rintro link ⟨_, hstores⟩
      have hlink := hstores.link_eq
      rw [link?_of_password hpassword] at hlink
      cases hlink
    by_cases hhash : record.tokenHash = hash
    · refine Or.inr (Or.inr ⟨?_, ⟨pc, hpassword, hrecord.symm.trans hhash, hcompletes⟩, hunissued, _,
        (hslot hash).trans (if_pos hhash), nofun⟩)
      exact Option.isSome_of_eq_some (hhash ▸ hrecord ▸ hfinds.found)
    · refine Or.inl ⟨(hslot hash).trans (if_neg hhash), ?_, hunissued⟩
      rintro ⟨pc', hpassword', hhash', _⟩
      cases hpassword.symm.trans hpassword'
      exact hhash (hrecord.trans hhash')

/-- An account stays: disabled it may be, but no row is deleted. -/
def Store.KeepsAccounts (s t : Store) : Prop :=
  ∀ id actorType, s.hasAccount id actorType = true → t.hasAccount id actorType = true

section Accounts

theorem keepsAccounts_of_keyring (s : Store) {t : Store} (h : t.keyring = s.keyring) : s.KeepsAccounts t :=
  fun id actorType haccount => (hasAccount_of_keyring h id actorType).trans haccount

theorem Store.KeepsAccounts.trans {s t u : Store} (h : s.KeepsAccounts t) (h' : t.KeepsAccounts u) :
    s.KeepsAccounts u := fun id actorType haccount => h' id actorType (h id actorType haccount)

theorem keepsAccounts_of_staff (s : Store) {t : Store} (hcontacts : t.clientContacts = s.clientContacts)
    (hstaff : ∀ id, (s.staffUsers.find id).isSome = true → (t.staffUsers.find id).isSome = true) : s.KeepsAccounts t := by
  intro id actorType haccount
  cases actorType with
  | staff => exact hstaff id haccount
  | clientContact =>
    rw [Store.hasAccount, hcontacts]
    exact haccount

theorem keepsAccounts_of_contacts (s : Store) {t : Store} (hstaff : t.staffUsers = s.staffUsers)
    (hcontacts : ∀ id, (s.clientContacts.find id).isSome = true → (t.clientContacts.find id).isSome = true) :
    s.KeepsAccounts t := by
  intro id actorType haccount
  cases actorType with
  | clientContact => exact hcontacts id haccount
  | staff =>
    rw [Store.hasAccount, hstaff]
    exact haccount

theorem keepsAccounts_modifyStaffUser (s : Store) (i : Id) (f : StaffUser → StaffUser) (hf : ∀ r, (f r).id = r.id) :
    s.KeepsAccounts (prisma.staffUser.modify i f hf s) :=
  keepsAccounts_of_staff s rfl (fun id => (Table.isSome_find_modify s.staffUsers i f hf id).trans)

theorem keepsAccounts_modifyContact (s : Store) (i : Id) (f : ClientContact → ClientContact)
    (hf : ∀ r, (f r).id = r.id) : s.KeepsAccounts (prisma.clientContact.modify i f hf s) :=
  keepsAccounts_of_contacts s rfl (fun id => (Table.isSome_find_modify s.clientContacts i f hf id).trans)

end Accounts

theorem keptByLinks_accounts : KeptByLinks Store.KeepsAccounts where
  trans _ _ _ := .trans
  setup :=
    { refl := fun t => keepsAccounts_of_keyring t rfl
      tenant := fun _ t => keepsAccounts_of_keyring t rfl
      permission := fun _ _ t => keepsAccounts_of_keyring t rfl
      role := fun _ _ t => keepsAccounts_of_keyring t rfl
      rolePermission := fun _ t => keepsAccounts_of_keyring t rfl
      staffUser := fun row t => keepsAccounts_of_staff t rfl (fun _ => Table.isSome_find_insert t.staffUsers row)
      auditLog := fun _ t => keepsAccounts_of_keyring t rfl }
  events _ t := keepsAccounts_of_keyring t rfl
  clients _ _ t := keepsAccounts_of_keyring t rfl
  mail t _ := keepsAccounts_of_keyring t rfl
  staffUser i f hf _ t := keepsAccounts_modifyStaffUser t i f hf
  contact i f hf _ t := keepsAccounts_modifyContact t i f hf
  newStaffSession _ t := keepsAccounts_of_staff t rfl (fun _ => id)
  staffSession _ _ t := keepsAccounts_of_staff t rfl (fun _ => id)
  newClientSession _ t := keepsAccounts_of_staff t rfl (fun _ => id)
  clientSession _ _ t := keepsAccounts_of_staff t rfl (fun _ => id)
  newLink _ t := keepsAccounts_of_staff t rfl (fun _ => id)
  staffPassword i _ _ t := keepsAccounts_modifyStaffUser t i _ _
  contactPassword i _ t := keepsAccounts_modifyContact t i _ _
  link _ _ t := keepsAccounts_of_staff t rfl (fun _ => id)
  productGroup _ t := keepsAccounts_of_keyring t rfl
  product _ t := keepsAccounts_of_keyring t rfl
  newSetting _ t := keepsAccounts_of_keyring t rfl
  setting _ _ _ t := keepsAccounts_of_keyring t rfl

theorem keptByCalls_accounts : KeptByCalls Store.KeepsAccounts where
  trans _ _ _ := .trans
  keyring s _ h := keepsAccounts_of_keyring s h
  verified i _ t := keepsAccounts_modifyContact t i _ _
  newContact row t := keepsAccounts_of_contacts t rfl (fun _ => Table.isSome_find_insert t.clientContacts row)

theorem ServiceCall.keepsAccounts (call : ServiceCall) (s : Store) : s.KeepsAccounts (call.after s) := by
  obtain ⟨c, rfl⟩ | hkept := keptByLinks_accounts.anyServiceCall call s
  · cases c with
    | disableStaffUser env actor targetUserId =>
      change s.KeepsAccounts ((Model.disableStaffUser env actor targetUserId).after s)
      obtain he | ⟨_, c, t, hev, he⟩ := after_of_atomic (atomic_disableStaffUser env actor targetUserId) s
      · exact keepsAccounts_of_keyring s (congrArg Store.keyring he)
      · rw [he]
        obtain ⟨target, _, rfl⟩ := disableStaffUser_ok hev
        exact keepsAccounts_modifyStaffUser s targetUserId
          (fun r => { r with status := .disabled, updatedAt := env.now }) (fun _ => rfl)
    | _ => exact keptByCalls_accounts.call _ (fun _ _ _ => Call.noConfusion) s
  · exact hkept

/-- Every link is to an account there is. -/
def Store.Addressed (s : Store) : Prop := ∀ link ∈ s.passwordResetTokens, s.hasAccount link.actorId link.actorType = true

theorem ServiceCall.addressed (call : ServiceCall) {s : Store} (hs : s.Addressed) : (call.after s).Addressed := by
  have hkept := call.keepsAccounts s
  cases call.linkStep s with
  | kept hsame hunused =>
    intro link hlink
    rw [hsame] at hlink
    exact hkept _ _ (hs link hlink)
  | stored new hlink hfresh hafter haccount hunused =>
    intro link hmem
    rw [hafter] at hmem
    obtain hold | rfl := Table.of_mem_insert hmem
    · exact hkept _ _ (hs link hold)
    · exact haccount
  | used pc record hpassword hfinds hafter =>
    intro link hmem
    rw [hafter] at hmem
    obtain ⟨hold, _⟩ | ⟨r, hold, _, rfl⟩ := Table.mem_modify.mp hmem
    · exact hkept _ _ (hs link hold)
    · exact hkept _ _ (hs r hold)

/-- After any calls from tables without links a password is set through just the
links that an earlier call stored, to an account of the same kind, that have not
expired and through which no call since has set one. -/
theorem password_link_works_iff {start : Store} (hempty : start.passwordResetTokens.rows = []) (calls : List ServiceCall)
    (pc : PasswordCall) :
    pc.program.completes (runFrom ServiceCall.after start calls) = true ↔
      ∃ before call later link, calls = before ++ call :: later ∧
        call.Stores (runFrom ServiceCall.after start before) link ∧
        link.tokenHash = pc.hash ∧ link.actorType = pc.actorType ∧ pc.env.now ≤ link.expiresAt ∧
        AlongRun ServiceCall.after (fun s c => ¬ c.Uses pc.hash s)
          (call.after (runFrom ServiceCall.after start before)) later := by
  have hslot : start.linkUnder pc.hash = none := by
    rw [Store.linkUnder, hempty]
    rfl
  have haddressed : (runFrom ServiceCall.after start calls).Addressed := by
    refine runFrom_inv (I := Store.Addressed) (G := fun _ _ => True) (fun _ call hs _ => call.addressed hs) ?_
      (alongRun_of_mem (fun _ _ _ => trivial))
    intro link hlink
    rw [Table.mem_def, hempty] at hlink
    cases hlink
  have hserves := fun link => Voucher.serves_iff (t := link) (keeps_linkVoucher pc.hash) hslot calls
  rw [PasswordCall.completes_program_iff]
  constructor
  · rintro ⟨link, hfound, husable, _⟩
    obtain ⟨⟨htype, hunused⟩, hnow⟩ := by simpa [PasswordResetToken.usable] using husable
    obtain ⟨before, call, later, hsplit, ⟨hhash, hstores⟩, hlater⟩ := (hserves link).mp ⟨hfound, hunused⟩
    exact ⟨before, call, later, link, hsplit, hstores, hhash, htype, hnow, hlater⟩
  · rintro ⟨before, call, later, link, hsplit, hstores, hhash, htype, hnow, hlater⟩
    obtain ⟨hfound, hunused⟩ := (hserves link).mpr ⟨before, call, later, hsplit, ⟨hhash, hstores⟩, hlater⟩
    refine ⟨link, hfound, ?_, ?_⟩
    · have husable : link.consumedAt = none := hunused
      simp [PasswordResetToken.usable, htype, husable, hnow]
    · rw [← htype]
      exact haddressed link (List.mem_of_find?_eq_some hfound)

namespace Sample

/-- A contact asks twice for a link, and sets a password through the second one. -/
def askedTwice : List ServiceCall :=
  [.requestClientPasswordReset (env "a") "tenant" "client@example.test",
    .requestClientPasswordReset (env "b") "tenant" "client@example.test", .setClientPassword (env "c") "token-b" "fresh"]

def firstLink : PasswordCall :=
  { env := moment "d" 3000000, actorType := .clientContact, token := "token-a", newPassword := "fresher" }

end Sample

open Sample in
/-- The first link still works. -/
theorem password_link_works_iff_askedTwice :
    ∃ before call later link, askedTwice = before ++ call :: later ∧
      call.Stores (runFrom ServiceCall.after office before) link ∧
      link.tokenHash = firstLink.hash ∧ link.actorType = firstLink.actorType ∧ firstLink.env.now ≤ link.expiresAt ∧
      AlongRun ServiceCall.after (fun s c => ¬ c.Uses firstLink.hash s)
        (call.after (runFrom ServiceCall.after office before)) later :=
  (password_link_works_iff rfl askedTwice firstLink).mp (by decide +kernel)

end HostPanel.Model
