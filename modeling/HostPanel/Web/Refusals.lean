import HostPanel.Web.Failures

namespace HostPanel.Model

open HostPanel.Lib HostPanel.Lib.Program

/-- The tables but for when a session was last seen. -/
def Store.unseen (s : Store) : Store :=
  { s with
    staffSessions := s.staffSessions.updateWhere (fun _ => true) (fun r => { r with lastSeenAt := 0 })
    clientSessions := s.clientSessions.updateWhere (fun _ => true) (fun r => { r with lastSeenAt := 0 }) }

section Sessions

variable {env : Env}

theorem unseen_modifyStaffSession (i : Id) (t : Store) :
    (prisma.staffSession.modify i (fun r => { r with lastSeenAt := env.now }) (fun _ => rfl) t).unseen = t.unseen := by
  have hrows : ((t.staffSessions.modify i (fun r => { r with lastSeenAt := env.now })).updateWhere (fun _ => true)
      (fun r => { r with lastSeenAt := 0 })) =
      t.staffSessions.updateWhere (fun _ => true) (fun r => { r with lastSeenAt := 0 }) := by
    refine Table.ext ?_
    change ((t.staffSessions.rows.map _).map _) = t.staffSessions.rows.map _
    rw [List.map_map]
    refine List.map_congr_left (fun r _ => ?_)
    by_cases hi : r.id = i <;> simp [hi]
  unfold Store.unseen
  rw [← hrows]
  rfl

theorem unseen_modifyClientSession (i : Id) (t : Store) :
    (prisma.clientSession.modify i (fun r => { r with lastSeenAt := env.now }) (fun _ => rfl) t).unseen = t.unseen := by
  have hrows : ((t.clientSessions.modify i (fun r => { r with lastSeenAt := env.now })).updateWhere (fun _ => true)
      (fun r => { r with lastSeenAt := 0 })) =
      t.clientSessions.updateWhere (fun _ => true) (fun r => { r with lastSeenAt := 0 }) := by
    refine Table.ext ?_
    change ((t.clientSessions.rows.map _).map _) = t.clientSessions.rows.map _
    rw [List.map_map]
    refine List.map_congr_left (fun r _ => ?_)
    by_cases hi : r.id = i <;> simp [hi]
  unfold Store.unseen
  rw [← hrows]
  rfl

theorem leaves_validateStaffSession (token : String) : (validateStaffSession env token).Leaves Store.unseen := by
  refine (Relation.leaves_findFirst _).bind (fun session => ?_)
  cases session.filter (StaffSession.isLive env.now) with
  | none => trivial
  | some r =>
    refine (Leaves.transaction (Relation.leaves_update _ _ _ (unseen_modifyStaffSession r.id))).bind (fun _ => ?_)
    refine Leaves.bind (fun _ => trivial) (fun user => ?_)
    cases user.filter StaffUser.isActive with
    | none => trivial
    | some user => exact fun _ => trivial

theorem leaves_validateClientSession (token : String) : (validateClientSession env token).Leaves Store.unseen := by
  refine (Relation.leaves_findFirst _).bind (fun session => ?_)
  cases session.filter (ClientSession.isLive env.now) with
  | none => trivial
  | some r =>
    refine (Leaves.transaction (Relation.leaves_update _ _ _ (unseen_modifyClientSession r.id))).bind (fun _ => ?_)
    exact Leaves.bind (Leaves.bind (fun _ => trivial) (fun _ => trivial)) (fun _ => trivial)

theorem leaves_getSession (cookie : Option Jwt) : (getSession env cookie).Leaves Store.unseen := by
  cases cookie with
  | none => trivial
  | some token =>
    refine Leaves.bind ?_ (fun _ => trivial)
    unfold sessionCallback
    split
    · exact (leaves_validateStaffSession _).bind (fun _ => trivial)
    · exact (leaves_validateClientSession _).bind (fun _ => trivial)
    · trivial

end Sessions

section Actions

variable {env : Env} {s t : Store} {message : String}

theorem reportAppError_error {α : Type} {success : String} {x : Except Failure α}
    (h : reportAppError success x = .ok (.error message)) : ∃ e, x = .error e ∧ ¬ e.Rethrown := by
  cases x with
  | ok a => cases h
  | error e =>
    cases e with
    | app category code text details => exact ⟨_, rfl, id⟩
    | _ => cases h

theorem catchAppError_error {x : Except Failure Id} (h : catchAppError x = .ok (.error message)) :
    ∃ e, x = .error e ∧ ¬ e.Rethrown := by
  cases x with
  | ok a => cases h
  | error e =>
    cases e with
    | app category code text details => exact ⟨_, rfl, id⟩
    | _ => cases h

theorem redirectTo_error {α : Type} {path : String} {x : Except Failure α}
    (h : redirectTo path x = .ok (.error message)) : ∃ e, x = .error e ∧ ¬ e.Rethrown := by
  cases x with
  | ok a => cases h
  | error e =>
    cases e with
    | app category code text details => exact ⟨_, rfl, id⟩
    | _ => cases h

theorem eval_of_run_error {α : Type} {p : Db α} {e : Failure} (h : (p.run s).2 = .error e) :
    p.eval s s = .error (e, (p.run s).1) := by
  unfold run at h ⊢
  cases hev : p.eval s s with
  | ok out =>
    rw [hev] at h
    cases h
  | error x =>
    rw [hev] at h
    cases h
    rfl

theorem attempt_refused {α : Type} {success : String} {p : Db α} (hp : p.ThrowsLate Failure.Rethrown)
    (h : attempt success p s = (t, .ok (.error message))) : t = s := by
  obtain ⟨rfl, hreport⟩ := Prod.mk.injEq .. ▸ h
  obtain ⟨e, hthrown, he⟩ := reportAppError_error hreport
  exact hp.eval_error (eval_of_run_error hthrown) he

theorem submitProduct_refused {actor : StaffActor} {form : ProductForm} {price : ℤ} {e : Failure} {c : Store}
    (h : (submitProduct env actor form price).eval s s = .error (e, c)) (he : ¬ e.Rethrown) : c = s := by
  obtain hproduct | ⟨product, c₁, v₁, hproduct, hprice⟩ := eval_bind_error h
  · exact eval_error_of_atomic (atomic_createProduct _ _ _) hproduct
  · obtain ⟨_, _, haccepted, _⟩ := createProduct_ok_iff.mp hproduct
    split at hprice
    · cases hprice
    · exact absurd (((throws_setProductPrice haccepted.permitted _).throwsAt c₁ v₁).bind_ret e c hprice) he

theorem createProductAction_refused {actor : StaffActor} {form : ProductForm}
    (h : createProductAction env actor form s = (t, .ok (.error message))) : t = s := by
  unfold createProductAction at h
  split at h
  · cases h
    rfl
  · split at h
    · cases h
    · cases h
      rfl
    · obtain ⟨rfl, hreport⟩ := Prod.mk.injEq .. ▸ h
      obtain ⟨e, hthrown, he⟩ := reportAppError_error hreport
      exact submitProduct_refused (eval_of_run_error hthrown) he

theorem markInvoicePaidAction_refused {actor : StaffActor} {form : PaymentForm}
    (h : markInvoicePaidAction env actor form s = (t, .ok (.error message))) : t = s := by
  unfold markInvoicePaidAction at h
  split at h
  · cases h
    rfl
  · split at h
    · cases h
    · cases h
      rfl
    · exact attempt_refused (atomic_markInvoicePaidManually _ _ _ _).throwsLate h

/-- An order is placed and invoiced, or neither, when the form is told of an error. -/
theorem submitOrder_refused {actor : ClientPortalActor} {input : CreateOrderInput} {e : Failure} {c : Store}
    (h : (submitOrder env actor input).eval s s = .error (e, c)) (he : ¬ e.Rethrown) : c = s := by
  obtain hcreate | ⟨order, c₁, v₁, hcreate, hinvoice⟩ := eval_bind_error h
  · exact eval_error_of_atomic (atomic_createOrder _ _ _) hcreate
  obtain ⟨rfl, ⟨_, rfl⟩ | ⟨_, client, rows, hplaced⟩⟩ := createOrder_ok hcreate
  · obtain hissue | ⟨_, _, _, _, hdone⟩ := eval_bind_error hinvoice
    · exact eval_error_of_atomic (atomic_issueInvoiceForOrder _ _ _) hissue
    · cases hdone
  · obtain ⟨value, _, _, hafter⟩ := hplaced.after
    have hfound : c₁.orders.find order.id = some order := by
      rw [hafter, placeOrder_orders]
      exact Table.find_insert_self (Relation.find_of_fresh hplaced.fresh)
    have hpending : order.status = .pending := by rw [hplaced.order_eq]
    exact absurd ((throwsAt_issueInvoiceForOrder _ hfound hpending).bind_ret e c hinvoice) he

theorem placeOrderAction_refused {actor : ClientPortalActor} {requestMeta : RequestMeta} {form : OrderForm}
    (h : placeOrderAction env actor requestMeta form s = (t, .ok (.error message))) : t = s := by
  unfold placeOrderAction at h
  split at h
  · cases h
    rfl
  · obtain ⟨rfl, hreport⟩ := Prod.mk.injEq .. ▸ h
    obtain ⟨e, hthrown, he⟩ := catchAppError_error hreport
    exact submitOrder_refused (eval_of_run_error hthrown) he

theorem bootstrapSuperAdminAction_refused {requestMeta : RequestMeta} {form : SetupForm} (hhoused : s.Housed)
    (h : bootstrapSuperAdminAction env requestMeta s form = (t, .ok (.error message))) : t = s := by
  unfold bootstrapSuperAdminAction at h
  split at h
  · cases h
    rfl
  · split at h
    · cases h
      rfl
    · obtain ⟨rfl, hreport⟩ := Prod.mk.injEq .. ▸ h
      obtain ⟨e, hthrown, he⟩ := redirectTo_error hreport
      exact eval_error_of_bootstrapSuperAdmin hhoused (eval_of_run_error hthrown) he

theorem requestReset_refused {success : String} {request : Id → String → Db Unit} {email : Option String}
    (h : requestReset env s success request email = (t, .ok (.error message))) : t = s := by
  unfold requestReset at h
  split at h
  · cases h
    rfl
  · obtain ⟨_, hreply⟩ := Prod.mk.injEq .. ▸ h
    cases hout : ((getDefaultTenant env >>= fun tenant => request tenant.id (formText email)).run s).2 with
    | ok a =>
      rw [hout] at hreply
      cases hreply
    | error e =>
      rw [hout] at hreply
      cases hreply

theorem setPassword_refused {success : String} {set : String → String → Db Unit} {form : PasswordForm}
    (hset : ∀ token password, (set token password).Atomic)
    (h : setPassword s success set form = (t, .ok (.error message))) : t = s := by
  unfold setPassword at h
  split at h
  · cases h
    rfl
  · exact attempt_refused (hset _ _).throwsLate h

theorem registerAction_refused {requestMeta : RequestMeta} {zod : Zod} {isEmail : String → Bool} {form : RegisterForm}
    (h : registerAction env requestMeta s zod isEmail form = (t, .ok (.error message))) : t = s := by
  unfold registerAction at h
  split at h
  · cases h
    rfl
  · refine attempt_refused ?_ h
    have htenant : (getDefaultTenant env).Uncommitted :=
      (Relation.uncommitted_findFirst _).bind (fun _ => uncommitted_orThrow _ _)
    exact htenant.bind_throwsLate (fun _ => throwsLate_registerClient _)

theorem verifyEmailPage_refused {token : Option SearchParam}
    (h : verifyEmailPage env s token = (t, .ok (.error message))) : t = s := by
  unfold verifyEmailPage at h
  split at h
  · split at h
    · cases h
      rfl
    · exact attempt_refused (throwsLate_verifyClientEmail _) h
  · cases h
    rfl

end Actions

section Requests

variable {env : Env} {s t : Store} {message : String}

theorem atomic_setClientPassword (env : Env) (token newPassword : String) :
    (setClientPassword env token newPassword).Atomic := by
  refine Uncommitted.bind_atomic ?_ (fun record => Uncommitted.transaction ?_)
  · exact (Relation.uncommitted_findFirst _).bind (fun _ => uncommitted_orThrow _ _)
  · refine (Relation.uncommitted_update _ _ _).bind (fun _ => ?_)
    exact (Relation.uncommitted_update _ _ _).bind (fun _ => trivial)

theorem replying_error {α : Type} {reply : α → WebReply} {outcome : Store × Except Failure α}
    (h : replying reply outcome = (t, .ok (.error message))) :
    ∃ a, outcome = (t, .ok a) ∧ reply a = .error message := by
  obtain ⟨left, result⟩ := outcome
  cases result with
  | error e => cases h
  | ok a =>
    obtain ⟨rfl, hreply⟩ := Prod.mk.injEq .. ▸ h
    exact ⟨a, rfl, Except.ok.inj hreply⟩

theorem replying_state_error {outcome : Store × Except Failure ActionState}
    (h : replying ActionState.reply outcome = (t, .ok (.error message))) : outcome = (t, .ok (.error message)) := by
  obtain ⟨state, rfl, hreply⟩ := replying_error h
  cases state with
  | error text =>
    cases hreply
    rfl
  | success text => cases hreply

theorem replying_result_error {outcome : Store × Except Failure ActionResult}
    (h : replying ActionResult.reply outcome = (t, .ok (.error message))) : outcome = (t, .ok (.error message)) := by
  obtain ⟨result, rfl, hreply⟩ := replying_error h
  cases result with
  | error text =>
    cases hreply
    rfl
  | redirect path => cases hreply

theorem StaffAction.refused {actor : StaffActor} (action : StaffAction)
    (h : action.perform env actor s = (t, .ok (.error message))) : t = s := by
  cases action with
  | createProduct form => exact createProductAction_refused (replying_state_error h)
  | markInvoicePaid form => exact markInvoicePaidAction_refused (replying_state_error h)
  | addClientNote form =>
    have hform := replying_state_error h
    unfold addClientNoteAction at hform
    split at hform
    · cases hform
      rfl
    · exact attempt_refused (atomic_addClientNote _ _ _ _).throwsLate hform
  | changeClientStatus form =>
    have hform := replying_state_error h
    unfold changeClientStatusAction at hform
    split at hform
    · cases hform
      rfl
    · exact attempt_refused (atomic_changeClientStatusTo _ _ _ _).throwsLate hform
  | createStaffUser form =>
    have hform := replying_state_error h
    unfold createStaffUserAction at hform
    split at hform
    · cases hform
      rfl
    · exact attempt_refused (throwsLate_createStaffUser _ _) hform
  | createProductGroup form =>
    have hform := replying_state_error h
    unfold createProductGroupAction at hform
    split at hform
    · cases hform
      rfl
    · exact attempt_refused (atomic_createProductGroup _ _ _).throwsLate hform
  | updateCompanyProfile form =>
    have hform := replying_state_error h
    unfold updateCompanyProfileAction at hform
    split at hform
    · cases hform
      rfl
    · exact attempt_refused (atomic_setSetting _ _ _ _).throwsLate hform

theorem ClientAction.refused {actor : ClientPortalActor} {requestMeta : RequestMeta} (action : ClientAction)
    (h : action.perform env actor requestMeta s = (t, .ok (.error message))) : t = s := by
  cases action with
  | placeOrder form => exact placeOrderAction_refused (replying_result_error h)
  | updateProfile form =>
    have hform := replying_state_error h
    unfold updateProfileAction at hform
    split at hform
    · cases hform
      rfl
    · exact attempt_refused (atomic_updateClientProfile _ _ _ _).throwsLate hform

/-- The forms that ask for a password to sign in with: what they try is recorded. -/
def PublicAction.isLogin : PublicAction → Bool
  | clientLogin .. => true
  | staffLogin .. => true
  | _ => false

def WebAction.isLogin : WebAction → Bool
  | anyone action => action.isLogin
  | _ => false

theorem PublicAction.refused {requestMeta : RequestMeta} (action : PublicAction) (hhoused : s.Housed)
    (hlogin : action.isLogin = false) (h : action.perform env requestMeta s = (t, .ok (.error message))) : t = s := by
  cases action with
  | clientLogin library form => cases hlogin
  | staffLogin library form => cases hlogin
  | register zod isEmail form => exact registerAction_refused (replying_state_error h)
  | verifyEmail token => exact verifyEmailPage_refused (replying_state_error h)
  | requestClientPasswordReset email => exact requestReset_refused (replying_state_error h)
  | staffRequestPasswordReset email => exact requestReset_refused (replying_state_error h)
  | resetClientPassword form => exact setPassword_refused (atomic_setClientPassword _) (replying_state_error h)
  | staffSetPassword form => exact setPassword_refused (atomic_setStaffPassword _) (replying_state_error h)
  | bootstrapSuperAdmin form => exact bootstrapSuperAdminAction_refused hhoused (replying_result_error h)
  | logout => cases h
  | staffLogout => cases h

/-- A request that goes on as somebody does so on tables where only the trace of
the session is new. -/
theorem WebRequest.withActor_refused {α : Type} {r : WebRequest} {actorOf : Option WebSession → Option α}
    {loginPath : String} {k : α → Store → Store × Except Failure WebReply}
    (hk : ∀ actor u v, k actor u = (v, .ok (.error message)) → v = u)
    (h : r.withActor actorOf loginPath k s = (t, .ok (.error message))) : t.unseen = s.unseen := by
  have hleaves : (getSession r.env r.cookie).Leaves Store.unseen := leaves_getSession r.cookie
  have hseen := after_of_leaves hleaves s
  unfold WebRequest.withActor at h
  unfold Program.after at hseen
  cases hsession : (getSession r.env r.cookie).run s with
  | mk u result =>
    rw [hsession] at h hseen
    cases result with
    | error e => cases h
    | ok session =>
      cases hactor : actorOf session with
      | none => simp only [hactor, Prod.mk.injEq, Except.ok.injEq, reduceCtorEq, and_false] at h
      | some actor =>
        simp only [hactor] at h
        rw [hk actor u t h]
        exact hseen

/-- A form that gets an error back has changed nothing: no request is carried out
in part and reported as refused. Tried logins are recorded, and unhandled errors are not
reported to the form. -/
theorem web_error_changes_nothing (r : WebRequest) (hhoused : s.Housed) (hlogin : r.action.isLogin = false)
    (h : r.respond s = (t, .ok (.error message))) : t.unseen = s.unseen := by
  unfold WebRequest.respond at h
  cases haction : r.action with
  | staff action =>
    rw [haction] at h
    exact WebRequest.withActor_refused (fun actor u v hv => action.refused hv) h
  | client action =>
    rw [haction] at h
    exact WebRequest.withActor_refused (fun actor u v hv => action.refused hv) h
  | anyone action =>
    rw [haction] at h hlogin
    rw [action.refused hhoused hlogin h]
  | adminPage =>
    rw [haction] at h
    refine WebRequest.withActor_refused (fun actor u v hv => ?_) h
    cases hv
  | portalPage =>
    rw [haction] at h
    refine WebRequest.withActor_refused (fun actor u v hv => ?_) h
    cases hv

end Requests

namespace Sample

def staffForm : LoginForm :=
  { next := none, email := some "staff@example.test", password := some "correct horse", totpToken := none }

/-- Credentials are checked at time 0. -/
def authLibrary : AuthLibrary where
  signIn raw := do
    let _ ← authorize (moment "a" 0) raw
    return "https://panel.example.test/admin"
  searchParams _ _ := some []

def nowhere : RequestMeta := { ip := none, userAgent := none }

def staffSignIn : WebRequest :=
  { env := moment "a" 0, cookie := none, requestMeta := nowhere, action := .anyone (.staffLogin authLibrary staffForm) }

/-- The member of staff writes a note a minute after the login. -/
def noteRequest : WebRequest where
  env := moment "b" 60000
  cookie := some { actorType := some .staff, sessionToken := some "token-a" }
  requestMeta := nowhere
  action := .staff (.addClientNote { clientId := some "client", body := some "called" })

end Sample

theorem ok_of_toOption {α : Type} {x : Except Failure α} {a : α} (h : x.toOption = some a) : x = .ok a := by
  cases x with
  | error e => cases h
  | ok b => exact congrArg Except.ok (Option.some.inj h)

open Sample in
/-- A note that the role has no permission for. -/
theorem web_error_changes_nothing_note :
    (noteRequest.respond (staffSignIn.after office)).2 = .ok (.error "You do not have permission to perform this action.") ∧
      (noteRequest.after (staffSignIn.after office)).unseen = (staffSignIn.after office).unseen := by
  have hreply : (noteRequest.respond (staffSignIn.after office)).2 =
      .ok (.error "You do not have permission to perform this action.") := ok_of_toOption (by decide +kernel)
  have hhoused : ∀ u ∈ (staffSignIn.after office).staffUsers.rows,
      ((staffSignIn.after office).tenants.find u.tenantId).isSome = true := by decide +kernel
  exact ⟨hreply, web_error_changes_nothing noteRequest hhoused rfl (Prod.ext rfl hreply)⟩

end HostPanel.Model
