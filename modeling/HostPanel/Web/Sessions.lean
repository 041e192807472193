import HostPanel.Lib.Origin
import HostPanel.Access.Lifetime
import HostPanel.Web.Refusals

namespace HostPanel.Model

open HostPanel.Lib HostPanel.Lib.Program

/-- What a relation must keep for every request but a login to keep it. -/
structure KeptByWeb (rel : Store → Store → Prop) : Prop where
  trans : ∀ s t u, rel s t → rel t u → rel s u
  access : KeptByAccess (fun _ => False) rel
  setup : KeptBySetup rel
  billing : ∀ s t : Store, t.accounts = s.accounts → rel s t

section Billing

variable {env : Env} {s t : Store}

/-- A store but for what orders and invoices write. -/
def Store.unbilled (s : Store) : Store :=
  { s with
    orders := ∅
    invoices := ∅
    counters := ∅
    statusHistories := []
    auditLogs := [] }

theorem Store.accounts_of_unbilled (h : t.unbilled = s.unbilled) : t.accounts = s.accounts := by
  have haccounts : t.unbilled.accounts = s.unbilled.accounts := congrArg Store.accounts h
  exact haccounts

theorem OrderStep.unbilled {target : Option Id} {toStatus : OrderStatus} {actor : TransitionActor}
    {reason : Option String} (h : OrderStep s target toStatus actor reason t) : t.unbilled = s.unbilled := by
  cases target with
  | none => exact congrArg Store.unbilled h
  | some id =>
    obtain ⟨order, _, _, _, rfl⟩ := h
    exact Store.of_withLabelledAudit (P := fun t => t.unbilled = s.unbilled) rfl (fun _ => rfl)

theorem unbilled_createOrder (actor : Actor) (input : CreateOrderInput) {order : Order} {c : Store}
    (h : (createOrder env actor input).eval s s = .ok (order, c, t)) : c = t ∧ t.unbilled = s.unbilled := by
  obtain ⟨hc, ⟨_, rfl⟩ | ⟨_, client, rows, hplaced⟩⟩ := createOrder_ok h
  · exact ⟨hc, rfl⟩
  · obtain ⟨_, _, _, hafter⟩ := hplaced.after
    refine ⟨hc, ?_⟩
    rw [hafter, placeOrder_eq]
    rfl

theorem unbilled_after_issueInvoiceForOrder (order : Order) (actor : TransitionActor) (s : Store) :
    ((issueInvoiceForOrder env order actor).after s).unbilled = s.unbilled := by
  obtain hsame | ⟨invoice, c, t, hev, hafter⟩ := after_of_atomic (atomic_issueInvoiceForOrder env order actor) s
  · rw [hsame]
  · obtain ⟨_, client, hissued⟩ := issueInvoiceForOrder_ok hev
    obtain ⟨_, _, _, hstep⟩ := hissued.after
    rw [hafter, hstep.unbilled, issueInvoice_eq]
    rfl

theorem unbilled_after_markInvoicePaidManually (actor : StaffActor) (invoiceId : Id) (input : PaymentInput) (s : Store) :
    ((markInvoicePaidManually env actor invoiceId input).after s).unbilled = s.unbilled := by
  obtain hsame | ⟨updated, c, t, hev, hafter⟩ :=
    after_of_atomic (atomic_markInvoicePaidManually env actor invoiceId input) s
  · rw [hsame]
  · obtain ⟨_, invoice, amount, paid, due, status, hpaid⟩ := markInvoicePaidManually_ok hev
    rw [hafter, hpaid.after.unbilled]
    rfl

theorem after_submitOrder {actor : ClientPortalActor} {input : CreateOrderInput} {order : Order}
    (h : (createOrder env (.clientContact actor) input).eval s s = .ok (order, t, t)) :
    (submitOrder env actor input).after s =
      (issueInvoiceForOrder (env.drawn 2) order actor.transitionActor).after t :=
  (after_bind_ok h).trans (after_bind_ret _ _ _)

theorem unbilled_after_submitOrder (actor : ClientPortalActor) (input : CreateOrderInput) (s : Store) :
    ((submitOrder env actor input).after s).unbilled = s.unbilled := by
  cases hev : (createOrder env (.clientContact actor) input).eval s s with
  | error x =>
    obtain ⟨e, c⟩ := x
    rw [submitOrder, after_bind_error hev, eval_error_of_atomic (atomic_createOrder _ _ _) hev]
  | ok out =>
    obtain ⟨order, c, t⟩ := out
    obtain ⟨rfl, hplaced⟩ := unbilled_createOrder _ _ hev
    rw [after_submitOrder hev, unbilled_after_issueInvoiceForOrder, hplaced]

end Billing

namespace KeptByWeb

variable {rel : Store → Store → Prop} (h : KeptByWeb rel) {env : Env}

include h

theorem of_guarantees {α : Type} {p : Db α} (hp : p.Guarantees rel) (s : Store) : rel s (p.after s) :=
  after_of_guarantees h.setup.refl h.trans hp s

theorem insertBilling {ρ ι : Type} [DecidableEq ι] {key : ρ → ι} {R : Relation key} {row : ρ}
    (hsame : ∀ t, (R.insert row t).accounts = t.accounts) : (R.create row).Guarantees rel :=
  Relation.guarantees_create _ (fun t => h.billing t _ (hsame t))

theorem createProductGroup (actor : StaffActor) (input : ProductGroupInput) :
    (createProductGroup env actor input).Guarantees rel := by
  refine (guarantees_requirePermission _ _).bind (fun _ => Guarantees.transaction ?_)
  refine (guarantees_lift _).bind (fun sortOrder => (h.insertBilling (fun _ => rfl)).bind (fun group => ?_))
  exact (kept_recordAuditLog h.access _).bind (fun _ => trivial)

theorem submitProduct (actor : StaffActor) (form : ProductForm) (price : ℤ) :
    (submitProduct env actor form price).Guarantees rel := by
  refine Guarantees.bind ?_ (fun product => ?_)
  · refine (guarantees_requirePermission _ _).bind (fun _ => Guarantees.transaction ?_)
    refine (guarantees_lift _).bind (fun stockLimit => (guarantees_lift _).bind (fun sortOrder => ?_))
    refine (h.insertBilling (fun _ => rfl)).bind (fun created => ?_)
    exact (kept_recordAuditLog h.access _).bind (fun _ => trivial)
  · split
    · trivial
    · refine Guarantees.bind ?_ (fun _ => trivial)
      refine (leaves_setProductPrice (π := Store.accounts) _ _ _ ?_ ?_).guarantees (fun s t ht => h.billing s t ht)
      · exact fun _ _ => rfl
      · exact fun _ _ => rfl

theorem setSetting (actor : StaffActor) (key : String) (value : JsonObject) :
    (setSetting env actor key value).Guarantees rel := by
  refine (guarantees_requirePermission _ _).bind (fun _ => Guarantees.transaction ?_)
  refine (Relation.guarantees_findUnique _).bind (fun before => Guarantees.bind ?_ (fun after => ?_))
  · exact Relation.guarantees_upsertSet _ _ _ _ (fun t => h.billing t _ rfl) (fun t => h.billing t _ rfl)
  · exact kept_recordAuditLog h.access _

theorem changeClientStatusTo (actor : StaffActor) (clientId : Id) (status reason : String) :
    (changeClientStatusTo env actor clientId status reason).Guarantees rel := by
  unfold Model.changeClientStatusTo
  split
  · exact kept_changeClientStatus h.access _ _ _ _
  · refine (guarantees_requirePermission _ _).bind (fun _ => ?_)
    exact (Relation.guarantees_findUniqueOrThrow _).bind (fun _ => trivial)

theorem attempt {α : Type} {message : String} {p : Db α} (hp : p.Guarantees rel) (s : Store) :
    rel s (Model.attempt message p s).1 := h.of_guarantees hp s

theorem staffAction (actor : StaffActor) (s : Store) (action : StaffAction) :
    rel s (action.perform env actor s).1 := by
  cases action with
  | addClientNote form =>
    simp only [StaffAction.perform, replying, addClientNoteAction]
    split
    · exact h.setup.refl s
    · exact h.attempt (kept_addClientNote h.access _ _ _) s
  | changeClientStatus form =>
    simp only [StaffAction.perform, replying, changeClientStatusAction]
    split
    · exact h.setup.refl s
    · exact h.attempt (h.changeClientStatusTo _ _ _ _) s
  | createStaffUser form =>
    simp only [StaffAction.perform, replying, createStaffUserAction]
    split
    · exact h.setup.refl s
    · exact h.attempt (kept_createStaffUser h.access _ _) s
  | createProductGroup form =>
    simp only [StaffAction.perform, replying, createProductGroupAction]
    split
    · exact h.setup.refl s
    · exact h.attempt (h.createProductGroup _ _) s
  | createProduct form =>
    simp only [StaffAction.perform, replying, createProductAction]
    split
    · exact h.setup.refl s
    · split
      · exact h.setup.refl s
      · exact h.setup.refl s
      · exact h.of_guarantees (h.submitProduct _ _ _) s
  | markInvoicePaid form =>
    simp only [StaffAction.perform, replying, markInvoicePaidAction]
    split
    · exact h.setup.refl s
    · split
      · exact h.setup.refl s
      · exact h.setup.refl s
      · exact h.billing s _ (Store.accounts_of_unbilled (unbilled_after_markInvoicePaidManually _ _ _ s))
  | updateCompanyProfile form =>
    simp only [StaffAction.perform, replying, updateCompanyProfileAction]
    split
    · exact h.setup.refl s
    · exact h.attempt (h.setSetting _ _ _) s

theorem clientAction (actor : ClientPortalActor) (requestMeta : RequestMeta) (s : Store) (action : ClientAction) :
    rel s (action.perform env actor requestMeta s).1 := by
  cases action with
  | placeOrder form =>
    change rel s (placeOrderAction env actor requestMeta form s).1
    unfold placeOrderAction
    split
    · exact h.setup.refl s
    · exact h.billing s _ (Store.accounts_of_unbilled (unbilled_after_submitOrder _ _ s))
  | updateProfile form =>
    change rel s (updateProfileAction env actor form s).1
    unfold updateProfileAction
    split
    · exact h.setup.refl s
    · exact h.attempt (kept_updateClientProfile h.access _ _ _) s

omit h in
theorem getDefaultTenant_bind {α : Type} {f : Tenant → Db α} (hf : ∀ tenant, (f tenant).Guarantees rel) :
    (getDefaultTenant env >>= f).Guarantees rel :=
  Guarantees.bind ((Relation.guarantees_findFirst _).bind (fun _ => guarantees_orThrow _ _)) hf

theorem publicAction (requestMeta : RequestMeta) (s : Store) (action : PublicAction) (hlogin : action.isLogin = false) :
    rel s (action.perform env requestMeta s).1 := by
  cases action with
  | clientLogin library form => cases hlogin
  | staffLogin library form => cases hlogin
  | register zod isEmail form =>
    change rel s (registerAction env requestMeta s zod isEmail form).1
    unfold registerAction
    split
    · exact h.setup.refl s
    · exact h.attempt (getDefaultTenant_bind (fun _ => kept_registerClient h.access _)) s
  | verifyEmail token =>
    change rel s (verifyEmailPage env s token).1
    unfold verifyEmailPage
    split
    · split
      · exact h.setup.refl s
      · exact h.attempt (kept_verifyClientEmail h.access _) s
    · exact h.setup.refl s
  | requestClientPasswordReset email =>
    change rel s (requestClientPasswordResetAction env s email).1
    unfold requestClientPasswordResetAction requestReset
    split
    · exact h.setup.refl s
    · exact h.of_guarantees (getDefaultTenant_bind (fun _ => kept_requestClientPasswordReset h.access _ _)) s
  | staffRequestPasswordReset email =>
    change rel s (staffRequestPasswordResetAction env s email).1
    unfold staffRequestPasswordResetAction requestReset
    split
    · exact h.setup.refl s
    · exact h.of_guarantees (getDefaultTenant_bind (fun _ => kept_requestStaffPasswordReset h.access _ _)) s
  | resetClientPassword form =>
    change rel s (resetClientPasswordAction env s form).1
    unfold resetClientPasswordAction setPassword
    split
    · exact h.setup.refl s
    · exact h.attempt (kept_setClientPassword h.access _ _) s
  | staffSetPassword form =>
    change rel s (staffSetPasswordAction env s form).1
    unfold staffSetPasswordAction setPassword
    split
    · exact h.setup.refl s
    · exact h.attempt (kept_setStaffPassword h.access _ _) s
  | bootstrapSuperAdmin form =>
    change rel s (bootstrapSuperAdminAction env requestMeta s form).1
    unfold bootstrapSuperAdminAction
    split
    · exact h.setup.refl s
    · split
      · exact h.setup.refl s
      · exact h.of_guarantees (h.setup.bootstrapSuperAdmin _) s
  | logout => exact h.setup.refl s
  | staffLogout => exact h.setup.refl s

theorem getSession (cookie : Option Jwt) : (getSession env cookie).Guarantees rel := by
  cases cookie with
  | none => trivial
  | some token => exact (kept_sessionCallback h.access _ _).bind (fun _ => trivial)

theorem withActor {α : Type} (r : WebRequest) (actorOf : Option WebSession → Option α) (loginPath : String)
    {k : α → Store → Store × Except Failure WebReply} (hk : ∀ actor t, rel t (k actor t).1) (s : Store) :
    rel s (r.withActor actorOf loginPath k s).1 := by
  have hkept : (Model.getSession r.env r.cookie).Guarantees rel := h.getSession r.cookie
  have hsession := h.of_guarantees hkept s
  unfold WebRequest.withActor
  unfold Program.after at hsession
  split
  · rename_i t e hrun
    rw [hrun] at hsession
    exact hsession
  · rename_i t session hrun
    rw [hrun] at hsession
    split
    · exact hsession
    · exact h.trans _ _ _ hsession (hk _ t)

theorem request (r : WebRequest) (s : Store) (hlogin : r.action.isLogin = false) : rel s (r.after s) := by
  unfold WebRequest.after WebRequest.respond
  cases haction : r.action with
  | staff action => exact h.withActor r _ _ (fun actor t => h.staffAction actor t action) s
  | client action => exact h.withActor r _ _ (fun actor t => h.clientAction actor _ t action) s
  | anyone action =>
    rw [haction] at hlogin
    exact h.publicAction _ s action hlogin
  | adminPage => exact h.withActor r _ _ (fun _ t => h.setup.refl t) s
  | portalPage => exact h.withActor r _ _ (fun _ t => h.setup.refl t) s

end KeptByWeb

end HostPanel.Model
