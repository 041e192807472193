import HostPanel.Lib.Simulation
import HostPanel.Lib.Interleaving
import HostPanel.Model.Services
import HostPanel.Web.Portal

namespace HostPanel.Model

open HostPanel.Lib HostPanel.Lib.Program

/-- A call of one of the services that the web application uses. -/
inductive ServiceCall where
  | books (call : Call)
  | validateStaffSession (env : Env) (token : String)
  | validateClientSession (env : Env) (token : String)
  | authenticateStaffUser (env : Env) (input : StaffLoginInput)
  | authenticateClientContact (env : Env) (input : LoginInput)
  | createStaffSession (env : Env) (input : StaffSessionInput)
  | createClientSession (env : Env) (input : ClientSessionInput)
  | requestStaffPasswordReset (env : Env) (tenantId : Id) (email : String)
  | requestClientPasswordReset (env : Env) (tenantId : Id) (email : String)
  | setStaffPassword (env : Env) (token newPassword : String)
  | setClientPassword (env : Env) (token newPassword : String)
  | createStaffUser (env : Env) (actor : StaffActor) (input : CreateStaffUserInput)
  | createProductGroup (env : Env) (actor : StaffActor) (input : ProductGroupInput)
  | createProduct (env : Env) (actor : StaffActor) (input : ProductInput)
  | setSetting (env : Env) (actor : StaffActor) (key : String) (value : JsonObject)
  | bootstrapSuperAdmin (env : Env) (input : BootstrapInput)

/-- The actor a call is made as, where the service asks for one. -/
def Call.actor? : Call → Option Actor
  | setProductPrice _ actor _ | markInvoicePaidManually _ actor _ _ | cancelInvoice actor _ _ | addClientNote _ actor _ _
  | changeClientStatus _ actor _ _ _ | disableStaffUser _ actor _ => some (.staff actor)
  | createOrder _ actor _ | updateClientProfile _ actor _ _ => some actor
  | issueInvoiceForOrder .. | registerClient .. | verifyClientEmail .. => none

namespace ServiceCall

def after (s : Store) : ServiceCall → Store
  | books call => call.after s
  | validateStaffSession env token => (Model.validateStaffSession env token).after s
  | validateClientSession env token => (Model.validateClientSession env token).after s
  | authenticateStaffUser env input => (Model.authenticateStaffUser env input).after s
  | authenticateClientContact env input => (Model.authenticateClientContact env input).after s
  | createStaffSession env input => (Model.createStaffSession env input).after s
  | createClientSession env input => (Model.createClientSession env input).after s
  | requestStaffPasswordReset env tenantId email => (Model.requestStaffPasswordReset env tenantId email).after s
  | requestClientPasswordReset env tenantId email => (Model.requestClientPasswordReset env tenantId email).after s
  | setStaffPassword env token newPassword => (Model.setStaffPassword env token newPassword).after s
  | setClientPassword env token newPassword => (Model.setClientPassword env token newPassword).after s
  | createStaffUser env actor input => (Model.createStaffUser env actor input).after s
  | createProductGroup env actor input => (Model.createProductGroup env actor input).after s
  | createProduct env actor input => (Model.createProduct env actor input).after s
  | setSetting env actor key value => (Model.setSetting env actor key value).after s
  | bootstrapSuperAdmin env input => (Model.bootstrapSuperAdmin env input).after s

def actor? : ServiceCall → Option Actor
  | books call => call.actor?
  | createStaffUser _ actor _ | createProductGroup _ actor _ | createProduct _ actor _ | setSetting _ actor _ _ =>
    some (.staff actor)
  | _ => none

/-- What the web application calls the services for: it neither cancels invoices
nor disables accounts, and the orders it invoices are rows of the table. -/
def OfWeb (s : Store) : ServiceCall → Prop
  | books (.issueInvoiceForOrder _ order _) => order ∈ s.orders
  | books (.cancelInvoice ..) | books (.disableStaffUser ..) => False
  | _ => True

/-- A call of the web application, made as one of the actors if as any. -/
structure MadeBy (actors : Actor → Prop) (s : Store) (call : ServiceCall) : Prop where
  actor : ∀ actor, call.actor? = some actor → actors actor
  ofWeb : call.OfWeb s

theorem MadeBy.mono {actors actors' : Actor → Prop} {s : Store} {call : ServiceCall} (h : call.MadeBy actors s)
    (hactors : ∀ actor, actors actor → actors' actor) : call.MadeBy actors' s :=
  ⟨fun actor ha => hactors actor (h.actor actor ha), h.ofWeb⟩

end ServiceCall

/-- Services called one after the other, as the actors if as any, lead from the
one tables to the others. -/
abbrev ServedBy (actors : Actor → Prop) : Store → Store → Prop :=
  Reaches ServiceCall.after (fun s call => call.MadeBy actors s)

section Settled

section Reads

variable {ρ ι α : Type} [DecidableEq ι] {key : ρ → ι} {R : Relation key}

omit [DecidableEq ι] in
theorem settled_findFirst (p : ρ → Bool) : (R.findFirst p).Settled false := fun _ => rfl

theorem settled_findUniqueOrThrow (i : ι) : (R.findUniqueOrThrow i).Settled false := by
  intro v
  cases h : (R.get v).find i <;> simp only [h] <;> trivial

theorem settled_ensure (p : Prop) [Decidable p] (e : Failure) : (ensure p e).Settled false := by
  by_cases hp : p
  · rw [ensure, if_pos hp]
    rfl
  · rw [ensure, if_neg hp]
    trivial

theorem settled_lift (x : Except Failure α) : (lift x).Settled false := by
  cases x <;> trivial

theorem settled_orThrow (x : Option α) (e : Failure) : (orThrow x e).Settled false := by
  cases x <;> trivial

end Reads

variable {α : Type} {env : Env}

theorem settled_requireOrderActor (actor : Actor) (input : CreateOrderInput) :
    (requireOrderActor actor input).Settled false := by
  cases actor <;> exact settled_ensure _ _

theorem settled_createOrder (actor : Actor) (input : CreateOrderInput) :
    (createOrder env actor input).Settled false := by
  apply (settled_requireOrderActor actor input).bind
  intro _
  apply (settled_ensure _ _).bind
  intro _
  apply (settled_findFirst _).bind
  intro existing
  cases existing with
  | some order => exact rfl
  | none => exact (settled_findUniqueOrThrow _).bind (fun client => settled_transaction _ _)

theorem settled_recordLoginAttempt (input : LoginAttempt) : (recordLoginAttempt env input).Settled false := by
  refine (settled_transaction _ _).bind (fun _ => ?_)
  exact rfl

theorem settled_failLogin (actorType : AuthActorType) (actorId : Option Id) (input : LoginInput)
    (email reason : String) : (failLogin env actorType actorId input email reason : Db α).Settled false :=
  (settled_recordLoginAttempt _).bind (fun _ => trivial)

theorem settled_checkSecondFactor (input : StaffLoginInput) (email : String) (user : StaffUser) :
    (checkSecondFactor env input email user).Settled false := by
  unfold checkSecondFactor
  split
  · cases input.totpToken.filter (fun t => t != "") with
    | none => trivial
    | some token =>
      refine (settled_lift _).bind (fun secret => ?_)
      unfold checkStaffCode
      split
      · rfl
      · exact settled_failLogin _ _ _ _ _
  · rfl

theorem settled_authenticateStaffUser (input : StaffLoginInput) : (authenticateStaffUser env input).Settled false := by
  refine (settled_findFirst _).bind (fun found => ?_)
  cases found with
  | none => exact settled_failLogin _ _ _ _ _
  | some user =>
    simp only [checkStaffAccount]
    split
    · exact settled_failLogin _ _ _ _ _
    split
    · exact settled_failLogin _ _ _ _ _
    unfold checkStaffPassword
    split
    · refine (settled_checkSecondFactor _ _ _).bind (fun _ => ?_)
      refine (settled_recordLoginAttempt _).bind (fun _ => ?_)
      exact (settled_transaction _ _).bind (fun _ => rfl)
    · refine Settled.bind (fun _ => rfl) (fun locked => ?_)
      refine Settled.bind ?_ (fun _ => settled_failLogin _ _ _ _ _)
      unfold lockStaffOut
      split
      · exact (settled_transaction _ _).bind (fun _ => rfl)
      · rfl

theorem settled_authenticateClientContact (input : LoginInput) :
    (authenticateClientContact env input).Settled false := by
  refine (settled_findFirst _).bind (fun found => ?_)
  cases found with
  | none => exact settled_failLogin _ _ _ _ _
  | some contact =>
    refine (settled_findUniqueOrThrow _).bind (fun client => ?_)
    unfold checkContactAccount
    split
    · exact settled_failLogin _ _ _ _ _
    split
    · exact settled_failLogin _ _ _ _ _
    split
    · exact settled_failLogin _ _ _ _ _
    unfold checkContactPassword
    split
    · refine (settled_recordLoginAttempt _).bind (fun _ => ?_)
      exact (settled_transaction _ _).bind (fun _ => rfl)
    · refine Settled.bind (fun _ => rfl) (fun locked => ?_)
      refine Settled.bind ?_ (fun _ => settled_failLogin _ _ _ _ _)
      unfold lockContactOut
      split
      · exact (settled_transaction _ _).bind (fun _ => rfl)
      · rfl

theorem settled_createProduct (actor : StaffActor) (input : ProductInput) :
    (createProduct env actor input).Settled false :=
  (settled_ensure _ _).bind (fun _ => settled_transaction _ _)

theorem settled_getDefaultTenant : (getDefaultTenant env).Settled false :=
  (settled_findFirst _).bind (fun _ => settled_orThrow _ _)

end Settled

section Actions

variable {actors : Actor → Prop} {env : Env} {s : Store}

namespace ServedBy

theorem as {actor : Actor} (call : ServiceCall) (hactor : actors actor) (hcall : call.actor? = some actor)
    (hweb : call.OfWeb s) : ServedBy actors s (call.after s) :=
  Reaches.single ⟨fun _ ha => Option.some.inj (hcall.symm.trans ha) ▸ hactor, hweb⟩

theorem asNobody (call : ServiceCall) (hcall : call.actor? = none) (hweb : call.OfWeb s) :
    ServedBy actors s (call.after s) :=
  Reaches.single ⟨fun _ ha => absurd (hcall.symm.trans ha) nofun, hweb⟩

end ServedBy

theorem leaves_orThrow {α β : Type} {π : Store → β} (x : Option α) (e : Failure) : (orThrow x e).Leaves π := by
  cases x <;> trivial

theorem served_getDefaultTenant_bind {α : Type} {f : Tenant → Db α}
    (h : ∀ tenant, ServedBy actors s ((f tenant).after s)) :
    ServedBy actors s ((getDefaultTenant env >>= f).after s) := by
  refine after_bind_of_reads settled_getDefaultTenant ?_ (.refl s) h
  exact (Relation.leaves_findFirst _).bind (fun _ => leaves_orThrow _ _)

theorem served_changeClientStatusTo {actor : StaffActor} (hactor : actors (.staff actor)) (clientId : Id)
    (status reason : String) : ServedBy actors s ((changeClientStatusTo env actor clientId status reason).after s) := by
  unfold changeClientStatusTo
  split
  · rename_i toStatus _
    exact ServedBy.as (.books (.changeClientStatus env actor clientId toStatus reason)) hactor rfl trivial
  · have hleaves : (do
        requirePermission actor.permissions .clientsWrite
        let client ← prisma.client.findUniqueOrThrow clientId
        .raise (businessRuleError "client.invalid_transition"
          ("Cannot move a client from " ++ client.status.name ++ " to " ++ status ++ ".")) : Db Unit).Leaves
          (id : Store → Store) :=
      (leaves_ensure _ _).bind (fun _ => (Relation.leaves_findUniqueOrThrow _).bind (fun _ => trivial))
    have hsame := after_of_leaves hleaves s
    rw [id, id] at hsame
    rw [hsame]
    exact .refl s

theorem served_submitProduct {actor : StaffActor} (hactor : actors (.staff actor)) (form : ProductForm) (price : ℤ) :
    ServedBy actors s ((submitProduct env actor form price).after s) := by
  refine reaches_bind (settled_createProduct actor form.input) ?_ (fun product t _ => ?_)
  · exact ServedBy.as (.createProduct env actor form.input) hactor rfl trivial
  · split
    · exact .refl t
    · refine reaches_bind_of_returns (fun _ => ⟨_, rfl⟩) ?_
      exact ServedBy.as (.books (.setProductPrice (env.drawn 1) actor (monthlyPriceInput product.id price)))
        hactor rfl trivial

/-- The actions of the admin pages call services as the member of staff. -/
theorem StaffAction.served (action : StaffAction) {actor : StaffActor} (hactor : actors (.staff actor)) :
    ServedBy actors s (action.perform env actor s).1 := by
  cases action with
  | addClientNote form =>
    simp only [StaffAction.perform, replying, addClientNoteAction]
    split
    · exact .refl s
    · exact ServedBy.as (.books (.addClientNote env actor (formText form.clientId) (trimmed form.body))) hactor
        rfl trivial
  | changeClientStatus form =>
    simp only [StaffAction.perform, replying, changeClientStatusAction]
    split
    · exact .refl s
    · exact served_changeClientStatusTo hactor _ _ _
  | createStaffUser form =>
    simp only [StaffAction.perform, replying, createStaffUserAction]
    split
    · exact .refl s
    · exact ServedBy.as (.createStaffUser env actor
        { email := trimmed form.email, name := trimmed form.name, roleKey := formText form.roleKey }) hactor rfl trivial
  | createProductGroup form =>
    simp only [StaffAction.perform, replying, createProductGroupAction]
    split
    · exact .refl s
    · exact ServedBy.as (.createProductGroup env actor { name := trimmed form.name, slug := trimmed form.slug })
        hactor rfl trivial
  | createProduct form =>
    simp only [StaffAction.perform, replying, createProductAction]
    split
    · exact .refl s
    · split
      · exact .refl s
      · exact .refl s
      · exact served_submitProduct hactor _ _
  | markInvoicePaid form =>
    simp only [StaffAction.perform, replying, markInvoicePaidAction]
    split
    · exact .refl s
    · split
      · exact .refl s
      · exact .refl s
      · exact ServedBy.as (.books (.markInvoicePaidManually env actor (form.invoiceId.getD "") _)) hactor rfl
          trivial
  | updateCompanyProfile form =>
    simp only [StaffAction.perform, replying, updateCompanyProfileAction]
    split
    · exact .refl s
    · exact ServedBy.as (.setSetting env actor companyProfileSettingKey form.profile) hactor rfl trivial

theorem mem_orders_of_createOrder {actor : Actor} {input : CreateOrderInput} {order : Order} {t : Store}
    (h : (createOrder env actor input).run s = (t, .ok order)) : order ∈ t.orders := by
  obtain ⟨c, hev⟩ := run_ok_iff.mp h
  obtain ⟨_, ⟨hfound, rfl⟩ | ⟨_, client, rows, hplaced⟩⟩ := createOrder_ok hev
  · exact List.mem_of_find?_eq_some hfound
  · obtain ⟨value, _, _, hafter⟩ := hplaced.after
    rw [hafter, placeOrder_orders]
    exact (Table.mem_insert (Relation.find_of_fresh hplaced.fresh)).mpr (Or.inr rfl)

theorem served_submitOrder {actor : ClientPortalActor} (hactor : actors (.clientContact actor))
    (input : CreateOrderInput) : ServedBy actors s ((submitOrder env actor input).after s) := by
  refine reaches_bind (settled_createOrder (.clientContact actor) input) ?_ (fun order t hrun => ?_)
  · exact ServedBy.as (.books (.createOrder env (.clientContact actor) input)) hactor rfl trivial
  · refine reaches_bind_of_returns (fun _ => ⟨_, rfl⟩) ?_
    exact ServedBy.asNobody (.books (.issueInvoiceForOrder (env.drawn 2) order actor.transitionActor)) rfl
      (mem_orders_of_createOrder hrun)

/-- The actions of the portal call services as the contact. -/
theorem ClientAction.served (action : ClientAction) {actor : ClientPortalActor} (hactor : actors (.clientContact actor))
    (requestMeta : RequestMeta) : ServedBy actors s (action.perform env actor requestMeta s).1 := by
  cases action with
  | placeOrder form =>
    simp only [ClientAction.perform, replying, placeOrderAction]
    split
    · exact .refl s
    · exact served_submitOrder hactor _
  | updateProfile form =>
    simp only [ClientAction.perform, replying, updateProfileAction]
    split
    · exact .refl s
    · exact ServedBy.as (.books (.updateClientProfile env (.clientContact actor) actor.clientId form.patch)) hactor
        rfl trivial

theorem served_authorize (raw : Credentials) : ServedBy actors s ((authorize env raw).after s) := by
  refine reaches_bind (settled_ensure _ _) ?_ (fun _ t hrun => ?_)
  · have hsame : (ensure (raw.email ≠ "" ∧ raw.password ≠ "")
        (authenticationError "auth.invalid_credentials" "auth.invalid_credentials") : Db Unit).after s = s :=
      after_of_leaves (leaves_ensure (π := id) _ _) s
    rw [hsame]
    exact .refl s
  · refine served_getDefaultTenant_bind (fun tenant => ?_)
    split
    · refine reaches_bind (settled_authenticateStaffUser _) ?_ (fun staff u _ => ?_)
      · exact ServedBy.asNobody (.authenticateStaffUser env _) rfl trivial
      · refine reaches_bind_of_returns (fun _ => ⟨_, rfl⟩) ?_
        exact ServedBy.asNobody (.createStaffSession (env.drawn 1) _) rfl trivial
    · refine reaches_bind (settled_authenticateClientContact _) ?_ (fun contact u _ => ?_)
      · exact ServedBy.asNobody (.authenticateClientContact env _) rfl trivial
      · refine reaches_bind_of_returns (fun _ => ⟨_, rfl⟩) ?_
        exact ServedBy.asNobody (.createClientSession (env.drawn 1) _) rfl trivial

/-- The public actions but the logins call services as nobody. -/
theorem PublicAction.served (action : PublicAction) (requestMeta : RequestMeta) (hlogin : action.isLogin = false) :
    ServedBy actors s (action.perform env requestMeta s).1 := by
  cases action with
  | clientLogin library form => cases hlogin
  | staffLogin library form => cases hlogin
  | register zod isEmail form =>
    simp only [PublicAction.perform, replying, registerAction]
    split
    · exact .refl s
    · refine served_getDefaultTenant_bind (f := fun tenant => registerClient env _) (fun tenant => ?_)
      exact ServedBy.asNobody (.books (.registerClient env _)) rfl trivial
  | verifyEmail token =>
    simp only [PublicAction.perform, replying, verifyEmailPage]
    split
    · split
      · exact .refl s
      · exact ServedBy.asNobody (.books (.verifyClientEmail env _)) rfl trivial
    · exact .refl s
  | requestClientPasswordReset email =>
    simp only [PublicAction.perform, replying, requestClientPasswordResetAction, requestReset]
    split
    · exact .refl s
    · refine served_getDefaultTenant_bind (fun tenant => ?_)
      exact ServedBy.asNobody (.requestClientPasswordReset env tenant.id (formText email)) rfl trivial
  | staffRequestPasswordReset email =>
    simp only [PublicAction.perform, replying, staffRequestPasswordResetAction, requestReset]
    split
    · exact .refl s
    · refine served_getDefaultTenant_bind (fun tenant => ?_)
      exact ServedBy.asNobody (.requestStaffPasswordReset env tenant.id (formText email)) rfl trivial
  | resetClientPassword form =>
    simp only [PublicAction.perform, replying, resetClientPasswordAction, setPassword]
    split
    · exact .refl s
    · exact ServedBy.asNobody (.setClientPassword env (formText form.token) (formText form.password)) rfl trivial
  | staffSetPassword form =>
    simp only [PublicAction.perform, replying, staffSetPasswordAction, setPassword]
    split
    · exact .refl s
    · exact ServedBy.asNobody (.setStaffPassword env (formText form.token) (formText form.password)) rfl trivial
  | bootstrapSuperAdmin form =>
    simp only [PublicAction.perform, replying, bootstrapSuperAdminAction]
    split
    · exact .refl s
    · split
      · exact .refl s
      · exact ServedBy.asNobody (.bootstrapSuperAdmin env _) rfl trivial
  | logout => exact .refl s
  | staffLogout => exact .refl s

theorem served_getSession (cookie : Option Jwt) : ServedBy actors s ((getSession env cookie).after s) := by
  cases cookie with
  | none => exact .refl s
  | some token =>
    have hafter : (getSession env (some token)).after s = (sessionCallback env {} token).after s :=
      after_bind_ret (sessionCallback env {} token) some s
    rw [hafter]
    unfold sessionCallback
    split
    · refine reaches_bind_of_returns (fun _ => ⟨_, rfl⟩) ?_
      exact ServedBy.asNobody (.validateStaffSession env _) rfl trivial
    · refine reaches_bind_of_returns (fun _ => ⟨_, rfl⟩) ?_
      exact ServedBy.asNobody (.validateClientSession env _) rfl trivial
    · exact .refl s

end Actions

namespace WebRequest

variable {actors : Actor → Prop} {s : Store}

theorem withActor_served {α : Type} (r : WebRequest) (actorOf : Option WebSession → Option α) (loginPath : String)
    {k : α → Store → Store × Except Failure WebReply}
    (hk : ∀ actor, actorOf (s.webSession r.env r.cookie) = some actor → ∀ t, ServedBy actors t (k actor t).1) :
    ServedBy actors s (r.withActor actorOf loginPath k s).1 := by
  have hsession : ServedBy actors s ((getSession r.env r.cookie).after s) := served_getSession r.cookie
  have hanswer := run_getSession s r.env r.cookie
  unfold Program.after at hsession
  unfold withActor
  cases hrun : (getSession r.env r.cookie).run s with
  | mk t result =>
    rw [hrun] at hsession hanswer
    obtain rfl : result = .ok (s.webSession r.env r.cookie) := hanswer
    simp only
    cases hactor : actorOf (s.webSession r.env r.cookie) with
    | none => exact hsession
    | some actor => exact hsession.trans (hk actor hactor t)

/-- The actor that the session of a request stands for. -/
def ActsAs (r : WebRequest) (s : Store) : Actor → Prop
  | .staff actor => getStaffActor (s.webSession r.env r.cookie) = some actor
  | .clientContact actor => getClientActor (s.webSession r.env r.cookie) = some actor

/-- Whatever a request leaves, finished or given up half way, calls of services
leave, made as the actor that its session stands for. -/
theorem served {r : WebRequest} (hfaithful : r.Faithful) (s : Store) : ServedBy (r.ActsAs s) s (r.after s) := by
  obtain hlogin | ⟨library, raw, _, hafter⟩ := after_login hfaithful s
  · unfold WebRequest.after WebRequest.respond
    cases haction : r.action with
    | staff action => exact r.withActor_served _ _ (fun actor hactor _ => action.served hactor)
    | client action => exact r.withActor_served _ _ (fun actor hactor _ => action.served hactor _)
    | anyone action =>
      rw [haction] at hlogin
      exact action.served _ hlogin
    | adminPage => exact r.withActor_served _ _ (fun _ _ t => .refl t)
    | portalPage => exact r.withActor_served _ _ (fun _ _ t => .refl t)
  · rw [hafter]
    exact served_authorize raw

end WebRequest

/-- The actors that the sessions of the requests stand for where they are made. -/
def ActedIn (start : Store) (requests : List WebRequest) (actor : Actor) : Prop :=
  ∃ before r later, requests = before ++ r :: later ∧ r.ActsAs (runWeb start before) actor

/-- The web application changes the tables through the services alone: every run
of it is a run of calls of services, each made as nobody or as an actor that the session
of one of the requests stood for. -/
theorem web_run_served (start : Store) {requests : List WebRequest} (hfaithful : ∀ r ∈ requests, r.Faithful) :
    ∃ calls, AlongRun ServiceCall.after (fun s call => call.MadeBy (ActedIn start requests) s) start calls ∧
      runFrom ServiceCall.after start calls = runWeb start requests := by
  have hserved : ∀ (s : Store) (r : WebRequest),
      (r.Faithful ∧ ∀ actor, r.ActsAs s actor → ActedIn start requests actor) →
      ServedBy (ActedIn start requests) s (r.after s) := by
    rintro s r ⟨hr, hactors⟩
    exact (WebRequest.served hr s).mono (fun _ _ hmade => hmade.mono hactors)
  refine reaches_runFrom hserved (alongRun_of_split (fun before r later hsplit => ⟨hfaithful r ?_, fun actor hactor => ?_⟩))
  · rw [hsplit]
    exact List.mem_append_right before List.mem_cons_self
  · exact ⟨before, r, later, hsplit, hactor⟩

namespace Sample

theorem orderRequest_faithful : orderRequest.Faithful := fun _ _ hraw => nomatch hraw

theorem memberOrders_faithful : ∀ r ∈ [memberSignIn, orderRequest], r.Faithful := by
  intro r hr
  obtain rfl | hlast := List.mem_cons.mp hr
  · exact memberSignIn_faithful _ List.mem_cons_self
  · obtain rfl := List.mem_singleton.mp hlast
    exact orderRequest_faithful

end Sample

open Sample in
/-- The contact signs in and orders. -/
theorem web_run_served_order :
    (runWeb portal [memberSignIn, orderRequest]).orders.rows.map Order.status = [.awaitingPayment] ∧
      ∃ calls, AlongRun ServiceCall.after
          (fun s call => call.MadeBy (ActedIn portal [memberSignIn, orderRequest]) s) portal calls ∧
        runFrom ServiceCall.after portal calls = runWeb portal [memberSignIn, orderRequest] :=
  ⟨by decide +kernel, web_run_served portal memberOrders_faithful⟩

end HostPanel.Model
