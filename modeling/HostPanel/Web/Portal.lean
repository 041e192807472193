import HostPanel.Lib.Confined
import HostPanel.Web.Authority

namespace HostPanel.Model

open HostPanel.Lib HostPanel.Lib.Program

/-- The tables that hold nothing of a single client's account, orders and
invoices, but for session traces, counters and the histories. -/
def Store.common (s : Store) : Store :=
  { s.unseen with
    clients := ∅
    orders := ∅
    invoices := ∅
    counters := ∅
    statusHistories := []
    auditLogs := [] }

/-- Only the account, the orders and the invoices of one client change; counters
go on and histories grow. -/
structure Store.ConfinedTo (clientId : Id) (s t : Store) : Prop where
  clients : t.clients.others (fun r => decide (r.id = clientId)) = s.clients.others (fun r => decide (r.id = clientId))
  orders : t.orders.others (fun r => decide (r.clientId = clientId)) =
    s.orders.others (fun r => decide (r.clientId = clientId))
  invoices : t.invoices.others (fun r => decide (r.clientId = clientId)) =
    s.invoices.others (fun r => decide (r.clientId = clientId))
  orderInvoices : ∀ o ∈ s.orders, o.clientId ≠ clientId →
    t.invoices.rows.filter (fun i => decide (i.orderId = some o.id)) =
      s.invoices.rows.filter (fun i => decide (i.orderId = some o.id))
  statusHistories : s.statusHistories <+: t.statusHistories
  auditLogs : s.auditLogs <+: t.auditLogs
  common : t.common = s.common

namespace Store

variable {clientId : Id}

theorem confinedTo_refl (s : Store) : s.ConfinedTo clientId s :=
  ⟨rfl, rfl, rfl, fun _ _ _ => rfl, List.prefix_refl _, List.prefix_refl _, rfl⟩

theorem ConfinedTo.trans {s t u : Store} (h : s.ConfinedTo clientId t) (h' : t.ConfinedTo clientId u) :
    s.ConfinedTo clientId u := by
  refine ⟨h'.clients.trans h.clients, h'.orders.trans h.orders, h'.invoices.trans h.invoices, fun o ho hother => ?_,
    h.statusHistories.trans h'.statusHistories, h.auditLogs.trans h'.auditLogs, h'.common.trans h.common⟩
  have hstill : o ∈ t.orders := Table.mem_of_others h.orders ho (decide_eq_false hother)
  exact (h'.orderInvoices o hstill hother).trans (h.orderInvoices o ho hother)

theorem confinedTo_of_unseen {s t : Store} (h : t.unseen = s.unseen) : s.ConfinedTo clientId t := by
  have hclients : t.unseen.clients = s.unseen.clients := congrArg Store.clients h
  have horders : t.unseen.orders = s.unseen.orders := congrArg Store.orders h
  have hinvoices : t.unseen.invoices = s.unseen.invoices := congrArg Store.invoices h
  have hhistories : t.unseen.statusHistories = s.unseen.statusHistories := congrArg Store.statusHistories h
  have haudits : t.unseen.auditLogs = s.unseen.auditLogs := congrArg Store.auditLogs h
  change t.clients = s.clients at hclients
  change t.orders = s.orders at horders
  change t.invoices = s.invoices at hinvoices
  change t.statusHistories = s.statusHistories at hhistories
  change t.auditLogs = s.auditLogs at haudits
  refine ⟨by rw [hclients], by rw [horders], by rw [hinvoices], fun _ _ _ => by rw [hinvoices],
    hhistories ▸ List.prefix_refl _, haudits ▸ List.prefix_refl _, ?_⟩
  unfold Store.common
  rw [h]

theorem confinedTo_withAuditLog (s : Store) (row : AuditLog) : s.ConfinedTo clientId (s.withAuditLog row) :=
  { s.confinedTo_refl with auditLogs := List.prefix_append _ _, common := rfl }

theorem confinedTo_withStatusHistory (s : Store) (row : StatusHistory) :
    s.ConfinedTo clientId (s.withStatusHistory row) :=
  { s.confinedTo_refl with statusHistories := List.prefix_append _ _, common := rfl }

theorem confinedTo_modifyClient (s : Store) (f : Client → Client) (hf : ∀ r, (f r).id = r.id) :
    s.ConfinedTo clientId (prisma.client.modify clientId f hf s) :=
  { s.confinedTo_refl with
    clients := Table.others_updateWhere s.clients hf (fun _ _ h => h)
      (fun r _ h => decide_eq_true ((hf r).trans (of_decide_eq_true h)))
    common := rfl }

theorem confinedTo_placeOrder (s : Store) (actor : Actor) (input : CreateOrderInput) {order : Order} (value : Int4)
    (h : order.clientId = clientId) : s.ConfinedTo clientId (s.placeOrder actor input order value) := by
  rw [placeOrder_eq]
  exact { s.confinedTo_refl with
    orders := Table.others_insert s.orders (decide_eq_true h)
    statusHistories := List.prefix_append _ _
    auditLogs := List.prefix_append _ _
    common := rfl }

/-- An invoice of an order of the client that is in the tables. -/
theorem confinedTo_issueInvoice (s : Store) {order : Order} (actor : TransitionActor) {invoice : Invoice} (value : Int4)
    (hfound : s.orders.find order.id = some order) (horder : invoice.orderId = some order.id)
    (hclient : invoice.clientId = clientId) (h : order.clientId = clientId) :
    s.ConfinedTo clientId (s.issueInvoice order actor invoice value) := by
  rw [issueInvoice_eq]
  refine { s.confinedTo_refl with
    invoices := Table.others_insert s.invoices (decide_eq_true hclient)
    orderInvoices := fun o ho hother => ?_
    statusHistories := List.prefix_append _ _
    auditLogs := List.prefix_append _ _
    common := rfl }
  have hids : o.id ≠ order.id := by
    intro hid
    rw [Table.eq_of_mem ho (Table.mem_of_find hfound) hid] at hother
    exact hother h
  have hnew : decide (invoice.orderId = some o.id) = false := by
    rw [horder]
    exact decide_eq_false (fun he => hids (Option.some.inj he).symm)
  change (s.invoices.insert invoice).rows.filter _ = s.invoices.rows.filter _
  by_cases hr : invoice.id ∈ s.invoices.rows.map Invoice.id
  · rw [Table.insert, dif_pos hr]
  · rw [Table.insert, dif_neg hr, List.filter_append, List.filter_singleton, hnew]
    exact List.append_nil _

theorem confinedTo_moveOrder (s : Store) {order : Order} (toStatus : OrderStatus) (actor : TransitionActor)
    (reason : Option String) (hfound : s.orders.find order.id = some order) (h : order.clientId = clientId) :
    s.ConfinedTo clientId (s.moveOrder order toStatus actor reason) := by
  have hmoved : s.ConfinedTo clientId
      (prisma.order.modify order.id (fun o => { o with status := toStatus }) (fun _ => rfl) s) := by
    have hsame : ∀ r ∈ s.orders, decide (r.id = order.id) = true → decide (r.clientId = clientId) = true := by
      intro r hr hid
      rw [Table.eq_of_mem hr (Table.mem_of_find hfound) (of_decide_eq_true hid)]
      exact decide_eq_true h
    have horders : (s.orders.modify order.id (fun o => { o with status := toStatus }) (fun _ => rfl)).others
        (fun r => decide (r.clientId = clientId)) = s.orders.others (fun r => decide (r.clientId = clientId)) :=
      Table.others_updateWhere s.orders _ hsame hsame
    exact { s.confinedTo_refl with orders := horders, common := rfl }
  refine hmoved.trans ((confinedTo_withStatusHistory _ (orderMove order toStatus actor reason)).trans ?_)
  exact Store.of_withLabelledAudit (confinedTo_refl _) (fun text => confinedTo_withAuditLog _ _)

end Store

section Services

variable {env : Env} {clientId : Id} {s : Store}

theorem confined_updateClientProfile (actor : Actor) (patch : ProfilePatch) :
    (updateClientProfile env actor clientId patch).Guarantees (Store.ConfinedTo clientId) := by
  refine Guarantees.bind ?_ (fun _ => Guarantees.transaction ?_)
  · cases actor <;> exact guarantees_ensure _ _
  · refine (Relation.guarantees_findUniqueOrThrow _).bind (fun before => ?_)
    refine (Relation.guarantees_update _ _ _ (fun t => t.confinedTo_modifyClient _ _)).bind (fun _ => ?_)
    exact guarantees_recordAuditLog _ (fun t => t.confinedTo_withAuditLog _)

/-- Invoicing an order that is in the tables concerns its client. -/
theorem confined_issueInvoiceForOrder {order : Order} (actor : TransitionActor)
    (hfound : s.orders.find order.id = some order) :
    s.ConfinedTo order.clientId ((issueInvoiceForOrder env order actor).after s) := by
  obtain hsame | ⟨invoice, c, t, hev, hafter⟩ := after_of_atomic (atomic_issueInvoiceForOrder env order actor) s
  · rw [hsame]
    exact s.confinedTo_refl
  · obtain ⟨_, client, hissued⟩ := issueInvoiceForOrder_ok hev
    obtain ⟨value, _, _, hstep⟩ := hissued.after
    have horder : invoice.orderId = some order.id := by
      rw [hissued.invoice_eq]
      rfl
    have hclient : invoice.clientId = order.clientId := by
      rw [hissued.invoice_eq]
      rfl
    rw [hafter]
    refine (s.confinedTo_issueInvoice actor value hfound horder hclient rfl).trans ?_
    split at hstep
    · obtain ⟨current, hcurrent, _, _, rfl⟩ := hstep
      have hstill : (s.issueInvoice order actor invoice value).orders.find order.id = some order := by
        rw [issueInvoice_orders]
        exact hfound
      cases hstill.symm.trans hcurrent
      exact Store.confinedTo_moveOrder _ _ _ _ hstill rfl
    · obtain rfl : t = _ := hstep
      exact Store.confinedTo_refl _

/-- An order of a portal user concerns his client, or the client whose order the
key names. -/
theorem confined_submitOrder {actor : ClientPortalActor} (env : Env) (input : CreateOrderInput) (s : Store)
    (hclient : input.clientId = actor.clientId) :
    ∃ clientId, s.ConfinedTo clientId ((submitOrder env actor input).after s) ∧
      (clientId = actor.clientId ∨ ∃ order ∈ s.orders, Order.hasKey actor.tenantId input.idempotencyKey order = true ∧
        order.clientId = clientId) := by
  cases hev : (createOrder env (.clientContact actor) input).eval s s with
  | error x =>
    obtain ⟨e, c⟩ := x
    refine ⟨actor.clientId, ?_, Or.inl rfl⟩
    rw [submitOrder, after_bind_error hev, eval_error_of_atomic (atomic_createOrder _ _ _) hev]
    exact s.confinedTo_refl
  | ok out =>
    obtain ⟨order, c, t⟩ := out
    obtain ⟨rfl, hstored⟩ := createOrder_ok hev
    rw [after_submitOrder hev]
    obtain ⟨hfound, rfl⟩ | ⟨_, client, rows, hplaced⟩ := hstored
    · have hmem : order ∈ c.orders := List.mem_of_find?_eq_some hfound
      refine ⟨order.clientId, confined_issueInvoiceForOrder _ (Table.find_of_mem hmem), Or.inr ⟨order, hmem, ?_, rfl⟩⟩
      exact List.find?_some hfound
    · have howner : order.clientId = actor.clientId := by
        rw [hplaced.order_eq]
        exact hclient
      obtain ⟨value, _, _, rfl⟩ := hplaced.after
      refine ⟨order.clientId, (s.confinedTo_placeOrder _ _ value rfl).trans (confined_issueInvoiceForOrder _ ?_),
        Or.inl howner⟩
      rw [placeOrder_orders]
      exact Table.find_insert_self (Relation.find_of_fresh hplaced.fresh)

/-- The client whom a portal action concerns: the one of the user, or the one
whose order has the key of the form. -/
def ClientAction.Concerns (action : ClientAction) (env : Env) (s : Store) (actor : ClientPortalActor) (clientId : Id) :
    Prop :=
  clientId = actor.clientId ∨ ∃ form, action = .placeOrder form ∧ ∃ order ∈ s.orders,
    Order.hasKey actor.tenantId (form.key env) order = true ∧ order.clientId = clientId

theorem ClientAction.confined (action : ClientAction) (env : Env) (actor : ClientPortalActor) (requestMeta : RequestMeta)
    (s : Store) :
    ∃ clientId, s.ConfinedTo clientId (action.perform env actor requestMeta s).1 ∧
      action.Concerns env s actor clientId := by
  cases action with
  | placeOrder form =>
    simp only [ClientAction.perform, replying, placeOrderAction]
    split
    · exact ⟨actor.clientId, s.confinedTo_refl, Or.inl rfl⟩
    · obtain ⟨clientId, hconfined, hown | hkey⟩ :=
        confined_submitOrder env (form.input env actor requestMeta) s rfl
      · exact ⟨clientId, hconfined, Or.inl hown⟩
      · exact ⟨clientId, hconfined, Or.inr ⟨form, rfl, hkey⟩⟩
  | updateProfile form =>
    simp only [ClientAction.perform, replying, updateProfileAction]
    refine ⟨actor.clientId, ?_, Or.inl rfl⟩
    split
    · exact s.confinedTo_refl
    · exact after_of_guarantees Store.confinedTo_refl (fun _ _ _ => .trans) (confined_updateClientProfile _ _) s

end Services

/-- In every run that starts without sessions, a request to a portal action is
sent to the login page and changes nothing, or it is backed by a login of a contact that is
active, and one client's account, orders and invoices are all that it changes: those of the
contact, or of the client whose order has the key of the form. -/
theorem client_request_authorized {start : Store} {requests : List WebRequest} {r : WebRequest} {action : ClientAction}
    (hfaithful : ∀ q ∈ requests, q.Faithful) (hnone : start.clientSessions.rows = []) (haction : r.action = .client action) :
    ((r.respond (runWeb start requests)).2 = .ok (.redirect "/login") ∧
        (r.after (runWeb start requests)).unseen = (runWeb start requests).unseen) ∨
      ∃ contact, (runWeb start requests).clientContacts.find contact.id = some contact ∧ contact.isActive = true ∧
        r.BackedBy start requests .clientContact contact.id ∧
        ∃ clientId, (runWeb start requests).ConfinedTo clientId (r.after (runWeb start requests)) ∧
          action.Concerns r.env (runWeb start requests) contact.actor clientId := by
  unfold WebRequest.after WebRequest.respond
  rw [haction]
  obtain ⟨t, hseen, hlogin | ⟨actor, hactor, hgoes⟩⟩ := r.withActor_cases getClientActor "/login"
    (fun actor t => action.perform r.env actor r.requestMeta t) (runWeb start requests)
  · refine Or.inl ?_
    simp only [WebRequest.asClient, hlogin]
    exact ⟨trivial, hseen⟩
  · obtain ⟨contact, hfound, hactive, rfl, hbacked⟩ := WebRequest.clientActor_backed hfaithful hnone hactor
    refine Or.inr ⟨contact, hfound, hactive, hbacked, ?_⟩
    simp only [WebRequest.asClient, hgoes]
    have horders : t.unseen.orders = (runWeb start requests).unseen.orders := congrArg Store.orders hseen
    change t.orders = (runWeb start requests).orders at horders
    obtain ⟨clientId, hconfined, hconcerns⟩ := action.confined r.env contact.actor r.requestMeta t
    refine ⟨clientId, (Store.confinedTo_of_unseen hseen).trans hconfined, ?_⟩
    unfold ClientAction.Concerns at hconcerns ⊢
    rwa [horders] at hconcerns

namespace Sample

def memberForm : LoginForm :=
  { next := none, email := some "client@example.test", password := some "correct horse", totpToken := none }

def memberSignIn : WebRequest :=
  { env := moment "a" 0, cookie := none, requestMeta := nowhere, action := .anyone (.clientLogin authLibrary memberForm) }

/-- The contact orders a minute after the login. -/
def orderRequest : WebRequest where
  env := moment "b" 60000
  cookie := some { actorType := some .clientContact, sessionToken := some "token-a" }
  requestMeta := nowhere
  action := .client (.placeOrder form)

/-- The shop with the office's tenant and accounts. -/
def portal : Store :=
  { shop 0 with
    tenants := office.tenants
    clients := office.clients
    clientContacts := office.clientContacts }

theorem memberSignIn_faithful : ∀ q ∈ [memberSignIn], q.Faithful := by
  intro q hq library raw hraw s
  cases List.mem_singleton.mp hq
  cases hraw
  exact after_bind_ret _ _ s

end Sample

open Sample in
/-- The order is placed for the contact who signed in a minute before. -/
theorem client_request_authorized_order :
    (orderRequest.respond (runWeb portal [memberSignIn])).2 = .ok (.redirect "/portal/orders/id-b0") ∧
      ∃ contact, (runWeb portal [memberSignIn]).clientContacts.find contact.id = some contact ∧
        contact.isActive = true ∧ orderRequest.BackedBy portal [memberSignIn] .clientContact contact.id ∧
        ∃ clientId, (runWeb portal [memberSignIn]).ConfinedTo clientId
            (orderRequest.after (runWeb portal [memberSignIn])) ∧
          (ClientAction.placeOrder form).Concerns orderRequest.env (runWeb portal [memberSignIn]) contact.actor clientId := by
  have hreply : (orderRequest.respond (runWeb portal [memberSignIn])).2 = .ok (.redirect "/portal/orders/id-b0") :=
    ok_of_toOption (by decide +kernel)
  have hnone : portal.clientSessions.rows = [] := rfl
  have haction : orderRequest.action = .client (.placeOrder form) := rfl
  obtain ⟨hredirect, _⟩ | hbacked := client_request_authorized memberSignIn_faithful hnone haction
  · rw [hreply] at hredirect
    exact absurd (WebReply.redirect.inj (Except.ok.inj hredirect)) (by decide)
  · exact ⟨hreply, hbacked⟩

end HostPanel.Model
