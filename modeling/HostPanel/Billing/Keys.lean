import HostPanel.Billing.Resubmission

namespace HostPanel.Model

open HostPanel.Lib HostPanel.Lib.Program

/-- What an item is for: its product, quantity and billing cycle. -/
def OrderItem.wanted (item : OrderItem) : Option Id × Number × String :=
  (item.productId, .integer item.quantity.val, item.billingCycleSnapshot.name)

def CreateOrderItemInput.wanted (item : CreateOrderItemInput) : Option Id × Number × String :=
  (some item.productId, item.quantity, item.billingCycle)

/-- The order is for the client and the currency of the request, and for what
it asks. -/
structure Order.Answers (order : Order) (input : CreateOrderInput) : Prop where
  clientId : order.clientId = input.clientId
  currency : order.currency = input.currency
  items : (order.items.map OrderItem.wanted).Perm (input.items.map CreateOrderItemInput.wanted)

theorem Placed.answers {env : Env} {actor : Actor} {input : CreateOrderInput} {client : Client}
    {rows : List OrderItemRow} {s s' : Store} {order : Order} (h : Placed env actor input client rows s order s') :
    order.Answers input := by
  have hclient : order.clientId = input.clientId := by rw [h.order_eq]
  have hcurrency : order.currency = input.currency := by rw [h.order_eq]
  refine ⟨hclient, hcurrency, List.Perm.of_eq ?_⟩
  refine (map_eq_map_of_forall₂ h.items_match ?_).symm
  rintro item stored ⟨_, hproduct, hquantity, hcycle⟩
  rw [CreateOrderItemInput.wanted, OrderItem.wanted, hproduct, hquantity, hcycle]

theorem createOrder_answers_iff {env : Env} {actor : Actor} {input : CreateOrderInput} {s s' : Store} {order : Order}
    (h : (createOrder env actor input).run s = (s', .ok order)) :
    order.Answers input ↔ ∀ existing,
      s.orders.rows.find? (Order.hasKey actor.tenantId input.idempotencyKey) = some existing →
        existing.Answers input := by
  obtain ⟨c, hev⟩ := run_ok_iff.mp h
  obtain ⟨_, ⟨hfound, _⟩ | ⟨hnone, client, rows, hp⟩⟩ := createOrder_ok hev
  · rw [hfound]
    constructor
    · rintro ha existing he
      cases he
      exact ha
    · exact fun hall => hall order rfl
  · rw [hnone]
    exact ⟨fun _ existing he => (nomatch he), fun _ => hp.answers⟩

/-- Every invoice the action adds is for the actor's client. -/
def BillsOwnClient (env : Env) (actor : ClientPortalActor) (requestMeta : RequestMeta) (form : OrderForm)
    (s : Store) : Prop :=
  ∀ i ∈ (placeOrderAction env actor requestMeta form s).1.invoices, i ∉ s.invoices → i.clientId = actor.clientId

theorem billsOwnClient_of_same {env : Env} {actor : ClientPortalActor} {requestMeta : RequestMeta}
    {form : OrderForm} {s : Store} (h : (placeOrderAction env actor requestMeta form s).1.invoices = s.invoices) :
    BillsOwnClient env actor requestMeta form s := by
  intro i hi hnew
  rw [h] at hi
  exact absurd hi hnew

theorem billsOwnClient_iff {env : Env} {actor : ClientPortalActor} {requestMeta : RequestMeta} {form : OrderForm}
    {s : Store} :
    BillsOwnClient env actor requestMeta form s ↔ ∀ existing,
      s.orders.rows.find? (Order.hasKey actor.tenantId (form.key env)) = some existing →
        form.productId.getD "" = "" ∨ existing.clientId = actor.clientId ∨
          ¬ existing.Invoiceable (env.drawn 2) s := by
  by_cases hp : form.productId.getD "" = ""
  · refine ⟨fun _ existing _ => Or.inl hp, fun _ => billsOwnClient_of_same ?_⟩
    rw [placeOrderAction_empty hp]
  cases hk : s.orders.rows.find? (Order.hasKey actor.tenantId (form.key env)) with
  | some order =>
    obtain ⟨hnot, hsame⟩ | ⟨hinv, client, invoice, s', hi, hissued⟩ := placeOrderAction_existing requestMeta hp hk
    · refine ⟨fun _ existing he => ?_, fun _ => billsOwnClient_of_same (by rw [hsame])⟩
      cases he
      exact Or.inr (Or.inr hnot)
    · have hclient : invoice.clientId = order.clientId := by
        rw [hi.invoice_eq]
        rfl
      obtain ⟨hmem, hnew⟩ := hi.mem_invoices
      constructor
      · intro hbills existing he
        cases he
        refine Or.inr (Or.inl (hclient.symm.trans (hbills invoice ?_ hnew)))
        rw [hissued]
        exact (hmem invoice).mpr (Or.inr rfl)
      · intro hall i him hi_new
        rw [hissued] at him
        have hown : order.clientId = actor.clientId := by
          obtain he | hown | hn := hall order rfl
          · exact absurd he hp
          · exact hown
          · exact absurd hinv hn
        cases (hmem i).mp him with
        | inl hold => exact absurd hold hi_new
        | inr he => rw [he, hclient, hown]
  | none =>
    have hafter := placeOrderAction_after env actor requestMeta s hp
    refine ⟨fun _ existing he => (nomatch he), fun _ => ?_⟩
    obtain ⟨_, he⟩ | ⟨_, client, rows, order, s₁, hplaced, he⟩ :=
      submitOrder_new env (form.input env actor requestMeta) hk
    · exact billsOwnClient_of_same (by rw [hafter, he])
    · have hinv : s₁.invoices = s.invoices := by
        obtain ⟨value, _, _, rfl⟩ := hplaced.after
        exact placeOrder_invoices _ _ _ _ _
      obtain ⟨_, hsame⟩ | ⟨_, payer, invoice, s', hi, hissued⟩ :=
        issueInvoiceForOrder_after (env.drawn 2) order actor.transitionActor s₁
      · exact billsOwnClient_of_same (by rw [hafter, he, hsame, hinv])
      · intro i him hi_new
        rw [hafter, he, hissued, hi.mem_invoices.1, hinv] at him
        cases him with
        | inl hold => exact absurd hold hi_new
        | inr hie =>
          have hclient : invoice.clientId = order.clientId := by
            rw [hi.invoice_eq]
            rfl
          rw [hie, hclient, hplaced.answers.clientId]
          rfl

/-- A returned order answers the request exactly when the order under its key,
if there is one, does; and a form bills only its own client exactly when it
names no product or the order under its key is the client's or cannot be
invoiced. -/
theorem key_private_iff {env : Env} {actor : Actor} {input : CreateOrderInput} {s s' : Store} {order : Order}
    (h : (createOrder env actor input).run s = (s', .ok order)) (contact : ClientPortalActor)
    (requestMeta : RequestMeta) (form : OrderForm) :
    (order.Answers input ↔ ∀ existing,
      s.orders.rows.find? (Order.hasKey actor.tenantId input.idempotencyKey) = some existing →
        existing.Answers input) ∧
    (BillsOwnClient env contact requestMeta form s ↔ ∀ existing,
      s.orders.rows.find? (Order.hasKey contact.tenantId (form.key env)) = some existing →
        form.productId.getD "" = "" ∨ existing.clientId = contact.clientId ∨
          ¬ existing.Invoiceable (env.drawn 2) s) :=
  ⟨createOrder_answers_iff h, billsOwnClient_iff⟩

namespace Sample

def neighbour : Client :=
  { id := "neighbour", tenantId := "tenant", firstName := "Other", lastName := "Client"
    email := "other@example.test", status := .active, updatedAt := 0 }

def neighbourContact : ClientPortalActor :=
  { id := "contact-2", clientId := "neighbour", tenantId := "tenant", label := "Other Client" }

/-- The shop after the neighbour ordered under the key. -/
def neighbourFirst : Store :=
  (placeOrderAction (env "a") neighbourContact browser form
    { shop 0 with clients := (shop 0).clients.insert neighbour }).1

end Sample

open Sample in
/-- A second client under the same key gets the neighbour's order, and bills the
neighbour for it again. -/
theorem key_crosses_clients :
    (∃ s' order, (createOrder (env "b") (.clientContact contact) (form.input (env "b") contact browser)).run
        neighbourFirst = (s', .ok order) ∧ order.clientId = "neighbour" ∧
        ¬ order.Answers (form.input (env "b") contact browser)) ∧
      (placeOrderAction (env "b") contact browser form neighbourFirst).2.toOption =
        some (.redirect "/portal/orders/id-a0") ∧
      (placeOrderAction (env "b") contact browser form neighbourFirst).1.invoices.rows.map
          (fun i => (i.id, i.clientId, i.orderId)) =
        [("id-a2", "neighbour", some "id-a0"), ("id-b2", "neighbour", some "id-a0")] := by
  have hrun : (createOrder (env "b") (.clientContact contact) (form.input (env "b") contact browser)).returns
      neighbourFirst (fun _ order => decide (order.clientId = "neighbour")) = true := by decide +kernel
  obtain ⟨s', order, hcreate, hclient⟩ := returns_iff.mp hrun
  have hother : order.clientId = "neighbour" := of_decide_eq_true hclient
  refine ⟨⟨s', order, hcreate, hother, fun ha => ?_⟩, by decide +kernel, by decide +kernel⟩
  have hown := ha.clientId
  rw [hother] at hown
  exact absurd hown (by decide)

open Sample in
/-- A client that repeats its own order gets it back, and bills nobody else. -/
theorem key_private_iff_repeated : ∃ s' order,
    (createOrder (env "b") (.clientContact contact) (form.input (env "b") contact browser)).run billed =
        (s', .ok order) ∧ order.id = "id-a0" ∧ order.Answers (form.input (env "b") contact browser) ∧
      BillsOwnClient (env "b") contact browser form billed := by
  have hrun : (createOrder (env "b") (.clientContact contact) (form.input (env "b") contact browser)).returns billed
      (fun _ order => decide (order.id = "id-a0")) = true := by decide +kernel
  obtain ⟨s', order, hcreate, hid⟩ := returns_iff.mp hrun
  have hrows : billed.orders.rows.map (fun o => (o.clientId, o.currency, o.items.map OrderItem.wanted)) =
      [("client", "USD", [(some "product", .integer 1, "MONTHLY")])] := by decide +kernel
  have hown : ∀ existing, billed.orders.rows.find? (Order.hasKey "tenant" "key") = some existing →
      (existing.clientId, existing.currency, existing.items.map OrderItem.wanted) =
        ("client", "USD", [(some "product", .integer 1, "MONTHLY")]) := by
    intro existing hfound
    have hmem := List.mem_map_of_mem (f := fun o => (o.clientId, o.currency, o.items.map OrderItem.wanted))
      (List.mem_of_find?_eq_some hfound)
    rw [hrows] at hmem
    exact List.mem_singleton.mp hmem
  obtain ⟨hanswers, hbills⟩ := key_private_iff hcreate contact browser form
  refine ⟨s', order, hcreate, of_decide_eq_true hid, hanswers.mpr (fun existing hfound => ?_),
    hbills.mpr (fun existing hfound => Or.inr (Or.inl ?_))⟩
  · obtain ⟨hclient, hrest⟩ := Prod.mk.inj (hown existing hfound)
    obtain ⟨hcurrency, hitems⟩ := Prod.mk.inj hrest
    exact ⟨hclient, hcurrency, List.Perm.of_eq hitems⟩
  · exact (Prod.mk.inj (hown existing hfound)).1

end HostPanel.Model
