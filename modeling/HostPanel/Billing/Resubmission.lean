import HostPanel.Lib.Faults
import HostPanel.Lib.Matching
import HostPanel.Model.Actions
import HostPanel.Model.OrderArithmetic
import HostPanel.Books.Agreement

namespace HostPanel.Model

open HostPanel.Lib HostPanel.Lib.Program

/-- Nothing stands in the way of one more invoice for the order: its tenant, its
client and the order exist, its lines fit their column, the next number and id
are free, and the stored order follows where the copy says it is pending. -/
structure Order.Invoiceable (order : Order) (env : Env) (s : Store) : Prop where
  tenant : s.hasTenant order.tenantId = true
  client : (s.clients.find order.clientId).isSome = true
  fits : ∀ item ∈ order.items, -2147483648 ≤ item.lineTotal.val + item.setupFeeSnapshot.val ∧
    item.lineTotal.val + item.setupFeeSnapshot.val < 2147483648
  number : ∃ value, s.incremented (order.tenantId, "invoice_number") = .ok value ∧
    ∀ i ∈ s.invoices, i.id ≠ env.cuid 0 ∧
      (i.tenantId = order.tenantId → i.invoiceNumber ≠ sequenceNumber invoiceNumberOptions value)
  current : ∃ o, s.orders.find order.id = some o ∧
    (order.status = .pending → isValidOrderTransition o.status .awaitingPayment = true ∧ s.hasTenant o.tenantId = true)

theorem fresh_invoice_iff {row : Invoice} {s : Store} :
    prisma.invoice.Fresh row s ↔ ∀ i ∈ s.invoices, i.id ≠ row.id ∧
      (i.tenantId = row.tenantId → i.invoiceNumber ≠ row.invoiceNumber) := by
  have hnodup : (prisma.invoice.entries row).Nodup := by
    simp [prisma.invoice]
  have hentries : ∀ i : Invoice, (∀ l ∈ prisma.invoice.entries row, l ∉ prisma.invoice.entries i) ↔
      i.id ≠ row.id ∧ (i.tenantId = row.tenantId → i.invoiceNumber ≠ row.invoiceNumber) := by
    intro i
    simp [prisma.invoice, eq_comm]
  unfold Relation.Fresh
  rw [and_iff_right hnodup]
  exact forall₂_congr (fun i _ => hentries i)

theorem invoiceItems_of_fits (order : Order) {items : List OrderItem}
    (h : ∀ item ∈ items, -2147483648 ≤ item.lineTotal.val + item.setupFeeSnapshot.val ∧
      item.lineTotal.val + item.setupFeeSnapshot.val < 2147483648) :
    ∃ lines, invoiceItems order items = .ok lines := by
  induction items with
  | nil => exact ⟨[], rfl⟩
  | cons item items ih =>
    obtain ⟨lines, hlines⟩ := ih (fun i hi => h i (List.mem_cons_of_mem _ hi))
    have hfit := h item List.mem_cons_self
    have hline : toInt4 (Number.add item.lineTotal.val item.setupFeeSnapshot.val) =
        .ok ⟨item.lineTotal.val + item.setupFeeSnapshot.val, hfit⟩ := by
      rw [add_int4, toInt4_integer_ok_iff]
    have hone : ∃ line, invoiceItem order item = .ok line := by
      rw [invoiceItem, hline]
      exact ⟨_, rfl⟩
    obtain ⟨line, hone⟩ := hone
    exact ⟨line :: lines, except_bind_ok.mpr ⟨line, hone, except_bind_ok.mpr ⟨lines, hlines, rfl⟩⟩⟩

theorem fits_of_invoiceItems {order : Order} {items : List OrderItem} {lines : List InvoiceItem}
    (h : List.Forall₂ (InvoicedItem order) items lines) :
    ∀ item ∈ items, -2147483648 ≤ item.lineTotal.val + item.setupFeeSnapshot.val ∧
      item.lineTotal.val + item.setupFeeSnapshot.val < 2147483648 := by
  intro item hitem
  obtain ⟨line, _, hline⟩ := exists_right_of_forall₂ h hitem
  rw [← hline.lineTotal]
  exact line.lineTotal.property

section Issue

variable {env : Env} {order : Order} {actor : TransitionActor} {s : Store}

theorem Issued.invoiceable {client : Client} {invoice : Invoice} {s' : Store}
    (h : Issued env order actor client s invoice s') : order.Invoiceable env s := by
  obtain ⟨value, hvalue, hnumber, hstep⟩ := h.after
  have hid : invoice.id = env.cuid 0 := by rw [h.invoice_eq]; rfl
  have htenant : invoice.tenantId = order.tenantId := by rw [h.invoice_eq]; rfl
  refine ⟨h.tenant_found, by rw [h.client_found]; rfl, fits_of_invoiceItems h.items, ⟨value, hvalue, ?_⟩, ?_⟩
  · intro i hi
    have hfresh := fresh_invoice_iff.mp h.fresh i hi
    rw [hid, htenant, hnumber] at hfresh
    exact hfresh
  · obtain ⟨o, ho⟩ := Option.isSome_iff_exists.mp h.order_found
    refine ⟨o, ho, fun hp => ?_⟩
    rw [if_pos hp] at hstep
    obtain ⟨p, hfound, hvalid, htenant, _⟩ := hstep
    rw [issueInvoice_orders] at hfound
    cases hfound.symm.trans ho
    rw [Store.hasTenant, issueInvoice_tenants] at htenant
    exact ⟨hvalid, htenant⟩

/-- The invoice is issued exactly when the order is invoiceable. -/
theorem issueInvoiceForOrder_returns_iff :
    (∃ invoice c s', (issueInvoiceForOrder env order actor).eval s s = .ok (invoice, c, s')) ↔
      order.Invoiceable env s := by
  constructor
  · rintro ⟨invoice, c, s', hev⟩
    obtain ⟨_, client, hi⟩ := issueInvoiceForOrder_ok hev
    exact hi.invoiceable
  · intro h
    obtain ⟨client, hclient⟩ := Option.isSome_iff_exists.mp h.client
    obtain ⟨value, hvalue, hfree⟩ := h.number
    obtain ⟨o, ho, hpending⟩ := h.current
    obtain ⟨lines, hlines⟩ := invoiceItems_of_fits order h.fits
    -- The rest of the call once the invoice row is stored.
    have hrest : ∀ (v : Store) (invoice : Invoice), v.orders = s.orders → v.tenants = s.tenants → ∃ v',
        (awaitPayment order actor >>= fun _ => (.ret invoice : Db Invoice)).eval s v = .ok (invoice, s, v') := by
      intro v invoice hv htenants
      by_cases hp : order.status = .pending
      · refine ⟨v.moveOrder o .awaitingPayment actor (some "invoice_issued"),
          eval_awaitPayment_bind.mpr ⟨_, ?_, rfl⟩⟩
        rw [if_pos hp]
        exact ⟨o, hv ▸ ho, (hpending hp).1, by rw [Store.hasTenant, htenants]; exact (hpending hp).2, rfl⟩
      · refine ⟨v, eval_awaitPayment_bind.mpr ⟨v, ?_, rfl⟩⟩
        rw [if_neg hp]
        exact rfl
    let invoice := newInvoice env order client (s.companyProfile order.tenantId)
      (sequenceNumber invoiceNumberOptions value) lines
    have hrefs : prisma.invoice.references invoice (s.withCounter (order.tenantId, "invoice_number") value) = true := by
      simp [prisma.invoice, invoice, newInvoice, Store.withCounter, Store.hasTenant, hclient, ho]
      exact h.tenant
    obtain ⟨s', hs'⟩ := hrest _ invoice (issueInvoice_orders s order actor invoice value)
      (issueInvoice_tenants s order actor invoice value)
    refine ⟨invoice, s', s', eval_transaction_ok.mpr ⟨rfl, s, ?_⟩⟩
    refine Relation.eval_findUniqueOrThrow_bind.mpr ⟨client, hclient, eval_getCompanyProfile_bind.mpr ?_⟩
    refine eval_nextSequenceNumber_bind.mpr ⟨value, hvalue, eval_lift_bind.mpr ⟨lines, hlines, ?_⟩⟩
    refine Relation.eval_create_bind.mpr ⟨fresh_invoice_iff.mpr hfree, hrefs, ?_⟩
    exact eval_recordStatusTransition_bind.mpr ⟨h.tenant, eval_recordAuditLog_bind.mpr ⟨h.tenant, hs'⟩⟩

/-- Issuing either happens, with one more invoice, or leaves the tables. -/
theorem issueInvoiceForOrder_after (env : Env) (order : Order) (actor : TransitionActor) (s : Store) :
    (¬ order.Invoiceable env s ∧ (issueInvoiceForOrder env order actor).after s = s) ∨
      (order.Invoiceable env s ∧ ∃ client invoice s', Issued env order actor client s invoice s' ∧
        (issueInvoiceForOrder env order actor).after s = s') := by
  by_cases h : order.Invoiceable env s
  · obtain ⟨invoice, c, s', hev⟩ := issueInvoiceForOrder_returns_iff.mpr h
    obtain ⟨_, client, hi⟩ := issueInvoiceForOrder_ok hev
    exact Or.inr ⟨h, client, invoice, s', hi, by rw [after, run, hev]⟩
  · refine Or.inl ⟨h, ?_⟩
    cases after_of_atomic (atomic_issueInvoiceForOrder env order actor) s with
    | inl hsame => exact hsame
    | inr hev =>
      obtain ⟨invoice, c, s', hev, _⟩ := hev
      exact absurd (issueInvoiceForOrder_returns_iff.mp ⟨invoice, c, s', hev⟩) h

theorem Issued.mem_invoices {client : Client} {invoice : Invoice} {s' : Store}
    (h : Issued env order actor client s invoice s') :
    (∀ i, i ∈ s'.invoices ↔ i ∈ s.invoices ∨ i = invoice) ∧ invoice ∉ s.invoices := by
  obtain ⟨value, _, _, hstep⟩ := h.after
  have hnew : s.invoices.find invoice.id = none := Relation.find_of_fresh h.fresh
  have hinv : s'.invoices = s.invoices.insert invoice := by
    rw [hstep.invoices, issueInvoice_invoices]
  refine ⟨fun i => ?_, fun hold => Table.find_eq_none_iff.mp hnew invoice hold rfl⟩
  rw [hinv]
  exact Table.mem_insert hnew

end Issue

/-- The orders, the invoices and the counters are the same. -/
structure Store.SameSales (s s' : Store) : Prop where
  orders : s'.orders = s.orders
  invoices : s'.invoices = s.invoices
  counters : s'.counters = s.counters

theorem placeOrderAction_existing (requestMeta : RequestMeta) {s : Store} {env : Env} {actor : ClientPortalActor}
    {form : OrderForm} {order : Order} (hp : form.productId.getD "" ≠ "")
    (h : s.orders.rows.find? (Order.hasKey actor.tenantId (form.key env)) = some order) :
    (¬ order.Invoiceable (env.drawn 2) s ∧ (placeOrderAction env actor requestMeta form s).1 = s) ∨
      (order.Invoiceable (env.drawn 2) s ∧ ∃ client invoice s',
        Issued (env.drawn 2) order actor.transitionActor client s invoice s' ∧
        (placeOrderAction env actor requestMeta form s).1 = s') := by
  rw [placeOrderAction_after _ _ _ _ hp, submitOrder_existing rfl (List.cons_ne_nil _ _) h]
  exact issueInvoiceForOrder_after (env.drawn 2) order actor.transitionActor s

/-- The ids of the orders, and the orders that the invoices bill. -/
def Store.billing (s : Store) : List Id × List (Option Id) :=
  (s.orders.rows.map Order.id, s.invoices.rows.map Invoice.orderId)

theorem OrderStep.billing {s s' : Store} {target : Option Id} {toStatus : OrderStatus} {actor : TransitionActor}
    {reason : Option String} (h : OrderStep s target toStatus actor reason s') : s'.billing = s.billing := by
  cases target with
  | none => exact congrArg Store.billing h
  | some id =>
    obtain ⟨o, _, _, _, rfl⟩ := h
    have hids : (s.orders.modify o.id (fun r => { r with status := toStatus })).rows.map Order.id =
        s.orders.rows.map Order.id := Table.map_modify _ _ _ _ _ (fun _ => rfl)
    rw [Store.billing, moveOrder_orders, moveOrder_invoices, hids]
    rfl

theorem Placed.billing {env : Env} {actor : Actor} {input : CreateOrderInput} {client : Client}
    {rows : List OrderItemRow} {s s' : Store} {order : Order} (h : Placed env actor input client rows s order s') :
    s'.billing = (s.billing.1 ++ [order.id], s.billing.2) ∧ order.id ∉ s.billing.1 := by
  obtain ⟨value, _, _, rfl⟩ := h.after
  have hnew : s.orders.find order.id = none := Relation.find_of_fresh h.fresh
  refine ⟨?_, fun hmem => ?_⟩
  · rw [Store.billing, placeOrder_orders, placeOrder_invoices, Table.insert_rows hnew, List.map_append]
    rfl
  · obtain ⟨o, ho, hid⟩ := List.mem_map.mp hmem
    exact Table.find_eq_none_iff.mp hnew o ho hid

theorem Issued.billing {env : Env} {order : Order} {actor : TransitionActor} {client : Client} {s s' : Store}
    {invoice : Invoice} (h : Issued env order actor client s invoice s') :
    s'.billing = (s.billing.1, s.billing.2 ++ [some order.id]) := by
  obtain ⟨value, _, _, hstep⟩ := h.after
  have hnew : s.invoices.find invoice.id = none := Relation.find_of_fresh h.fresh
  have hbills : invoice.orderId = some order.id := by
    rw [h.invoice_eq]
    rfl
  rw [hstep.billing, Store.billing, issueInvoice_orders, issueInvoice_invoices, Table.insert_rows hnew,
    List.map_append, List.map_singleton, hbills]
  rfl

/-- How many orders and invoices there are. -/
def Store.sold (s : Store) : ℕ := s.billing.1.length + s.billing.2.length

theorem Placed.sold {env : Env} {actor : Actor} {input : CreateOrderInput} {client : Client}
    {rows : List OrderItemRow} {s s' : Store} {order : Order} (h : Placed env actor input client rows s order s') :
    s'.sold = s.sold + 1 := by
  simp only [Store.sold, h.billing.1, List.length_append, List.length_singleton]
  omega

theorem Issued.sold {env : Env} {order : Order} {actor : TransitionActor} {client : Client} {s s' : Store}
    {invoice : Invoice} (h : Issued env order actor client s invoice s') : s'.sold = s.sold + 1 := by
  simp only [Store.sold, h.billing, List.length_append, List.length_singleton]
  omega

theorem sold_issueInvoiceForOrder (env : Env) (order : Order) (actor : TransitionActor) (s : Store) :
    s.sold ≤ ((issueInvoiceForOrder env order actor).after s).sold := by
  obtain ⟨_, hsame⟩ | ⟨_, client, invoice, s', hissued, hafter⟩ := issueInvoiceForOrder_after env order actor s
  · rw [hsame]
  · rw [hafter, hissued.sold]
    exact Nat.le_succ _

/-- The form names a product, and the order under its key can be invoiced, or
there is none and its own passes. -/
def OrderForm.Sells (form : OrderForm) (env : Env) (actor : ClientPortalActor) (requestMeta : RequestMeta)
    (s : Store) : Prop :=
  form.productId.getD "" ≠ "" ∧
    match s.orders.rows.find? (Order.hasKey actor.tenantId (form.key env)) with
    | some order => order.Invoiceable (env.drawn 2) s
    | none => s.Accepts env (.clientContact actor) (form.input env actor requestMeta)

section Forms

variable {env : Env} {actor : ClientPortalActor} {requestMeta : RequestMeta} {form : OrderForm} {s : Store}

theorem OrderForm.sells_existing {order : Order}
    (h : s.orders.rows.find? (Order.hasKey actor.tenantId (form.key env)) = some order) :
    form.Sells env actor requestMeta s ↔ form.productId.getD "" ≠ "" ∧ order.Invoiceable (env.drawn 2) s := by
  rw [Sells, h]

theorem OrderForm.sells_new (h : s.orders.rows.find? (Order.hasKey actor.tenantId (form.key env)) = none) :
    form.Sells env actor requestMeta s ↔ form.productId.getD "" ≠ "" ∧
      s.Accepts env (.clientContact actor) (form.input env actor requestMeta) := by
  rw [Sells, h]

variable (env actor requestMeta form s)

/-- A form that sells stores an order or an invoice more, any other form nothing. -/
theorem placeOrderAction_cases :
    (¬ form.Sells env actor requestMeta s ∧ (placeOrderAction env actor requestMeta form s).1 = s) ∨
      (form.Sells env actor requestMeta s ∧ s.sold < (placeOrderAction env actor requestMeta form s).1.sold) := by
  by_cases hp : form.productId.getD "" = ""
  · exact Or.inl ⟨fun h => h.1 hp, placeOrderAction_empty hp⟩
  cases hk : s.orders.rows.find? (Order.hasKey actor.tenantId (form.key env)) with
  | some order =>
    rw [OrderForm.sells_existing hk, and_iff_right hp]
    obtain hkept | ⟨hinv, client, invoice, s', hissued, hafter⟩ := placeOrderAction_existing requestMeta hp hk
    · exact Or.inl hkept
    · refine Or.inr ⟨hinv, ?_⟩
      rw [hafter, hissued.sold]
      exact Nat.lt_succ_self _
  | none =>
    rw [OrderForm.sells_new hk, and_iff_right hp, placeOrderAction_after _ _ _ _ hp, ← createOrder_returns_iff]
    obtain hkept | ⟨hreturns, client, rows, order, s₁, hplaced, hafter⟩ :=
      submitOrder_new env (form.input env actor requestMeta) hk
    · exact Or.inl hkept
    · refine Or.inr ⟨hreturns, ?_⟩
      have hinvoiced := sold_issueInvoiceForOrder (env.drawn 2) order actor.transitionActor s₁
      rw [hafter]
      rw [hplaced.sold] at hinvoiced
      exact hinvoiced

theorem sold_placeOrderAction : s.sold ≤ (placeOrderAction env actor requestMeta form s).1.sold := by
  obtain ⟨_, hsame⟩ | ⟨_, hmore⟩ := placeOrderAction_cases env actor requestMeta form s
  · rw [hsame]
  · exact hmore.le

end Forms

/-- The same form sent again and again. -/
abbrev resubmit (actor : ClientPortalActor) (requestMeta : RequestMeta) (form : OrderForm) :
    Store → List Env → Store :=
  runFrom (fun s env => (placeOrderAction env actor requestMeta form s).1)

/-- Sending a form any number of times changes nothing exactly when it sells none
of the times. -/
theorem resubmit_sameSales_iff (actor : ClientPortalActor) (requestMeta : RequestMeta) (form : OrderForm) (s : Store)
    (envs : List Env) :
    s.SameSales (resubmit actor requestMeta form s envs) ↔ ∀ env ∈ envs, ¬ form.Sells env actor requestMeta s := by
  induction envs with
  | nil => exact iff_of_true ⟨rfl, rfl, rfl⟩ (fun env he => absurd he List.not_mem_nil)
  | cons env envs ih =>
    have hstep : resubmit actor requestMeta form s (env :: envs) =
        resubmit actor requestMeta form (placeOrderAction env actor requestMeta form s).1 envs := rfl
    rw [hstep]
    obtain ⟨hnot, hsame⟩ | ⟨hsells, hmore⟩ := placeOrderAction_cases env actor requestMeta form s
    · rw [hsame, ih, List.forall_mem_cons, and_iff_right hnot]
    · refine iff_of_false (fun hsales => ?_) (fun h => h env List.mem_cons_self hsells)
      have hkept : s.sold < (resubmit actor requestMeta form (placeOrderAction env actor requestMeta form s).1 envs).sold :=
        runFrom_inv (I := fun t : Store => s.sold < t.sold) (G := fun _ _ => True)
          (fun t e ht _ => ht.trans_le (sold_placeOrderAction e actor requestMeta form t)) hmore
          (alongRun_of_forall (fun _ _ => trivial) _ envs)
      rw [Store.sold, Store.sold, Store.billing, Store.billing, hsales.orders, hsales.invoices] at hkept
      exact hkept.false

def Call.issues : Call → Bool
  | issueInvoiceForOrder .. => true
  | _ => false

/-- What reaches the tables: a submitted form, or a call of a service. -/
inductive Action where
  | placeOrder (env : Env) (actor : ClientPortalActor) (requestMeta : RequestMeta) (form : OrderForm)
  | service (call : Call)

def Action.after (s : Store) : Action → Store
  | placeOrder env actor requestMeta form => (placeOrderAction env actor requestMeta form s).1
  | service call => call.after s

/-- The action does not submit a form whose key has an order that can be
invoiced, nor does it invoice an order by itself. -/
def Action.Fresh (s : Store) : Action → Prop
  | placeOrder env actor _ form => ∀ order,
      s.orders.rows.find? (Order.hasKey actor.tenantId (form.key env)) = some order →
        form.productId.getD "" = "" ∨ ¬ order.Invoiceable (env.drawn 2) s
  | service call => call.issues = false

/-- Every invoice bills an order, and no two bill the same. -/
structure BilledOnce (ids : List Id) (billed : List (Option Id)) : Prop where
  known : ∀ b ∈ billed, ∃ id ∈ ids, b = some id
  nodup : billed.Nodup

def Store.BilledOnce (s : Store) : Prop := Model.BilledOnce s.billing.1 s.billing.2

theorem BilledOnce.place {ids : List Id} {billed : List (Option Id)} (h : BilledOnce ids billed) (id : Id) :
    BilledOnce (ids ++ [id]) billed := by
  refine ⟨fun b hb => ?_, h.nodup⟩
  obtain ⟨known, hk, he⟩ := h.known b hb
  exact ⟨known, List.mem_append_left _ hk, he⟩

theorem BilledOnce.bill {ids : List Id} {billed : List (Option Id)} (h : BilledOnce ids billed) {id : Id}
    (hid : id ∈ ids) (hnew : some id ∉ billed) : BilledOnce ids (billed ++ [some id]) := by
  refine ⟨fun b hb => ?_, ?_⟩
  · cases List.mem_append.mp hb with
    | inl hold => exact h.known b hold
    | inr hlast => exact ⟨id, hid, List.mem_singleton.mp hlast⟩
  · refine List.nodup_append.mpr ⟨h.nodup, List.nodup_singleton _, ?_⟩
    intro b hb c hc he
    rw [List.mem_singleton.mp hc] at he
    exact hnew (he ▸ hb)

theorem Paid.billing {env : Env} {actor : StaffActor} {invoiceId : Id} {input : PaymentInput} {s s' : Store}
    {invoice : Invoice} {amount : ℤ} {paid due : Int4} {status : InvoiceStatus}
    (h : Paid env actor invoiceId input s invoice amount paid due status s') : s'.billing = s.billing := by
  rw [h.after.billing]
  have hids : (s.invoices.modify invoice.id (Invoice.withPayment paid due status
      (Payment.paidAt env invoice status)) (Invoice.withPayment_id _ _ _ _)).rows.map Invoice.orderId =
      s.invoices.rows.map Invoice.orderId := Table.map_modify _ _ _ _ _ (fun _ => rfl)
  exact congrArg (Prod.mk _) hids

theorem Cancelled.billing {actor : StaffActor} {invoiceId : Id} {reason : String} {s s' : Store}
    {invoice : Invoice} (h : Cancelled actor invoiceId reason s invoice s') : s'.billing = s.billing := by
  have hids : (s.invoices.modify invoice.id (fun i => { i with status := .cancelled })).rows.map Invoice.orderId =
      s.invoices.rows.map Invoice.orderId := Table.map_modify _ _ _ _ _ (fun _ => rfl)
  rw [h.after]
  exact congrArg (Prod.mk _) hids

/-- A call of another service leaves every order billed at most once. -/
theorem Call.billedOnce {call : Call} (hc : call.issues = false) {s : Store} (hs : s.BilledOnce) :
    (call.after s).BilledOnce := by
  have same : ∀ {s' : Store}, s'.billing = s.billing → s'.BilledOnce := by
    intro s' he
    rw [Store.BilledOnce, he]
    exact hs
  have others : call.sells = false → (call.after s).BilledOnce := by
    intro h
    have hsales := Call.sales_after h s
    have ho := congrArg (fun p => p.1.rows.map Order.id) hsales
    have hi := congrArg (fun p => p.2.rows.map Invoice.orderId) hsales
    exact same (Prod.ext ho hi)
  cases call with
  | issueInvoiceForOrder => cases hc
  | createOrder env actor input =>
    refine inv_of_atomic (P := Store.BilledOnce) (atomic_createOrder env actor input) hs (fun order c s' hev => ?_)
    obtain ⟨_, ⟨_, rfl⟩ | ⟨_, client, rows, hp⟩⟩ := createOrder_ok hev
    · exact hs
    · rw [Store.BilledOnce, hp.billing.1]
      exact hs.place order.id
  | markInvoicePaidManually env actor invoiceId input =>
    refine inv_of_atomic (P := Store.BilledOnce) (atomic_markInvoicePaidManually env actor invoiceId input) hs
      (fun updated c s' hev => ?_)
    obtain ⟨_, invoice, amount, paid, due, status, hp⟩ := markInvoicePaidManually_ok hev
    exact same hp.billing
  | cancelInvoice actor invoiceId reason =>
    refine inv_of_atomic (P := Store.BilledOnce) (atomic_cancelInvoice actor invoiceId reason) hs
      (fun updated c s' hev => ?_)
    obtain ⟨_, _, invoice, hcan⟩ := cancelInvoice_ok hev
    exact same hcan.billing
  | _ => exact others rfl

/-- A form bills a new order at most once, and no order that is there. -/
theorem placeOrderAction_billedOnce {env : Env} {actor : ClientPortalActor} {requestMeta : RequestMeta}
    {form : OrderForm} {s : Store} (hs : s.BilledOnce)
    (hfresh : (Action.placeOrder env actor requestMeta form).Fresh s) :
    (placeOrderAction env actor requestMeta form s).1.BilledOnce := by
  by_cases hp : form.productId.getD "" = ""
  · rw [placeOrderAction_empty hp]
    exact hs
  cases hk : s.orders.rows.find? (Order.hasKey actor.tenantId (form.key env)) with
  | some order =>
    obtain ⟨_, hsame⟩ | ⟨hinv, _⟩ := placeOrderAction_existing requestMeta hp hk
    · rw [hsame]
      exact hs
    · exact ((hfresh order hk).elim hp (fun hnot => hnot hinv)).elim
  | none =>
    rw [placeOrderAction_after _ _ _ _ hp]
    obtain ⟨_, he⟩ | ⟨_, client, rows, order, s₁, hplaced, he⟩ :=
      submitOrder_new env (form.input env actor requestMeta) hk
    · rw [he]
      exact hs
    · obtain ⟨hbilling, hnew⟩ := hplaced.billing
      have hone : s₁.BilledOnce := by
        rw [Store.BilledOnce, hbilling]
        exact hs.place order.id
      rw [he]
      obtain ⟨_, hsame⟩ | ⟨_, payer, invoice, s₂, hi, hafter⟩ :=
        issueInvoiceForOrder_after (env.drawn 2) order actor.transitionActor s₁
      · rw [hsame]
        exact hone
      · rw [hafter, Store.BilledOnce, hi.billing]
        rw [Store.BilledOnce, hbilling] at hone
        rw [hbilling]
        refine hone.bill (List.mem_append_right _ (List.mem_singleton.mpr rfl)) (fun hbilled => ?_)
        obtain ⟨id, hid, heq⟩ := hs.known _ hbilled
        exact hnew (Option.some.inj heq ▸ hid)

theorem Action.billedOnce {action : Action} {s : Store} (hs : s.BilledOnce) (h : action.Fresh s) :
    (action.after s).BilledOnce := by
  cases action with
  | placeOrder env actor requestMeta form => exact placeOrderAction_billedOnce hs h
  | service call => exact Call.billedOnce h hs

/-- A form is sent, anything else happens, and the form is sent again any number
of times: these change nothing exactly when it sells none of the times. And where
no form is sent again whose order can be invoiced, every order has at most one
invoice that is not cancelled. -/
theorem submission_idempotent_iff (actor : ClientPortalActor) (requestMeta : RequestMeta) (form : OrderForm) (s : Store)
    (first : Env) (meanwhile : List Action) (envs : List Env) {s₀ : Store} (ho : s₀.orders = ∅) (hi : s₀.invoices = ∅)
    (actions : List Action) :
    let t := runFrom Action.after s (.placeOrder first actor requestMeta form :: meanwhile)
    (t.SameSales (resubmit actor requestMeta form t envs) ↔ ∀ env ∈ envs, ¬ form.Sells env actor requestMeta t) ∧
    (AlongRun Action.after (fun s action => action.Fresh s) s₀ actions →
      ∀ o ∈ (runFrom Action.after s₀ actions).orders, ∀ i ∈ (runFrom Action.after s₀ actions).invoices,
        ∀ j ∈ (runFrom Action.after s₀ actions).invoices, i.orderId = some o.id → j.orderId = some o.id →
          i.status ≠ .cancelled → j.status ≠ .cancelled → i = j) := by
  refine ⟨resubmit_sameSales_iff actor requestMeta form _ envs, ?_⟩
  intro hfresh o _ i him j hjm hio hjo _ _
  have hstart : s₀.BilledOnce := by
    rw [Store.BilledOnce, Store.billing, ho, hi]
    exact ⟨fun b hb => absurd hb List.not_mem_nil, List.nodup_nil⟩
  have hrun : (runFrom Action.after s₀ actions).BilledOnce :=
    runFrom_inv (fun s action hs h => Action.billedOnce hs h) hstart hfresh
  exact List.inj_on_of_nodup_map hrun.nodup him hjm (hio.trans hjo.symm)

namespace Sample

def submit (tag : String) : Action := .placeOrder (env tag) contact browser form

/-- The shop before its product has a price. -/
def priceless : Store := { shop 0 with productPrices := ∅ }

def pricing : Action :=
  .service (.setProductPrice (env "p") staff
    { productId := "product", currency := "USD", billingCycle := .monthly, price := .integer 1000 })

end Sample

open Sample in
/-- The same form twice: one order, two open invoices for it. -/
theorem resubmission_invoices_twice :
    let once := (submit "a").after (shop 0)
    let twice := (submit "b").after once
    once.orders.rows.map Order.id = ["id-a0"] ∧ twice.orders.rows.map Order.id = ["id-a0"] ∧
      once.invoices.rows.map (fun i => (i.id, i.orderId, i.status)) = [("id-a2", some "id-a0", .issued)] ∧
      twice.invoices.rows.map (fun i => (i.id, i.orderId, i.status)) =
        [("id-a2", some "id-a0", .issued), ("id-b2", some "id-a0", .issued)] ∧
      ¬ once.SameSales twice := by
  intro once twice
  have honce : once.invoices.rows.map (fun i => (i.id, i.orderId, i.status)) = [("id-a2", some "id-a0", .issued)] := by
    decide +kernel
  have htwice : twice.invoices.rows.map (fun i => (i.id, i.orderId, i.status)) =
      [("id-a2", some "id-a0", .issued), ("id-b2", some "id-a0", .issued)] := by decide +kernel
  refine ⟨by decide +kernel, by decide +kernel, honce, htwice, fun hsame => ?_⟩
  rw [hsame.invoices, honce] at htwice
  exact absurd htwice (by decide)

open Sample in
/-- A form that fails for want of a price may be sent again as it is; once the
product has one, sending it again sells. -/
theorem submission_idempotent_iff_priceless :
    let refused := runFrom Action.after priceless [submit "a"]
    let priced := runFrom Action.after priceless [submit "a", pricing]
    refused.SameSales (resubmit contact browser form refused [env "b", env "c"]) ∧
      ¬ priced.SameSales (resubmit contact browser form priced [env "b"]) ∧
      ∀ o ∈ (runFrom Action.after (shop 0) [submit "a"]).orders,
        ∀ i ∈ (runFrom Action.after (shop 0) [submit "a"]).invoices,
          ∀ j ∈ (runFrom Action.after (shop 0) [submit "a"]).invoices, i.orderId = some o.id → j.orderId = some o.id →
            i.status ≠ .cancelled → j.status ≠ .cancelled → i = j := by
  intro refused priced
  have hrefused : (refused.orders.rows.find? (Order.hasKey "tenant" "key")).isNone = true := by decide +kernel
  have hpriced : (priced.orders.rows.find? (Order.hasKey "tenant" "key")).isNone = true := by decide +kernel
  have hthrows : ∀ e ∈ [env "b", env "c"],
      (createOrder e (.clientContact contact) (form.input e contact browser)).completes refused = false := by
    decide +kernel
  have hreturns : (createOrder (env "b") (.clientContact contact) (form.input (env "b") contact browser)).completes
      priced = true := by decide +kernel
  have hnone : ((shop 0).orders.rows.find? (Order.hasKey contact.tenantId (form.key (env "a")))).isNone = true := by
    decide +kernel
  have hagain := fun meanwhile envs => submission_idempotent_iff contact browser form priceless (env "a") meanwhile envs
    (rfl : (shop 0).orders = ∅) rfl [submit "a"]
  refine ⟨(hagain [] [env "b", env "c"]).1.mpr ?_, fun h => ?_, (hagain [] []).2 ⟨?_, trivial⟩⟩
  · intro e he hsells
    have hnew : refused.orders.rows.find? (Order.hasKey contact.tenantId (form.key e)) = none :=
      Option.isNone_iff_eq_none.mp hrefused
    have haccepts := ((OrderForm.sells_new hnew).mp hsells).2
    have hreturned := completes_iff.mpr (createOrder_returns_iff.mpr haccepts)
    cases hreturned.symm.trans (hthrows e he)
  · refine (hagain [pricing] [env "b"]).1.mp h (env "b") List.mem_cons_self ?_
    have hnew : priced.orders.rows.find? (Order.hasKey contact.tenantId (form.key (env "b"))) = none :=
      Option.isNone_iff_eq_none.mp hpriced
    refine (OrderForm.sells_new hnew).mpr ⟨by decide, ?_⟩
    exact createOrder_returns_iff.mp (completes_iff.mp hreturns)
  · intro order hfound
    rw [hfound] at hnone
    cases hnone

end HostPanel.Model
