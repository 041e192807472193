import HostPanel.Model.Orders

namespace HostPanel.Model

open HostPanel.Lib HostPanel.Lib.Program

def invoiceTransitions : InvoiceStatus → List InvoiceStatus
  | .draft => [.issued, .cancelled]
  | .issued => [.partiallyPaid, .paid, .overdue, .cancelled]
  | .unpaid => [.partiallyPaid, .paid, .overdue, .cancelled]
  | .partiallyPaid => [.paid, .overdue, .collections, .cancelled]
  | .overdue => [.partiallyPaid, .paid, .collections, .cancelled]
  | .collections => [.paid, .cancelled]
  | .paid => [.refunded]
  | .cancelled => []
  | .refunded => []

def isValidInvoiceTransition (fromStatus toStatus : InvoiceStatus) : Bool :=
  decide (toStatus ∈ invoiceTransitions fromStatus)

theorem ne_paid_of_cancellable {status : InvoiceStatus} (h : isValidInvoiceTransition status .cancelled = true) :
    status ≠ .paid := by
  rintro rfl
  exact absurd h (by decide)

theorem isValidInvoiceTransition_self (status : InvoiceStatus) : isValidInvoiceTransition status status = false := by
  cases status <;> decide

def defaultNetTermsDays : ℤ := 7

def invoiceMove (invoice : Invoice) (toStatus : InvoiceStatus) (actor : TransitionActor) (reason : Option String) :
    StatusHistory :=
  { tenantId := invoice.tenantId
    entityType := .invoice
    entityId := invoice.id
    fromStatus := some (.invoice invoice.status)
    toStatus := .invoice toStatus
    actorType := actor.type
    actorId := actor.id
    reason := reason }

def transitionInvoiceStatus (invoiceId : Id) (toStatus : InvoiceStatus) (actor : TransitionActor)
    (reason : Option String) : Db Invoice := do
  let invoice ← prisma.invoice.findUniqueOrThrow invoiceId
  ensure (isValidInvoiceTransition invoice.status toStatus = true)
    (businessRuleError "invoice.invalid_transition"
      ("Cannot move an invoice from " ++ invoice.status.name ++ " to " ++ toStatus.name ++ "."))
  let updated ← prisma.invoice.update invoiceId (fun i => { i with status := toStatus })
  recordStatusTransition (invoiceMove invoice toStatus actor reason)
  return updated

def Client.snapshot (client : Client) : CustomerSnapshot :=
  { name := (client.companyName.filter (fun name => name != "")).getD (client.firstName ++ " " ++ client.lastName)
    email := client.email
    addressLine1 := client.addressLine1
    addressLine2 := client.addressLine2
    city := client.city
    state := client.state
    postalCode := client.postalCode
    country := client.country
    taxId := client.taxId }

def OrderItem.description (item : OrderItem) : String :=
  match item.descriptionSnapshot.filter (fun text => text != "") with
  | some text => item.productNameSnapshot ++ " — " ++ text
  | none => item.productNameSnapshot

def invoiceItem (order : Order) (item : OrderItem) : Except Failure InvoiceItem := do
  let lineTotal ← toInt4 (Number.add item.lineTotal.val item.setupFeeSnapshot.val)
  return {
    tenantId := order.tenantId
    sourceOrderItemId := some item.id
    description := item.description
    quantity := item.quantity
    unitPrice := item.unitPriceSnapshot
    taxAmount := item.taxSnapshot
    discountAmount := item.discountSnapshot
    lineTotal := lineTotal }

def invoiceItems (order : Order) : List OrderItem → Except Failure (List InvoiceItem)
  | [] => .ok []
  | item :: items => do
    let line ← invoiceItem order item
    let lines ← invoiceItems order items
    return line :: lines

def invoiceIssued (order : Order) (actor : TransitionActor) (invoiceId : Id) : StatusHistory :=
  { tenantId := order.tenantId
    entityType := .invoice
    entityId := invoiceId
    fromStatus := none
    toStatus := .invoice .issued
    actorType := actor.type
    actorId := actor.id }

def invoiceIssuedAudit (order : Order) (actor : TransitionActor) (invoiceNumber : String) (invoiceId : Id) :
    AuditLog :=
  { tenantId := order.tenantId
    actorType := actor.type
    actorId := actor.id
    actorLabel := actor.label
    action := "invoice.created"
    entityType := .invoice
    entityId := invoiceId
    afterState := some [("invoiceNumber", .scalar (.str invoiceNumber)), ("total", .scalar (.num order.total.val)),
      ("currency", .scalar (.str order.currency))] }

def invoiceNumberOptions : SequenceOptions := ⟨"INV-", 6⟩

def awaitPayment (order : Order) (actor : TransitionActor) : Db Unit :=
  if order.status = .pending then do
    let _ ← transitionOrderStatus order.id .awaitingPayment actor (some "invoice_issued")
    return ()
  else .ret ()

/-- The invoice row of an order, with snapshots of the client and company
details. -/
def newInvoice (env : Env) (order : Order) (client : Client) (company : JsonObject) (invoiceNumber : String)
    (items : List InvoiceItem) : Invoice :=
  { id := env.cuid 0
    tenantId := order.tenantId
    clientId := order.clientId
    orderId := some order.id
    invoiceNumber := invoiceNumber
    status := .issued
    currency := order.currency
    subtotal := order.subtotal
    discountTotal := order.discountTotal
    taxTotal := order.taxTotal
    total := order.total
    amountPaid := 0
    amountDue := order.total
    dueDate := env.now + defaultNetTermsDays * 24 * 60 * 60 * 1000
    issuedAt := some env.now
    paidAt := none
    customerSnapshot := client.snapshot
    companySnapshot := company
    items := items }

/-- Issue an invoice for an order as the caller holds it. -/
def issueInvoiceForOrder (env : Env) (order : Order) (actor : TransitionActor) : Db Invoice :=
  transaction do
    let client ← prisma.client.findUniqueOrThrow order.clientId
    let company ← getCompanyProfile order.tenantId
    let invoiceNumber ← nextSequenceNumber order.tenantId "invoice_number" invoiceNumberOptions
    let items ← lift (invoiceItems order order.items)
    let invoice ← prisma.invoice.create (newInvoice env order client company invoiceNumber items)
    recordStatusTransition (invoiceIssued order actor invoice.id)
    recordAuditLog (invoiceIssuedAudit order actor invoiceNumber invoice.id)
    awaitPayment order actor
    return invoice

structure PaymentInput where
  amount : Number
  reference : Option String := none
  reason : Option String := none

/-- `Number.isInteger(amount) && amount > 0`. -/
def paymentAmount (amount : Number) : Except Failure ℤ :=
  let invalid := businessRuleError "invoice.invalid_amount"
    "Payment amount must be a positive whole number of minor currency units."
  match amount with
  | .integer n => if 0 < n then .ok n else .error invalid
  | .other _ => .error invalid

def payableStatuses : List InvoiceStatus := [.issued, .partiallyPaid, .overdue]

theorem ne_paid_of_payable {status : InvoiceStatus} (h : status ∈ payableStatuses) : status ≠ .paid := by
  rintro rfl
  exact absurd h (by decide)

def Invoice.withPayment (paid due : Int4) (status : InvoiceStatus) (paidAt : Option DateTime) (i : Invoice) :
    Invoice :=
  { i with amountPaid := paid, amountDue := due, status := status, paidAt := paidAt }

theorem Invoice.withPayment_id (paid due : Int4) (status : InvoiceStatus) (paidAt : Option DateTime) (i : Invoice) :
    (i.withPayment paid due status paidAt).id = i.id := rfl

def StaffActor.transitionActor (actor : StaffActor) : TransitionActor :=
  { type := .staff, id := some actor.id, label := some actor.label }

def paymentRecorded (actor : StaffActor) (invoice : Invoice) (nextStatus : InvoiceStatus) (amount : ℤ)
    (input : PaymentInput) : StatusHistory :=
  { tenantId := invoice.tenantId
    entityType := .invoice
    entityId := invoice.id
    fromStatus := some (.invoice invoice.status)
    toStatus := .invoice nextStatus
    actorType := .staff
    actorId := some actor.id
    reason := some (input.reason.getD "manual_payment_recorded")
    metadata := some ⟨amount, input.reference⟩ }

def paymentRecordedAudit (actor : StaffActor) (invoice : Invoice) (nextStatus : InvoiceStatus) (paid : ℤ)
    (input : PaymentInput) : AuditLog :=
  { tenantId := invoice.tenantId
    actorType := .staff
    actorId := some actor.id
    actorLabel := some actor.label
    action := "invoice.marked_paid"
    entityType := .invoice
    entityId := invoice.id
    afterState := some [("amountPaid", .scalar (.num paid)), ("status", .scalar (.str nextStatus.name))]
    reason := input.reason
    metadata := some (jsonField "reference" input.reference .str) }

def settleOrder (actor : StaffActor) (invoice : Invoice) (nextStatus : InvoiceStatus) : Db Unit :=
  if nextStatus = .paid then
    whenTruthy invoice.orderId (fun orderId => do
      let _ ← transitionOrderStatus orderId .paid actor.transitionActor (some "invoice_paid")
      return ())
  else .ret ()

/-- Staff record a payment of an invoice. -/
def markInvoicePaidManually (env : Env) (actor : StaffActor) (invoiceId : Id) (input : PaymentInput) :
    Db Invoice := do
  requirePermission actor.permissions .invoicesWrite
  let amount ← lift (paymentAmount input.amount)
  transaction do
    let invoice ← prisma.invoice.findUniqueOrThrow invoiceId
    ensure (invoice.status ∈ payableStatuses)
      (businessRuleError "invoice.not_payable"
        ("Invoice is " ++ invoice.status.name ++ " and cannot accept a payment."))
    let currentPaid ← lift (money (.integer invoice.amountPaid.val) invoice.currency)
    let payment ← lift (money (.integer amount) invoice.currency)
    let newPaid ← lift (add currentPaid payment)
    let total ← lift (money (.integer invoice.total.val) invoice.currency)
    ensure (¬ total.amount < newPaid.amount)
      (businessRuleError "invoice.overpayment"
        "That payment would exceed the invoice total — record the excess as account credit instead.")
    let newDue := Number.sub total.amount newPaid.amount
    let nextStatus := if newDue = .integer 0 then InvoiceStatus.paid else .partiallyPaid
    let paid ← lift (toInt4 (.integer newPaid.amount))
    let due ← lift (toInt4 newDue)
    let paidAt := if nextStatus = .paid then some env.now else invoice.paidAt
    let updated ← prisma.invoice.update invoiceId (Invoice.withPayment paid due nextStatus paidAt)
      (Invoice.withPayment_id paid due nextStatus paidAt)
    recordStatusTransition (paymentRecorded actor invoice nextStatus amount input)
    recordAuditLog (paymentRecordedAudit actor invoice nextStatus newPaid.amount input)
    settleOrder actor invoice nextStatus
    return updated

def invoiceCancelledAudit (actor : StaffActor) (invoiceId : Id) (reason : String) : AuditLog :=
  { tenantId := actor.tenantId
    actorType := .staff
    actorId := some actor.id
    actorLabel := some actor.label
    action := "invoice.status_changed"
    entityType := .invoice
    entityId := invoiceId
    afterState := some [("status", .scalar (.str "CANCELLED"))]
    reason := some reason }

def cancelInvoice (actor : StaffActor) (invoiceId : Id) (reason : String) : Db Invoice := do
  requirePermission actor.permissions .invoicesWrite
  transaction do
    let updated ← transitionInvoiceStatus invoiceId .cancelled actor.transitionActor (some reason)
    recordAuditLog (invoiceCancelledAudit actor invoiceId reason)
    return updated

/-- One line of an invoice, and the order item it bills. -/
structure InvoicedItem (order : Order) (item : OrderItem) (line : InvoiceItem) : Prop where
  tenantId : line.tenantId = order.tenantId
  source : line.sourceOrderItemId = some item.id
  lineTotal : line.lineTotal.val = item.lineTotal.val + item.setupFeeSnapshot.val

theorem invoiceItem_ok {order : Order} {item : OrderItem} {line : InvoiceItem}
    (h : invoiceItem order item = .ok line) : InvoicedItem order item line := by
  simp only [invoiceItem, except_bind_ok, toInt4_integer_ok_iff, add_int4] at h
  obtain ⟨total, ht, he⟩ := h
  cases he
  exact ⟨rfl, rfl, ht.symm⟩

theorem invoiceItems_ok {order : Order} {items : List OrderItem} {lines : List InvoiceItem}
    (h : invoiceItems order items = .ok lines) : List.Forall₂ (InvoicedItem order) items lines := by
  induction items generalizing lines with
  | nil =>
    cases h
    exact List.Forall₂.nil
  | cons item items ih =>
    simp only [invoiceItems, except_bind_ok] at h
    obtain ⟨line, hl, rest, hr, he⟩ := h
    cases he
    exact List.Forall₂.cons (invoiceItem_ok hl) (ih hr)

theorem uncommitted_awaitPayment (order : Order) (actor : TransitionActor) :
    (awaitPayment order actor).Uncommitted := by
  unfold awaitPayment
  split
  · exact (uncommitted_transitionOrderStatus _ _ _ _).bind (fun _ => trivial)
  · trivial

theorem uncommitted_settleOrder (actor : StaffActor) (invoice : Invoice) (nextStatus : InvoiceStatus) :
    (settleOrder actor invoice nextStatus).Uncommitted := by
  unfold settleOrder
  split
  · exact uncommitted_whenTruthy (fun _ => (uncommitted_transitionOrderStatus _ _ _ _).bind (fun _ => trivial))
  · trivial

section Guarantees

variable {rel : Store → Store → Prop}

theorem guarantees_awaitPayment
    (horders : ∀ (t : Store) (i : Id) (status : OrderStatus),
      rel t (prisma.order.modify i (fun o => { o with status := status }) (fun _ => rfl) t))
    (hlogs : ∀ (t : Store) (row : StatusHistory), rel t (t.withStatusHistory row))
    (haudits : ∀ (t : Store) (row : AuditLog), rel t (t.withAuditLog row)) (order : Order) (actor : TransitionActor) :
    (awaitPayment order actor).Guarantees rel := by
  unfold awaitPayment
  split
  · exact (guarantees_transitionOrderStatus (fun t i => horders t i _) hlogs haudits _ _ _).bind (fun _ => trivial)
  · trivial

theorem guarantees_settleOrder
    (horders : ∀ (t : Store) (i : Id) (status : OrderStatus),
      rel t (prisma.order.modify i (fun o => { o with status := status }) (fun _ => rfl) t))
    (hlogs : ∀ (t : Store) (row : StatusHistory), rel t (t.withStatusHistory row))
    (haudits : ∀ (t : Store) (row : AuditLog), rel t (t.withAuditLog row)) (actor : StaffActor) (invoice : Invoice)
    (nextStatus : InvoiceStatus) : (settleOrder actor invoice nextStatus).Guarantees rel := by
  unfold settleOrder
  split
  · refine guarantees_whenTruthy (fun _ => ?_)
    exact (guarantees_transitionOrderStatus (fun t i => horders t i _) hlogs haudits _ _ _).bind (fun _ => trivial)
  · trivial

end Guarantees

theorem uncommitted_transitionInvoiceStatus (invoiceId : Id) (toStatus : InvoiceStatus) (actor : TransitionActor)
    (reason : Option String) : (transitionInvoiceStatus invoiceId toStatus actor reason).Uncommitted := by
  refine (Relation.uncommitted_findUniqueOrThrow _).bind (fun _ => ?_)
  refine (uncommitted_ensure _ _).bind (fun _ => ?_)
  refine (Relation.uncommitted_update _ _ _).bind (fun _ => ?_)
  exact (uncommitted_recordStatusTransition _).bind (fun _ => trivial)

theorem atomic_issueInvoiceForOrder (env : Env) (order : Order) (actor : TransitionActor) :
    (issueInvoiceForOrder env order actor).Atomic := by
  refine Uncommitted.transaction ?_
  refine (Relation.uncommitted_findUniqueOrThrow _).bind (fun _ => ?_)
  refine (uncommitted_getCompanyProfile _).bind (fun _ => ?_)
  refine (uncommitted_nextSequenceNumber _ _ _).bind (fun _ => ?_)
  refine (uncommitted_lift _).bind (fun _ => (Relation.uncommitted_create _).bind (fun _ => ?_))
  refine (uncommitted_recordStatusTransition _).bind (fun _ => (uncommitted_recordAuditLog _).bind (fun _ => ?_))
  exact (uncommitted_awaitPayment _ _).bind (fun _ => trivial)

theorem atomic_markInvoicePaidManually (env : Env) (actor : StaffActor) (invoiceId : Id) (input : PaymentInput) :
    (markInvoicePaidManually env actor invoiceId input).Atomic := by
  refine (uncommitted_requirePermission _ _).bind_atomic (fun _ => ?_)
  refine (uncommitted_lift _).bind_atomic (fun _ => Uncommitted.transaction ?_)
  refine (Relation.uncommitted_findUniqueOrThrow _).bind (fun _ => (uncommitted_ensure _ _).bind (fun _ => ?_))
  refine (uncommitted_lift _).bind (fun _ => (uncommitted_lift _).bind (fun _ => ?_))
  refine (uncommitted_lift _).bind (fun _ => (uncommitted_lift _).bind (fun _ => ?_))
  refine (uncommitted_ensure _ _).bind (fun _ => ?_)
  refine (uncommitted_lift _).bind (fun _ => (uncommitted_lift _).bind (fun _ => ?_))
  refine (Relation.uncommitted_update _ _ _).bind (fun _ => (uncommitted_recordStatusTransition _).bind (fun _ => ?_))
  refine (uncommitted_recordAuditLog _).bind (fun _ => ?_)
  exact (uncommitted_settleOrder _ _ _).bind (fun _ => trivial)

theorem atomic_cancelInvoice (actor : StaffActor) (invoiceId : Id) (reason : String) :
    (cancelInvoice actor invoiceId reason).Atomic := by
  refine (uncommitted_requirePermission _ _).bind_atomic (fun _ => Uncommitted.transaction ?_)
  refine (uncommitted_transitionInvoiceStatus _ _ _ _).bind (fun _ => ?_)
  exact (uncommitted_recordAuditLog _).bind (fun _ => trivial)

section Evaluation

variable {β : Type} {c v : Store} {out : β × Store × Store}

theorem eval_awaitPayment_bind {order : Order} {actor : TransitionActor} {k : Unit → Db β} :
    (awaitPayment order actor >>= k).eval c v = .ok out ↔
      ∃ v', OrderStep v (if order.status = .pending then some order.id else none) .awaitingPayment actor
        (some "invoice_issued") v' ∧ (k ()).eval c v' = .ok out := by
  by_cases hp : order.status = .pending
  · simp only [awaitPayment, hp, if_true, bind_assoc, eval_transitionOrderStatus_bind, pure_eq_ret, ret_bind,
      OrderStep]
    constructor
    · rintro ⟨current, ho, hv, htenant, hk⟩
      exact ⟨_, ⟨current, ho, hv, htenant, rfl⟩, hk⟩
    · rintro ⟨_, ⟨current, ho, hv, htenant, rfl⟩, hk⟩
      exact ⟨current, ho, hv, htenant, hk⟩
  · simp [awaitPayment, hp, OrderStep]

theorem eval_settleOrder_bind {actor : StaffActor} {invoice : Invoice} {nextStatus : InvoiceStatus}
    {k : Unit → Db β} :
    (settleOrder actor invoice nextStatus >>= k).eval c v = .ok out ↔
      ∃ v', OrderStep v (if nextStatus = .paid then invoice.orderId.filter (fun id => id != "") else none) .paid
        actor.transitionActor (some "invoice_paid") v' ∧ (k ()).eval c v' = .ok out := by
  by_cases hp : nextStatus = .paid
  · cases ho : invoice.orderId with
    | none => simp [settleOrder, hp, ho, whenTruthy, OrderStep]
    | some id =>
      by_cases hid : id = ""
      · simp [settleOrder, hp, ho, hid, whenTruthy, OrderStep, Option.filter]
      · simp only [settleOrder, hp, ho, hid, if_true, if_false, whenTruthy, bind_assoc,
          eval_transitionOrderStatus_bind, pure_eq_ret, ret_bind, OrderStep, Option.filter, bne_iff_ne, ne_eq,
          not_false_eq_true]
        constructor
        · rintro ⟨current, hc, hv, htenant, hk⟩
          exact ⟨_, ⟨current, hc, hv, htenant, rfl⟩, hk⟩
        · rintro ⟨_, ⟨current, hc, hv, htenant, rfl⟩, hk⟩
          exact ⟨current, hc, hv, htenant, hk⟩
  · simp [settleOrder, hp, OrderStep]

end Evaluation

/-- The tables after an invoice is issued, before the order moves. -/
def Store.issueInvoice (s : Store) (order : Order) (actor : TransitionActor) (invoice : Invoice) (value : Int4) :
    Store :=
  ((prisma.invoice.insert invoice (s.withCounter (order.tenantId, "invoice_number") value)).withStatusHistory
    (invoiceIssued order actor invoice.id)).withAuditLog
    (invoiceIssuedAudit order actor invoice.invoiceNumber invoice.id)

theorem issueInvoice_eq (s : Store) (order : Order) (actor : TransitionActor) (invoice : Invoice) (value : Int4) :
    s.issueInvoice order actor invoice value =
      { s with
        invoices := s.invoices.insert invoice
        counters := (s.withCounter (order.tenantId, "invoice_number") value).counters
        statusHistories := s.statusHistories ++ [invoiceIssued order actor invoice.id]
        auditLogs := s.auditLogs ++ [invoiceIssuedAudit order actor invoice.invoiceNumber invoice.id] } := by
  simp only [Store.issueInvoice, Store.withAuditLog, Store.withStatusHistory, Relation.insert, prisma.invoice,
    Store.withCounter]

theorem issueInvoice_orders (s : Store) (order : Order) (actor : TransitionActor) (invoice : Invoice)
    (value : Int4) : (s.issueInvoice order actor invoice value).orders = s.orders := by
  rw [issueInvoice_eq]

theorem issueInvoice_tenants (s : Store) (order : Order) (actor : TransitionActor) (invoice : Invoice)
    (value : Int4) : (s.issueInvoice order actor invoice value).tenants = s.tenants := by
  rw [issueInvoice_eq]

theorem issueInvoice_invoices (s : Store) (order : Order) (actor : TransitionActor) (invoice : Invoice)
    (value : Int4) : (s.issueInvoice order actor invoice value).invoices = s.invoices.insert invoice := by
  rw [issueInvoice_eq]

theorem issueInvoice_productPrices (s : Store) (order : Order) (actor : TransitionActor) (invoice : Invoice)
    (value : Int4) : (s.issueInvoice order actor invoice value).productPrices = s.productPrices := by
  rw [issueInvoice_eq]

/-- What `issueInvoiceForOrder` stored. -/
structure Issued (env : Env) (order : Order) (actor : TransitionActor) (client : Client) (s : Store)
    (invoice : Invoice) (s' : Store) : Prop where
  tenant_found : s.hasTenant order.tenantId = true
  client_found : s.clients.find order.clientId = some client
  order_found : (s.orders.find order.id).isSome = true
  items : List.Forall₂ (InvoicedItem order) order.items invoice.items
  invoice_eq : invoice =
    newInvoice env order client (s.companyProfile order.tenantId) invoice.invoiceNumber invoice.items
  fresh : prisma.invoice.Fresh invoice s
  after : ∃ value, s.incremented (order.tenantId, "invoice_number") = .ok value ∧
    invoice.invoiceNumber = sequenceNumber invoiceNumberOptions value ∧
    OrderStep (s.issueInvoice order actor invoice value) (if order.status = .pending then some order.id else none)
      .awaitingPayment actor (some "invoice_issued") s'

theorem issueInvoiceForOrder_ok {env : Env} {order : Order} {actor : TransitionActor} {c s c' s' : Store}
    {invoice : Invoice} (h : (issueInvoiceForOrder env order actor).eval c s = .ok (invoice, c', s')) :
    c' = s' ∧ ∃ client, Issued env order actor client s invoice s' := by
  obtain ⟨hc, c₁, hbody⟩ := eval_transaction_ok.mp h
  simp only [Relation.eval_findUniqueOrThrow_bind, eval_getCompanyProfile_bind, eval_nextSequenceNumber_bind,
    eval_lift_bind, Relation.eval_create_bind, eval_recordStatusTransition_bind, eval_recordAuditLog_bind,
    eval_awaitPayment_bind, pure_eq_ret, eval_ret, Except.ok.injEq, Prod.mk.injEq] at hbody
  obtain ⟨client, hclient, value, hvalue, items, hitems, hfresh, hrefs, htenant, _, s₁, hstep, rfl, _, rfl⟩ := hbody
  have horder : (s.orders.find order.id).isSome = true := by
    have hand := (Bool.and_eq_true_iff.mp hrefs).2
    rw [newInvoice, Option.all_some] at hand
    exact hand
  exact ⟨hc, client, htenant, hclient, horder, invoiceItems_ok hitems, rfl, hfresh, value, hvalue, rfl, hstep⟩

/-- The tables after a payment is recorded, before the order moves. -/
def Store.payInvoice (s : Store) (actor : StaffActor) (invoice : Invoice) (paid due : Int4) (status : InvoiceStatus)
    (paidAt : Option DateTime) (amount : ℤ) (input : PaymentInput) : Store :=
  ((prisma.invoice.modify invoice.id (Invoice.withPayment paid due status paidAt)
    (Invoice.withPayment_id paid due status paidAt) s).withStatusHistory
    (paymentRecorded actor invoice status amount input)).withAuditLog
    (paymentRecordedAudit actor invoice status paid.val input)

/-- A payment an invoice takes: what it makes of the paid and due amounts and
of the status. -/
structure Payment (invoice : Invoice) (amount : ℤ) (paid due : Int4) (status : InvoiceStatus) : Prop where
  positive : 0 < amount
  payable : invoice.status ∈ payableStatuses
  currency : isCurrencyCode invoice.currency = true
  paid_eq : paid.val = invoice.amountPaid.val + amount
  due_eq : due.val = invoice.total.val - paid.val
  fits : paid.val ≤ invoice.total.val
  status_eq : status = if due.val = 0 then .paid else .partiallyPaid

theorem Payment.status_cases {invoice : Invoice} {amount : ℤ} {paid due : Int4} {status : InvoiceStatus}
    (h : Payment invoice amount paid due status) : status = .paid ∨ status = .partiallyPaid := by
  rw [h.status_eq]
  split
  · exact Or.inl rfl
  · exact Or.inr rfl

def Payment.paidAt (env : Env) (invoice : Invoice) (status : InvoiceStatus) : Option DateTime :=
  if status = .paid then some env.now else invoice.paidAt

/-- What `markInvoicePaidManually` stored. -/
structure Paid (env : Env) (actor : StaffActor) (invoiceId : Id) (input : PaymentInput) (s : Store)
    (invoice : Invoice) (amount : ℤ) (paid due : Int4) (status : InvoiceStatus) (s' : Store) : Prop where
  permitted : hasPermission actor.permissions .invoicesWrite = true
  found : s.invoices.find invoiceId = some invoice
  tenant_found : s.hasTenant invoice.tenantId = true
  amount_eq : input.amount = .integer amount
  payment : Payment invoice amount paid due status
  after : OrderStep (s.payInvoice actor invoice paid due status (Payment.paidAt env invoice status) amount input)
    (if status = .paid then invoice.orderId.filter (fun id => id != "") else none) .paid
    actor.transitionActor (some "invoice_paid") s'

theorem paymentAmount_ok_iff {x : Number} {n : ℤ} : paymentAmount x = .ok n ↔ x = .integer n ∧ 0 < n := by
  cases x with
  | other text => simp [paymentAmount]
  | integer k =>
    by_cases hk : 0 < k
    · simp only [paymentAmount, hk, if_true, Except.ok.injEq, Number.integer.injEq]
      constructor
      · rintro rfl
        exact ⟨rfl, hk⟩
      · exact fun h => h.1
    · simp only [paymentAmount, hk, if_false, Number.integer.injEq]
      constructor
      · intro h
        cases h
      · rintro ⟨rfl, hn⟩
        exact absurd hn hk

theorem newPaid_eq {paid total : Int4} {amount newPaid : ℤ} (hadd : Number.add paid.val amount = .integer newPaid)
    (hpos : 0 < amount) (hle : newPaid ≤ total.val) : newPaid = paid.val + amount := by
  have hp := paid.property
  have ht := total.property
  by_cases hs : (paid.val + amount).natAbs ≤ 2 ^ 53
  · have he := (Number.ofExact_of_le hs).symm.trans hadd
    injection he with he
    exact he.symm
  · have hl := (Number.ofExact_large (not_le.mp hs) hadd).1 (by omega)
    omega

/-- What the checks of `markInvoicePaidManually` leave of an amount. -/
theorem payment_of_checks {invoice : Invoice} {amount : ℤ} {current payment newPaid total : Money} {paid due : Int4}
    (hpos : 0 < amount) (hpayable : invoice.status ∈ payableStatuses)
    (hcurrent : money (.integer invoice.amountPaid.val) invoice.currency = .ok current)
    (hpayment : money (.integer amount) invoice.currency = .ok payment) (hnew : add current payment = .ok newPaid)
    (htotal : money (.integer invoice.total.val) invoice.currency = .ok total)
    (hover : ¬ total.amount < newPaid.amount) (hpaid : toInt4 (.integer newPaid.amount) = .ok paid)
    (hdue : toInt4 (Number.sub total.amount newPaid.amount) = .ok due) :
    newPaid.amount = paid.val ∧ Number.sub total.amount paid.val = .integer due.val ∧
      Payment invoice amount paid due (if due.val = 0 then .paid else .partiallyPaid) := by
  simp only [money_ok_iff, add_ok_iff, toInt4_ok_iff] at *
  obtain ⟨_, hcur, hcode, rfl⟩ := hcurrent
  obtain ⟨_, hpay, _, rfl⟩ := hpayment
  obtain ⟨_, _, hadd, _, rfl⟩ := hnew
  obtain ⟨_, htot, _, rfl⟩ := htotal
  cases hcur
  cases hpay
  cases htot
  cases hpaid
  have hle : paid.val ≤ invoice.total.val := not_lt.mp hover
  have hexact := newPaid_eq hadd hpos hle
  have hdue' : invoice.total.val - paid.val = due.val := by
    rw [sub_int4] at hdue
    exact Option.some.inj hdue
  exact ⟨rfl, by rw [sub_int4, hdue'], hpos, hpayable, hcode, hexact, hdue'.symm, hle, rfl⟩

theorem markInvoicePaidManually_ok {env : Env} {actor : StaffActor} {invoiceId : Id} {input : PaymentInput}
    {c s c' s' : Store} {updated : Invoice}
    (h : (markInvoicePaidManually env actor invoiceId input).eval c s = .ok (updated, c', s')) :
    c' = s' ∧ ∃ invoice amount paid due status,
      Paid env actor invoiceId input s invoice amount paid due status s' := by
  simp only [markInvoicePaidManually, eval_requirePermission_bind, eval_lift_bind, paymentAmount_ok_iff] at h
  obtain ⟨hperm, amount, ⟨hamount, hpos⟩, htx⟩ := h
  obtain ⟨hc, c₁, hbody⟩ := eval_transaction_ok.mp htx
  simp only [Relation.eval_findUniqueOrThrow_bind, eval_ensure_bind, eval_lift_bind, Relation.eval_update_bind,
    eval_recordStatusTransition_bind, eval_recordAuditLog_bind, eval_settleOrder_bind, pure_eq_ret, eval_ret,
    Except.ok.injEq, Prod.mk.injEq] at hbody
  obtain ⟨invoice, hfound, hpayable, current, hcurrent, payment, hpayment, newPaid, hnew, total, htotal, hover, paid,
    hpaid, due, hdue, r, hr, htenant, _, s₁, hstep, _, _, rfl⟩ := hbody
  obtain ⟨hpaid', hdue', htaken⟩ :=
    payment_of_checks hpos hpayable hcurrent hpayment hnew htotal hover hpaid hdue
  have hid : invoice.id = invoiceId := Table.key_of_find hfound
  subst hid
  simp only [hpaid', hdue', Number.integer.injEq] at hstep
  exact ⟨hc, invoice, amount, paid, due, _, hperm, hfound, htenant, hamount, htaken, hstep⟩

/-- A payment that the invoice takes goes through where the order follows. -/
theorem markInvoicePaidManually_takes {env : Env} {actor : StaffActor} {invoiceId : Id} {input : PaymentInput}
    {s s' : Store} {invoice : Invoice} {amount : ℤ} {paid due : Int4} {status : InvoiceStatus}
    (h : Paid env actor invoiceId input s invoice amount paid due status s') :
    (markInvoicePaidManually env actor invoiceId input).eval s s =
      .ok (invoice.withPayment paid due status (Payment.paidAt env invoice status), s', s') := by
  have hpayment := h.payment
  have hadd : Number.add invoice.amountPaid.val amount = .integer paid.val := by
    have hbound := paid.property
    rw [hpayment.paid_eq] at hbound ⊢
    exact Number.ofExact_of_le (by omega)
  have hsub : Number.sub invoice.total.val paid.val = .integer due.val := by
    rw [sub_int4, hpayment.due_eq]
  have hid : invoice.id = invoiceId := Table.key_of_find h.found
  have hcode := hpayment.currency
  have hstep := h.after
  subst hid
  simp only [markInvoicePaidManually, eval_requirePermission_bind, eval_lift_bind, paymentAmount_ok_iff]
  refine ⟨h.permitted, amount, ⟨h.amount_eq, hpayment.positive⟩, eval_transaction_ok.mpr ⟨rfl, s, ?_⟩⟩
  simp only [Relation.eval_findUniqueOrThrow_bind, eval_ensure_bind, eval_lift_bind, Relation.eval_update_bind,
    eval_recordStatusTransition_bind, eval_recordAuditLog_bind, eval_settleOrder_bind, money_ok_iff, add_ok_iff,
    toInt4_ok_iff, pure_eq_ret, eval_ret, Except.ok.injEq, Prod.mk.injEq]
  refine ⟨invoice, h.found, hpayment.payable, _, ⟨_, rfl, hcode, rfl⟩, _, ⟨_, rfl, hcode, rfl⟩, _,
    ⟨rfl, _, hadd, isCurrencyCode_toUpperCase hcode, rfl⟩, _, ⟨_, rfl, hcode, rfl⟩, not_lt.mpr hpayment.fits, paid, rfl,
    due, congrArg Number.trunc hsub, invoice, h.found, ?_⟩
  simp only [hsub, Number.integer.injEq, ← hpayment.status_eq]
  exact ⟨h.tenant_found, h.tenant_found, s', hstep, rfl, trivial, rfl⟩

/-- A payment passes the checks of `markInvoicePaidManually`: staff may record
it, the invoice takes the amount, and an order that it settles can be moved. -/
def Store.TakesPayment (s : Store) (actor : StaffActor) (invoiceId : Id) (input : PaymentInput) : Prop :=
  hasPermission actor.permissions .invoicesWrite = true ∧ ∃ invoice amount,
    s.invoices.find invoiceId = some invoice ∧ s.hasTenant invoice.tenantId = true ∧
      invoice.status ∈ payableStatuses ∧ isCurrencyCode invoice.currency = true ∧
      input.amount = .integer amount ∧ 0 < amount ∧ invoice.amountPaid.val + amount ≤ invoice.total.val ∧
      invoice.total.val - (invoice.amountPaid.val + amount) < 2147483648 ∧
      (invoice.amountPaid.val + amount = invoice.total.val → ∀ orderId, invoice.orderId = some orderId →
        orderId ≠ "" → ∃ order, s.orders.find orderId = some order ∧
          isValidOrderTransition order.status .paid = true ∧ s.hasTenant order.tenantId = true)

/-- The order that a payment settles. -/
theorem settledOrder_eq_some_iff {status : InvoiceStatus} {orderId : Option Id} {id : Id} :
    (if status = .paid then orderId.filter (fun id => id != "") else none) = some id ↔
      status = .paid ∧ orderId = some id ∧ id ≠ "" := by
  by_cases hpaid : status = .paid
  · rw [if_pos hpaid, Option.filter_eq_some_iff, bne_iff_ne, and_iff_right hpaid]
  · rw [if_neg hpaid]
    exact iff_of_false (fun h => nomatch h) (fun h => hpaid h.1)

theorem markInvoicePaidManually_returns_iff {env : Env} {actor : StaffActor} {invoiceId : Id} {input : PaymentInput}
    {s : Store} :
    (∃ r, (markInvoicePaidManually env actor invoiceId input).eval s s = .ok r) ↔
      s.TakesPayment actor invoiceId input := by
  constructor
  · rintro ⟨⟨updated, c', s'⟩, h⟩
    obtain ⟨_, invoice, amount, paid, due, status, hp⟩ := markInvoicePaidManually_ok h
    have hpay := hp.payment
    have hpaid := hpay.paid_eq
    have hdue := hpay.due_eq
    have hfits := hpay.fits
    have hbound := due.property
    refine ⟨hp.permitted, invoice, amount, hp.found, hp.tenant_found, hpay.payable, hpay.currency, hp.amount_eq,
      hpay.positive, by omega, by omega, fun hfull orderId horder hne => ?_⟩
    have hstatus : status = .paid := by rw [hpay.status_eq, if_pos (by omega)]
    exact exists_orderStep_iff.mp ⟨s', hp.after⟩ orderId (settledOrder_eq_some_iff.mpr ⟨hstatus, horder, hne⟩)
  · rintro ⟨hperm, invoice, amount, hfound, htenant, hpayable, hcode, hamount, hpos, hle, hbound, hsettles⟩
    have hp := invoice.amountPaid.property
    have ht := invoice.total.property
    let paid : Int4 := ⟨invoice.amountPaid.val + amount, by omega⟩
    let due : Int4 := ⟨invoice.total.val - (invoice.amountPaid.val + amount), by omega⟩
    let status : InvoiceStatus := if due.val = 0 then .paid else .partiallyPaid
    have hpayment : Payment invoice amount paid due status := ⟨hpos, hpayable, hcode, rfl, rfl, hle, rfl⟩
    have hfull : status = .paid → invoice.amountPaid.val + amount = invoice.total.val := by
      intro hstatus
      by_contra hne
      have hdue : ¬ invoice.total.val - (invoice.amountPaid.val + amount) = 0 := by omega
      rw [show status = .partiallyPaid from if_neg hdue] at hstatus
      cases hstatus
    let t := s.payInvoice actor invoice paid due status (Payment.paidAt env invoice status) amount input
    have hsettled : ∃ s', OrderStep t (if status = .paid then invoice.orderId.filter (fun id => id != "") else none)
        .paid actor.transitionActor (some "invoice_paid") s' := by
      refine exists_orderStep_iff.mpr (fun orderId htarget => ?_)
      obtain ⟨hstatus, horder, hne⟩ := settledOrder_eq_some_iff.mp htarget
      exact hsettles (hfull hstatus) orderId horder hne
    obtain ⟨s', hstep⟩ := hsettled
    exact ⟨_, markInvoicePaidManually_takes ⟨hperm, hfound, htenant, hamount, hpayment, hstep⟩⟩

/-- A payment that leaves part of the total due goes through. -/
theorem markInvoicePaidManually_leavesDue (env : Env) {actor : StaffActor} {invoiceId : Id} {input : PaymentInput}
    {s : Store} {invoice : Invoice} {amount : ℤ} (hperm : hasPermission actor.permissions .invoicesWrite = true)
    (hfound : s.invoices.find invoiceId = some invoice) (htenant : s.hasTenant invoice.tenantId = true)
    (hpayable : invoice.status ∈ payableStatuses) (hcode : isCurrencyCode invoice.currency = true)
    (hamount : input.amount = .integer amount) (hpos : 0 < amount)
    (hlt : invoice.amountPaid.val + amount < invoice.total.val)
    (hdue : invoice.total.val - (invoice.amountPaid.val + amount) < 2147483648) :
    ∃ paid due, (markInvoicePaidManually env actor invoiceId input).after s =
      s.payInvoice actor invoice paid due .partiallyPaid invoice.paidAt amount input := by
  have hp := invoice.amountPaid.property
  have ht := invoice.total.property
  let paid : Int4 := ⟨invoice.amountPaid.val + amount, by omega⟩
  let due : Int4 := ⟨invoice.total.val - (invoice.amountPaid.val + amount), by omega⟩
  have hne : due.val ≠ 0 := by
    change invoice.total.val - (invoice.amountPaid.val + amount) ≠ 0
    omega
  have hpayment : Payment invoice amount paid due .partiallyPaid :=
    ⟨hpos, hpayable, hcode, rfl, rfl, hlt.le, by rw [if_neg hne]⟩
  have htaken : Paid env actor invoiceId input s invoice amount paid due .partiallyPaid _ :=
    ⟨hperm, hfound, htenant, hamount, hpayment, rfl⟩
  have hev := markInvoicePaidManually_takes htaken
  exact ⟨paid, due, by rw [after, run, hev]; rfl⟩

/-- The tables after an invoice moved. -/
def Store.moveInvoice (s : Store) (invoice : Invoice) (toStatus : InvoiceStatus) (actor : TransitionActor)
    (reason : Option String) : Store :=
  (prisma.invoice.modify invoice.id (fun i => { i with status := toStatus }) (fun _ => rfl) s).withStatusHistory
    (invoiceMove invoice toStatus actor reason)

theorem eval_transitionInvoiceStatus_bind {β : Type} {invoiceId : Id} {toStatus : InvoiceStatus}
    {actor : TransitionActor} {reason : Option String} {k : Invoice → Db β} {c v : Store} {out : β × Store × Store} :
    (transitionInvoiceStatus invoiceId toStatus actor reason >>= k).eval c v = .ok out ↔
      ∃ invoice, v.invoices.find invoiceId = some invoice ∧
        isValidInvoiceTransition invoice.status toStatus = true ∧ v.hasTenant invoice.tenantId = true ∧
        (k { invoice with status := toStatus }).eval c (v.moveInvoice invoice toStatus actor reason) = .ok out := by
  simp only [transitionInvoiceStatus, bind_assoc, Relation.eval_findUniqueOrThrow_bind, eval_ensure_bind,
    Relation.eval_update_bind, eval_recordStatusTransition_bind, pure_eq_ret, ret_bind]
  constructor
  · rintro ⟨invoice, hi, hv, r, hr, hk⟩
    have hid : invoice.id = invoiceId := Table.key_of_find hi
    have he : r = invoice := Option.some.inj (hr.symm.trans hi)
    subst hid he
    exact ⟨r, hi, hv, hk⟩
  · rintro ⟨invoice, hi, hv, hk⟩
    have hid : invoice.id = invoiceId := Table.key_of_find hi
    subst hid
    exact ⟨invoice, hi, hv, invoice, hi, hk⟩

/-- A cancellation passes the checks of `cancelInvoice`. -/
def Store.TakesCancellation (s : Store) (actor : StaffActor) (invoiceId : Id) : Prop :=
  hasPermission actor.permissions .invoicesWrite = true ∧ ∃ invoice, s.invoices.find invoiceId = some invoice ∧
    isValidInvoiceTransition invoice.status .cancelled = true ∧ s.hasTenant invoice.tenantId = true ∧
    s.hasTenant actor.tenantId = true

theorem cancelInvoice_returns_iff {actor : StaffActor} {invoiceId : Id} {reason : String} {s : Store} :
    (∃ r, (cancelInvoice actor invoiceId reason).eval s s = .ok r) ↔ s.TakesCancellation actor invoiceId := by
  simp only [cancelInvoice, eval_requirePermission_bind, transaction, bind_assoc, eval_transitionInvoiceStatus_bind,
    eval_recordAuditLog_bind, pure_eq_ret, ret_bind, eval_commit, eval_ret, exists_and_left]
  constructor
  · rintro ⟨hperm, _, invoice, hfound, hvalid, htenant, hactor, _⟩
    exact ⟨hperm, invoice, hfound, hvalid, htenant, hactor⟩
  · rintro ⟨hperm, invoice, hfound, hvalid, htenant, hactor⟩
    exact ⟨hperm, _, invoice, hfound, hvalid, htenant, hactor, rfl⟩

/-- What `cancelInvoice` stored. -/
structure Cancelled (actor : StaffActor) (invoiceId : Id) (reason : String) (s : Store) (invoice : Invoice)
    (s' : Store) : Prop where
  found : s.invoices.find invoiceId = some invoice
  valid : isValidInvoiceTransition invoice.status .cancelled = true
  after : s' = (s.moveInvoice invoice .cancelled actor.transitionActor (some reason)).withAuditLog
    (invoiceCancelledAudit actor invoiceId reason)

theorem cancelInvoice_ok {actor : StaffActor} {invoiceId : Id} {reason : String} {c s c' s' : Store}
    {updated : Invoice} (h : (cancelInvoice actor invoiceId reason).eval c s = .ok (updated, c', s')) :
    c' = s' ∧ hasPermission actor.permissions .invoicesWrite = true ∧
      ∃ invoice, Cancelled actor invoiceId reason s invoice s' := by
  simp only [cancelInvoice, eval_requirePermission_bind] at h
  obtain ⟨hperm, htx⟩ := h
  obtain ⟨hc, c₁, hbody⟩ := eval_transaction_ok.mp htx
  simp only [eval_transitionInvoiceStatus_bind, eval_recordAuditLog_bind, pure_eq_ret, eval_ret, Except.ok.injEq,
    Prod.mk.injEq] at hbody
  obtain ⟨invoice, hfound, hvalid, _, _, _, _, rfl⟩ := hbody
  exact ⟨hc, hperm, invoice, hfound, hvalid, rfl⟩

end HostPanel.Model
