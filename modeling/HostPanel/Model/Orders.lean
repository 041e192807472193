import HostPanel.Lib.Matching
import HostPanel.Model.Catalog

namespace HostPanel.Model

open HostPanel.Lib HostPanel.Lib.Program

def orderTransitions : OrderStatus → List OrderStatus
  | .pending => [.awaitingPayment, .cancelled, .fraudReview]
  | .awaitingPayment => [.paid, .cancelled, .failed, .fraudReview]
  | .paid => [.processing, .refunded, .fraud]
  | .processing => [.active, .failed]
  | .active => [.refunded]
  | .fraudReview => [.awaitingPayment, .cancelled, .fraud]
  | .cancelled => []
  | .fraud => []
  | .refunded => []
  | .failed => [.awaitingPayment, .cancelled]

def isValidOrderTransition (fromStatus toStatus : OrderStatus) : Bool :=
  decide (toStatus ∈ orderTransitions fromStatus)

theorem isValidOrderTransition_self (status : OrderStatus) : isValidOrderTransition status status = false := by
  cases status <;> decide

def orderMove (order : Order) (toStatus : OrderStatus) (actor : TransitionActor) (reason : Option String) :
    StatusHistory :=
  { tenantId := order.tenantId
    entityType := .order
    entityId := order.id
    fromStatus := some (.order order.status)
    toStatus := .order toStatus
    actorType := actor.type
    actorId := actor.id
    reason := reason }

def orderMoveAudit (order : Order) (toStatus : OrderStatus) (actor : TransitionActor) (label : String)
    (reason : Option String) : AuditLog :=
  { tenantId := order.tenantId
    actorType := actor.type
    actorId := actor.id
    actorLabel := some label
    action := "order.status_changed"
    entityType := .order
    entityId := order.id
    reason := reason
    afterState := some [("status", .scalar (.str toStatus.name))] }

/-- The only sanctioned way an order's status changes. -/
def transitionOrderStatus (orderId : Id) (toStatus : OrderStatus) (actor : TransitionActor)
    (reason : Option String) : Db Order := do
  let order ← prisma.order.findUniqueOrThrow orderId
  ensure (isValidOrderTransition order.status toStatus = true)
    (businessRuleError "order.invalid_transition"
      ("Cannot move an order from " ++ order.status.name ++ " to " ++ toStatus.name ++ "."))
  let updated ← prisma.order.update orderId (fun o => { o with status := toStatus })
  recordStatusTransition (orderMove order toStatus actor reason)
  whenTruthy actor.label (fun label => recordAuditLog (orderMoveAudit order toStatus actor label reason))
  return updated

structure CreateOrderItemInput where
  productId : Id
  quantity : Number
  billingCycle : String
  domain : Option String := none
  selectedOptions : Option String := none

structure OrderItemRow where
  tenantId : Id
  productId : Id
  productPriceId : Id
  productNameSnapshot : String
  descriptionSnapshot : Option String
  quantity : Number
  unitPriceSnapshot : ℤ
  setupFeeSnapshot : ℤ
  taxSnapshot : ℤ := 0
  discountSnapshot : ℤ := 0
  billingCycleSnapshot : String
  domainSnapshot : Option String
  selectedOptionsSnapshot : Option String
  lineTotal : ℤ

structure CreateOrderInput where
  clientId : Id
  currency : String
  items : List CreateOrderItemInput
  idempotencyKey : String
  ipAddress : Option String := none
  userAgent : Option String := none

def orThrow {α : Type} (x : Option α) (e : Failure) : Db α :=
  match x with
  | some a => .ret a
  | none => .raise e

theorem guarantees_orThrow {α : Type} {rel : Store → Store → Prop} (x : Option α) (e : Failure) :
    (orThrow x e).Guarantees rel := by
  cases x <;> trivial

/-- One pass of the loop over the requested items, its sums and products done by
`A`: the new subtotal and the row for the item. -/
def orderLineWith (A : Arithmetic) (env : Env) (tenantId : Id) (currency : String) (clientGroupId : Option Id)
    (subtotal : Money) (item : CreateOrderItemInput) : Db (Money × OrderItemRow) := do
  let found ← getCurrentPrice env tenantId item.productId currency item.billingCycle clientGroupId
  let priceRow ← orThrow found (businessRuleError "order.no_price"
    "One of the selected products is not available in that currency or billing cycle.")
  let product ← prisma.product.findUniqueOrThrow item.productId
  let unitPrice ← lift (money (.integer priceRow.price.val) currency)
  let setupFee ← lift (money (.integer priceRow.setupFee.val) currency)
  let gross ← lift (multiplyWith A unitPrice item.quantity)
  let lineTotal ← lift (addWith A gross setupFee)
  let newSubtotal ← lift (addWith A subtotal lineTotal)
  return (newSubtotal,
    { tenantId := tenantId
      productId := product.id
      productPriceId := priceRow.id
      productNameSnapshot := product.name
      descriptionSnapshot := product.description
      quantity := item.quantity
      unitPriceSnapshot := unitPrice.amount
      setupFeeSnapshot := setupFee.amount
      billingCycleSnapshot := item.billingCycle
      domainSnapshot := item.domain
      selectedOptionsSnapshot := item.selectedOptions
      lineTotal := lineTotal.amount })

def orderLinesWith (A : Arithmetic) (env : Env) (tenantId : Id) (currency : String) (clientGroupId : Option Id) :
    Money → List CreateOrderItemInput → Db (Money × List OrderItemRow)
  | subtotal, [] => .ret (subtotal, [])
  | subtotal, item :: items => do
    let line ← orderLineWith A env tenantId currency clientGroupId subtotal item
    let rest ← orderLinesWith A env tenantId currency clientGroupId line.1 items
    return (rest.1, line.2 :: rest.2)

/-- The row as the database stores it. -/
def OrderItemRow.stored (row : OrderItemRow) (id : Id) : Except Failure OrderItem := do
  let quantity ← toInt4 row.quantity
  let unitPriceSnapshot ← toInt4 (.integer row.unitPriceSnapshot)
  let setupFeeSnapshot ← toInt4 (.integer row.setupFeeSnapshot)
  let taxSnapshot ← toInt4 (.integer row.taxSnapshot)
  let discountSnapshot ← toInt4 (.integer row.discountSnapshot)
  let billingCycleSnapshot ← billingCycleEnum row.billingCycleSnapshot
  let lineTotal ← toInt4 (.integer row.lineTotal)
  return {
    id := id
    tenantId := row.tenantId
    productId := some row.productId
    productPriceId := some row.productPriceId
    productNameSnapshot := row.productNameSnapshot
    descriptionSnapshot := row.descriptionSnapshot
    quantity := quantity
    unitPriceSnapshot := unitPriceSnapshot
    setupFeeSnapshot := setupFeeSnapshot
    taxSnapshot := taxSnapshot
    discountSnapshot := discountSnapshot
    billingCycleSnapshot := billingCycleSnapshot
    domainSnapshot := row.domainSnapshot
    selectedOptionsSnapshot := row.selectedOptionsSnapshot
    lineTotal := lineTotal }

def storedItems (env : Env) : ℕ → List OrderItemRow → Except Failure (List OrderItem)
  | _, [] => .ok []
  | n, row :: rows => do
    let item ← row.stored (env.cuid n)
    let items ← storedItems env (n + 1) rows
    return item :: items

def orderCreated (actor : Actor) (orderId : Id) : StatusHistory :=
  { tenantId := actor.tenantId
    entityType := .order
    entityId := orderId
    fromStatus := none
    toStatus := .order .pending
    actorType := actor.type
    actorId := some actor.id }

def orderCreatedAudit (actor : Actor) (input : CreateOrderInput) (orderNumber : String) (total : ℤ)
    (orderId : Id) : AuditLog :=
  { tenantId := actor.tenantId
    actorType := actor.type
    actorId := some actor.id
    actorLabel := some actor.label
    action := "order.created"
    entityType := .order
    entityId := orderId
    ip := input.ipAddress
    afterState := some [("orderNumber", .scalar (.str orderNumber)), ("total", .scalar (.num total)),
      ("currency", .scalar (.str input.currency))] }

def orderNumberOptions : SequenceOptions := ⟨"ORD-", 6⟩

/-- The transaction of `createOrder`. -/
def insertOrderWith (A : Arithmetic) (env : Env) (actor : Actor) (input : CreateOrderInput) (client : Client) : Db Order := do
  let start ← lift (zero input.currency)
  let lines ← orderLinesWith A env actor.tenantId input.currency client.clientGroupId start input.items
  let orderNumber ← nextSequenceNumber actor.tenantId "order_number" orderNumberOptions
  let items ← lift (storedItems env 1 lines.2)
  let subtotal ← lift (toInt4 (.integer lines.1.amount))
  let total ← lift (toInt4 (.integer lines.1.amount))
  let order ← prisma.order.create
    { id := env.cuid 0
      tenantId := actor.tenantId
      clientId := input.clientId
      orderNumber := orderNumber
      status := .pending
      currency := input.currency
      subtotal := subtotal
      discountTotal := 0
      taxTotal := 0
      total := total
      idempotencyKey := some input.idempotencyKey
      ipAddress := input.ipAddress
      userAgent := input.userAgent
      items := items }
  recordStatusTransition (orderCreated actor order.id)
  recordAuditLog (orderCreatedAudit actor input orderNumber lines.1.amount order.id)
  return order

def Order.hasKey (tenantId : Id) (idempotencyKey : String) (o : Order) : Bool :=
  o.tenantId == tenantId && o.idempotencyKey == some idempotencyKey

def requireOrderActor (actor : Actor) (input : CreateOrderInput) : Db Unit :=
  match actor with
  | .clientContact a =>
    ensure (a.clientId = input.clientId)
      (businessRuleError "order.forbidden" "You can only place orders for your own account.")
  | .staff a => requirePermission a.permissions .ordersWrite

def createUnlessExistingWith (A : Arithmetic) (env : Env) (actor : Actor) (input : CreateOrderInput) :
    Option Order → Db Order
  | some order => .ret order
  | none => do
    let client ← prisma.client.findUniqueOrThrow input.clientId
    transaction (insertOrderWith A env actor input client)

def createOrderWith (A : Arithmetic) (env : Env) (actor : Actor) (input : CreateOrderInput) : Db Order := do
  requireOrderActor actor input
  ensure (input.items ≠ []) (businessRuleError "order.empty" "An order must contain at least one item.")
  let existing ← prisma.order.findFirst (Order.hasKey actor.tenantId input.idempotencyKey)
  createUnlessExistingWith A env actor input existing

def orderLine (env : Env) (tenantId : Id) (currency : String) (clientGroupId : Option Id) (subtotal : Money)
    (item : CreateOrderItemInput) : Db (Money × OrderItemRow) :=
  orderLineWith .double env tenantId currency clientGroupId subtotal item

def orderLines (env : Env) (tenantId : Id) (currency : String) (clientGroupId : Option Id) (subtotal : Money)
    (items : List CreateOrderItemInput) : Db (Money × List OrderItemRow) :=
  orderLinesWith .double env tenantId currency clientGroupId subtotal items

def insertOrder (env : Env) (actor : Actor) (input : CreateOrderInput) (client : Client) : Db Order :=
  insertOrderWith .double env actor input client

def createUnlessExisting (env : Env) (actor : Actor) (input : CreateOrderInput) (existing : Option Order) : Db Order :=
  createUnlessExistingWith .double env actor input existing

/-- Create an order with line-item snapshots, or return the order stored under
the same idempotency key. -/
def createOrder (env : Env) (actor : Actor) (input : CreateOrderInput) : Db Order :=
  createOrderWith .double env actor input

theorem uncommitted_transitionOrderStatus (orderId : Id) (toStatus : OrderStatus) (actor : TransitionActor)
    (reason : Option String) : (transitionOrderStatus orderId toStatus actor reason).Uncommitted := by
  refine (Relation.uncommitted_findUniqueOrThrow _).bind (fun order => ?_)
  refine (uncommitted_ensure _ _).bind (fun _ => ?_)
  refine (Relation.uncommitted_update _ _ _).bind (fun updated => ?_)
  refine (uncommitted_recordStatusTransition _).bind (fun _ => ?_)
  exact (uncommitted_whenTruthy (fun _ => uncommitted_recordAuditLog _)).bind (fun _ => trivial)

/-- What moving an order leaves alone. -/
theorem leaves_transitionOrderStatus {α : Type} {π : Store → α} (horders : ∀ (t : Store) (os : Table Order.id),
      π { t with orders := os } = π t)
    (hlogs : ∀ (t : Store) (row : StatusHistory), π (t.withStatusHistory row) = π t)
    (haudits : ∀ (t : Store) (row : AuditLog), π (t.withAuditLog row) = π t) (orderId : Id) (toStatus : OrderStatus)
    (actor : TransitionActor) (reason : Option String) :
    (transitionOrderStatus orderId toStatus actor reason).Leaves π := by
  apply (Relation.leaves_findUniqueOrThrow _).bind
  intro order
  apply (leaves_ensure _ _).bind
  intro _
  apply (Relation.leaves_update _ _ _ (fun t => horders t _)).bind
  intro updated
  apply (leaves_recordStatusTransition _ (fun t => hlogs t _)).bind
  intro _
  apply (leaves_whenTruthy (fun _ => leaves_recordAuditLog _ (fun t => haudits t _))).bind
  exact fun _ => trivial

theorem guarantees_transitionOrderStatus {rel : Store → Store → Prop} {toStatus : OrderStatus}
    (horders : ∀ (t : Store) (i : Id),
      rel t (prisma.order.modify i (fun o => { o with status := toStatus }) (fun _ => rfl) t))
    (hlogs : ∀ (t : Store) (row : StatusHistory), rel t (t.withStatusHistory row))
    (haudits : ∀ (t : Store) (row : AuditLog), rel t (t.withAuditLog row)) (orderId : Id) (actor : TransitionActor)
    (reason : Option String) : (transitionOrderStatus orderId toStatus actor reason).Guarantees rel := by
  refine (Relation.guarantees_findUniqueOrThrow _).bind (fun order => (guarantees_ensure _ _).bind (fun _ => ?_))
  refine (Relation.guarantees_update _ _ _ (fun t => horders t _)).bind (fun updated => ?_)
  refine (guarantees_recordStatusTransition _ (fun t => hlogs t _)).bind (fun _ => ?_)
  exact (guarantees_whenTruthy (fun _ => guarantees_recordAuditLog _ (fun t => haudits t _))).bind (fun _ => trivial)

/-- The tables after an order moved. -/
def Store.moveOrder (s : Store) (order : Order) (toStatus : OrderStatus) (actor : TransitionActor)
    (reason : Option String) : Store :=
  ((prisma.order.modify order.id (fun o => { o with status := toStatus }) (fun _ => rfl) s).withStatusHistory
    (orderMove order toStatus actor reason)).withLabelledAudit actor.label
    (fun label => orderMoveAudit order toStatus actor label reason)

theorem eval_transitionOrderStatus_bind {β : Type} {orderId : Id} {toStatus : OrderStatus} {actor : TransitionActor}
    {reason : Option String} {k : Order → Db β} {c v : Store} {out : β × Store × Store} :
    (transitionOrderStatus orderId toStatus actor reason >>= k).eval c v = .ok out ↔
      ∃ order, v.orders.find orderId = some order ∧ isValidOrderTransition order.status toStatus = true ∧
        v.hasTenant order.tenantId = true ∧
        (k { order with status := toStatus }).eval c (v.moveOrder order toStatus actor reason) = .ok out := by
  simp only [transitionOrderStatus, bind_assoc, Relation.eval_findUniqueOrThrow_bind, eval_ensure_bind,
    Relation.eval_update_bind, eval_recordStatusTransition_bind, pure_eq_ret, ret_bind]
  constructor
  · rintro ⟨order, ho, hv, r, hr, htenant, hk⟩
    have hid : order.id = orderId := Table.key_of_find ho
    have he : r = order := Option.some.inj (hr.symm.trans ho)
    subst hid he
    exact ⟨r, ho, hv, htenant, (eval_labelledAudit_bind (fun _ => htenant)).mp hk⟩
  · rintro ⟨order, ho, hv, htenant, hk⟩
    have hid : order.id = orderId := Table.key_of_find ho
    subst hid
    exact ⟨order, ho, hv, order, ho, htenant, (eval_labelledAudit_bind (fun _ => htenant)).mpr hk⟩

/-- An order that is moved along, or none. -/
def OrderStep (s : Store) (target : Option Id) (toStatus : OrderStatus) (actor : TransitionActor)
    (reason : Option String) (s' : Store) : Prop :=
  match target with
  | none => s' = s
  | some id => ∃ order, s.orders.find id = some order ∧ isValidOrderTransition order.status toStatus = true ∧
      s.hasTenant order.tenantId = true ∧ s' = s.moveOrder order toStatus actor reason

theorem moveOrder_invoices (s : Store) (order : Order) (toStatus : OrderStatus) (actor : TransitionActor)
    (reason : Option String) : (s.moveOrder order toStatus actor reason).invoices = s.invoices :=
  Store.of_withLabelledAudit (P := fun t => t.invoices = s.invoices) rfl (fun _ => rfl)

theorem moveOrder_tenants (s : Store) (order : Order) (toStatus : OrderStatus) (actor : TransitionActor)
    (reason : Option String) : (s.moveOrder order toStatus actor reason).tenants = s.tenants :=
  Store.of_withLabelledAudit (P := fun t => t.tenants = s.tenants) rfl (fun _ => rfl)

theorem moveOrder_orders (s : Store) (order : Order) (toStatus : OrderStatus) (actor : TransitionActor)
    (reason : Option String) :
    (s.moveOrder order toStatus actor reason).orders =
      s.orders.modify order.id (fun o => { o with status := toStatus }) :=
  Store.of_withLabelledAudit (P := fun t => t.orders = s.orders.modify order.id (fun o => { o with status := toStatus }))
    rfl (fun _ => rfl)

theorem moveOrder_productPrices (s : Store) (order : Order) (toStatus : OrderStatus) (actor : TransitionActor)
    (reason : Option String) : (s.moveOrder order toStatus actor reason).productPrices = s.productPrices :=
  Store.of_withLabelledAudit (P := fun t => t.productPrices = s.productPrices) rfl (fun _ => rfl)

theorem exists_orderStep_iff {s : Store} {target : Option Id} {toStatus : OrderStatus} {actor : TransitionActor}
    {reason : Option String} :
    (∃ s', OrderStep s target toStatus actor reason s') ↔ ∀ id, target = some id →
      ∃ order, s.orders.find id = some order ∧ isValidOrderTransition order.status toStatus = true ∧
        s.hasTenant order.tenantId = true := by
  cases target with
  | none => exact iff_of_true ⟨s, rfl⟩ (fun _ h => nomatch h)
  | some id =>
    constructor
    · rintro ⟨_, order, hfound, hvalid, htenant, _⟩ _ ⟨⟩
      exact ⟨order, hfound, hvalid, htenant⟩
    · intro h
      obtain ⟨order, hfound, hvalid, htenant⟩ := h id rfl
      exact ⟨_, order, hfound, hvalid, htenant, rfl⟩

theorem OrderStep.invoices {s s' : Store} {target : Option Id} {toStatus : OrderStatus} {actor : TransitionActor}
    {reason : Option String} (h : OrderStep s target toStatus actor reason s') : s'.invoices = s.invoices := by
  cases target with
  | none => exact congrArg Store.invoices h
  | some id =>
    obtain ⟨o, _, _, _, rfl⟩ := h
    exact moveOrder_invoices s o toStatus actor reason

/-- The row of one requested item, from the price and product found for it. -/
structure OrderedLine (s : Store) (env : Env) (tenantId : Id) (currency : String) (clientGroupId : Option Id)
    (item : CreateOrderItemInput) (row : OrderItemRow) : Prop where
  priced : ∃ cycle price, BillingCycle.ofName? item.billingCycle = some cycle ∧
    s.currentPrice env tenantId item.productId currency cycle clientGroupId = some price ∧
    row.productPriceId = price.id ∧ row.unitPriceSnapshot = price.price.val ∧
    row.setupFeeSnapshot = price.setupFee.val
  product : ∃ product, s.products.find item.productId = some product ∧ row.productId = product.id
  amount : ∃ quantity gross, item.quantity = .integer quantity ∧
    Number.mul row.unitPriceSnapshot quantity = .integer gross ∧
    Number.add gross row.setupFeeSnapshot = .integer row.lineTotal
  tenantId : row.tenantId = tenantId
  quantity : row.quantity = item.quantity
  billingCycle : row.billingCycleSnapshot = item.billingCycle

section Lines

variable {env : Env} {tenantId : Id} {currency : String} {clientGroupId : Option Id} {c v c' v' : Store}

theorem eval_orThrow_bind {α β : Type} {x : Option α} {e : Failure} {k : α → Db β} {out : β × Store × Store} :
    (orThrow x e >>= k).eval c v = .ok out ↔ ∃ a, x = some a ∧ (k a).eval c v = .ok out := by
  cases x <;> simp [orThrow]

theorem after_orThrow_bind {α β : Type} {x : Option α} {e : Failure} {k : α → Db β} (s : Store) :
    (orThrow x e >>= k).after s = s ∨ ∃ a, x = some a ∧ (orThrow x e >>= k).after s = (k a).after s := by
  cases x with
  | none => exact Or.inl rfl
  | some a => exact Or.inr ⟨a, rfl, rfl⟩

theorem orderLine_ok {subtotal : Money} {item : CreateOrderItemInput} {r : Money × OrderItemRow}
    (h : (orderLine env tenantId currency clientGroupId subtotal item).eval c v = .ok (r, c', v')) :
    c' = c ∧ v' = v ∧ OrderedLine v env tenantId currency clientGroupId item r.2 ∧
      Number.add subtotal.amount r.2.lineTotal = .integer r.1.amount := by
  simp only [orderLine, orderLineWith, eval_getCurrentPrice_bind, eval_orThrow_bind, Relation.eval_findUniqueOrThrow_bind,
    eval_lift_bind, money_ok_iff, multiplyWith_ok_iff, addWith_ok_iff, pure_eq_ret, eval_ret, Except.ok.injEq,
    Prod.mk.injEq] at h
  obtain ⟨cycle, hcycle, price, hprice, product, hproduct, unit, ⟨_, hunit, _, rfl⟩, fee, ⟨_, hfee, _, rfl⟩,
    gross, ⟨q, hq, _, hgross, _, rfl⟩, line, ⟨_, _, hline, _, rfl⟩, sum, ⟨_, _, hsum, _, rfl⟩, rfl, rfl, rfl⟩ := h
  cases hunit
  cases hfee
  exact ⟨rfl, rfl, ⟨⟨cycle, price, hcycle, hprice, rfl, rfl, rfl⟩, ⟨product, hproduct, rfl⟩,
    ⟨q, _, hq, hgross, hline⟩, rfl, rfl, rfl⟩, hsum⟩

theorem orderLines_ok {subtotal : Money} {items : List CreateOrderItemInput} {r : Money × List OrderItemRow}
    (h : (orderLines env tenantId currency clientGroupId subtotal items).eval c v = .ok (r, c', v')) :
    c' = c ∧ v' = v ∧ List.Forall₂ (OrderedLine v env tenantId currency clientGroupId) items r.2 ∧
      Number.sumFrom subtotal.amount (r.2.map OrderItemRow.lineTotal) = .integer r.1.amount := by
  induction items generalizing subtotal c v r with
  | nil =>
    cases h
    exact ⟨rfl, rfl, List.Forall₂.nil, rfl⟩
  | cons item items ih =>
    simp only [orderLines, orderLinesWith, eval_bind_ok, pure_eq_ret, eval_ret, Except.ok.injEq, Prod.mk.injEq] at h
    obtain ⟨line, _, _, hline, rest, _, _, hrest, rfl, rfl, rfl⟩ := h
    obtain ⟨rfl, rfl, hl, hadd⟩ := orderLine_ok hline
    obtain ⟨rfl, rfl, hr, hsum⟩ := ih hrest
    refine ⟨rfl, rfl, List.Forall₂.cons hl hr, ?_⟩
    rw [List.map_cons, Number.sumFrom_cons hadd]
    exact hsum

end Lines

/-- An item row as stored, and the row it was made from. -/
structure StoredItem (row : OrderItemRow) (item : OrderItem) : Prop where
  tenantId : item.tenantId = row.tenantId
  productId : item.productId = some row.productId
  productPriceId : item.productPriceId = some row.productPriceId
  quantity : row.quantity.trunc = some item.quantity.val
  unitPrice : item.unitPriceSnapshot.val = row.unitPriceSnapshot
  setupFee : item.setupFeeSnapshot.val = row.setupFeeSnapshot
  billingCycle : item.billingCycleSnapshot.name = row.billingCycleSnapshot
  lineTotal : item.lineTotal.val = row.lineTotal

theorem stored_ok {row : OrderItemRow} {id : Id} {item : OrderItem} (h : row.stored id = .ok item) :
    StoredItem row item := by
  simp only [OrderItemRow.stored, except_bind_ok, toInt4_ok_iff, Number.trunc_integer, billingCycleEnum_ok_iff,
    Option.some.injEq] at h
  obtain ⟨quantity, hq, unit, hu, fee, hf, tax, _, discount, _, cycle, hc, line, hl, he⟩ := h
  cases he
  exact ⟨rfl, rfl, rfl, hq, hu.symm, hf.symm, BillingCycle.name_of_ofName? hc, hl.symm⟩

theorem StoredItem.quantity_eq {row : OrderItemRow} {item : OrderItem} {q : ℤ} (h : StoredItem row item)
    (hq : row.quantity = .integer q) : q = item.quantity.val := by
  have htrunc := h.quantity
  rwa [hq, Number.trunc_integer, Option.some.injEq] at htrunc

theorem storedItems_ok {env : Env} {n : ℕ} {rows : List OrderItemRow} {items : List OrderItem}
    (h : storedItems env n rows = .ok items) : List.Forall₂ StoredItem rows items := by
  induction rows generalizing n items with
  | nil =>
    cases h
    exact List.Forall₂.nil
  | cons row rows ih =>
    simp only [storedItems, except_bind_ok] at h
    obtain ⟨item, hi, rest, hr, he⟩ := h
    cases he
    exact List.Forall₂.cons (stored_ok hi) (ih hr)

/-- The tables after a new order is stored. -/
def Store.placeOrder (s : Store) (actor : Actor) (input : CreateOrderInput) (order : Order) (value : Int4) : Store :=
  ((prisma.order.insert order (s.withCounter (actor.tenantId, "order_number") value)).withStatusHistory
    (orderCreated actor order.id)).withAuditLog
    (orderCreatedAudit actor input order.orderNumber order.total.val order.id)

theorem placeOrder_eq (s : Store) (actor : Actor) (input : CreateOrderInput) (order : Order) (value : Int4) :
    s.placeOrder actor input order value =
      { s with
        orders := s.orders.insert order
        counters := (s.withCounter (actor.tenantId, "order_number") value).counters
        statusHistories := s.statusHistories ++ [orderCreated actor order.id]
        auditLogs := s.auditLogs ++
          [orderCreatedAudit actor input order.orderNumber order.total.val order.id] } := by
  simp only [Store.placeOrder, Store.withAuditLog, Store.withStatusHistory, Relation.insert, prisma.order,
    Store.withCounter]

theorem placeOrder_orders (s : Store) (actor : Actor) (input : CreateOrderInput) (order : Order) (value : Int4) :
    (s.placeOrder actor input order value).orders = s.orders.insert order := by
  rw [placeOrder_eq]

theorem placeOrder_tenants (s : Store) (actor : Actor) (input : CreateOrderInput) (order : Order) (value : Int4) :
    (s.placeOrder actor input order value).tenants = s.tenants := by
  rw [placeOrder_eq]

theorem placeOrder_clients (s : Store) (actor : Actor) (input : CreateOrderInput) (order : Order) (value : Int4) :
    (s.placeOrder actor input order value).clients = s.clients := by
  rw [placeOrder_eq]

theorem placeOrder_products (s : Store) (actor : Actor) (input : CreateOrderInput) (order : Order) (value : Int4) :
    (s.placeOrder actor input order value).products = s.products := by
  rw [placeOrder_eq]

theorem placeOrder_invoices (s : Store) (actor : Actor) (input : CreateOrderInput) (order : Order) (value : Int4) :
    (s.placeOrder actor input order value).invoices = s.invoices := by
  rw [placeOrder_eq]

theorem placeOrder_productPrices (s : Store) (actor : Actor) (input : CreateOrderInput) (order : Order) (value : Int4) :
    (s.placeOrder actor input order value).productPrices = s.productPrices := by
  rw [placeOrder_eq]

theorem placeOrder_counters (s : Store) (actor : Actor) (input : CreateOrderInput) (order : Order) (value : Int4) :
    (s.placeOrder actor input order value).counters =
      (s.withCounter (actor.tenantId, "order_number") value).counters := by
  rw [placeOrder_eq]

theorem placeOrder_statusHistories (s : Store) (actor : Actor) (input : CreateOrderInput) (order : Order) (value : Int4) :
    (s.placeOrder actor input order value).statusHistories =
      s.statusHistories ++ [orderCreated actor order.id] := by
  rw [placeOrder_eq]

/-- What `createOrder` stored when it found no order under the key. -/
structure Placed (env : Env) (actor : Actor) (input : CreateOrderInput) (client : Client)
    (rows : List OrderItemRow) (s : Store) (order : Order) (s' : Store) : Prop where
  tenant_found : s.hasTenant actor.tenantId = true
  client_found : s.clients.find input.clientId = some client
  lines : List.Forall₂ (OrderedLine s env actor.tenantId input.currency client.clientGroupId) input.items rows
  items : List.Forall₂ StoredItem rows order.items
  sum : Number.sumFrom 0 (rows.map OrderItemRow.lineTotal) = .integer order.subtotal.val
  order_eq : order =
    { id := env.cuid 0
      tenantId := actor.tenantId
      clientId := input.clientId
      orderNumber := order.orderNumber
      status := .pending
      currency := input.currency
      subtotal := order.subtotal
      discountTotal := 0
      taxTotal := 0
      total := order.subtotal
      idempotencyKey := some input.idempotencyKey
      ipAddress := input.ipAddress
      userAgent := input.userAgent
      items := order.items }
  fresh : prisma.order.Fresh order s
  after : ∃ value, s.incremented (actor.tenantId, "order_number") = .ok value ∧
    order.orderNumber = sequenceNumber orderNumberOptions value ∧ s' = s.placeOrder actor input order value

/-- The stored items are the requested ones. -/
theorem Placed.items_match {env : Env} {actor : Actor} {input : CreateOrderInput} {client : Client}
    {rows : List OrderItemRow} {s s' : Store} {order : Order} (h : Placed env actor input client rows s order s') :
    List.Forall₂ (fun item stored => (s.products.find item.productId).isSome = true ∧
      stored.productId = some item.productId ∧ item.quantity = .integer stored.quantity.val ∧
      item.billingCycle = stored.billingCycleSnapshot.name) input.items order.items := by
  refine (forall₂_comp h.lines h.items).imp ?_
  rintro item stored ⟨row, hline, hstored⟩
  obtain ⟨product, hfound, hproduct⟩ := hline.product
  obtain ⟨q, _, hq, _⟩ := hline.amount
  have hquantity := hstored.quantity_eq (hline.quantity.trans hq)
  refine ⟨by rw [hfound]; rfl, ?_, hquantity ▸ hq, ?_⟩
  · rw [hstored.productId, hproduct, Table.key_of_find hfound]
  · exact hline.billingCycle.symm.trans hstored.billingCycle.symm

section CreateOrder

variable {env : Env} {actor : Actor} {input : CreateOrderInput}

theorem uncommitted_orThrow {α : Type} (x : Option α) (e : Failure) : (orThrow x e).Uncommitted := by
  cases x <;> trivial

theorem uncommitted_orderLine (tenantId : Id) (currency : String) (clientGroupId : Option Id) (subtotal : Money)
    (item : CreateOrderItemInput) :
    (orderLine env tenantId currency clientGroupId subtotal item).Uncommitted := by
  refine uncommitted_getCurrentPrice.bind (fun _ => ?_)
  refine (uncommitted_orThrow _ _).bind (fun _ => ?_)
  refine (Relation.uncommitted_findUniqueOrThrow _).bind (fun _ => ?_)
  refine (uncommitted_lift _).bind (fun _ => (uncommitted_lift _).bind (fun _ => ?_))
  refine (uncommitted_lift _).bind (fun _ => (uncommitted_lift _).bind (fun _ => ?_))
  exact (uncommitted_lift _).bind (fun _ => trivial)

theorem uncommitted_orderLines (tenantId : Id) (currency : String) (clientGroupId : Option Id)
    (subtotal : Money) (items : List CreateOrderItemInput) :
    (orderLines env tenantId currency clientGroupId subtotal items).Uncommitted := by
  induction items generalizing subtotal with
  | nil => trivial
  | cons item items ih =>
    refine (uncommitted_orderLine _ _ _ _ _).bind (fun line => ?_)
    exact (ih line.1).bind (fun _ => trivial)

theorem guarantees_orderLines {rel : Store → Store → Prop} (tenantId : Id) (currency : String)
    (clientGroupId : Option Id) (subtotal : Money) (items : List CreateOrderItemInput) :
    (orderLines env tenantId currency clientGroupId subtotal items).Guarantees rel := by
  induction items generalizing subtotal with
  | nil => trivial
  | cons item items ih =>
    refine Guarantees.bind ?_ (fun line => (ih line.1).bind (fun _ => trivial))
    refine guarantees_getCurrentPrice.bind (fun _ => (guarantees_orThrow _ _).bind (fun _ => ?_))
    refine (Relation.guarantees_findUniqueOrThrow _).bind (fun _ => ?_)
    refine (guarantees_lift _).bind (fun _ => (guarantees_lift _).bind (fun _ => ?_))
    refine (guarantees_lift _).bind (fun _ => (guarantees_lift _).bind (fun _ => ?_))
    exact (guarantees_lift _).bind (fun _ => trivial)

theorem uncommitted_insertOrder (client : Client) : (insertOrder env actor input client).Uncommitted := by
  refine (uncommitted_lift _).bind (fun _ => ?_)
  refine (uncommitted_orderLines _ _ _ _ _).bind (fun _ => ?_)
  refine (uncommitted_nextSequenceNumber _ _ _).bind (fun _ => ?_)
  refine (uncommitted_lift _).bind (fun _ => (uncommitted_lift _).bind (fun _ => ?_))
  refine (uncommitted_lift _).bind (fun _ => (Relation.uncommitted_create _).bind (fun _ => ?_))
  refine (uncommitted_recordStatusTransition _).bind (fun _ => ?_)
  exact (uncommitted_recordAuditLog _).bind (fun _ => trivial)

theorem guarantees_requireOrderActor {rel : Store → Store → Prop} (actor : Actor) (input : CreateOrderInput) :
    (requireOrderActor actor input).Guarantees rel := by
  cases actor <;> exact guarantees_ensure _ _

theorem uncommitted_requireOrderActor : (requireOrderActor actor input).Uncommitted := by
  cases actor <;> exact uncommitted_ensure _ _

theorem atomic_createOrder (env : Env) (actor : Actor) (input : CreateOrderInput) :
    (createOrder env actor input).Atomic := by
  refine uncommitted_requireOrderActor.bind_atomic (fun _ => ?_)
  refine (uncommitted_ensure _ _).bind_atomic (fun _ => ?_)
  refine (Relation.uncommitted_findFirst _).bind_atomic (fun existing => ?_)
  cases existing with
  | some order => trivial
  | none =>
    refine (Relation.uncommitted_findUniqueOrThrow _).bind_atomic (fun client => ?_)
    exact (uncommitted_insertOrder client).transaction

theorem insertOrder_ok {client : Client} {c v c' v' : Store} {order : Order}
    (hclient : v.clients.find input.clientId = some client)
    (h : (insertOrder env actor input client).eval c v = .ok (order, c', v')) :
    ∃ rows, Placed env actor input client rows v order v' := by
  simp only [insertOrder, insertOrderWith, eval_lift_bind] at h
  obtain ⟨start, hstart, hbody⟩ := h
  obtain ⟨lines, c₁, v₁, hlines, hrest⟩ := eval_bind_ok.mp hbody
  obtain ⟨rfl, rfl, hrows, hsum⟩ := orderLines_ok hlines
  simp only [eval_nextSequenceNumber_bind, eval_lift_bind, Relation.eval_create_bind,
    eval_recordStatusTransition_bind, eval_recordAuditLog_bind, toInt4_integer_ok_iff,
    pure_eq_ret, eval_ret, Except.ok.injEq, Prod.mk.injEq] at hrest
  obtain ⟨value, hvalue, items, hitems, subtotal, hsub, total, htotal, hfresh, _, htenant, _, rfl, _, rfl⟩ := hrest
  obtain ⟨_, hz, _, rfl⟩ := money_ok_iff.mp hstart
  cases hz
  have he : total = subtotal := Subtype.ext (htotal.symm.trans hsub)
  subst he
  rw [hsub] at hsum
  exact ⟨lines.2, htenant, hclient, hrows, storedItems_ok hitems, hsum, rfl, hfresh, value, hvalue, rfl, by rw [hsub]; rfl⟩

/-- A call returns the order under the key, or one that it inserts. -/
theorem createOrder_inserts {s c' s' : Store} {order : Order}
    (h : (createOrder env actor input).eval s s = .ok (order, c', s')) :
    c' = s' ∧ ((s.orders.rows.find? (Order.hasKey actor.tenantId input.idempotencyKey) = some order ∧ s' = s) ∨
      (s.orders.rows.find? (Order.hasKey actor.tenantId input.idempotencyKey) = none ∧
        ∃ client c, s.clients.find input.clientId = some client ∧
          (insertOrder env actor input client).eval s s = .ok (order, c, s'))) := by
  obtain ⟨_, c₁, v₁, hactor, hbody⟩ := eval_bind_ok.mp h
  have hread : c₁ = s ∧ v₁ = s := by
    cases actor <;> exact eval_ensure_ok hactor
  rw [hread.1, hread.2] at hbody
  simp only [eval_ensure_bind, Relation.eval_findFirst_bind] at hbody
  obtain ⟨_, hbody⟩ := hbody
  change (createUnlessExisting env actor input
    (s.orders.rows.find? (Order.hasKey actor.tenantId input.idempotencyKey))).eval s s = _ at hbody
  cases hk : s.orders.rows.find? (Order.hasKey actor.tenantId input.idempotencyKey) with
  | some existing =>
    rw [hk] at hbody
    cases hbody
    exact ⟨rfl, Or.inl ⟨rfl, rfl⟩⟩
  | none =>
    simp only [hk, createUnlessExisting, createUnlessExistingWith, Relation.eval_findUniqueOrThrow_bind,
      eval_transaction_ok] at hbody
    obtain ⟨client, hclient, rfl, c₂, htx⟩ := hbody
    exact ⟨rfl, Or.inr ⟨rfl, client, c₂, hclient, htx⟩⟩

theorem createOrder_ok {s c' s' : Store} {order : Order}
    (h : (createOrder env actor input).eval s s = .ok (order, c', s')) :
    c' = s' ∧ ((s.orders.rows.find? (Order.hasKey actor.tenantId input.idempotencyKey) = some order ∧ s' = s) ∨
      (s.orders.rows.find? (Order.hasKey actor.tenantId input.idempotencyKey) = none ∧
        ∃ client rows, Placed env actor input client rows s order s')) := by
  obtain ⟨hc, hfound | ⟨hnone, client, c, hclient, hev⟩⟩ := createOrder_inserts h
  · exact ⟨hc, Or.inl hfound⟩
  · obtain ⟨rows, hp⟩ := insertOrder_ok hclient hev
    exact ⟨hc, Or.inr ⟨hnone, client, rows, hp⟩⟩

end CreateOrder

end HostPanel.Model
