import HostPanel.Model.Orders

namespace HostPanel.Model

open HostPanel.Lib HostPanel.Lib.Program

theorem money_integer {currency : String} (h : isCurrencyCode currency = true) (n : ℤ) :
    money (.integer n) currency = .ok ⟨n, toUpperCase currency⟩ := money_ok_iff.mpr ⟨n, rfl, h, rfl⟩

/-- The row of an item, of the product and at the price found for it. -/
def orderRow (tenantId : Id) (item : CreateOrderItemInput) (product : Product) (price : ProductPrice) (lineTotal : ℤ) :
    OrderItemRow :=
  { tenantId := tenantId
    productId := product.id
    productPriceId := price.id
    productNameSnapshot := product.name
    descriptionSnapshot := product.description
    quantity := item.quantity
    unitPriceSnapshot := price.price.val
    setupFeeSnapshot := price.setupFee.val
    billingCycleSnapshot := item.billingCycle
    domainSnapshot := item.domain
    selectedOptionsSnapshot := item.selectedOptions
    lineTotal := lineTotal }

/-- What one pass of the loop makes of an item. -/
def Store.LineAt (s : Store) (A : Arithmetic) (env : Env) (tenantId : Id) (currency : String)
    (clientGroupId : Option Id) (item : CreateOrderItemInput) (row : OrderItemRow) : Prop :=
  ∃ cycle price product quantity gross lineTotal, BillingCycle.ofName? item.billingCycle = some cycle ∧
    s.currentPrice env tenantId item.productId currency cycle clientGroupId = some price ∧
    s.products.find item.productId = some product ∧ item.quantity = .integer quantity ∧
    A.mul price.price.val quantity = .integer gross ∧ A.add gross price.setupFee.val = .integer lineTotal ∧
    row = orderRow tenantId item product price lineTotal

section Lines

variable {A : Arithmetic} {env : Env} {tenantId : Id} {currency : String} {clientGroupId : Option Id} {c v c' v' : Store}

theorem eval_orderLineWith_iff (hcode : isCurrencyCode currency = true) {subtotal : Money}
    (hsub : subtotal.currency = toUpperCase currency) {item : CreateOrderItemInput} {r : Money × OrderItemRow} :
    (orderLineWith A env tenantId currency clientGroupId subtotal item).eval c v = .ok (r, c', v') ↔
      c' = c ∧ v' = v ∧ v.LineAt A env tenantId currency clientGroupId item r.2 ∧
        ∃ n, A.add subtotal.amount r.2.lineTotal = .integer n ∧ r.1 = ⟨n, toUpperCase currency⟩ := by
  have hupper := isCurrencyCode_toUpperCase hcode
  have hidem := toUpperCase_toUpperCase hcode
  simp only [orderLineWith, eval_getCurrentPrice_bind, eval_orThrow_bind, Relation.eval_findUniqueOrThrow_bind,
    eval_lift_bind, money_integer hcode, Except.ok.injEq, exists_eq_left', multiplyWith_ok_iff, addWith_ok_iff,
    money_ok_iff, pure_eq_ret, eval_ret, Prod.mk.injEq]
  constructor
  · rintro ⟨cycle, hcycle, price, hprice, product, hproduct, gross, ⟨q, hq, g, hgross, _, rfl⟩, line,
      ⟨_, n, hline, _, rfl⟩, sum, ⟨_, m, hsum, _, rfl⟩, rfl, rfl, rfl⟩
    refine ⟨rfl, rfl, ⟨cycle, price, product, q, g, n, hcycle, hprice, hproduct, hq, hgross, hline, rfl⟩, m, hsum, ?_⟩
    rw [hsub, hidem]
  · obtain ⟨total, row⟩ := r
    rintro ⟨rfl, rfl, ⟨cycle, price, product, q, g, n, hcycle, hprice, hproduct, hq, hgross, hline, hrow⟩, m, hsum, hm⟩
    dsimp only at hrow hsum hm
    subst hrow hm
    refine ⟨cycle, hcycle, price, hprice, product, hproduct, _, ⟨q, hq, g, hgross, hupper, rfl⟩, _,
      ⟨hidem, n, hline, ?_, rfl⟩, _, ⟨?_, m, hsum, ?_, rfl⟩, ?_, rfl, rfl⟩
    all_goals simp only [hidem, hsub, hupper]
    rfl

theorem eval_orderLinesWith_iff (hcode : isCurrencyCode currency = true) {items : List CreateOrderItemInput}
    {subtotal : Money} (hsub : subtotal.currency = toUpperCase currency) {r : Money × List OrderItemRow} :
    (orderLinesWith A env tenantId currency clientGroupId subtotal items).eval c v = .ok (r, c', v') ↔
      c' = c ∧ v' = v ∧ List.Forall₂ (v.LineAt A env tenantId currency clientGroupId) items r.2 ∧
        ∃ n, A.sumFrom subtotal.amount (r.2.map OrderItemRow.lineTotal) = .integer n ∧
          r.1 = ⟨n, toUpperCase currency⟩ := by
  induction items generalizing subtotal c v r with
  | nil =>
    obtain ⟨total, rows⟩ := r
    obtain ⟨amount, code⟩ := subtotal
    cases hsub
    simp only [orderLinesWith, eval_ret, Except.ok.injEq, Prod.mk.injEq, List.forall₂_nil_left_iff]
    constructor
    · rintro ⟨⟨rfl, rfl⟩, rfl, rfl⟩
      exact ⟨rfl, rfl, rfl, amount, rfl, rfl⟩
    · rintro ⟨rfl, rfl, rfl, n, hn, rfl⟩
      cases hn
      exact ⟨⟨rfl, rfl⟩, rfl, rfl⟩
  | cons item items ih =>
    obtain ⟨total, rows⟩ := r
    simp only [orderLinesWith, eval_bind_ok, pure_eq_ret, eval_ret, Except.ok.injEq, Prod.mk.injEq]
    constructor
    · rintro ⟨⟨sum, row⟩, _, _, hline, ⟨rest, others⟩, _, _, hrest, ⟨rfl, rfl⟩, rfl, rfl⟩
      obtain ⟨rfl, rfl, hl, m, hm, rfl⟩ := (eval_orderLineWith_iff hcode hsub).mp hline
      obtain ⟨rfl, rfl, hr, n, hn, rfl⟩ := (ih rfl).mp hrest
      refine ⟨rfl, rfl, List.Forall₂.cons hl hr, n, ?_, rfl⟩
      rw [List.map_cons, A.sumFrom_cons hm]
      exact hn
    · rintro ⟨rfl, rfl, hlines, n, hn, rfl⟩
      cases hlines with
      | @cons _ row _ others hl hr =>
        cases hadd : A.add subtotal.amount row.lineTotal with
        | other text =>
          rw [List.map_cons, Arithmetic.sumFrom, hadd] at hn
          cases hn
        | integer m =>
          rw [List.map_cons, A.sumFrom_cons hadd] at hn
          refine ⟨(⟨m, toUpperCase currency⟩, row), c', v', (eval_orderLineWith_iff hcode hsub).mpr ?_,
            (⟨n, toUpperCase currency⟩, others), c', v', (ih rfl).mpr ?_, ⟨rfl, rfl⟩, rfl, rfl⟩
          · exact ⟨rfl, rfl, hl, m, hadd, rfl⟩
          · exact ⟨rfl, rfl, hr, n, hn, rfl⟩

end Lines

section Insert

variable {A : Arithmetic} {env : Env} {actor : Actor} {input : CreateOrderInput} {client : Client}

/-- The order row, once its number, its items and its total are known. -/
def newOrder (env : Env) (actor : Actor) (input : CreateOrderInput) (value total : Int4) (items : List OrderItem) :
    Order :=
  { id := env.cuid 0
    tenantId := actor.tenantId
    clientId := input.clientId
    orderNumber := sequenceNumber orderNumberOptions value
    status := .pending
    currency := input.currency
    subtotal := total
    discountTotal := 0
    taxTotal := 0
    total := total
    idempotencyKey := some input.idempotencyKey
    ipAddress := input.ipAddress
    userAgent := input.userAgent
    items := items }

/-- Everything that has to fit for an order to be stored: the currency, every
line, the sum of the lines, the columns, the counter and the indexes. -/
structure Fits (A : Arithmetic) (env : Env) (actor : Actor) (input : CreateOrderInput) (client : Client) (s : Store)
    (rows : List OrderItemRow) (items : List OrderItem) (total value : Int4) : Prop where
  currency : isCurrencyCode input.currency = true
  lines : List.Forall₂ (s.LineAt A env actor.tenantId input.currency client.clientGroupId) input.items rows
  sum : A.sumFrom 0 (rows.map OrderItemRow.lineTotal) = .integer total.val
  columns : storedItems env 1 rows = .ok items
  counter : s.incremented (actor.tenantId, "order_number") = .ok value
  fresh : prisma.order.Fresh (newOrder env actor input value total items) s
  references : prisma.order.references (newOrder env actor input value total items) s = true

theorem Fits.tenant {s : Store} {rows : List OrderItemRow} {items : List OrderItem} {total value : Int4}
    (h : Fits A env actor input client s rows items total value) : s.hasTenant actor.tenantId = true := by
  have hrefs := h.references
  simp only [prisma.order, newOrder, Bool.and_eq_true] at hrefs
  exact hrefs.1.1

theorem eval_insertOrderWith_iff {order : Order} {c v c' v' : Store} :
    (insertOrderWith A env actor input client).eval c v = .ok (order, c', v') ↔
      ∃ rows items total value, Fits A env actor input client v rows items total value ∧
        order = newOrder env actor input value total items ∧ c' = c ∧ v' = v.placeOrder actor input order value := by
  simp only [insertOrderWith, eval_lift_bind]
  constructor
  · rintro ⟨start, hstart, hbody⟩
    obtain ⟨_, hz, hcode, rfl⟩ := money_ok_iff.mp hstart
    cases hz
    obtain ⟨lines, c₁, v₁, hlines, hrest⟩ := eval_bind_ok.mp hbody
    obtain ⟨rfl, rfl, hrows, n, hsum, hn⟩ := (eval_orderLinesWith_iff hcode rfl).mp hlines
    simp only [eval_nextSequenceNumber_bind, eval_lift_bind, Relation.eval_create_bind,
      eval_recordStatusTransition_bind, eval_recordAuditLog_bind, toInt4_integer_ok_iff,
      pure_eq_ret, eval_ret, Except.ok.injEq, Prod.mk.injEq, hn] at hrest
    obtain ⟨value, hvalue, items, hitems, subtotal, rfl, total, htotal, hfresh, hrefs, _, _, rfl, rfl, rfl⟩ := hrest
    have he : total = subtotal := Subtype.ext htotal.symm
    subst he
    exact ⟨lines.2, items, total, value, ⟨hcode, hrows, hsum, hitems, hvalue, hfresh, hrefs⟩, rfl, rfl, rfl⟩
  · rintro ⟨rows, items, total, value, h, rfl, rfl, rfl⟩
    refine ⟨⟨0, toUpperCase input.currency⟩, money_integer h.currency 0, eval_bind_ok.mpr ?_⟩
    refine ⟨(⟨total.val, toUpperCase input.currency⟩, rows), c', v, (eval_orderLinesWith_iff h.currency rfl).mpr ?_, ?_⟩
    · exact ⟨rfl, rfl, h.lines, total.val, h.sum, rfl⟩
    · simp only [eval_nextSequenceNumber_bind, eval_lift_bind, Relation.eval_create_bind,
        eval_recordStatusTransition_bind, eval_recordAuditLog_bind, toInt4_integer_ok_iff,
        pure_eq_ret, eval_ret, Except.ok.injEq, Prod.mk.injEq]
      exact ⟨value, h.counter, items, h.columns, total, rfl, total, rfl, h.fresh, h.references, h.tenant, h.tenant, rfl,
        trivial, rfl⟩

/-- Whoever places the order may: a contact for its own client, staff with the
permission. -/
def mayOrder (actor : Actor) (input : CreateOrderInput) : Prop :=
  match actor with
  | .clientContact a => a.clientId = input.clientId
  | .staff a => hasPermission a.permissions .ordersWrite = true

theorem eval_requireOrderActor_bind {β : Type} {k : Unit → Db β} {c v : Store} {out : β × Store × Store} :
    (requireOrderActor actor input >>= k).eval c v = .ok out ↔ mayOrder actor input ∧ (k ()).eval c v = .ok out := by
  cases actor <;> exact eval_ensure_bind

/-- A call under a new key returns just when everything fits. -/
theorem eval_createOrderWith_iff {s c' s' : Store} {order : Order}
    (hkey : s.orders.rows.find? (Order.hasKey actor.tenantId input.idempotencyKey) = none) :
    (createOrderWith A env actor input).eval s s = .ok (order, c', s') ↔
      mayOrder actor input ∧ input.items ≠ [] ∧ c' = s' ∧ ∃ client, s.clients.find input.clientId = some client ∧
        ∃ rows items total value, Fits A env actor input client s rows items total value ∧
          order = newOrder env actor input value total items ∧ s' = s.placeOrder actor input order value := by
  simp only [createOrderWith, eval_requireOrderActor_bind, eval_ensure_bind, Relation.eval_findFirst_bind]
  change _ ∧ _ ∧ (createUnlessExistingWith A env actor input
    (s.orders.rows.find? (Order.hasKey actor.tenantId input.idempotencyKey))).eval s s = _ ↔ _
  rw [hkey]
  simp only [createUnlessExistingWith, Relation.eval_findUniqueOrThrow_bind, eval_transaction_ok,
    eval_insertOrderWith_iff]
  refine and_congr_right (fun _ => and_congr_right (fun _ => ⟨?_, ?_⟩))
  · rintro ⟨client, hclient, rfl, _, rows, items, total, value, h, ho, _, hs⟩
    exact ⟨rfl, client, hclient, rows, items, total, value, h, ho, hs⟩
  · rintro ⟨rfl, client, hclient, rows, items, total, value, h, ho, hs⟩
    exact ⟨client, hclient, rfl, s, rows, items, total, value, h, ho, rfl, hs⟩

theorem createOrderWith_existing {s c' s' : Store} {existing order : Order}
    (hkey : s.orders.rows.find? (Order.hasKey actor.tenantId input.idempotencyKey) = some existing)
    (h : (createOrderWith A env actor input).eval s s = .ok (order, c', s')) : order = existing ∧ s' = s := by
  simp only [createOrderWith, eval_requireOrderActor_bind, eval_ensure_bind, Relation.eval_findFirst_bind] at h
  obtain ⟨_, _, h⟩ := h
  change (createUnlessExistingWith A env actor input
    (s.orders.rows.find? (Order.hasKey actor.tenantId input.idempotencyKey))).eval s s = _ at h
  rw [hkey] at h
  cases h
  exact ⟨rfl, rfl⟩

/-- An order passes the checks of `createOrder`: whoever places it may, it has
items, and it is stored under its key already or everything fits. -/
structure Store.Accepts (s : Store) (env : Env) (actor : Actor) (input : CreateOrderInput) : Prop where
  allowed : mayOrder actor input
  items_ne : input.items ≠ []
  stored : (∃ order ∈ s.orders, Order.hasKey actor.tenantId input.idempotencyKey order = true) ∨
    ∃ client, s.clients.find input.clientId = some client ∧ ∃ rows items total value,
      Fits .double env actor input client s rows items total value

/-- An order is committed, or found under its key, exactly when it passes. -/
theorem createOrder_returns_iff {s : Store} :
    (∃ r, (createOrder env actor input).eval s s = .ok r) ↔ s.Accepts env actor input := by
  cases hkey : s.orders.rows.find? (Order.hasKey actor.tenantId input.idempotencyKey) with
  | some existing =>
    have hstored : ∃ order ∈ s.orders, Order.hasKey actor.tenantId input.idempotencyKey order = true :=
      ⟨existing, List.mem_of_find?_eq_some hkey, List.find?_some hkey⟩
    constructor
    · rintro ⟨r, hr⟩
      have hchecks := eval_requireOrderActor_bind.mp hr
      exact ⟨hchecks.1, (eval_ensure_bind.mp hchecks.2).1, Or.inl hstored⟩
    · rintro ⟨hallowed, hitems, _⟩
      refine ⟨(existing, s, s), eval_requireOrderActor_bind.mpr ⟨hallowed, eval_ensure_bind.mpr ⟨hitems, ?_⟩⟩⟩
      change (createUnlessExistingWith .double env actor input
        (s.orders.rows.find? (Order.hasKey actor.tenantId input.idempotencyKey))).eval s s = _
      rw [hkey]
      rfl
  | none =>
    constructor
    · rintro ⟨⟨order, c', s'⟩, hr⟩
      obtain ⟨hallowed, hitems, _, client, hclient, rows, items, total, value, hfits, _⟩ :=
        (eval_createOrderWith_iff hkey).mp hr
      exact ⟨hallowed, hitems, Or.inr ⟨client, hclient, rows, items, total, value, hfits⟩⟩
    · rintro ⟨hallowed, hitems, ⟨order, hmem, hhas⟩ | ⟨client, hclient, rows, items, total, value, hfits⟩⟩
      · exact absurd hhas (List.find?_eq_none.mp hkey order hmem)
      · exact ⟨_, (eval_createOrderWith_iff hkey).mpr
          ⟨hallowed, hitems, rfl, client, hclient, rows, items, total, value, hfits, rfl, rfl⟩⟩

theorem uncommitted_orderLinesWith (tenantId : Id) (currency : String) (clientGroupId : Option Id) (subtotal : Money)
    (items : List CreateOrderItemInput) :
    (orderLinesWith A env tenantId currency clientGroupId subtotal items).Uncommitted := by
  induction items generalizing subtotal with
  | nil => trivial
  | cons item items ih =>
    refine Uncommitted.bind ?_ (fun line => (ih line.1).bind (fun _ => trivial))
    refine uncommitted_getCurrentPrice.bind (fun _ => (uncommitted_orThrow _ _).bind (fun _ => ?_))
    refine (Relation.uncommitted_findUniqueOrThrow _).bind (fun _ => ?_)
    refine (uncommitted_lift _).bind (fun _ => (uncommitted_lift _).bind (fun _ => ?_))
    refine (uncommitted_lift _).bind (fun _ => (uncommitted_lift _).bind (fun _ => ?_))
    exact (uncommitted_lift _).bind (fun _ => trivial)

theorem atomic_createOrderWith (A : Arithmetic) (env : Env) (actor : Actor) (input : CreateOrderInput) :
    (createOrderWith A env actor input).Atomic := by
  refine uncommitted_requireOrderActor.bind_atomic (fun _ => (uncommitted_ensure _ _).bind_atomic (fun _ => ?_))
  refine (Relation.uncommitted_findFirst _).bind_atomic (fun existing => ?_)
  cases existing with
  | some order => trivial
  | none =>
    refine (Relation.uncommitted_findUniqueOrThrow _).bind_atomic (fun client => Uncommitted.transaction ?_)
    refine (uncommitted_lift _).bind (fun _ => (uncommitted_orderLinesWith _ _ _ _ _).bind (fun _ => ?_))
    refine (uncommitted_nextSequenceNumber _ _ _).bind (fun _ => (uncommitted_lift _).bind (fun _ => ?_))
    refine (uncommitted_lift _).bind (fun _ => (uncommitted_lift _).bind (fun _ => ?_))
    refine (Relation.uncommitted_create _).bind (fun _ => (uncommitted_recordStatusTransition _).bind (fun _ => ?_))
    exact (uncommitted_recordAuditLog _).bind (fun _ => trivial)

end Insert

end HostPanel.Model
