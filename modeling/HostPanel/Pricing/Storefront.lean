import HostPanel.Model.Actions

namespace HostPanel.Model

open HostPanel.Lib HostPanel.Lib.Program

/-- The billing cycles that the catalog shows prices for. -/
inductive ShownCycle where
  | monthly
  | annual
  | oneTime
deriving DecidableEq

def ShownCycle.cycle : ShownCycle → BillingCycle
  | monthly => .monthly
  | annual => .annual
  | oneTime => .oneTime

def CatalogProduct.price (entry : CatalogProduct) : ShownCycle → Option ProductPrice
  | .monthly => entry.monthlyPrice
  | .annual => entry.annualPrice
  | .oneTime => entry.oneTimePrice

/-- An order of one unit of a product by a client contact. -/
structure PortalOrder where
  productId : Id
  cycle : ShownCycle
  idempotencyKey : String
  domain : Option String := none
  selectedOptions : Option String := none
  ipAddress : Option String := none
  userAgent : Option String := none

def PortalOrder.item (o : PortalOrder) : CreateOrderItemInput :=
  { productId := o.productId, quantity := .integer 1, billingCycle := o.cycle.cycle.name, domain := o.domain
    selectedOptions := o.selectedOptions }

def PortalOrder.input (o : PortalOrder) (contact : ClientPortalActor) : CreateOrderInput :=
  { clientId := contact.clientId, currency := "USD", items := [o.item], idempotencyKey := o.idempotencyKey
    ipAddress := o.ipAddress, userAgent := o.userAgent }

/-- The portal's products page lists the product with a price row. -/
def Store.Lists (s : Store) (env : Env) (tenantId productId : Id) (cycle : ShownCycle) (r : ProductPrice) : Prop :=
  ∃ groups, (listPublicCatalog env tenantId "USD").run s = (s, .ok groups) ∧
    ∃ g ∈ groups, ∃ entry ∈ g.products, entry.product.id = productId ∧ entry.price cycle = some r

/-- An order of one unit of the product at a price. -/
def Order.Bills (order : Order) (productId : Id) (price : Int4) : Prop :=
  ∃ item, order.items = [item] ∧ item.productId = some productId ∧ item.unitPriceSnapshot = price

/-- What is listed is charged, and what is not listed cannot be ordered. -/
structure Store.ChargesShown (s : Store) (env : Env) (contact : ClientPortalActor) (o : PortalOrder) : Prop where
  listed : ∀ r, s.Lists env contact.tenantId o.productId o.cycle r → ∃ s' order,
    (createOrder env (.clientContact contact) (o.input contact)).run s = (s', .ok order) ∧ order.Bills o.productId r.price
  unlisted : (∀ r, ¬ s.Lists env contact.tenantId o.productId o.cycle r) →
    ∃ e, ((createOrder env (.clientContact contact) (o.input contact)).run s).2 = .error e

section Listing

variable {s : Store} {env : Env} {tenantId productId : Id} {cycle : ShownCycle} {r : ProductPrice}

/-- The product is public, active and not deleted, in a group of the tenant
that is public and not deleted. -/
def Store.onShelf (s : Store) (tenantId : Id) (product : Product) : Bool :=
  product.isListed && (s.productGroups.find product.productGroupId).any (fun g =>
    decide (g.tenantId = tenantId ∧ g.visibility = .«public» ∧ g.deletedAt = none))

/-- The common price of the product, where it is on the shelf. -/
def Store.shownPrice (s : Store) (env : Env) (tenantId productId : Id) (cycle : ShownCycle) : Option ProductPrice :=
  ((s.products.find productId).filter (s.onShelf tenantId)).bind (fun _ =>
    s.currentPrice env tenantId productId "USD" cycle.cycle none)

theorem catalogProduct_price (product : Product) :
    (s.catalogProduct env tenantId "USD" product).price cycle =
      s.currentPrice env tenantId product.id "USD" cycle.cycle none := by
  cases cycle <;> rfl

theorem mem_publicGroups {group : ProductGroup} :
    group ∈ s.publicGroups tenantId ↔ group ∈ s.productGroups ∧ group.tenantId = tenantId ∧
      group.visibility = .«public» ∧ group.deletedAt = none := by
  rw [Store.publicGroups, List.mem_insertionSort, List.mem_filter, decide_eq_true_eq]
  exact Iff.rfl

theorem mem_publicProducts {group : ProductGroup} {product : Product} :
    product ∈ s.publicProducts group ↔ product ∈ s.products ∧ product.productGroupId = group.id ∧
      product.isListed = true := by
  rw [Store.publicProducts, List.mem_insertionSort, List.mem_filter, Bool.and_eq_true, decide_eq_true_eq]
  exact Iff.rfl

theorem onShelf_iff {product : Product} : s.onShelf tenantId product = true ↔
    product.isListed = true ∧ ∃ group ∈ s.publicGroups tenantId, product.productGroupId = group.id := by
  rw [Store.onShelf, Bool.and_eq_true, Option.any_eq_true]
  refine and_congr_right (fun _ => ⟨?_, ?_⟩)
  · rintro ⟨group, hfound, hshown⟩
    obtain ⟨hmem, hid⟩ := Table.find_eq_some_iff.mp hfound
    exact ⟨group, mem_publicGroups.mpr ⟨hmem, of_decide_eq_true hshown⟩, hid.symm⟩
  · rintro ⟨group, hgroup, hid⟩
    obtain ⟨hmem, hshown⟩ := mem_publicGroups.mp hgroup
    exact ⟨group, Table.find_eq_some_iff.mpr ⟨hmem, hid.symm⟩, decide_eq_true hshown⟩

theorem shownPrice_eq_some_iff : s.shownPrice env tenantId productId cycle = some r ↔
    (∃ product, s.products.find productId = some product ∧ s.onShelf tenantId product = true) ∧
      s.currentPrice env tenantId productId "USD" cycle.cycle none = some r := by
  simp only [Store.shownPrice, Option.bind_eq_some_iff, Option.filter_eq_some_iff, exists_and_right]

theorem lists_iff : s.Lists env tenantId productId cycle r ↔ s.shownPrice env tenantId productId cycle = some r := by
  have hrun : (listPublicCatalog env tenantId "USD").run s = (s, .ok ((s.publicGroups tenantId).map (fun g =>
      ⟨g, (s.publicProducts g).map (s.catalogProduct env tenantId "USD")⟩))) :=
    run_ok_iff.mpr ⟨s, eval_listPublicCatalog env tenantId "USD" s s⟩
  rw [shownPrice_eq_some_iff]
  constructor
  · rintro ⟨groups, hlist, g, hg, entry, hentry, hid, hprice⟩
    rw [hrun] at hlist
    cases hlist
    obtain ⟨group, hgroup, rfl⟩ := List.mem_map.mp hg
    obtain ⟨product, hproduct, rfl⟩ := List.mem_map.mp hentry
    obtain ⟨hmem, hin, hlisted⟩ := mem_publicProducts.mp hproduct
    have hpid : product.id = productId := hid
    rw [catalogProduct_price, hpid] at hprice
    exact ⟨⟨product, Table.find_eq_some_iff.mpr ⟨hmem, hpid⟩, onShelf_iff.mpr ⟨hlisted, group, hgroup, hin⟩⟩, hprice⟩
  · rintro ⟨⟨product, hfound, hshelf⟩, hprice⟩
    obtain ⟨hmem, hpid⟩ := Table.find_eq_some_iff.mp hfound
    obtain ⟨hlisted, group, hgroup, hin⟩ := onShelf_iff.mp hshelf
    refine ⟨_, hrun, _, List.mem_map.mpr ⟨group, hgroup, rfl⟩, _,
      List.mem_map.mpr ⟨product, mem_publicProducts.mpr ⟨hmem, hin, hlisted⟩, rfl⟩, hpid, ?_⟩
    rw [catalogProduct_price, hpid]
    exact hprice

end Listing

section Ordering

variable {s : Store} {env : Env} {contact : ClientPortalActor} {o : PortalOrder}

/-- The price of the product for the contact's client. -/
def Store.ownPrice (s : Store) (env : Env) (contact : ClientPortalActor) (o : PortalOrder) : Option ProductPrice :=
  (s.clients.find contact.clientId).bind (fun client =>
    s.currentPrice env contact.tenantId o.productId "USD" o.cycle.cycle client.clientGroupId)

/-- The next order number of the tenant and the ids that are drawn are free. -/
def Store.HasRoom (s : Store) (env : Env) (tenantId : Id) : Prop :=
  ∃ value, s.incremented (tenantId, "order_number") = .ok value ∧ ∀ q ∈ s.orders, q.id ≠ env.cuid 0 ∧
    (∀ i ∈ q.items, i.id ≠ env.cuid 1) ∧
    (q.tenantId = tenantId → q.orderNumber ≠ sequenceNumber orderNumberOptions value)

/-- One unit at the price can be ordered: the tenant and the product exist, the
total fits its column and there is room for the order. -/
structure Store.CanCharge (s : Store) (env : Env) (contact : ClientPortalActor) (o : PortalOrder)
    (charged : ProductPrice) : Prop where
  tenant : s.hasTenant contact.tenantId = true
  product : (s.products.find o.productId).isSome = true
  total : -2147483648 ≤ charged.price.val + charged.setupFee.val ∧ charged.price.val + charged.setupFee.val < 2147483648
  room : s.HasRoom env contact.tenantId

theorem money_usd (n : ℤ) : money (.integer n) "USD" = .ok ⟨n, "USD"⟩ := rfl

theorem multiply_one (n : Int4) : multiply ⟨n.val, "USD"⟩ (.integer 1) = .ok ⟨n.val, "USD"⟩ := by
  have hn := Int4.natAbs_le n
  have hmul : Number.mul n.val 1 = .integer n.val := by
    rw [Number.mul, mul_one]
    exact Number.ofExact_of_le (by omega)
  exact multiply_ok_iff.mpr ⟨1, rfl, by rw [hmul]; exact money_usd n.val⟩

theorem add_usd {a b : ℤ} (h : (a + b).natAbs ≤ 2 ^ 53) : add ⟨a, "USD"⟩ ⟨b, "USD"⟩ = .ok ⟨a + b, "USD"⟩ := by
  refine add_ok_iff.mpr ⟨rfl, ?_⟩
  rw [Number.add, Number.ofExact_of_le h]
  exact money_usd (a + b)

/-- One unit of a price, and its setup fee. -/
theorem eval_orderLines_one {β : Type} {k : Money × List OrderItemRow → Db β} {c v : Store} {out : β × Store × Store}
    {tenantId : Id} {group : Option Id} :
    (orderLines env tenantId "USD" group ⟨0, "USD"⟩ [o.item] >>= k).eval c v = .ok out ↔
      ∃ charged, v.currentPrice env tenantId o.productId "USD" o.cycle.cycle group = some charged ∧
        ∃ product, v.products.find o.productId = some product ∧ (k (⟨charged.price.val + charged.setupFee.val, "USD"⟩,
          [{ tenantId := tenantId
             productId := product.id
             productPriceId := charged.id
             productNameSnapshot := product.name
             descriptionSnapshot := product.description
             quantity := .integer 1
             unitPriceSnapshot := charged.price.val
             setupFeeSnapshot := charged.setupFee.val
             billingCycleSnapshot := o.cycle.cycle.name
             domainSnapshot := o.domain
             selectedOptionsSnapshot := o.selectedOptions
             lineTotal := charged.price.val + charged.setupFee.val }])).eval c v = .ok out := by
  have hone : ∀ n : Int4, multiplyWith .double ⟨n.val, "USD"⟩ (.integer 1) = .ok ⟨n.val, "USD"⟩ := multiply_one
  simp only [orderLines, orderLinesWith, orderLineWith, bind_assoc, eval_getCurrentPrice_bind, eval_orThrow_bind,
    Relation.eval_findUniqueOrThrow_bind, PortalOrder.item, BillingCycle.ofName?_name, Option.some.injEq, exists_eq_left',
    lift_ok_bind (money_usd _), lift_ok_bind (hone _), pure_eq_ret, ret_bind]
  refine exists_congr (fun charged => ?_)
  have hsum : (charged.price.val + charged.setupFee.val).natAbs ≤ 2 ^ 53 := by
    have hp := Int4.natAbs_le charged.price
    have hf := Int4.natAbs_le charged.setupFee
    omega
  have hline : addWith .double ⟨charged.price.val, "USD"⟩ ⟨charged.setupFee.val, "USD"⟩ =
      .ok ⟨charged.price.val + charged.setupFee.val, "USD"⟩ := add_usd hsum
  have hzero : addWith .double ⟨0, "USD"⟩ ⟨charged.price.val + charged.setupFee.val, "USD"⟩ =
      .ok ⟨charged.price.val + charged.setupFee.val, "USD"⟩ := by
    refine (add_usd (by rw [zero_add]; exact hsum)).trans ?_
    rw [zero_add]
  simp only [lift_ok_bind hline, lift_ok_bind hzero]
  exact Iff.rfl

/-- The row of the one item. -/
def PortalOrder.stored (o : PortalOrder) (env : Env) (tenantId : Id) (product : Product) (charged : ProductPrice)
    (total : Int4) : OrderItem :=
  { id := env.cuid 1
    tenantId := tenantId
    productId := some product.id
    productPriceId := some charged.id
    productNameSnapshot := product.name
    descriptionSnapshot := product.description
    quantity := ⟨1, by decide⟩
    unitPriceSnapshot := charged.price
    setupFeeSnapshot := charged.setupFee
    taxSnapshot := 0
    discountSnapshot := 0
    billingCycleSnapshot := o.cycle.cycle
    domainSnapshot := o.domain
    selectedOptionsSnapshot := o.selectedOptions
    lineTotal := total }

theorem stored_one_iff {tenantId : Id} {product : Product} {charged : ProductPrice} {items : List OrderItem} {n : ℤ} :
    storedItems env 1
        [{ tenantId := tenantId
           productId := product.id
           productPriceId := charged.id
           productNameSnapshot := product.name
           descriptionSnapshot := product.description
           quantity := .integer 1
           unitPriceSnapshot := charged.price.val
           setupFeeSnapshot := charged.setupFee.val
           billingCycleSnapshot := o.cycle.cycle.name
           domainSnapshot := o.domain
           selectedOptionsSnapshot := o.selectedOptions
           lineTotal := n }] = .ok items ↔
      ∃ total : Int4, total.val = n ∧ items = [o.stored env tenantId product charged total] := by
  have hint : ∀ v : Int4, toInt4 (.integer v.val) = .ok v := fun v => toInt4_ok_iff.mpr rfl
  have hone : toInt4 (.integer 1) = .ok ⟨1, by decide⟩ := rfl
  have hzero : toInt4 (.integer 0) = .ok 0 := rfl
  have hcycle : billingCycleEnum o.cycle.cycle.name = .ok o.cycle.cycle := 
    billingCycleEnum_ok_iff.mpr (BillingCycle.ofName?_name _)
  simp only [storedItems, OrderItemRow.stored, except_bind_ok, hint, hone, hzero, hcycle, Except.ok.injEq,
    exists_eq_left', toInt4_integer_ok_iff]
  constructor
  · rintro ⟨item, ⟨total, rfl, hitem⟩, hitems⟩
    cases hitem
    cases hitems
    exact ⟨total, rfl, rfl⟩
  · rintro ⟨total, rfl, rfl⟩
    exact ⟨_, ⟨total, rfl, rfl⟩, rfl⟩

/-- The row of the order. -/
def PortalOrder.placed (o : PortalOrder) (env : Env) (contact : ClientPortalActor) (product : Product)
    (charged : ProductPrice) (number : String) (total : Int4) : Order :=
  { id := env.cuid 0
    tenantId := contact.tenantId
    clientId := contact.clientId
    orderNumber := number
    status := .pending
    currency := "USD"
    subtotal := total
    discountTotal := 0
    taxTotal := 0
    total := total
    idempotencyKey := some o.idempotencyKey
    ipAddress := o.ipAddress
    userAgent := o.userAgent
    items := [o.stored env contact.tenantId product charged total] }

theorem fresh_placed_iff {product : Product} {charged : ProductPrice} {number : String} {total : Int4} {t : Store}
    (hkey : t.orders.rows.find? (Order.hasKey contact.tenantId o.idempotencyKey) = none) :
    prisma.order.Fresh (o.placed env contact product charged number total) t ↔
      ∀ q ∈ t.orders, q.id ≠ env.cuid 0 ∧ (∀ i ∈ q.items, i.id ≠ env.cuid 1) ∧
        (q.tenantId = contact.tenantId → q.orderNumber ≠ number) := by
  have hunused : ∀ q ∈ t.orders, q.tenantId = contact.tenantId → q.idempotencyKey ≠ some o.idempotencyKey := by
    intro q hq htenant hsame
    have h := List.find?_eq_none.mp hkey q hq
    simp [Order.hasKey, htenant, hsame] at h
  have hentries : ∀ q ∈ t.orders, (∀ l ∈ prisma.order.entries (o.placed env contact product charged number total),
      l ∉ prisma.order.entries q) ↔ q.id ≠ env.cuid 0 ∧ (∀ i ∈ q.items, i.id ≠ env.cuid 1) ∧
        (q.tenantId = contact.tenantId → q.orderNumber ≠ number) := by
    intro q hq
    have hkey := hunused q hq
    simp only [prisma.order, PortalOrder.placed, PortalOrder.stored, Option.map_some, Option.toList_some,
      List.map_cons, List.map_nil, List.cons_append, List.nil_append, List.mem_cons, List.not_mem_nil, or_false,
      List.mem_append, Option.mem_toList, Option.map_eq_some_iff, List.mem_map, not_or, not_exists, not_and,
      forall_eq_or_imp, Lock.order.injEq, reduceCtorEq, not_false_eq_true, implies_true, and_self, and_true,
      Lock.orderNumber.injEq, true_and, Lock.idempotencyKey.injEq, forall_eq, Lock.orderItem.injEq, ne_eq]
    constructor
    · rintro ⟨hid, hnumber, _, hitems⟩
      exact ⟨fun h => hid h.symm, hitems, fun htenant h => hnumber htenant.symm h.symm⟩
    · rintro ⟨hid, hitems, hnumber⟩
      refine ⟨fun h => hid h.symm, fun htenant h => hnumber htenant.symm h.symm, ?_, hitems⟩
      exact fun key hsome htenant h => hkey htenant (h ▸ hsome)
  constructor
  · exact fun h q hq => (hentries q hq).mp (h.2 q hq)
  · exact fun h => ⟨by simp [prisma.order, PortalOrder.placed, PortalOrder.stored], fun q hq => (hentries q hq).mpr (h q hq)⟩

/-- The transaction of an order of one unit. -/
theorem insertOrder_one_iff {client : Client} {order : Order} {c v : Store}
    (hclient : s.clients.find contact.clientId = some client) :
    (insertOrder env (.clientContact contact) (o.input contact) client).eval s s = .ok (order, c, v) ↔
      ∃ charged, s.currentPrice env contact.tenantId o.productId "USD" o.cycle.cycle client.clientGroupId = some charged ∧
      ∃ product, s.products.find o.productId = some product ∧
      ∃ value, s.incremented (contact.tenantId, "order_number") = .ok value ∧
      ∃ total : Int4, total.val = charged.price.val + charged.setupFee.val ∧
        prisma.order.Fresh (o.placed env contact product charged (sequenceNumber orderNumberOptions value) total) s ∧
        s.hasTenant contact.tenantId = true ∧
        order = o.placed env contact product charged (sequenceNumber orderNumberOptions value) total ∧ c = s ∧
        v = s.placeOrder (.clientContact contact) (o.input contact) order value := by
  have hzero : zero "USD" = .ok ⟨0, "USD"⟩ := money_usd 0
  have hlines : ∀ group start, orderLinesWith .double env contact.tenantId "USD" group start [o.item] =
      orderLines env contact.tenantId "USD" group start [o.item] := fun _ _ => rfl
  simp only [insertOrder, insertOrderWith, hlines, PortalOrder.input, Actor.tenantId, lift_ok_bind hzero, eval_orderLines_one,
    eval_nextSequenceNumber_bind, eval_lift_bind, stored_one_iff, toInt4_integer_ok_iff,
    Relation.eval_create_bind, eval_recordStatusTransition_bind, eval_recordAuditLog_bind, pure_eq_ret, eval_ret,
    Except.ok.injEq, Prod.mk.injEq]
  constructor
  · rintro ⟨charged, hprice, product, hproduct, value, hvalue, _, ⟨total, htotal, rfl⟩, subtotal, hsubtotal, total',
      htotal', hfresh, _, htenant, _, rfl, rfl, rfl⟩
    have hsub : subtotal = total := Subtype.ext (hsubtotal.symm.trans htotal.symm)
    have htot : total' = total := Subtype.ext (htotal'.symm.trans htotal.symm)
    subst hsub htot
    refine ⟨charged, hprice, product, hproduct, value, hvalue, _, htotal, hfresh, htenant, rfl, rfl, ?_⟩
    rw [← htotal]
    rfl
  · rintro ⟨charged, hprice, product, hproduct, value, hvalue, total, htotal, hfresh, htenant, rfl, hc, rfl⟩
    refine ⟨charged, hprice, product, hproduct, value, hvalue, _, ⟨total, htotal, rfl⟩, total, htotal.symm, total,
      htotal.symm, hfresh, ?_, htenant, htenant, rfl, hc.symm, ?_⟩
    · have hproduct' : s.products.find product.id = some product := Table.find_of_mem (Table.mem_of_find hproduct)
      have hprice' : s.productPrices.find charged.id = some charged := Table.find_of_mem (mem_currentPrice hprice).1
      have hall : (s.hasTenant contact.tenantId && (s.clients.find contact.clientId).isSome &&
          ([o.stored env contact.tenantId product charged total].all (fun i =>
            i.productId.all (fun p => (s.products.find p).isSome) &&
              i.productPriceId.all (fun p => (s.productPrices.find p).isSome)))) = true := by
        simp only [htenant]
        simp [PortalOrder.stored, hclient, hproduct', hprice']
      exact hall
    · rw [← htotal]
      rfl

theorem createOrder_one_iff {order : Order} {c s' : Store}
    (hkey : s.orders.rows.find? (Order.hasKey contact.tenantId o.idempotencyKey) = none) :
    (createOrder env (.clientContact contact) (o.input contact)).eval s s = .ok (order, c, s') ↔
      ∃ client, s.clients.find contact.clientId = some client ∧ c = s' ∧ ∃ c',
        (insertOrder env (.clientContact contact) (o.input contact) client).eval s s = .ok (order, c', s') := by
  have hitems : (o.input contact).items ≠ [] := List.cons_ne_nil _ _
  have hown : contact.clientId = (o.input contact).clientId := rfl
  simp only [createOrder, createOrderWith, requireOrderActor, eval_ensure_bind, Relation.eval_findFirst_bind, hitems,
    hown, true_and, not_false_eq_true, ne_eq]
  change (createUnlessExisting env (.clientContact contact) (o.input contact)
    (s.orders.rows.find? (Order.hasKey contact.tenantId o.idempotencyKey))).eval s s = _ ↔ _
  rw [hkey]
  simp only [createUnlessExisting, createUnlessExistingWith, Relation.eval_findUniqueOrThrow_bind, eval_transaction_ok]
  exact Iff.rfl

/-- An order of one unit under a new key goes through exactly when the client
has a price that can be charged, and it charges that price. -/
theorem ordered_one_iff (hkey : s.orders.rows.find? (Order.hasKey contact.tenantId o.idempotencyKey) = none)
    (price : Int4) :
    (∃ s' order, (createOrder env (.clientContact contact) (o.input contact)).run s = (s', .ok order) ∧
      order.Bills o.productId price) ↔
      ∃ charged, s.ownPrice env contact o = some charged ∧ s.CanCharge env contact o charged ∧ charged.price = price := by
  simp only [run_ok_iff, createOrder_one_iff hkey]
  constructor
  · rintro ⟨s', order, ⟨c, client, hclient, rfl, c', hins⟩, item, hitems, _, rfl⟩
    obtain ⟨charged, hprice, product, hproduct, value, hvalue, total, htotal, hfresh, htenant, rfl, _, _⟩ :=
      (insertOrder_one_iff hclient).mp hins
    refine ⟨charged, ?_, ⟨htenant, by rw [hproduct]; rfl, htotal ▸ total.property, value, hvalue, ?_⟩, ?_⟩
    · rw [Store.ownPrice, hclient]
      exact hprice
    · exact (fresh_placed_iff hkey).mp hfresh
    · cases hitems
      rfl
  · rintro ⟨charged, hown, ⟨htenant, hproduct, htotal, value, hvalue, hfree⟩, rfl⟩
    obtain ⟨client, hclient, hprice⟩ := Option.bind_eq_some_iff.mp hown
    obtain ⟨product, hproduct⟩ := Option.isSome_iff_exists.mp hproduct
    have hins := (insertOrder_one_iff hclient).mpr ⟨charged, hprice, product, hproduct, value, hvalue,
      ⟨_, htotal⟩, rfl, (fresh_placed_iff hkey).mpr hfree, htenant, rfl, rfl, rfl⟩
    refine ⟨_, _, ⟨_, client, hclient, rfl, _, hins⟩, _, rfl, ?_, rfl⟩
    exact congrArg some (Table.key_of_find hproduct)

theorem bills_of_ordered {order : Order} {s' : Store}
    (hkey : s.orders.rows.find? (Order.hasKey contact.tenantId o.idempotencyKey) = none)
    (h : (createOrder env (.clientContact contact) (o.input contact)).run s = (s', .ok order)) :
    ∃ price, order.Bills o.productId price := by
  obtain ⟨c, hok⟩ := run_ok_iff.mp h
  obtain ⟨client, hclient, rfl, c', hins⟩ := (createOrder_one_iff hkey).mp hok
  obtain ⟨charged, _, product, hproduct, _, _, _, _, _, _, rfl, _, _⟩ := (insertOrder_one_iff hclient).mp hins
  exact ⟨charged.price, _, rfl, congrArg some (Table.key_of_find hproduct), rfl⟩

theorem ordered_again {order : Order}
    (hkey : s.orders.rows.find? (Order.hasKey contact.tenantId o.idempotencyKey) = some order) :
    (createOrder env (.clientContact contact) (o.input contact)).run s = (s, .ok order) := by
  have hactor : (requireOrderActor (.clientContact contact) (o.input contact)).eval s s = .ok ((), s, s) := by
    have hown : contact.clientId = (o.input contact).clientId := rfl
    rw [requireOrderActor, ensure, if_pos hown]
    rfl
  exact run_ok_iff.mpr ⟨s, createOrder_existing env hactor (List.cons_ne_nil _ _) hkey⟩

end Ordering

/-- What is shown for the order is what the client is charged: the order stored
under the key already has the shown price; under a new key the client's own
price is the shown one and can be charged, or nothing is shown and the client
has no price that can be charged. -/
def Store.PricesAgree (s : Store) (env : Env) (contact : ClientPortalActor) (o : PortalOrder) : Prop :=
  match s.orders.rows.find? (Order.hasKey contact.tenantId o.idempotencyKey),
    s.shownPrice env contact.tenantId o.productId o.cycle with
  | some order, some r => order.Bills o.productId r.price
  | some _, none => False
  | none, some r => ∃ charged, s.ownPrice env contact o = some charged ∧ s.CanCharge env contact o charged ∧
      charged.price = r.price
  | none, none => ∀ charged, s.ownPrice env contact o = some charged → ¬ s.CanCharge env contact o charged

theorem chargesShown_iff_of_shown {s : Store} {env : Env} {contact : ClientPortalActor} {o : PortalOrder}
    {r : ProductPrice} (h : s.shownPrice env contact.tenantId o.productId o.cycle = some r) :
    s.ChargesShown env contact o ↔ ∃ s' order,
      (createOrder env (.clientContact contact) (o.input contact)).run s = (s', .ok order) ∧
        order.Bills o.productId r.price := by
  constructor
  · exact fun hc => hc.listed r (lists_iff.mpr h)
  · refine fun hbills => ⟨fun q hq => ?_, fun hnone => absurd (lists_iff.mpr h) (hnone r)⟩
    rw [lists_iff, h] at hq
    cases hq
    exact hbills

theorem chargesShown_iff_of_hidden {s : Store} {env : Env} {contact : ClientPortalActor} {o : PortalOrder}
    (h : s.shownPrice env contact.tenantId o.productId o.cycle = none) :
    s.ChargesShown env contact o ↔
      ∃ e, ((createOrder env (.clientContact contact) (o.input contact)).run s).2 = .error e := by
  have hnone : ∀ r, ¬ s.Lists env contact.tenantId o.productId o.cycle r := by
    intro r hr
    rw [lists_iff, h] at hr
    cases hr
  exact ⟨fun hc => hc.unlisted hnone, fun herror => ⟨fun r hr => absurd hr (hnone r), fun _ => herror⟩⟩

/-- The portal charges what it shows exactly where the prices agree. -/
theorem charges_shown_iff (s : Store) (env : Env) (contact : ClientPortalActor) (o : PortalOrder) :
    s.ChargesShown env contact o ↔ s.PricesAgree env contact o := by
  unfold Store.PricesAgree
  cases hshown : s.shownPrice env contact.tenantId o.productId o.cycle with
  | some r =>
    rw [chargesShown_iff_of_shown hshown]
    cases hkey : s.orders.rows.find? (Order.hasKey contact.tenantId o.idempotencyKey) with
    | none => exact ordered_one_iff hkey r.price
    | some order =>
      rw [ordered_again hkey]
      constructor
      · rintro ⟨s', order', hrun, hbills⟩
        cases hrun
        exact hbills
      · exact fun hbills => ⟨s, order, rfl, hbills⟩
  | none =>
    rw [chargesShown_iff_of_hidden hshown]
    cases hkey : s.orders.rows.find? (Order.hasKey contact.tenantId o.idempotencyKey) with
    | some order =>
      rw [ordered_again hkey]
      simp
    | none =>
      constructor
      · rintro ⟨e, herror⟩ charged hown hcan
        obtain ⟨s', order, hrun, _⟩ := (ordered_one_iff hkey charged.price).mpr ⟨charged, hown, hcan, rfl⟩
        rw [hrun] at herror
        cases herror
      · intro hnot
        cases hrun : (createOrder env (.clientContact contact) (o.input contact)).run s with
        | mk s' result =>
          cases result with
          | error e => exact ⟨e, rfl⟩
          | ok order =>
            obtain ⟨price, hbills⟩ := bills_of_ordered hkey hrun
            obtain ⟨charged, hown, hcan, _⟩ := (ordered_one_iff hkey price).mp ⟨s', order, hrun, hbills⟩
            exact absurd hcan (hnot charged hown)

namespace Sample

/-- The shop with the product on the shelf, and the client in a group that has
its own price. -/
def memberShop : Store :=
  { shop 0 with
    clientGroups := (∅ : Table ClientGroup.id).insert { id := "members", tenantId := "tenant" }
    clients := (∅ : Table Client.id).insert { client with clientGroupId := some "members" }
    productPrices := ((∅ : Table ProductPrice.id).insert (price 0)).insert
      { price 0 with id := "price-members", clientGroupId := some "members", price := ⟨1500, by decide⟩ } }

def oneMonth : PortalOrder := { productId := "product", cycle := .monthly, idempotencyKey := "key" }

end Sample

open Sample in
/-- The page shows 1000 and the order charges 1500. -/
theorem member_charged_unshown :
    (memberShop.shownPrice (env "a") "tenant" "product" .monthly).map (fun r => r.price.val) = some 1000 ∧
      (createOrder (env "a") (.clientContact contact) (oneMonth.input contact)).returns memberShop
        (fun _ order => decide (order.items.map (fun i => i.unitPriceSnapshot.val) = [1500])) = true ∧
      ¬ memberShop.ChargesShown (env "a") contact oneMonth := by
  have hshown : (memberShop.shownPrice (env "a") "tenant" "product" .monthly).map (fun r => r.price.val) = some 1000 := by
    decide +kernel
  have hcharged : (createOrder (env "a") (.clientContact contact) (oneMonth.input contact)).returns memberShop
      (fun _ order => decide (order.items.map (fun i => i.unitPriceSnapshot.val) = [1500])) = true := by decide +kernel
  refine ⟨hshown, hcharged, fun h => ?_⟩
  obtain ⟨r, hr, hprice⟩ := Option.map_eq_some_iff.mp hshown
  obtain ⟨_, order, hrun, item, hitems, _, hitem⟩ := h.listed r (lists_iff.mpr hr)
  obtain ⟨_, order', hrun', hitems'⟩ := returns_iff.mp hcharged
  rw [hrun] at hrun'
  cases hrun'
  have hval : item.unitPriceSnapshot.val = 1500 := by simpa [hitems] using hitems'
  rw [hitem, hprice] at hval
  exact absurd hval (by decide)

end HostPanel.Model
