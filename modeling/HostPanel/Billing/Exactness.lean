import HostPanel.Model.OrderArithmetic
import HostPanel.Model.Services

namespace HostPanel.Model

open HostPanel.Lib HostPanel.Lib.Program

/-- The value fits an `Int` column. -/
def InColumn (n : ℤ) : Prop := -2147483648 ≤ n ∧ n < 2147483648

/-- What an item comes to in exact integers. -/
def Store.ExactLine (s : Store) (env : Env) (tenantId : Id) (currency : String) (clientGroupId : Option Id)
    (item : CreateOrderItemInput) (n : ℤ) : Prop :=
  ∃ cycle price quantity, BillingCycle.ofName? item.billingCycle = some cycle ∧
    s.currentPrice env tenantId item.productId currency cycle clientGroupId = some price ∧
    item.quantity = .integer quantity ∧ n = price.price.val * quantity + price.setupFee.val

/-- A stored item is the requested one at the price found for it, its total
worked out in exact integers. -/
structure ExactItem (s : Store) (env : Env) (tenantId : Id) (currency : String) (clientGroupId : Option Id)
    (item : CreateOrderItemInput) (stored : OrderItem) : Prop where
  productId : stored.productId = some item.productId
  price : ∃ cycle price, BillingCycle.ofName? item.billingCycle = some cycle ∧
    s.currentPrice env tenantId item.productId currency cycle clientGroupId = some price ∧
    stored.unitPriceSnapshot = price.price ∧ stored.setupFeeSnapshot = price.setupFee
  quantity : item.quantity = .integer stored.quantity.val
  lineTotal : stored.lineTotal.val = stored.unitPriceSnapshot.val * stored.quantity.val + stored.setupFeeSnapshot.val

/-- The order has one item for each requested one, in their order, and its totals
are the sums of theirs. -/
structure ExactOrder (s : Store) (env : Env) (actor : Actor) (input : CreateOrderInput) (client : Client)
    (order : Order) : Prop where
  items : List.Forall₂ (ExactItem s env actor.tenantId input.currency client.clientGroupId) input.items order.items
  subtotal : order.subtotal.val = (order.items.map (fun item => item.lineTotal.val)).sum
  total : order.total.val = (order.items.map (fun item => item.lineTotal.val)).sum
  discountTotal : order.discountTotal.val = 0
  taxTotal : order.taxTotal.val = 0

/-- Some exact amount, or a quantity, does not fit its column. -/
def Store.Exceeds (s : Store) (env : Env) (actor : Actor) (input : CreateOrderInput) (client : Client) : Prop :=
  (∃ item ∈ input.items, ∃ q, item.quantity = .integer q ∧ ¬InColumn q) ∨
    (∃ item ∈ input.items, ∃ n,
      s.ExactLine env actor.tenantId input.currency client.clientGroupId item n ∧ ¬InColumn n) ∨
    ∃ ns, List.Forall₂ (s.ExactLine env actor.tenantId input.currency client.clientGroupId) input.items ns ∧
      ¬InColumn ns.sum

section Lines

variable {A : Arithmetic} {s : Store} {env : Env} {tenantId : Id} {currency : String} {clientGroupId : Option Id}
  {item : CreateOrderItemInput} {row : OrderItemRow} {stored : OrderItem}

theorem Store.ExactLine.unique {n m : ℤ} (h : s.ExactLine env tenantId currency clientGroupId item n)
    (h' : s.ExactLine env tenantId currency clientGroupId item m) : n = m := by
  obtain ⟨cycle, price, q, hcycle, hprice, hq, rfl⟩ := h
  obtain ⟨cycle', price', q', hcycle', hprice', hq', rfl⟩ := h'
  cases hcycle.symm.trans hcycle'
  cases hprice.symm.trans hprice'
  cases hq.symm.trans hq'
  rfl

theorem exactItem_of_line (h : s.LineAt A env tenantId currency clientGroupId item row) (hstored : StoredItem row stored) :
    ExactItem s env tenantId currency clientGroupId item stored := by
  obtain ⟨cycle, price, product, quantity, gross, lineTotal, hcycle, hprice, hproduct, hq, hgross, hline, rfl⟩ := h
  have hq' : quantity = stored.quantity.val := hstored.quantity_eq hq
  have hquantity : item.quantity = .integer stored.quantity.val := hq' ▸ hq
  have htotal : lineTotal = price.price.val * quantity + price.setupFee.val := by
    refine A.mul_add_of_small hgross hline (Int4.natAbs_le _) ?_
    have hcolumn : stored.lineTotal.val = lineTotal := hstored.lineTotal
    exact hcolumn ▸ Int4.natAbs_le stored.lineTotal
  refine ⟨?_, ⟨cycle, price, hcycle, hprice, Subtype.ext hstored.unitPrice, Subtype.ext hstored.setupFee⟩, hquantity, ?_⟩
  · have hid : product.id = item.productId := Table.key_of_find hproduct
    rw [hstored.productId]
    exact congrArg some hid
  · rw [hstored.lineTotal, hstored.unitPrice, hstored.setupFee, ← hq']
    exact htotal

theorem ExactItem.exactLine (h : ExactItem s env tenantId currency clientGroupId item stored) :
    s.ExactLine env tenantId currency clientGroupId item stored.lineTotal.val := by
  obtain ⟨cycle, price, hcycle, hprice, hunit, hfee⟩ := h.price
  refine ⟨cycle, price, stored.quantity.val, hcycle, hprice, h.quantity, ?_⟩
  rw [h.lineTotal, hunit, hfee]

end Lines

section Orders

variable {A : Arithmetic} {s : Store} {env : Env} {actor : Actor} {input : CreateOrderInput} {client : Client}
  {rows : List OrderItemRow} {items : List OrderItem} {total value : Int4}

/-- An order of fewer than 2^21 items that fits is exact: its lines are, and they
are too few and too small for their sum to leave the exact range. -/
theorem Fits.exact (h : Fits A env actor input client s rows items total value) (hlen : input.items.length < 2 ^ 21) :
    ExactOrder s env actor input client (newOrder env actor input value total items) := by
  have hstored := storedItems_ok h.columns
  have hitems : List.Forall₂ (ExactItem s env actor.tenantId input.currency client.clientGroupId) input.items items := by
    refine (forall₂_comp h.lines hstored).imp ?_
    rintro item stored ⟨row, hline, hrow⟩
    exact exactItem_of_line hline hrow
  have htotals : rows.map OrderItemRow.lineTotal = items.map (fun item => item.lineTotal.val) :=
    map_eq_map_of_forall₂ hstored (fun _ _ hrow => hrow.lineTotal.symm)
  have hlength : items.length = input.items.length := hitems.length_eq.symm
  have hsum : total.val = (items.map (fun item => item.lineTotal.val)).sum := by
    have hbound : ∀ x ∈ items.map (fun item => item.lineTotal.val), x.natAbs ≤ 2 ^ 31 := by
      intro x hx
      obtain ⟨item, _, rfl⟩ := List.mem_map.mp hx
      exact Int4.natAbs_le item.lineTotal
    have hexact := @Arithmetic.sumFrom_of_bounded A _ 0 _ hbound (by rw [List.length_map]; omega)
    rw [zero_add] at hexact
    exact Number.integer.inj (h.sum.symm.trans (htotals ▸ hexact))
  exact ⟨hitems, hsum, hsum, rfl, rfl⟩

theorem ExactOrder.not_exceeds {order : Order} (h : ExactOrder s env actor input client order) :
    ¬s.Exceeds env actor input client := by
  rintro (⟨item, hitem, q, hq, hout⟩ | ⟨item, hitem, n, hn, hout⟩ | ⟨ns, hns, hout⟩)
  · obtain ⟨stored, _, hexact⟩ := exists_right_of_forall₂ h.items hitem
    have hq' : q = stored.quantity.val := Number.integer.inj (hq.symm.trans hexact.quantity)
    exact hout (hq' ▸ stored.quantity.property)
  · obtain ⟨stored, _, hexact⟩ := exists_right_of_forall₂ h.items hitem
    have hn' : n = stored.lineTotal.val := hn.unique hexact.exactLine
    exact hout (hn' ▸ stored.lineTotal.property)
  · have hsum : ns = order.items.map (fun item => item.lineTotal.val) := by
      have hmatch := forall₂_comp hns.flip h.items
      have hmap := map_eq_map_of_forall₂ hmatch (f := id) (g := fun item => item.lineTotal.val) (by
        rintro n stored ⟨item, hn, hexact⟩
        exact Store.ExactLine.unique hn hexact.exactLine)
      rw [← hmap, List.map_id]
    exact hout (hsum ▸ h.total ▸ order.total.property)

theorem exact_of_run (hlen : input.items.length < 2 ^ 21) {s' : Store} {order : Order}
    (h : (createOrderWith A env actor input).run s = (s', .ok order)) (hnew : order ∉ s.orders) :
    order ∈ s'.orders ∧ ∃ client, s.clients.find input.clientId = some client ∧
      ExactOrder s env actor input client order := by
  obtain ⟨c, hev⟩ := run_ok_iff.mp h
  cases hkey : s.orders.rows.find? (Order.hasKey actor.tenantId input.idempotencyKey) with
  | some existing =>
    obtain ⟨rfl, _⟩ := createOrderWith_existing hkey hev
    exact absurd (List.mem_of_find?_eq_some hkey) hnew
  | none =>
    obtain ⟨_, _, _, client, hclient, rows, items, total, value, hfits, rfl, rfl⟩ :=
      (eval_createOrderWith_iff hkey).mp hev
    refine ⟨?_, client, hclient, hfits.exact hlen⟩
    rw [placeOrder_orders]
    exact (Table.mem_insert (Relation.find_of_fresh hfits.fresh)).mpr (Or.inr rfl)

theorem throws_of_exceeds (hlen : input.items.length < 2 ^ 21)
    (hkey : s.orders.rows.find? (Order.hasKey actor.tenantId input.idempotencyKey) = none)
    (h : ∀ client, s.clients.find input.clientId = some client → s.Exceeds env actor input client) :
    ∃ e, (createOrderWith A env actor input).run s = (s, .error e) := by
  cases hev : (createOrderWith A env actor input).eval s s with
  | error x =>
    obtain ⟨e, c⟩ := x
    have hc : c = s := eval_error_of_atomic (atomic_createOrderWith A env actor input) hev
    exact ⟨e, run_error_iff.mpr (hc ▸ hev)⟩
  | ok r =>
    obtain ⟨order, c, s'⟩ := r
    obtain ⟨_, _, _, client, hclient, rows, items, total, value, hfits, _, _⟩ :=
      (eval_createOrderWith_iff hkey).mp hev
    exact absurd (h client hclient) (hfits.exact hlen).not_exceeds

/-- An order of fewer than 2^21 items that is committed is right in exact
integers, and where an exact amount does not fit its column the call throws and
changes nothing. -/
theorem order_amounts_exact (A : Arithmetic) (env : Env) (actor : Actor) (input : CreateOrderInput) (s : Store)
    (hlen : input.items.length < 2 ^ 21) :
    (∀ order s', (createOrderWith A env actor input).run s = (s', .ok order) → order ∉ s.orders →
      order ∈ s'.orders ∧ ∃ client, s.clients.find input.clientId = some client ∧
        ExactOrder s env actor input client order) ∧
    (s.orders.rows.find? (Order.hasKey actor.tenantId input.idempotencyKey) = none →
      (∀ client, s.clients.find input.clientId = some client → s.Exceeds env actor input client) →
        ∃ e, (createOrderWith A env actor input).run s = (s, .error e)) :=
  ⟨fun _ _ h hnew => exact_of_run hlen h hnew, fun hkey h => throws_of_exceeds hlen hkey h⟩

end Orders

/-- An order of two months is committed, and exact. -/
theorem order_amounts_exact_twoMonths :
    ∃ order s', (createOrderWith .double (Sample.env "a") (.staff Sample.staff) Sample.twoMonths).run (Sample.shop 0) =
        (s', .ok order) ∧ order ∈ s'.orders ∧ ∃ client, (Sample.shop 0).clients.find "client" = some client ∧
          ExactOrder (Sample.shop 0) (Sample.env "a") (.staff Sample.staff) Sample.twoMonths client order := by
  have hcompletes : (createOrderWith .double (Sample.env "a") (.staff Sample.staff) Sample.twoMonths).completes
      (Sample.shop 0) = true := by decide +kernel
  obtain ⟨s', order, hrun, _⟩ := returns_iff.mp hcompletes
  exact ⟨order, s', hrun, (order_amounts_exact .double _ _ _ _ (by decide)).1 order s' hrun (Table.not_mem_empty order)⟩

end HostPanel.Model
