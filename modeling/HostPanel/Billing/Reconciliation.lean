import HostPanel.Lib.Matching
import HostPanel.Model.Actions

namespace HostPanel.Model

open HostPanel.Lib HostPanel.Lib.Program

/-- The lines of an invoice add up to its totals, and each charges what the
order item it names charges. -/
structure Invoice.Reconciles (invoice : Invoice) (order : Order) : Prop where
  subtotal : (invoice.items.map (fun line => line.lineTotal.val)).sum = invoice.subtotal.val
  total : (invoice.items.map (fun line => line.lineTotal.val)).sum = invoice.total.val
  lines : ∀ line ∈ invoice.items, ∃ item ∈ order.items, line.sourceOrderItemId = some item.id ∧
    line.lineTotal = item.lineTotal

namespace CreateOrderInput

variable (input : CreateOrderInput) (s : Store) (env : Env) (tenantId : Id)

/-- The price row in effect for a requested item. -/
def price (item : CreateOrderItemInput) : Option ProductPrice :=
  (BillingCycle.ofName? item.billingCycle).bind (fun cycle =>
    s.currentPrice env tenantId item.productId input.currency cycle
      ((s.clients.find input.clientId).bind Client.clientGroupId))

/-- What an item costs: its price times its quantity, and the setup fee. -/
def amount (item : CreateOrderItemInput) : ℤ :=
  match input.price s env tenantId item, item.quantity with
  | some price, .integer quantity => price.price.val * quantity + price.setupFee.val
  | _, _ => 0

/-- The request asks for nothing with a setup fee, and its amounts add up
exactly as JavaScript numbers. -/
structure Plain : Prop where
  noSetupFee : ∀ item ∈ input.items, ∀ price, input.price s env tenantId item = some price → price.setupFee.val = 0
  addsUp : Number.sumFrom 0 (input.items.map (input.amount s env tenantId)) =
    .integer (input.items.map (input.amount s env tenantId)).sum

end CreateOrderInput

/-- A requested item, the price found for it and the item row stored for it. -/
structure PricedItem (input : CreateOrderInput) (s : Store) (env : Env) (tenantId : Id)
    (item : CreateOrderItemInput) (stored : OrderItem) : Prop where
  priced : ∃ price, input.price s env tenantId item = some price ∧ stored.setupFeeSnapshot = price.setupFee
  lineTotal : stored.lineTotal.val = input.amount s env tenantId item

theorem lineTotal_exact {unit fee lineTotal : Int4} {quantity gross : ℤ}
    (hmul : Number.mul unit.val quantity = .integer gross) (hadd : Number.add gross fee.val = .integer lineTotal.val) :
    lineTotal.val = unit.val * quantity + fee.val := by
  have hl := Int4.natAbs_le lineTotal
  have hf := Int4.natAbs_le fee
  have hsum : lineTotal.val = gross + fee.val := Number.eq_of_ofExact hadd (by omega)
  have hgross : gross = unit.val * quantity := Number.eq_of_ofExact hmul (by omega)
  rw [hsum, hgross]

section Placed

variable {env : Env} {actor : Actor} {input : CreateOrderInput} {client : Client} {rows : List OrderItemRow}
  {s s' : Store} {order : Order}

theorem Placed.pricedItems (h : Placed env actor input client rows s order s') :
    List.Forall₂ (PricedItem input s env actor.tenantId) input.items order.items := by
  refine (forall₂_comp h.lines h.items).imp ?_
  rintro item stored ⟨row, hline, hstored⟩
  obtain ⟨cycle, price, hcycle, hprice, _, hunit, hfee⟩ := hline.priced
  obtain ⟨quantity, gross, hq, hmul, hadd⟩ := hline.amount
  have hfound : input.price s env actor.tenantId item = some price := by
    rw [CreateOrderInput.price, hcycle, h.client_found, Option.bind_some, Option.bind_some]
    exact hprice
  refine ⟨⟨price, hfound, Subtype.ext (hstored.setupFee.trans hfee)⟩, ?_⟩
  rw [hunit] at hmul
  rw [hfee, ← hstored.lineTotal] at hadd
  rw [CreateOrderInput.amount, hfound, hq]
  exact lineTotal_exact hmul hadd

theorem Placed.lineTotals (h : Placed env actor input client rows s order s') :
    order.items.map (fun item => item.lineTotal.val) = input.items.map (input.amount s env actor.tenantId) :=
  (map_eq_map_of_forall₂ h.pricedItems (fun _ _ hp => hp.lineTotal.symm)).symm

theorem Placed.noSetupFee_iff (h : Placed env actor input client rows s order s') :
    (∀ item ∈ input.items, ∀ price, input.price s env actor.tenantId item = some price → price.setupFee.val = 0) ↔
      ∀ stored ∈ order.items, stored.setupFeeSnapshot.val = 0 := by
  refine forall_mem_iff_of_forall₂ h.pricedItems ?_
  rintro item stored ⟨⟨price, hprice, hfee⟩, _⟩
  rw [hprice, hfee]
  constructor
  · exact fun hall => hall price rfl
  · rintro hz other he
    cases he
    exact hz

theorem Placed.running (h : Placed env actor input client rows s order s') :
    Number.sumFrom 0 (input.items.map (input.amount s env actor.tenantId)) = .integer order.subtotal.val := by
  have hrows : rows.map OrderItemRow.lineTotal = order.items.map (fun item => item.lineTotal.val) :=
    map_eq_map_of_forall₂ h.items (fun _ _ hs => hs.lineTotal.symm)
  rw [← h.lineTotals, ← hrows]
  exact h.sum

theorem Placed.item_ids (h : Placed env actor input client rows s order s') :
    (order.items.map OrderItem.id).Nodup := by
  have hkeys : (order.items.map (fun i => Lock.orderItem i.id)).Nodup :=
    ((List.nodup_append.mp (List.nodup_cons.mp (List.nodup_cons.mp h.fresh.1).2).2).2).1
  have hmap : order.items.map (fun i => Lock.orderItem i.id) = (order.items.map OrderItem.id).map Lock.orderItem := by
    rw [List.map_map]
    rfl
  rw [hmap] at hkeys
  exact hkeys.of_map

theorem Placed.addsUp (h : Placed env actor input client rows s order s') (hlen : input.items.length ≤ 2 ^ 22) :
    Number.sumFrom 0 (input.items.map (input.amount s env actor.tenantId)) =
      .integer (input.items.map (input.amount s env actor.tenantId)).sum := by
  have hbound : ∀ x ∈ input.items.map (input.amount s env actor.tenantId), x.natAbs ≤ 2 ^ 31 := by
    rw [← h.lineTotals]
    intro x hx
    obtain ⟨item, _, rfl⟩ := List.mem_map.mp hx
    exact Int4.natAbs_le item.lineTotal
  have hsize : (0 : ℤ).natAbs + (input.items.map (input.amount s env actor.tenantId)).length * 2 ^ 31 ≤ 2 ^ 53 := by
    rw [List.length_map]
    omega
  rw [Number.sumFrom_of_bounded hbound hsize, zero_add]

/-- An invoice charges every item of its order the setup fee once more. -/
theorem reconciles_iff_of_placed (h : Placed env actor input client rows s order s') (copy : Order)
    {invoice : Invoice} (hcopy : copy.items = order.items) (hsub : invoice.subtotal = order.subtotal)
    (htot : invoice.total = order.subtotal)
    (hlines : List.Forall₂ (InvoicedItem copy) copy.items invoice.items) :
    invoice.Reconciles order ↔ input.Plain s env actor.tenantId := by
  rw [hcopy] at hlines
  have hfee : (∀ stored ∈ order.items, stored.setupFeeSnapshot.val = 0) →
      invoice.items.map (fun line => line.lineTotal.val) = order.items.map (fun item => item.lineTotal.val) := by
    intro hz
    have hboth : List.Forall₂ (fun item line => item.setupFeeSnapshot.val = 0 ∧ InvoicedItem copy item line)
        order.items invoice.items := (List.forall₂_and_left _ _).mpr ⟨hz, hlines⟩
    refine (map_eq_map_of_forall₂ hboth ?_).symm
    rintro item line ⟨hzero, hline⟩
    rw [hline.lineTotal, hzero, add_zero]
  constructor
  · intro hr
    have hzero : ∀ stored ∈ order.items, stored.setupFeeSnapshot.val = 0 := by
      intro stored hstored
      obtain ⟨line, hline, hinv⟩ := exists_right_of_forall₂ hlines hstored
      obtain ⟨item, hitem, hsource, htotal⟩ := hr.lines line hline
      have hid : item.id = stored.id := Option.some.inj (hsource.symm.trans hinv.source)
      have he : item = stored := List.inj_on_of_nodup_map h.item_ids hitem hstored hid
      have hval := hinv.lineTotal
      rw [htotal, he] at hval
      omega
    refine ⟨h.noSetupFee_iff.mpr hzero, ?_⟩
    have hsum := hr.subtotal
    rw [hfee hzero, h.lineTotals, hsub] at hsum
    rw [hsum]
    exact h.running
  · intro hp
    have hzero := h.noSetupFee_iff.mp hp.noSetupFee
    have hsum : (invoice.items.map (fun line => line.lineTotal.val)).sum = order.subtotal.val := by
      rw [hfee hzero, h.lineTotals]
      exact Number.integer.inj (hp.addsUp.symm.trans h.running)
    refine ⟨by rw [hsub]; exact hsum, by rw [htot]; exact hsum, ?_⟩
    intro line hline
    obtain ⟨item, hitem, hinv⟩ := exists_left_of_forall₂ hlines hline
    refine ⟨item, hitem, hinv.source, Subtype.ext ?_⟩
    rw [hinv.lineTotal, hzero item hitem, add_zero]

end Placed

/-- The invoice of an order reconciles exactly when the request was plain. -/
theorem invoice_reconciles_iff {env env' : Env} {actor : Actor} {input : CreateOrderInput} {biller : TransitionActor}
    {s s' t t' : Store} {order : Order} {status : OrderStatus} {invoice : Invoice}
    (hnew : s.orders.rows.find? (Order.hasKey actor.tenantId input.idempotencyKey) = none)
    (hcreate : (createOrder env actor input).run s = (s', .ok order))
    (hissue : (issueInvoiceForOrder env' { order with status := status } biller).run t = (t', .ok invoice)) :
    invoice.Reconciles order ↔ input.Plain s env actor.tenantId := by
  obtain ⟨c, hev⟩ := run_ok_iff.mp hcreate
  obtain ⟨c', hev'⟩ := run_ok_iff.mp hissue
  obtain ⟨_, client, hi⟩ := issueInvoiceForOrder_ok hev'
  obtain ⟨_, ⟨hfound, _⟩ | ⟨_, payer, rows, hp⟩⟩ := createOrder_ok hev
  · exact absurd (hnew.symm.trans hfound) (by simp)
  · have he := hi.invoice_eq
    refine reconciles_iff_of_placed hp { order with status := status } rfl (by rw [he]; rfl) ?_ hi.items
    have htotal : order.total = order.subtotal := by rw [hp.order_eq]
    rw [he]
    exact htotal

open Sample in
/-- Two months at 1000 with a setup fee of 500 are 2500, and billed as 3000. -/
theorem setup_fee_billed_twice : ∃ s' order t' invoice,
    (shop ⟨500, by decide⟩).orders.rows.find? (Order.hasKey (Actor.staff staff).tenantId twoMonths.idempotencyKey) = none ∧
      (createOrder (env "order") (.staff staff) twoMonths).run (shop ⟨500, by decide⟩) = (s', .ok order) ∧
      (issueInvoiceForOrder (env "invoice") order staff.transitionActor).run s' = (t', .ok invoice) ∧
      invoice.subtotal.val = 2500 ∧ (invoice.items.map (fun line => line.lineTotal.val)).sum = 3000 ∧
      ¬ invoice.Reconciles order := by
  have hrun : (createOrder (env "order") (.staff staff) twoMonths).returns (shop ⟨500, by decide⟩) (fun s' order =>
      (issueInvoiceForOrder (env "invoice") order staff.transitionActor).returns s' (fun _ invoice =>
        decide (invoice.subtotal.val = 2500 ∧ (invoice.items.map (fun line => line.lineTotal.val)).sum = 3000))) =
      true := by decide +kernel
  obtain ⟨s', order, hcreate, hrest⟩ := returns_iff.mp hrun
  obtain ⟨t', invoice, hissue, hsums⟩ := returns_iff.mp hrest
  obtain ⟨hsub, hsum⟩ := of_decide_eq_true hsums
  refine ⟨s', order, t', invoice, rfl, hcreate, hissue, hsub, hsum, fun hr => ?_⟩
  have hsame := hr.subtotal
  rw [hsum, hsub] at hsame
  exact absurd hsame (by decide)

open Sample in
theorem invoice_reconciles_iff_twoMonths : ∃ s' order t' invoice,
    (createOrder (env "order") (.staff staff) twoMonths).run (shop 0) = (s', .ok order) ∧
      (issueInvoiceForOrder (env "invoice") { order with status := .pending } staff.transitionActor).run s' =
        (t', .ok invoice) ∧
      (invoice.Reconciles order ↔ twoMonths.Plain (shop 0) (env "order") "tenant") := by
  have hrun : (createOrder (env "order") (.staff staff) twoMonths).returns (shop 0) (fun s' order =>
      (issueInvoiceForOrder (env "invoice") { order with status := .pending } staff.transitionActor).returns s'
        (fun _ _ => true)) = true := by decide +kernel
  obtain ⟨s', order, hcreate, hrest⟩ := returns_iff.mp hrun
  obtain ⟨t', invoice, hissue, _⟩ := returns_iff.mp hrest
  exact ⟨s', order, t', invoice, hcreate, hissue, invoice_reconciles_iff rfl hcreate hissue⟩

end HostPanel.Model
