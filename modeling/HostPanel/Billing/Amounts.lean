import HostPanel.Billing.Resubmission
import HostPanel.Model.Admin

namespace HostPanel.Model

open HostPanel.Lib HostPanel.Lib.Program

/-- No price, total or amount due is negative. -/
structure Store.NonNegative (s : Store) : Prop where
  prices : ∀ r ∈ s.productPrices, 0 ≤ r.price.val
  orders : ∀ o ∈ s.orders, 0 ≤ o.total.val
  totals : ∀ i ∈ s.invoices, 0 ≤ i.total.val
  dues : ∀ i ∈ s.invoices, 0 ≤ i.amountDue.val

def Store.FeesNonNegative (s : Store) : Prop := ∀ r ∈ s.productPrices, 0 ≤ r.setupFee.val

section Orders

variable {env : Env} {actor : Actor} {input : CreateOrderInput} {client : Client} {rows : List OrderItemRow}
  {s t : Store} {order : Order}

theorem OrderedLine.lineTotal_nonneg {tenantId : Id} {currency : String} {clientGroupId : Option Id}
    {item : CreateOrderItemInput} {row : OrderItemRow} (h : OrderedLine s env tenantId currency clientGroupId item row)
    (hs : s.NonNegative) (hfees : s.FeesNonNegative) (hquantity : ∀ q, item.quantity = .integer q → 0 ≤ q) :
    0 ≤ row.lineTotal := by
  obtain ⟨cycle, price, _, hprice, _, hunit, hfee⟩ := h.priced
  obtain ⟨q, gross, hq, hgross, hline⟩ := h.amount
  have hmem := (mem_currentPrice hprice).1
  rw [hunit] at hgross
  rw [hfee] at hline
  have hgross_nonneg : 0 ≤ gross :=
    Number.ofExact_nonneg (Int.mul_nonneg (hs.prices price hmem) (hquantity q hq)) hgross
  exact Number.ofExact_nonneg (Int.add_nonneg hgross_nonneg (hfees price hmem)) hline

theorem Placed.total_nonneg (h : Placed env actor input client rows s order t) (hs : s.NonNegative)
    (hfees : s.FeesNonNegative) (hquantities : ∀ item ∈ input.items, ∀ q, item.quantity = .integer q → 0 ≤ q) :
    0 ≤ order.total.val := by
  have htotal : order.total = order.subtotal := by rw [h.order_eq]
  rw [htotal]
  refine Number.sumFrom_nonneg (le_refl 0) (fun x hx => ?_) h.sum
  obtain ⟨row, hrow, rfl⟩ := List.mem_map.mp hx
  obtain ⟨item, hitem, hline⟩ := exists_left_of_forall₂ h.lines hrow
  exact hline.lineTotal_nonneg hs hfees (hquantities item hitem)

end Orders

/-- Nothing that amounts are made of is negative. -/
structure Store.Unsigned (s : Store) : Prop where
  amounts : s.NonNegative
  fees : s.FeesNonNegative

section Steps

variable {env : Env} {s t : Store}

theorem Store.Unsigned.of_rows (hs : s.Unsigned) (hprices : t.productPrices = s.productPrices)
    (horders : ∀ o ∈ t.orders, (∃ q ∈ s.orders, o.total = q.total) ∨ 0 ≤ o.total.val)
    (hinvoices : ∀ i ∈ t.invoices, i ∈ s.invoices ∨ (0 ≤ i.total.val ∧ 0 ≤ i.amountDue.val)) : t.Unsigned := by
  refine ⟨⟨fun r hr => ?_, fun o ho => ?_, fun i hi => ?_, fun i hi => ?_⟩, fun r hr => ?_⟩
  · exact hs.amounts.prices r (hprices ▸ hr)
  · obtain ⟨q, hq, he⟩ | hpos := horders o ho
    · rw [he]
      exact hs.amounts.orders q hq
    · exact hpos
  · exact (hinvoices i hi).elim (hs.amounts.totals i) And.left
  · exact (hinvoices i hi).elim (hs.amounts.dues i) And.right
  · exact hs.fees r (hprices ▸ hr)

theorem OrderStep.unsigned {target : Option Id} {toStatus : OrderStatus} {actor : TransitionActor}
    {reason : Option String} (h : OrderStep s target toStatus actor reason t) (hs : s.Unsigned) : t.Unsigned := by
  cases target with
  | none =>
    rw [show t = s from h]
    exact hs
  | some id =>
    obtain ⟨o, _, _, hrep, hinvoices⟩ := h.replaced
    obtain ⟨p, _, _, _, rfl⟩ := h
    refine hs.of_rows (moveOrder_productPrices s p toStatus actor reason) (fun q hq => Or.inl ?_)
      (fun i hi => Or.inl (hinvoices ▸ hi))
    obtain ⟨hq', _⟩ | rfl := (hrep.mem_iff q).mp hq
    · exact ⟨q, hq', rfl⟩
    · exact ⟨o, hrep.mem, rfl⟩

theorem Placed.unsigned {actor : Actor} {input : CreateOrderInput} {client : Client} {rows : List OrderItemRow}
    {order : Order} (h : Placed env actor input client rows s order t) (hs : s.Unsigned)
    (hquantities : ∀ item ∈ input.items, ∀ q, item.quantity = .integer q → 0 ≤ q) :
    t.Unsigned ∧ 0 ≤ order.total.val := by
  have htotal := h.total_nonneg hs.amounts hs.fees hquantities
  refine ⟨?_, htotal⟩
  obtain ⟨value, _, _, rfl⟩ := h.after
  refine hs.of_rows (placeOrder_productPrices s actor input order value) (fun o ho => ?_) (fun i hi => Or.inl ?_)
  · rw [placeOrder_orders] at ho
    obtain ho' | rfl := (Table.mem_insert (Relation.find_of_fresh h.fresh)).mp ho
    · exact Or.inl ⟨o, ho', rfl⟩
    · exact Or.inr htotal
  · rw [placeOrder_invoices] at hi
    exact hi

theorem unsigned_issueInvoiceForOrder (env : Env) {order : Order} (actor : TransitionActor) (hs : s.Unsigned)
    (htotal : 0 ≤ order.total.val) : ((issueInvoiceForOrder env order actor).after s).Unsigned := by
  obtain ⟨_, he⟩ | ⟨_, client, invoice, s', hi, he⟩ := issueInvoiceForOrder_after env order actor s
  · rw [he]
    exact hs
  · rw [he]
    obtain ⟨value, _, _, hstep⟩ := hi.after
    have hinvoice := hi.invoice_eq
    have hprices := issueInvoice_productPrices s order actor invoice value
    refine hstep.unsigned (hs.of_rows hprices (fun o ho => ?_) (fun i him => ?_))
    · rw [issueInvoice_orders] at ho
      exact Or.inl ⟨o, ho, rfl⟩
    · rw [issueInvoice_invoices] at him
      obtain him' | rfl := (Table.mem_insert (Relation.find_of_fresh hi.fresh)).mp him
      · exact Or.inl him'
      · rw [hinvoice]
        exact Or.inr ⟨htotal, htotal⟩

theorem unsigned_markInvoicePaidManually (env : Env) (actor : StaffActor) (invoiceId : Id) (input : PaymentInput)
    (hs : s.Unsigned) : ((markInvoicePaidManually env actor invoiceId input).after s).Unsigned := by
  refine inv_of_atomic (P := Store.Unsigned) (atomic_markInvoicePaidManually env actor invoiceId input) hs
    (fun updated c s' hev => ?_)
  obtain ⟨_, i, amount, paid, due, status, hp⟩ := markInvoicePaidManually_ok hev
  have hmem : i ∈ s.invoices := Table.mem_of_find hp.found
  have hrep := Table.replaced_modify hmem _ (Invoice.withPayment_id paid due status (Payment.paidAt env i status))
  refine hp.after.unsigned (hs.of_rows rfl (fun o ho => Or.inl ⟨o, ho, rfl⟩) (fun j hj => ?_))
  obtain ⟨hj', _⟩ | rfl := (hrep.mem_iff j).mp hj
  · exact Or.inl hj'
  · refine Or.inr ⟨hs.amounts.totals i hmem, ?_⟩
    have hdue := hp.payment.due_eq
    have hfits := hp.payment.fits
    change 0 ≤ due.val
    omega

theorem unsigned_placeOrderAction (env : Env) (actor : ClientPortalActor) (requestMeta : RequestMeta) (form : OrderForm)
    (hs : s.Unsigned) : (placeOrderAction env actor requestMeta form s).1.Unsigned := by
  by_cases hp : form.productId.getD "" = ""
  · rw [placeOrderAction_empty hp]
    exact hs
  rw [placeOrderAction_after env actor requestMeta s hp]
  have hquantities : ∀ item ∈ (form.input env actor requestMeta).items, ∀ q, item.quantity = .integer q → 0 ≤ q := by
    intro item hitem q hq
    rw [List.mem_singleton.mp hitem] at hq
    cases hq
    decide
  cases hk : s.orders.rows.find? (Order.hasKey actor.tenantId (form.key env)) with
  | some order =>
    rw [submitOrder_existing rfl (List.cons_ne_nil _ _) hk]
    exact unsigned_issueInvoiceForOrder _ _ hs (hs.amounts.orders order (List.mem_of_find?_eq_some hk))
  | none =>
    obtain ⟨_, he⟩ | ⟨_, client, rows, order, s', hplaced, he⟩ := submitOrder_new env (form.input env actor requestMeta) hk
    · rw [he]
      exact hs
    · rw [he]
      obtain ⟨hs', htotal⟩ := hplaced.unsigned hs hquantities
      exact unsigned_issueInvoiceForOrder _ _ hs' htotal

end Steps

/-- The product of the form is stored, and a price with it. -/
structure ProductForm.Priceable (form : ProductForm) (env : Env) (actor : StaffActor) (s : Store) : Prop where
  entered : trimmed form.monthlyPrice ≠ ""
  product : ProductAccepted env actor form.input s none none
  fresh : s.productPrices.find ((env.drawn 1).cuid 0) = none

/-- The form is complete, and this is the price that it stores. -/
structure ProductForm.Stores (form : ProductForm) (env : Env) (actor : StaffActor) (s : Store) (price : Int4) :
    Prop where
  filled : ¬ (form.input.productGroupId = "" ∨ form.input.name = "" ∨ form.input.slug = "")
  amount : parseUsdAmount (trimmed form.monthlyPrice) = .ok (.inr price.val)
  priceable : form.Priceable env actor s

section ProductForms

variable {env : Env} {actor : StaffActor} {form : ProductForm} {s : Store}

theorem ProductAccepted.defaults {stockLimit sortOrder : Option Int4}
    (h : ProductAccepted env actor form.input s stockLimit sortOrder) : stockLimit = none ∧ sortOrder = none :=
  ⟨(Except.ok.inj h.stockLimit_ok).symm, (Except.ok.inj h.sortOrder_ok).symm⟩

/-- The tables once the product of the form is stored. -/
def ProductForm.stored (form : ProductForm) (env : Env) (actor : StaffActor) (s : Store) : Store :=
  s.storeProduct env actor form.input none none

theorem priceAccepted_iff (h : ProductAccepted env actor form.input s none none) {amount : ℤ} {price fee : Int4} :
    PriceAccepted (env.drawn 1) actor (monthlyPriceInput (env.cuid 0) amount) (form.stored env actor s) price fee ↔
      amount = price.val ∧ fee = 0 ∧ s.productPrices.find ((env.drawn 1).cuid 0) = none := by
  have hproducts : (form.stored env actor s).products =
      s.products.insert (newProduct env actor form.input none none) := rfl
  constructor
  · intro ha
    refine ⟨Option.some.inj ha.price_ok, ?_, ha.fresh⟩
    exact Subtype.ext (Option.some.inj ha.setupFee_ok).symm
  · rintro ⟨rfl, rfl, hfresh⟩
    refine ⟨h.permitted, rfl, rfl, hfresh, h.tenant, ?_, rfl⟩
    rw [hproducts]
    have hnew : s.products.find (newProduct env actor form.input none none).id = none := Relation.find_of_fresh h.fresh
    change ((s.products.insert (newProduct env actor form.input none none)).find
      (newProduct env actor form.input none none).id).isSome = true
    rw [Table.find_insert_self hnew]
    rfl

/-- Storing a product, and its price where the form has one. -/
theorem submitProduct_after (env : Env) (actor : StaffActor) (form : ProductForm) (amount : ℤ) (s : Store) :
    (form.Priceable env actor s ∧ ∃ price : Int4, amount = price.val ∧ (submitProduct env actor form amount).after s =
      (form.stored env actor s).storePrice (env.drawn 1) actor (monthlyPriceInput (env.cuid 0) amount) price 0) ∨
    ((form.Priceable env actor s → ∀ price : Int4, amount ≠ price.val) ∧
      ((submitProduct env actor form amount).after s = s ∨
        (submitProduct env actor form amount).after s = form.stored env actor s)) := by
  cases hproduct : (createProduct env actor form.input).eval s s with
  | error x =>
    obtain ⟨e, c⟩ := x
    have hc : c = s := eval_error_of_atomic (atomic_createProduct env actor form.input) hproduct
    refine Or.inr ⟨fun h => ?_, Or.inl ?_⟩
    · have hok := createProduct_ok_iff.mpr ⟨none, none, h.product, rfl, rfl, rfl⟩
      rw [hproduct] at hok
      cases hok
    · rw [submitProduct, after_bind_error hproduct, hc]
  | ok r =>
    obtain ⟨product, c, s'⟩ := r
    obtain ⟨stockLimit, sortOrder, ha, rfl, rfl, rfl⟩ := createProduct_ok_iff.mp hproduct
    obtain ⟨rfl, rfl⟩ := ha.defaults
    rw [submitProduct, after_bind_ok hproduct]
    by_cases hentered : trimmed form.monthlyPrice = ""
    · rw [if_pos hentered]
      exact Or.inr ⟨fun h => absurd hentered h.entered, Or.inr rfl⟩
    rw [if_neg hentered]
    have hprice : ((setProductPrice (env.drawn 1) actor (monthlyPriceInput (env.cuid 0) amount) >>=
        fun _ => (.ret () : Db Unit)).after (form.stored env actor s)) =
        (setProductPrice (env.drawn 1) actor (monthlyPriceInput (env.cuid 0) amount)).after (form.stored env actor s) :=
      after_bind_ret _ _ _
    cases hev : (setProductPrice (env.drawn 1) actor (monthlyPriceInput (env.cuid 0) amount)).eval
        (form.stored env actor s) (form.stored env actor s) with
    | error x =>
      obtain ⟨e, c⟩ := x
      have hc : c = form.stored env actor s := eval_error_of_atomic (atomic_setProductPrice _ _ _) hev
      refine Or.inr ⟨fun h price he => ?_, Or.inr (hprice.trans ?_)⟩
      · have hok := setProductPrice_ok_iff.mpr ⟨price, 0, (priceAccepted_iff ha).mpr ⟨he, rfl, h.fresh⟩, rfl, rfl, rfl⟩
        rw [hev] at hok
        cases hok
      · rw [after, run, hev, hc]
    | ok r =>
      obtain ⟨row, c, s'⟩ := r
      obtain ⟨price, fee, haccepted, _, rfl, rfl⟩ := setProductPrice_ok_iff.mp hev
      obtain ⟨he, rfl, hfresh⟩ := (priceAccepted_iff ha).mp haccepted
      refine Or.inl ⟨⟨hentered, ha, hfresh⟩, price, he, hprice.trans ?_⟩
      rw [after, run, hev]

/-- A form stores a product with a price, or no price. -/
theorem createProductAction_after (env : Env) (actor : StaffActor) (form : ProductForm) (s : Store) :
    (∃ price, form.Stores env actor s price ∧ (createProductAction env actor form s).1 =
      (form.stored env actor s).storePrice (env.drawn 1) actor (monthlyPriceInput (env.cuid 0) price.val) price 0) ∨
    ((∀ price, ¬ form.Stores env actor s price) ∧
      ((createProductAction env actor form s).1 = s ∨
        (createProductAction env actor form s).1 = form.stored env actor s)) := by
  unfold createProductAction
  by_cases hfilled : form.input.productGroupId = "" ∨ form.input.name = "" ∨ form.input.slug = ""
  · rw [if_pos hfilled]
    exact Or.inr ⟨fun price h => h.filled hfilled, Or.inl rfl⟩
  rw [if_neg hfilled]
  by_cases hentered : trimmed form.monthlyPrice = ""
  · rw [if_pos hentered]
    obtain ⟨h, _⟩ | ⟨_, hsame⟩ := submitProduct_after env actor form 0 s
    · exact absurd hentered h.entered
    · exact Or.inr ⟨fun price h => h.priceable.entered hentered, hsame⟩
  rw [if_neg hentered]
  cases hparsed : parseUsdAmount (trimmed form.monthlyPrice) with
  | error e =>
    refine Or.inr ⟨fun price h => ?_, Or.inl rfl⟩
    cases hparsed.symm.trans h.amount
  | ok parsed =>
    cases parsed with
    | inl message =>
      refine Or.inr ⟨fun price h => ?_, Or.inl rfl⟩
      cases hparsed.symm.trans h.amount
    | inr amount =>
      obtain ⟨hpriceable, price, rfl, hafter⟩ | ⟨hnot, hsame⟩ := submitProduct_after env actor form amount s
      · exact Or.inl ⟨price, ⟨hfilled, hparsed, hpriceable⟩, hafter⟩
      · refine Or.inr ⟨fun price h => ?_, hsame⟩
        have he := hparsed.symm.trans h.amount
        cases he
        exact hnot h.priceable price rfl

end ProductForms

section Prices

variable {env : Env} {actor : StaffActor} {input : SetProductPriceInput} {s : Store} {price fee : Int4}

theorem amounts_closePrice (previous : Option ProductPrice) (stop : DateTime) {q : ProductPrice}
    (hq : q ∈ (s.closePrice previous stop).productPrices) :
    ∃ r ∈ s.productPrices, q.price = r.price ∧ q.setupFee = r.setupFee := by
  cases previous with
  | none => exact ⟨q, hq, rfl, rfl⟩
  | some p =>
    have hid : ∀ r : ProductPrice, ({ r with effectiveTo := some stop } : ProductPrice).id = r.id := fun _ => rfl
    obtain ⟨hold, _⟩ | ⟨r, hr, _, rfl⟩ := (@Table.mem_modify _ _ _ _ s.productPrices p.id _ hid q).mp hq
    · exact ⟨q, hold, rfl, rfl⟩
    · exact ⟨r, hr, rfl, rfl⟩

theorem sales_storePrice (s : Store) (env : Env) (actor : StaffActor) (input : SetProductPriceInput)
    (price fee : Int4) : (s.storePrice env actor input price fee).sales = s.sales := by
  unfold Store.storePrice Store.closePrice
  cases s.previousPrice env actor input <;> rfl

/-- A new price is all that a stored price can make negative. -/
theorem nonNegative_storePrice_iff (hfresh : s.productPrices.find (env.cuid 0) = none) (hs : s.NonNegative) :
    (s.storePrice env actor input price fee).NonNegative ↔ 0 ≤ price.val := by
  have hsales := sales_storePrice s env actor input price fee
  have horders : (s.storePrice env actor input price fee).orders = s.orders := congrArg Prod.fst hsales
  have hinvoices : (s.storePrice env actor input price fee).invoices = s.invoices := congrArg Prod.snd hsales
  have hnew : (s.closePrice (s.previousPrice env actor input) (input.start env)).productPrices.find
      (newPrice env actor input price fee).id = none := (find_closePrice s _ _ (env.cuid 0)).mpr hfresh
  have hmem : ∀ q, q ∈ (s.storePrice env actor input price fee).productPrices ↔
      q ∈ (s.closePrice (s.previousPrice env actor input) (input.start env)).productPrices ∨
        q = newPrice env actor input price fee := fun q => Table.mem_insert hnew
  constructor
  · exact fun h => h.prices _ ((hmem _).mpr (Or.inr rfl))
  · intro hprice
    refine ⟨fun q hq => ?_, fun o ho => hs.orders o (horders ▸ ho), fun i hi => hs.totals i (hinvoices ▸ hi),
      fun i hi => hs.dues i (hinvoices ▸ hi)⟩
    obtain hold | rfl := (hmem q).mp hq
    · obtain ⟨r, hr, he, _⟩ := amounts_closePrice _ _ hold
      rw [he]
      exact hs.prices r hr
    · exact hprice

theorem feesNonNegative_storePrice (hs : s.FeesNonNegative) (hfee : 0 ≤ fee.val) :
    (s.storePrice env actor input price fee).FeesNonNegative := by
  intro q hq
  obtain hold | rfl := Table.of_mem_insert hq
  · obtain ⟨r, hr, _, he⟩ := amounts_closePrice _ _ hold
    rw [he]
    exact hs r hr
  · exact hfee

end Prices

/-- A form that staff or a client submit. -/
inductive ServerAction where
  | createProduct (env : Env) (actor : StaffActor) (form : ProductForm)
  | placeOrder (env : Env) (actor : ClientPortalActor) (requestMeta : RequestMeta) (form : OrderForm)
  | markInvoicePaid (env : Env) (actor : StaffActor) (form : PaymentForm)

def ServerAction.after (s : Store) : ServerAction → Store
  | createProduct env actor form => (createProductAction env actor form s).1
  | placeOrder env actor requestMeta form => (placeOrderAction env actor requestMeta form s).1
  | markInvoicePaid env actor form => (markInvoicePaidAction env actor form s).1

/-- No product form stores a price that is written with a sign, but for a signed
zero. -/
def ServerAction.KeepsNonNegative (s : Store) : ServerAction → Prop
  | createProduct env actor form =>
    ∀ price, form.Stores env actor s price → (trimmed form.monthlyPrice).toList.head? = some '-' → price.val = 0
  | _ => True

section Actions

variable {s : Store}

theorem unsigned_markInvoicePaidAction (env : Env) (actor : StaffActor) (form : PaymentForm) (hs : s.Unsigned) :
    (markInvoicePaidAction env actor form s).1.Unsigned := by
  unfold markInvoicePaidAction
  split
  · exact hs
  · split
    · exact hs
    · exact hs
    · exact unsigned_markInvoicePaidManually env actor _ _ hs

theorem ServerAction.feesNonNegative (action : ServerAction) (hs : s.Unsigned) : (action.after s).FeesNonNegative := by
  cases action with
  | createProduct env actor form =>
    change (createProductAction env actor form s).1.FeesNonNegative
    obtain ⟨price, _, he⟩ | ⟨_, he | he⟩ := createProductAction_after env actor form s
    · rw [he]
      exact feesNonNegative_storePrice (s := form.stored env actor s) hs.fees (le_refl 0)
    · rw [he]
      exact hs.fees
    · rw [he]
      exact hs.fees
  | placeOrder env actor requestMeta form => exact (unsigned_placeOrderAction env actor requestMeta form hs).fees
  | markInvoicePaid env actor form => exact (unsigned_markInvoicePaidAction env actor form hs).fees

theorem nonNegative_stored (form : ProductForm) (env : Env) (actor : StaffActor) (hs : s.NonNegative) :
    (form.stored env actor s).NonNegative := ⟨hs.prices, hs.orders, hs.totals, hs.dues⟩

theorem ServerAction.nonNegative_iff (action : ServerAction) (hs : s.Unsigned) :
    (action.after s).NonNegative ↔ action.KeepsNonNegative s := by
  cases action with
  | createProduct env actor form =>
    change (createProductAction env actor form s).1.NonNegative ↔ _
    obtain ⟨price, hstores, he⟩ | ⟨hnone, he⟩ := createProductAction_after env actor form s
    · rw [he, nonNegative_storePrice_iff (s := form.stored env actor s) hstores.priceable.fresh
        (nonNegative_stored form env actor hs.amounts), parseUsdAmount_nonneg_iff hstores.amount]
      constructor
      · intro hprice price' h' hsign
        have hsame := hstores.amount.symm.trans h'.amount
        rw [← Subtype.ext (Sum.inr.inj (Except.ok.inj hsame))]
        exact hprice hsign
      · exact fun h => h price hstores
    · refine iff_of_true ?_ (fun price h => absurd h (hnone price))
      obtain he | he := he
      · rw [he]
        exact hs.amounts
      · rw [he]
        exact nonNegative_stored form env actor hs.amounts
  | placeOrder env actor requestMeta form =>
    exact iff_of_true (unsigned_placeOrderAction env actor requestMeta form hs).amounts trivial
  | markInvoicePaid env actor form =>
    exact iff_of_true (unsigned_markInvoicePaidAction env actor form hs).amounts trivial

/-- Along every run of the forms nothing becomes negative just when no product
form stores a price with a sign. -/
theorem books_nonNegative_iff (s₀ : Store) (hs : s₀.NonNegative) (hfees : s₀.FeesNonNegative)
    (actions : List ServerAction) :
    (∀ before, before <+: actions → (runFrom ServerAction.after s₀ before).NonNegative) ↔
      AlongRun ServerAction.after (fun s action => action.KeepsNonNegative s) s₀ actions := by
  have hinv : ∀ (s : Store) (action : ServerAction), s.FeesNonNegative → True → s.NonNegative →
      (action.after s).FeesNonNegative := fun _ action hfees _ hs => action.feesNonNegative ⟨hs, hfees⟩
  have hstep : ∀ (s : Store) (action : ServerAction), s.FeesNonNegative → True → s.NonNegative →
      ((action.after s).NonNegative ↔ action.KeepsNonNegative s) :=
    fun _ action hfees _ hs => action.nonNegative_iff ⟨hs, hfees⟩
  exact forall_prefix_iff_alongRun hinv hstep hfees hs (alongRun_of_forall (fun _ _ => trivial) s₀ actions)

end Actions

namespace Sample

/-- A client, and a group to put products in. -/
def catalog : Store :=
  { vacant with
    clients := (∅ : Table Client.id).insert client
    productGroups := (∅ : Table ProductGroup.id).insert hosting }

def starterAt (monthlyPrice : String) : ServerAction :=
  .createProduct (env "p") staff
    { productGroupId := some "hosting", name := some "Starter", slug := some "starter", description := none
      monthlyPrice := some monthlyPrice }

/-- A product at a monthly price, and an order for it. -/
def starterSold (monthlyPrice : String) : List ServerAction :=
  [starterAt monthlyPrice,
    .placeOrder (env "o") contact browser { form with productId := some "id-p0" }]

theorem catalog_nonNegative : catalog.NonNegative :=
  ⟨fun _ h => absurd h List.not_mem_nil, fun _ h => absurd h List.not_mem_nil, fun _ h => absurd h List.not_mem_nil,
    fun _ h => absurd h List.not_mem_nil⟩

theorem catalog_feesNonNegative : catalog.FeesNonNegative := fun _ h => absurd h List.not_mem_nil

end Sample

open Sample in
/-- A product for -5 dollars: the order and its invoice are for -500 cents. -/
theorem negative_price_billed :
    let sold := runFrom ServerAction.after catalog (starterSold "-5")
    catalog.NonNegative ∧ catalog.FeesNonNegative ∧
      sold.productPrices.rows.map (fun r => (r.id, r.price.val)) = [("id-p1", -500)] ∧
      sold.orders.rows.map (fun o => (o.id, o.total.val)) = [("id-o0", -500)] ∧
      sold.invoices.rows.map (fun i => (i.id, i.total.val, i.amountDue.val)) = [("id-o2", -500, -500)] ∧
      ¬ sold.NonNegative := by
  intro sold
  have hprices : sold.productPrices.rows.map (fun r => (r.id, r.price.val)) = [("id-p1", -500)] := by decide +kernel
  refine ⟨catalog_nonNegative, catalog_feesNonNegative, hprices, by decide +kernel, by decide +kernel, fun h => ?_⟩
  have hnegative : ("id-p1", (-500 : ℤ)) ∈ sold.productPrices.rows.map (fun r => (r.id, r.price.val)) := by
    rw [hprices]
    exact List.mem_singleton_self _
  obtain ⟨r, hr, he⟩ := List.mem_map.mp hnegative
  have hprice := h.prices r hr
  rw [(Prod.mk.inj he).2] at hprice
  exact absurd hprice (by decide)

open Sample in
theorem books_nonNegative_iff_starter :
    (∀ before, before <+: starterSold "19.99" → (runFrom ServerAction.after catalog before).NonNegative) ∧
      (runFrom ServerAction.after catalog (starterSold "19.99")).invoices.rows.map (fun i => i.amountDue.val) =
        [1999] := by
  refine ⟨(books_nonNegative_iff catalog catalog_nonNegative catalog_feesNonNegative (starterSold "19.99")).mpr ?_,
    by decide +kernel⟩
  have hunsigned : (trimmed (some "19.99")).toList.head? ≠ some '-' := by decide
  exact ⟨fun price _ hsign => absurd hsign hunsigned, trivial, trivial⟩

end HostPanel.Model
