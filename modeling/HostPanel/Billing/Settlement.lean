import HostPanel.Billing.Resubmission

namespace HostPanel.Model

open HostPanel.Lib HostPanel.Lib.Program

/-- The invoice waits for money. -/
def Invoice.IsOpen (i : Invoice) : Prop := i.status ∈ [InvoiceStatus.issued, .partiallyPaid]

instance (i : Invoice) : Decidable i.IsOpen := inferInstanceAs (Decidable (_ ∈ _))

theorem Invoice.IsOpen.payable {i : Invoice} (h : i.IsOpen) : i.status ∈ payableStatuses := by
  revert h
  unfold IsOpen
  cases i.status <;> decide

theorem Invoice.IsOpen.ne_paid {i : Invoice} (h : i.IsOpen) : i.status ≠ .paid := ne_paid_of_payable h.payable

/-- A payment of what is due goes through and leaves the invoice and its order paid. -/
def Invoice.Settles (env : Env) (actor : StaffActor) (s : Store) (i : Invoice) : Prop :=
  ∀ input : PaymentInput, input.amount = .integer i.amountDue.val →
    ∃ s' updated, (markInvoicePaidManually env actor i.id input).run s = (s', .ok updated) ∧
      updated.status = .paid ∧ updated.amountDue.val = 0 ∧ s'.invoices.find i.id = some updated ∧
      ∃ o, i.orderId = some o.id ∧ s'.orders.find o.id = some o ∧ o.status = .paid

/-- Every open invoice settles. -/
def Store.Collectible (env : Env) (actor : StaffActor) (s : Store) : Prop :=
  ∀ i ∈ s.invoices, i.IsOpen → i.Settles env actor s

/-- The currency of every order is a code. -/
def Store.Coded (s : Store) : Prop := ∀ o ∈ s.orders, isCurrencyCode o.currency = true

/-- Orders and invoices are of tenants that exist. -/
structure Store.SalesHoused (s : Store) : Prop where
  orders : ∀ o ∈ s.orders, s.hasTenant o.tenantId = true
  invoices : ∀ i ∈ s.invoices, s.hasTenant i.tenantId = true

/-- What holds of all tables reached. -/
structure Selling (s : Store) (seen : List Order) : Prop where
  agree : s.Agree seen
  housed : s.SalesHoused
  ledger : s.books.Ledger
  coded : s.Coded

/-- Something is due and no invoice of the order is paid yet. -/
def Invoice.Outstanding (s : Store) (i : Invoice) : Prop :=
  0 < i.amountDue.val ∧ ∀ j ∈ s.invoices, j.orderId = i.orderId → j.status ≠ .paid

section Payments

variable {env : Env} {actor : StaffActor} {s : Store} {seen : List Order} {i : Invoice}

theorem Payment.settles {b : Books} {paid due : Int4} {status : InvoiceStatus} (hb : b.Balanced i)
    (h : Payment i i.amountDue.val paid due status) : due.val = 0 ∧ status = .paid := by
  have hpaid := h.paid_eq
  have hdue := h.due_eq
  have hbalance := hb.due
  have hzero : due.val = 0 := by omega
  exact ⟨hzero, by rw [h.status_eq, if_pos hzero]⟩

theorem Selling.named (h : Selling s seen) {o : Order} (ho : o ∈ s.orders) (hbills : i.Bills o) :
    i.orderId.filter (fun id => id != "") = some o.id := by
  rw [hbills.orderId, Option.filter_some, if_pos (by simpa using h.agree.named o ho)]

theorem Selling.unpaid_of_step (h : Selling s seen) (hi : i ∈ s.invoices) {t t' : Store} (ht : t.orders = s.orders)
    {a : TransitionActor} {reason : Option String}
    (hstep : OrderStep t (i.orderId.filter (fun id => id != "")) .paid a reason t') :
    ∀ j ∈ s.invoices, j.orderId = i.orderId → j.status ≠ .paid := by
  intro j hj hjo hjp
  obtain ⟨o, ho, hbills⟩ := h.agree.linked i hi
  rw [h.named ho hbills] at hstep
  obtain ⟨p, hid, hvalid, hrep, _⟩ := hstep.replaced
  rw [ht] at hrep
  obtain rfl : p = o := Table.eq_of_mem hrep.mem ho hid
  rw [(h.agree.paid p ho).mpr ⟨j, hj, hjo.trans hbills.orderId, hjp⟩] at hvalid
  exact absurd hvalid (by decide)

theorem Selling.outstanding_of_paid (h : Selling s seen) {invoiceId : Id} {input : PaymentInput} {paid due : Int4}
    {s' : Store}
    (hp : Paid env actor invoiceId input s i i.amountDue.val paid due .paid s') : i.Outstanding s := by
  have hi : i ∈ s.invoices := Table.mem_of_find hp.found
  have hstep := hp.after
  rw [if_pos rfl] at hstep
  refine ⟨hp.payment.positive, h.unpaid_of_step hi ?_ hstep⟩
  rfl

theorem Selling.outstanding_of_settles (h : Selling s seen) (hi : i ∈ s.invoices) (hset : i.Settles env actor s) :
    i.Outstanding s := by
  obtain ⟨s', updated, hrun, _⟩ := hset { amount := .integer i.amountDue.val } rfl
  obtain ⟨c, hev⟩ := run_ok_iff.mp hrun
  obtain ⟨_, invoice, amount, paid, due, status, hp⟩ := markInvoicePaidManually_ok hev
  obtain rfl : invoice = i := Table.eq_of_mem (Table.mem_of_find hp.found) hi (Table.key_of_find hp.found)
  cases hp.amount_eq
  obtain ⟨_, rfl⟩ := hp.payment.settles (h.ledger.balanced invoice hi)
  exact h.outstanding_of_paid hp

/-- An open invoice of which something is due and whose order has no paid invoice
can be paid in full. -/
theorem Selling.exists_paid (h : Selling s seen) (env : Env)
    (hactor : hasPermission actor.permissions .invoicesWrite = true)
    (hi : i ∈ s.invoices) (hopen : i.IsOpen) (hout : i.Outstanding s) {input : PaymentInput}
    (hinput : input.amount = .integer i.amountDue.val) :
    ∃ due s' o, due.val = 0 ∧ Paid env actor i.id input s i i.amountDue.val i.total due .paid s' ∧
      i.orderId = some o.id ∧ s'.orders.find o.id = some o ∧ o.status = .paid := by
  have hbalance := (h.ledger.balanced i hi).due
  obtain ⟨o, ho, hbills⟩ := h.agree.linked i hi
  -- the order is past pending and not paid, so it awaits payment
  have hawaiting : o.status = .awaitingPayment := by
    have hreached := h.agree.reached o ho
    have hbilled : o.status ≠ .pending := (h.agree.billed o ho).mpr ⟨i, hi, hbills.orderId⟩
    have hunpaid : o.status ≠ .paid := by
      intro hp
      obtain ⟨j, hj, hjo, hjp⟩ := (h.agree.paid o ho).mp hp
      exact hout.2 j hj (hjo.trans hbills.orderId.symm) hjp
    revert hreached hbilled hunpaid
    cases o.status <;> decide
  have hpayment : Payment i i.amountDue.val i.total 0 .paid := by
    refine ⟨hout.1, hopen.payable, ?_, ?_, ?_, le_refl _, rfl⟩
    · rw [hbills.currency]
      exact h.coded o ho
    · omega
    · exact (sub_self _).symm
  have hfound : s.orders.find o.id = some o := Table.find_of_mem ho
  let t := s.payInvoice actor i i.total 0 .paid (Payment.paidAt env i .paid) i.amountDue.val input
  refine ⟨0, t.moveOrder o .paid actor.transitionActor (some "invoice_paid"), { o with status := .paid }, rfl,
    ⟨hactor, Table.find_of_mem hi, h.housed.invoices i hi, hinput, hpayment, ?_⟩, hbills.orderId, ?_, rfl⟩
  · rw [if_pos rfl, h.named ho hbills]
    exact ⟨o, hfound, by rw [hawaiting]; decide, h.housed.orders o ho, rfl⟩
  · rw [moveOrder_orders]
    exact (Table.find_modify_self _ _ _ _).trans (by rw [show t.orders = s.orders from rfl, hfound]; rfl)

end Payments

/-- Every open invoice is outstanding. -/
def Store.Outstanding (s : Store) : Prop := ∀ i ∈ s.invoices, i.IsOpen → i.Outstanding s

/-- What the call must not do: invoice an order that is free or paid, or pay one
of several open invoices of an order in full. -/
def Call.KeepsCollectible (s : Store) : Call → Prop
  | issueInvoiceForOrder env order _ =>
    order.Invoiceable env s → 0 < order.total.val ∧ ∀ o ∈ s.orders, o.id = order.id → o.status ≠ .paid
  | markInvoicePaidManually _ actor invoiceId input =>
    hasPermission actor.permissions .invoicesWrite = true → ∀ i ∈ s.invoices, i.id = invoiceId → i.IsOpen →
      input.amount = .integer i.amountDue.val → ∀ j ∈ s.invoices, j.IsOpen → j.orderId = i.orderId → j = i
  | _ => True

section Steps

variable {env : Env} {s t : Store} {seen : List Order}

theorem outstanding_of_same (h : t.invoices = s.invoices) : t.Outstanding ↔ s.Outstanding := by
  simp only [Store.Outstanding, Invoice.Outstanding, h]

theorem outstanding_of_unpaid {i i' : Invoice} (hrep : Table.Replaced s.invoices t.invoices i i')
    (horder : i'.orderId = i.orderId) (hnew : i'.status ≠ .paid)
    (hdue : i'.IsOpen → i.IsOpen ∧ 0 < i'.amountDue.val) (h : s.Outstanding) : t.Outstanding := by
  have hunpaid : ∀ {orderId : Option Id}, (∀ k ∈ s.invoices, k.orderId = orderId → k.status ≠ .paid) →
      ∀ k ∈ t.invoices, k.orderId = orderId → k.status ≠ .paid := by
    intro orderId hall k hk hko
    obtain ⟨hk', _⟩ | rfl := (hrep.mem_iff k).mp hk
    · exact hall k hk' hko
    · exact hnew
  intro j hj hopen
  obtain ⟨hj', _⟩ | rfl := (hrep.mem_iff j).mp hj
  · exact ⟨(h j hj' hopen).1, hunpaid (h j hj' hopen).2⟩
  · obtain ⟨hopen', hpos⟩ := hdue hopen
    exact ⟨hpos, hunpaid (horder ▸ (h i hrep.mem hopen').2)⟩

/-- An invoice is paid: no other invoice of the order may be open. -/
theorem outstanding_of_paid {i i' : Invoice} (hrep : Table.Replaced s.invoices t.invoices i i')
    (horder : i'.orderId = i.orderId) (hpaid : i'.status = .paid) (h : s.Outstanding) :
    t.Outstanding ↔ ∀ j ∈ s.invoices, j.IsOpen → j.orderId = i.orderId → j = i := by
  have hi' : i' ∈ t.invoices := (hrep.mem_iff i').mpr (Or.inr rfl)
  constructor
  · intro ht j hj hopen hjo
    by_contra hne
    have hkey : j.id ≠ i.id := fun hk => hne (Table.eq_of_mem hj hrep.mem hk)
    have hj' : j ∈ t.invoices := (hrep.mem_iff j).mpr (Or.inl ⟨hj, hkey⟩)
    exact (ht j hj' hopen).2 i' hi' (horder.trans hjo.symm) hpaid
  · intro hall j hj hopen
    obtain ⟨hj', hkey⟩ | rfl := (hrep.mem_iff j).mp hj
    · refine ⟨(h j hj' hopen).1, fun k hk hko hkp => ?_⟩
      obtain ⟨hk', _⟩ | rfl := (hrep.mem_iff k).mp hk
      · exact (h j hj' hopen).2 k hk' hko hkp
      · exact hkey (by rw [hall j hj' hopen (hko.symm.trans horder)])
    · exact absurd hpaid hopen.ne_paid

theorem Issued.outstanding_iff {order : Order} {actor : TransitionActor} {client : Client} {invoice : Invoice}
    (hi : Issued env order actor client s invoice t) (hs : Selling s seen) (h : s.Outstanding) :
    t.Outstanding ↔ 0 < order.total.val ∧ ∀ o ∈ s.orders, o.id = order.id → o.status ≠ .paid := by
  have hmem := hi.mem_invoices.1
  have he := hi.invoice_eq
  have hstatus : invoice.status = .issued := by rw [he]; rfl
  have hdue : invoice.amountDue = order.total := by rw [he]; rfl
  have horder : invoice.orderId = some order.id := by rw [he]; rfl
  have hunpaid : invoice.status ≠ .paid := by
    rw [hstatus]
    decide
  have hopen : invoice.IsOpen := by
    rw [Invoice.IsOpen, hstatus]
    decide
  constructor
  · intro ht
    obtain ⟨hpos, hnone⟩ := ht invoice ((hmem invoice).mpr (Or.inr rfl)) hopen
    refine ⟨hdue ▸ hpos, fun o ho hid hp => ?_⟩
    obtain ⟨j, hj, hjo, hjp⟩ := (hs.agree.paid o ho).mp hp
    exact hnone j ((hmem j).mpr (Or.inl hj)) (by rw [hjo, horder, hid]) hjp
  · rintro ⟨hpos, hnone⟩ j hj hjopen
    obtain hj' | rfl := (hmem j).mp hj
    · refine ⟨(h j hj' hjopen).1, fun k hk hko => ?_⟩
      obtain hk' | rfl := (hmem k).mp hk
      · exact (h j hj' hjopen).2 k hk' hko
      · exact hunpaid
    · refine ⟨hdue ▸ hpos, fun k hk hko hkp => ?_⟩
      obtain hk' | rfl := (hmem k).mp hk
      · obtain ⟨o, ho, hbills⟩ := hs.agree.linked k hk'
        have hid : o.id = order.id := Option.some.inj (hbills.orderId.symm.trans (hko.trans horder))
        exact hnone o ho hid ((hs.agree.paid o ho).mpr ⟨k, hk', hbills.orderId, hkp⟩)
      · exact hunpaid hkp

theorem Paid.outstanding_iff {actor : StaffActor} {invoiceId : Id} {input : PaymentInput} {i : Invoice} {amount : ℤ}
    {paid due : Int4} {status : InvoiceStatus} (hp : Paid env actor invoiceId input s i amount paid due status t)
    (hs : Selling s seen) (h : s.Outstanding) :
    t.Outstanding ↔ (Call.markInvoicePaidManually env actor invoiceId input).KeepsCollectible s := by
  have hi : i ∈ s.invoices := Table.mem_of_find hp.found
  have hid : i.id = invoiceId := Table.key_of_find hp.found
  have hpayment := hp.payment
  have hbalance := (hs.ledger.balanced i hi).due
  have hinvoices : t.invoices = (s.payInvoice actor i paid due status (Payment.paidAt env i status) amount input).invoices :=
    hp.after.invoices
  have hrep : Table.Replaced s.invoices t.invoices i (i.withPayment paid due status (Payment.paidAt env i status)) := by
    rw [hinvoices]
    exact Table.replaced_modify hi _ (Invoice.withPayment_id paid due status (Payment.paidAt env i status))
  have hpaid := hpayment.paid_eq
  have hdue := hpayment.due_eq
  have hreached := hs.ledger.reached i hi
  have hopen : i.IsOpen := by
    have hpayable := hpayment.payable
    unfold Invoice.IsOpen
    revert hpayable hreached
    cases i.status <;> decide
  have hunique : ∀ q ∈ s.invoices, q.id = invoiceId → q = i :=
    fun q hq hk => Table.eq_of_mem hq hi (hk.trans hid.symm)
  by_cases hfull : status = .paid
  · subst hfull
    have hzero : due.val = 0 := by
      by_contra hne
      have hstatus := hpayment.status_eq
      rw [if_neg hne] at hstatus
      cases hstatus
    have hamount : input.amount = .integer i.amountDue.val := by
      rw [hp.amount_eq]
      congr 1
      omega
    rw [outstanding_of_paid hrep rfl rfl h]
    constructor
    · intro hall _ q hq hk _ _
      rw [hunique q hq hk]
      exact hall
    · exact fun hkeeps => hkeeps hp.permitted i hi hid hopen hamount
  · have hpartial : status = .partiallyPaid := hpayment.status_cases.resolve_left hfull
    refine iff_of_true (outstanding_of_unpaid hrep rfl hfull (fun _ => ⟨hopen, ?_⟩) h) ?_
    · have hne : due.val ≠ 0 := fun hzero => hfull (by rw [hpayment.status_eq, if_pos hzero])
      have hfits := hpayment.fits
      change 0 < due.val
      omega
    · intro _ q hq hk _ hamount
      rw [hunique q hq hk] at hamount
      rw [hp.amount_eq] at hamount
      cases hamount
      exact absurd (hpayment.settles (hs.ledger.balanced i hi)).2 hfull

/-- A call leaves every open invoice outstanding just when it may be made. -/
theorem Call.outstanding_iff (call : Call) (hc : call.Holds seen) (hs : Selling s seen) (h : s.Outstanding) :
    (call.after s).Outstanding ↔ call.KeepsCollectible s := by
  have others : call.sells = false → ((call.after s).Outstanding ↔ True) := fun hsells =>
    iff_of_true ((outstanding_of_same (congrArg Prod.snd (Call.sales_after hsells s))).mpr h) trivial
  cases call with
  | createOrder env actor input =>
    refine iff_of_true ?_ trivial
    refine inv_of_atomic (P := Store.Outstanding) (atomic_createOrder env actor input) h (fun order c s' hev => ?_)
    obtain ⟨_, ⟨_, rfl⟩ | ⟨_, client, rows, hp⟩⟩ := createOrder_ok hev
    · exact h
    · obtain ⟨value, _, _, rfl⟩ := hp.after
      exact (outstanding_of_same (placeOrder_invoices s actor input order value)).mpr h
  | issueInvoiceForOrder env order actor =>
    change ((Model.issueInvoiceForOrder env order actor).after s).Outstanding ↔ _
    obtain ⟨hnot, he⟩ | ⟨hinv, client, invoice, s', hi, he⟩ := issueInvoiceForOrder_after env order actor s
    · rw [he]
      exact iff_of_true h (fun hinv => absurd hinv hnot)
    · rw [he, hi.outstanding_iff hs h]
      exact ⟨fun hall _ => hall, fun hall => hall hinv⟩
  | markInvoicePaidManually env actor invoiceId input =>
    change ((Model.markInvoicePaidManually env actor invoiceId input).after s).Outstanding ↔ _
    cases hev : (Model.markInvoicePaidManually env actor invoiceId input).eval s s with
    | ok r =>
      obtain ⟨updated, c, s'⟩ := r
      obtain ⟨_, i, amount, paid, due, status, hp⟩ := markInvoicePaidManually_ok hev
      rw [Program.after, run, hev]
      exact hp.outstanding_iff hs h
    | error x =>
      obtain ⟨e, c⟩ := x
      have hc : c = s := eval_error_of_atomic (atomic_markInvoicePaidManually env actor invoiceId input) hev
      rw [Program.after, run, hev, hc]
      refine iff_of_true h (fun hperm i hi hid hopen hamount => ?_)
      -- such a payment would have gone through
      obtain ⟨due, s', o, _, hp, _⟩ := hs.exists_paid env hperm hi hopen (h i hi hopen) hamount
      rw [hid] at hp
      rw [markInvoicePaidManually_takes hp] at hev
      cases hev
  | cancelInvoice actor invoiceId reason =>
    refine iff_of_true ?_ trivial
    refine inv_of_atomic (P := Store.Outstanding) (atomic_cancelInvoice actor invoiceId reason) h
      (fun updated c s' hev => ?_)
    obtain ⟨_, _, i, hcan⟩ := cancelInvoice_ok hev
    rw [hcan.after]
    have hmem : i ∈ s.invoices := Table.mem_of_find hcan.found
    have hclosed : ¬ ({ i with status := .cancelled } : Invoice).IsOpen := by
      change ¬ InvoiceStatus.cancelled ∈ _
      decide
    have hunpaid : ({ i with status := .cancelled } : Invoice).status ≠ .paid := InvoiceStatus.noConfusion
    exact outstanding_of_unpaid (Table.replaced_modify hmem (fun r => { r with status := .cancelled }) (fun _ => rfl))
      rfl hunpaid (fun hopen => absurd hopen hclosed) h
  | _ => exact others rfl

theorem Store.SalesHoused.of_rows (hs : s.SalesHoused) (htenants : t.tenants = s.tenants)
    (horders : ∀ o ∈ t.orders, (∃ q ∈ s.orders, o.tenantId = q.tenantId) ∨ s.hasTenant o.tenantId = true)
    (hinvoices : ∀ i ∈ t.invoices, (∃ j ∈ s.invoices, i.tenantId = j.tenantId) ∨ s.hasTenant i.tenantId = true) :
    t.SalesHoused := by
  constructor
  · intro o ho
    rw [Store.hasTenant, htenants]
    obtain ⟨q, hq, he⟩ | hfound := horders o ho
    · rw [he]
      exact hs.orders q hq
    · exact hfound
  · intro i hi
    rw [Store.hasTenant, htenants]
    obtain ⟨j, hj, he⟩ | hfound := hinvoices i hi
    · rw [he]
      exact hs.invoices j hj
    · exact hfound

theorem Store.SalesHoused.of_same (hs : s.SalesHoused) (h : t.tenantSales = s.tenantSales) : t.SalesHoused := by
  simp only [Store.tenantSales, Store.sales, Prod.mk.injEq] at h
  obtain ⟨htenants, horders, hinvoices⟩ := h
  refine hs.of_rows htenants (fun o ho => Or.inl ⟨o, ?_, rfl⟩) (fun i hi => Or.inl ⟨i, ?_, rfl⟩)
  · rwa [horders] at ho
  · rwa [hinvoices] at hi

theorem OrderStep.housed {target : Option Id} {toStatus : OrderStatus} {actor : TransitionActor} {reason : Option String}
    (h : OrderStep s target toStatus actor reason t) (hs : s.SalesHoused) : t.SalesHoused := by
  cases target with
  | none =>
    have he : t = s := h
    exact he ▸ hs
  | some id =>
    obtain ⟨o, _, _, hrep, hinvoices⟩ := h.replaced
    obtain ⟨p, _, _, _, ht⟩ := h
    refine hs.of_rows (by rw [ht, moveOrder_tenants]) (fun q hq => Or.inl ?_)
      (fun i hi => Or.inl ⟨i, hinvoices ▸ hi, rfl⟩)
    obtain ⟨hq', _⟩ | rfl := (hrep.mem_iff q).mp hq
    · exact ⟨q, hq', rfl⟩
    · exact ⟨o, hrep.mem, rfl⟩

theorem Placed.housed {actor : Actor} {input : CreateOrderInput} {client : Client} {rows : List OrderItemRow}
    {order : Order} (h : Placed env actor input client rows s order t) (hs : s.SalesHoused) : t.SalesHoused := by
  have htenant : order.tenantId = actor.tenantId := by rw [h.order_eq]
  obtain ⟨value, _, _, rfl⟩ := h.after
  refine hs.of_rows (placeOrder_tenants s actor input order value) (fun q hq => ?_) (fun i hi => Or.inl ⟨i, ?_, rfl⟩)
  · rw [placeOrder_orders] at hq
    obtain hq' | rfl := (Table.mem_insert (Relation.find_of_fresh h.fresh)).mp hq
    · exact Or.inl ⟨q, hq', rfl⟩
    · exact Or.inr (htenant ▸ h.tenant_found)
  · rwa [placeOrder_invoices] at hi

theorem Issued.housed {order : Order} {actor : TransitionActor} {client : Client} {invoice : Invoice}
    (h : Issued env order actor client s invoice t) (hs : s.SalesHoused) : t.SalesHoused := by
  have htenant : invoice.tenantId = order.tenantId := by
    rw [h.invoice_eq]
    rfl
  obtain ⟨value, _, _, hstep⟩ := h.after
  refine hstep.housed (hs.of_rows (issueInvoice_tenants s order actor invoice value) (fun q hq => Or.inl ⟨q, ?_, rfl⟩)
    (fun i hi => ?_))
  · rwa [issueInvoice_orders] at hq
  · rw [issueInvoice_invoices] at hi
    obtain hi' | rfl := (Table.mem_insert (Relation.find_of_fresh h.fresh)).mp hi
    · exact Or.inl ⟨i, hi', rfl⟩
    · exact Or.inr (htenant ▸ h.tenant_found)

theorem Store.SalesHoused.modifyInvoice (hs : s.SalesHoused) {id : Id} {f : Invoice → Invoice} (hf : ∀ r, (f r).id = r.id)
    (hkept : ∀ r, (f r).tenantId = r.tenantId) (htenants : t.tenants = s.tenants) (horders : t.orders = s.orders)
    (hinvoices : t.invoices = s.invoices.modify id f hf) : t.SalesHoused := by
  refine hs.of_rows htenants (fun q hq => Or.inl ⟨q, horders ▸ hq, rfl⟩) (fun i hi => Or.inl ?_)
  rw [hinvoices] at hi
  obtain ⟨hold, _⟩ | ⟨j, hj, _, rfl⟩ := Table.mem_modify.mp hi
  · exact ⟨i, hold, rfl⟩
  · exact ⟨j, hj, hkept j⟩

theorem Call.housed (call : Call) (hs : s.SalesHoused) : (call.after s).SalesHoused := by
  cases call with
  | createOrder env actor input =>
    refine inv_of_atomic (P := Store.SalesHoused) (atomic_createOrder env actor input) hs (fun order c s' hev => ?_)
    obtain ⟨_, ⟨_, rfl⟩ | ⟨_, client, rows, hp⟩⟩ := createOrder_ok hev
    · exact hs
    · exact hp.housed hs
  | issueInvoiceForOrder env order actor =>
    refine inv_of_atomic (P := Store.SalesHoused) (atomic_issueInvoiceForOrder env order actor) hs
      (fun invoice c s' hev => ?_)
    obtain ⟨_, client, hi⟩ := issueInvoiceForOrder_ok hev
    exact hi.housed hs
  | markInvoicePaidManually env actor invoiceId input =>
    refine inv_of_atomic (P := Store.SalesHoused) (atomic_markInvoicePaidManually env actor invoiceId input) hs
      (fun updated c s' hev => ?_)
    obtain ⟨_, i, amount, paid, due, status, hp⟩ := markInvoicePaidManually_ok hev
    exact hp.after.housed (hs.modifyInvoice (Invoice.withPayment_id paid due status (Payment.paidAt env i status))
      (fun _ => rfl) rfl rfl rfl)
  | cancelInvoice actor invoiceId reason =>
    refine inv_of_atomic (P := Store.SalesHoused) (atomic_cancelInvoice actor invoiceId reason) hs
      (fun updated c s' hev => ?_)
    obtain ⟨_, _, i, hcan⟩ := cancelInvoice_ok hev
    rw [hcan.after]
    exact hs.modifyInvoice (f := fun r => { r with status := .cancelled }) (fun _ => rfl) (fun _ => rfl) rfl rfl rfl
  | _ => exact hs.of_same (Call.tenantSales_after rfl s)

theorem coded_of_same (h : t.orders = s.orders) (hs : s.Coded) : t.Coded := by
  rw [Store.Coded, h]
  exact hs

theorem OrderStep.coded {target : Option Id} {toStatus : OrderStatus} {actor : TransitionActor} {reason : Option String}
    (h : OrderStep s target toStatus actor reason t) (hs : s.Coded) : t.Coded := by
  cases target with
  | none => exact coded_of_same (congrArg Store.orders h) hs
  | some id =>
    obtain ⟨o, _, _, hrep, _⟩ := h.replaced
    intro q hq
    obtain ⟨hq', _⟩ | rfl := (hrep.mem_iff q).mp hq
    · exact hs q hq'
    · exact hs o hrep.mem

theorem insertOrder_coded {actor : Actor} {input : CreateOrderInput} {client : Client} {c v c' v' : Store}
    {order : Order} (h : (insertOrder env actor input client).eval c v = .ok (order, c', v')) :
    isCurrencyCode input.currency = true := by
  simp only [insertOrder, insertOrderWith, eval_lift_bind] at h
  obtain ⟨start, hstart, _⟩ := h
  obtain ⟨_, _, hcode, _⟩ := money_ok_iff.mp hstart
  exact hcode

theorem createOrder_coded (env : Env) (actor : Actor) (input : CreateOrderInput) (hs : s.Coded) :
    ((createOrder env actor input).after s).Coded := by
  refine inv_of_atomic (P := Store.Coded) (atomic_createOrder env actor input) hs (fun order c s' hev => ?_)
  obtain ⟨_, ⟨_, rfl⟩ | ⟨_, client, c₁, hclient, hins⟩⟩ := createOrder_inserts hev
  · exact hs
  · obtain ⟨rows, hp⟩ := insertOrder_ok hclient hins
    obtain ⟨value, _, _, rfl⟩ := hp.after
    have hcurrency : order.currency = input.currency := by rw [hp.order_eq]
    intro q hq
    rw [placeOrder_orders] at hq
    obtain hq' | rfl := (Table.mem_insert (Relation.find_of_fresh hp.fresh)).mp hq
    · exact hs q hq'
    · rw [hcurrency]
      exact insertOrder_coded hins

theorem Call.coded (call : Call) (hs : s.Coded) : (call.after s).Coded := by
  cases call with
  | createOrder env actor input => exact createOrder_coded env actor input hs
  | issueInvoiceForOrder env order actor =>
    refine inv_of_atomic (P := Store.Coded) (atomic_issueInvoiceForOrder env order actor) hs
      (fun invoice c s' hev => ?_)
    obtain ⟨_, client, hi⟩ := issueInvoiceForOrder_ok hev
    obtain ⟨value, _, _, hstep⟩ := hi.after
    exact hstep.coded (coded_of_same (issueInvoice_orders s order actor invoice value) hs)
  | markInvoicePaidManually env actor invoiceId input =>
    refine inv_of_atomic (P := Store.Coded) (atomic_markInvoicePaidManually env actor invoiceId input) hs
      (fun updated c s' hev => ?_)
    obtain ⟨_, i, amount, paid, due, status, hp⟩ := markInvoicePaidManually_ok hev
    exact hp.after.coded (coded_of_same rfl hs)
  | cancelInvoice actor invoiceId reason =>
    refine inv_of_atomic (P := Store.Coded) (atomic_cancelInvoice actor invoiceId reason) hs
      (fun updated c s' hev => ?_)
    obtain ⟨_, _, i, hcan⟩ := cancelInvoice_ok hev
    rw [hcan.after]
    exact coded_of_same rfl hs
  | _ => exact coded_of_same (congrArg Prod.fst (Call.sales_after rfl s)) hs

end Steps

/-- The tables after a call, and the order rows of all tables so far. -/
def Call.afterSeen (p : Store × List Order) (call : Call) : Store × List Order :=
  (call.after p.1, (call.after p.1).orders.rows ++ p.2)

section Runs

variable {env : Env} {actor : StaffActor} {s : Store} {seen : List Order}

theorem Agree.readAll {orders : Table Order.id} {invoices : Table Invoice.id} (h : Agree orders invoices seen)
    {rows : List Order} (hrows : ∀ o ∈ rows, o ∈ orders) : Agree orders invoices (rows ++ seen) := by
  induction rows with
  | nil => exact h
  | cons o rows ih =>
    exact (ih (fun q hq => hrows q (List.mem_cons_of_mem o hq))).read (hrows o List.mem_cons_self)

theorem selling_of_empty (ho : s.orders = ∅) (hi : s.invoices = ∅) (hh : s.statusHistories = []) : Selling s [] := by
  refine ⟨?_, ⟨fun o hmem => ?_, fun i hmem => ?_⟩, Books.ledger_of_blank (b := s.books) hi hh, fun o hmem => ?_⟩
  · rw [Store.Agree, ho, hi]
    exact Agree.empty
  · rw [ho] at hmem
    exact absurd hmem (Table.not_mem_empty o)
  · rw [hi] at hmem
    exact absurd hmem (Table.not_mem_empty i)
  · rw [ho] at hmem
    exact absurd hmem (Table.not_mem_empty o)

theorem Call.selling (call : Call) (hc : call.Holds seen) (hs : Selling s seen) :
    Selling (call.after s) ((call.after s).orders.rows ++ seen) :=
  ⟨(call.agree hc hs.agree).readAll (fun _ ho => ho), call.housed hs.housed, call.ledger hs.ledger,
    call.coded hs.coded⟩

theorem Selling.settles (h : Selling s seen) (hactor : hasPermission actor.permissions .invoicesWrite = true)
    {i : Invoice} (hi : i ∈ s.invoices) (hopen : i.IsOpen) (hout : i.Outstanding s) : i.Settles env actor s := by
  intro input hinput
  obtain ⟨due, s', o, hdue, hp, horder, hfind, hpaid⟩ := h.exists_paid env hactor hi hopen hout hinput
  have hinvoices : s'.invoices =
      (s.payInvoice actor i i.total due .paid (Payment.paidAt env i .paid) i.amountDue.val input).invoices :=
    hp.after.invoices
  refine ⟨s', _, run_ok_iff.mpr ⟨s', markInvoicePaidManually_takes hp⟩, rfl, hdue, ?_, o, horder, hfind, hpaid⟩
  rw [hinvoices]
  exact Relation.find_modify (R := prisma.invoice)
    (Invoice.withPayment_id i.total due .paid (Payment.paidAt env i .paid))
    (Table.find_of_mem hi)

theorem Selling.collectible_iff (h : Selling s seen) (env : Env)
    (hactor : hasPermission actor.permissions .invoicesWrite = true) :
    s.Collectible env actor ↔ s.Outstanding :=
  ⟨fun hall i hi hopen => h.outstanding_of_settles hi (hall i hi hopen),
    fun hall i hi hopen => h.settles hactor hi hopen (hall i hi hopen)⟩

/-- Along every run on tables without orders, invoices and history, all open
invoices settle in all tables on the way just when no call of it invoices an
order that is free or paid, or pays one of several open invoices of an order in full. -/
theorem open_invoices_settle_iff (env : Env) (actor : StaffActor)
    (hactor : hasPermission actor.permissions .invoicesWrite = true) (s₀ : Store) (ho : s₀.orders = ∅)
    (hi : s₀.invoices = ∅) (hh : s₀.statusHistories = []) (calls : List Call)
    (hheld : AlongRun Call.afterSeen (fun p call => call.Holds p.2) (s₀, []) calls) :
    (∀ before, before <+: calls → (runCalls s₀ before).Collectible env actor) ↔
      AlongCalls (fun s call => call.KeepsCollectible s) s₀ calls := by
  have hfst : ∀ (p : Store × List Order) (call : Call), (call.afterSeen p).1 = call.after p.1 := fun _ _ => rfl
  have hempty : Selling s₀ [] := selling_of_empty ho hi hh
  have hstart : s₀.Outstanding := by
    intro i him
    rw [hi] at him
    exact absurd him (Table.not_mem_empty i)
  have hinv : ∀ p call, Selling p.1 p.2 → call.Holds p.2 →
      Selling (Call.afterSeen p call).1 (Call.afterSeen p call).2 :=
    fun p call hs hc => call.selling hc hs
  have hiff := forall_prefix_iff_alongRun (P := fun p => p.1.Outstanding)
    (C := fun p call => call.KeepsCollectible p.1) (fun p call hs hc _ => hinv p call hs hc)
    (fun p call hs hc h => call.outstanding_iff hc hs h) hempty hstart hheld
  have hproject := alongRun_project (G := fun s call => Call.KeepsCollectible s call) hfst (s₀, []) calls
  refine Iff.trans ?_ (hiff.trans hproject)
  refine forall₂_congr (fun before hb => ?_)
  have hselling : Selling (runFrom Call.afterSeen (s₀, []) before).1 (runFrom Call.afterSeen (s₀, []) before).2 := by
    obtain ⟨later, rfl⟩ := hb
    exact runFrom_inv (I := fun p => Selling p.1 p.2) hinv hempty (alongRun_append.mp hheld).1
  rw [← hselling.collectible_iff env hactor, runFrom_project hfst]

end Runs

namespace Sample

/-- The order as it stands after its first invoice. -/
def awaited : Order := ((runCalls (shop 0) (sale [])).orders.find "id-a0").get (by decide +kernel)

/-- Two months are ordered, invoiced twice and paid once. -/
def doubleSale : List Call :=
  sale [] ++ [.issueInvoiceForOrder (env "d") awaited staff.transitionActor,
    .markInvoicePaidManually (env "c") staff "id-b0" { amount := .integer 2000 }]

end Sample

open Sample in
theorem held_sale (amounts : List ℤ) :
    AlongRun Call.afterSeen (fun p call => call.Holds p.2) (shop 0, []) (sale amounts) := by
  have hplaced : placed ∈ ordered.orders.rows := Table.mem_of_find (Option.some_get _).symm
  refine ⟨trivial, List.mem_append_left _ hplaced, alongRun_of_mem (fun call hcall p => ?_)⟩
  obtain ⟨n, _, rfl⟩ := List.mem_map.mp hcall
  trivial

open Sample in
/-- The second invoice of an order cannot be paid once the first one is. -/
theorem second_invoice_unsettled :
    AlongRun Call.afterSeen (fun p call => call.Holds p.2) (shop 0, []) doubleSale ∧
      hasPermission staff.permissions .invoicesWrite = true ∧
      (runCalls (shop 0) doubleSale).invoices.rows.map (fun i => (i.id, i.status, i.amountDue.val)) =
        [("id-b0", .paid, 0), ("id-d0", .issued, 2000)] ∧
      (markInvoicePaidManually (env "e") staff "id-d0" { amount := .integer 2000 }).completes
        (runCalls (shop 0) doubleSale) = false ∧
      ¬ (runCalls (shop 0) doubleSale).Collectible (env "e") staff := by
  have hfails : (markInvoicePaidManually (env "e") staff "id-d0" { amount := .integer 2000 }).completes
      (runCalls (shop 0) doubleSale) = false := by decide +kernel
  have hfound : ((runCalls (shop 0) doubleSale).invoices.find "id-d0").isSome = true := by decide +kernel
  have hopen : ((runCalls (shop 0) doubleSale).invoices.find "id-d0").all
      (fun i => decide i.IsOpen && decide (i.amountDue.val = 2000)) = true := by decide +kernel
  have hawaited : awaited ∈ (runCalls (shop 0) (sale [])).orders.rows := Table.mem_of_find (Option.some_get _).symm
  refine ⟨?_, by decide, by decide +kernel, hfails, fun hall => ?_⟩
  · exact alongRun_append.mpr ⟨held_sale [], List.mem_append_left _ hawaited, trivial, trivial⟩
  · obtain ⟨i, hi⟩ := Option.isSome_iff_exists.mp hfound
    rw [hi, Option.all_some, Bool.and_eq_true, decide_eq_true_eq, decide_eq_true_eq] at hopen
    obtain ⟨s', updated, hrun, _⟩ := hall i (Table.mem_of_find hi) hopen.1 { amount := .integer 2000 } (by rw [hopen.2])
    rw [Table.key_of_find hi] at hrun
    have hcompletes : (markInvoicePaidManually (env "e") staff "id-d0" { amount := .integer 2000 }).completes
        (runCalls (shop 0) doubleSale) = true := returns_iff.mpr ⟨s', updated, hrun, rfl⟩
    exact Bool.false_ne_true (hfails.symm.trans hcompletes)

open Sample in
theorem open_invoices_settle_iff_sale :
    (∀ before, before <+: sale [300, 1700] → (runCalls (shop 0) before).Collectible (env "e") staff) ↔
      AlongCalls (fun s call => call.KeepsCollectible s) (shop 0) (sale [300, 1700]) :=
  open_invoices_settle_iff (env "e") staff (by decide) (shop 0) rfl rfl rfl (sale [300, 1700]) (held_sale [300, 1700])

end HostPanel.Model
