import HostPanel.Books.History

namespace HostPanel.Model

open HostPanel.Lib

/-- The row logs a payment. -/
def StatusHistory.isPayment (row : StatusHistory) : Bool :=
  row.toStatus == .invoice .partiallyPaid || row.toStatus == .invoice .paid

def StatusHistory.amount (row : StatusHistory) : ℤ := (row.metadata.map PaymentMetadata.amount).getD 0

namespace Books

/-- The sum of the payments logged for an invoice. -/
def recordedPayments (b : Books) (invoiceId : Id) : ℤ :=
  (((b.rowsOf .invoice invoiceId).filter StatusHistory.isPayment).map StatusHistory.amount).sum

/-- The columns of an invoice agree with each other and with its history. -/
structure Balanced (b : Books) (i : Invoice) : Prop where
  due : i.amountDue.val = i.total.val - i.amountPaid.val
  nonneg : 0 ≤ i.amountPaid.val
  recorded : i.amountPaid.val = b.recordedPayments i.id
  issued : i.status = .issued → i.amountPaid.val = 0
  partiallyPaid : i.status = .partiallyPaid → 0 < i.amountPaid.val ∧ i.amountPaid.val < i.total.val
  paid : i.status = .paid → i.amountPaid.val = i.total.val ∧ 0 < i.total.val
  paidAt : i.paidAt.isSome = true ↔ i.status = .paid

/-- Every invoice is balanced and in one of the four statuses the services
reach, and only invoices have invoice rows. -/
structure Ledger (b : Books) : Prop where
  balanced : ∀ i ∈ b.invoices, Balanced b i
  reached : ∀ i ∈ b.invoices, i.status ∈ [InvoiceStatus.issued, .partiallyPaid, .paid, .cancelled]
  absent : ∀ id, b.invoices.find id = none → b.rowsOf .invoice id = []

theorem recordedPayments_log (b b' : Books) {id : Id} {row : StatusHistory} (ht : row.entityType = .invoice)
    (hid : row.entityId = id) (hh : b'.statusHistories = b.statusHistories ++ [row]) :
    b'.recordedPayments id = b.recordedPayments id + if row.isPayment then row.amount else 0 := by
  rw [recordedPayments, rowsOf_log b b' ht hid hh, List.filter_append, List.map_append, List.sum_append,
    List.filter_singleton]
  by_cases hp : row.isPayment = true <;> simp [recordedPayments, hp]

theorem recordedPayments_other {b b' : Books} {id : Id} (h : b'.rowsOf .invoice id = b.rowsOf .invoice id) :
    b'.recordedPayments id = b.recordedPayments id := by
  rw [recordedPayments, h, recordedPayments]

theorem Balanced.of_recorded {b b' : Books} {i : Invoice} (h : Balanced b i)
    (hr : b'.recordedPayments i.id = b.recordedPayments i.id) : Balanced b' i :=
  ⟨h.due, h.nonneg, h.recorded.trans hr.symm, h.issued, h.partiallyPaid, h.paid, h.paidAt⟩

theorem Balanced.paidAt_none {b : Books} {i : Invoice} (h : Balanced b i) (hs : i.status ≠ .paid) :
    i.paidAt = none :=
  Option.not_isSome_iff_eq_none.mp (fun hp => hs (h.paidAt.mp hp))

/-- A row about something else than an invoice leaves the ledger as it is. -/
theorem Ledger.of_other {b b' : Books} {row : StatusHistory} (h : Ledger b) (hi : b'.invoices = b.invoices)
    (hh : b'.statusHistories = b.statusHistories ++ [row]) (ht : row.entityType ≠ .invoice) : Ledger b' := by
  have hrows : ∀ id, b'.rowsOf .invoice id = b.rowsOf .invoice id :=
    fun id => rowsOf_log_other b b' (fun he => ht he.1) hh
  refine ⟨?_, ?_, ?_⟩
  · intro i him
    rw [hi] at him
    exact (h.balanced i him).of_recorded (recordedPayments_other (hrows i.id))
  · rw [hi]
    exact h.reached
  · intro id hn
    rw [hi] at hn
    rw [hrows]
    exact h.absent id hn

/-- One invoice is rewritten and a row about it logged: the ledger holds again
when the rewritten invoice is balanced. -/
theorem Ledger.of_modify {b : Books} {row : StatusHistory} {i : Invoice} {f : Invoice → Invoice}
    {hf : ∀ r, (f r).id = r.id} (h : Ledger b) (hfound : b.invoices.find i.id = some i)
    (hid : row.entityId = i.id)
    (hbalanced : Balanced ({ b with invoices := b.invoices.modify i.id f hf }.log row) (f i))
    (hreached : (f i).status ∈ [InvoiceStatus.issued, .partiallyPaid, .paid, .cancelled]) :
    Ledger ({ b with invoices := b.invoices.modify i.id f hf }.log row) := by
  have hother : ∀ id, id ≠ i.id → rowsOf ({ b with invoices := b.invoices.modify i.id f hf }.log row) .invoice id =
      b.rowsOf .invoice id :=
    fun id hne => rowsOf_log_other b _ (fun he => hne (he.2.symm.trans hid)) rfl
  have hmem : ∀ q, q ∈ b.invoices.modify i.id f hf → (q ∈ b.invoices ∧ q.id ≠ i.id) ∨ q = f i := by
    intro q hq
    cases Table.mem_modify.mp hq with
    | inl hold => exact Or.inl hold
    | inr hnew =>
      obtain ⟨r, hr, hk, rfl⟩ := hnew
      exact Or.inr (congrArg f (Table.eq_of_mem hr (Table.mem_of_find hfound) hk))
  refine ⟨?_, ?_, ?_⟩
  · intro q hq
    cases hmem q hq with
    | inl hold => exact (h.balanced q hold.1).of_recorded (recordedPayments_other (hother q.id hold.2))
    | inr hnew =>
      rw [hnew]
      exact hbalanced
  · intro q hq
    cases hmem q hq with
    | inl hold => exact h.reached q hold.1
    | inr hnew =>
      rw [hnew]
      exact hreached
  · intro id hn
    by_cases hne : id = i.id
    · subst hne
      change (b.invoices.modify i.id f hf).find i.id = none at hn
      rw [Table.find_modify_self, hfound] at hn
      cases hn
    · rw [hother id hne]
      change (b.invoices.modify i.id f hf).find id = none at hn
      rw [Table.find_modify_ne _ _ _ hne] at hn
      exact h.absent id hn

theorem Ledger.of_insert {b : Books} {row : StatusHistory} {i : Invoice} (h : Ledger b)
    (hnew : b.invoices.find i.id = none) (hid : row.entityId = i.id)
    (hbalanced : Balanced ({ b with invoices := b.invoices.insert i }.log row) i) (hissued : i.status = .issued) :
    Ledger ({ b with invoices := b.invoices.insert i }.log row) := by
  have hother : ∀ id, id ≠ i.id → rowsOf ({ b with invoices := b.invoices.insert i }.log row) .invoice id =
      b.rowsOf .invoice id :=
    fun id hne => rowsOf_log_other b _ (fun he => hne (he.2.symm.trans hid)) rfl
  refine ⟨?_, ?_, ?_⟩
  · intro q hq
    cases (Table.mem_insert hnew).mp hq with
    | inl hold =>
      have hne : q.id ≠ i.id := Table.find_eq_none_iff.mp hnew q hold
      exact (h.balanced q hold).of_recorded (recordedPayments_other (hother q.id hne))
    | inr he =>
      rw [he]
      exact hbalanced
  · intro q hq
    cases (Table.mem_insert hnew).mp hq with
    | inl hold => exact h.reached q hold
    | inr he =>
      rw [he, hissued]
      decide
  · intro id hn
    by_cases hne : id = i.id
    · subst hne
      change (b.invoices.insert i).find i.id = none at hn
      rw [Table.find_insert_self hnew] at hn
      cases hn
    · rw [hother id hne]
      change (b.invoices.insert i).find id = none at hn
      rw [Table.find_insert_ne _ _ hne] at hn
      exact h.absent id hn

theorem isPayment_eq {row : StatusHistory} {status : InvoiceStatus} (h : row.toStatus = .invoice status) :
    row.isPayment = decide (status = .partiallyPaid ∨ status = .paid) := by
  rw [StatusHistory.isPayment, h]
  cases status <;> rfl

/-- A new invoice has nothing paid and nothing recorded. -/
theorem Ledger.issue {b : Books} {invoice : Invoice} {row : StatusHistory} (hb : Ledger b)
    (hnew : b.invoices.find invoice.id = none) (hstatus : invoice.status = .issued)
    (hpaid : invoice.amountPaid.val = 0) (hdue : invoice.amountDue = invoice.total) (hpaidAt : invoice.paidAt = none)
    (hrow : row.Logs .invoice invoice.id none (.invoice .issued)) :
    Ledger ({ b with invoices := b.invoices.insert invoice }.log row) := by
  have hrec := recordedPayments_log b ({ b with invoices := b.invoices.insert invoice }.log row)
    hrow.entityType_eq hrow.entityId_eq rfl
  have hzero : b.recordedPayments invoice.id = 0 := by
    rw [recordedPayments, hb.absent invoice.id hnew]
    rfl
  rw [isPayment_eq hrow.toStatus_eq, hzero] at hrec
  refine hb.of_insert hnew hrow.entityId_eq ?_ hstatus
  refine ⟨?_, hpaid.ge, ?_, fun _ => hpaid, ?_, ?_, ?_⟩
  · rw [hdue, hpaid, sub_zero]
  · rw [hpaid, hrec]
    rfl
  · intro hs
    rw [hstatus] at hs
    cases hs
  · intro hs
    rw [hstatus] at hs
    cases hs
  · rw [hpaidAt, hstatus]
    decide

/-- A payment leaves the invoice balanced, if its history counts it. -/
theorem Balanced.pay {b b' : Books} {env : Env} {invoice : Invoice} {amount : ℤ} {paid due : Int4}
    {status : InvoiceStatus} (hold : Balanced b invoice) (hpayment : Payment invoice amount paid due status)
    (hrec : b'.recordedPayments invoice.id = b.recordedPayments invoice.id + amount) :
    Balanced b' (invoice.withPayment paid due status (Payment.paidAt env invoice status)) := by
  have hpos := hpayment.positive
  have hpaid := hpayment.paid_eq
  have hdue := hpayment.due_eq
  have hfits := hpayment.fits
  have hnonneg := hold.nonneg
  have hstatus := hpayment.status_cases
  refine ⟨hdue, ?_, ?_, ?_, ?_, ?_, ?_⟩
  · change 0 ≤ paid.val
    omega
  · change paid.val = b'.recordedPayments invoice.id
    rw [hrec, ← hold.recorded]
    exact hpaid
  · intro hs
    change status = .issued at hs
    rw [hs] at hstatus
    exact absurd hstatus (by decide)
  · intro hs
    change status = .partiallyPaid at hs
    change 0 < paid.val ∧ paid.val < invoice.total.val
    have hd : due.val ≠ 0 := by
      intro hz
      rw [hpayment.status_eq, if_pos hz] at hs
      cases hs
    omega
  · intro hs
    change status = .paid at hs
    change paid.val = invoice.total.val ∧ 0 < invoice.total.val
    have hd : due.val = 0 := by
      by_contra hz
      rw [hpayment.status_eq, if_neg hz] at hs
      cases hs
    omega
  · change (Payment.paidAt env invoice status).isSome = true ↔ status = .paid
    cases hstatus with
    | inl hp => simp [Payment.paidAt, hp]
    | inr hp => simp [Payment.paidAt, hp, hold.paidAt_none (ne_paid_of_payable hpayment.payable)]

theorem Ledger.pay {b : Books} {env : Env} {invoice : Invoice} {amount : ℤ} {paid due : Int4}
    {status : InvoiceStatus} {row : StatusHistory} (hb : Ledger b)
    (hfound : b.invoices.find invoice.id = some invoice) (hpayment : Payment invoice amount paid due status)
    (hrow : row.Logs .invoice invoice.id (some (.invoice invoice.status)) (.invoice status))
    (hamount : row.metadata.map PaymentMetadata.amount = some amount) :
    Ledger ((b.payInvoice invoice.id paid due status (Payment.paidAt env invoice status)).log row) := by
  have hrec := recordedPayments_log b
    ((b.payInvoice invoice.id paid due status (Payment.paidAt env invoice status)).log row)
    hrow.entityType_eq hrow.entityId_eq rfl
  have hcounted : row.isPayment = true := by
    rw [isPayment_eq hrow.toStatus_eq]
    exact decide_eq_true hpayment.status_cases.symm
  have hrow_amount : row.amount = amount := by rw [StatusHistory.amount, hamount, Option.getD_some]
  rw [if_pos hcounted, hrow_amount] at hrec
  refine hb.of_modify hfound hrow.entityId_eq ((hb.balanced invoice (Table.mem_of_find hfound)).pay hpayment hrec) ?_
  change status ∈ _
  cases hpayment.status_cases with
  | inl hp =>
    rw [hp]
    decide
  | inr hp =>
    rw [hp]
    decide

/-- A cancelled invoice keeps what was paid. -/
theorem Ledger.cancel {b : Books} {invoice : Invoice} {row : StatusHistory} (hb : Ledger b)
    (hfound : b.invoices.find invoice.id = some invoice)
    (hvalid : isValidInvoiceTransition invoice.status .cancelled = true)
    (hrow : row.Logs .invoice invoice.id (some (.invoice invoice.status)) (.invoice .cancelled)) :
    Ledger ({ b with invoices := b.invoices.modify invoice.id (fun r => { r with status := .cancelled }) }.log row) := by
  have hrec := recordedPayments_log b
    ({ b with invoices := b.invoices.modify invoice.id (fun r => { r with status := .cancelled }) }.log row)
    hrow.entityType_eq hrow.entityId_eq rfl
  have hold := hb.balanced invoice (Table.mem_of_find hfound)
  refine hb.of_modify hfound hrow.entityId_eq ?_ ?_
  · refine ⟨hold.due, hold.nonneg, ?_, (fun hs => nomatch hs), (fun hs => nomatch hs), (fun hs => nomatch hs), ?_⟩
    · rw [isPayment_eq hrow.toStatus_eq] at hrec
      exact hold.recorded.trans (hrec.trans (add_zero _)).symm
    · change invoice.paidAt.isSome = true ↔ InvoiceStatus.cancelled = .paid
      rw [hold.paidAt_none (ne_paid_of_cancellable hvalid)]
      decide
  · change InvoiceStatus.cancelled ∈ _
    decide

theorem Change.ledger {allowed : Invoice → InvoiceStatus → Prop} {b b' : Books} (hb : Ledger b)
    (h : Change allowed b b') : Ledger b' := by
  cases h with
  | clientCreated client row hnew hstatus hrow =>
    exact hb.of_other rfl rfl (by rw [hrow.entityType_eq]; decide)
  | clientMoved client toStatus now row hfound hvalid hrow =>
    exact hb.of_other rfl rfl (by rw [hrow.entityType_eq]; decide)
  | clientEdited id f hid hstatus =>
    exact ⟨fun i hi => (hb.balanced i hi).of_recorded rfl, hb.reached, hb.absent⟩
  | orderPlaced order row hnew hstatus hrow =>
    exact hb.of_other rfl rfl (by rw [hrow.entityType_eq]; decide)
  | orderMoved order toStatus row hfound hvalid hrow =>
    exact hb.of_other rfl rfl (by rw [hrow.entityType_eq]; decide)
  | invoiceIssued invoice row hnew hstatus hpaid hdue hpaidAt hrow =>
    exact hb.issue hnew hstatus hpaid hdue hpaidAt hrow
  | invoicePaid env invoice amount paid due status row hfound hpayment hallowed hrow hamount =>
    exact hb.pay hfound hpayment hrow hamount
  | invoiceCancelled invoice row hfound hvalid hrow => exact hb.cancel hfound hvalid hrow

theorem ledger_of_blank {b : Books} (hi : b.invoices = ∅) (hh : b.statusHistories = []) : Ledger b := by
  refine ⟨?_, ?_, ?_⟩
  · intro i him
    rw [hi] at him
    exact absurd him (Table.not_mem_empty i)
  · intro i him
    rw [hi] at him
    exact absurd him (Table.not_mem_empty i)
  · intro id _
    rw [rowsOf, hh, List.filter_nil]

end Books

/-- After any calls on tables without invoices and history, every invoice is
balanced. -/
theorem invoices_balanced (s : Store) (hi : s.invoices = ∅) (hh : s.statusHistories = []) (calls : List Call) :
    ∀ i ∈ (runCalls s calls).invoices, (runCalls s calls).books.Balanced i := by
  have h : (runCalls s calls).books.Ledger :=
    runCalls_books (fun _ _ hb hc => hc.ledger hb) (Books.ledger_of_blank (b := s.books) hi hh)
      (alongCalls_pays_any s calls)
  exact h.balanced

open Sample in
theorem invoices_balanced_sale :
    (runCalls (shop 0) (sale [300, 1700])).invoices.rows.map (fun i => (i.status, i.amountPaid.val)) =
        [(.paid, 2000)] ∧
      ∀ i ∈ (runCalls (shop 0) (sale [300, 1700])).invoices,
        (runCalls (shop 0) (sale [300, 1700])).books.Balanced i :=
  ⟨by decide +kernel, invoices_balanced (shop 0) rfl rfl (sale [300, 1700])⟩

end HostPanel.Model
