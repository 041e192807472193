import HostPanel.Books.History

namespace HostPanel.Model

open HostPanel.Lib

namespace Books

/-- The invoice rows that are no creations are edges of the invoice map. -/
def InvoiceMovesLegal (b : Books) : Prop :=
  ∀ row ∈ b.statusHistories, row.entityType = .invoice → ∀ old, row.fromStatus = some old →
    ∃ a c, old = .invoice a ∧ row.toStatus = .invoice c ∧ isValidInvoiceTransition a c = true

/-- The payment does not leave a partially paid invoice partially paid. -/
def advances (invoice : Invoice) (status : InvoiceStatus) : Prop :=
  ¬ (invoice.status = .partiallyPaid ∧ status = .partiallyPaid)

theorem InvoiceMovesLegal.log {b b' : Books} {row : StatusHistory} (h : b.InvoiceMovesLegal)
    (hh : b'.statusHistories = b.statusHistories ++ [row])
    (hrow : row.entityType = .invoice → ∀ old, row.fromStatus = some old →
      ∃ a c, old = .invoice a ∧ row.toStatus = .invoice c ∧ isValidInvoiceTransition a c = true) :
    b'.InvoiceMovesLegal := by
  intro r hr
  rw [hh] at hr
  cases List.mem_append.mp hr with
  | inl hold => exact h r hold
  | inr hnew =>
    rw [List.mem_singleton.mp hnew]
    exact hrow

/-- From the statuses that take a payment, the only step off the map is the one
from partially paid to itself. -/
theorem valid_of_payable {a c : InvoiceStatus} (ha : a ∈ payableStatuses) (hc : c = .paid ∨ c = .partiallyPaid) :
    isValidInvoiceTransition a c = true ↔ ¬ (a = .partiallyPaid ∧ c = .partiallyPaid) := by
  cases hc with
  | inl h =>
    subst h
    revert a
    decide
  | inr h =>
    subst h
    revert a
    decide

theorem Change.invoiceMovesLegal {b b' : Books} (hb : b.InvoiceMovesLegal) (h : Change advances b b') :
    b'.InvoiceMovesLegal := by
  cases h with
  | clientCreated client row hnew hstatus hrow =>
    exact hb.log rfl (fun ht => absurd (hrow.entityType_eq.symm.trans ht) (by decide))
  | clientMoved client toStatus now row hfound hvalid hrow =>
    exact hb.log rfl (fun ht => absurd (hrow.entityType_eq.symm.trans ht) (by decide))
  | clientEdited id f hid hstatus => exact hb
  | orderPlaced order row hnew hstatus hrow =>
    exact hb.log rfl (fun ht => absurd (hrow.entityType_eq.symm.trans ht) (by decide))
  | orderMoved order toStatus row hfound hvalid hrow =>
    exact hb.log rfl (fun ht => absurd (hrow.entityType_eq.symm.trans ht) (by decide))
  | invoiceIssued invoice row hnew hstatus hpaid hdue hpaidAt hrow =>
    refine hb.log rfl (fun _ old hold => ?_)
    rw [hrow.fromStatus_eq] at hold
    cases hold
  | invoicePaid env invoice amount paid due status row hfound hpayment hallowed hrow hamount =>
    refine hb.log rfl (fun _ old hold => ⟨invoice.status, status, ?_, hrow.toStatus_eq, ?_⟩)
    · exact Option.some.inj (hold.symm.trans hrow.fromStatus_eq)
    · exact (valid_of_payable hpayment.payable hpayment.status_cases).mpr hallowed
  | invoiceCancelled invoice row hfound hvalid hrow =>
    refine hb.log rfl (fun _ old hold => ⟨invoice.status, .cancelled, ?_, hrow.toStatus_eq, hvalid⟩)
    exact Option.some.inj (hold.symm.trans hrow.fromStatus_eq)

theorem Change.mem_statusHistories {allowed : Invoice → InvoiceStatus → Prop} {b b' : Books} {row : StatusHistory}
    (hr : row ∈ b.statusHistories) (h : Change allowed b b') : row ∈ b'.statusHistories := by
  cases h.logged with
  | inl hsame =>
    rw [hsame.1]
    exact hr
  | inr hlog =>
    obtain ⟨t, id, r, hl⟩ := hlog
    rw [hl.histories]
    exact List.mem_append_left _ hr

end Books

/-- The call records a payment that leaves a partially paid invoice partially
paid. -/
def Call.RepeatsPartial (s : Store) : Call → Prop
  | markInvoicePaidManually _ actor invoiceId input =>
    hasPermission actor.permissions .invoicesWrite = true ∧ ∃ invoice amount,
      s.invoices.find invoiceId = some invoice ∧ s.hasTenant invoice.tenantId = true ∧
        invoice.status = .partiallyPaid ∧ isCurrencyCode invoice.currency = true ∧ input.amount = .integer amount ∧ 0 < amount ∧
        invoice.amountPaid.val + amount < invoice.total.val ∧
        invoice.total.val - (invoice.amountPaid.val + amount) < 2147483648
  | _ => False

theorem Call.pays_of_not_repeatsPartial {s : Store} {call : Call} (h : ¬ call.RepeatsPartial s) :
    call.Pays Books.advances s := by
  cases call with
  | markInvoicePaidManually env actor invoiceId input =>
    intro invoice amount paid due status s' hp hrep
    obtain ⟨hstanding, hstatus⟩ := hrep
    have hpay := hp.payment
    have hdue := hpay.due_eq
    have hpaid := hpay.paid_eq
    have hfits := hpay.fits
    have hbound := due.property
    have hne : due.val ≠ 0 := by
      intro hz
      rw [hpay.status_eq, if_pos hz] at hstatus
      cases hstatus
    exact h ⟨hp.permitted, invoice, amount, hp.found, hp.tenant_found, hstanding, hpay.currency, hp.amount_eq, hpay.positive,
      by omega, by omega⟩
  | _ => trivial

/-- A repeated partial payment leaves a row that is no edge of the map. -/
theorem Call.illegal_of_repeatsPartial {s : Store} {call : Call} (h : call.RepeatsPartial s) :
    ∃ row ∈ (call.after s).statusHistories, row.entityType = .invoice ∧
      row.fromStatus = some (.invoice .partiallyPaid) ∧ row.toStatus = .invoice .partiallyPaid := by
  cases call with
  | markInvoicePaidManually env actor invoiceId input =>
    obtain ⟨hperm, invoice, amount, hfound, htenant, hstatus, hcode, hamount, hpos, hlt, hbound⟩ := h
    have hpayable : invoice.status ∈ payableStatuses := by
      rw [hstatus]
      decide
    obtain ⟨paid, due, hafter⟩ :=
      markInvoicePaidManually_leavesDue env hperm hfound htenant hpayable hcode hamount hpos hlt hbound
    refine ⟨paymentRecorded actor invoice .partiallyPaid amount input, ?_, rfl, ?_, rfl⟩
    · change _ ∈ ((Model.markInvoicePaidManually env actor invoiceId input).after s).statusHistories
      rw [hafter]
      exact List.mem_append_right _ (List.mem_singleton.mpr rfl)
    · rw [paymentRecorded, hstatus]
  | _ => exact h.elim

theorem mem_statusHistories_runCalls {s : Store} {row : StatusHistory} (h : row ∈ s.statusHistories)
    (calls : List Call) : row ∈ (runCalls s calls).statusHistories :=
  runCalls_books (I := fun b => row ∈ b.statusHistories) (fun _ _ hb hc => hc.mem_statusHistories hb) h
    (alongCalls_pays_any s calls)

theorem invoiceMovesLegal_runCalls {s : Store} (h : s.books.InvoiceMovesLegal) (calls : List Call) :
    (runCalls s calls).books.InvoiceMovesLegal ↔
      AlongCalls (fun s call => ¬ call.RepeatsPartial s) s calls := by
  induction calls generalizing s with
  | nil => exact ⟨fun _ => trivial, fun _ => h⟩
  | cons call calls ih =>
    rw [runCalls_cons]
    by_cases hrep : call.RepeatsPartial s
    · obtain ⟨row, hrow, ht, hfrom, hto⟩ := Call.illegal_of_repeatsPartial hrep
      refine ⟨fun hlegal => ?_, fun halong => absurd hrep halong.1⟩
      obtain ⟨a, c, ha, hc, hvalid⟩ := hlegal row (mem_statusHistories_runCalls hrow calls) ht _ hfrom
      cases ha
      cases hto.symm.trans hc
      exact absurd hvalid (by decide)
    · have hafter : (call.after s).books.InvoiceMovesLegal :=
        (call.changes s (Call.pays_of_not_repeatsPartial hrep)).inv (fun _ _ hb hc => hc.invoiceMovesLegal hb) h
      rw [ih hafter]
      exact ⟨fun halong => ⟨hrep, halong⟩, fun halong => halong.2⟩

/-- Over any calls on tables without history, every recorded invoice move is an
edge of the map exactly when no call repeats a partial payment. -/
theorem invoice_moves_legal_iff (s : Store) (h : s.statusHistories = []) (calls : List Call) :
    (runCalls s calls).books.InvoiceMovesLegal ↔
      AlongCalls (fun s call => ¬ call.RepeatsPartial s) s calls := by
  refine invoiceMovesLegal_runCalls ?_ calls
  intro row hrow
  change row ∈ s.statusHistories at hrow
  rw [h] at hrow
  exact absurd hrow List.not_mem_nil

open Sample in
/-- Two part payments record a move from partially paid to partially paid. -/
theorem second_part_payment_illegal :
    (runCalls (shop 0) (sale [300, 400])).statusHistories.map (fun row => (row.fromStatus, row.toStatus)) =
        [(none, .order .pending), (none, .invoice .issued),
          (some (.order .pending), .order .awaitingPayment),
          (some (.invoice .issued), .invoice .partiallyPaid),
          (some (.invoice .partiallyPaid), .invoice .partiallyPaid)] ∧
      ¬ (runCalls (shop 0) (sale [300, 400])).books.InvoiceMovesLegal := by
  have hrow : ∃ row ∈ (runCalls (shop 0) (sale [300, 400])).statusHistories, row.entityType = .invoice ∧
      row.fromStatus = some (.invoice .partiallyPaid) ∧ row.toStatus = .invoice .partiallyPaid := by decide +kernel
  refine ⟨by decide +kernel, fun hlegal => ?_⟩
  obtain ⟨row, hmem, ht, hfrom, hto⟩ := hrow
  obtain ⟨a, c, ha, hc, hvalid⟩ := hlegal row hmem ht _ hfrom
  cases ha
  cases hto.symm.trans hc
  exact absurd hvalid (by decide)

open Sample in
theorem invoice_moves_legal_iff_sale :
    (runCalls (shop 0) (sale [300, 1700])).books.InvoiceMovesLegal ↔
      AlongCalls (fun s call => ¬ call.RepeatsPartial s) (shop 0) (sale [300, 1700]) :=
  invoice_moves_legal_iff (shop 0) rfl (sale [300, 1700])

end HostPanel.Model
