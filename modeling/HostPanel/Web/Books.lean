import HostPanel.Books.Agreement
import HostPanel.Web.Writes

namespace HostPanel.Model

open HostPanel.Lib HostPanel.Lib.Program

/-- Nothing happens to the books but edits of client rows. -/
structure Store.Edited (s t : Store) : Prop where
  changes : Books.Changes (fun _ _ => True) s.books t.books
  sales : t.sales = s.sales

theorem Store.edited_refl (s : Store) : s.Edited s := ⟨.refl, rfl⟩

theorem Store.Edited.trans {s t u : Store} (h : s.Edited t) (h' : t.Edited u) : s.Edited u :=
  ⟨h.changes.trans h'.changes, h'.sales.trans h.sales⟩

theorem Store.edited_of_books (s : Store) {t : Store} (h : t.books = s.books) : s.Edited t := by
  have hsales : (t.books.orders, t.books.invoices) = (s.books.orders, s.books.invoices) := by rw [h]
  refine ⟨?_, hsales⟩
  rw [h]
  exact .refl

/-- Outside the books only a login writes to them: the time of it, to the row of
the client. -/
theorem keptByLinks_edits : KeptByLinks Store.Edited where
  trans _ _ _ := .trans
  setup :=
    { refl := Store.edited_refl
      tenant := fun _ t => t.edited_of_books rfl
      permission := fun _ _ t => t.edited_of_books rfl
      role := fun _ _ t => t.edited_of_books rfl
      rolePermission := fun _ t => t.edited_of_books rfl
      staffUser := fun _ t => t.edited_of_books rfl
      auditLog := fun _ t => t.edited_of_books rfl }
  events _ t := t.edited_of_books rfl
  clients i at_ t :=
    ⟨.single (.clientEdited (b := t.books) i (fun r => { r with lastLoginAt := some at_, updatedAt := at_ }) (fun _ => rfl)
      (fun _ => rfl)), rfl⟩
  mail t _ := t.edited_of_books rfl
  staffUser _ _ _ _ t := t.edited_of_books rfl
  contact _ _ _ _ t := t.edited_of_books rfl
  newStaffSession _ t := t.edited_of_books rfl
  staffSession _ _ t := t.edited_of_books rfl
  newClientSession _ t := t.edited_of_books rfl
  clientSession _ _ t := t.edited_of_books rfl
  newLink _ t := t.edited_of_books rfl
  staffPassword _ _ _ t := t.edited_of_books rfl
  contactPassword _ _ t := t.edited_of_books rfl
  link _ _ t := t.edited_of_books rfl
  productGroup _ t := t.edited_of_books rfl
  product _ t := t.edited_of_books rfl
  newSetting _ t := t.edited_of_books rfl
  setting _ _ _ t := t.edited_of_books rfl

/-- No invoice stands as a draft, overdue, cancelled or refunded. -/
def Store.Standing (s : Store) : Prop := ∀ i ∈ s.invoices, i.status ∈ [InvoiceStatus.issued, .partiallyPaid, .paid]

section Standing

variable {env : Env} {s s' : Store}

theorem OrderStep.standing {target : Option Id} {toStatus : OrderStatus} {actor : TransitionActor}
    {reason : Option String} (h : OrderStep s target toStatus actor reason s') (hs : s.Standing) : s'.Standing := by
  cases target with
  | none =>
    obtain rfl : s' = s := h
    exact hs
  | some id =>
    obtain ⟨_, _, _, _, hinvoices⟩ := h.replaced
    rw [Store.Standing, hinvoices]
    exact hs

theorem Issued.standing {order : Order} {actor : TransitionActor} {client : Client} {invoice : Invoice}
    (h : Issued env order actor client s invoice s') (hs : s.Standing) : s'.Standing := by
  obtain ⟨value, _, _, hstep⟩ := h.after
  refine hstep.standing (fun i hi => ?_)
  rw [issueInvoice_invoices] at hi
  obtain hold | rfl := Table.of_mem_insert hi
  · exact hs i hold
  · have hissued : i.status = .issued := by rw [h.invoice_eq]; rfl
    rw [hissued]
    decide

theorem Paid.standing {actor : StaffActor} {invoiceId : Id} {input : PaymentInput} {invoice : Invoice} {amount : ℤ}
    {paid due : Int4} {status : InvoiceStatus}
    (h : Paid env actor invoiceId input s invoice amount paid due status s') (hs : s.Standing) : s'.Standing := by
  refine h.after.standing (fun i hi => ?_)
  have hi' : i ∈ s.invoices.modify invoice.id (Invoice.withPayment paid due status (Payment.paidAt env invoice status))
    (Invoice.withPayment_id _ _ _ _) := hi
  obtain ⟨hold, _⟩ | ⟨r, _, _, rfl⟩ := Table.mem_modify.mp hi'
  · exact hs i hold
  · change status ∈ _
    obtain rfl | rfl := h.payment.status_cases <;> decide

/-- But for a cancellation a call leaves the invoices standing. -/
theorem Call.standing (call : Call) (hcancel : ∀ actor id reason, call ≠ .cancelInvoice actor id reason) (hs : s.Standing) :
    (call.after s).Standing := by
  have others : call.sells = false → (call.after s).Standing := by
    intro h
    have hinvoices : (call.after s).invoices = s.invoices := congrArg Prod.snd (Call.sales_after h s)
    rw [Store.Standing, hinvoices]
    exact hs
  cases call with
  | createOrder env actor input =>
    refine inv_of_atomic (P := Store.Standing) (atomic_createOrder env actor input) hs (fun order c t hev => ?_)
    obtain ⟨_, ⟨_, rfl⟩ | ⟨_, client, rows, hplaced⟩⟩ := createOrder_ok hev
    · exact hs
    · obtain ⟨value, _, _, rfl⟩ := hplaced.after
      rw [Store.Standing, placeOrder_invoices]
      exact hs
  | issueInvoiceForOrder env order actor =>
    refine inv_of_atomic (P := Store.Standing) (atomic_issueInvoiceForOrder env order actor) hs
      (fun invoice c t hev => ?_)
    obtain ⟨_, client, hissued⟩ := issueInvoiceForOrder_ok hev
    exact hissued.standing hs
  | markInvoicePaidManually env actor invoiceId input =>
    refine inv_of_atomic (P := Store.Standing) (atomic_markInvoicePaidManually env actor invoiceId input) hs
      (fun updated c t hev => ?_)
    obtain ⟨_, invoice, amount, paid, due, status, hpaid⟩ := markInvoicePaidManually_ok hev
    exact hpaid.standing hs
  | cancelInvoice actor invoiceId reason => exact absurd rfl (hcancel actor invoiceId reason)
  | _ => exact others rfl

end Standing

namespace ServiceCall

theorem changes (call : ServiceCall) (s : Store) :
    Books.Changes (fun _ _ => True) s.books (call.after s).books := by
  obtain ⟨c, rfl⟩ | hedited := keptByLinks_edits.anyServiceCall call s
  · exact c.changes s (alongCalls_pays_any s [c]).1
  · exact hedited.changes

/-- An order that is invoiced is read where it is invoiced, so no copy is kept. -/
theorem agree (call : ServiceCall) {s : Store} (hweb : call.OfWeb s) (h : s.Agree []) : (call.after s).Agree [] := by
  obtain ⟨c, rfl⟩ | hedited := keptByLinks_edits.anyServiceCall call s
  · cases c with
    | issueInvoiceForOrder env order actor =>
      have hread : s.Agree [order] := Model.Agree.read h hweb
      have hafter := Call.agree (.issueInvoiceForOrder env order actor) (List.mem_singleton.mpr rfl) hread
      exact { hafter with copies := fun _ hcopy => absurd hcopy List.not_mem_nil }
    | _ => exact Call.agree _ trivial h
  · have horders : (call.after s).orders = s.orders := congrArg Prod.fst hedited.sales
    have hinvoices : (call.after s).invoices = s.invoices := congrArg Prod.snd hedited.sales
    rw [Store.Agree, horders, hinvoices]
    exact h

theorem standing (call : ServiceCall) {s : Store} (hweb : call.OfWeb s) (h : s.Standing) : (call.after s).Standing := by
  obtain ⟨c, rfl⟩ | hedited := keptByLinks_edits.anyServiceCall call s
  · refine c.standing (fun actor id reason hcancel => ?_) h
    rw [hcancel] at hweb
    exact hweb
  · have hinvoices : (call.after s).invoices = s.invoices := congrArg Prod.snd hedited.sales
    rw [Store.Standing, hinvoices]
    exact h

end ServiceCall

namespace Sample

end Sample

end HostPanel.Model
