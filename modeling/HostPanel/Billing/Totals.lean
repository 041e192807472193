import HostPanel.Billing.Settlement
import HostPanel.Model.Dashboard

namespace HostPanel.Model

open HostPanel.Lib HostPanel.Lib.Program

/-- The dashboard has a total to show, in whatever order it reads the invoices. -/
def Store.HasTotal (s : Store) : Prop :=
  ∀ rows : List Invoice, rows.Perm s.unpaidInvoices → ∃ total, unpaidTotal rows = .ok total

/-- An invoice that is issued is in the one currency of those that are unpaid,
written in upper case. -/
def Call.KeepsTotal (s : Store) : Call → Prop
  | issueInvoiceForOrder env order _ =>
    order.Invoiceable env s → isCurrencyCode order.currency = true ∧ toUpperCase order.currency = order.currency ∧
      ∀ i ∈ s.unpaidInvoices, i.currency = order.currency
  | _ => True

section Steps

variable {s t : Store}

theorem hasTotal_iff : s.HasTotal ↔ OneCurrency s.unpaidInvoices := by
  constructor
  · exact fun h => (unpaidTotal_ok_iff _).mp (h _ (List.Perm.refl _))
  · intro h rows hperm
    refine (unpaidTotal_ok_iff rows).mpr (fun i hi => ?_)
    obtain ⟨hcode, hupper, hsame⟩ := h i (hperm.mem_iff.mp hi)
    exact ⟨hcode, hupper, fun j hj => hsame j (hperm.mem_iff.mp hj)⟩

theorem hasTotal_of_empty (h : s.invoices = ∅) : s.HasTotal := by
  refine hasTotal_iff.mpr (fun i hi => ?_)
  have hmem := (mem_unpaidInvoices.mp hi).1
  rw [h] at hmem
  exact absurd hmem (Table.not_mem_empty i)

theorem hasTotal_of_subset (h : s.HasTotal)
    (hold : ∀ i ∈ t.unpaidInvoices, ∃ j ∈ s.unpaidInvoices, i.currency = j.currency) : t.HasTotal := by
  rw [hasTotal_iff] at h ⊢
  intro i hi
  obtain ⟨i', hi', hcurrency⟩ := hold i hi
  obtain ⟨hcode, hupper, hsame⟩ := h i' hi'
  rw [hcurrency]
  refine ⟨hcode, hupper, fun j hj => ?_⟩
  obtain ⟨j', hj', hcurrency'⟩ := hold j hj
  rw [hcurrency']
  exact hsame j' hj'

theorem hasTotal_of_same (h : s.HasTotal) (hsame : t.invoices = s.invoices) : t.HasTotal := by
  refine hasTotal_of_subset h (fun i hi => ⟨i, ?_, rfl⟩)
  rw [mem_unpaidInvoices, hsame] at hi
  exact mem_unpaidInvoices.mpr hi

theorem hasTotal_of_replaced {i i' : Invoice} (h : s.HasTotal) (hrep : Table.Replaced s.invoices t.invoices i i')
    (hunpaid : i'.isUnpaid = true → i.isUnpaid = true ∧ i'.currency = i.currency) : t.HasTotal := by
  refine hasTotal_of_subset h (fun j hj => ?_)
  obtain ⟨hmem, hjunpaid⟩ := mem_unpaidInvoices.mp hj
  obtain ⟨hold, _⟩ | rfl := (hrep.mem_iff j).mp hmem
  · exact ⟨j, mem_unpaidInvoices.mpr ⟨hold, hjunpaid⟩, rfl⟩
  · obtain ⟨hi, hcurrency⟩ := hunpaid hjunpaid
    exact ⟨i, mem_unpaidInvoices.mpr ⟨hrep.mem, hi⟩, hcurrency⟩

/-- A new invoice leaves a total just when it is in the currency of the others. -/
theorem Issued.hasTotal_iff {env : Env} {order : Order} {actor : TransitionActor} {client : Client} {invoice : Invoice}
    (hi : Issued env order actor client s invoice t) :
    t.HasTotal ↔ isCurrencyCode order.currency = true ∧ toUpperCase order.currency = order.currency ∧
      ∀ i ∈ s.unpaidInvoices, i.currency = order.currency := by
  have he := hi.invoice_eq
  have hunpaid : invoice.isUnpaid = true := by rw [he]; rfl
  have hcurrency : invoice.currency = order.currency := by rw [he]; rfl
  have hmem : ∀ i, i ∈ t.unpaidInvoices ↔ i ∈ s.unpaidInvoices ∨ i = invoice := by
    intro i
    rw [mem_unpaidInvoices, mem_unpaidInvoices, hi.mem_invoices.1 i, or_and_right]
    refine or_congr_right ⟨fun hnew => hnew.1, ?_⟩
    rintro rfl
    exact ⟨rfl, hunpaid⟩
  rw [Model.hasTotal_iff]
  constructor
  · intro ht
    obtain ⟨hcode, hupper, hsame⟩ := ht invoice ((hmem invoice).mpr (Or.inr rfl))
    rw [hcurrency] at hcode hupper hsame
    exact ⟨hcode, hupper, fun i hold => hsame i ((hmem i).mpr (Or.inl hold))⟩
  · rintro ⟨hcode, hupper, hsame⟩ i hit
    have hall : ∀ j ∈ t.unpaidInvoices, j.currency = order.currency := by
      intro j hj
      obtain hold | rfl := (hmem j).mp hj
      · exact hsame j hold
      · exact hcurrency
    rw [hall i hit]
    exact ⟨hcode, hupper, hall⟩

/-- A call leaves the dashboard a total just when it may be made. -/
theorem Call.hasTotal_iff (call : Call) (h : s.HasTotal) : (call.after s).HasTotal ↔ call.KeepsTotal s := by
  cases call with
  | createOrder env actor input =>
    refine iff_of_true ?_ trivial
    refine inv_of_atomic (P := Store.HasTotal) (atomic_createOrder env actor input) h (fun order c s' hev => ?_)
    obtain ⟨_, ⟨_, rfl⟩ | ⟨_, client, rows, hp⟩⟩ := createOrder_ok hev
    · exact h
    · obtain ⟨value, _, _, rfl⟩ := hp.after
      exact hasTotal_of_same h (placeOrder_invoices s actor input order value)
  | issueInvoiceForOrder env order actor =>
    change ((Model.issueInvoiceForOrder env order actor).after s).HasTotal ↔ _
    obtain ⟨hnot, he⟩ | ⟨hinv, client, invoice, s', hi, he⟩ := issueInvoiceForOrder_after env order actor s
    · rw [he]
      exact iff_of_true h (fun hinv => absurd hinv hnot)
    · rw [he, hi.hasTotal_iff]
      exact ⟨fun hall _ => hall, fun hall => hall hinv⟩
  | markInvoicePaidManually env actor invoiceId input =>
    refine iff_of_true ?_ trivial
    refine inv_of_atomic (P := Store.HasTotal) (atomic_markInvoicePaidManually env actor invoiceId input) h
      (fun updated c s' hev => ?_)
    obtain ⟨_, i, amount, paid, due, status, hp⟩ := markInvoicePaidManually_ok hev
    have hi : i ∈ s.invoices := Table.mem_of_find hp.found
    have hrep : Table.Replaced s.invoices s'.invoices i
        (i.withPayment paid due status (Payment.paidAt env i status)) := by
      rw [hp.after.invoices]
      exact Table.replaced_modify hi _ (Invoice.withPayment_id paid due status (Payment.paidAt env i status))
    exact hasTotal_of_replaced h hrep (fun _ => ⟨decide_eq_true hp.payment.payable, rfl⟩)
  | cancelInvoice actor invoiceId reason =>
    refine iff_of_true ?_ trivial
    refine inv_of_atomic (P := Store.HasTotal) (atomic_cancelInvoice actor invoiceId reason) h
      (fun updated c s' hev => ?_)
    obtain ⟨_, _, i, hcan⟩ := cancelInvoice_ok hev
    rw [hcan.after]
    have hi : i ∈ s.invoices := Table.mem_of_find hcan.found
    have hclosed : ({ i with status := .cancelled } : Invoice).isUnpaid = false := rfl
    refine hasTotal_of_replaced h
      (Table.replaced_modify hi (fun r => { r with status := .cancelled }) (fun _ => rfl)) (fun hunpaid => ?_)
    rw [hclosed] at hunpaid
    cases hunpaid
  | _ => exact iff_of_true (hasTotal_of_same h (congrArg Prod.snd (Call.sales_after rfl s))) trivial

end Steps

/-- Along every run from tables without invoices the dashboard has a total in
all tables on the way just when every invoice is issued in the currency of the
unpaid ones, written in upper case. -/
theorem unpaid_total_iff (s : Store) (h : s.invoices = ∅) (calls : List Call) :
    (∀ before, before <+: calls → (runCalls s before).HasTotal) ↔
      AlongCalls (fun s call => call.KeepsTotal s) s calls :=
  forall_prefix_iff_alongRun (I := fun _ => True) (G := fun _ _ => True) (fun _ _ _ _ _ => trivial)
    (fun _ call _ _ ht => call.hasTotal_iff ht) trivial (hasTotal_of_empty h)
    (alongRun_of_forall (fun _ _ => trivial) s calls)

namespace Sample

/-- Two months are ordered and invoiced in dollars; then the product gets a
price in euros as well, and a month of it is ordered. -/
def euroSale : List Call :=
  sale [] ++
    [.setProductPrice (env "e") staff
        { productId := "product", currency := "EUR", billingCycle := .monthly, price := .integer 900
          effectiveFrom := some 0 },
      .createOrder (env "f") (.staff staff)
        { clientId := "client", currency := "EUR", idempotencyKey := "euro"
          items := [{ productId := "product", quantity := .integer 1, billingCycle := "MONTHLY" }] }]

def euroOrder : Order := ((runCalls (shop 0) euroSale).orders.find "id-f0").get (by decide +kernel)

def mixedSale : List Call := euroSale ++ [.issueInvoiceForOrder (env "g") euroOrder staff.transitionActor]

end Sample

open Sample in
/-- An invoice in euros and one in dollars are both unpaid, and the dashboard
throws. -/
theorem mixed_currencies_throw :
    (shop 0).invoices = ∅ ∧
      (runCalls (shop 0) mixedSale).unpaidInvoices.map (fun i => (i.id, i.currency, i.amountDue.val)) =
        [("id-b0", "USD", 2000), ("id-g0", "EUR", 900)] ∧
      (match unpaidTotal (runCalls (shop 0) mixedSale).unpaidInvoices with
        | .error e => decide (e = moneyError "Currency mismatch: USD vs EUR")
        | .ok _ => false) = true ∧
      ¬ (runCalls (shop 0) mixedSale).HasTotal := by
  have hmixed : ∃ i ∈ (runCalls (shop 0) mixedSale).unpaidInvoices, ∃ j ∈ (runCalls (shop 0) mixedSale).unpaidInvoices,
      j.currency ≠ i.currency := by decide +kernel
  refine ⟨rfl, by decide +kernel, by decide +kernel, fun h => ?_⟩
  obtain ⟨i, hi, j, hj, hne⟩ := hmixed
  exact hne ((hasTotal_iff.mp h i hi).2.2 j hj)

open Sample in
/-- One invoice in dollars, paid in part, has a total all the way. -/
theorem unpaid_total_iff_sale :
    (∀ before, before <+: sale [300] → (runCalls (shop 0) before).HasTotal) ∧
      (runCalls (shop 0) (sale [300])).unpaidInvoices.map (fun i => i.amountDue.val) = [1700] := by
  have hnone : ((Call.createOrder (env "a") (.staff staff) twoMonths).after (shop 0)).unpaidInvoices = [] := by
    decide +kernel
  have hinvoiced : Call.KeepsTotal ((Call.createOrder (env "a") (.staff staff) twoMonths).after (shop 0))
      (.issueInvoiceForOrder (env "b") placed staff.transitionActor) := by
    refine fun _ => ⟨by decide +kernel, by decide +kernel, fun i hi => ?_⟩
    rw [hnone] at hi
    cases hi
  exact ⟨(unpaid_total_iff (shop 0) rfl (sale [300])).mpr ⟨trivial, hinvoiced, trivial, trivial⟩, by decide +kernel⟩

end HostPanel.Model
