import HostPanel.Lib.Transactions
import HostPanel.Access.Aging
import HostPanel.Model.Exports
import HostPanel.Pricing.Timeline

namespace HostPanel.Model

open HostPanel.Lib HostPanel.Lib.Program

/-- Only the status of an order changes. -/
def Order.Kept (r r' : Order) : Prop := r' = { r with status := r'.status }

/-- Only the status and the payments of an invoice change. -/
def Invoice.Kept (r r' : Invoice) : Prop :=
  r' = { r with status := r'.status, amountPaid := r'.amountPaid, amountDue := r'.amountDue, paidAt := r'.paidAt }

/-- A price stays, or it is open and is closed. -/
def ProductPrice.Kept (r r' : ProductPrice) : Prop :=
  r' = r ∨ r.effectiveTo = none ∧ ∃ stop, r' = { r with effectiveTo := some stop }

/-- The financial records of one state stand in another: orders and invoices
with their items, prices, and the histories. -/
structure Store.RecordsKept (s s' : Store) : Prop where
  orders : Grown Order.Kept s.orders.rows s'.orders.rows
  invoices : Grown Invoice.Kept s.invoices.rows s'.invoices.rows
  productPrices : Grown ProductPrice.Kept s.productPrices.rows s'.productPrices.rows
  statusHistories : s.statusHistories <+: s'.statusHistories
  auditLogs : s.auditLogs <+: s'.auditLogs

theorem Order.kept_refl (r : Order) : r.Kept r := rfl

theorem Order.Kept.trans {r r' r'' : Order} (h : r.Kept r') (h' : r'.Kept r'') : r.Kept r'' := by
  unfold Order.Kept at *
  rw [h', h]

theorem Invoice.kept_refl (r : Invoice) : r.Kept r := rfl

theorem Invoice.Kept.trans {r r' r'' : Invoice} (h : r.Kept r') (h' : r'.Kept r'') : r.Kept r'' := by
  unfold Invoice.Kept at *
  rw [h', h]

theorem ProductPrice.kept_refl (r : ProductPrice) : r.Kept r := Or.inl rfl

theorem ProductPrice.Kept.trans {r r' r'' : ProductPrice} (h : r.Kept r') (h' : r'.Kept r'') : r.Kept r'' := by
  obtain rfl | ⟨hopen, stop, rfl⟩ := h
  · exact h'
  · obtain rfl | ⟨hstill, _⟩ := h'
    · exact Or.inr ⟨hopen, stop, rfl⟩
    · cases hstill

theorem Store.recordsKept_refl (s : Store) : s.RecordsKept s :=
  ⟨.refl Order.kept_refl _, .refl Invoice.kept_refl _, .refl ProductPrice.kept_refl _, List.prefix_refl _,
    List.prefix_refl _⟩

theorem Store.RecordsKept.trans {s t u : Store} (h : s.RecordsKept t) (h' : t.RecordsKept u) : s.RecordsKept u :=
  ⟨h.orders.trans (fun _ _ _ => .trans) h'.orders, h.invoices.trans (fun _ _ _ => .trans) h'.invoices,
    h.productPrices.trans (fun _ _ _ => .trans) h'.productPrices, h.statusHistories.trans h'.statusHistories,
    h.auditLogs.trans h'.auditLogs⟩

/-- The tables of the records. -/
def Store.records (s : Store) :
    Table Order.id × Table Invoice.id × Table ProductPrice.id × List StatusHistory × List AuditLog :=
  (s.orders, s.invoices, s.productPrices, s.statusHistories, s.auditLogs)

theorem recordsKept_of_records (s t : Store) (h : t.records = s.records) : s.RecordsKept t := by
  simp only [Store.records, Prod.mk.injEq] at h
  obtain ⟨ho, hi, hp, hs, ha⟩ := h
  have hrefl := s.recordsKept_refl
  exact ⟨ho ▸ hrefl.orders, hi ▸ hrefl.invoices, hp ▸ hrefl.productPrices, hs ▸ hrefl.statusHistories,
    ha ▸ hrefl.auditLogs⟩

section Writes

variable (s : Store)

theorem recordsKept_withAuditLog (row : AuditLog) : s.RecordsKept (s.withAuditLog row) :=
  { s.recordsKept_refl with auditLogs := List.prefix_append _ _ }

theorem recordsKept_withStatusHistory (row : StatusHistory) : s.RecordsKept (s.withStatusHistory row) :=
  { s.recordsKept_refl with statusHistories := List.prefix_append _ _ }

theorem recordsKept_withLabelledAudit (label : Option String) (row : String → AuditLog) :
    s.RecordsKept (s.withLabelledAudit label row) :=
  Store.of_withLabelledAudit s.recordsKept_refl (fun text => recordsKept_withAuditLog s (row text))

theorem recordsKept_withCounter (ref : Id × String) (value : Int4) : s.RecordsKept (s.withCounter ref value) :=
  recordsKept_of_records s _ rfl

theorem recordsKept_modifyOrder (i : Id) (f : Order → Order) (hf : ∀ r, (f r).id = r.id)
    (h : ∀ r, Order.Kept r (f r)) : s.RecordsKept (prisma.order.modify i f hf s) :=
  { s.recordsKept_refl with orders := Table.grown_updateWhere Order.kept_refl _ _ f hf (fun r _ => h r) }

theorem recordsKept_insertOrder (row : Order) : s.RecordsKept (prisma.order.insert row s) :=
  { s.recordsKept_refl with orders := Table.grown_insert Order.kept_refl _ row }

theorem recordsKept_modifyInvoice (i : Id) (f : Invoice → Invoice) (hf : ∀ r, (f r).id = r.id)
    (h : ∀ r, Invoice.Kept r (f r)) : s.RecordsKept (prisma.invoice.modify i f hf s) :=
  { s.recordsKept_refl with invoices := Table.grown_updateWhere Invoice.kept_refl _ _ f hf (fun r _ => h r) }

theorem recordsKept_insertInvoice (row : Invoice) : s.RecordsKept (prisma.invoice.insert row s) :=
  { s.recordsKept_refl with invoices := Table.grown_insert Invoice.kept_refl _ row }

theorem recordsKept_insertPrice (row : ProductPrice) : s.RecordsKept (prisma.productPrice.insert row s) :=
  { s.recordsKept_refl with productPrices := Table.grown_insert ProductPrice.kept_refl _ row }

/-- Closing a price that is open. -/
theorem recordsKept_closePrice {previous : Option ProductPrice} (stop : DateTime)
    (h : ∀ r, previous = some r → r ∈ s.productPrices ∧ r.effectiveTo = none) :
    s.RecordsKept (s.closePrice previous stop) := by
  cases previous with
  | none => exact s.recordsKept_refl
  | some p =>
    obtain ⟨hp, hopen⟩ := h p rfl
    refine { s.recordsKept_refl with productPrices := Grown.map_of_mem (fun r hr => ?_) }
    by_cases hid : r.id = p.id
    · have he : r = p := Table.eq_of_mem hr hp hid
      rw [if_pos (decide_eq_true hid)]
      exact Or.inr ⟨he ▸ hopen, stop, rfl⟩
    · rw [if_neg (by simp [hid])]
      exact r.kept_refl

end Writes

section Services

variable {env : Env}

theorem keptByAccess_records : KeptByAccess (fun _ => True) Store.RecordsKept where
  traces s t h := by
    have hrecords : t.withoutTraces.records = s.withoutTraces.records := congrArg Store.records h
    exact recordsKept_of_records s t hrecords
  auditLog row t := recordsKept_withAuditLog t row
  statusHistory row t := recordsKept_withStatusHistory t row
  staffUser _ _ _ _ t := recordsKept_of_records t _ rfl
  newStaffUser _ t := recordsKept_of_records t _ rfl
  staffSession _ _ _ _ t := recordsKept_of_records t _ rfl
  newStaffSession _ _ t := recordsKept_of_records t _ rfl
  contact _ _ _ _ t := recordsKept_of_records t _ rfl
  newContact _ t := recordsKept_of_records t _ rfl
  clientSession _ _ _ _ t := recordsKept_of_records t _ rfl
  newClientSession _ _ t := recordsKept_of_records t _ rfl

theorem keeps_of_guarantees {α : Type} {p : Db α} (hp : p.Guarantees Store.RecordsKept) (s : Store) :
    p.Keeps Store.RecordsKept s s := hp.keeps Store.recordsKept_refl (fun _ _ _ => .trans) s.recordsKept_refl

theorem keeping_recordAuditLog (row : AuditLog) : (recordAuditLog row).Guarantees Store.RecordsKept :=
  guarantees_recordAuditLog row (fun t => recordsKept_withAuditLog t row)

theorem keeping_createProductGroup (actor : StaffActor) (input : ProductGroupInput) :
    (createProductGroup env actor input).Guarantees Store.RecordsKept := by
  refine (guarantees_requirePermission _ _).bind (fun _ => Guarantees.transaction ?_)
  refine (guarantees_lift _).bind (fun sortOrder => ?_)
  refine (Relation.guarantees_create _ (fun t => recordsKept_of_records t _ rfl)).bind (fun group => ?_)
  exact (keeping_recordAuditLog _).bind (fun _ => trivial)

theorem keeping_createProduct (actor : StaffActor) (input : ProductInput) :
    (createProduct env actor input).Guarantees Store.RecordsKept := by
  refine (guarantees_requirePermission _ _).bind (fun _ => Guarantees.transaction ?_)
  refine (guarantees_lift _).bind (fun stockLimit => (guarantees_lift _).bind (fun sortOrder => ?_))
  refine (Relation.guarantees_create _ (fun t => recordsKept_of_records t _ rfl)).bind (fun product => ?_)
  exact (keeping_recordAuditLog _).bind (fun _ => trivial)

theorem keeping_setSetting (actor : StaffActor) (key : String) (value : JsonObject) :
    (setSetting env actor key value).Guarantees Store.RecordsKept := by
  refine (guarantees_requirePermission _ _).bind (fun _ => Guarantees.transaction ?_)
  refine (Relation.guarantees_findUnique _).bind (fun before => Guarantees.bind ?_ (fun after => ?_))
  · refine Relation.guarantees_upsertSet _ _ _ _ (fun t => ?_) (fun t => ?_)
    · exact recordsKept_of_records t _ rfl
    · exact recordsKept_of_records t _ rfl
  · exact keeping_recordAuditLog _

theorem keptBySetup_records : KeptBySetup Store.RecordsKept where
  refl := Store.recordsKept_refl
  tenant _ t := recordsKept_of_records t _ rfl
  permission _ _ t := recordsKept_of_records t _ rfl
  role _ _ t := recordsKept_of_records t _ rfl
  rolePermission _ t := recordsKept_of_records t _ rfl
  staffUser _ t := recordsKept_of_records t _ rfl
  auditLog row t := recordsKept_withAuditLog t row

theorem keeping_transitionOrderStatus (orderId : Id) (toStatus : OrderStatus) (actor : TransitionActor)
    (reason : Option String) : (transitionOrderStatus orderId toStatus actor reason).Guarantees Store.RecordsKept :=
  guarantees_transitionOrderStatus (fun t _ => recordsKept_modifyOrder t _ _ _ (fun _ => rfl))
    recordsKept_withStatusHistory recordsKept_withAuditLog orderId actor reason

theorem OrderStep.recordsKept {s s' : Store} {target : Option Id} {toStatus : OrderStatus} {actor : TransitionActor}
    {reason : Option String} (h : OrderStep s target toStatus actor reason s') : s.RecordsKept s' := by
  cases target with
  | none => exact h ▸ s.recordsKept_refl
  | some id =>
    obtain ⟨order, _, _, _, rfl⟩ := h
    refine .trans ?_ (recordsKept_withLabelledAudit _ _ _)
    refine .trans ?_ (recordsKept_withStatusHistory _ _)
    exact recordsKept_modifyOrder s _ _ _ (fun _ => rfl)

theorem keeps_createOrder (actor : Actor) (input : CreateOrderInput) (s : Store) :
    (createOrder env actor input).Keeps Store.RecordsKept s s := by
  refine (atomic_createOrder env actor input).keeps Store.recordsKept_refl (fun order c s' hev => ?_)
  obtain ⟨_, ⟨_, rfl⟩ | ⟨_, client, rows, hp⟩⟩ := createOrder_ok hev
  · exact s'.recordsKept_refl
  · obtain ⟨value, _, _, rfl⟩ := hp.after
    refine .trans ?_ (recordsKept_withAuditLog _ _)
    refine .trans ?_ (recordsKept_withStatusHistory _ _)
    exact (recordsKept_withCounter s _ _).trans (recordsKept_insertOrder _ _)

theorem keeps_issueInvoiceForOrder (order : Order) (actor : TransitionActor) (s : Store) :
    (issueInvoiceForOrder env order actor).Keeps Store.RecordsKept s s := by
  refine (atomic_issueInvoiceForOrder env order actor).keeps Store.recordsKept_refl (fun invoice c s' hev => ?_)
  obtain ⟨_, client, hi⟩ := issueInvoiceForOrder_ok hev
  obtain ⟨value, _, _, hstep⟩ := hi.after
  refine .trans ?_ hstep.recordsKept
  refine .trans ?_ (recordsKept_withAuditLog _ _)
  refine .trans ?_ (recordsKept_withStatusHistory _ _)
  exact (recordsKept_withCounter s _ _).trans (recordsKept_insertInvoice _ _)

theorem keeps_markInvoicePaidManually (actor : StaffActor) (invoiceId : Id) (input : PaymentInput) (s : Store) :
    (markInvoicePaidManually env actor invoiceId input).Keeps Store.RecordsKept s s := by
  refine (atomic_markInvoicePaidManually env actor invoiceId input).keeps Store.recordsKept_refl
    (fun updated c s' hev => ?_)
  obtain ⟨_, invoice, amount, paid, due, status, hp⟩ := markInvoicePaidManually_ok hev
  refine .trans ?_ hp.after.recordsKept
  refine .trans ?_ (recordsKept_withAuditLog _ _)
  refine .trans ?_ (recordsKept_withStatusHistory _ _)
  exact recordsKept_modifyInvoice s _ _ _ (fun _ => rfl)

theorem keeps_cancelInvoice (actor : StaffActor) (invoiceId : Id) (reason : String) (s : Store) :
    (cancelInvoice actor invoiceId reason).Keeps Store.RecordsKept s s := by
  refine (atomic_cancelInvoice actor invoiceId reason).keeps Store.recordsKept_refl (fun updated c s' hev => ?_)
  obtain ⟨_, _, invoice, hc⟩ := cancelInvoice_ok hev
  rw [hc.after]
  refine .trans ?_ (recordsKept_withAuditLog _ _)
  refine .trans ?_ (recordsKept_withStatusHistory _ _)
  exact recordsKept_modifyInvoice s _ _ _ (fun _ => rfl)

/-- A new price closes the open row it found, and no other: its transaction read
that row from the tables it writes to. -/
theorem keeps_setProductPrice (actor : StaffActor) (input : SetProductPriceInput) (s : Store) :
    (setProductPrice env actor input).Keeps Store.RecordsKept s s := by
  refine (atomic_setProductPrice env actor input).keeps Store.recordsKept_refl (fun row c s' hev => ?_)
  obtain ⟨price, fee, _, _, _, rfl⟩ := setProductPrice_ok_iff.mp hev
  refine .trans ?_ (recordsKept_withAuditLog _ _)
  refine .trans (recordsKept_closePrice s _ (fun r hr => ?_)) (recordsKept_insertPrice _ _)
  have hprevious := @PriceCall.mem_of_previous s ⟨env, actor, input⟩ r hr
  exact ⟨hprevious.1, hprevious.2.2⟩

end Services

theorem ExportedCall.keeps_reply (call : ExportedCall) (s : Store) : call.reply.Keeps Store.RecordsKept s s := by
  cases call with
  | access call => exact (keeps_of_guarantees (call.guarantees keptByAccess_records trivial) s).map _
  | recordLoginAttempt env input =>
    exact (keeps_of_guarantees (guarantees_recordLoginAttempt (kept_events keptByAccess_records) input) s).map _
  | bootstrapSuperAdmin env input => exact (keeps_of_guarantees (keptBySetup_records.bootstrapSuperAdmin input) s).map _
  | setSetting env actor key value => exact (keeps_of_guarantees (keeping_setSetting actor key value) s).map _
  | createProductGroup env actor input =>
    exact (keeps_of_guarantees (keeping_createProductGroup actor input) s).map _
  | createProduct env actor input => exact (keeps_of_guarantees (keeping_createProduct actor input) s).map _
  | setProductPrice env actor input => exact (keeps_setProductPrice actor input s).map _
  | nextSequenceNumber tenantId key options =>
    refine (keeps_of_guarantees (Guarantees.transaction ?_) s).map _
    exact guarantees_nextSequenceNumber _ _ _ (fun value t => recordsKept_withCounter t _ value)
  | createOrder env actor input => exact (keeps_createOrder actor input s).map _
  | transitionOrderStatus orderId toStatus actor reason =>
    exact (keeps_of_guarantees (keeping_transitionOrderStatus orderId toStatus actor reason).transaction s).map _
  | issueInvoiceForOrder env order actor => exact (keeps_issueInvoiceForOrder order actor s).map _
  | markInvoicePaidManually env actor invoiceId input =>
    exact (keeps_markInvoicePaidManually actor invoiceId input s).map _
  | cancelInvoice actor invoiceId reason => exact (keeps_cancelInvoice actor invoiceId reason s).map _

theorem ExportedCall.keeps (call : ExportedCall) (s : Store) : call.program.Keeps Store.RecordsKept s s :=
  (call.keeps_reply s).map _

/-- In every run of the exported services, one transaction at a time, the
financial records stay as they were committed. -/
theorem records_kept {ι : Type} [DecidableEq ι] (s : Store) (calls : ι → ExportedCall) (before later : List ι) :
    ((Agenda.start s (fun i => (calls i).program)).run before).db.RecordsKept
      ((Agenda.start s (fun i => (calls i).program)).run (before ++ later)).db := by
  have hstart : (Agenda.start s (fun i => (calls i).program)).Keeping Store.RecordsKept := by
    intro i p hp w
    cases hp
    exact (calls i).keeps w
  have htrans : ∀ s t u : Store, s.RecordsKept t → t.RecordsKept u → s.RecordsKept u := fun _ _ _ => .trans
  rw [Agenda.run, Agenda.run, runFrom_append]
  exact ((hstart.run Store.recordsKept_refl htrans before).2.run Store.recordsKept_refl htrans later).1

end HostPanel.Model
