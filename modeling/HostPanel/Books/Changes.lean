import Mathlib.Logic.Relation
import HostPanel.Model.Services

namespace HostPanel.Model

open HostPanel.Lib HostPanel.Lib.Program

/-- The tables the state machines are kept in. -/
structure Books where
  clients : Table Client.id
  orders : Table Order.id
  invoices : Table Invoice.id
  statusHistories : List StatusHistory

def Store.books (s : Store) : Books := ⟨s.clients, s.orders, s.invoices, s.statusHistories⟩

/-- The row logs a move of one entity. -/
structure StatusHistory.Logs (row : StatusHistory) (entityType : StatusHistoryEntityType) (entityId : Id)
    (fromStatus : Option Status) (toStatus : Status) : Prop where
  entityType_eq : row.entityType = entityType
  entityId_eq : row.entityId = entityId
  fromStatus_eq : row.fromStatus = fromStatus
  toStatus_eq : row.toStatus = toStatus

namespace Books

def log (b : Books) (row : StatusHistory) : Books := { b with statusHistories := b.statusHistories ++ [row] }

def payInvoice (b : Books) (id : Id) (paid due : Int4) (status : InvoiceStatus) (paidAt : Option DateTime) :
    Books :=
  { b with
    invoices := b.invoices.modify id (Invoice.withPayment paid due status paidAt)
      (Invoice.withPayment_id paid due status paidAt) }

/-- One thing a service does to the books, with the log row it writes. Of the
payments only those that meet `allowed`. -/
inductive Change (allowed : Invoice → InvoiceStatus → Prop) (b : Books) : Books → Prop
  | clientCreated (client : Client) (row : StatusHistory) (hnew : b.clients.find client.id = none)
      (hstatus : client.status = .pendingVerification)
      (hrow : row.Logs .client client.id none (.client .pendingVerification)) :
      Change allowed b ({ b with clients := b.clients.insert client }.log row)
  | clientMoved (client : Client) (toStatus : ClientStatus) (now : DateTime) (row : StatusHistory)
      (hfound : b.clients.find client.id = some client)
      (hvalid : isValidClientTransition client.status toStatus = true)
      (hrow : row.Logs .client client.id (some (.client client.status)) (.client toStatus)) :
      Change allowed b
        ({ b with clients := b.clients.modify client.id (fun r => { r with status := toStatus, updatedAt := now }) }.log
          row)
  | clientEdited (id : Id) (f : Client → Client) (hid : ∀ r, (f r).id = r.id)
      (hstatus : ∀ r, (f r).status = r.status) :
      Change allowed b { b with clients := b.clients.modify id f hid }
  | orderPlaced (order : Order) (row : StatusHistory) (hnew : b.orders.find order.id = none)
      (hstatus : order.status = .pending) (hrow : row.Logs .order order.id none (.order .pending)) :
      Change allowed b ({ b with orders := b.orders.insert order }.log row)
  | orderMoved (order : Order) (toStatus : OrderStatus) (row : StatusHistory)
      (hfound : b.orders.find order.id = some order)
      (hvalid : isValidOrderTransition order.status toStatus = true)
      (hrow : row.Logs .order order.id (some (.order order.status)) (.order toStatus)) :
      Change allowed b
        ({ b with orders := b.orders.modify order.id (fun r => { r with status := toStatus }) }.log row)
  | invoiceIssued (invoice : Invoice) (row : StatusHistory) (hnew : b.invoices.find invoice.id = none)
      (hstatus : invoice.status = .issued) (hpaid : invoice.amountPaid.val = 0)
      (hdue : invoice.amountDue = invoice.total) (hpaidAt : invoice.paidAt = none)
      (hrow : row.Logs .invoice invoice.id none (.invoice .issued)) :
      Change allowed b ({ b with invoices := b.invoices.insert invoice }.log row)
  | invoicePaid (env : Env) (invoice : Invoice) (amount : ℤ) (paid due : Int4) (status : InvoiceStatus)
      (row : StatusHistory) (hfound : b.invoices.find invoice.id = some invoice)
      (hpayment : Payment invoice amount paid due status) (hallowed : allowed invoice status)
      (hrow : row.Logs .invoice invoice.id (some (.invoice invoice.status)) (.invoice status))
      (hamount : row.metadata.map PaymentMetadata.amount = some amount) :
      Change allowed b ((b.payInvoice invoice.id paid due status (Payment.paidAt env invoice status)).log row)
  | invoiceCancelled (invoice : Invoice) (row : StatusHistory)
      (hfound : b.invoices.find invoice.id = some invoice)
      (hvalid : isValidInvoiceTransition invoice.status .cancelled = true)
      (hrow : row.Logs .invoice invoice.id (some (.invoice invoice.status)) (.invoice .cancelled)) :
      Change allowed b
        ({ b with invoices := b.invoices.modify invoice.id (fun r => { r with status := .cancelled }) }.log row)

/-- Changes made one after the other. -/
def Changes (allowed : Invoice → InvoiceStatus → Prop) : Books → Books → Prop :=
  Relation.ReflTransGen (Change allowed)

end Books

theorem books_withLabelledAudit (s : Store) (label : Option String) (row : String → AuditLog) :
    (s.withLabelledAudit label row).books = s.books :=
  Store.of_withLabelledAudit (P := fun t => t.books = s.books) rfl (fun _ => rfl)

theorem books_moveOrder (s : Store) (order : Order) (toStatus : OrderStatus) (actor : TransitionActor)
    (reason : Option String) :
    (s.moveOrder order toStatus actor reason).books =
      { s.books with orders := s.orders.modify order.id (fun r => { r with status := toStatus }) }.log
        (orderMove order toStatus actor reason) :=
  books_withLabelledAudit _ _ _

variable {allowed : Invoice → InvoiceStatus → Prop}

theorem OrderStep.changes {s s' : Store} {target : Option Id} {toStatus : OrderStatus} {actor : TransitionActor}
    {reason : Option String} (h : OrderStep s target toStatus actor reason s') :
    Books.Changes allowed s.books s'.books := by
  cases target with
  | none =>
    have he : s' = s := h
    rw [he]
    exact Relation.ReflTransGen.refl
  | some id =>
    obtain ⟨order, hfound, hvalid, _, rfl⟩ := h
    have hid : order.id = id := Table.key_of_find hfound
    subst hid
    rw [books_moveOrder]
    exact Relation.ReflTransGen.single (.orderMoved order toStatus _ hfound hvalid ⟨rfl, rfl, rfl, rfl⟩)

theorem Placed.changes {env : Env} {actor : Actor} {input : CreateOrderInput} {client : Client}
    {rows : List OrderItemRow} {s s' : Store} {order : Order} (h : Placed env actor input client rows s order s') :
    Books.Change allowed s.books s'.books := by
  obtain ⟨value, _, _, rfl⟩ := h.after
  have hstatus : order.status = .pending := by rw [h.order_eq]
  exact .orderPlaced order (orderCreated actor order.id) (Relation.find_of_fresh h.fresh) hstatus
    ⟨rfl, rfl, rfl, rfl⟩

theorem Issued.changes {env : Env} {order : Order} {actor : TransitionActor} {client : Client} {s s' : Store}
    {invoice : Invoice} (h : Issued env order actor client s invoice s') :
    Books.Changes allowed s.books s'.books := by
  obtain ⟨value, _, _, hstep⟩ := h.after
  have he := h.invoice_eq
  refine Relation.ReflTransGen.head ?_ hstep.changes
  exact .invoiceIssued invoice (invoiceIssued order actor invoice.id) (Relation.find_of_fresh h.fresh)
    (by rw [he]; rfl) (by rw [he]; rfl) (by rw [he]; rfl) (by rw [he]; rfl) ⟨rfl, rfl, rfl, rfl⟩

theorem Paid.changes {env : Env} {actor : StaffActor} {invoiceId : Id} {input : PaymentInput} {s s' : Store}
    {invoice : Invoice} {amount : ℤ} {paid due : Int4} {status : InvoiceStatus}
    (h : Paid env actor invoiceId input s invoice amount paid due status s') (ha : allowed invoice status) :
    Books.Changes allowed s.books s'.books := by
  have hid : invoice.id = invoiceId := Table.key_of_find h.found
  subst hid
  refine Relation.ReflTransGen.head ?_ h.after.changes
  exact .invoicePaid (b := s.books) env invoice amount paid due status
    (paymentRecorded actor invoice status amount input) h.found h.payment ha ⟨rfl, rfl, rfl, rfl⟩ rfl

theorem Cancelled.changes {actor : StaffActor} {invoiceId : Id} {reason : String} {s s' : Store}
    {invoice : Invoice} (h : Cancelled actor invoiceId reason s invoice s') :
    Books.Change allowed s.books s'.books := by
  have hid : invoice.id = invoiceId := Table.key_of_find h.found
  subst hid
  rw [h.after]
  exact .invoiceCancelled invoice _ h.found h.valid ⟨rfl, rfl, rfl, rfl⟩

theorem insertClient_changes {env : Env} {input : RegisterClientInput} {email passwordHash : String}
    {c s c' s' : Store} {ids : Id × Id}
    (h : (insertClient env input email passwordHash).eval c s = .ok (ids, c', s')) :
    Books.Change allowed s.books s'.books := by
  simp only [insertClient, Relation.eval_create_bind, eval_recordStatusTransition_bind, eval_recordAuditLog_bind,
    pure_eq_ret, eval_ret, Except.ok.injEq, Prod.mk.injEq] at h
  obtain ⟨hfresh, _, _, _, _, _, _, _, rfl⟩ := h
  exact .clientCreated (b := s.books) _ (clientCreated input (env.cuid 0) (env.cuid 1))
    (Relation.find_of_fresh hfresh) rfl ⟨rfl, rfl, rfl, rfl⟩

theorem markVerified_changes {env : Env} {record : EmailVerificationToken} {contact : ClientContact}
    {c s c' s' : Store} {u : Unit} (h : (markVerified env record contact).eval c s = .ok (u, c', s')) :
    Books.Changes allowed s.books s'.books := by
  simp only [markVerified, Relation.eval_update_bind, Relation.eval_findUniqueOrThrow_bind] at h
  obtain ⟨_, _, _, _, client, hclient, h⟩ := h
  unfold verifyPending at h
  by_cases hp : client.status = .pendingVerification
  · simp only [hp, if_true, eval_transitionClientStatus_bind, Relation.eval_update_bind, pure_eq_ret, eval_ret,
      Except.ok.injEq, Prod.mk.injEq] at h
    obtain ⟨found, hfound, hvalid, _, _, _, _, _, rfl⟩ := h
    have hid : found.id = client.id := Table.key_of_find hfound
    rw [← hid] at hfound
    refine Relation.ReflTransGen.head
      (.clientMoved (b := s.books) found .active env.now (clientMove found .active
        { type := .clientContact, id := some contact.id } (some "email_verified")) hfound hvalid
        ⟨rfl, rfl, rfl, rfl⟩) ?_
    exact Relation.ReflTransGen.single
      (.clientEdited client.id (fun r => { r with verificationStatus := .verified, updatedAt := env.now })
        (fun _ => rfl) (fun _ => rfl))
  · simp only [hp, if_false, eval_ret, Except.ok.injEq, Prod.mk.injEq] at h
    obtain ⟨_, _, rfl⟩ := h
    exact Relation.ReflTransGen.refl

theorem registerClient_changes (env : Env) (input : RegisterClientInput) (s : Store) :
    Books.Changes allowed s.books ((registerClient env input).after s).books := by
  obtain he | ⟨ids, c', s', hev, he⟩ := registerClient_after env input s
  · rw [he]
    exact Relation.ReflTransGen.refl
  · have hleaves : (sendVerification env input (normalizeEmail input.email) ids.2 >>= fun _ =>
        (.ret ids : Db (Id × Id))).Leaves Store.books :=
      (leaves_sendVerification env input _ _ (fun _ _ => rfl) (fun _ _ => rfl)).bind (fun _ => trivial)
    rw [he, after_of_leaves hleaves]
    exact Relation.ReflTransGen.single (insertClient_changes hev)

theorem verifyClientEmail_changes (env : Env) (token : String) (s : Store) :
    Books.Changes allowed s.books ((verifyClientEmail env token).after s).books := by
  obtain he | ⟨record, contact, mail, c', s', hev, he⟩ := verifyClientEmail_after env token s
  · rw [he]
    exact Relation.ReflTransGen.refl
  · have htail : ((queueEmail env mail).after s').books = s'.books :=
      after_of_leaves (leaves_queueEmail env mail (fun _ _ => rfl)) s'
    rw [he, htail]
    exact markVerified_changes hev

theorem Client.patched_status (entries : List (ProfileField × Option String)) (r : Client) :
    (r.patched entries).status = r.status := by
  induction entries generalizing r with
  | nil => rfl
  | cons e entries ih =>
    obtain ⟨field, value⟩ := e
    cases value with
    | none => exact ih r
    | some value =>
      refine (ih _).trans ?_
      cases field <;> rfl

theorem ProfilePatch.write_status (patch : ProfilePatch) (now : DateTime) (r : Client) :
    (patch.write now r).status = r.status := by
  unfold ProfilePatch.write
  split
  · rfl
  · exact Client.patched_status patch.entries r

/-- The payments a call makes are allowed. -/
def Call.Pays (allowed : Invoice → InvoiceStatus → Prop) (s : Store) : Call → Prop
  | markInvoicePaidManually env actor invoiceId input => ∀ invoice amount paid due status s',
    Paid env actor invoiceId input s invoice amount paid due status s' → allowed invoice status
  | _ => True

theorem changes_of_atomic {α : Type} {p : Db α} {s : Store} (hp : p.Atomic)
    (h : ∀ a c s', p.eval s s = .ok (a, c, s') → Books.Changes allowed s.books s'.books) :
    Books.Changes allowed s.books (p.after s).books :=
  inv_of_atomic (P := fun t => Books.Changes allowed s.books t.books) hp Relation.ReflTransGen.refl h

/-- What a call does to the books, whichever it is. -/
theorem Call.changes (call : Call) (s : Store) (hpays : call.Pays allowed s) :
    Books.Changes allowed s.books (call.after s).books := by
  cases call with
  | setProductPrice env actor input =>
    have hb : ((Model.setProductPrice env actor input).after s).books = s.books :=
      after_of_leaves (leaves_setProductPrice env actor input (fun _ _ => rfl) (fun _ _ => rfl)) s
    change Books.Changes allowed s.books ((Model.setProductPrice env actor input).after s).books
    rw [hb]
    exact Relation.ReflTransGen.refl
  | createOrder env actor input =>
    refine changes_of_atomic (atomic_createOrder env actor input) (fun order c s' hev => ?_)
    obtain ⟨_, ⟨_, rfl⟩ | ⟨_, client, rows, hp⟩⟩ := createOrder_ok hev
    · exact Relation.ReflTransGen.refl
    · exact Relation.ReflTransGen.single hp.changes
  | issueInvoiceForOrder env order actor =>
    refine changes_of_atomic (atomic_issueInvoiceForOrder env order actor) (fun invoice c s' hev => ?_)
    obtain ⟨_, client, hi⟩ := issueInvoiceForOrder_ok hev
    exact hi.changes
  | markInvoicePaidManually env actor invoiceId input =>
    refine changes_of_atomic (atomic_markInvoicePaidManually env actor invoiceId input) (fun updated c s' hev => ?_)
    obtain ⟨_, invoice, amount, paid, due, status, hp⟩ := markInvoicePaidManually_ok hev
    exact hp.changes (hpays _ _ _ _ _ _ hp)
  | cancelInvoice actor invoiceId reason =>
    refine changes_of_atomic (atomic_cancelInvoice actor invoiceId reason) (fun updated c s' hev => ?_)
    obtain ⟨_, _, invoice, hc⟩ := cancelInvoice_ok hev
    exact Relation.ReflTransGen.single hc.changes
  | registerClient env input => exact registerClient_changes env input s
  | verifyClientEmail env token => exact verifyClientEmail_changes env token s
  | addClientNote env actor clientId body =>
    refine changes_of_atomic (atomic_addClientNote env actor clientId body) (fun _ c s' hev => ?_)
    obtain ⟨_, note, _, _, _, rfl⟩ := addClientNote_ok hev
    exact Relation.ReflTransGen.refl
  | changeClientStatus env actor clientId toStatus reason =>
    refine changes_of_atomic (atomic_changeClientStatus env actor clientId toStatus reason) (fun _ c s' hev => ?_)
    obtain ⟨client, hfound, hvalid, rfl⟩ := changeClientStatus_ok hev
    have hid : client.id = clientId := Table.key_of_find hfound
    subst hid
    exact Relation.ReflTransGen.single
      (.clientMoved (b := s.books) client toStatus env.now
        (clientMove client toStatus { type := .staff, id := some actor.id } (some reason)) hfound hvalid
        ⟨rfl, rfl, rfl, rfl⟩)
  | updateClientProfile env actor clientId patch =>
    refine changes_of_atomic (atomic_updateClientProfile env actor clientId patch) (fun _ c s' hev => ?_)
    obtain ⟨client, hfound, rfl⟩ := updateClientProfile_ok hev
    exact Relation.ReflTransGen.single (.clientEdited (b := s.books) clientId (patch.write env.now)
      (patch.write_id env.now) (patch.write_status env.now))
  | disableStaffUser env actor targetUserId =>
    refine changes_of_atomic (atomic_disableStaffUser env actor targetUserId) (fun _ c s' hev => ?_)
    obtain ⟨target, _, rfl⟩ := disableStaffUser_ok hev
    exact Relation.ReflTransGen.refl

theorem Books.Changes.inv {I : Books → Prop} (hstep : ∀ b b', I b → Books.Change allowed b b' → I b') {b b' : Books}
    (h : Books.Changes allowed b b') (hb : I b) : I b' := by
  induction h with
  | refl => exact hb
  | tail _ hlast ih => exact hstep _ _ ih hlast

theorem runCalls_books {I : Books → Prop} (hstep : ∀ b b', I b → Books.Change allowed b b' → I b') {s : Store}
    {calls : List Call} (hs : I s.books) (hpays : AlongCalls (fun s call => call.Pays allowed s) s calls) :
    I (runCalls s calls).books := by
  refine runFrom_inv (I := fun s => I s.books) ?_ hs hpays
  intro s call hi hc
  exact (call.changes s hc).inv hstep hi

theorem alongCalls_pays_any (s : Store) (calls : List Call) :
    AlongCalls (fun s call => call.Pays (fun _ _ => True) s) s calls := by
  apply alongRun_of_forall
  intro s call
  cases call with
  | markInvoicePaidManually env actor invoiceId input => exact fun _ _ _ _ _ _ _ => trivial
  | _ => trivial

end HostPanel.Model
