import HostPanel.Lib.Faults
import HostPanel.Model.OrderArithmetic
import HostPanel.Tenancy.Rows

namespace HostPanel.Model

open HostPanel.Lib HostPanel.Lib.Program

variable {T : Id} {s s' : Store}

section Clients

variable {clientId : Id}

theorem addClientNote_isolated_iff {note : ClientNote} (htenant : note.tenantId = T)
    (hclient : note.clientId = clientId) (hfound : (s.clients.find clientId).isSome = true)
    (hfresh : prisma.clientNote.Fresh note s) :
    tenancy.Isolated T s (prisma.clientNote.insert note s) ↔ Kind.client.Owned T s clientId := by
  have hnew := Relation.find_of_fresh hfresh
  have hmem : note ∈ prisma.clientNote.get (prisma.clientNote.insert note s) :=
    (Table.mem_insert hnew).mpr (Or.inr rfl)
  constructor
  · intro h
    have hrefs := Kind.clientNote.closed h hmem hnew htenant (.client note.clientId) (List.mem_singleton.mpr rfl)
    rw [hclient] at hrefs
    exact Kind.client.owned_of_belongs (prisma.clientNote.insert note s) rfl hrefs
  · intro hown
    refine (Kind.clientNote.within_insert hnew (fun _ k hk => ?_)).isolated
    obtain ⟨client, hc⟩ := Option.isSome_iff_exists.mp hfound
    rw [List.mem_singleton.mp hk, hclient]
    exact hown.belongs hc

theorem changeClientStatus_isolated_iff {env : Env} {client : Client} {toStatus : ClientStatus} {mover : TransitionActor}
    {reason : Option String} {row : AuditLog} (hfound : s.clients.find clientId = some client)
    (hvalid : isValidClientTransition client.status toStatus = true)
    (hrow : row.entityType.rowKey? row.entityId = some (.client clientId)) :
    tenancy.Isolated T s ((s.moveClient env client toStatus mover reason).withAuditLog row) ↔
      Kind.client.Owned T s clientId := by
  have hid : client.id = clientId := Table.key_of_find hfound
  subst hid
  constructor
  · intro h c hc
    cases hc.symm.trans hfound
    by_contra hne
    have hfix := Kind.client.fixed h (fun r => { r with status := toStatus, updatedAt := env.now }) (fun _ => rfl) rfl
      hfound hne
    have hstatus : toStatus = client.status := congrArg Client.status hfix
    rw [hstatus, isValidClientTransition_self] at hvalid
    cases hvalid
  · intro hown
    have hbelongs := hown.belongs hfound
    have hmove : tenancy.Within T s (prisma.client.modify client.id
        (fun r => { r with status := toStatus, updatedAt := env.now }) (fun _ => rfl) s) :=
      Kind.client.within_modify _ (fun _ => rfl) (fun _ => rfl) hown
    have hlog := hmove.trans (within_withStatusHistory (clientMove client toStatus mover reason)
      (fun _ => hmove.belongs hbelongs))
    refine (hlog.trans (within_withAuditLog row (fun _ k hk => ?_))).isolated
    rw [hrow] at hk
    cases hk
    exact hlog.belongs hbelongs

/-- The client is the tenant's, or the update leaves its row as it is: the patch
has no value to set, or the row has them all and was last written at this
instant. -/
def ProfilePatch.StaysWithin (patch : ProfilePatch) (now : DateTime) (T : Id) (s : Store) (clientId : Id) : Prop :=
  ∀ c, s.clients.find clientId = some c → c.tenantId = T ∨ patch.write now c = c

theorem updateClientProfile_isolated_iff {now : DateTime} {client : Client} {patch : ProfilePatch}
    {profileActor : Actor} (hfound : s.clients.find clientId = some client) :
    tenancy.Isolated T s ((prisma.client.modify clientId (patch.write now) (patch.write_id now) s).withAuditLog
        (clientUpdatedAudit profileActor patch client (patch.write now client))) ↔
      patch.StaysWithin now T s clientId := by
  have hid : client.id = clientId := Table.key_of_find hfound
  subst hid
  constructor
  · intro h c hc
    cases hc.symm.trans hfound
    by_cases ho : client.tenantId = T
    · exact Or.inl ho
    · exact Or.inr (Kind.client.fixed h (patch.write now) (patch.write_id now) rfl hfound ho)
  · intro hown
    have hmod : tenancy.Within T s (prisma.client.modify client.id (patch.write now) (patch.write_id now) s) := by
      refine Kind.client.within_modifyWhere _ (patch.write_tenantId now) (fun _ => rfl) (fun r hr hp ho => ?_)
      exact (hown r (Table.find_eq_some_iff.mpr ⟨hr, of_decide_eq_true hp⟩)).resolve_left ho
    refine (hmod.trans (within_withAuditLog _ (fun ho k hk => ?_))).isolated
    cases hk
    rw [clientUpdatedAudit, patch.write_tenantId] at ho
    exact hmod.belongs (Kind.client.belongs_iff.mpr ⟨client, hfound, ho⟩)

end Clients

/-- The staff user and the open sessions of an id are the tenant's. -/
structure Store.OwnStaff (s : Store) (T userId : Id) : Prop where
  user : Kind.staffUser.Owned T s userId
  sessions : ∀ r ∈ s.staffSessions, r.openFor userId = true → r.tenantId = T

theorem disableStaffUser_isolated_iff {env : Env} {actor : StaffActor} {target : StaffUser} {userId : Id}
    (hT : actor.tenantId = T) (hfound : s.staffUsers.find userId = some target) :
    tenancy.Isolated T s (prisma.staffSession.modifyWhere (StaffSession.openFor userId)
        (fun r => { r with revokedAt := some env.now, revokedReason := some "account_disabled" }) (fun _ => rfl)
        ((prisma.staffUser.modify userId (fun r => { r with status := .disabled, updatedAt := env.now }) (fun _ => rfl)
          s).withAuditLog (staffUserDisabledAudit actor userId))) ↔ s.OwnStaff T userId := by
  constructor
  · intro h
    refine ⟨fun r hr => ?_, fun r hr hopen => ?_⟩
    · have hbelongs := closed_audit h (staffUserDisabledAudit actor userId) rfl hT _ rfl
      obtain ⟨u, hu, ho⟩ := Kind.staffUser.belongs_iff.mp hbelongs
      change (s.staffUsers.modify userId (fun r => { r with status := .disabled, updatedAt := env.now })).find userId =
        some u at hu
      have hr' : s.staffUsers.find userId = some r := hr
      rw [Table.find_modify_self, hr'] at hu
      cases hu
      exact ho
    · by_contra hne
      have hfix := Kind.staffSession.fixed_where h (StaffSession.openFor userId)
        (fun r => { r with revokedAt := some env.now, revokedReason := some "account_disabled" }) (fun _ => rfl) rfl
        hr hopen hne
      have hrevoked : r.revokedAt = some env.now := (congrArg StaffSession.revokedAt hfix).symm
      simp [StaffSession.openFor, hrevoked] at hopen
  · intro hown
    have hbelongs := hown.user.belongs hfound
    have hmod : tenancy.Within T s (prisma.staffUser.modify userId
        (fun r => { r with status := .disabled, updatedAt := env.now }) (fun _ => rfl) s) :=
      Kind.staffUser.within_modify _ (fun _ => rfl) (fun _ => rfl) hown.user
    have haudit := hmod.trans (within_withAuditLog (staffUserDisabledAudit actor userId) (fun _ k hk => by
      cases hk
      exact hmod.belongs hbelongs))
    have hrevoke : ∀ t, t.staffSessions = s.staffSessions → tenancy.Within T t
        (prisma.staffSession.modifyWhere (StaffSession.openFor userId)
          (fun r => { r with revokedAt := some env.now, revokedReason := some "account_disabled" })
          (fun _ => rfl) t) := by
      intro t ht
      refine Kind.staffSession.within_modifyWhere _ (fun _ => rfl) (fun _ => rfl) (fun r hr hopen hne => ?_)
      exact absurd (hown.sessions r (ht ▸ hr) hopen) hne
    exact (haudit.trans (hrevoke _ rfl)).isolated

section Orders

variable {env : Env} {actor : Actor} {input : CreateOrderInput} {client : Client} {rows : List OrderItemRow}
  {order : Order}

/-- The client and the products an order is asked for are the tenant's. -/
structure CreateOrderInput.StaysWithin (input : CreateOrderInput) (T : Id) (s : Store) : Prop where
  client : Kind.client.Owned T s input.clientId
  products : ∀ item ∈ input.items, Kind.product.Owned T s item.productId

theorem Placed.refs (h : Placed env actor input client rows s order s') (k : RowKey) :
    k ∈ (Row.order order).refs ↔ k = .client input.clientId ∨ ∃ item ∈ input.items, k = .product item.productId := by
  have hclient : order.clientId = input.clientId := by
    rw [h.order_eq]
  have hitems : ∀ item ∈ input.items, ∃ stored ∈ order.items, stored.productId = some item.productId := by
    intro item hitem
    obtain ⟨stored, hstored, hm⟩ := exists_right_of_forall₂ h.items_match hitem
    exact ⟨stored, hstored, hm.2.1⟩
  have hstored : ∀ stored ∈ order.items, ∃ item ∈ input.items, stored.productId = some item.productId := by
    intro stored hs
    obtain ⟨item, hitem, hm⟩ := exists_left_of_forall₂ h.items_match hs
    exact ⟨item, hitem, hm.2.1⟩
  rw [Row.refs, List.mem_cons, hclient, List.mem_filterMap]
  refine or_congr_right ⟨?_, ?_⟩
  · rintro ⟨stored, hs, hk⟩
    obtain ⟨item, hitem, hp⟩ := hstored stored hs
    rw [OrderItem.productKey?, hp] at hk
    exact ⟨item, hitem, (Option.some.inj hk).symm⟩
  · rintro ⟨item, hitem, rfl⟩
    obtain ⟨stored, hs, hp⟩ := hitems item hitem
    exact ⟨stored, hs, by rw [OrderItem.productKey?, hp]; rfl⟩

theorem Placed.isolated_iff (h : Placed env actor input client rows s order s') (hT : actor.tenantId = T) :
    tenancy.Isolated T s s' ↔ input.StaysWithin T s := by
  have hnew : s.orders.find order.id = none := Relation.find_of_fresh h.fresh
  have howner : order.tenantId = T := by
    rw [h.order_eq]
    exact hT
  obtain ⟨value, _, _, hs'⟩ := h.after
  have horders : s'.orders = s.orders.insert order := by rw [hs', placeOrder_orders]
  have hmem : order ∈ s'.orders := by
    rw [horders]
    exact (Table.mem_insert hnew).mpr (Or.inr rfl)
  constructor
  · intro hiso
    have hrefs := Kind.order.closed hiso hmem hnew howner
    have hclients : s'.clients = s.clients := by rw [hs', placeOrder_clients]
    have hproducts : s'.products = s.products := by rw [hs', placeOrder_products]
    refine ⟨Kind.client.owned_of_belongs s' hclients (hrefs _ ((h.refs _).mpr (Or.inl rfl))), fun item hitem => ?_⟩
    exact Kind.product.owned_of_belongs s' hproducts (hrefs _ ((h.refs _).mpr (Or.inr ⟨item, hitem, rfl⟩)))
  · intro hown
    have hcounter : tenancy.Within T s (s.withCounter (actor.tenantId, "order_number") value) := by
      rw [hT]
      exact within_withCounter "order_number" value
    let t := s.withCounter (actor.tenantId, "order_number") value
    have hinsert : tenancy.Within T t (prisma.order.insert order t) := by
      refine Kind.order.within_insert hnew (fun _ k hk => hcounter.belongs ?_)
      cases (h.refs k).mp hk with
      | inl hc =>
        rw [hc]
        exact hown.client.belongs h.client_found
      | inr hp =>
        obtain ⟨item, hitem, rfl⟩ := hp
        obtain ⟨stored, _, hm⟩ := exists_right_of_forall₂ h.items_match hitem
        obtain ⟨product, hproduct⟩ := Option.isSome_iff_exists.mp hm.1
        exact (hown.products item hitem).belongs hproduct
    have hbelongs : tenancy.Belongs T (prisma.order.insert order t) (.order order.id) :=
      Kind.order.belongs_iff.mpr ⟨order, Table.find_insert_self hnew, howner⟩
    have hlog := within_withStatusHistory (orderCreated actor order.id) (fun _ => hbelongs)
    have haudit := within_withAuditLog (orderCreatedAudit actor input order.orderNumber order.total.val order.id)
      (fun _ k hk => by
        cases hk
        exact hlog.belongs hbelongs)
    rw [hs']
    exact (hcounter.trans (hinsert.trans (hlog.trans haudit))).isolated

end Orders

section Invoices

variable {env : Env} {actor : StaffActor} {invoiceId : Id} {invoice : Invoice}

/-- The invoice is the tenant's, and so is its order when the payment settles
it. -/
structure PaymentInput.StaysWithin (input : PaymentInput) (T : Id) (s : Store) (invoiceId : Id) : Prop where
  invoice : Kind.invoice.Owned T s invoiceId
  order : ∀ i orderId, s.invoices.find invoiceId = some i →
    input.amount = .integer (i.total.val - i.amountPaid.val) → i.orderId = some orderId → orderId ≠ "" →
    Kind.order.Owned T s orderId

theorem settled_iff {input : PaymentInput} {amount : ℤ} {paid due : Int4} {status : InvoiceStatus}
    (h : Paid env actor invoiceId input s invoice amount paid due status s') :
    status = .paid ↔ input.amount = .integer (invoice.total.val - invoice.amountPaid.val) := by
  have hdue := h.payment.due_eq
  have hpaid := h.payment.paid_eq
  rw [h.payment.status_eq, h.amount_eq, Number.integer.injEq]
  by_cases hz : due.val = 0
  · rw [if_pos hz]
    exact iff_of_true rfl (by omega)
  · rw [if_neg hz]
    exact iff_of_false (fun hs => nomatch hs) (by omega)

theorem Paid.isolated_iff {input : PaymentInput} {amount : ℤ} {paid due : Int4} {status : InvoiceStatus}
    (h : Paid env actor invoiceId input s invoice amount paid due status s') :
    tenancy.Isolated T s s' ↔ input.StaysWithin T s invoiceId := by
  have hfound := h.found
  have hid : invoice.id = invoiceId := Table.key_of_find hfound
  subst hid
  have hinvoices : s'.invoices = s.invoices.modify invoice.id
      (Invoice.withPayment paid due status (Payment.paidAt env invoice status))
      (Invoice.withPayment_id paid due status (Payment.paidAt env invoice status)) := by
    rw [h.after.invoices]
    rfl
  constructor
  · intro hiso
    refine ⟨fun i hi => ?_, fun i orderId hi hamount horder hne => ?_⟩
    · cases hi.symm.trans hfound
      by_contra ho
      have hfix := Kind.invoice.fixed hiso _ _ hinvoices hfound ho
      have hpaid : paid = invoice.amountPaid := congrArg Invoice.amountPaid hfix
      have hsum := h.payment.paid_eq
      have hpos := h.payment.positive
      rw [hpaid] at hsum
      omega
    · cases hi.symm.trans hfound
      have hstep := h.after
      rw [(settled_iff h).mpr hamount, if_pos rfl, horder, Option.filter_some,
        if_pos (by simpa using hne)] at hstep
      obtain ⟨o, ho, hvalid, _, rfl⟩ := hstep
      intro q hq
      have hqo : q = o := Option.some.inj (hq.symm.trans ho)
      subst hqo
      by_contra hother
      have horders : (Store.moveOrder _ q .paid actor.transitionActor (some "invoice_paid")).orders = _ :=
        moveOrder_orders (s.payInvoice actor invoice paid due .paid (Payment.paidAt env invoice .paid) amount input)
          q .paid actor.transitionActor (some "invoice_paid")
      have hqid : q.id = orderId := Table.key_of_find hq
      have hq' : s.orders.find q.id = some q := hqid.symm ▸ hq
      have hfix := Kind.order.fixed hiso (fun r => { r with status := .paid }) (fun _ => rfl)
        horders hq' hother
      have hstatus : OrderStatus.paid = q.status := congrArg Order.status hfix
      rw [← hstatus, isValidOrderTransition_self] at hvalid
      cases hvalid
  · intro hown
    have hbelongs := hown.invoice.belongs hfound
    have hpay : tenancy.Within T s (prisma.invoice.modify invoice.id
        (Invoice.withPayment paid due status (Payment.paidAt env invoice status))
        (Invoice.withPayment_id paid due status (Payment.paidAt env invoice status)) s) :=
      Kind.invoice.within_modify _ (fun _ => rfl) (fun _ => rfl) hown.invoice
    have hlog := hpay.trans (within_withStatusHistory (paymentRecorded actor invoice status amount input)
      (fun _ => hpay.belongs hbelongs))
    have haudit := hlog.trans (within_withAuditLog (paymentRecordedAudit actor invoice status paid.val input)
      (fun _ k hk => by
        cases hk
        exact hlog.belongs hbelongs))
    refine (haudit.trans (h.after.within (fun orderId htarget => ?_))).isolated
    obtain ⟨hs, horder, hne⟩ := settledOrder_eq_some_iff.mp htarget
    exact hown.order invoice orderId hfound ((settled_iff h).mp hs) horder hne

theorem Cancelled.isolated_iff {reason : String} (h : Cancelled actor invoiceId reason s invoice s') :
    tenancy.Isolated T s s' ↔ Kind.invoice.Owned T s invoiceId := by
  have hfound := h.found
  have hid : invoice.id = invoiceId := Table.key_of_find hfound
  subst hid
  rw [h.after]
  constructor
  · intro hiso i hi
    cases hi.symm.trans hfound
    by_contra ho
    have hfix := Kind.invoice.fixed hiso (fun r => { r with status := .cancelled }) (fun _ => rfl) rfl hfound ho
    have hstatus : InvoiceStatus.cancelled = invoice.status := congrArg Invoice.status hfix
    have hvalid := h.valid
    rw [← hstatus, isValidInvoiceTransition_self] at hvalid
    cases hvalid
  · intro hown
    have hbelongs := hown.belongs hfound
    have hmove : tenancy.Within T s (prisma.invoice.modify invoice.id (fun r => { r with status := .cancelled })
        (fun _ => rfl) s) :=
      Kind.invoice.within_modify _ (fun _ => rfl) (fun _ => rfl) hown
    have hlog := hmove.trans (within_withStatusHistory
      (invoiceMove invoice .cancelled actor.transitionActor (some reason)) (fun _ => hmove.belongs hbelongs))
    refine (hlog.trans (within_withAuditLog _ (fun _ k hk => ?_))).isolated
    cases hk
    exact hlog.belongs hbelongs

end Invoices

/-- The tenant of the actor of a call, for the calls of the back office and the
portal on existing rows. -/
def Call.actorTenant : Call → Option Id
  | createOrder _ actor _ => some actor.tenantId
  | markInvoicePaidManually _ actor _ _ => some actor.tenantId
  | cancelInvoice actor _ _ => some actor.tenantId
  | addClientNote _ actor _ _ => some actor.tenantId
  | changeClientStatus _ actor _ _ _ => some actor.tenantId
  | updateClientProfile _ actor _ _ => some actor.tenantId
  | disableStaffUser _ actor _ => some actor.tenantId
  | setProductPrice .. | issueInvoiceForOrder .. | registerClient .. | verifyClientEmail .. => none

/-- The rows a call names by id are rows of the tenant. -/
def Call.AddressesOwn (T : Id) (s : Store) : Call → Prop
  | createOrder _ actor input =>
    s.orders.rows.find? (Order.hasKey actor.tenantId input.idempotencyKey) = none → input.StaysWithin T s
  | markInvoicePaidManually _ _ invoiceId input => input.StaysWithin T s invoiceId
  | cancelInvoice _ invoiceId _ => Kind.invoice.Owned T s invoiceId
  | addClientNote _ _ clientId _ => Kind.client.Owned T s clientId
  | changeClientStatus _ _ clientId _ _ => Kind.client.Owned T s clientId
  | updateClientProfile env _ clientId patch => patch.StaysWithin env.now T s clientId
  | disableStaffUser _ _ targetUserId => s.OwnStaff T targetUserId
  | setProductPrice .. | issueInvoiceForOrder .. | registerClient .. | verifyClientEmail .. => True

/-- The checks of a call, of its own and of the database, all pass. -/
def Call.Passes (s : Store) : Call → Prop
  | createOrder env actor input => s.Accepts env actor input
  | markInvoicePaidManually _ actor invoiceId input => s.TakesPayment actor invoiceId input
  | cancelInvoice actor invoiceId _ => s.TakesCancellation actor invoiceId
  | addClientNote env actor clientId _ =>
    hasPermission actor.permissions .clientsWrite = true ∧ (s.clients.find clientId).isSome = true ∧
      s.clientNotes.find (env.cuid 0) = none
  | changeClientStatus _ actor clientId toStatus _ =>
    hasPermission actor.permissions .clientsWrite = true ∧ ∃ client, s.clients.find clientId = some client ∧
      isValidClientTransition client.status toStatus = true ∧ s.hasTenant client.tenantId = true ∧
      s.hasTenant actor.tenantId = true
  | updateClientProfile _ actor clientId _ =>
    mayChangeProfile actor clientId ∧ ∃ client, s.clients.find clientId = some client ∧
      s.hasTenant client.tenantId = true
  | disableStaffUser _ actor targetUserId =>
    hasPermission actor.permissions .staffManage = true ∧ (s.staffUsers.find targetUserId).isSome = true ∧
      s.hasTenant actor.tenantId = true
  | setProductPrice .. | issueInvoiceForOrder .. | registerClient .. | verifyClientEmail .. => True

theorem isolated_iff_of_atomic {α : Type} {p : Db α} {passes own : Prop} (hp : p.Atomic)
    (hpasses : (∃ r, p.eval s s = .ok r) ↔ passes)
    (h : ∀ a c s', p.eval s s = .ok (a, c, s') → (tenancy.Isolated T s s' ↔ own)) :
    tenancy.Isolated T s (p.after s) ↔ (passes → own) := by
  rw [← hpasses, ← completes_iff]
  obtain ⟨hfails, hafter⟩ | ⟨hgoes, a, c, s', hev, hafter⟩ := completes_cases hp s
  · rw [hafter, hfails]
    exact iff_of_true (Ownership.within_refl s).isolated (fun hf => nomatch hf)
  · rw [hafter, hgoes, h a c s' hev]
    exact ⟨fun hown _ => hown, fun himp => himp rfl⟩

/-- A call stays within the tenant of its actor exactly when one of its checks
does not pass or the rows it names by id are rows of that tenant. -/
theorem tenant_isolation_iff {call : Call} (hT : call.actorTenant = some T) (s : Store) :
    tenancy.Isolated T s (call.after s) ↔ (call.Passes s → call.AddressesOwn T s) := by
  cases call with
  | createOrder env actor input =>
    apply isolated_iff_of_atomic (atomic_createOrder env actor input) createOrder_returns_iff
    intro order c s' hev
    obtain ⟨_, ⟨hfound, rfl⟩ | ⟨hnone, client, rows, hplaced⟩⟩ := createOrder_ok hev
    · refine iff_of_true (Ownership.within_refl _).isolated (fun hnone => ?_)
      cases hfound.symm.trans hnone
    · rw [hplaced.isolated_iff (Option.some.inj hT)]
      exact ⟨fun hown _ => hown, fun himp => himp hnone⟩
  | markInvoicePaidManually env actor invoiceId input =>
    apply isolated_iff_of_atomic (atomic_markInvoicePaidManually env actor invoiceId input)
      markInvoicePaidManually_returns_iff
    intro updated c s' hev
    obtain ⟨_, invoice, amount, paid, due, status, hpaid⟩ := markInvoicePaidManually_ok hev
    exact hpaid.isolated_iff
  | cancelInvoice actor invoiceId reason =>
    apply isolated_iff_of_atomic (atomic_cancelInvoice actor invoiceId reason) cancelInvoice_returns_iff
    intro updated c s' hev
    obtain ⟨_, _, invoice, hcancelled⟩ := cancelInvoice_ok hev
    exact hcancelled.isolated_iff
  | addClientNote env actor clientId body =>
    apply isolated_iff_of_atomic (atomic_addClientNote env actor clientId body) addClientNote_returns_iff
    intro u c s' hev
    obtain ⟨hfound, note, htenant, hclient, hfresh, rfl⟩ := addClientNote_ok hev
    exact addClientNote_isolated_iff (htenant.trans (Option.some.inj hT)) hclient hfound hfresh
  | changeClientStatus env actor clientId toStatus reason =>
    apply isolated_iff_of_atomic (atomic_changeClientStatus env actor clientId toStatus reason)
      changeClientStatus_returns_iff
    intro u c s' hev
    obtain ⟨client, hfound, hvalid, rfl⟩ := changeClientStatus_ok hev
    exact changeClientStatus_isolated_iff hfound hvalid rfl
  | updateClientProfile env actor clientId patch =>
    apply isolated_iff_of_atomic (atomic_updateClientProfile env actor clientId patch) updateClientProfile_returns_iff
    intro u c s' hev
    obtain ⟨client, hfound, rfl⟩ := updateClientProfile_ok hev
    exact updateClientProfile_isolated_iff hfound
  | disableStaffUser env actor targetUserId =>
    apply isolated_iff_of_atomic (atomic_disableStaffUser env actor targetUserId) disableStaffUser_returns_iff
    intro u c s' hev
    obtain ⟨target, hfound, rfl⟩ := disableStaffUser_ok hev
    exact disableStaffUser_isolated_iff (Option.some.inj hT) hfound
  | setProductPrice env actor input => cases hT
  | issueInvoiceForOrder env order actor => cases hT
  | registerClient env input => cases hT
  | verifyClientEmail env token => cases hT

namespace Sample

def foreignClient : Client := { client with id := "client-2", tenantId := "tenant-2", email := "client-2@example.test" }

/-- The shop next to a client of another tenant. -/
def twoTenants : Store :=
  { shop 0 with
    tenants := (shop 0).tenants.insert { id := "tenant-2", slug := "second", name := "Second" }
    clients := (shop 0).clients.insert foreignClient }

def suspendForeign : Call := .changeClientStatus (env "z") staff "client-2" .suspended "unpaid"

end Sample

open Sample in
/-- Staff of one tenant suspend a client of another. -/
theorem foreign_client_suspended : suspendForeign.actorTenant = some "tenant" ∧
    ((suspendForeign.after twoTenants).clients.find "client-2").map (fun c => (c.tenantId, c.status)) =
      some ("tenant-2", .suspended) ∧
    ¬ tenancy.Isolated "tenant" twoTenants (suspendForeign.after twoTenants) := by
  refine ⟨rfl, by decide +kernel, fun h => ?_⟩
  have hfound : twoTenants.clients.find "client-2" = some foreignClient := rfl
  have hkept : foreignClient ∈ (suspendForeign.after twoTenants).clients :=
    Kind.client.kept h (Table.mem_of_find hfound) (by decide)
  have hstatus : ((suspendForeign.after twoTenants).clients.find foreignClient.id).map Client.status =
      some .active := by
    rw [Table.find_of_mem hkept]
    rfl
  exact absurd hstatus (by decide +kernel)

open Sample in
theorem tenant_isolation_iff_own : tenancy.Isolated "tenant" twoTenants
    ((Call.changeClientStatus (env "z") staff "client" .suspended "unpaid").after twoTenants) := by
  have hT : (Call.changeClientStatus (env "z") staff "client" .suspended "unpaid").actorTenant = some "tenant" := rfl
  refine (tenant_isolation_iff hT twoTenants).mpr (fun _ r hr => ?_)
  have hfound : twoTenants.clients.find "client" = some client := rfl
  cases hr.symm.trans hfound
  rfl

end HostPanel.Model
