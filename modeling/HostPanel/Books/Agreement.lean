import HostPanel.Books.Ledger

namespace HostPanel.Model

open HostPanel.Lib HostPanel.Lib.Program

/-- The invoice carries what it was issued with from the order. -/
structure Invoice.Bills (i : Invoice) (o : Order) : Prop where
  orderId : i.orderId = some o.id
  tenantId : i.tenantId = o.tenantId
  clientId : i.clientId = o.clientId
  currency : i.currency = o.currency
  subtotal : i.subtotal = o.subtotal
  total : i.total = o.total

/-- What can have become of an order since it was read: only its status moves,
and never back to pending. -/
structure Order.Since (copy o : Order) : Prop where
  eq : o = { copy with status := o.status }
  pending : o.status = .pending → copy.status = .pending

theorem Order.since_refl (o : Order) : o.Since o := ⟨rfl, fun h => h⟩

theorem Order.Since.trans {o p q : Order} (h : o.Since p) (h' : p.Since q) : o.Since q := by
  refine ⟨?_, fun hs => h.pending (h'.pending hs)⟩
  rw [h'.eq, h.eq]

theorem Order.Since.id_eq {copy o : Order} (h : copy.Since o) : o.id = copy.id := by rw [h.eq]

theorem Invoice.Bills.since {i : Invoice} {copy o : Order} (h : i.Bills copy) (hs : copy.Since o) : i.Bills o := by
  rw [hs.eq]
  exact ⟨h.orderId, h.tenantId, h.clientId, h.currency, h.subtotal, h.total⟩

/-- Order and invoice statuses agree, and the copies of orders that were read
are no more than stale. -/
structure Agree (orders : Table Order.id) (invoices : Table Invoice.id) (seen : List Order) : Prop where
  reached : ∀ o ∈ orders, o.status ∈ [OrderStatus.pending, .awaitingPayment, .paid]
  named : ∀ o ∈ orders, o.id ≠ ""
  linked : ∀ i ∈ invoices, ∃ o ∈ orders, i.Bills o
  billed : ∀ o ∈ orders, o.status ≠ .pending ↔ ∃ i ∈ invoices, i.orderId = some o.id
  paid : ∀ o ∈ orders, o.status = .paid ↔ ∃ i ∈ invoices, i.orderId = some o.id ∧ i.status = .paid
  once : ∀ i ∈ invoices, ∀ j ∈ invoices, i.orderId = j.orderId → i.status = .paid → j.status = .paid → i = j
  copies : ∀ copy ∈ seen, ∃ o ∈ orders, copy.Since o

namespace Agree

variable {orders orders' : Table Order.id} {invoices invoices' : Table Invoice.id} {seen : List Order}

theorem empty : Agree ∅ ∅ [] :=
  ⟨fun o h => absurd h (Table.not_mem_empty o), fun o h => absurd h (Table.not_mem_empty o),
    fun i h => absurd h (Table.not_mem_empty i), fun o h => absurd h (Table.not_mem_empty o),
    fun o h => absurd h (Table.not_mem_empty o), fun i h => absurd h (Table.not_mem_empty i),
    fun _ h => absurd h List.not_mem_nil⟩

theorem read (h : Agree orders invoices seen) {o : Order} (ho : o ∈ orders) :
    Agree orders invoices (o :: seen) := by
  refine ⟨h.reached, h.named, h.linked, h.billed, h.paid, h.once, ?_⟩
  intro copy hc
  cases List.mem_cons.mp hc with
  | inl he => exact ⟨o, ho, he ▸ o.since_refl⟩
  | inr hold => exact h.copies copy hold

theorem place (h : Agree orders invoices seen) {o : Order} (hnew : orders.find o.id = none)
    (hname : o.id ≠ "") (hstatus : o.status = .pending) : Agree (orders.insert o) invoices seen := by
  have hmem : ∀ q, q ∈ orders.insert o ↔ q ∈ orders ∨ q = o := fun q => Table.mem_insert hnew
  have hnone : ¬ ∃ i ∈ invoices, i.orderId = some o.id := by
    rintro ⟨i, hi, hid⟩
    obtain ⟨p, hp, hb⟩ := h.linked i hi
    have hk : p.id = o.id := Option.some.inj (hb.orderId.symm.trans hid)
    exact Table.find_eq_none_iff.mp hnew p hp hk
  refine ⟨?_, ?_, ?_, ?_, ?_, h.once, ?_⟩
  · intro q hq
    cases (hmem q).mp hq with
    | inl hold => exact h.reached q hold
    | inr he =>
      rw [he, hstatus]
      decide
  · intro q hq
    cases (hmem q).mp hq with
    | inl hold => exact h.named q hold
    | inr he => exact he ▸ hname
  · intro i hi
    obtain ⟨p, hp, hb⟩ := h.linked i hi
    exact ⟨p, (hmem p).mpr (Or.inl hp), hb⟩
  · intro q hq
    cases (hmem q).mp hq with
    | inl hold => exact h.billed q hold
    | inr he =>
      subst he
      exact ⟨fun hs => absurd hstatus hs, fun hi => absurd hi hnone⟩
  · intro q hq
    cases (hmem q).mp hq with
    | inl hold => exact h.paid q hold
    | inr he =>
      subst he
      refine ⟨fun hs => ?_, fun ⟨i, hi, hid, _⟩ => absurd ⟨i, hi, hid⟩ hnone⟩
      rw [hstatus] at hs
      cases hs
  · intro copy hc
    obtain ⟨p, hp, hs⟩ := h.copies copy hc
    exact ⟨p, (hmem p).mpr (Or.inl hp), hs⟩

theorem bills (h : Agree orders invoices seen) {o : Order} {i : Invoice} (ho : o ∈ orders) (hi : i ∈ invoices)
    (hid : i.orderId = some o.id) : i.Bills o := by
  obtain ⟨p, hp, hb⟩ := h.linked i hi
  have hk : p.id = o.id := Option.some.inj (hb.orderId.symm.trans hid)
  exact Table.eq_of_mem hp ho hk ▸ hb

/-- One order and its invoices move, the other orders and their invoices stay. -/
theorem move (h : Agree orders invoices seen) {o o' : Order} (ho : Table.Replaced orders orders' o o')
    (hsince : o.Since o') (hstatus : o'.status ∈ [OrderStatus.pending, .awaitingPayment, .paid])
    (hrest : ∀ j : Invoice, j.orderId ≠ some o.id → (j ∈ invoices' ↔ j ∈ invoices))
    (hbills : ∀ j ∈ invoices', j.orderId = some o.id → j.Bills o)
    (hbilled : o'.status ≠ .pending ↔ ∃ j ∈ invoices', j.orderId = some o.id)
    (hpaid : o'.status = .paid ↔ ∃ j ∈ invoices', j.orderId = some o.id ∧ j.status = .paid)
    (honce : ∀ j ∈ invoices', ∀ k ∈ invoices', j.orderId = some o.id → k.orderId = some o.id → j.status = .paid →
      k.status = .paid → j = k) : Agree orders' invoices' seen := by
  have hmoved : ∀ q ∈ orders, ∃ q' ∈ orders', q.Since q' := by
    intro q hq
    by_cases hk : q.id = o.id
    · have he : q = o := Table.eq_of_mem hq ho.mem hk
      exact ⟨o', (ho.mem_iff o').mpr (Or.inr rfl), he ▸ hsince⟩
    · exact ⟨q, (ho.mem_iff q).mpr (Or.inl ⟨hq, hk⟩), q.since_refl⟩
  have hinvoices : ∀ q : Order, q.id ≠ o.id → ∀ j : Invoice, j.orderId = some q.id →
      (j ∈ invoices' ↔ j ∈ invoices) :=
    fun q hq j hj => hrest j (fun hid => hq (Option.some.inj (hj.symm.trans hid)))
  refine ⟨?_, ?_, ?_, ?_, ?_, ?_, ?_⟩
  · intro q hq
    cases (ho.mem_iff q).mp hq with
    | inl hold => exact h.reached q hold.1
    | inr he => exact he ▸ hstatus
  · intro q hq
    cases (ho.mem_iff q).mp hq with
    | inl hold => exact h.named q hold.1
    | inr he =>
      rw [he, hsince.id_eq]
      exact h.named o ho.mem
  · intro j hj
    by_cases hid : j.orderId = some o.id
    · exact ⟨o', (ho.mem_iff o').mpr (Or.inr rfl), (hbills j hj hid).since hsince⟩
    · obtain ⟨q, hq, hb⟩ := h.linked j ((hrest j hid).mp hj)
      obtain ⟨q', hq', hs⟩ := hmoved q hq
      exact ⟨q', hq', hb.since hs⟩
  · intro q hq
    cases (ho.mem_iff q).mp hq with
    | inl hold =>
      rw [h.billed q hold.1]
      exact exists_congr (fun j => and_congr_left (fun hj => (hinvoices q hold.2 j hj).symm))
    | inr he =>
      rw [he, hsince.id_eq]
      exact hbilled
  · intro q hq
    cases (ho.mem_iff q).mp hq with
    | inl hold =>
      rw [h.paid q hold.1]
      exact exists_congr (fun j => and_congr_left (fun hj => (hinvoices q hold.2 j hj.1).symm))
    | inr he =>
      rw [he, hsince.id_eq]
      exact hpaid
  · intro j hj k hk hjk hpj hpk
    by_cases hid : j.orderId = some o.id
    · exact honce j hj k hk hid (hjk.symm.trans hid) hpj hpk
    · exact h.once j ((hrest j hid).mp hj) k ((hrest k (hjk ▸ hid)).mp hk) hjk hpj hpk
  · intro copy hc
    obtain ⟨q, hq, hs⟩ := h.copies copy hc
    obtain ⟨q', hq', hs'⟩ := hmoved q hq
    exact ⟨q', hq', hs.trans hs'⟩

/-- A new invoice for an order that leaves it past pending, and paid or not as
before. -/
theorem issue (h : Agree orders invoices seen) {i : Invoice} {o o' : Order} (hnew : invoices.find i.id = none)
    (hbills : i.Bills o) (hi : i.status = .issued) (ho : Table.Replaced orders orders' o o') (hsince : o.Since o')
    (hstatus : o'.status ∈ [OrderStatus.awaitingPayment, .paid]) (hpaid : o'.status = .paid ↔ o.status = .paid) :
    Agree orders' (invoices.insert i) seen := by
  have hmem : ∀ j, j ∈ invoices.insert i ↔ j ∈ invoices ∨ j = i := fun j => Table.mem_insert hnew
  -- The new invoice is not paid, so the paid ones are those of before.
  have hunpaid : ∀ j ∈ invoices.insert i, j.status = .paid → j ∈ invoices := by
    intro j hj hp
    cases (hmem j).mp hj with
    | inl hold => exact hold
    | inr he =>
      rw [he, hi] at hp
      cases hp
  have hpast : o'.status ≠ .pending := by
    intro hs
    rw [hs] at hstatus
    exact absurd hstatus (by decide)
  refine h.move ho hsince (List.mem_cons_of_mem _ hstatus) ?_ ?_ ?_ ?_ ?_
  · intro j hj
    rw [hmem j]
    refine or_iff_left ?_
    rintro rfl
    exact hj hbills.orderId
  · intro j hj hid
    cases (hmem j).mp hj with
    | inl hold => exact h.bills ho.mem hold hid
    | inr he => exact he ▸ hbills
  · exact ⟨fun _ => ⟨i, (hmem i).mpr (Or.inr rfl), hbills.orderId⟩, fun _ => hpast⟩
  · rw [hpaid, h.paid o ho.mem]
    constructor
    · rintro ⟨j, hj, hid, hp⟩
      exact ⟨j, (hmem j).mpr (Or.inl hj), hid, hp⟩
    · rintro ⟨j, hj, hid, hp⟩
      exact ⟨j, hunpaid j hj hp, hid, hp⟩
  · intro j hj k hk hij hik hpj hpk
    exact h.once j (hunpaid j hj hpj) k (hunpaid k hk hpk) (hij.trans hik.symm) hpj hpk

/-- An unpaid invoice moves; when it becomes paid, its order becomes paid too,
which it was not before. -/
theorem settle (h : Agree orders invoices seen) {i i' : Invoice} {o o' : Order}
    (hi : Table.Replaced invoices invoices' i i') (hunpaid : i.status ≠ .paid) (hbills : i.Bills o)
    (hbills' : i'.Bills o) (ho : Table.Replaced orders orders' o o') (hsince : o.Since o')
    (hpaid : i'.status = .paid → o.status ≠ .paid ∧ o'.status = .paid)
    (hopen : i'.status ≠ .paid → o'.status = o.status) : Agree orders' invoices' seen := by
  have hold : o.status ≠ .pending := (h.billed o ho.mem).mpr ⟨i, hi.mem, hbills.orderId⟩
  have hpast : o'.status ≠ .pending := fun hp => hold (hsince.pending hp)
  have hnew : i' ∈ invoices' := (hi.mem_iff i').mpr (Or.inr rfl)
  have hstatus : o'.status ∈ [OrderStatus.pending, .awaitingPayment, .paid] := by
    by_cases hp : i'.status = .paid
    · rw [(hpaid hp).2]
      decide
    · rw [hopen hp]
      exact h.reached o ho.mem
  -- Once the moved invoice is paid, no other invoice of its order is.
  have halone : ∀ j ∈ invoices, j.orderId = some o.id → j.status = .paid → i'.status ≠ .paid :=
    fun j hj hid hp hpi => (hpaid hpi).1 ((h.paid o ho.mem).mpr ⟨j, hj, hid, hp⟩)
  refine h.move ho hsince hstatus ?_ ?_ ?_ ?_ ?_
  · intro j hj
    rw [hi.mem_iff j]
    constructor
    · rintro (⟨hj', _⟩ | rfl)
      · exact hj'
      · exact absurd hbills'.orderId hj
    · intro hj'
      refine Or.inl ⟨hj', fun hk => hj ?_⟩
      rw [Table.eq_of_mem hj' hi.mem hk]
      exact hbills.orderId
  · intro j hj hid
    cases (hi.mem_iff j).mp hj with
    | inl hj' => exact h.bills ho.mem hj'.1 hid
    | inr he => exact he ▸ hbills'
  · exact ⟨fun _ => ⟨i', hnew, hbills'.orderId⟩, fun _ => hpast⟩
  · by_cases hp : i'.status = .paid
    · exact ⟨fun _ => ⟨i', hnew, hbills'.orderId, hp⟩, fun _ => (hpaid hp).2⟩
    · rw [hopen hp, h.paid o ho.mem]
      constructor
      · rintro ⟨j, hj, hid, hpj⟩
        refine ⟨j, (hi.mem_iff j).mpr (Or.inl ⟨hj, fun hk => hunpaid ?_⟩), hid, hpj⟩
        exact Table.eq_of_mem hj hi.mem hk ▸ hpj
      · rintro ⟨j, hj, hid, hpj⟩
        cases (hi.mem_iff j).mp hj with
        | inl hj' => exact ⟨j, hj'.1, hid, hpj⟩
        | inr hji => exact absurd (hji ▸ hpj) hp
  · intro j hj k hk hij hik hpj hpk
    cases (hi.mem_iff j).mp hj with
    | inl hj' =>
      cases (hi.mem_iff k).mp hk with
      | inl hk' => exact h.once j hj'.1 k hk'.1 (hij.trans hik.symm) hpj hpk
      | inr he => exact absurd (he ▸ hpk) (halone j hj'.1 hij hpj)
    | inr he =>
      cases (hi.mem_iff k).mp hk with
      | inl hk' => exact absurd (he ▸ hpj) (halone k hk'.1 hik hpk)
      | inr he' => exact he.trans he'.symm

end Agree

/-- The two tables an order's life is kept in. -/
def Store.sales (s : Store) : Table Order.id × Table Invoice.id := (s.orders, s.invoices)

def Store.tenantSales (s : Store) : Table Tenant.id × Table Order.id × Table Invoice.id := (s.tenants, s.sales)

def Call.sells : Call → Bool
  | createOrder .. | issueInvoiceForOrder .. | markInvoicePaidManually .. | cancelInvoice .. => true
  | _ => false

theorem leaves_transitionClientStatus (env : Env) (clientId : Id) (toStatus : ClientStatus) (actor : TransitionActor)
    (reason : Option String) : (transitionClientStatus env clientId toStatus actor reason).Leaves Store.tenantSales := by
  refine (Relation.leaves_findUniqueOrThrow _).bind (fun _ => (leaves_ensure _ _).bind (fun _ => ?_))
  refine (Relation.leaves_update _ _ _ (fun _ => rfl)).bind (fun _ => ?_)
  exact (leaves_recordStatusTransition _ (fun _ => rfl)).bind (fun _ => trivial)

theorem leaves_insertClient (env : Env) (input : RegisterClientInput) (email passwordHash : String) :
    (insertClient env input email passwordHash).Leaves Store.tenantSales := by
  refine (Relation.leaves_create _ (fun _ => rfl)).bind (fun _ => ?_)
  refine (Relation.leaves_create _ (fun _ => rfl)).bind (fun _ => ?_)
  refine (leaves_recordStatusTransition _ (fun _ => rfl)).bind (fun _ => ?_)
  exact (leaves_recordAuditLog _ (fun _ => rfl)).bind (fun _ => trivial)

theorem leaves_markVerified (env : Env) (record : EmailVerificationToken) (contact : ClientContact) :
    (markVerified env record contact).Leaves Store.tenantSales := by
  refine (Relation.leaves_update _ _ _ (fun _ => rfl)).bind (fun _ => ?_)
  refine (Relation.leaves_update _ _ _ (fun _ => rfl)).bind (fun _ => ?_)
  refine (Relation.leaves_findUniqueOrThrow _).bind (fun client => ?_)
  unfold verifyPending
  split
  · refine (leaves_transitionClientStatus _ _ _ _ _).bind (fun _ => ?_)
    exact (Relation.leaves_update _ _ _ (fun _ => rfl)).bind (fun _ => trivial)
  · trivial

/-- A call that is not about orders and invoices leaves them and the tenants alone. -/
theorem Call.tenantSales_after {call : Call} (h : call.sells = false) (s : Store) :
    (call.after s).tenantSales = s.tenantSales := by
  cases call with
  | createOrder | issueInvoiceForOrder | markInvoicePaidManually | cancelInvoice => cases h
  | setProductPrice env actor input =>
    exact after_of_leaves (leaves_setProductPrice env actor input (fun _ _ => rfl) (fun _ _ => rfl)) s
  | registerClient env input =>
    refine after_of_leaves (p := Model.registerClient env input) ?_ s
    refine (Relation.leaves_findFirst _).bind (fun _ => (Relation.leaves_findFirst _).bind (fun _ => ?_))
    refine (leaves_ensure _ _).bind (fun _ => (leaves_insertClient _ _ _ _).transaction.bind (fun _ => ?_))
    exact (leaves_sendVerification _ _ _ _ (fun _ _ => rfl) (fun _ _ => rfl)).bind (fun _ => trivial)
  | verifyClientEmail env token =>
    refine after_of_leaves (p := Model.verifyClientEmail env token) ?_ s
    refine (Relation.leaves_findFirst _).bind (fun found => ?_)
    refine Leaves.bind (by cases found.filter _ <;> trivial) (fun record => ?_)
    refine (Relation.leaves_findUniqueOrThrow _).bind (fun contact => ?_)
    exact (leaves_markVerified _ _ _).transaction.bind (fun _ => leaves_queueEmail _ _ (fun _ _ => rfl))
  | addClientNote env actor clientId body =>
    refine after_of_leaves (p := Model.addClientNote env actor clientId body) ?_ s
    refine (leaves_ensure _ _).bind (fun _ => ?_)
    exact (Relation.leaves_create _ (fun _ => rfl)).transaction.bind (fun _ => trivial)
  | changeClientStatus env actor clientId toStatus reason =>
    refine after_of_leaves (p := Model.changeClientStatus env actor clientId toStatus reason) ?_ s
    refine (leaves_ensure _ _).bind (fun _ => Leaves.transaction ?_)
    refine (leaves_transitionClientStatus _ _ _ _ _).bind (fun _ => ?_)
    exact leaves_recordAuditLog _ (fun _ => rfl)
  | updateClientProfile env actor clientId patch =>
    refine after_of_leaves (p := Model.updateClientProfile env actor clientId patch) ?_ s
    refine Leaves.bind (by cases actor <;> exact leaves_ensure _ _) (fun _ => Leaves.transaction ?_)
    refine (Relation.leaves_findUniqueOrThrow _).bind (fun _ => ?_)
    refine (Relation.leaves_update _ _ _ (fun _ => rfl)).bind (fun _ => ?_)
    exact leaves_recordAuditLog _ (fun _ => rfl)
  | disableStaffUser env actor targetUserId =>
    refine after_of_leaves (p := Model.disableStaffUser env actor targetUserId) ?_ s
    refine (leaves_ensure _ _).bind (fun _ => Leaves.transaction ?_)
    refine (Relation.leaves_update _ _ _ (fun _ => rfl)).bind (fun _ => ?_)
    refine (leaves_recordAuditLog _ (fun _ => rfl)).bind (fun _ => ?_)
    exact Relation.leaves_updateMany _ _ _ (fun _ _ => rfl)

theorem Call.sales_after {call : Call} (h : call.sells = false) (s : Store) : (call.after s).sales = s.sales :=
  congrArg Prod.snd (Call.tenantSales_after h s)

/-- The order argument of a call is a row that was read before. -/
def Call.Holds (seen : List Order) : Call → Prop
  | issueInvoiceForOrder _ order _ => order ∈ seen
  | _ => True

/-- Tables reached by calls made one after the other, with the order rows that
were read on the way. -/
inductive Reached (s₀ : Store) : Store → List Order → Prop
  | start : Reached s₀ s₀ []
  | read {s : Store} {seen : List Order} (o : Order) (h : Reached s₀ s seen) (ho : o ∈ s.orders) :
      Reached s₀ s (o :: seen)
  | call {s : Store} {seen : List Order} (call : Call) (h : Reached s₀ s seen) (hc : call.Holds seen) :
      Reached s₀ (call.after s) seen

theorem OrderStep.replaced {s s' : Store} {id : Id} {toStatus : OrderStatus} {actor : TransitionActor}
    {reason : Option String} (h : OrderStep s (some id) toStatus actor reason s') :
    ∃ o, o.id = id ∧ isValidOrderTransition o.status toStatus = true ∧
      Table.Replaced s.orders s'.orders o { o with status := toStatus } ∧ s'.invoices = s.invoices := by
  obtain ⟨o, hfound, hvalid, _, rfl⟩ := h
  refine ⟨o, Table.key_of_find hfound, hvalid, ?_, moveOrder_invoices s o toStatus actor reason⟩
  rw [moveOrder_orders]
  exact Table.replaced_modify (Table.mem_of_find hfound) _ _

def Store.Agree (s : Store) (seen : List Order) : Prop := Model.Agree s.orders s.invoices seen

theorem Placed.agree {env : Env} {actor : Actor} {input : CreateOrderInput} {client : Client}
    {rows : List OrderItemRow} {s s' : Store} {order : Order} {seen : List Order}
    (h : Placed env actor input client rows s order s') (ha : s.Agree seen) : s'.Agree seen := by
  obtain ⟨value, _, _, rfl⟩ := h.after
  have hid : order.id = env.cuid 0 := by rw [h.order_eq]
  rw [Store.Agree, placeOrder_orders, placeOrder_invoices]
  exact ha.place (Relation.find_of_fresh h.fresh) (hid ▸ env.cuid_ne_empty 0) (by rw [h.order_eq])

theorem Issued.agree {env : Env} {order : Order} {actor : TransitionActor} {client : Client} {s s' : Store}
    {invoice : Invoice} {seen : List Order} (h : Issued env order actor client s invoice s') (hseen : order ∈ seen)
    (ha : s.Agree seen) : s'.Agree seen := by
  obtain ⟨value, _, _, hstep⟩ := h.after
  obtain ⟨o, ho, hsince⟩ := ha.copies order hseen
  have he := h.invoice_eq
  have hbills : invoice.Bills order := by
    rw [he]
    exact ⟨rfl, rfl, rfl, rfl, rfl, rfl⟩
  have hstatus : invoice.status = .issued := by rw [he]; rfl
  have hnew : s.invoices.find invoice.id = none := Relation.find_of_fresh h.fresh
  by_cases hp : order.status = .pending
  · rw [if_pos hp] at hstep
    obtain ⟨p, hid, hvalid, hrep, hinv⟩ := hstep.replaced
    rw [issueInvoice_orders] at hrep
    have hpo : p = o := Table.eq_of_mem hrep.mem ho (hid.trans hsince.id_eq.symm)
    subst hpo
    -- Of the reached statuses only pending moves to awaiting payment.
    have hpending : p.status = .pending := by
      have hr := ha.reached p ho
      revert hr hvalid
      cases p.status <;> decide
    change Model.Agree s'.orders s'.invoices seen
    rw [hinv, issueInvoice_invoices]
    refine ha.issue hnew (hbills.since hsince) hstatus hrep ⟨rfl, fun hs => nomatch hs⟩ (by simp) ?_
    rw [hpending]
    exact ⟨(fun hs => nomatch hs), (fun hs => nomatch hs)⟩
  · rw [if_neg hp] at hstep
    have hs' : s' = s.issueInvoice order actor invoice value := hstep
    rw [hs', Store.Agree, issueInvoice_orders, issueInvoice_invoices]
    have hopen : o.status ≠ .pending := fun hs => hp (hsince.pending hs)
    have hstatus' : o.status ∈ [OrderStatus.awaitingPayment, .paid] := by
      have hr := ha.reached o ho
      revert hr hopen
      cases o.status <;> decide
    exact ha.issue hnew (hbills.since hsince) hstatus (Table.replaced_refl ho) o.since_refl hstatus' Iff.rfl

theorem Paid.agree {env : Env} {actor : StaffActor} {invoiceId : Id} {input : PaymentInput} {s s' : Store}
    {invoice : Invoice} {amount : ℤ} {paid due : Int4} {status : InvoiceStatus} {seen : List Order}
    (h : Paid env actor invoiceId input s invoice amount paid due status s') (ha : s.Agree seen) :
    s'.Agree seen := by
  have hmem : invoice ∈ s.invoices := Table.mem_of_find h.found
  have hunpaid : invoice.status ≠ .paid := ne_paid_of_payable h.payment.payable
  obtain ⟨o, ho, hbills⟩ := ha.linked invoice hmem
  have hbills' : (invoice.withPayment paid due status (Payment.paidAt env invoice status)).Bills o :=
    ⟨hbills.orderId, hbills.tenantId, hbills.clientId, hbills.currency, hbills.subtotal, hbills.total⟩
  have hrep : Table.Replaced s.invoices (s.payInvoice actor invoice paid due status
      (Payment.paidAt env invoice status) amount input).invoices invoice
      (invoice.withPayment paid due status (Payment.paidAt env invoice status)) :=
    Table.replaced_modify hmem _ (Invoice.withPayment_id paid due status (Payment.paidAt env invoice status))
  have hord : (s.payInvoice actor invoice paid due status (Payment.paidAt env invoice status) amount
      input).orders = s.orders := rfl
  have hstep := h.after
  by_cases hp : status = .paid
  · have htarget : invoice.orderId.filter (fun id => id != "") = some o.id := by
      rw [hbills.orderId, Option.filter_some, if_pos (by simpa using ha.named o ho)]
    rw [if_pos hp, htarget] at hstep
    obtain ⟨p, hid, hvalid, hrepo, hinv⟩ := hstep.replaced
    have hpo : p = o := Table.eq_of_mem hrepo.mem ho hid
    subst hpo
    rw [hord] at hrepo
    -- Only an order that awaits payment becomes paid.
    have hawaiting : p.status = .awaitingPayment := by
      revert hvalid
      cases p.status <;> decide
    change Model.Agree s'.orders s'.invoices seen
    rw [hinv]
    refine ha.settle hrep hunpaid hbills hbills' hrepo ⟨rfl, fun hs => nomatch hs⟩ (fun _ => ⟨?_, rfl⟩)
      (fun hne => absurd hp hne)
    rw [hawaiting]
    decide
  · rw [if_neg hp] at hstep
    have hs' : s' = s.payInvoice actor invoice paid due status (Payment.paidAt env invoice status) amount
        input := hstep
    rw [hs', Store.Agree, hord]
    exact ha.settle hrep hunpaid hbills hbills' (Table.replaced_refl ho) o.since_refl
      (fun hpaid => absurd hpaid hp) (fun _ => rfl)

theorem Cancelled.agree {actor : StaffActor} {invoiceId : Id} {reason : String} {s s' : Store}
    {invoice : Invoice} {seen : List Order} (h : Cancelled actor invoiceId reason s invoice s')
    (ha : s.Agree seen) : s'.Agree seen := by
  have hmem : invoice ∈ s.invoices := Table.mem_of_find h.found
  have hunpaid : invoice.status ≠ .paid := ne_paid_of_cancellable h.valid
  obtain ⟨o, ho, hbills⟩ := ha.linked invoice hmem
  have hrep : Table.Replaced s.invoices (s.moveInvoice invoice .cancelled actor.transitionActor
      (some reason)).invoices invoice { invoice with status := .cancelled } :=
    Table.replaced_modify hmem (fun r => { r with status := .cancelled }) (fun _ => rfl)
  rw [h.after]
  exact ha.settle hrep hunpaid hbills
    ⟨hbills.orderId, hbills.tenantId, hbills.clientId, hbills.currency, hbills.subtotal, hbills.total⟩
    (Table.replaced_refl ho) o.since_refl (fun hpaid => nomatch hpaid) (fun _ => rfl)

/-- What a call does to the agreement of the statuses, whichever it is. -/
theorem Call.agree (call : Call) {s : Store} {seen : List Order} (hc : call.Holds seen) (ha : s.Agree seen) :
    (call.after s).Agree seen := by
  have others : call.sells = false → (call.after s).Agree seen := by
    intro h
    have hs := Call.sales_after h s
    have ho : (call.after s).orders = s.orders := congrArg Prod.fst hs
    have hi : (call.after s).invoices = s.invoices := congrArg Prod.snd hs
    rw [Store.Agree, ho, hi]
    exact ha
  cases call with
  | createOrder env actor input =>
    refine inv_of_atomic (P := fun t => t.Agree seen) (atomic_createOrder env actor input) ha (fun order c s' hev => ?_)
    obtain ⟨_, ⟨_, rfl⟩ | ⟨_, client, rows, hp⟩⟩ := createOrder_ok hev
    · exact ha
    · exact hp.agree ha
  | issueInvoiceForOrder env order actor =>
    refine inv_of_atomic (P := fun t => t.Agree seen) (atomic_issueInvoiceForOrder env order actor) ha
      (fun invoice c s' hev => ?_)
    obtain ⟨_, client, hi⟩ := issueInvoiceForOrder_ok hev
    exact hi.agree hc ha
  | markInvoicePaidManually env actor invoiceId input =>
    refine inv_of_atomic (P := fun t => t.Agree seen) (atomic_markInvoicePaidManually env actor invoiceId input) ha
      (fun updated c s' hev => ?_)
    obtain ⟨_, invoice, amount, paid, due, status, hp⟩ := markInvoicePaidManually_ok hev
    exact hp.agree ha
  | cancelInvoice actor invoiceId reason =>
    refine inv_of_atomic (P := fun t => t.Agree seen) (atomic_cancelInvoice actor invoiceId reason) ha
      (fun updated c s' hev => ?_)
    obtain ⟨_, _, invoice, hcan⟩ := cancelInvoice_ok hev
    exact hcan.agree ha
  | _ => exact others rfl

theorem Call.ledger (call : Call) {s : Store} (h : s.books.Ledger) : (call.after s).books.Ledger :=
  (call.changes s (alongCalls_pays_any s [call]).1).inv (fun _ _ hb hc => hc.ledger hb) h

namespace Reached

variable {s₀ s : Store} {seen : List Order}

theorem agree (h : Reached s₀ s seen) (ho : s₀.orders = ∅) (hi : s₀.invoices = ∅) : s.Agree seen := by
  induction h with
  | start =>
    rw [Store.Agree, ho, hi]
    exact Agree.empty
  | read o _ hmem ih => exact ih.read hmem
  | call call _ hc ih => exact call.agree hc ih

theorem ledger (h : Reached s₀ s seen) (hi : s₀.invoices = ∅) (hh : s₀.statusHistories = []) :
    s.books.Ledger := by
  induction h with
  | start => exact Books.ledger_of_blank (b := s₀.books) hi hh
  | read o _ _ ih => exact ih
  | call call _ _ ih => exact call.ledger ih

end Reached

/-- In all tables reached from tables without orders, invoices and history, the
status of an order says whether it was invoiced and paid, and its invoices
carry what the order says. -/
theorem statuses_agree (s₀ : Store) (ho : s₀.orders = ∅) (hi : s₀.invoices = ∅) (hh : s₀.statusHistories = [])
    (s : Store) (seen : List Order) (h : Reached s₀ s seen) :
    (∀ o ∈ s.orders,
      (o.status = .pending ↔ ¬ ∃ i ∈ s.invoices, i.orderId = some o.id) ∧
      (o.status = .paid ↔ ∃! i, i ∈ s.invoices ∧ i.orderId = some o.id ∧ i.status = .paid) ∧
      (∀ i ∈ s.invoices, i.orderId = some o.id → i.status = .paid → i.amountPaid = o.total) ∧
      (o.status ≠ .pending → o.status ≠ .paid → o.status = .awaitingPayment) ∧
      (∀ i ∈ s.invoices, i.orderId = some o.id → i.Bills o)) ∧
    ∀ i ∈ s.invoices, ∃ o ∈ s.orders, i.Bills o := by
  have ha := h.agree ho hi
  have hl := h.ledger hi hh
  have hbills : ∀ o ∈ s.orders, ∀ i ∈ s.invoices, i.orderId = some o.id → i.Bills o :=
    fun o hmem i him hid => ha.bills hmem him hid
  refine ⟨fun o hmem => ⟨?_, ?_, ?_, ?_, hbills o hmem⟩, ha.linked⟩
  · rw [← ha.billed o hmem, not_not]
  · rw [ha.paid o hmem]
    constructor
    · rintro ⟨i, him, hid, hp⟩
      refine ⟨i, ⟨him, hid, hp⟩, ?_⟩
      rintro j ⟨hjm, hjd, hjp⟩
      exact ha.once j hjm i him (hjd.trans hid.symm) hjp hp
    · rintro ⟨i, hex, _⟩
      exact ⟨i, hex⟩
  · intro i him hid hp
    have hpaid : i.amountPaid = i.total := Subtype.ext ((hl.balanced i him).paid hp).1
    rw [hpaid, (hbills o hmem i him hid).total]
  · intro hpending hpaid
    have hr := ha.reached o hmem
    revert hr hpending hpaid
    cases o.status <;> decide

open Sample in
theorem statuses_agree_sale : ∃ s seen, Reached (shop 0) s seen ∧ s.orders.rows.map Order.status = [.awaitingPayment] ∧
    (∀ o ∈ s.orders, o.status = .pending ↔ ¬ ∃ i ∈ s.invoices, i.orderId = some o.id) ∧
    ∀ i ∈ s.invoices, ∃ o ∈ s.orders, i.Bills o := by
  have hplaced : placed ∈ ordered.orders := Table.mem_of_find (Option.some_get _).symm
  have hordered : Reached (shop 0) ordered [] := .call (.createOrder (env "a") (.staff staff) twoMonths) .start trivial
  have hread : Reached (shop 0) ordered [placed] := .read placed hordered hplaced
  have hissued := Reached.call (.issueInvoiceForOrder (env "b") placed staff.transitionActor) hread
    (List.mem_singleton.mpr rfl)
  have hagree := statuses_agree (shop 0) rfl rfl rfl _ _ hissued
  exact ⟨_, _, hissued, by decide +kernel, fun o ho => (hagree.1 o ho).1, hagree.2⟩

end HostPanel.Model
