import HostPanel.Lib.Journal
import HostPanel.Books.Changes

namespace HostPanel.Model

open HostPanel.Lib

namespace Books

/-- Where an entity stands, if it exists. -/
def status (b : Books) : StatusHistoryEntityType → Id → Option Status
  | .client, id => (b.clients.find id).map (fun r => .client r.status)
  | .order, id => (b.orders.find id).map (fun r => .order r.status)
  | .invoice, id => (b.invoices.find id).map (fun r => .invoice r.status)

/-- The status an entity is created in. -/
def creationStatus : StatusHistoryEntityType → Status
  | .client => .client .pendingVerification
  | .order => .order .pending
  | .invoice => .invoice .issued

def rowsOf (b : Books) (entityType : StatusHistoryEntityType) (entityId : Id) : List StatusHistory :=
  b.statusHistories.filter (fun r => decide (r.entityType = entityType ∧ r.entityId = entityId))

def moves (b : Books) (entityType : StatusHistoryEntityType) (entityId : Id) : List (Option Status × Status) :=
  (b.rowsOf entityType entityId).map (fun r => (r.fromStatus, r.toStatus))

/-- A client or order row that is no creation is an edge of its map. -/
def Edge (row : StatusHistory) : Prop :=
  ∀ s, row.fromStatus = some s →
    match row.entityType with
    | .client => ∃ a c, s = .client a ∧ row.toStatus = .client c ∧ isValidClientTransition a c = true
    | .order => ∃ a c, s = .order a ∧ row.toStatus = .order c ∧ isValidOrderTransition a c = true
    | .invoice => True

/-- A row is logged and its entity, and no other, goes where the row says. -/
structure Logged (b b' : Books) (entityType : StatusHistoryEntityType) (entityId : Id) (row : StatusHistory) : Prop where
  logs : row.Logs entityType entityId (b.status entityType entityId) row.toStatus
  histories : b'.statusHistories = b.statusHistories ++ [row]
  self : b'.status entityType entityId = some row.toStatus
  other : ∀ t id, ¬ (t = entityType ∧ id = entityId) → b'.status t id = b.status t id
  creation : b.status entityType entityId = none → row.toStatus = creationStatus entityType
  edge : Edge row

theorem rowsOf_log (b b' : Books) {entityType : StatusHistoryEntityType} {entityId : Id} {row : StatusHistory}
    (ht : row.entityType = entityType) (hid : row.entityId = entityId)
    (hh : b'.statusHistories = b.statusHistories ++ [row]) :
    b'.rowsOf entityType entityId = b.rowsOf entityType entityId ++ [row] := by
  rw [rowsOf, hh, List.filter_append, List.filter_singleton]
  simp [rowsOf, ht, hid]

theorem rowsOf_log_other (b b' : Books) {t : StatusHistoryEntityType} {id : Id} {row : StatusHistory}
    (hne : ¬ (row.entityType = t ∧ row.entityId = id)) (hh : b'.statusHistories = b.statusHistories ++ [row]) :
    b'.rowsOf t id = b.rowsOf t id := by
  rw [rowsOf, hh, List.filter_append, List.filter_singleton]
  simp [rowsOf, hne]

variable {allowed : Invoice → InvoiceStatus → Prop}

theorem Logged.of_status {b b' : Books} {entityType : StatusHistoryEntityType} {entityId : Id} {row : StatusHistory}
    {fromStatus : Option Status} {toStatus : Status} (hrow : row.Logs entityType entityId fromStatus toStatus)
    (hfrom : b.status entityType entityId = fromStatus) (hh : b'.statusHistories = b.statusHistories ++ [row])
    (hstatus : ∀ t id, b'.status t id =
      if t = entityType ∧ id = entityId then some toStatus else b.status t id)
    (hcreation : fromStatus = none → toStatus = creationStatus entityType) (hedge : Edge row) :
    Logged b b' entityType entityId row := by
  refine ⟨?_, hh, ?_, ?_, ?_, hedge⟩
  · exact ⟨hrow.entityType_eq, hrow.entityId_eq, hrow.fromStatus_eq.trans hfrom.symm, rfl⟩
  · rw [hstatus, if_pos ⟨rfl, rfl⟩, hrow.toStatus_eq]
  · intro t id hne
    rw [hstatus, if_neg hne]
  · intro hn
    rw [hrow.toStatus_eq]
    exact hcreation (hfrom.symm.trans hn)

section Statuses

variable (b : Books) (row : StatusHistory) (t : StatusHistoryEntityType) (id : Id)

theorem status_insertClient {client : Client} (hnew : b.clients.find client.id = none) :
    ({ b with clients := b.clients.insert client }.log row).status t id =
      if t = .client ∧ id = client.id then some (.client client.status) else b.status t id := by
  cases t with
  | client =>
    by_cases hid : id = client.id
    · simp [status, log, hid, Table.find_insert_self hnew]
    · simp [status, log, hid, Table.find_insert_ne _ _ hid]
  | order => simp [status, log]
  | invoice => simp [status, log]

theorem status_modifyClient {client : Client} (hfound : b.clients.find client.id = some client)
    {f : Client → Client} {hf : ∀ r, (f r).id = r.id} :
    ({ b with clients := b.clients.modify client.id f hf }.log row).status t id =
      if t = .client ∧ id = client.id then some (.client (f client).status) else b.status t id := by
  cases t with
  | client =>
    by_cases hid : id = client.id
    · simp [status, log, hid, Table.find_modify_self, hfound]
    · simp [status, log, hid, Table.find_modify_ne _ _ _ hid]
  | order => simp [status, log]
  | invoice => simp [status, log]

theorem status_insertOrder {order : Order} (hnew : b.orders.find order.id = none) :
    ({ b with orders := b.orders.insert order }.log row).status t id =
      if t = .order ∧ id = order.id then some (.order order.status) else b.status t id := by
  cases t with
  | order =>
    by_cases hid : id = order.id
    · simp [status, log, hid, Table.find_insert_self hnew]
    · simp [status, log, hid, Table.find_insert_ne _ _ hid]
  | client => simp [status, log]
  | invoice => simp [status, log]

theorem status_modifyOrder {order : Order} (hfound : b.orders.find order.id = some order) {f : Order → Order}
    {hf : ∀ r, (f r).id = r.id} :
    ({ b with orders := b.orders.modify order.id f hf }.log row).status t id =
      if t = .order ∧ id = order.id then some (.order (f order).status) else b.status t id := by
  cases t with
  | order =>
    by_cases hid : id = order.id
    · simp [status, log, hid, Table.find_modify_self, hfound]
    · simp [status, log, hid, Table.find_modify_ne _ _ _ hid]
  | client => simp [status, log]
  | invoice => simp [status, log]

theorem status_insertInvoice {invoice : Invoice} (hnew : b.invoices.find invoice.id = none) :
    ({ b with invoices := b.invoices.insert invoice }.log row).status t id =
      if t = .invoice ∧ id = invoice.id then some (.invoice invoice.status) else b.status t id := by
  cases t with
  | invoice =>
    by_cases hid : id = invoice.id
    · simp [status, log, hid, Table.find_insert_self hnew]
    · simp [status, log, hid, Table.find_insert_ne _ _ hid]
  | client => simp [status, log]
  | order => simp [status, log]

theorem status_modifyInvoice {invoice : Invoice} (hfound : b.invoices.find invoice.id = some invoice)
    {f : Invoice → Invoice} {hf : ∀ r, (f r).id = r.id} :
    ({ b with invoices := b.invoices.modify invoice.id f hf }.log row).status t id =
      if t = .invoice ∧ id = invoice.id then some (.invoice (f invoice).status) else b.status t id := by
  cases t with
  | invoice =>
    by_cases hid : id = invoice.id
    · simp [status, log, hid, Table.find_modify_self, hfound]
    · simp [status, log, hid, Table.find_modify_ne _ _ _ hid]
  | client => simp [status, log]
  | order => simp [status, log]

end Statuses

theorem edge_of_creation {row : StatusHistory} (h : row.fromStatus = none) : Edge row := by
  intro s hs
  rw [h] at hs
  cases hs

theorem edge_of_invoice {row : StatusHistory} (h : row.entityType = .invoice) : Edge row := by
  intro s _
  rw [h]
  trivial

/-- A change logs a row about the one entity it moves, or moves none. -/
theorem Change.logged {b b' : Books} (h : Change allowed b b') :
    (b'.statusHistories = b.statusHistories ∧ b'.status = b.status) ∨ ∃ t id row, Logged b b' t id row := by
  cases h with
  | clientCreated client row hnew hstatus hrow =>
    have hfrom : b.status .client client.id = none := by rw [status, hnew, Option.map_none]
    refine Or.inr ⟨_, _, row, Logged.of_status hrow hfrom rfl (fun t id => ?_) (fun _ => rfl)
      (edge_of_creation hrow.fromStatus_eq)⟩
    rw [status_insertClient b row t id hnew, hstatus]
  | clientMoved client toStatus now row hfound hvalid hrow =>
    have hfrom : b.status .client client.id = some (.client client.status) := by rw [status, hfound, Option.map_some]
    refine Or.inr ⟨_, _, row, Logged.of_status hrow hfrom rfl (fun t id => status_modifyClient b row t id hfound)
      (fun hn => absurd hn (Option.some_ne_none _)) ?_⟩
    intro s hs
    rw [hrow.entityType_eq]
    exact ⟨client.status, toStatus, Option.some.inj (hs.symm.trans hrow.fromStatus_eq), hrow.toStatus_eq, hvalid⟩
  | clientEdited id f hid hstatus =>
    refine Or.inl ⟨rfl, ?_⟩
    funext t i
    cases t with
    | client =>
      exact Table.find_modify_map _ _ f hid (fun r : Client => Status.client r.status)
        (fun r => congrArg Status.client (hstatus r)) i
    | order => rfl
    | invoice => rfl
  | orderPlaced order row hnew hstatus hrow =>
    have hfrom : b.status .order order.id = none := by rw [status, hnew, Option.map_none]
    refine Or.inr ⟨_, _, row, Logged.of_status hrow hfrom rfl (fun t id => ?_) (fun _ => rfl)
      (edge_of_creation hrow.fromStatus_eq)⟩
    rw [status_insertOrder b row t id hnew, hstatus]
  | orderMoved order toStatus row hfound hvalid hrow =>
    have hfrom : b.status .order order.id = some (.order order.status) := by rw [status, hfound, Option.map_some]
    refine Or.inr ⟨_, _, row, Logged.of_status hrow hfrom rfl (fun t id => status_modifyOrder b row t id hfound)
      (fun hn => absurd hn (Option.some_ne_none _)) ?_⟩
    intro s hs
    rw [hrow.entityType_eq]
    exact ⟨order.status, toStatus, Option.some.inj (hs.symm.trans hrow.fromStatus_eq), hrow.toStatus_eq, hvalid⟩
  | invoiceIssued invoice row hnew hstatus hpaid hdue hpaidAt hrow =>
    have hfrom : b.status .invoice invoice.id = none := by rw [status, hnew, Option.map_none]
    refine Or.inr ⟨_, _, row, Logged.of_status hrow hfrom rfl (fun t id => ?_) (fun _ => rfl)
      (edge_of_creation hrow.fromStatus_eq)⟩
    rw [status_insertInvoice b row t id hnew, hstatus]
  | invoicePaid env invoice amount paid due status row hfound hpayment hallowed hrow hamount =>
    have hfrom : b.status .invoice invoice.id = some (.invoice invoice.status) := by
      rw [Books.status, hfound, Option.map_some]
    exact Or.inr ⟨_, _, row, Logged.of_status hrow hfrom rfl (fun t id => status_modifyInvoice b row t id hfound)
      (fun hn => absurd hn (Option.some_ne_none _)) (edge_of_invoice hrow.entityType_eq)⟩
  | invoiceCancelled invoice row hfound hvalid hrow =>
    have hfrom : b.status .invoice invoice.id = some (.invoice invoice.status) := by
      rw [status, hfound, Option.map_some]
    exact Or.inr ⟨_, _, row, Logged.of_status hrow hfrom rfl (fun t id => status_modifyInvoice b row t id hfound)
      (fun hn => absurd hn (Option.some_ne_none _)) (edge_of_invoice hrow.entityType_eq)⟩

/-- The history of every entity leads from its creation to where it stands, an
entity that does not exist has none, and the rows of clients and orders are
edges of their maps. -/
structure Documented (b : Books) : Prop where
  traced : ∀ t id s, b.status t id = some s → Traced (creationStatus t) (b.moves t id) s
  absent : ∀ t id, b.status t id = none → b.rowsOf t id = []
  edges : ∀ row ∈ b.statusHistories, Edge row

theorem Logged.documented {b b' : Books} {t : StatusHistoryEntityType} {id : Id} {row : StatusHistory}
    (h : Logged b b' t id row) (hb : Documented b) : Documented b' := by
  have hself := rowsOf_log b b' h.logs.entityType_eq h.logs.entityId_eq h.histories
  have hother : ∀ t' id', ¬ (t' = t ∧ id' = id) → b'.rowsOf t' id' = b.rowsOf t' id' := by
    intro t' id' hne
    refine rowsOf_log_other b b' ?_ h.histories
    rintro ⟨ht, hid⟩
    exact hne ⟨ht.symm.trans h.logs.entityType_eq, hid.symm.trans h.logs.entityId_eq⟩
  refine ⟨?_, ?_, ?_⟩
  · intro t' id' s hs
    by_cases he : t' = t ∧ id' = id
    · obtain ⟨rfl, rfl⟩ := he
      rw [h.self] at hs
      cases hs
      rw [moves, hself, List.map_append, List.map_singleton, h.logs.fromStatus_eq]
      cases hfrom : b.status t' id' with
      | none =>
        rw [hb.absent t' id' hfrom, List.map_nil, List.nil_append, h.creation hfrom]
        exact Traced.created _
      | some current => exact (hb.traced t' id' current hfrom).snoc row.toStatus
    · rw [h.other t' id' he] at hs
      rw [moves, hother t' id' he]
      exact hb.traced t' id' s hs
  · intro t' id' hn
    by_cases he : t' = t ∧ id' = id
    · obtain ⟨rfl, rfl⟩ := he
      rw [h.self] at hn
      cases hn
    · rw [hother t' id' he]
      rw [h.other t' id' he] at hn
      exact hb.absent t' id' hn
  · intro r hr
    rw [h.histories] at hr
    cases List.mem_append.mp hr with
    | inl hold => exact hb.edges r hold
    | inr hnew =>
      rw [List.mem_singleton.mp hnew]
      exact h.edge

theorem Change.documented {b b' : Books} (hb : Documented b) (h : Change allowed b b') : Documented b' := by
  cases h.logged with
  | inl hsame =>
    obtain ⟨hh, hs⟩ := hsame
    have hrows : b'.rowsOf = b.rowsOf := by
      funext t id
      rw [rowsOf, hh, rowsOf]
    refine ⟨?_, ?_, ?_⟩
    · intro t id s he
      rw [moves, hrows]
      rw [hs] at he
      exact hb.traced t id s he
    · intro t id he
      rw [hs] at he
      rw [hrows]
      exact hb.absent t id he
    · rw [hh]
      exact hb.edges
  | inr hlog =>
    obtain ⟨t, id, row, hl⟩ := hlog
    exact hl.documented hb

/-- Books without clients, orders, invoices and history. -/
def Blank (b : Books) : Prop := b = ⟨∅, ∅, ∅, []⟩

theorem documented_of_blank {b : Books} (h : b.Blank) : Documented b := by
  subst h
  refine ⟨?_, fun _ _ _ => rfl, fun _ hr => absurd hr List.not_mem_nil⟩
  intro t id s hs
  cases t <;> simp [status] at hs

end Books

/-- After any calls on blank books, the history of every client, order and
invoice is a path from its creation to its status, along the maps of the
clients and the orders. -/
theorem history_documented (s : Store) (hblank : s.books.Blank) (calls : List Call) :
    let b := (runCalls s calls).books
    (∀ r ∈ b.clients, Traced (.client .pendingVerification) (b.moves .client r.id) (.client r.status)) ∧
      (∀ r ∈ b.orders, Traced (.order .pending) (b.moves .order r.id) (.order r.status)) ∧
      (∀ r ∈ b.invoices, Traced (.invoice .issued) (b.moves .invoice r.id) (.invoice r.status)) ∧
      (∀ row ∈ b.statusHistories, ∀ old, row.fromStatus = some old →
        (row.entityType = .client → ∃ a c, old = .client a ∧ row.toStatus = .client c ∧
          isValidClientTransition a c = true) ∧
        (row.entityType = .order → ∃ a c, old = .order a ∧ row.toStatus = .order c ∧
          isValidOrderTransition a c = true)) := by
  have h : (runCalls s calls).books.Documented :=
    runCalls_books (fun _ _ hb hc => hc.documented hb) (Books.documented_of_blank hblank)
      (alongCalls_pays_any s calls)
  intro b
  refine ⟨?_, ?_, ?_, ?_⟩
  · intro r hr
    exact h.traced .client r.id _ (by rw [Books.status, Table.find_of_mem hr, Option.map_some])
  · intro r hr
    exact h.traced .order r.id _ (by rw [Books.status, Table.find_of_mem hr, Option.map_some])
  · intro r hr
    exact h.traced .invoice r.id _ (by rw [Books.status, Table.find_of_mem hr, Option.map_some])
  · intro row hr s₀ hs
    have he := h.edges row hr s₀ hs
    refine ⟨?_, ?_⟩ <;> intro ht <;> rw [ht] at he <;> exact he

namespace Sample

def newcomer : RegisterClientInput :=
  { tenantId := "tenant", type := .individual, firstName := "New", lastName := "Client"
    email := "new@example.test", password := "secret" }

/-- A client registers, verifies the address and is suspended. -/
def membership : List Call :=
  [.registerClient (env "a") newcomer, .verifyClientEmail (env "b") "token-a",
    .changeClientStatus (env "z") staff "id-a0" .suspended "unpaid"]

end Sample

open Sample in
theorem history_documented_membership :
    (runCalls vacant membership).books.moves .client "id-a0" =
        [(none, .client .pendingVerification), (some (.client .pendingVerification), .client .active),
          (some (.client .active), .client .suspended)] ∧
      ∀ r ∈ (runCalls vacant membership).books.clients,
        Traced (.client .pendingVerification) ((runCalls vacant membership).books.moves .client r.id)
          (.client r.status) :=
  ⟨by decide +kernel, (history_documented vacant rfl membership).1⟩

end HostPanel.Model
