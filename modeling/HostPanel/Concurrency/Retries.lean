import HostPanel.Concurrency.Numbers
import HostPanel.Lib.Race

namespace HostPanel.Model

open HostPanel.Lib HostPanel.Lib.Program HostPanel.Lib.Config

/-- The order stored under a key. -/
def Store.orderUnder (tenantId : Id) (idempotencyKey : String) (s : Store) : Option Order :=
  s.orders.rows.find? (Order.hasKey tenantId idempotencyKey)

def Store.Ordered (tenantId : Id) (idempotencyKey : String) (s : Store) : Prop :=
  (s.orderUnder tenantId idempotencyKey).isSome = true

/-- One order of the key was added, with one number and one creation entry. -/
structure OrderedOnce (tenantId : Id) (idempotencyKey : String) (s : Store) (order : Order) (s' : Store) : Prop where
  unordered : s.orderUnder tenantId idempotencyKey = none
  keyed : order.hasKey tenantId idempotencyKey = true
  orders : s'.orders.rows = s.orders.rows ++ [order]
  histories : ∃ actor, s'.statusHistories = s.statusHistories ++ [orderCreated actor order.id]
  counted : s'.counted "order_number" tenantId = s.counted "order_number" tenantId + 1
  number : order.orderNumber = documentNumber orderNumberOptions (s'.counted "order_number" tenantId)

section Stored

variable {tenantId : Id} {idempotencyKey : String}

theorem ordered_iff {s : Store} :
    s.Ordered tenantId idempotencyKey ↔ ∃ o ∈ s.orders.rows, o.hasKey tenantId idempotencyKey = true :=
  List.find?_isSome

theorem ordered_of_same {s t : Store} (h : t.orders = s.orders) (hs : s.Ordered tenantId idempotencyKey) :
    t.Ordered tenantId idempotencyKey := by
  rw [Store.Ordered, Store.orderUnder, h]
  exact hs

theorem ordered_insert (row : Order) {s : Store} (h : s.Ordered tenantId idempotencyKey) :
    (prisma.order.insert row s).Ordered tenantId idempotencyKey := by
  obtain ⟨o, ho, hkey⟩ := ordered_iff.mp h
  exact ordered_iff.mpr ⟨o, Table.mem_insert_of_mem ho, hkey⟩

theorem idempotencyKey_mem {row : Order} (h : row.hasKey tenantId idempotencyKey = true) :
    Lock.idempotencyKey tenantId idempotencyKey ∈ prisma.order.entries row := by
  simp only [Order.hasKey, Bool.and_eq_true, beq_iff_eq] at h
  simp [prisma.order, h.1, h.2]

theorem unordered_of_fresh {row : Order} {v : Store} (hfresh : prisma.order.Fresh row v)
    (hkey : row.hasKey tenantId idempotencyKey = true) : ¬ v.Ordered tenantId idempotencyKey := by
  intro hordered
  obtain ⟨o, ho, hsame⟩ := ordered_iff.mp hordered
  exact hfresh.2 o ho _ (idempotencyKey_mem hkey) (idempotencyKey_mem hsame)

theorem Placed.orderedOnce {env : Env} {actor : Actor} {input : CreateOrderInput} {client : Client}
    {rows : List OrderItemRow}
    {s s' : Store} {order : Order} (hnone : s.orderUnder actor.tenantId input.idempotencyKey = none)
    (h : Placed env actor input client rows s order s') :
    OrderedOnce actor.tenantId input.idempotencyKey s order s' := by
  obtain ⟨value, hvalue, hnumber, rfl⟩ := h.after
  have hcounted : (s.placeOrder actor input order value).counted "order_number" actor.tenantId = value.val := by
    rw [Store.counted, placeOrder_counters, ← Store.counted, counted_withCounter]
  refine ⟨hnone, ?_, ?_, ⟨actor, placeOrder_statusHistories s actor input order value⟩, ?_, ?_⟩
  · rw [h.order_eq]
    simp [Order.hasKey]
  · rw [placeOrder_orders]
    exact Table.insert_rows (Relation.find_of_fresh h.fresh)
  · rw [hcounted, incremented_ok hvalue]
  · rw [hcounted, hnumber]
    rfl

end Stored

section CreateOrder

variable (env : Env) (actor : Actor) (input : CreateOrderInput)

/-- A call that stores an order under the key contends for the key. -/
abbrev ContendsForKey {α : Type} (tenantId : Id) (idempotencyKey : String) (p : Db α) (seated : Bool) : Prop :=
  p.Contends (Store.Ordered tenantId idempotencyKey) (.idempotencyKey tenantId idempotencyKey) seated

theorem contends_create_bind {α : Type} {tenantId : Id} {idempotencyKey : String} {row : Order} {k : Order → Db α}
    (hkey : row.hasKey tenantId idempotencyKey = true) (hk : ContendsForKey tenantId idempotencyKey (k row) true) :
    ContendsForKey tenantId idempotencyKey (prisma.order.create row >>= k) false := by
  intro v eff he
  obtain ⟨hfresh, rfl⟩ := Relation.effect_of_create he
  exact ⟨fun _ => ordered_insert row, Or.inr ⟨idempotencyKey_mem hkey, unordered_of_fresh hfresh hkey, hk⟩⟩

theorem contends_insertOrder (client : Client) :
    ContendsForKey actor.tenantId input.idempotencyKey (transaction (insertOrder env actor input client)) false := by
  simp only [transaction, insertOrder, insertOrderWith, bind_assoc]
  refine (guarantees_lift _).contends_bind (uncommitted_lift _) (fun start => ?_)
  refine (guarantees_orderLines _ _ _ _ _).contends_bind (uncommitted_orderLines _ _ _ _ _) (fun lines => ?_)
  refine Guarantees.contends_bind (guarantees_nextSequenceNumber _ _ _ (fun _ _ => ordered_of_same rfl))
    (uncommitted_nextSequenceNumber _ _ _) (fun number => ?_)
  refine (guarantees_lift _).contends_bind (uncommitted_lift _) (fun items => ?_)
  refine (guarantees_lift _).contends_bind (uncommitted_lift _) (fun subtotal => ?_)
  refine (guarantees_lift _).contends_bind (uncommitted_lift _) (fun total => ?_)
  refine contends_create_bind (by simp [Order.hasKey]) ?_
  refine Guarantees.contends_bind (guarantees_recordStatusTransition _ (fun _ => ordered_of_same rfl))
    (uncommitted_recordStatusTransition _) (fun _ => ?_)
  refine Guarantees.contends_bind (guarantees_recordAuditLog _ (fun _ => ordered_of_same rfl))
    (uncommitted_recordAuditLog _) (fun _ => ?_)
  exact ⟨rfl, _, rfl⟩

theorem contends_createOrder :
    ContendsForKey actor.tenantId input.idempotencyKey (createOrder env actor input) false := by
  refine (guarantees_requireOrderActor _ _).contends_bind uncommitted_requireOrderActor (fun _ => ?_)
  refine (guarantees_ensure _ _).contends_bind (uncommitted_ensure _ _) (fun _ => ?_)
  refine (Relation.guarantees_findFirst _).contends_bind (Relation.uncommitted_findFirst _) (fun existing => ?_)
  cases existing with
  | some order => trivial
  | none =>
    refine (Relation.guarantees_findUniqueOrThrow _).contends_bind (Relation.uncommitted_findUniqueOrThrow _) ?_
    exact fun client => contends_insertOrder env actor input client

theorem asks_createOrder :
    Asks (Store.orderUnder actor.tenantId input.idempotencyKey) (createOrder env actor input) := by
  have hrefused : ∀ {p : Prop} [Decidable p] (e : Failure) (k : Unit → Db Order),
      (∃ e', (ensure p e >>= k) = .raise e') ∨ (ensure p e >>= k) = k () := by
    intro p _ e k
    by_cases hp : p
    · exact Or.inr (by rw [ensure, if_pos hp]; rfl)
    · exact Or.inl ⟨e, by rw [ensure, if_neg hp]; rfl⟩
  have hactor : ∀ k : Unit → Db Order,
      (∃ e, (requireOrderActor actor input >>= k) = .raise e) ∨ (requireOrderActor actor input >>= k) = k () := by
    cases actor <;> exact fun k => hrefused _ k
  obtain h | h := hactor (fun _ => do
    ensure (input.items ≠ []) (businessRuleError "order.empty" "An order must contain at least one item.")
    let existing ← prisma.order.findFirst (Order.hasKey actor.tenantId input.idempotencyKey)
    createUnlessExistingWith .double env actor input existing)
  · exact Or.inl h
  · rw [createOrder, createOrderWith, h]
    refine (hrefused _ _).imp id (fun h => ?_)
    rw [h]
    refine ⟨_, rfl, fun v order hv => ?_⟩
    change createUnlessExisting env actor input (v.orderUnder actor.tenantId input.idempotencyKey) = _
    rw [hv]
    rfl

theorem orderUnder_of_orderedOnce {tenantId : Id} {idempotencyKey : String} {s s' : Store} {order : Order}
    (h : OrderedOnce tenantId idempotencyKey s order s') : s'.orderUnder tenantId idempotencyKey = some order := by
  rw [Store.orderUnder, h.orders, List.find?_append]
  have hnone : s.orders.rows.find? (Order.hasKey tenantId idempotencyKey) = none := h.unordered
  rw [hnone, Option.none_or, List.find?_singleton, if_pos h.keyed]

variable {env actor input}

theorem createOrder_orderedOnce {s c' s' : Store} {order : Order}
    (h : (createOrder env actor input).eval s s = .ok (order, c', s')) :
    c' = s' ∧ ((s.orderUnder actor.tenantId input.idempotencyKey = some order ∧ s' = s) ∨
      OrderedOnce actor.tenantId input.idempotencyKey s order s') := by
  obtain ⟨rfl, hfound | ⟨hnone, client, rows, hp⟩⟩ := createOrder_ok h
  · exact ⟨rfl, Or.inl hfound⟩
  · exact ⟨rfl, Or.inr (hp.orderedOnce hnone)⟩

theorem answers_createOrder (s : Store) :
    Answers (Store.orderUnder actor.tenantId input.idempotencyKey) (createOrder env actor input) s := by
  intro hnone order t u h
  obtain ⟨rfl, ⟨hfound, _⟩ | honce⟩ := createOrder_orderedOnce h
  · rw [hnone] at hfound
    cases hfound
  · exact ⟨rfl, orderUnder_of_orderedOnce honce⟩

end CreateOrder

section Retries

variable {ι : Type} [Fintype ι] [DecidableEq ι]

/-- Calls that submit one order. -/
abbrev retries (envs : ι → Env) (actors : ι → Actor) (input : CreateOrderInput) (i : ι) : Db Order :=
  createOrder (envs i) (actors i) input

/-- Every call returns the order stored under the key and fails only as it does
alone, and it has done so after the statements it issues alone. -/
structure SharesOrder (tenantId : Id) (idempotencyKey : String) (calls : ι → Db Order) (s : Store)
    (schedule : List (ι × Move Failure)) : Prop where
  returned : ∀ i order, (((start s calls).run schedule).tasks i).code = .ret order →
    ((start s calls).run schedule).db.orderUnder tenantId idempotencyKey = some order
  thrown : ∀ i e, (((start s calls).run schedule).tasks i).code = .raise e → (calls i).run s = (s, .error e)
  finished : ∀ i, (calls i).statements s ≤ schedule.countP (fun e => e.1 = i) →
    (((start s calls).run schedule).tasks i).code.finished = true

/-- However retries of an order interleave, they add one order at most; they
share it where each starts alone or finds it stored. -/
theorem retries_share_order (s : Store) (envs : ι → Env) (actors : ι → Actor) (input : CreateOrderInput) {tenantId : Id}
    (htenant : ∀ i, (actors i).tenantId = tenantId) (schedule : List (ι × Move Failure)) :
    (((start s (retries envs actors input)).run schedule).db = s ∨ ∃ order,
      OrderedOnce tenantId input.idempotencyKey s order ((start s (retries envs actors input)).run schedule).db) ∧
    ((∀ e ∈ schedule, e.2 = .advance) →
      StartsAlone (Store.orderUnder tenantId input.idempotencyKey) (retries envs actors input) s schedule →
      SharesOrder tenantId input.idempotencyKey (retries envs actors input) s schedule) := by
  have hcontends : ∀ i,
      ContendsForKey tenantId input.idempotencyKey (createOrder (envs i) (actors i) input) false := by
    intro i
    rw [← htenant i]
    exact contends_createOrder (envs i) (actors i) input
  have hasks : ∀ i, Asks (Store.orderUnder tenantId input.idempotencyKey) (createOrder (envs i) (actors i) input) := by
    intro i
    rw [← htenant i]
    exact asks_createOrder (envs i) (actors i) input
  have hok : ∀ i order t t', (createOrder (envs i) (actors i) input).eval s s = .ok (order, t, t') →
      (s.orderUnder tenantId input.idempotencyKey = some order ∧ t' = s) ∨
        OrderedOnce tenantId input.idempotencyKey s order t' := by
    intro i order t t' h
    rw [← htenant i]
    exact (createOrder_orderedOnce h).2
  have hanswers : ∀ i,
      Answers (Store.orderUnder tenantId input.idempotencyKey) (createOrder (envs i) (actors i) input) s := by
    intro i
    rw [← htenant i]
    exact answers_createOrder s
  refine ⟨?_, fun hadvance halone => ?_⟩
  · have hrace := race_run hcontends (s := s) (fun i order t t' h => ?_) schedule
    · cases hrace.outcome with
      | running hdb _ _ => exact Or.inl hdb
      | won w order t hwinner _ _ _ _ =>
        exact (hok w order t _ hwinner).imp And.right (fun h => ⟨order, h⟩)
    · obtain ⟨hfound, rfl⟩ | honce := hok i order t t' h
      · rw [Store.Ordered, hfound]
        rfl
      · rw [Store.Ordered, orderUnder_of_orderedOnce honce]
        rfl
  · have hrelay := relay_run hasks (fun i => atomic_createOrder (envs i) (actors i) input) hanswers hadvance halone
    refine ⟨fun i order hret => hrelay.returned hasks hanswers hret, fun i e hraise => ?_,
      fun i hturns => hrelay.finished hasks hturns⟩
    exact run_error_iff.mpr (hrelay.threw hraise)

end Retries

namespace Sample

def retryEnv (second : Bool) : Env := if second then env "b" else env "a"

def twoRetries : Bool → Db Order := retries retryEnv (fun _ => .staff staff) twoMonths

def turnsOf (order : List Bool) : List (Bool × Move Failure) := order.map (fun i => (i, .advance))

theorem turnsOf_advance {order : List Bool} : ∀ e ∈ turnsOf order, e.2 = .advance := by
  intro e he
  obtain ⟨i, _, rfl⟩ := List.mem_map.mp he
  rfl

/-- Both calls look for the order before either of them stores one. -/
def retriesCrossed : List (Bool × Move Failure) :=
  turnsOf ([false, true] ++ List.replicate 12 false ++ List.replicate 12 true)

def retriesInTurn : List (Bool × Move Failure) := turnsOf (List.replicate 9 false ++ List.replicate 9 true)

end Sample

open Sample in
/-- Each of two retries goes through alone; where both look for the order first,
the one that stores it second is refused. -/
theorem crossed_retry_refused :
    (∀ second, (twoRetries second).completes (shop 0) = true) ∧ (∀ e ∈ retriesCrossed, e.2 = .advance) ∧
      ((start (shop 0) twoRetries).run retriesCrossed).db.orders.rows.map Order.id = ["id-a0"] ∧
      (((start (shop 0) twoRetries).run retriesCrossed).tasks true).code = .raise .uniqueViolation := by
  exact ⟨by decide +kernel, turnsOf_advance, by decide +kernel, thrown_eq_some.mp (by decide +kernel)⟩

open Sample in
theorem retries_share_order_inTurn :
    SharesOrder "tenant" twoMonths.idempotencyKey twoRetries (shop 0) retriesInTurn := by
  have htenant : ∀ _ : Bool, (Actor.staff staff).tenantId = "tenant" := fun _ => rfl
  have halone : StartsAlone (Store.orderUnder "tenant" twoMonths.idempotencyKey) twoRetries (shop 0) retriesInTurn := by
    decide +kernel
  exact (retries_share_order (shop 0) retryEnv (fun _ => .staff staff) twoMonths htenant retriesInTurn).2
    turnsOf_advance halone

end HostPanel.Model
