import HostPanel.Model.Services

namespace HostPanel.Model

open HostPanel.Lib HostPanel.Lib.Program

/-- The fields of a submitted order form. -/
structure OrderForm where
  productId : Option String
  billingCycle : Option String
  idempotencyKey : Option String

structure RequestMeta where
  ip : Option String
  userAgent : Option String

/-- What the browser gets back. -/
inductive ActionResult where
  | error (message : String)
  | redirect (path : String)
deriving DecidableEq

def OrderForm.key (form : OrderForm) (env : Env) : String := form.idempotencyKey.getD env.randomUUID

def OrderForm.input (form : OrderForm) (env : Env) (actor : ClientPortalActor) (requestMeta : RequestMeta) :
    CreateOrderInput :=
  { clientId := actor.clientId
    currency := "USD"
    items :=
      [{ productId := form.productId.getD "", quantity := .integer 1,
         billingCycle := form.billingCycle.getD "MONTHLY" }]
    idempotencyKey := form.key env
    ipAddress := requestMeta.ip
    userAgent := requestMeta.userAgent }

def ClientPortalActor.transitionActor (actor : ClientPortalActor) : TransitionActor :=
  { type := .clientContact, id := some actor.id, label := some actor.label }

/-- The body of the action: place the order, then invoice what was returned.
An order of one item takes two ids. -/
def submitOrder (env : Env) (actor : ClientPortalActor) (input : CreateOrderInput) : Db Id := do
  let order ← createOrder env (.clientContact actor) input
  let _ ← issueInvoiceForOrder (env.drawn 2) order actor.transitionActor
  return order.id

def catchAppError : Except Failure Id → Except Failure ActionResult
  | .ok orderId => .ok (.redirect ("/portal/orders/" ++ orderId))
  | .error (.app _ _ message _) => .ok (.error message)
  | .error e => .error e

/-- Handle an order form of a signed-in client contact. -/
def placeOrderAction (env : Env) (actor : ClientPortalActor) (requestMeta : RequestMeta) (form : OrderForm)
    (s : Store) : Store × Except Failure ActionResult :=
  if form.productId.getD "" = "" then (s, .ok (.error "Choose a product to order."))
  else
    let outcome := (submitOrder env actor (form.input env actor requestMeta)).run s
    (outcome.1, catchAppError outcome.2)

section PlaceOrder

variable {env : Env} {actor : ClientPortalActor} {requestMeta : RequestMeta} {form : OrderForm} {s : Store}

theorem placeOrderAction_empty (h : form.productId.getD "" = "") :
    (placeOrderAction env actor requestMeta form s).1 = s := by
  rw [placeOrderAction, if_pos h]

theorem placeOrderAction_after (env : Env) (actor : ClientPortalActor) (requestMeta : RequestMeta) (s : Store)
    (h : form.productId.getD "" ≠ "") :
    (placeOrderAction env actor requestMeta form s).1 =
      (submitOrder env actor (form.input env actor requestMeta)).after s := by
  rw [placeOrderAction, if_neg h]
  rfl

/-- An order found under the key is returned to its owner's tenant as it is. -/
theorem createOrder_existing (env : Env) {actor : Actor} {input : CreateOrderInput} {order : Order} {c : Store}
    (hactor : (requireOrderActor actor input).eval c s = .ok ((), c, s)) (hitems : input.items ≠ [])
    (h : s.orders.rows.find? (Order.hasKey actor.tenantId input.idempotencyKey) = some order) :
    (createOrder env actor input).eval c s = .ok (order, c, s) := by
  refine eval_bind_ok.mpr ⟨(), c, s, hactor, ?_⟩
  simp only [eval_ensure_bind, Relation.eval_findFirst_bind]
  refine ⟨hitems, ?_⟩
  change (createUnlessExisting env actor input
    (s.orders.rows.find? (Order.hasKey actor.tenantId input.idempotencyKey))).eval c s = _
  rw [h]
  rfl

theorem submitOrder_existing {input : CreateOrderInput} {order : Order} (hclient : actor.clientId = input.clientId)
    (hitems : input.items ≠ []) (h : s.orders.rows.find? (Order.hasKey actor.tenantId input.idempotencyKey) = some order) :
    (submitOrder env actor input).after s =
      (issueInvoiceForOrder (env.drawn 2) order actor.transitionActor).after s := by
  have hactor : (requireOrderActor (.clientContact actor) input).eval s s = .ok ((), s, s) := by
    rw [requireOrderActor, ensure, if_pos hclient]
    rfl
  have hcreate := createOrder_existing env hactor hitems h
  rw [submitOrder, after_bind_ok hcreate]
  exact after_bind_ret _ _ _

/-- Submitting under a key that no order has: nothing happens, or a new order is
placed and then invoiced, just when `createOrder` returns. -/
theorem submitOrder_new (env : Env) (input : CreateOrderInput)
    (h : s.orders.rows.find? (Order.hasKey actor.tenantId input.idempotencyKey) = none) :
    ((¬∃ r, (createOrder env (.clientContact actor) input).eval s s = .ok r) ∧
      (submitOrder env actor input).after s = s) ∨
    ((∃ r, (createOrder env (.clientContact actor) input).eval s s = .ok r) ∧ ∃ client rows order s',
      Placed env (.clientContact actor) input client rows s order s' ∧
      (submitOrder env actor input).after s =
        (issueInvoiceForOrder (env.drawn 2) order actor.transitionActor).after s') := by
  cases hev : (createOrder env (.clientContact actor) input).eval s s with
  | error x =>
    obtain ⟨e, c⟩ := x
    have hc : c = s := eval_error_of_atomic (atomic_createOrder _ _ _) hev
    refine Or.inl ⟨?_, (after_bind_error hev).trans hc⟩
    rintro ⟨r, hr⟩
    cases hr
  | ok out =>
    obtain ⟨order, c, s'⟩ := out
    obtain ⟨rfl, ⟨hfound, _⟩ | ⟨_, client, rows, hp⟩⟩ := createOrder_ok hev
    · exact absurd (h.symm.trans hfound) (by simp)
    · refine Or.inr ⟨⟨_, rfl⟩, client, rows, order, c, hp, ?_⟩
      rw [submitOrder, after_bind_ok hev]
      exact after_bind_ret _ _ _

end PlaceOrder

namespace Sample

def form : OrderForm := { productId := some "product", billingCycle := none, idempotencyKey := some "key" }

def browser : RequestMeta := { ip := none, userAgent := none }

/-- The shop after the client sent the form: invoice `id-a2` bills order `id-a0`
with 1000 units. -/
def billed : Store := (placeOrderAction (env "a") contact browser form (shop 0)).1

end Sample

end HostPanel.Model
