import Mathlib.Data.List.MinMax
import Mathlib.Data.List.Sort
import HostPanel.Model.Shared

namespace HostPanel.Model

open HostPanel.Lib HostPanel.Lib.Program

theorem BillingCycle.name_of_ofName? {name : String} {c : BillingCycle} (h : ofName? name = some c) :
    c.name = name := by
  simpa using List.find?_some h

/-- A key of a JSON object, left out when its value is undefined. -/
def jsonField {α : Type} (key : String) (value : Option α) (scalar : α → Scalar) : JsonObject :=
  (value.map (fun x => (key, .scalar (scalar x)))).toList

/-- An optional argument for an `Int` column. -/
def optionalInt4 : Option Number → Except Failure (Option Int4)
  | none => .ok none
  | some n => (toInt4 n).map some

structure ProductGroupInput where
  name : String
  slug : String
  description : Option String := none
  sortOrder : Option Number := none

def Number.scalar : Number → Scalar
  | .integer n => .num n
  | .other text => .decimal text

def ProductGroupInput.json (input : ProductGroupInput) : JsonObject :=
  [("name", .scalar (.str input.name)), ("slug", .scalar (.str input.slug))] ++
    jsonField "description" input.description .str ++
    jsonField "sortOrder" input.sortOrder Number.scalar

def createProductGroup (env : Env) (actor : StaffActor) (input : ProductGroupInput) : Db ProductGroup := do
  requirePermission actor.permissions .productsWrite
  transaction do
    let sortOrder ← lift (optionalInt4 input.sortOrder)
    let group ← prisma.productGroup.create
      { id := env.cuid 0
        tenantId := actor.tenantId
        name := input.name
        slug := input.slug
        description := input.description
        sortOrder := sortOrder.getD 0 }
    recordAuditLog
      { tenantId := actor.tenantId
        actorType := .staff
        actorId := some actor.id
        actorLabel := some actor.label
        action := "product_group.created"
        entityType := .productGroup
        entityId := group.id
        afterState := some input.json }
    return group

structure ProductInput where
  productGroupId : Id
  name : String
  slug : String
  description : Option String := none
  stockLimit : Option Number := none
  sortOrder : Option Number := none

def ProductInput.json (input : ProductInput) : JsonObject :=
  [("productGroupId", .scalar (.str input.productGroupId)), ("name", .scalar (.str input.name)),
    ("slug", .scalar (.str input.slug))] ++
    jsonField "description" input.description .str ++
    jsonField "stockLimit" input.stockLimit Number.scalar ++
    jsonField "sortOrder" input.sortOrder Number.scalar

def newProduct (env : Env) (actor : StaffActor) (input : ProductInput) (stockLimit sortOrder : Option Int4) : Product :=
  { id := env.cuid 0
    tenantId := actor.tenantId
    productGroupId := input.productGroupId
    name := input.name
    slug := input.slug
    description := input.description
    stockLimit := stockLimit
    sortOrder := sortOrder.getD 0 }

def productCreatedAudit (actor : StaffActor) (input : ProductInput) (productId : Id) : AuditLog :=
  { tenantId := actor.tenantId
    actorType := .staff
    actorId := some actor.id
    actorLabel := some actor.label
    action := "product.created"
    entityType := .product
    entityId := productId
    afterState := some input.json }

def createProduct (env : Env) (actor : StaffActor) (input : ProductInput) : Db Product := do
  requirePermission actor.permissions .productsWrite
  transaction do
    let stockLimit ← lift (optionalInt4 input.stockLimit)
    let sortOrder ← lift (optionalInt4 input.sortOrder)
    let product ← prisma.product.create (newProduct env actor input stockLimit sortOrder)
    recordAuditLog (productCreatedAudit actor input product.id)
    return product

/-- The tables once a product is stored. -/
def Store.storeProduct (s : Store) (env : Env) (actor : StaffActor) (input : ProductInput)
    (stockLimit sortOrder : Option Int4) : Store :=
  (prisma.product.insert (newProduct env actor input stockLimit sortOrder) s).withAuditLog
    (productCreatedAudit actor input (env.cuid 0))

/-- What `createProduct` checks before it stores a product. -/
structure ProductAccepted (env : Env) (actor : StaffActor) (input : ProductInput) (s : Store)
    (stockLimit sortOrder : Option Int4) : Prop where
  permitted : hasPermission actor.permissions .productsWrite = true
  stockLimit_ok : optionalInt4 input.stockLimit = .ok stockLimit
  sortOrder_ok : optionalInt4 input.sortOrder = .ok sortOrder
  fresh : prisma.product.Fresh (newProduct env actor input stockLimit sortOrder) s
  tenant : s.hasTenant actor.tenantId = true
  group : (s.productGroups.find input.productGroupId).isSome = true

theorem createProduct_ok_iff {env : Env} {actor : StaffActor} {input : ProductInput} {s : Store} {row : Product}
    {c s' : Store} :
    (createProduct env actor input).eval s s = .ok (row, c, s') ↔
      ∃ stockLimit sortOrder, ProductAccepted env actor input s stockLimit sortOrder ∧
        row = newProduct env actor input stockLimit sortOrder ∧ c = s' ∧
        s' = s.storeProduct env actor input stockLimit sortOrder := by
  simp only [createProduct, eval_requirePermission_bind, transaction, bind_assoc, eval_lift_bind,
    Relation.eval_create_bind, eval_recordAuditLog_bind, pure_eq_ret, ret_bind, eval_commit, eval_ret, Except.ok.injEq,
    Prod.mk.injEq]
  constructor
  · rintro ⟨hp, stockLimit, hstock, sortOrder, hsort, hfresh, hrefs, _, rfl, rfl, rfl⟩
    obtain ⟨htenant, hgroup⟩ := Bool.and_eq_true_iff.mp hrefs
    exact ⟨stockLimit, sortOrder, ⟨hp, hstock, hsort, hfresh, htenant, hgroup⟩, rfl, rfl, rfl⟩
  · rintro ⟨stockLimit, sortOrder, h, rfl, rfl, rfl⟩
    exact ⟨h.permitted, stockLimit, h.stockLimit_ok, sortOrder, h.sortOrder_ok, h.fresh,
      Bool.and_eq_true_iff.mpr ⟨h.tenant, h.group⟩, h.tenant, rfl, rfl, rfl⟩

theorem atomic_createProductGroup (env : Env) (actor : StaffActor) (input : ProductGroupInput) :
    (createProductGroup env actor input).Atomic := by
  refine (uncommitted_requirePermission _ _).bind_atomic (fun _ => Uncommitted.transaction ?_)
  refine (uncommitted_lift _).bind (fun _ => (Relation.uncommitted_create _).bind (fun _ => ?_))
  exact (uncommitted_recordAuditLog _).bind (fun _ => trivial)

theorem atomic_createProduct (env : Env) (actor : StaffActor) (input : ProductInput) :
    (createProduct env actor input).Atomic := by
  refine (uncommitted_requirePermission _ _).bind_atomic (fun _ => Uncommitted.transaction ?_)
  refine (uncommitted_lift _).bind (fun _ => (uncommitted_lift _).bind (fun _ => ?_))
  refine (Relation.uncommitted_create _).bind (fun _ => ?_)
  exact (uncommitted_recordAuditLog _).bind (fun _ => trivial)

/-- `orderBy: { effectiveFrom: "desc" }`, first row. -/
def Env.latest (env : Env) (rows : List ProductPrice) : Option ProductPrice :=
  let top := rows.filter (fun r => rows.all (fun q => decide (q.effectiveFrom ≤ r.effectiveFrom)))
  top[env.tieBreak top % top.length]?

theorem Env.latest_mem {env : Env} {rows : List ProductPrice} {r : ProductPrice} (h : env.latest rows = some r) :
    r ∈ rows :=
  (List.mem_filter.mp (List.mem_of_getElem? h)).1

theorem Env.latest_eq_none_iff {env : Env} {rows : List ProductPrice} : env.latest rows = none ↔ rows = [] := by
  constructor
  · intro h
    by_contra hne
    cases hmax : rows.argmax ProductPrice.effectiveFrom with
    | none => exact hne (List.argmax_eq_none.mp hmax)
    | some r =>
      have htop : r ∈ rows.filter (fun r => rows.all (fun q => decide (q.effectiveFrom ≤ r.effectiveFrom))) := by
        refine List.mem_filter.mpr ⟨List.argmax_mem hmax, List.all_eq_true.mpr (fun q hq => ?_)⟩
        exact decide_eq_true (List.le_of_mem_argmax hq hmax)
      have hlen := List.getElem?_eq_none_iff.mp h
      exact absurd (Nat.mod_lt _ (List.length_pos_of_mem htop)) (not_lt.mpr hlen)
  · rintro rfl
    rfl

theorem Env.le_latest {env : Env} {rows : List ProductPrice} {r q : ProductPrice} (h : env.latest rows = some r)
    (hq : q ∈ rows) : q.effectiveFrom ≤ r.effectiveFrom :=
  of_decide_eq_true (List.all_eq_true.mp (List.mem_filter.mp (List.mem_of_getElem? h)).2 q hq)

theorem Env.latest_singleton (env : Env) (r : ProductPrice) : env.latest [r] = some r := by
  cases h : env.latest [r] with
  | none => cases latest_eq_none_iff.mp h
  | some q => rw [List.mem_singleton.mp (latest_mem h)]

def findLatestPrice (env : Env) (p : ProductPrice → Bool) : Db (Option ProductPrice) :=
  .query (fun v => .ret (env.latest (v.productPrices.rows.filter p)))

/-- The price row is for the product, currency and cycle, and in effect. -/
def ProductPrice.offered (now : DateTime) (tenantId productId : Id) (currency : String) (billingCycle : BillingCycle)
    (r : ProductPrice) : Bool :=
  r.tenantId == tenantId && r.productId == productId && r.currency == currency && r.billingCycle == billingCycle &&
    decide (r.effectiveFrom ≤ now) && r.effectiveTo.all (fun t => decide (now < t))

def billingCycleEnum (name : String) : Except Failure BillingCycle :=
  match BillingCycle.ofName? name with
  | some c => .ok c
  | none => .error .invalidEnumValue

theorem billingCycleEnum_ok_iff {name : String} {c : BillingCycle} :
    billingCycleEnum name = .ok c ↔ BillingCycle.ofName? name = some c := by
  cases h : BillingCycle.ofName? name <;> simp [billingCycleEnum, h]

/-- The group of a client whose prices are looked up before the common ones. -/
def groupOf (clientGroupId : Option Id) : Option Id :=
  clientGroupId.filter (fun g => g != "")

def findGroupPrice (env : Env) (offered : ProductPrice → Bool) (clientGroupId : Option Id) :
    Db (Option ProductPrice) :=
  match groupOf clientGroupId with
  | some g => findLatestPrice env (fun r => offered r && r.clientGroupId == some g)
  | none => .ret none

def findCommonPrice (env : Env) (offered : ProductPrice → Bool) (groupPrice : Option ProductPrice) :
    Db (Option ProductPrice) :=
  match groupPrice with
  | some price => .ret (some price)
  | none => findLatestPrice env (fun r => offered r && r.clientGroupId == none)

def getCurrentPrice (env : Env) (tenantId productId : Id) (currency billingCycle : String)
    (clientGroupId : Option Id) : Db (Option ProductPrice) := do
  let cycle ← lift (billingCycleEnum billingCycle)
  let offered := ProductPrice.offered env.now tenantId productId currency cycle
  let groupPrice ← findGroupPrice env offered clientGroupId
  findCommonPrice env offered groupPrice

/-- The row `getCurrentPrice` returns. -/
def Store.currentPrice (s : Store) (env : Env) (tenantId productId : Id) (currency : String) (cycle : BillingCycle)
    (clientGroupId : Option Id) : Option ProductPrice :=
  let offered := ProductPrice.offered env.now tenantId productId currency cycle
  let latest (group : Option Id) :=
    env.latest (s.productPrices.rows.filter (fun r => offered r && r.clientGroupId == group))
  ((groupOf clientGroupId).bind (fun g => latest (some g))).or (latest none)

section CurrentPrice

variable {β : Type} {env : Env} {offered : ProductPrice → Bool} {c v : Store} {out : β × Store × Store}
  {k : Option ProductPrice → Db β}

theorem eval_findLatestPrice_bind {p : ProductPrice → Bool} :
    (findLatestPrice env p >>= k).eval c v = .ok out ↔
      (k (env.latest (v.productPrices.rows.filter p))).eval c v = .ok out := Iff.rfl

theorem eval_findGroupPrice_bind {clientGroupId : Option Id} :
    (findGroupPrice env offered clientGroupId >>= k).eval c v = .ok out ↔
      (k ((groupOf clientGroupId).bind (fun g =>
        env.latest (v.productPrices.rows.filter (fun r => offered r && r.clientGroupId == some g))))).eval c v =
        .ok out := by
  cases h : groupOf clientGroupId with
  | none => simp [findGroupPrice, h]
  | some g => simp [findGroupPrice, h, eval_findLatestPrice_bind]

theorem eval_findCommonPrice_bind {groupPrice : Option ProductPrice} :
    (findCommonPrice env offered groupPrice >>= k).eval c v = .ok out ↔
      (k (groupPrice.or (env.latest (v.productPrices.rows.filter (fun r =>
        offered r && r.clientGroupId == none))))).eval c v = .ok out := by
  cases groupPrice with
  | none => simp [findCommonPrice, eval_findLatestPrice_bind]
  | some r => simp [findCommonPrice]

variable {tenantId productId : Id} {currency billingCycle : String} {clientGroupId : Option Id}

theorem eval_getCurrentPrice_bind :
    (getCurrentPrice env tenantId productId currency billingCycle clientGroupId >>= k).eval c v = .ok out ↔
      ∃ cycle, BillingCycle.ofName? billingCycle = some cycle ∧
        (k (v.currentPrice env tenantId productId currency cycle clientGroupId)).eval c v = .ok out := by
  simp only [getCurrentPrice, bind_assoc, eval_lift_bind, billingCycleEnum_ok_iff, eval_findGroupPrice_bind,
    eval_findCommonPrice_bind]
  exact Iff.rfl

theorem uncommitted_findGroupPrice : (findGroupPrice env offered clientGroupId).Uncommitted := by
  unfold findGroupPrice
  split
  · exact fun _ => trivial
  · trivial

theorem uncommitted_findCommonPrice {groupPrice : Option ProductPrice} :
    (findCommonPrice env offered groupPrice).Uncommitted := by
  unfold findCommonPrice
  split
  · trivial
  · exact fun _ => trivial

theorem uncommitted_getCurrentPrice :
    (getCurrentPrice env tenantId productId currency billingCycle clientGroupId).Uncommitted :=
  (uncommitted_lift _).bind (fun _ => uncommitted_findGroupPrice.bind (fun _ => uncommitted_findCommonPrice))

theorem guarantees_getCurrentPrice {rel : Store → Store → Prop} :
    (getCurrentPrice env tenantId productId currency billingCycle clientGroupId).Guarantees rel := by
  refine (guarantees_lift _).bind (fun _ => Guarantees.bind ?_ (fun _ => ?_))
  · unfold findGroupPrice
    split
    · exact fun _ => trivial
    · trivial
  · unfold findCommonPrice
    split
    · trivial
    · exact fun _ => trivial

theorem mem_currentPrice {s : Store} {cycle : BillingCycle} {row : ProductPrice}
    (h : s.currentPrice env tenantId productId currency cycle clientGroupId = some row) :
    row ∈ s.productPrices ∧ row.offered env.now tenantId productId currency cycle = true := by
  unfold Store.currentPrice at h
  have key : ∀ group : Option Id, env.latest (s.productPrices.rows.filter (fun r =>
      ProductPrice.offered env.now tenantId productId currency cycle r && r.clientGroupId == group)) = some row →
      row ∈ s.productPrices ∧ row.offered env.now tenantId productId currency cycle = true := by
    intro group hl
    obtain ⟨hm, hp⟩ := List.mem_filter.mp (Env.latest_mem hl)
    rw [Bool.and_eq_true] at hp
    exact ⟨hm, hp.1⟩
  obtain hg | ⟨_, hn⟩ := Option.or_eq_some_iff.mp h
  · obtain ⟨g, _, hl⟩ := Option.bind_eq_some_iff.mp hg
    exact key (some g) hl
  · exact key none hn

end CurrentPrice

structure SetProductPriceInput where
  productId : Id
  currency : String
  billingCycle : BillingCycle
  price : Number
  setupFee : Option Number := none
  clientGroupId : Option Id := none
  isPromotional : Option Bool := none
  effectiveFrom : Option DateTime := none

def SetProductPriceInput.json (input : SetProductPriceInput) (effectiveFrom : DateTime) : JsonObject :=
  [("productId", .scalar (.str input.productId)), ("currency", .scalar (.str input.currency)),
    ("billingCycle", .scalar (.str input.billingCycle.name)), ("price", .scalar (Number.scalar input.price))] ++
    jsonField "setupFee" input.setupFee Number.scalar ++
    jsonField "clientGroupId" input.clientGroupId .str ++
    jsonField "isPromotional" input.isPromotional .bool ++
    [("effectiveFrom", .scalar (.date effectiveFrom))]

/-- From when on the new price holds. -/
def SetProductPriceInput.start (input : SetProductPriceInput) (env : Env) : DateTime := input.effectiveFrom.getD env.now

/-- The open row of the price's key. -/
def ProductPrice.current (tenantId : Id) (input : SetProductPriceInput) (r : ProductPrice) : Bool :=
  r.tenantId == tenantId && r.productId == input.productId && r.currency == input.currency &&
    r.billingCycle == input.billingCycle && r.clientGroupId == input.clientGroupId && r.effectiveTo == none

def closePrevious (previous : Option ProductPrice) (effectiveFrom : DateTime) : Db Unit :=
  match previous with
  | none => .ret ()
  | some r => do
    let _ ← prisma.productPrice.update r.id (fun r => { r with effectiveTo := some effectiveFrom })
    return ()

def newPrice (env : Env) (actor : StaffActor) (input : SetProductPriceInput) (price setupFee : Int4) : ProductPrice :=
  { id := env.cuid 0
    tenantId := actor.tenantId
    productId := input.productId
    currency := input.currency
    billingCycle := input.billingCycle
    price := price
    setupFee := setupFee
    clientGroupId := input.clientGroupId
    isPromotional := input.isPromotional.getD false
    effectiveFrom := input.start env }

def priceCreatedAudit (env : Env) (actor : StaffActor) (input : SetProductPriceInput) (priceId : Id)
    (previous : Option ProductPrice) : AuditLog :=
  { tenantId := actor.tenantId
    actorType := .staff
    actorId := some actor.id
    actorLabel := some actor.label
    action := "product_price.created"
    entityType := .productPrice
    entityId := priceId
    afterState := some (input.json (input.start env))
    metadata := previous.map (fun r => [("closedPreviousPriceId", .scalar (.str r.id))]) }

def setProductPrice (env : Env) (actor : StaffActor) (input : SetProductPriceInput) : Db ProductPrice := do
  requirePermission actor.permissions .productsWrite
  transaction do
    let previous ← findLatestPrice env (ProductPrice.current actor.tenantId input)
    closePrevious previous (input.start env)
    let price ← lift (toInt4 input.price)
    let setupFee ← lift (toInt4 (input.setupFee.getD (.integer 0)))
    let created ← prisma.productPrice.create (newPrice env actor input price setupFee)
    recordAuditLog (priceCreatedAudit env actor input created.id previous)
    return created

theorem leaves_closePrevious {α : Type} {π : Store → α} (previous : Option ProductPrice) (effectiveFrom : DateTime)
    (h : ∀ (t : Store) (prices : Table ProductPrice.id), π { t with productPrices := prices } = π t) :
    (closePrevious previous effectiveFrom).Leaves π := by
  cases previous with
  | none => trivial
  | some r => exact (Relation.leaves_update _ _ _ (fun t => h t _)).bind (fun _ => trivial)

theorem leaves_setProductPrice {α : Type} {π : Store → α} (env : Env) (actor : StaffActor)
    (input : SetProductPriceInput)
    (hprices : ∀ (t : Store) (prices : Table ProductPrice.id), π { t with productPrices := prices } = π t)
    (haudit : ∀ (t : Store) (row : AuditLog), π (t.withAuditLog row) = π t) :
    (setProductPrice env actor input).Leaves π := by
  refine (leaves_ensure _ _).bind (fun _ => Leaves.transaction ?_)
  refine Leaves.bind (fun _ => trivial) (fun previous => ?_)
  refine (leaves_closePrevious _ _ hprices).bind (fun _ => ?_)
  refine (leaves_lift _).bind (fun _ => (leaves_lift _).bind (fun _ => ?_))
  refine (Relation.leaves_create _ (fun t => hprices t _)).bind (fun _ => ?_)
  exact (leaves_recordAuditLog _ (fun t => haudit t _)).bind (fun _ => trivial)

/-- The tables once the previous price is closed. -/
def Store.closePrice (s : Store) (previous : Option ProductPrice) (stop : DateTime) : Store :=
  match previous with
  | none => s
  | some r => prisma.productPrice.modify r.id (fun r => { r with effectiveTo := some stop }) (fun _ => rfl) s

/-- The row a new price closes. -/
def Store.previousPrice (s : Store) (env : Env) (actor : StaffActor) (input : SetProductPriceInput) :
    Option ProductPrice :=
  env.latest (s.productPrices.rows.filter (ProductPrice.current actor.tenantId input))

/-- The tables once a new price is stored. -/
def Store.storePrice (s : Store) (env : Env) (actor : StaffActor) (input : SetProductPriceInput)
    (price setupFee : Int4) : Store :=
  (prisma.productPrice.insert (newPrice env actor input price setupFee)
    (s.closePrice (s.previousPrice env actor input) (input.start env))).withAuditLog
    (priceCreatedAudit env actor input (env.cuid 0) (s.previousPrice env actor input))

/-- What `setProductPrice` checks before it stores a price. -/
structure PriceAccepted (env : Env) (actor : StaffActor) (input : SetProductPriceInput) (s : Store)
    (price setupFee : Int4) : Prop where
  permitted : hasPermission actor.permissions .productsWrite = true
  price_ok : input.price.trunc = some price.val
  setupFee_ok : (input.setupFee.getD (.integer 0)).trunc = some setupFee.val
  fresh : s.productPrices.find (env.cuid 0) = none
  tenant : s.hasTenant actor.tenantId = true
  product : (s.products.find input.productId).isSome = true
  clientGroup : input.clientGroupId.all (fun g => (s.clientGroups.find g).isSome) = true

theorem eval_closePrevious_bind {β : Type} {previous : Option ProductPrice} {stop : DateTime} {k : Unit → Db β}
    {c v : Store} {out : β × Store × Store} (h : ∀ r, previous = some r → r ∈ v.productPrices) :
    (closePrevious previous stop >>= k).eval c v = .ok out ↔ (k ()).eval c (v.closePrice previous stop) = .ok out := by
  cases previous with
  | none => exact Iff.rfl
  | some r =>
    have hr : (prisma.productPrice.get v).find r.id = some r := Table.find_of_mem (h r rfl)
    simp only [closePrevious, bind_assoc, Relation.eval_update_bind, pure_eq_ret, ret_bind, Store.closePrice]
    constructor
    · rintro ⟨_, _, hk⟩
      exact hk
    · exact fun hk => ⟨r, hr, hk⟩

theorem find_closePrice (s : Store) (previous : Option ProductPrice) (stop : DateTime) (id : Id) :
    ((s.closePrice previous stop).productPrices.find id = none) ↔ s.productPrices.find id = none := by
  cases previous with
  | none => exact Iff.rfl
  | some r =>
    have hm : ((s.closePrice (some r) stop).productPrices.find id).map ProductPrice.id =
        (s.productPrices.find id).map ProductPrice.id :=
      Table.find_modify_map s.productPrices r.id (fun r => { r with effectiveTo := some stop }) (fun _ => rfl)
        ProductPrice.id (fun _ => rfl) id
    rw [← Option.map_eq_none_iff (f := ProductPrice.id), hm, Option.map_eq_none_iff]

theorem products_closePrice (s : Store) (previous : Option ProductPrice) (stop : DateTime) :
    (s.closePrice previous stop).products = s.products ∧ (s.closePrice previous stop).clientGroups = s.clientGroups := by
  cases previous <;> exact ⟨rfl, rfl⟩

theorem tenants_closePrice (s : Store) (previous : Option ProductPrice) (stop : DateTime) :
    (s.closePrice previous stop).tenants = s.tenants := by
  cases previous <;> rfl

theorem fresh_price_iff {row : ProductPrice} {s : Store} :
    prisma.productPrice.Fresh row s ↔ s.productPrices.find row.id = none :=
  Relation.fresh_single_iff (fun _ => rfl) (fun _ _ h => Lock.productPrice.inj h)

/-- A call that is accepted closes the previous row and adds the new one. -/
theorem setProductPrice_ok_iff {env : Env} {actor : StaffActor} {input : SetProductPriceInput} {s : Store}
    {row : ProductPrice} {c s' : Store} :
    (setProductPrice env actor input).eval s s = .ok (row, c, s') ↔
      ∃ price setupFee, PriceAccepted env actor input s price setupFee ∧
        row = newPrice env actor input price setupFee ∧ c = s' ∧ s' = s.storePrice env actor input price setupFee := by
  have hprevious : ∀ r, env.latest (s.productPrices.rows.filter (ProductPrice.current actor.tenantId input)) = some r →
      r ∈ s.productPrices := fun r hr => (List.mem_filter.mp (Env.latest_mem hr)).1
  have hrefs : ∀ row previous stop, prisma.productPrice.references row (s.closePrice previous stop) =
      prisma.productPrice.references row s := by
    intro row previous stop
    simp only [prisma.productPrice, Store.hasTenant, tenants_closePrice, (products_closePrice s previous stop).1,
      (products_closePrice s previous stop).2]
  simp only [setProductPrice, eval_requirePermission_bind, transaction, bind_assoc, eval_findLatestPrice_bind,
    eval_closePrevious_bind hprevious, eval_lift_bind, toInt4_ok_iff, Relation.eval_create_bind,
    eval_recordAuditLog_bind, pure_eq_ret, ret_bind, eval_commit, eval_ret, Except.ok.injEq, Prod.mk.injEq,
    fresh_price_iff, hrefs]
  constructor
  · rintro ⟨hp, price, hprice, fee, hfee, hfresh, href, _, rfl, rfl, rfl⟩
    simp only [prisma.productPrice, Bool.and_eq_true] at href
    obtain ⟨⟨htenant, hproduct⟩, hgroup⟩ := href
    exact ⟨price, fee, ⟨hp, hprice, hfee, (find_closePrice _ _ _ _).mp hfresh, htenant, hproduct, hgroup⟩, rfl, rfl, rfl⟩
  · rintro ⟨price, fee, h, rfl, rfl, rfl⟩
    have htenant : ((s.closePrice (s.previousPrice env actor input) (input.start env)).tenants.find
        actor.tenantId).isSome = true := by
      rw [tenants_closePrice]
      exact h.tenant
    refine ⟨h.permitted, price, h.price_ok, fee, h.setupFee_ok, (find_closePrice _ _ _ _).mpr h.fresh, ?_, htenant,
      rfl, rfl, rfl⟩
    simp only [prisma.productPrice, Bool.and_eq_true]
    exact ⟨⟨h.tenant, h.product⟩, h.clientGroup⟩

theorem atomic_setProductPrice (env : Env) (actor : StaffActor) (input : SetProductPriceInput) :
    (setProductPrice env actor input).Atomic := by
  refine (uncommitted_requirePermission _ _).bind_atomic (fun _ => Uncommitted.transaction ?_)
  refine Uncommitted.bind (fun _ => trivial) (fun previous => ?_)
  refine Uncommitted.bind ?_ (fun _ => ?_)
  · cases previous with
    | none => trivial
    | some r => exact (Relation.uncommitted_update _ _ _).bind (fun _ => trivial)
  refine (uncommitted_lift _).bind (fun _ => (uncommitted_lift _).bind (fun _ => ?_))
  refine (Relation.uncommitted_create _).bind (fun _ => ?_)
  exact (uncommitted_recordAuditLog _).bind (fun _ => trivial)

structure CatalogProduct where
  product : Product
  monthlyPrice : Option ProductPrice
  annualPrice : Option ProductPrice
  oneTimePrice : Option ProductPrice

structure CatalogGroup where
  group : ProductGroup
  products : List CatalogProduct

/-- The groups the catalog shows. -/
def Store.publicGroups (s : Store) (tenantId : Id) : List ProductGroup :=
  (s.productGroups.rows.filter (fun g => decide (g.tenantId = tenantId ∧ g.visibility = .«public» ∧
    g.deletedAt = none))).insertionSort (fun a b => a.sortOrder.val ≤ b.sortOrder.val)

def Product.isListed (product : Product) : Bool :=
  decide (product.visibility = .«public» ∧ product.status = .active ∧ product.deletedAt = none)

/-- The products the catalog shows in a group. -/
def Store.publicProducts (s : Store) (group : ProductGroup) : List Product :=
  (s.products.rows.filter (fun p => decide (p.productGroupId = group.id) && p.isListed)).insertionSort
    (fun a b => a.sortOrder.val ≤ b.sortOrder.val)

def findPublicGroups (tenantId : Id) : Db (List (ProductGroup × List Product)) :=
  .query (fun v => .ret ((v.publicGroups tenantId).map (fun g => (g, v.publicProducts g))))

/-- The inner loop, over the products of a group. -/
def catalogProducts (env : Env) (tenantId : Id) (currency : String) : List Product → Db (List CatalogProduct)
  | [] => .ret []
  | product :: products => do
    let monthlyPrice ← getCurrentPrice env tenantId product.id currency "MONTHLY" none
    let annualPrice ← getCurrentPrice env tenantId product.id currency "ANNUAL" none
    let oneTimePrice ← getCurrentPrice env tenantId product.id currency "ONE_TIME" none
    let rest ← catalogProducts env tenantId currency products
    return ⟨product, monthlyPrice, annualPrice, oneTimePrice⟩ :: rest

def catalogGroups (env : Env) (tenantId : Id) (currency : String) :
    List (ProductGroup × List Product) → Db (List CatalogGroup)
  | [] => .ret []
  | (group, products) :: groups => do
    let listed ← catalogProducts env tenantId currency products
    let rest ← catalogGroups env tenantId currency groups
    return ⟨group, listed⟩ :: rest

def listPublicCatalog (env : Env) (tenantId : Id) (currency : String) : Db (List CatalogGroup) := do
  let groups ← findPublicGroups tenantId
  catalogGroups env tenantId currency groups

section Catalog

variable (env : Env) (tenantId : Id) (currency : String) (s c : Store)

/-- A product as the catalog lists it. -/
def Store.catalogProduct (product : Product) : CatalogProduct where
  product := product
  monthlyPrice := s.currentPrice env tenantId product.id currency .monthly none
  annualPrice := s.currentPrice env tenantId product.id currency .annual none
  oneTimePrice := s.currentPrice env tenantId product.id currency .oneTime none

theorem eval_catalogProducts (products : List Product) :
    (catalogProducts env tenantId currency products).eval c s =
      .ok (products.map (s.catalogProduct env tenantId currency), c, s) := by
  induction products with
  | nil => rfl
  | cons product products ih =>
    rw [catalogProducts, eval_getCurrentPrice_bind]
    refine ⟨.monthly, rfl, ?_⟩
    rw [eval_getCurrentPrice_bind]
    refine ⟨.annual, rfl, ?_⟩
    rw [eval_getCurrentPrice_bind]
    refine ⟨.oneTime, rfl, ?_⟩
    rw [eval_bind, ih]
    rfl

theorem eval_catalogGroups (groups : List (ProductGroup × List Product)) :
    (catalogGroups env tenantId currency groups).eval c s =
      .ok (groups.map (fun g => ⟨g.1, g.2.map (s.catalogProduct env tenantId currency)⟩), c, s) := by
  induction groups with
  | nil => rfl
  | cons g groups ih =>
    rw [catalogGroups, eval_bind, eval_catalogProducts]
    dsimp only
    rw [eval_bind, ih]
    rfl

theorem eval_listPublicCatalog :
    (listPublicCatalog env tenantId currency).eval c s =
      .ok ((s.publicGroups tenantId).map (fun g =>
        ⟨g, (s.publicProducts g).map (s.catalogProduct env tenantId currency)⟩), c, s) := by
  change (catalogGroups env tenantId currency _).eval c s = _
  rw [eval_catalogGroups, List.map_map]
  rfl

end Catalog

end HostPanel.Model
