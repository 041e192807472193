import HostPanel.Model.Dashboard
import HostPanel.Model.Web

namespace HostPanel.Model

open HostPanel.Lib HostPanel.Lib.Program

/-- `findMany`, the rows in the order they were created. -/
def Relation.findMany {ρ ι : Type} {key : ρ → ι} (R : Relation key) (p : ρ → Bool) : Db (List ρ) :=
  .query (fun v => .ret ((R.get v).rows.filter p))

/-- What a link to an invoice shows. -/
structure InvoiceLink where
  id : Id
  invoiceNumber : String
  amountDue : Money
  status : InvoiceStatus

def Invoice.link (invoice : Invoice) : InvoiceLink where
  id := invoice.id
  invoiceNumber := invoice.invoiceNumber
  amountDue := ⟨invoice.amountDue.val, invoice.currency⟩
  status := invoice.status

/-- What a link to an order shows. -/
structure OrderLink where
  id : Id
  orderNumber : String
  total : Money
  status : OrderStatus

def Order.link (order : Order) : OrderLink where
  id := order.id
  orderNumber := order.orderNumber
  total := ⟨order.total.val, order.currency⟩
  status := order.status

/-- What the pages of the portal show. -/
inductive PortalView where
  | notFound
  | dashboard (firstName : String) (status : ClientStatus) (unpaidInvoices : List InvoiceLink)
      (recentOrders : List OrderLink)
  | products (catalog : List (String × List (Id × String × Option String × Option Money)))
  | orders (orders : List OrderLink)
  | order (orderNumber : String) (status : OrderStatus) (items : List (String × BillingCycle × Money)) (total : Money)
      (invoices : List InvoiceLink)
  | invoice (invoiceNumber : String) (status : InvoiceStatus) (payableUntil : Option DateTime)
      (items : List (String × Money)) (subtotal taxTotal total amountPaid amountDue : Money)
  | profile (fields : List String)

def portalDashboardPage (actor : ClientPortalActor) : Db PortalView := do
  let client ← prisma.client.findUniqueOrThrow actor.clientId
  let unpaidInvoices ← prisma.invoice.findMany (fun i => decide (i.clientId = actor.clientId) && i.isUnpaid)
  let recentOrders ← prisma.order.findMany (fun o => decide (o.clientId = actor.clientId))
  return .dashboard client.firstName client.status
    ((unpaidInvoices.insertionSort (fun a b => a.dueDate ≤ b.dueDate)).map Invoice.link)
    ((recentOrders.reverse.take 5).map Order.link)

def CatalogProduct.card (listed : CatalogProduct) : Id × String × Option String × Option Money :=
  (listed.product.id, listed.product.name, listed.product.description,
    listed.monthlyPrice.map (fun price => ⟨price.price.val, price.currency⟩))

def productsPage (env : Env) (actor : ClientPortalActor) : Db PortalView := do
  let catalog ← listPublicCatalog env actor.tenantId "USD"
  return .products (catalog.map (fun g => (g.group.name, g.products.map CatalogProduct.card)))

def ordersPage (actor : ClientPortalActor) : Db PortalView := do
  let orders ← prisma.order.findMany (fun o => decide (o.clientId = actor.clientId))
  return .orders (orders.reverse.map Order.link)

def Order.view (order : Order) (invoices : List Invoice) : PortalView :=
  .order order.orderNumber order.status
    (order.items.map (fun item =>
      (item.productNameSnapshot, item.billingCycleSnapshot, ⟨item.lineTotal.val, order.currency⟩)))
    ⟨order.total.val, order.currency⟩ (invoices.map Invoice.link)

/-- An order with the invoices that point at it. -/
def findOrderWithInvoices (id : Id) : Db (Option (Order × List Invoice)) :=
  .query (fun v => .ret ((v.orders.find id).map (fun o =>
    (o, v.invoices.rows.filter (fun i => decide (i.orderId = some o.id))))))

def orderDetailPage (actor : ClientPortalActor) (id : Id) : Db PortalView := do
  let found ← findOrderWithInvoices id
  return ((found.filter (fun x => decide (x.1.clientId = actor.clientId))).map (fun x => x.1.view x.2)).getD .notFound

def Invoice.view (invoice : Invoice) : PortalView :=
  .invoice invoice.invoiceNumber invoice.status (if invoice.isUnpaid then some invoice.dueDate else none)
    (invoice.items.map (fun item => (item.description, ⟨item.lineTotal.val, invoice.currency⟩)))
    ⟨invoice.subtotal.val, invoice.currency⟩ ⟨invoice.taxTotal.val, invoice.currency⟩
    ⟨invoice.total.val, invoice.currency⟩ ⟨invoice.amountPaid.val, invoice.currency⟩
    ⟨invoice.amountDue.val, invoice.currency⟩

def invoiceDetailPage (actor : ClientPortalActor) (id : Id) : Db PortalView := do
  let found ← prisma.invoice.findUnique id
  return ((found.filter (fun i => decide (i.clientId = actor.clientId))).map Invoice.view).getD .notFound

/-- The fields of the profile form, as they are filled in. -/
def Client.profileFields (client : Client) : List String :=
  [client.firstName, client.lastName, client.companyName.getD "", client.phone.getD "", client.addressLine1.getD "",
    client.city.getD "", client.state.getD "", client.postalCode.getD "", client.country.getD ""]

def profilePage (actor : ClientPortalActor) : Db PortalView := do
  let client ← prisma.client.findUniqueOrThrow actor.clientId
  return .profile client.profileFields

/-- The pages of the portal. -/
inductive PortalPage where
  | dashboard
  | products
  | orders
  | order (id : Id)
  | invoice (id : Id)
  | profile

def PortalPage.render (env : Env) (actor : ClientPortalActor) : PortalPage → Db PortalView
  | dashboard => portalDashboardPage actor
  | products => productsPage env actor
  | orders => ordersPage actor
  | order id => orderDetailPage actor id
  | invoice id => invoiceDetailPage actor id
  | profile => profilePage actor

/-- What a request for a page of the portal shows, unless it is sent to the login
page. -/
def WebRequest.shows (r : WebRequest) (page : PortalPage) (s : Store) : Except Failure (Option PortalView) :=
  match (getSession r.env r.cookie).run s with
  | (_, .error e) => .error e
  | (t, .ok session) =>
    match getClientActor session with
    | none => .ok none
    | some actor => ((page.render r.env actor).run t).2.map some

end HostPanel.Model
