import HostPanel.Lib.Run
import HostPanel.Model.Clients

namespace HostPanel.Model

open HostPanel.Lib

/-- A call of one of the services, with its arguments. -/
inductive Call where
  | setProductPrice (env : Env) (actor : StaffActor) (input : SetProductPriceInput)
  | createOrder (env : Env) (actor : Actor) (input : CreateOrderInput)
  | issueInvoiceForOrder (env : Env) (order : Order) (actor : TransitionActor)
  | markInvoicePaidManually (env : Env) (actor : StaffActor) (invoiceId : Id) (input : PaymentInput)
  | cancelInvoice (actor : StaffActor) (invoiceId : Id) (reason : String)
  | registerClient (env : Env) (input : RegisterClientInput)
  | verifyClientEmail (env : Env) (token : String)
  | addClientNote (env : Env) (actor : StaffActor) (clientId : Id) (body : String)
  | changeClientStatus (env : Env) (actor : StaffActor) (clientId : Id) (toStatus : ClientStatus) (reason : String)
  | updateClientProfile (env : Env) (actor : Actor) (clientId : Id) (patch : ProfilePatch)
  | disableStaffUser (env : Env) (actor : StaffActor) (targetUserId : Id)

/-- The tables after a call, whether it returned or threw. -/
def Call.after (s : Store) : Call → Store
  | setProductPrice env actor input => (Model.setProductPrice env actor input).after s
  | createOrder env actor input => (Model.createOrder env actor input).after s
  | issueInvoiceForOrder env order actor => (Model.issueInvoiceForOrder env order actor).after s
  | markInvoicePaidManually env actor invoiceId input =>
    (Model.markInvoicePaidManually env actor invoiceId input).after s
  | cancelInvoice actor invoiceId reason => (Model.cancelInvoice actor invoiceId reason).after s
  | registerClient env input => (Model.registerClient env input).after s
  | verifyClientEmail env token => (Model.verifyClientEmail env token).after s
  | addClientNote env actor clientId body => (Model.addClientNote env actor clientId body).after s
  | changeClientStatus env actor clientId toStatus reason =>
    (Model.changeClientStatus env actor clientId toStatus reason).after s
  | updateClientProfile env actor clientId patch => (Model.updateClientProfile env actor clientId patch).after s
  | disableStaffUser env actor targetUserId => (Model.disableStaffUser env actor targetUserId).after s

/-- The statements of a call, whatever it returns. -/
def Call.program : Call → Db Unit
  | setProductPrice env actor input => Model.setProductPrice env actor input >>= fun _ => .ret ()
  | createOrder env actor input => Model.createOrder env actor input >>= fun _ => .ret ()
  | issueInvoiceForOrder env order actor => Model.issueInvoiceForOrder env order actor >>= fun _ => .ret ()
  | markInvoicePaidManually env actor invoiceId input =>
    Model.markInvoicePaidManually env actor invoiceId input >>= fun _ => .ret ()
  | cancelInvoice actor invoiceId reason => Model.cancelInvoice actor invoiceId reason >>= fun _ => .ret ()
  | registerClient env input => Model.registerClient env input >>= fun _ => .ret ()
  | verifyClientEmail env token => Model.verifyClientEmail env token
  | addClientNote env actor clientId body => Model.addClientNote env actor clientId body
  | changeClientStatus env actor clientId toStatus reason => Model.changeClientStatus env actor clientId toStatus reason
  | updateClientProfile env actor clientId patch => Model.updateClientProfile env actor clientId patch
  | disableStaffUser env actor targetUserId => Model.disableStaffUser env actor targetUserId

theorem Call.after_program (call : Call) (s : Store) : call.program.after s = call.after s := by
  cases call <;> first | rfl | exact Program.after_bind_ret _ (fun _ => ()) s

/-- Calls made one after the other. -/
abbrev runCalls (s : Store) (calls : List Call) : Store := runFrom Call.after s calls

@[simp] theorem runCalls_cons (s : Store) (call : Call) (calls : List Call) :
    runCalls s (call :: calls) = runCalls (call.after s) calls := rfl

/-- The calls of a run all meet `G` where they are made. -/
abbrev AlongCalls (G : Store → Call → Prop) : Store → List Call → Prop := AlongRun Call.after G

namespace Sample

/-- Surroundings whose ids and secrets carry a tag of the call. -/
def env (tag : String) : Env where
  now := 1000
  cuid n := "id-" ++ tag ++ toString n
  cuid_ne_empty n h := by
    have hl := congrArg String.length h
    simp only [String.length_append] at hl
    exact absurd hl (by simp)
  randomUUID := "uuid-" ++ tag
  generateToken := "token-" ++ tag
  hashToken token := "hash-" ++ token
  hashPassword password := "hash-" ++ password
  verifyPassword storedHash plainPassword := storedHash == "hash-" ++ plainPassword
  placeholderToken := "placeholder-" ++ tag
  verifyTotpToken _ token := token == "123456"
  recoveryCode n := "code-" ++ tag ++ toString n
  cipher :=
    { fromBase64 := fun _ => []
      toBase64 := fun _ => "base64"
      encipher := fun _ _ _ => ([], [])
      decipher := fun _ _ _ _ => some "secret" }
  encryptionKey := "key"
  randomBytes := []
  defaultTenantSlug := "default"
  appName := "HostPanel"
  queueAvailable := true
  tieBreak _ := 0

def staff : StaffActor :=
  { id := "staff", tenantId := "tenant", label := "Staff"
    permissions :=
      [PermissionKey.clientsWrite, .productsWrite, .ordersWrite, .invoicesWrite, .staffManage].map PermissionKey.name }

def tenant : Tenant := { id := "tenant", slug := "default", name := "HostPanel" }

def client : Client :=
  { id := "client", tenantId := "tenant", firstName := "Demo", lastName := "Client", email := "client@example.test"
    status := .active, updatedAt := 0 }

def contact : ClientPortalActor := { id := "contact", clientId := "client", tenantId := "tenant", label := "Demo Client" }

def hosting : ProductGroup := { id := "hosting", tenantId := "tenant", name := "Hosting", slug := "hosting" }

def product : Product :=
  { id := "product", tenantId := "tenant", productGroupId := "hosting", name := "Starter", slug := "starter" }

def price (setupFee : Int4) : ProductPrice :=
  { id := "price", tenantId := "tenant", productId := "product", currency := "USD", billingCycle := .monthly
    setupFee := setupFee, price := ⟨1000, by decide⟩, effectiveFrom := 0 }

def connectionLost : Failure := .error "Can't reach database server"

/-- A tenant without clients or products. -/
def vacant : Store := { tenants := (∅ : Table Tenant.id).insert tenant }

/-- A shop with one client and one product, for runs on fixed inputs. -/
def shop (setupFee : Int4) : Store :=
  { vacant with
    clients := (∅ : Table Client.id).insert client
    productGroups := (∅ : Table ProductGroup.id).insert hosting
    products := (∅ : Table Product.id).insert product
    productPrices := (∅ : Table ProductPrice.id).insert (price setupFee) }

def twoMonths : CreateOrderInput :=
  { clientId := "client", currency := "USD", idempotencyKey := "key"
    items := [{ productId := "product", quantity := .integer 2, billingCycle := "MONTHLY" }] }

/-- The shop after the order was placed. -/
def ordered : Store := (Call.createOrder (env "a") (.staff staff) twoMonths).after (shop 0)

def placed : Order := (ordered.orders.find "id-a0").get (by decide +kernel)

/-- Two months are ordered, invoiced with 2000 units and paid in parts. -/
def sale (amounts : List ℤ) : List Call :=
  [.createOrder (env "a") (.staff staff) twoMonths,
    .issueInvoiceForOrder (env "b") placed staff.transitionActor] ++
    amounts.map (fun n => .markInvoicePaidManually (env "c") staff "id-b0" { amount := .integer n })

end Sample

end HostPanel.Model
