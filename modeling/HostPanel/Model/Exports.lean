import HostPanel.Access.Calls
import HostPanel.Model.Settings
import HostPanel.Model.Setup

namespace HostPanel.Model

open HostPanel.Lib HostPanel.Lib.Program

/-- A call of one of the writing services that the core and billing packages
export; those that work inside a transaction of their caller are a transaction
of their own here. -/
inductive ExportedCall where
  | access (call : AccessCall)
  | recordLoginAttempt (env : Env) (input : LoginAttempt)
  | bootstrapSuperAdmin (env : Env) (input : BootstrapInput)
  | setSetting (env : Env) (actor : StaffActor) (key : String) (value : JsonObject)
  | createProductGroup (env : Env) (actor : StaffActor) (input : ProductGroupInput)
  | createProduct (env : Env) (actor : StaffActor) (input : ProductInput)
  | setProductPrice (env : Env) (actor : StaffActor) (input : SetProductPriceInput)
  | nextSequenceNumber (tenantId : Id) (key : String) (options : SequenceOptions)
  | createOrder (env : Env) (actor : Actor) (input : CreateOrderInput)
  | transitionOrderStatus (orderId : Id) (toStatus : OrderStatus) (actor : TransitionActor) (reason : Option String)
  | issueInvoiceForOrder (env : Env) (order : Order) (actor : TransitionActor)
  | markInvoicePaidManually (env : Env) (actor : StaffActor) (invoiceId : Id) (input : PaymentInput)
  | cancelInvoice (actor : StaffActor) (invoiceId : Id) (reason : String)

/-- What an exported service answers. -/
inductive ExportedReply where
  | done
  | access (reply : AccessReply)
  | setup (result : BootstrapResult)
  | productGroup (group : ProductGroup)
  | product (product : Product)
  | productPrice (price : ProductPrice)
  | sequenceNumber (text : String)
  | order (order : Order)
  | invoice (invoice : Invoice)

/-- An exported service with its answer. -/
def ExportedCall.reply : ExportedCall → Db ExportedReply
  | access call => .access <$> call.program
  | recordLoginAttempt env input => (fun _ => .done) <$> Model.recordLoginAttempt env input
  | bootstrapSuperAdmin env input => .setup <$> Model.bootstrapSuperAdmin env input
  | setSetting env actor key value => (fun _ => .done) <$> Model.setSetting env actor key value
  | createProductGroup env actor input => .productGroup <$> Model.createProductGroup env actor input
  | createProduct env actor input => .product <$> Model.createProduct env actor input
  | setProductPrice env actor input => .productPrice <$> Model.setProductPrice env actor input
  | nextSequenceNumber tenantId key options =>
    .sequenceNumber <$> transaction (Model.nextSequenceNumber tenantId key options)
  | createOrder env actor input => .order <$> Model.createOrder env actor input
  | transitionOrderStatus orderId toStatus actor reason =>
    .order <$> transaction (Model.transitionOrderStatus orderId toStatus actor reason)
  | issueInvoiceForOrder env order actor => .invoice <$> Model.issueInvoiceForOrder env order actor
  | markInvoicePaidManually env actor invoiceId input =>
    .invoice <$> Model.markInvoicePaidManually env actor invoiceId input
  | cancelInvoice actor invoiceId reason => .invoice <$> Model.cancelInvoice actor invoiceId reason

/-- An exported service without its answer. -/
def ExportedCall.program (call : ExportedCall) : Db Unit := (fun _ => ()) <$> call.reply

end HostPanel.Model
