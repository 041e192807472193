import HostPanel.Lib.Table
import HostPanel.Lib.Program
import HostPanel.Lib.Double

namespace HostPanel.Model

open HostPanel.Lib

abbrev Id := String

/-- Milliseconds since the epoch. -/
abbrev DateTime := ℤ

/-- An `Int` column: 32 bits, signed. -/
abbrev Int4 := { n : ℤ // -2147483648 ≤ n ∧ n < 2147483648 }

instance : Zero Int4 := ⟨⟨0, by decide⟩⟩

inductive ClientStatus where
  | active
  | pendingVerification
  | suspended
  | closed
deriving DecidableEq

inductive VerificationStatus where
  | unverified
  | verified
deriving DecidableEq

inductive ClientType where
  | individual
  | company
deriving DecidableEq

inductive StaffUserStatus where
  | active
  | disabled
deriving DecidableEq

inductive ClientContactStatus where
  | active
  | disabled
deriving DecidableEq

inductive ProductVisibility where
  | «public»
  | hidden
deriving DecidableEq

inductive ProductStatus where
  | active
  | retired
deriving DecidableEq

inductive BillingCycle where
  | oneTime
  | monthly
  | quarterly
  | semiAnnual
  | annual
  | biennial
  | triennial
  | custom
deriving DecidableEq

def BillingCycle.name : BillingCycle → String
  | oneTime => "ONE_TIME"
  | monthly => "MONTHLY"
  | quarterly => "QUARTERLY"
  | semiAnnual => "SEMI_ANNUAL"
  | annual => "ANNUAL"
  | biennial => "BIENNIAL"
  | triennial => "TRIENNIAL"
  | custom => "CUSTOM"

def BillingCycle.ofName? (name : String) : Option BillingCycle :=
  [oneTime, monthly, quarterly, semiAnnual, annual, biennial, triennial, custom].find? (fun c => c.name == name)

theorem BillingCycle.ofName?_name (c : BillingCycle) : BillingCycle.ofName? c.name = some c := by
  cases c <;> rfl

inductive OrderStatus where
  | pending
  | awaitingPayment
  | paid
  | processing
  | active
  | fraudReview
  | cancelled
  | fraud
  | refunded
  | failed
deriving DecidableEq

inductive InvoiceStatus where
  | draft
  | issued
  | unpaid
  | partiallyPaid
  | paid
  | overdue
  | collections
  | cancelled
  | refunded
deriving DecidableEq

def ClientStatus.name : ClientStatus → String
  | active => "ACTIVE"
  | pendingVerification => "PENDING_VERIFICATION"
  | suspended => "SUSPENDED"
  | closed => "CLOSED"

def OrderStatus.name : OrderStatus → String
  | pending => "PENDING"
  | awaitingPayment => "AWAITING_PAYMENT"
  | paid => "PAID"
  | processing => "PROCESSING"
  | active => "ACTIVE"
  | fraudReview => "FRAUD_REVIEW"
  | cancelled => "CANCELLED"
  | fraud => "FRAUD"
  | refunded => "REFUNDED"
  | failed => "FAILED"

def InvoiceStatus.name : InvoiceStatus → String
  | draft => "DRAFT"
  | issued => "ISSUED"
  | unpaid => "UNPAID"
  | partiallyPaid => "PARTIALLY_PAID"
  | paid => "PAID"
  | overdue => "OVERDUE"
  | collections => "COLLECTIONS"
  | cancelled => "CANCELLED"
  | refunded => "REFUNDED"

inductive AuditActorType where
  | staff
  | clientContact
  | system
deriving DecidableEq

inductive AuthActorType where
  | staff
  | clientContact
deriving DecidableEq

inductive StatusHistoryEntityType where
  | order
  | invoice
  | client
deriving DecidableEq

inductive AuditEntityType where
  | client
  | clientContact
  | staffUser
  | role
  | productGroup
  | product
  | productPrice
  | order
  | invoice
  | systemSetting
  | staffSession
  | clientSession
  | impersonation
deriving DecidableEq

/-- A status as the history table stores it, of whichever entity it is. -/
inductive Status where
  | client (s : ClientStatus)
  | order (s : OrderStatus)
  | invoice (s : InvoiceStatus)
deriving DecidableEq

inductive Scalar where
  | null
  | bool (b : Bool)
  | num (n : ℤ)
  | decimal (text : String)
  | date (t : DateTime)
  | str (s : String)
deriving DecidableEq

inductive JsonValue where
  | scalar (v : Scalar)
  | obj (fields : List (String × Scalar))
deriving DecidableEq

abbrev JsonObject := List (String × JsonValue)

structure Tenant where
  id : Id
  slug : String
  name : String

structure ClientGroup where
  id : Id
  tenantId : Id

structure Client where
  id : Id
  tenantId : Id
  type : ClientType := .individual
  companyName : Option String := none
  firstName : String
  lastName : String
  email : String
  phone : Option String := none
  addressLine1 : Option String := none
  addressLine2 : Option String := none
  city : Option String := none
  state : Option String := none
  postalCode : Option String := none
  country : Option String := none
  taxId : Option String := none
  currency : String := "USD"
  language : String := "en"
  timezone : String := "UTC"
  clientGroupId : Option Id := none
  status : ClientStatus := .pendingVerification
  verificationStatus : VerificationStatus := .unverified
  lastLoginAt : Option DateTime := none
  updatedAt : DateTime

structure ClientNote where
  id : Id
  tenantId : Id
  clientId : Id
  body : String
  authorStaffUserId : Option Id
  authorLabel : String

structure ClientContact where
  id : Id
  tenantId : Id
  clientId : Id
  email : String
  passwordHash : String
  firstName : String
  lastName : String
  isPrimary : Bool := false
  permBilling : Bool := false
  permSupport : Bool := false
  permDomains : Bool := false
  permServices : Bool := false
  status : ClientContactStatus := .active
  emailVerifiedAt : Option DateTime := none
  lockedUntil : Option DateTime := none
  lastLoginAt : Option DateTime := none
  lastLoginIp : Option String := none
  deletedAt : Option DateTime := none

structure EmailVerificationToken where
  id : Id
  tenantId : Id
  actorType : AuthActorType
  actorId : Id
  email : String
  tokenHash : String
  expiresAt : DateTime
  consumedAt : Option DateTime := none

structure PasswordResetToken where
  id : Id
  tenantId : Id
  actorType : AuthActorType
  actorId : Id
  tokenHash : String
  expiresAt : DateTime
  consumedAt : Option DateTime := none

structure Role where
  id : Id
  tenantId : Id
  key : String
  name : String
  isSystem : Bool := true

structure Permission where
  id : Id
  key : String
  category : String

structure RolePermission where
  roleId : Id
  permissionId : Id

structure StaffUser where
  id : Id
  tenantId : Id
  email : String
  passwordHash : String
  name : String
  roleId : Id
  status : StaffUserStatus := .active
  mustChangePassword : Bool := false
  emailVerifiedAt : Option DateTime := none
  twoFactorEnabled : Bool := false
  twoFactorSecret : Option String := none
  recoveryCodeHashes : Option (List String) := none
  lockedUntil : Option DateTime := none
  lastLoginAt : Option DateTime := none
  lastLoginIp : Option String := none
  deletedAt : Option DateTime := none
  updatedAt : DateTime

structure StaffSession where
  id : Id
  tenantId : Id
  userId : Id
  tokenHash : String
  ip : Option String := none
  userAgent : Option String := none
  lastSeenAt : DateTime
  expiresAt : DateTime
  revokedAt : Option DateTime := none
  revokedReason : Option String := none

structure ClientSession where
  id : Id
  tenantId : Id
  contactId : Id
  tokenHash : String
  ip : Option String := none
  userAgent : Option String := none
  lastSeenAt : DateTime
  expiresAt : DateTime
  revokedAt : Option DateTime := none
  revokedReason : Option String := none
  impersonatedByStaffUserId : Option Id := none
  impersonationReason : Option String := none

structure LoginEvent where
  id : Id
  tenantId : Id
  actorType : AuthActorType
  actorId : Option Id
  email : String
  success : Bool
  reason : Option String := none
  ip : Option String := none
  userAgent : Option String := none
  createdAt : DateTime

structure ProductGroup where
  id : Id
  tenantId : Id
  name : String
  slug : String
  description : Option String := none
  sortOrder : Int4 := 0
  visibility : ProductVisibility := .«public»
  deletedAt : Option DateTime := none

structure Product where
  id : Id
  tenantId : Id
  productGroupId : Id
  name : String
  slug : String
  description : Option String := none
  visibility : ProductVisibility := .«public»
  status : ProductStatus := .active
  stockLimit : Option Int4 := none
  stockUsed : Int4 := 0
  sortOrder : Int4 := 0
  deletedAt : Option DateTime := none

structure ProductPrice where
  id : Id
  tenantId : Id
  productId : Id
  clientGroupId : Option Id := none
  currency : String
  billingCycle : BillingCycle
  setupFee : Int4
  price : Int4
  isPromotional : Bool := false
  effectiveFrom : DateTime
  effectiveTo : Option DateTime := none

structure OrderItem where
  id : Id
  tenantId : Id
  productId : Option Id
  productPriceId : Option Id
  productNameSnapshot : String
  descriptionSnapshot : Option String
  quantity : Int4
  unitPriceSnapshot : Int4
  setupFeeSnapshot : Int4
  taxSnapshot : Int4
  discountSnapshot : Int4
  billingCycleSnapshot : BillingCycle
  domainSnapshot : Option String
  selectedOptionsSnapshot : Option String
  lineTotal : Int4

/-- An order row together with the item rows that point at it. -/
structure Order where
  id : Id
  tenantId : Id
  clientId : Id
  orderNumber : String
  status : OrderStatus
  currency : String
  subtotal : Int4
  discountTotal : Int4
  taxTotal : Int4
  total : Int4
  idempotencyKey : Option String
  ipAddress : Option String
  userAgent : Option String
  items : List OrderItem

structure InvoiceItem where
  tenantId : Id
  sourceOrderItemId : Option Id
  description : String
  quantity : Int4
  unitPrice : Int4
  taxAmount : Int4
  discountAmount : Int4
  lineTotal : Int4

structure CustomerSnapshot where
  name : String
  email : String
  addressLine1 : Option String
  addressLine2 : Option String
  city : Option String
  state : Option String
  postalCode : Option String
  country : Option String
  taxId : Option String

/-- An invoice row together with the item rows that point at it. -/
structure Invoice where
  id : Id
  tenantId : Id
  clientId : Id
  orderId : Option Id
  invoiceNumber : String
  status : InvoiceStatus
  currency : String
  subtotal : Int4
  discountTotal : Int4
  taxTotal : Int4
  total : Int4
  amountPaid : Int4
  amountDue : Int4
  dueDate : DateTime
  issuedAt : Option DateTime
  paidAt : Option DateTime
  customerSnapshot : CustomerSnapshot
  companySnapshot : JsonObject
  items : List InvoiceItem

structure PaymentMetadata where
  amount : ℤ
  reference : Option String

structure StatusHistory where
  tenantId : Id
  entityType : StatusHistoryEntityType
  entityId : Id
  fromStatus : Option Status
  toStatus : Status
  actorType : AuditActorType
  actorId : Option Id
  reason : Option String := none
  metadata : Option PaymentMetadata := none

structure AuditLog where
  tenantId : Id
  actorType : AuditActorType
  actorId : Option Id
  actorLabel : Option String
  action : String
  entityType : AuditEntityType
  entityId : Id
  ip : Option String := none
  beforeState : Option JsonObject := none
  afterState : Option JsonObject := none
  reason : Option String := none
  metadata : Option JsonObject := none

structure SystemSetting where
  id : Id
  tenantId : Id
  key : String
  value : JsonObject
  updatedBy : Option String := none

structure Counter where
  tenantId : Id
  key : String
  value : Int4

structure EmailLog where
  tenantId : Id
  toEmail : String
  templateKey : String
  subject : String
  relatedEntityType : Option String
  relatedEntityId : Option Id

def SystemSetting.ref (r : SystemSetting) : Id × String := (r.tenantId, r.key)

def Counter.ref (r : Counter) : Id × String := (r.tenantId, r.key)

def RolePermission.ref (r : RolePermission) : Id × Id := (r.roleId, r.permissionId)

/-- The tables. -/
structure Store where
  tenants : Table Tenant.id := ∅
  clientGroups : Table ClientGroup.id := ∅
  clients : Table Client.id := ∅
  clientNotes : Table ClientNote.id := ∅
  clientContacts : Table ClientContact.id := ∅
  emailVerificationTokens : Table EmailVerificationToken.id := ∅
  passwordResetTokens : Table PasswordResetToken.id := ∅
  roles : Table Role.id := ∅
  permissions : Table Permission.id := ∅
  rolePermissions : Table RolePermission.ref := ∅
  staffUsers : Table StaffUser.id := ∅
  staffSessions : Table StaffSession.id := ∅
  clientSessions : Table ClientSession.id := ∅
  loginEvents : Table LoginEvent.id := ∅
  productGroups : Table ProductGroup.id := ∅
  products : Table Product.id := ∅
  productPrices : Table ProductPrice.id := ∅
  orders : Table Order.id := ∅
  invoices : Table Invoice.id := ∅
  systemSettings : Table SystemSetting.ref := ∅
  counters : Table Counter.ref := ∅
  statusHistories : List StatusHistory := []
  auditLogs : List AuditLog := []
  emailLogs : List EmailLog := []

/-- What a write locks: a row by its key, or an entry of a unique index. -/
inductive Lock where
  | tenant (id : Id)
  | tenantSlug (slug : String)
  | client (id : Id)
  | clientEmail (tenantId : Id) (email : String)
  | clientNote (id : Id)
  | clientContact (id : Id)
  | contactEmail (tenantId : Id) (email : String)
  | emailVerificationToken (id : Id)
  | tokenHash (hash : String)
  | passwordResetToken (id : Id)
  | resetTokenHash (hash : String)
  | role (id : Id)
  | roleKey (tenantId : Id) (key : String)
  | permission (id : Id)
  | permissionKey (key : String)
  | rolePermission (ref : Id × Id)
  | staffUser (id : Id)
  | staffEmail (tenantId : Id) (email : String)
  | staffSession (id : Id)
  | staffTokenHash (hash : String)
  | clientSession (id : Id)
  | clientTokenHash (hash : String)
  | loginEvent (id : Id)
  | productGroup (id : Id)
  | productGroupSlug (tenantId : Id) (slug : String)
  | product (id : Id)
  | productSlug (tenantId : Id) (slug : String)
  | productPrice (id : Id)
  | order (id : Id)
  | orderItem (id : Id)
  | orderNumber (tenantId : Id) (number : String)
  | idempotencyKey (tenantId : Id) (key : String)
  | invoice (id : Id)
  | invoiceNumber (tenantId : Id) (number : String)
  | systemSetting (ref : Id × String)
  | systemSettingId (id : Id)
  | counter (ref : Id × String)
deriving DecidableEq

inductive ErrorCategory where
  | validation
  | authentication
  | authorization
  | businessRule
deriving DecidableEq

/-- Everything a service can throw: an `AppError`, a `MoneyError`, or an error
of the database client or the mail queue. -/
inductive Failure where
  | app (category : ErrorCategory) (code message : String) (details : JsonObject := [])
  | money (message : String)
  | recordNotFound
  | uniqueViolation
  | foreignKeyViolation
  | valueOutOfRange
  | invalidEnumValue
  | queueUnavailable
  | error (message : String)
deriving DecidableEq

def businessRuleError (code message : String) : Failure := .app .businessRule code message

def authenticationError (code message : String) : Failure := .app .authentication code message

def validationError (code message : String) : Failure := .app .validation code message

/-- Bytes to and from base64, and AES-256-GCM; `decipher` gives nothing where
the library throws. -/
structure Cipher where
  fromBase64 : String → List UInt8
  toBase64 : List UInt8 → String
  encipher : (key iv : List UInt8) → (plaintext : String) → List UInt8 × List UInt8
  decipher : (key iv authTag data : List UInt8) → Option String

/-- What the surroundings give one call: the clock, the ids, the uuid, the
tokens and the random bytes it draws, the hash functions, the checks of
passwords and one-time codes, the configuration, whether Redis answers the mail
queue without an error, and which of several rows that sort equal the database
puts first. -/
structure Env where
  now : DateTime
  cuid : ℕ → Id
  cuid_ne_empty : ∀ n, cuid n ≠ ""
  randomUUID : String
  generateToken : String
  hashToken : String → String
  hashPassword : String → String
  verifyPassword : (storedHash plainPassword : String) → Bool
  placeholderToken : String
  verifyTotpToken : (secret token : String) → Bool
  recoveryCode : ℕ → String
  cipher : Cipher
  encryptionKey : String
  randomBytes : List UInt8
  defaultTenantSlug : String
  appName : String
  queueAvailable : Bool
  tieBreak : List ProductPrice → ℕ

/-- The surroundings once `n` ids are drawn. -/
def Env.drawn (env : Env) (n : ℕ) : Env :=
  { env with
    cuid := fun i => env.cuid (n + i)
    cuid_ne_empty := fun i => env.cuid_ne_empty (n + i) }

abbrev Db := Program Store Lock Failure

end HostPanel.Model
