import HostPanel.Lib.Validation
import HostPanel.Lib.Decimal
import HostPanel.Model.Clients
import HostPanel.Model.Setup

namespace HostPanel.Model

open HostPanel.Lib

section Coercion

def digitValue (c : Char) : ℕ :=
  if c.isDigit then c.toNat - '0'.toNat
  else if 'a' ≤ c ∧ c ≤ 'z' then c.toNat - 'a'.toNat + 10
  else if 'A' ≤ c ∧ c ≤ 'Z' then c.toNat - 'A'.toNat + 10
  else 36

/-- The digits behind `0x`, `0o` or `0b`. -/
def radixLiteral? (base : ℕ) (cs : List Char) : Option Double :=
  if cs ≠ [] ∧ cs.all (fun c => digitValue c < base) then
    some (Double.ofRat (cs.foldl (fun n c => base * n + digitValue c) 0 : ℕ))
  else none

/-- The exponent of a decimal literal, which may be missing. -/
def exponent? : List Char → Option ℤ
  | [] => some 0
  | c :: cs =>
    let sign : ℤ := if cs.head? = some '-' then -1 else 1
    let digits := if cs.head? = some '-' ∨ cs.head? = some '+' then cs.tail else cs
    if (c = 'e' ∨ c = 'E') ∧ digits ≠ [] ∧ digits.all Char.isDigit then
      some (sign * Nat.ofDigitChars 10 digits 0)
    else none

/-- A decimal literal without a sign. -/
def unsignedDecimal? (cs : List Char) : Option Double :=
  if cs = "Infinity".toList then some (.infinite false)
  else
    let whole := cs.takeWhile Char.isDigit
    let rest := cs.dropWhile Char.isDigit
    let fraction := if rest.head? = some '.' then rest.tail.takeWhile Char.isDigit else []
    let rest := if rest.head? = some '.' then rest.tail.dropWhile Char.isDigit else rest
    if whole = [] ∧ fraction = [] then none
    else
      (exponent? rest).map (fun e =>
        Double.ofRat (Nat.ofDigitChars 10 (whole ++ fraction) 0 * 10 ^ (e - (fraction.length : ℤ))))

def Double.neg : Double → Double
  | .finite x => .finite (-x)
  | .infinite negative => .infinite !negative

/-- `Number(text)`; nothing for NaN. -/
def toNumber (text : String) : Option Double :=
  match (trim text).toList with
  | [] => some (.finite 0)
  | '0' :: 'x' :: cs | '0' :: 'X' :: cs => radixLiteral? 16 cs
  | '0' :: 'o' :: cs | '0' :: 'O' :: cs => radixLiteral? 8 cs
  | '0' :: 'b' :: cs | '0' :: 'B' :: cs => radixLiteral? 2 cs
  | '-' :: cs => (unsignedDecimal? cs).map Double.neg
  | '+' :: cs => unsignedDecimal? cs
  | cs => unsignedDecimal? cs

end Coercion

/-- What the schema finds wrong with a variable: in a text of its own, or in one
of the library. -/
inductive Issue where
  | said (message : String)
  | invalidType (expected : String)
  | invalidValue (options : List String)
  | tooSmall (minimum : ℕ)
  | notSafeInteger
  | invalidUnion
deriving DecidableEq

/-- The schema library: its check of a URL, which may trim it, and its texts. -/
structure Zod where
  url : String → Option String
  message : Issue → String

def Zod.text (zod : Zod) : Issue → String
  | .said message => message
  | issue => zod.message issue

/-- How one variable is parsed; it may be missing. -/
abbrev Schema (α : Type) := Option String → Checked Issue α

namespace Schema

def string : Schema String
  | none => .invalid [.invalidType "string"]
  | some text => .valid text

def min (minimum : ℕ) (issue : Issue) (schema : Schema String) : Schema String :=
  fun value => (schema value).filter (fun text => minimum ≤ jsLength text) issue

def url (zod : Zod) (issue : Issue) (schema : Schema String) : Schema String := fun value =>
  match schema value with
  | .invalid issues => .invalid issues
  | .valid text =>
    match zod.url text with
    | none => .invalid [issue]
    | some parsed => .valid parsed

def enum {α : Type} (options : List (String × α)) : Schema α := fun value =>
  match value.bind (fun text => options.lookup text) with
  | none => .invalid [.invalidValue (options.map Prod.fst)]
  | some a => .valid a

def default {α : Type} (a : α) (schema : Schema α) : Schema α
  | none => .valid a
  | some text => schema (some text)

def optional {α : Type} (schema : Schema α) : Schema (Option α)
  | none => .valid none
  | some text => (schema (some text)).map some

/-- `z.coerce.number().int()`. -/
def int : Schema ℤ := fun value =>
  match value.bind toNumber with
  | none | some (.infinite _) => .invalid [.invalidType "number"]
  | some (.finite x) =>
    if x.den ≠ 1 then .invalid [.invalidType "int"]
    else if 2 ^ 53 ≤ x.num.natAbs then .invalid [.notSafeInteger]
    else .valid x.num

/-- `boolFromString`. -/
def boolFromString : Schema Bool
  | none | some "" | some "false" => .valid false
  | some "true" => .valid true
  | some _ => .invalid [.invalidUnion]

end Schema

inductive NodeEnv where
  | development
  | test
  | production
deriving DecidableEq

inductive EmailProvider where
  | resend
  | smtp
deriving DecidableEq

inductive RegistrarProvider where
  | manual
deriving DecidableEq

inductive ProvisioningDriver where
  | manual
  | cpanel
deriving DecidableEq

/-- The validated environment. -/
structure EnvConfig where
  nodeEnv : NodeEnv
  appUrl : String
  appName : String
  defaultTenantSlug : String
  databaseUrl : String
  redisUrl : String
  bullBoardPort : ℤ
  authSecret : String
  encryptionKey : String
  staffRequire2FA : String
  emailProvider : EmailProvider
  emailFrom : String
  resendApiKey : Option String
  smtpHost : Option String
  smtpPort : Option ℤ
  smtpUser : Option String
  smtpPassword : Option String
  smtpSecure : Bool
  storageEndpoint : Option String
  storageRegion : String
  storageBucket : Option String
  storageAccessKeyId : Option String
  storageSecretAccessKey : Option String
  storageForcePathStyle : Bool
  sentryDsn : Option String
  sentryEnvironment : Option String
  stripeSecretKey : Option String
  stripePublishableKey : Option String
  stripeWebhookSecret : Option String
  paypalClientId : Option String
  paypalClientSecret : Option String
  paypalWebhookId : Option String
  registrarProvider : RegistrarProvider
  registrarApiKey : Option String
  registrarApiSecret : Option String
  registrarSandbox : Bool
  provisioningDefaultDriver : ProvisioningDriver

section Loading

open Schema

variable (zod : Zod) (source : String → Option String)

/-- One variable of the environment, with its name before each issue. -/
def schemaField {α : Type} (name : String) (schema : Schema α) : Checked String α :=
  (schema (source name)).mapIssues (fun issue => name ++ ": " ++ zod.text issue)

def baseSchema : Checked String EnvConfig :=
  (schemaField zod source "NODE_ENV" (default .development
      (enum [("development", .development), ("test", .test), ("production", .production)]))).map EnvConfig.mk
    |>.seq (schemaField zod source "APP_URL" (url zod (.said "APP_URL must be a valid absolute URL") string))
    |>.seq (schemaField zod source "APP_NAME" (default "HostPanel" (Schema.min 1 (.tooSmall 1) string)))
    |>.seq (schemaField zod source "DEFAULT_TENANT_SLUG" (default "default" (Schema.min 1 (.tooSmall 1) string)))
    |>.seq (schemaField zod source "DATABASE_URL" (Schema.min 1 (.said "DATABASE_URL is required") string))
    |>.seq (schemaField zod source "REDIS_URL" (Schema.min 1 (.said "REDIS_URL is required") string))
    |>.seq (schemaField zod source "BULL_BOARD_PORT" (default 3001 int))
    |>.seq (schemaField zod source "AUTH_SECRET"
      (Schema.min 32 (.said "AUTH_SECRET must be at least 32 characters (openssl rand -base64 48)") string))
    |>.seq (schemaField zod source "ENCRYPTION_KEY" (Schema.min 1 (.said "ENCRYPTION_KEY is required") string))
    |>.seq (schemaField zod source "STAFF_REQUIRE_2FA" (default "" string))
    |>.seq (schemaField zod source "EMAIL_PROVIDER" (default .smtp (enum [("resend", .resend), ("smtp", .smtp)])))
    |>.seq (schemaField zod source "EMAIL_FROM" (Schema.min 1 (.said "EMAIL_FROM is required") string))
    |>.seq (schemaField zod source "RESEND_API_KEY" (optional string))
    |>.seq (schemaField zod source "SMTP_HOST" (optional string))
    |>.seq (schemaField zod source "SMTP_PORT" (optional int))
    |>.seq (schemaField zod source "SMTP_USER" (optional string))
    |>.seq (schemaField zod source "SMTP_PASSWORD" (optional string))
    |>.seq (schemaField zod source "SMTP_SECURE" boolFromString)
    |>.seq (schemaField zod source "STORAGE_ENDPOINT" (optional string))
    |>.seq (schemaField zod source "STORAGE_REGION" (default "auto" string))
    |>.seq (schemaField zod source "STORAGE_BUCKET" (optional string))
    |>.seq (schemaField zod source "STORAGE_ACCESS_KEY_ID" (optional string))
    |>.seq (schemaField zod source "STORAGE_SECRET_ACCESS_KEY" (optional string))
    |>.seq (schemaField zod source "STORAGE_FORCE_PATH_STYLE" boolFromString)
    |>.seq (schemaField zod source "SENTRY_DSN" (optional string))
    |>.seq (schemaField zod source "SENTRY_ENVIRONMENT" (optional string))
    |>.seq (schemaField zod source "STRIPE_SECRET_KEY" (optional string))
    |>.seq (schemaField zod source "STRIPE_PUBLISHABLE_KEY" (optional string))
    |>.seq (schemaField zod source "STRIPE_WEBHOOK_SECRET" (optional string))
    |>.seq (schemaField zod source "PAYPAL_CLIENT_ID" (optional string))
    |>.seq (schemaField zod source "PAYPAL_CLIENT_SECRET" (optional string))
    |>.seq (schemaField zod source "PAYPAL_WEBHOOK_ID" (optional string))
    |>.seq (schemaField zod source "REGISTRAR_PROVIDER" (default .manual (enum [("manual", .manual)])))
    |>.seq (schemaField zod source "REGISTRAR_API_KEY" (optional string))
    |>.seq (schemaField zod source "REGISTRAR_API_SECRET" (optional string))
    |>.seq (schemaField zod source "REGISTRAR_SANDBOX" boolFromString)
    |>.seq (schemaField zod source "PROVISIONING_DEFAULT_DRIVER"
      (default .manual (enum [("manual", .manual), ("cpanel", .cpanel)])))

/-- `!text` of an optional text. -/
def isMissing (text : Option String) : Bool := text.getD "" = ""

def validateProductionRequirements (config : EnvConfig) : List String :=
  if config.nodeEnv ≠ .production then []
  else
    (if config.emailProvider = .resend ∧ isMissing config.resendApiKey then
      ["RESEND_API_KEY is required in production when EMAIL_PROVIDER=resend"] else []) ++
    (if config.emailProvider = .smtp ∧ (isMissing config.smtpHost ∨ config.smtpPort.getD 0 = 0) then
      ["SMTP_HOST and SMTP_PORT are required in production when EMAIL_PROVIDER=smtp"] else [])

def envConfigError (issues : List String) : Failure :=
  .error ("Invalid or missing environment configuration:\n" ++
    "\n".intercalate (issues.map (fun issue => "  - " ++ issue)) ++
    "\n\nSee .env.example and ENVIRONMENT.md for the full list of variables.")

/-- Validate the environment of the process, at its start. -/
def loadEnv : Except Failure EnvConfig :=
  match baseSchema zod source with
  | .invalid issues => .error (envConfigError issues)
  | .valid config =>
    let productionIssues := validateProductionRequirements config
    if productionIssues ≠ [] then .error (envConfigError productionIssues) else .ok config

end Loading

/-- An email with its body rendered. -/
structure EmailMessage where
  sender : String
  recipient : String
  subject : String
  html : String
  text : String

structure SmtpTransport where
  host : String
  port : ℤ
  secure : Bool
  user : Option (String × Option String)

/-- The libraries that render and deliver emails; each may throw. The resend client
gives back an error, or the id of the message if it has one. -/
structure Mailer (Element : Type) where
  render : Element → (plainText : Bool) → Except String String
  resend : (apiKey : String) → EmailMessage → Except String (String ⊕ Option String)
  smtp : SmtpTransport → EmailMessage → Except String String

structure SendEmailInput (Element : Type) where
  recipient : String
  subject : String
  react : Element

structure SendEmailResult where
  provider : EmailProvider
  messageId : String

/-- What `sendEmail` throws: an `IntegrationError`, or what a library threw. -/
inductive EmailFailure where
  | integration (code message : String) (provider : EmailProvider) (cause : Option String)
  | thrown (cause : String)

def EmailFailure.code : EmailFailure → Option String
  | .integration code _ _ _ => some code
  | .thrown _ => none

def notConfigured (provider : EmailProvider) : EmailFailure :=
  .integration "email.not_configured" "Email delivery is not configured." provider none

def sendFailed (provider : EmailProvider) (cause : String) : EmailFailure :=
  .integration "email.send_failed" "Failed to send email." provider (some cause)

def deliverResend {Element : Type} (mailer : Mailer Element) (config : EnvConfig) (message : EmailMessage) :
    Except EmailFailure SendEmailResult :=
  if isMissing config.resendApiKey then .error (notConfigured .resend)
  else
    match mailer.resend (config.resendApiKey.getD "") message with
    | .error cause => .error (.thrown cause)
    | .ok (.inl error) => .error (sendFailed .resend error)
    | .ok (.inr id) => .ok ⟨.resend, id.getD ""⟩

def EnvConfig.smtpTransport (config : EnvConfig) : SmtpTransport :=
  { host := config.smtpHost.getD ""
    port := config.smtpPort.getD 0
    secure := config.smtpSecure
    user := if isMissing config.smtpUser then none else some (config.smtpUser.getD "", config.smtpPassword) }

def deliverSmtp {Element : Type} (mailer : Mailer Element) (config : EnvConfig) (message : EmailMessage) :
    Except EmailFailure SendEmailResult :=
  if isMissing config.smtpHost ∨ config.smtpPort.getD 0 = 0 then .error (notConfigured .smtp)
  else
    match mailer.smtp config.smtpTransport message with
    | .error cause => .error (sendFailed .smtp cause)
    | .ok messageId => .ok ⟨.smtp, messageId⟩

/-- Render an email and deliver it through the configured provider. -/
def sendEmail {Element : Type} (mailer : Mailer Element) (config : EnvConfig) (input : SendEmailInput Element) :
    Except EmailFailure SendEmailResult :=
  match mailer.render input.react false, mailer.render input.react true with
  | .error cause, _ => .error (.thrown cause)
  | _, .error cause => .error (.thrown cause)
  | .ok html, .ok text =>
    let message : EmailMessage := ⟨config.emailFrom, input.recipient, input.subject, html, text⟩
    if config.emailProvider = .resend then deliverResend mailer config message
    else deliverSmtp mailer config message

theorem string_eq_valid {value : Option String} {text : String} :
    Schema.string value = .valid text ↔ value = some text := by
  cases value with
  | none =>
    constructor
    · intro h
      cases h
    · intro h
      cases h
  | some found => exact ⟨fun h => by cases h; rfl, fun h => by cases h; rfl⟩

theorem min_string_eq_valid {minimum : ℕ} {issue : Issue} {value : Option String} {text : String} :
    Schema.min minimum issue Schema.string value = .valid text ↔ value = some text ∧ minimum ≤ jsLength text := by
  rw [Schema.min, Checked.filter_eq_valid, string_eq_valid, decide_eq_true_iff]

theorem schemaField_eq_valid {α : Type} {zod : Zod} {source : String → Option String} {name : String}
    {schema : Schema α} {a : α} : schemaField zod source name schema = .valid a ↔ schema (source name) = .valid a :=
  Checked.mapIssues_eq_valid

/-- What the variables that matter here are parsed to. -/
theorem baseSchema_eq_valid {zod : Zod} {source : String → Option String} {config : EnvConfig}
    (h : baseSchema zod source = .valid config) :
    Schema.default .development
        (Schema.enum [("development", .development), ("test", .test), ("production", .production)])
        (source "NODE_ENV") = .valid config.nodeEnv ∧
      source "ENCRYPTION_KEY" = some config.encryptionKey := by
  unfold baseSchema at h
  -- the variables behind the key
  iterate 28
    rw [Checked.seq_eq_valid] at h
    obtain ⟨_, _, h, -, rfl⟩ := h
  rw [Checked.seq_eq_valid] at h
  obtain ⟨_, key, h, hkey, rfl⟩ := h
  iterate 7
    rw [Checked.seq_eq_valid] at h
    obtain ⟨_, _, h, -, rfl⟩ := h
  rw [Checked.map, Checked.seq_eq_valid] at h
  obtain ⟨_, nodeEnv, h, hnode, rfl⟩ := h
  cases h
  exact ⟨schemaField_eq_valid.mp hnode, (min_string_eq_valid.mp (schemaField_eq_valid.mp hkey)).1⟩

theorem loadEnv_ok {zod : Zod} {source : String → Option String} {config : EnvConfig}
    (h : loadEnv zod source = .ok config) :
    baseSchema zod source = .valid config ∧ validateProductionRequirements config = [] := by
  unfold loadEnv at h
  split at h
  · cases h
  · rename_i found hfound
    by_cases hissues : validateProductionRequirements found = []
    · simp only [ne_eq, hissues, not_true_eq_false, if_false] at h
      cases h
      exact ⟨hfound, hissues⟩
    · simp only [ne_eq, hissues, not_false_eq_true, if_true] at h
      cases h

theorem nodeEnv_of_loadEnv {zod : Zod} {source : String → Option String} {config : EnvConfig}
    (h : loadEnv zod source = .ok config) (hproduction : source "NODE_ENV" = some "production") :
    config.nodeEnv = .production := by
  have hnode := (baseSchema_eq_valid (loadEnv_ok h).1).1
  rw [hproduction] at hnode
  exact (Checked.valid.inj hnode).symm

/-- The provider of a validated production environment has its credentials. -/
theorem credentials_of_loadEnv {zod : Zod} {source : String → Option String} {config : EnvConfig}
    (h : loadEnv zod source = .ok config) (hproduction : source "NODE_ENV" = some "production") :
    (config.emailProvider = .resend → isMissing config.resendApiKey = false) ∧
      (config.emailProvider = .smtp → isMissing config.smtpHost = false ∧ config.smtpPort.getD 0 ≠ 0) := by
  have hissues := (loadEnv_ok h).2
  have hnode := nodeEnv_of_loadEnv h hproduction
  rw [validateProductionRequirements, if_neg (not_not.mpr hnode), List.append_eq_nil_iff] at hissues
  constructor
  · intro hresend
    by_contra hmissing
    rw [Bool.not_eq_false] at hmissing
    rw [if_pos ⟨hresend, hmissing⟩] at hissues
    exact absurd hissues.1 (List.cons_ne_nil _ _)
  · intro hsmtp
    by_contra hmissing
    have hor : isMissing config.smtpHost = true ∨ config.smtpPort.getD 0 = 0 := by
      by_contra hneither
      rw [not_or, Bool.not_eq_true] at hneither
      exact hmissing hneither
    have hissue := hissues.2
    rw [if_pos ⟨hsmtp, hor⟩] at hissue
    exact absurd hissue (List.cons_ne_nil _ _)

theorem thrown_code (cause : String) : (EmailFailure.thrown cause).code ≠ some "email.not_configured" :=
  Option.some_ne_none _ ∘ Eq.symm

theorem sendFailed_code (provider : EmailProvider) (cause : String) :
    (sendFailed provider cause).code ≠ some "email.not_configured" := by
  intro h
  exact absurd (Option.some.inj h) (by decide)

/-- With its credentials a provider may fail to send, and is never taken for one
that is not configured. -/
theorem sendEmail_configured {Element : Type} {mailer : Mailer Element} {config : EnvConfig}
    {input : SendEmailInput Element} {failure : EmailFailure}
    (hresend : config.emailProvider = .resend → isMissing config.resendApiKey = false)
    (hsmtp : config.emailProvider = .smtp → isMissing config.smtpHost = false ∧ config.smtpPort.getD 0 ≠ 0)
    (h : sendEmail mailer config input = .error failure) : failure.code ≠ some "email.not_configured" := by
  unfold sendEmail at h
  split at h
  · cases h
    exact thrown_code _
  · cases h
    exact thrown_code _
  · cases hprovider : config.emailProvider with
    | resend =>
      simp only [hprovider, if_true, deliverResend, hresend hprovider, Bool.false_eq_true, if_false] at h
      split at h
      · cases h
        exact thrown_code _
      · cases h
        exact sendFailed_code _ _
      · cases h
    | smtp =>
      obtain ⟨hhost, hport⟩ := hsmtp hprovider
      simp only [hprovider, deliverSmtp, hhost, hport, Bool.false_eq_true, or_self, if_false, reduceCtorEq] at h
      split at h
      · cases h
        exact sendFailed_code _ _
      · cases h

end HostPanel.Model
