import Mathlib.Data.List.DropRight
import HostPanel.Lib.Decimal
import HostPanel.Model.Actions

namespace HostPanel.Model

open HostPanel.Lib HostPanel.Lib.Program

def minorUnitDigitsTable : List (String × ℕ) :=
  [("BIF", 0), ("CLP", 0), ("DJF", 0), ("GNF", 0), ("JPY", 0), ("KMF", 0), ("KRW", 0), ("MGA", 0), ("PYG", 0),
    ("RWF", 0), ("UGX", 0), ("VND", 0), ("VUV", 0), ("XAF", 0), ("XOF", 0), ("XPF", 0), ("BHD", 3), ("IQD", 3),
    ("JOD", 3), ("KWD", 3), ("LYD", 3), ("OMR", 3), ("TND", 3)]

def minorUnitDigits (currency : String) : ℕ := (minorUnitDigitsTable.lookup (toUpperCase currency)).getD 2

/-- Parse a decimal that a person entered into minor units. -/
def fromDecimalString (value currency : String) : Except Failure Money :=
  match Decimal.ofString? (trim value) with
  | none => .error (moneyError ("Invalid decimal amount: \"" ++ value ++ "\""))
  | some decimal =>
    let factor := 10 ^ minorUnitDigits currency
    money ((Double.ofRat decimal.value).scale factor).round currency

/-- The amount, or the message of a `MoneyError`. -/
def parseUsdAmount (input : String) : Except Failure (String ⊕ ℤ) :=
  match fromDecimalString input "USD" with
  | .ok amount => .ok (.inr amount.amount)
  | .error (.money message) => .ok (.inl message)
  | .error e => .error e

/-- What a form of the admin pages gets back. -/
inductive ActionState where
  | error (message : String)
  | success (message : String)
deriving DecidableEq

/-- `String(formData.get(name) ?? "").trim()`. -/
def trimmed (field : Option String) : String := trim (field.getD "")

/-- `text || undefined`. -/
def orUndefined (text : String) : Option String := if text = "" then none else some text

/-- An `AppError` becomes the message of the form, anything else is rethrown. -/
def reportAppError {α : Type} (message : String) : Except Failure α → Except Failure ActionState
  | .ok _ => .ok (.success message)
  | .error (.app _ _ message _) => .ok (.error message)
  | .error e => .error e

structure ProductForm where
  productGroupId : Option String
  name : Option String
  slug : Option String
  description : Option String
  monthlyPrice : Option String

def ProductForm.input (form : ProductForm) : ProductInput :=
  { productGroupId := form.productGroupId.getD ""
    name := trimmed form.name
    slug := trimmed form.slug
    description := orUndefined (trimmed form.description) }

/-- The price of the product: USD, by the month. -/
def monthlyPriceInput (productId : Id) (price : ℤ) : SetProductPriceInput :=
  { productId := productId, currency := "USD", billingCycle := .monthly, price := .integer price }

/-- The body of the action: the product, and its price where the form has one. -/
def submitProduct (env : Env) (actor : StaffActor) (form : ProductForm) (price : ℤ) : Db Unit := do
  let product ← createProduct env actor form.input
  if trimmed form.monthlyPrice = "" then return ()
  else do
    let _ ← setProductPrice (env.drawn 1) actor (monthlyPriceInput product.id price)
    return ()

/-- Handle a product form of a signed-in staff member. -/
def createProductAction (env : Env) (actor : StaffActor) (form : ProductForm) (s : Store) :
    Store × Except Failure ActionState :=
  if form.input.productGroupId = "" ∨ form.input.name = "" ∨ form.input.slug = "" then
    (s, .ok (.error "Group, name, and slug are required."))
  else
    match (if trimmed form.monthlyPrice = "" then .ok (.inr 0) else parseUsdAmount (trimmed form.monthlyPrice)) with
    | .error e => (s, .error e)
    | .ok (.inl message) => (s, .ok (.error message))
    | .ok (.inr price) =>
      let outcome := (submitProduct env actor form price).run s
      (outcome.1, reportAppError "Product created." outcome.2)

structure PaymentForm where
  invoiceId : Option String
  amount : Option String
  reference : Option String

/-- Handle a payment form of a signed-in staff member. -/
def markInvoicePaidAction (env : Env) (actor : StaffActor) (form : PaymentForm) (s : Store) :
    Store × Except Failure ActionState :=
  if form.invoiceId.getD "" = "" ∨ trimmed form.amount = "" then (s, .ok (.error "Amount is required."))
  else
    match parseUsdAmount (trimmed form.amount) with
    | .error e => (s, .error e)
    | .ok (.inl message) => (s, .ok (.error message))
    | .ok (.inr amount) =>
      let outcome := (markInvoicePaidManually env actor (form.invoiceId.getD "")
        { amount := .integer amount
          reference := orUndefined (trimmed form.reference)
          reason := some "manual_bank_transfer" }).run s
      (outcome.1, reportAppError "Payment recorded." outcome.2)

theorem toList_trim (s : String) :
    (trim s).toList = (s.toList.dropWhile isWhiteSpace).rdropWhile isWhiteSpace := by
  rw [trim, String.toList_ofList]
  rfl

theorem trim_trim (s : String) : trim (trim s) = trim s := by
  apply String.toList_injective
  rw [toList_trim, toList_trim]
  -- what is left starts with no white space, or is empty
  have hstart : ((s.toList.dropWhile isWhiteSpace).rdropWhile isWhiteSpace).dropWhile isWhiteSpace =
      (s.toList.dropWhile isWhiteSpace).rdropWhile isWhiteSpace := by
    refine List.dropWhile_eq_self_iff.mpr (fun hpos => ?_)
    have hstem := List.rdropWhile_prefix isWhiteSpace (l := s.toList.dropWhile isWhiteSpace)
    have hlong := hpos.trans_le hstem.length_le
    rw [hstem.getElem hpos]
    exact List.dropWhile_get_zero_not isWhiteSpace s.toList hlong
  rw [hstart]
  exact List.rdropWhile_idempotent _ _

/-- A decimal with a sign is negative unless it rounds to zero, one without a sign
is not. -/
theorem fromDecimalString_nonneg_iff {value currency : String} {amount : Money}
    (h : fromDecimalString value currency = .ok amount) :
    0 ≤ amount.amount ↔ ((trim value).toList.head? = some '-' → amount.amount = 0) := by
  unfold fromDecimalString at h
  cases hd : Decimal.ofString? (trim value) with
  | none =>
    rw [hd] at h
    cases h
  | some decimal =>
    rw [hd] at h
    obtain ⟨n, hn, _, rfl⟩ := money_ok_iff.mp h
    change 0 ≤ n ↔ (_ → n = 0)
    by_cases hsign : (trim value).toList.head? = some '-'
    · have hnonpos := Double.round_scale_nonpos (Decimal.value_nonpos hd hsign) hn
      constructor
      · intro hnonneg _
        omega
      · intro hzero
        exact (hzero hsign).ge
    · have hnonneg := Double.round_scale_nonneg (Decimal.value_nonneg hd hsign) hn
      exact iff_of_true hnonneg (fun hs => absurd hs hsign)

theorem parseUsdAmount_ok_iff {text : String} {amount : ℤ} :
    parseUsdAmount text = .ok (.inr amount) ↔ ∃ m, fromDecimalString text "USD" = .ok m ∧ m.amount = amount := by
  unfold parseUsdAmount
  constructor
  · intro h
    split at h
    case h_1 m hm =>
      cases h
      exact ⟨m, hm, rfl⟩
    case h_2 => cases h
    case h_3 => cases h
  · rintro ⟨m, hm, rfl⟩
    rw [hm]

theorem parseUsdAmount_nonneg_iff {field : Option String} {amount : ℤ}
    (h : parseUsdAmount (trimmed field) = .ok (.inr amount)) :
    0 ≤ amount ↔ ((trimmed field).toList.head? = some '-' → amount = 0) := by
  obtain ⟨m, hm, rfl⟩ := parseUsdAmount_ok_iff.mp h
  have hiff := fromDecimalString_nonneg_iff hm
  rw [trimmed, trim_trim] at hiff
  exact hiff

end HostPanel.Model
