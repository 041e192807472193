import HostPanel.Model.DecimalText
import HostPanel.Model.Services

namespace HostPanel.Model

open HostPanel.Lib HostPanel.Lib.Program

/-- The payment form of an invoice, submitted as the page fills it in. -/
def Invoice.paymentForm (text : ℚ → String) (reference : Option String) (i : Invoice) : PaymentForm :=
  { invoiceId := some i.id, amount := some (i.amountDueDecimal text), reference := reference }

/-- The form is parsed to what is due, and a payment recorded from it settles the
invoice. -/
structure Invoice.RoundTrips (text : ℚ → String) (i : Invoice) : Prop where
  parsed : parseUsdAmount (trimmed (some (i.amountDueDecimal text))) = .ok (.inr i.amountDue.val)
  settled : ∀ env actor reference (s s' : Store), i ∈ s.invoices → i.amountDue.val = i.total.val - i.amountPaid.val →
    markInvoicePaidAction env actor (i.paymentForm text reference) s = (s', .ok (.success "Payment recorded.")) →
    ∃ updated, s'.invoices.find i.id = some updated ∧ updated.status = .paid ∧ updated.amountDue.val = 0

section

variable (text : ℚ → String) (i : Invoice)

theorem amountDue_small : i.amountDue.val.natAbs < 2 ^ 38 := by
  have hle := Int4.natAbs_le i.amountDue
  omega

/-- The decimal that the form starts with. -/
def Invoice.dueDecimal (i : Invoice) : Decimal :=
  Decimal.ofFixed (i.amountDue.val < 0) i.amountDue.val.natAbs (minorUnitDigits i.currency)

theorem ofString?_amountDueDecimal :
    Decimal.ofString? (trim (trimmed (some (i.amountDueDecimal text)))) = some i.dueDecimal := by
  rw [trimmed, trim_trim]
  exact ofString?_toDecimalStringWith _ text (m := ⟨i.amountDue.val, i.currency⟩) (amountDue_small i)

theorem dueDecimal_value : i.dueDecimal.value = i.amountDue.val / 10 ^ minorUnitDigits i.currency :=
  value_ofFixed_natAbs _ _

theorem parseUsdAmount_amountDueDecimal {amount : ℤ} :
    parseUsdAmount (trimmed (some (i.amountDueDecimal text))) = .ok (.inr amount) ↔
      (Rounding.double.scale (10 ^ 2) (Rounding.double.literal i.dueDecimal)).round = .integer amount := by
  have hdigits : minorUnitDigits "USD" = 2 := by decide
  have hcode : isCurrencyCode "USD" = true := by decide
  rw [parseUsdAmount_ok_iff, ← fromDecimalStringWith_double, fromDecimalStringWith, ofString?_amountDueDecimal]
  simp only [hdigits, money_ok_iff, hcode, true_and]
  constructor
  · rintro ⟨m, ⟨n, hn, rfl⟩, rfl⟩
    exact hn
  · intro hround
    exact ⟨_, ⟨amount, hround, rfl⟩, rfl⟩

theorem round_dueDecimal {n : ℤ} (h : i.dueDecimal.value * 10 ^ 2 = n) (hn : n.natAbs < 2 ^ 38) {amount : ℤ} :
    (Rounding.double.scale (10 ^ 2) (Rounding.double.literal i.dueDecimal)).round = .integer amount ↔ amount = n := by
  rw [round_scale_literal Rounding.double h hn (by decide)]
  constructor
  · intro heq
    exact (Number.integer.inj heq).symm
  · rintro rfl
    rfl

theorem eq_zero_of_round_tenth {n : ℤ} {y : ℚ} (hy : |y - n / 10| < 1 / 8) (hround : ⌊y + 1 / 2⌋ = n) : n = 0 := by
  have hbounds := abs_lt.mp hy
  obtain ⟨hlow, hhigh⟩ := Int.floor_eq_iff.mp hround
  have hlt : (n : ℚ) < 1 := by linarith
  have hgt : (-1 : ℚ) < n := by linarith
  have hlt' : n < 1 := by exact_mod_cast hlt
  have hgt' : -1 < n := by exact_mod_cast hgt
  omega

/-- Thousandths are read as hundredths. -/
theorem round_dueDecimal_mils_iff (hdigits : minorUnitDigits i.currency = 3) :
    (Rounding.double.scale (10 ^ 2) (Rounding.double.literal i.dueDecimal)).round = .integer i.amountDue.val ↔
      i.amountDue.val = 0 := by
  have hvalue := dueDecimal_value i
  rw [hdigits] at hvalue
  have hlow : i.dueDecimal.value = 0 ∨ 2 ^ (-20 : ℤ) ≤ |i.dueDecimal.value| := by
    rw [hvalue]
    exact div_pow_low le_rfl
  have htenth : i.dueDecimal.value * 10 ^ 2 = i.amountDue.val / 10 := by
    rw [hvalue]
    ring
  have hbound : |i.dueDecimal.value * 10 ^ 2| < 2 ^ 38 := by
    have hdue : |(i.amountDue.val : ℚ)| ≤ 2 ^ 31 := by
      rw [abs_intCast]
      exact_mod_cast Int4.natAbs_le i.amountDue
    rw [htenth, abs_div, abs_of_pos (by norm_num : (0 : ℚ) < 10)]
    linarith
  obtain ⟨y, hy, herror⟩ := scale_literal_near Rounding.double hlow hbound
  rw [htenth] at herror
  rw [hy, Double.round, Number.integer.injEq]
  constructor
  · intro hround
    exact eq_zero_of_round_tenth herror hround
  · intro hzero
    rw [hzero] at herror ⊢
    have hbounds := abs_lt.mp herror
    exact Int.floor_eq_iff.mpr ⟨by push_cast at hbounds ⊢; linarith, by push_cast at hbounds ⊢; linarith⟩

/-- The form is parsed to what is due just for the currencies with cents, and when
nothing is due. -/
theorem parsed_iff :
    parseUsdAmount (trimmed (some (i.amountDueDecimal text))) = .ok (.inr i.amountDue.val) ↔
      minorUnitDigits i.currency = 2 ∨ i.amountDue.val = 0 := by
  rw [parseUsdAmount_amountDueDecimal]
  have hsmall := Int4.natAbs_le i.amountDue
  have hvalue := dueDecimal_value i
  obtain hdigits | hdigits | hdigits := minorUnitDigits_cases i.currency
  · have hunits : i.dueDecimal.value * 10 ^ 2 = (i.amountDue.val * 100 : ℤ) := by
      rw [hvalue, hdigits]
      push_cast
      ring
    rw [round_dueDecimal i hunits (by omega), hdigits]
    omega
  · have hunits : i.dueDecimal.value * 10 ^ 2 = (i.amountDue.val : ℤ) := by
      rw [hvalue, hdigits, div_mul_cancel₀ _ (by norm_num)]
    rw [round_dueDecimal i hunits (by omega)]
    exact iff_of_true rfl (Or.inl hdigits)
  · have htwo : minorUnitDigits i.currency ≠ 2 := by omega
    rw [round_dueDecimal_mils_iff i hdigits, or_iff_right htwo]

end

theorem reportAppError_success {α : Type} {message : String} {x : Except Failure α}
    (h : reportAppError message x = .ok (.success message)) : ∃ a, x = .ok a := by
  unfold reportAppError at h
  split at h
  · exact ⟨_, rfl⟩
  · cases h
  · cases h

theorem settled_of_parsed {text : ℚ → String} {i : Invoice}
    (hparsed : parseUsdAmount (trimmed (some (i.amountDueDecimal text))) = .ok (.inr i.amountDue.val))
    {env : Env} {actor : StaffActor} {reference : Option String} {s s' : Store} (hi : i ∈ s.invoices)
    (hbalance : i.amountDue.val = i.total.val - i.amountPaid.val)
    (h : markInvoicePaidAction env actor (i.paymentForm text reference) s = (s', .ok (.success "Payment recorded."))) :
    ∃ updated, s'.invoices.find i.id = some updated ∧ updated.status = .paid ∧ updated.amountDue.val = 0 := by
  unfold markInvoicePaidAction at h
  split at h
  · cases h
  · simp only [Invoice.paymentForm, hparsed, Option.getD_some] at h
    obtain ⟨hstore, hreport⟩ := Prod.mk.inj h
    obtain ⟨updated, hok⟩ := reportAppError_success hreport
    obtain ⟨c, hev⟩ := run_ok_iff.mp (Prod.ext hstore hok)
    obtain ⟨_, invoice, amount, paid, due, status, hpaid⟩ := markInvoicePaidManually_ok hev
    obtain rfl : invoice = i := Table.eq_of_mem (Table.mem_of_find hpaid.found) hi (Table.key_of_find hpaid.found)
    cases hpaid.amount_eq
    have hpayment := hpaid.payment
    have hpaid_eq := hpayment.paid_eq
    have hdue_eq := hpayment.due_eq
    have hzero : due.val = 0 := by omega
    have hstatus : status = .paid := by rw [hpayment.status_eq, if_pos hzero]
    have hfind := Table.find_modify_self s.invoices invoice.id
      (Invoice.withPayment paid due status (Payment.paidAt env invoice status))
      (Invoice.withPayment_id paid due status (Payment.paidAt env invoice status))
    rw [hpaid.found] at hfind
    refine ⟨invoice.withPayment paid due status (Payment.paidAt env invoice status), ?_, hstatus, hzero⟩
    rw [hpaid.after.invoices]
    exact hfind

/-- The form round-trips just for the invoices in a currency with cents, and those
with nothing due. -/
theorem amount_due_round_trips_iff (text : ℚ → String) (i : Invoice) :
    i.RoundTrips text ↔ minorUnitDigits i.currency = 2 ∨ i.amountDue.val = 0 := by
  rw [← parsed_iff text i]
  constructor
  · intro h
    exact h.parsed
  · intro hparsed
    exact ⟨hparsed, fun _ _ _ _ _ hi hbalance h => settled_of_parsed hparsed hi hbalance h⟩

namespace Sample

/-- The shop with its price in Kuwaiti dinars, which have a thousand units each. -/
def dinarShop : Store :=
  { shop 0 with productPrices := (∅ : Table ProductPrice.id).insert { price 0 with currency := "KWD" } }

def dinarOrder : Call := .createOrder (env "a") (.staff staff) { twoMonths with currency := "KWD" }

/-- The order for two dinars, invoiced. -/
def dinarSale : List Call :=
  [dinarOrder, .issueInvoiceForOrder (env "b")
    ((((dinarOrder.after dinarShop).orders.find "id-a0").get (by decide +kernel))) staff.transitionActor]

def dinarBilled : Store := runCalls dinarShop dinarSale

def dinarInvoice : Invoice := (dinarBilled.invoices.find "id-b0").get (by decide +kernel)

end Sample

open Sample in
/-- Two dinars are due. The page fills in `2.000`, and 200 of the 2000 units are
recorded as paid. -/
theorem dinar_payment_falls_short :
    dinarInvoice.amountDue.val = 2000 ∧ dinarInvoice.amountDueDecimal toString = "2.000" ∧
      (markInvoicePaidAction (env "c") staff (dinarInvoice.paymentForm toString none) dinarBilled).1.invoices.rows.map
        (fun i => (i.status, i.amountPaid.val, i.amountDue.val)) = [(.partiallyPaid, 200, 1800)] ∧
      ¬ dinarInvoice.RoundTrips toString := by
  have hdue : dinarInvoice.amountDue.val = 2000 := by decide +kernel
  have hdigits : minorUnitDigits dinarInvoice.currency = 3 := by decide +kernel
  refine ⟨hdue, by decide +kernel, by decide +kernel, fun h => ?_⟩
  obtain hcents | hzero := (parsed_iff toString dinarInvoice).mp h.parsed
  · rw [hdigits] at hcents
    cases hcents
  · rw [hdue] at hzero
    cases hzero

end HostPanel.Model
