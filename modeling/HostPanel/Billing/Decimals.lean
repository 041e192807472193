import HostPanel.Model.DecimalText

namespace HostPanel.Billing

open HostPanel.Lib HostPanel.Model

section

variable (R : Rounding) {currency : String} (hcurrency : isCurrencyCode currency = true)
include hcurrency

theorem fromDecimalString_toDecimalString (text : ℚ → String) {amount : ℤ} (hamount : |amount| < 2 ^ 31) :
    ∃ m, money (.integer amount) currency = .ok m ∧
      fromDecimalStringWith R (toDecimalStringWith R.toDivision text m) m.currency = .ok m := by
  have hsmall : amount.natAbs < 2 ^ 38 := by
    rw [Int.abs_eq_natAbs] at hamount
    omega
  have hpos : (0 : ℚ) < 10 ^ minorUnitDigits (toUpperCase currency) := by positivity
  have hdecimal := ofString?_toDecimalStringWith R.toDivision text (m := ⟨amount, toUpperCase currency⟩) hsmall
  have hvalue := value_ofFixed_natAbs amount (minorUnitDigits (toUpperCase currency))
  have hparsed := fromDecimalStringWith_exact R (isCurrencyCode_toUpperCase hcurrency) hdecimal
    (by rw [hvalue, div_mul_cancel₀ _ hpos.ne']) hsmall
  rw [toUpperCase_toUpperCase hcurrency] at hparsed
  exact ⟨⟨amount, toUpperCase currency⟩, money_ok_iff.mpr ⟨amount, rfl, hcurrency, rfl⟩, hparsed⟩

theorem fromDecimalString_of_digits {value : String} {decimal : Decimal}
    (hdecimal : Decimal.ofString? (trim value) = some decimal)
    (hdigits : decimal.fraction.length ≤ minorUnitDigits currency)
    (hsmall : |decimal.value * 10 ^ minorUnitDigits currency| < 2 ^ 31) :
    ∃ amount : ℤ, (amount : ℚ) = decimal.value * 10 ^ minorUnitDigits currency ∧
      fromDecimalStringWith R value currency = .ok ⟨amount, toUpperCase currency⟩ := by
  obtain ⟨amount, hamount⟩ := Decimal.exists_value_mul hdigits
  rw [hamount, abs_intCast] at hsmall
  have hbound : amount.natAbs < 2 ^ 31 := by exact_mod_cast hsmall
  exact ⟨amount, hamount.symm, fromDecimalStringWith_exact R hcurrency hdecimal hamount (by omega)⟩

end

/-- Decimal texts and minor units convert into each other exactly: an amount that is
printed and parsed is the same, and a text with no more digits behind the point
than the currency has is parsed to exactly what it says. -/
theorem decimal_text_exact (R : Rounding) (text : ℚ → String) {currency : String}
    (hcurrency : isCurrencyCode currency = true) :
    (∀ amount : ℤ, |amount| < 2 ^ 31 →
      ∃ m, money (.integer amount) currency = .ok m ∧
        fromDecimalStringWith R (toDecimalStringWith R.toDivision text m) m.currency = .ok m) ∧
      ∀ value decimal, Decimal.ofString? (trim value) = some decimal →
        decimal.fraction.length ≤ minorUnitDigits currency →
        |decimal.value * 10 ^ minorUnitDigits currency| < 2 ^ 31 →
        ∃ amount : ℤ, (amount : ℚ) = decimal.value * 10 ^ minorUnitDigits currency ∧
          fromDecimalStringWith R value currency = .ok ⟨amount, toUpperCase currency⟩ :=
  ⟨fun _ hamount => fromDecimalString_toDecimalString R hcurrency text hamount,
    fun _ _ hdecimal hdigits hsmall => fromDecimalString_of_digits R hcurrency hdecimal hdigits hsmall⟩

/-- Five cents owed, and a typed price. -/
theorem decimal_text_exact_cents :
    (∃ m, money (.integer (-5)) "usd" = .ok m ∧
      fromDecimalStringWith Rounding.double (toDecimalStringWith Rounding.double.toDivision toString m) m.currency = .ok m) ∧
    fromDecimalStringWith Rounding.double " 19.5 " "usd" = .ok ⟨1950, "USD"⟩ := by
  obtain ⟨hprinted, hparsed⟩ := decimal_text_exact Rounding.double toString (show isCurrencyCode "usd" = true by decide)
  have hdecimal : Decimal.ofString? (trim " 19.5 ") = some ⟨false, ['1', '9'], ['5']⟩ := by decide +kernel
  have hvalue : (⟨false, ['1', '9'], ['5']⟩ : Decimal).value * 10 ^ minorUnitDigits "usd" = 1950 := by decide +kernel
  obtain ⟨amount, hamount, hresult⟩ := hparsed _ _ hdecimal (by decide) (by rw [hvalue]; norm_num)
  have hcents : amount = 1950 := by
    rw [hvalue] at hamount
    exact_mod_cast hamount
  rw [hcents] at hresult
  exact ⟨hprinted (-5) (by decide), hresult⟩

end HostPanel.Billing
