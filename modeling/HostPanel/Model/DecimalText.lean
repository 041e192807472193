import HostPanel.Lib.FixedPoint
import HostPanel.Model.Admin

namespace HostPanel.Model

open HostPanel.Lib

/-- `fromDecimalString` for any rounding of the literal and the product. -/
def fromDecimalStringWith (R : Rounding) (value currency : String) : Except Failure Money :=
  match Decimal.ofString? (trim value) with
  | none => .error (moneyError ("Invalid decimal amount: \"" ++ value ++ "\""))
  | some decimal =>
    let factor := 10 ^ minorUnitDigits currency
    money (R.scale factor (R.literal decimal)).round currency

/-- `toDecimalString` for any rounding of the quotient. -/
def toDecimalStringWith (D : Division) (text : ℚ → String) (m : Money) : String :=
  let digits := minorUnitDigits m.currency
  let factor := 10 ^ digits
  (D.quotient m.amount (factor : ℕ)).toFixed text digits

/-- Print an amount as a decimal; `text` is how a number from 10^21 on prints. -/
def toDecimalString (text : ℚ → String) (m : Money) : String :=
  toDecimalStringWith Rounding.double.toDivision text m

/-- The amount that the admin page of an invoice fills in to be paid. -/
def Invoice.amountDueDecimal (text : ℚ → String) (i : Invoice) : String :=
  toDecimalString text ⟨i.amountDue.val, i.currency⟩

theorem fromDecimalStringWith_double (value currency : String) :
    fromDecimalStringWith Rounding.double value currency = fromDecimalString value currency := by
  unfold fromDecimalStringWith fromDecimalString
  cases Decimal.ofString? (trim value) with
  | none => rfl
  | some decimal =>
    simp only [Rounding.double_scale]
    rfl

theorem minorUnitDigits_cases (currency : String) :
    minorUnitDigits currency = 0 ∨ minorUnitDigits currency = 2 ∨ minorUnitDigits currency = 3 := by
  rw [minorUnitDigits]
  cases hlookup : minorUnitDigitsTable.lookup (toUpperCase currency) with
  | none => exact Or.inr (Or.inl rfl)
  | some digits =>
    have htable : ∀ entry ∈ minorUnitDigitsTable, entry.2 = 0 ∨ entry.2 = 2 ∨ entry.2 = 3 := by decide
    obtain ⟨before, after, hsplit, _⟩ := List.lookup_eq_some_iff.mp hlookup
    exact htable (toUpperCase currency, digits) (by rw [hsplit]; exact List.mem_append_right _ List.mem_cons_self)

theorem minorUnitDigits_le (currency : String) : minorUnitDigits currency ≤ 3 := by
  obtain h | h | h := minorUnitDigits_cases currency <;> omega

theorem trim_of_no_white_space {s : String} (h : ∀ c ∈ s.toList, isWhiteSpace c = false) : trim s = s := by
  apply String.toList_injective
  have hstart : s.toList.dropWhile isWhiteSpace = s.toList := by
    refine List.dropWhile_eq_self_iff.mpr (fun hpos => ?_)
    rw [h _ (List.getElem_mem hpos)]
    decide
  rw [toList_trim, hstart, List.rdropWhile_eq_self_iff]
  intro hne
  rw [h _ (List.getLast_mem hne)]
  decide

theorem isWhiteSpace_of_isDigit {c : Char} (h : c.isDigit = true) : isWhiteSpace c = false := by
  have hbounds : 48 ≤ c.toNat ∧ c.toNat ≤ 57 := by
    simpa [Char.isDigit, UInt32.le_iff_toNat_le] using h
  have hlow : ¬ (8192 ≤ c.toNat) := by omega
  have houtside : ∀ n ∈ [9, 10, 11, 12, 13, 32, 160, 5760, 8232, 8233, 8239, 8287, 12288, 65279], ¬ (48 ≤ n ∧ n ≤ 57) := by
    decide
  simp only [isWhiteSpace, Bool.or_eq_false_iff, decide_eq_false_iff_not, Bool.and_eq_false_iff]
  exact ⟨fun hmem => houtside _ hmem hbounds, Or.inl hlow⟩

/-- A printed decimal has no white space around it. -/
theorem trim_chars {d : Decimal} (h : d.Written) : trim (String.ofList d.chars) = String.ofList d.chars := by
  refine trim_of_no_white_space (fun c hc => ?_)
  rw [String.toList_ofList, Decimal.chars] at hc
  simp only [List.mem_append] at hc
  obtain (hc | hc) | hc := hc
  · split at hc
    · rw [List.mem_singleton.mp hc]
      decide
    · cases hc
  · exact isWhiteSpace_of_isDigit (h.whole_digits c hc)
  · split at hc
    · cases hc
    · obtain rfl | hc := List.mem_cons.mp hc
      · decide
      · exact isWhiteSpace_of_isDigit (h.fraction_digits c hc)

theorem fromDecimalStringWith_exact (R : Rounding) {value currency : String} {decimal : Decimal} {n : ℤ}
    (hcurrency : isCurrencyCode currency = true) (hdecimal : Decimal.ofString? (trim value) = some decimal)
    (hvalue : decimal.value * 10 ^ minorUnitDigits currency = n) (hn : n.natAbs < 2 ^ 38) :
    fromDecimalStringWith R value currency = .ok ⟨n, toUpperCase currency⟩ := by
  have hround := round_scale_literal R hvalue hn (minorUnitDigits_le currency)
  simp only [fromDecimalStringWith, hdecimal]
  exact money_ok_iff.mpr ⟨n, hround, hcurrency, rfl⟩

theorem toDecimalStringWith_eq (D : Division) (text : ℚ → String) {m : Money} (hm : m.amount.natAbs < 2 ^ 38) :
    toDecimalStringWith D text m =
      String.ofList (Decimal.ofFixed (m.amount < 0) m.amount.natAbs (minorUnitDigits m.currency)).chars :=
  toFixed_quotient D text hm (minorUnitDigits_le m.currency)

theorem ofString?_toDecimalStringWith (D : Division) (text : ℚ → String) {m : Money} (hm : m.amount.natAbs < 2 ^ 38) :
    Decimal.ofString? (trim (toDecimalStringWith D text m)) =
      some (Decimal.ofFixed (m.amount < 0) m.amount.natAbs (minorUnitDigits m.currency)) := by
  have hwritten := Decimal.ofFixed_written (m.amount < 0) m.amount.natAbs (minorUnitDigits m.currency)
  rw [toDecimalStringWith_eq D text hm, trim_chars hwritten, Decimal.ofString?_chars hwritten]

theorem value_ofFixed_natAbs (n : ℤ) (digits : ℕ) :
    (Decimal.ofFixed (n < 0) n.natAbs digits).value = n / 10 ^ digits := by
  have habs : ((n.natAbs : ℕ) : ℚ) = |(n : ℚ)| := (abs_intCast n).symm
  rw [Decimal.ofFixed_value, habs]
  by_cases hneg : n < 0
  · have hq : (n : ℚ) < 0 := by exact_mod_cast hneg
    rw [if_pos (decide_eq_true hneg), abs_of_neg hq]
    ring
  · have hq : (0 : ℚ) ≤ n := by exact_mod_cast not_lt.mp hneg
    rw [if_neg (by rw [decide_eq_true_iff]; exact hneg), abs_of_nonneg hq, one_mul]

end HostPanel.Model
