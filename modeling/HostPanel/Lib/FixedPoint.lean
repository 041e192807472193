import Mathlib.Data.List.TakeWhile
import HostPanel.Lib.Rounding

namespace HostPanel.Lib

namespace Decimal

/-- The decimal `n / 10 ^ digits`, with that many digits behind the point. -/
def ofFixed (negative : Bool) (n digits : ℕ) : Decimal :=
  let cs := (Nat.toDigits 10 n).leftpad (digits + 1) '0'
  ⟨negative, cs.take (cs.length - digits), cs.drop (cs.length - digits)⟩

/-- A decimal as it is written. -/
def chars (d : Decimal) : List Char :=
  (if d.negative then ['-'] else []) ++ d.whole ++ if d.fraction = [] then [] else '.' :: d.fraction

/-- A decimal whose parts are digits, at least one before the point. -/
structure Written (d : Decimal) : Prop where
  whole_ne_nil : d.whole ≠ []
  whole_digits : ∀ c ∈ d.whole, c.isDigit = true
  fraction_digits : ∀ c ∈ d.fraction, c.isDigit = true

theorem ofDigits?_whole {negative : Bool} {whole : List Char} (hne : whole ≠ []) (hwhole : ∀ c ∈ whole, c.isDigit = true) :
    ofDigits? negative whole = some ⟨negative, whole, []⟩ := by
  have htake : whole.takeWhile Char.isDigit = whole := List.takeWhile_eq_self_iff.mpr hwhole
  have hdrop : whole.dropWhile Char.isDigit = [] := List.dropWhile_eq_nil_iff.mpr hwhole
  obtain ⟨c, cs, rfl⟩ := List.exists_cons_of_ne_nil hne
  rw [ofDigits?, htake, hdrop]

theorem ofDigits?_point {negative : Bool} {whole fraction : List Char} (hne : whole ≠ [])
    (hwhole : ∀ c ∈ whole, c.isDigit = true) (hfraction : fraction ≠ []) (hdigits : ∀ c ∈ fraction, c.isDigit = true) :
    ofDigits? negative (whole ++ '.' :: fraction) = some ⟨negative, whole, fraction⟩ := by
  have htake : (whole ++ '.' :: fraction).takeWhile Char.isDigit = whole := by
    rw [List.takeWhile_append_of_pos hwhole, List.takeWhile_cons_of_neg (by decide), List.append_nil]
  have hdrop : (whole ++ '.' :: fraction).dropWhile Char.isDigit = '.' :: fraction := by
    rw [List.dropWhile_append_of_pos hwhole, List.dropWhile_cons_of_neg (by decide)]
  obtain ⟨c, cs, rfl⟩ := List.exists_cons_of_ne_nil hne
  rw [ofDigits?, htake, hdrop]
  exact if_pos ⟨rfl, hfraction, List.all_eq_true.mpr hdigits⟩

theorem ofDigits?_chars {d : Decimal} (h : d.Written) :
    ofDigits? d.negative (d.whole ++ if d.fraction = [] then [] else '.' :: d.fraction) = some d := by
  by_cases hfraction : d.fraction = []
  · rw [if_pos hfraction, List.append_nil, ofDigits?_whole h.whole_ne_nil h.whole_digits, ← hfraction]
  · rw [if_neg hfraction, ofDigits?_point h.whole_ne_nil h.whole_digits hfraction h.fraction_digits]

/-- What is written is read back. -/
theorem ofString?_chars {d : Decimal} (h : d.Written) : ofString? (String.ofList d.chars) = some d := by
  have hdigits := ofDigits?_chars h
  rw [ofString?, String.toList_ofList, chars]
  cases hnegative : d.negative with
  | true =>
    rw [hnegative] at hdigits
    exact hdigits
  | false =>
    rw [hnegative] at hdigits
    obtain ⟨c, cs, hcs⟩ := List.exists_cons_of_ne_nil h.whole_ne_nil
    have hc : c ≠ '-' := by
      rintro rfl
      exact absurd (h.whole_digits '-' (by rw [hcs]; exact List.mem_cons_self)) (by decide)
    rw [hcs] at hdigits ⊢
    simp only [Bool.false_eq_true, if_false, List.nil_append, List.cons_append]
    split
    · rename_i cs' heq
      injection heq with hhead
      exact absurd hhead hc
    · exact hdigits

theorem isDigit_leftpad {n width : ℕ} : ∀ c ∈ (Nat.toDigits 10 n).leftpad width '0', c.isDigit = true := by
  intro c hc
  rw [List.leftpad, List.mem_append] at hc
  obtain hc | hc := hc
  · rw [List.eq_of_mem_replicate hc]
    decide
  · exact Nat.isDigit_of_mem_toDigits (by decide) le_rfl hc

theorem lt_length_leftpad (n digits : ℕ) : digits < ((Nat.toDigits 10 n).leftpad (digits + 1) '0').length := by
  rw [List.length_leftpad]
  exact lt_of_lt_of_le (Nat.lt_succ_self digits) (le_max_left _ _)

theorem ofFixed_written (negative : Bool) (n digits : ℕ) : (ofFixed negative n digits).Written where
  whole_ne_nil := by
    have hlength := lt_length_leftpad n digits
    intro hnil
    have hzero := congrArg List.length hnil
    simp only [ofFixed, List.length_take, List.length_nil] at hzero
    omega
  whole_digits c hc := isDigit_leftpad c (List.mem_of_mem_take hc)
  fraction_digits c hc := isDigit_leftpad c (List.mem_of_mem_drop hc)

theorem ofFixed_fraction_length (negative : Bool) (n digits : ℕ) : (ofFixed negative n digits).fraction.length = digits := by
  have hlength := lt_length_leftpad n digits
  simp only [ofFixed, List.length_drop]
  omega

theorem ofFixed_value (negative : Bool) (n digits : ℕ) :
    (ofFixed negative n digits).value = (if negative then -1 else 1) * (n / 10 ^ digits) := by
  have hdigits : Nat.ofDigitChars 10 ((Nat.toDigits 10 n).leftpad (digits + 1) '0') 0 = n := by
    rw [List.leftpad, Nat.ofDigitChars_append, Nat.ofDigitChars_replicate_zero, mul_zero, Nat.ofDigitChars_ten_toDigits]
  rw [value, ofFixed_fraction_length]
  simp only [ofFixed, List.take_append_drop, hdigits]
  rfl

theorem exists_value_mul {d : Decimal} {digits : ℕ} (h : d.fraction.length ≤ digits) :
    ∃ n : ℤ, d.value * 10 ^ digits = n := by
  obtain ⟨k, rfl⟩ := Nat.exists_eq_add_of_le h
  refine ⟨(if d.negative then -1 else 1) * (Nat.ofDigitChars 10 (d.whole ++ d.fraction) 0 * 10 ^ k), ?_⟩
  have hpos : (0 : ℚ) < 10 ^ d.fraction.length := by positivity
  rw [value, pow_add]
  push_cast
  field_simp

end Decimal

/-- `Number.prototype.toFixed`; `text` is how a magnitude from 10^21 on prints. -/
def Double.toFixed (text : ℚ → String) (digits : ℕ) : Double → String
  | finite x =>
    if 10 ^ 21 ≤ |x| then (if x < 0 then "-" else "") ++ text |x|
    else String.ofList (Decimal.ofFixed (x < 0) ⌊|x| * 10 ^ digits + 1 / 2⌋.toNat digits).chars
  | infinite negative => if negative then "-Infinity" else "Infinity"

/-- The product with a positive integer that is a double. -/
def Rounding.scale (R : Rounding) (n : ℕ) : Double → Double
  | .finite x => R.product x n
  | .infinite negative => .infinite negative

theorem Rounding.double_scale (n : ℕ) (d : Double) : Rounding.double.scale n d = d.scale n := by
  cases d <;> rfl

section Exact

variable {n : ℤ} {digits : ℕ}

theorem abs_intCast (n : ℤ) : |(n : ℚ)| = (n.natAbs : ℕ) := by
  rw [← Int.cast_abs, Int.abs_eq_natAbs, Int.cast_natCast]

theorem normal_units (hn : n.natAbs < 2 ^ 40) (hdigits : digits ≤ 3) : Normal ((n : ℚ) / 10 ^ digits) := by
  have hpow : (10 : ℤ) ^ digits ≤ 10 ^ 3 := pow_le_pow_right₀ (by decide) hdigits
  have hnormal := normal_div (a := n) (b := 10 ^ digits) (by omega) (by positivity) (by omega)
  rwa [Int.cast_pow, Int.cast_ofNat] at hnormal

theorem div_pow_low (hdigits : digits ≤ 3) : (n : ℚ) / 10 ^ digits = 0 ∨ 2 ^ (-20 : ℤ) ≤ |(n : ℚ) / 10 ^ digits| := by
  obtain rfl | hne := eq_or_ne n 0
  · exact Or.inl (by simp)
  · right
    have hpos : (0 : ℚ) < 10 ^ digits := by positivity
    have hpow : (10 : ℚ) ^ digits ≤ 10 ^ 3 := pow_le_pow_right₀ (by norm_num) hdigits
    have hone : (1 : ℚ) ≤ |(n : ℚ)| := by
      rw [← Int.cast_abs]
      exact_mod_cast Int.one_le_abs hne
    rw [abs_div, abs_of_pos hpos]
    calc (2 : ℚ) ^ (-20 : ℤ) ≤ 1 / 10 ^ 3 := by norm_num
      _ ≤ |(n : ℚ)| / 10 ^ digits := div_le_div₀ (abs_nonneg _) hone hpos hpow

theorem Close.units {q x : ℚ} (h : Close q x) (hq : |q| < 2 ^ 40) : |x - q| < 1 / 8 := by
  have hxq : |x - q| ≤ |q| / 2 ^ 53 := h
  linarith

/-- Printing an amount of units with its digits behind the point prints the amount
itself: the error of the quotient is too small to matter. -/
theorem toFixed_quotient (D : Division) (text : ℚ → String) (hn : n.natAbs < 2 ^ 38) (hdigits : digits ≤ 3) :
    (D.quotient n (10 ^ digits : ℕ)).toFixed text digits =
      String.ofList (Decimal.ofFixed (n < 0) n.natAbs digits).chars := by
  have hpos : (0 : ℚ) < 10 ^ digits := by positivity
  have hpow : (1 : ℚ) ≤ 10 ^ digits := one_le_pow₀ (by norm_num)
  obtain ⟨x, hx, hclose⟩ := D.quotient_near n (10 ^ digits : ℕ) (by
    rw [Nat.cast_pow, Nat.cast_ofNat]
    exact normal_units (by omega) hdigits)
  rw [Nat.cast_pow, Nat.cast_ofNat] at hclose
  have hunits := hclose.mul_right (10 ^ digits)
  rw [div_mul_cancel₀ _ hpos.ne'] at hunits
  have hsmall : |(n : ℚ)| < 2 ^ 38 := by
    rw [abs_intCast]
    exact_mod_cast hn
  have herror := hunits.units (hsmall.trans (by norm_num))
  have hsign : x < 0 ↔ n < 0 := by
    rw [hclose.neg_iff, div_neg_iff]
    simp [hpos, hpos.not_gt]
  have hscaled : ⌊|x| * 10 ^ digits + 1 / 2⌋ = n.natAbs := by
    have hle := abs_abs_sub_abs_le (x * 10 ^ digits) n
    rw [abs_mul, abs_of_pos hpos, abs_intCast] at hle
    have hbounds := abs_le.mp hle
    rw [Int.floor_eq_iff, Int.cast_natCast]
    constructor <;> linarith
  have hfinite : ¬ 10 ^ 21 ≤ |x| := by
    have hle := hunits.le
    rw [abs_mul, abs_of_pos hpos] at hle
    have hx : |x| ≤ |x| * 10 ^ digits := le_mul_of_one_le_right (abs_nonneg x) hpow
    intro hlarge
    linarith
  rw [hx, Double.toFixed, if_neg hfinite, hscaled, Int.toNat_natCast]
  simp only [hsign]

/-- Reading a decimal and scaling it rounds twice, which moves the result by less
than an eighth. -/
theorem scale_literal_near (R : Rounding) {d : Decimal} (hv : d.value = 0 ∨ 2 ^ (-20 : ℤ) ≤ |d.value|)
    (hsmall : |d.value * 10 ^ digits| < 2 ^ 38) :
    ∃ y, R.scale (10 ^ digits) (R.literal d) = .finite y ∧ |y - d.value * 10 ^ digits| < 1 / 8 := by
  have hpow : (1 : ℚ) ≤ 10 ^ digits := one_le_pow₀ (by norm_num)
  have habs : ∀ x : ℚ, |x * 10 ^ digits| = |x| * 10 ^ digits := fun x => by
    rw [abs_mul, abs_of_pos (lt_of_lt_of_le one_pos hpow)]
  have hgrows : ∀ x : ℚ, |x| ≤ |x * 10 ^ digits| := fun x => by
    rw [habs]
    exact le_mul_of_one_le_right (abs_nonneg x) hpow
  have htop : (2 : ℚ) ^ 39 ≤ 2 ^ 1023 := pow_le_pow_right₀ (by norm_num) (by norm_num)
  have hbottom : (2 : ℚ) ^ (-1022 : ℤ) ≤ 2 ^ (-21 : ℤ) := zpow_le_zpow_right₀ (by norm_num) (by norm_num)
  have hhalf : (2 : ℚ) ^ (-20 : ℤ) = 2 ^ (-21 : ℤ) + 2 ^ (-21 : ℤ) := by norm_num
  have hpositive : (0 : ℚ) < 2 ^ (-21 : ℤ) := by positivity
  have hv39 : |d.value| ≤ 2 ^ 39 := by linarith [hgrows d.value]
  have hnormal : Normal d.value := hv.imp id (fun hlow => ⟨by linarith, hv39.trans htop⟩)
  obtain ⟨x, hx, hclose⟩ := R.literal_near d hnormal
  have hunits := hclose.mul_right (10 ^ digits)
  have hnormal' : Normal (x * 10 ^ digits) := by
    obtain hzero | hlow := hv
    · rw [hzero] at hclose
      rw [hclose.zero, zero_mul]
      exact Or.inl rfl
    · have hxv : |x - d.value| ≤ |d.value| / 2 ^ 53 := hclose
      have hreverse := abs_sub_abs_le_abs_sub d.value x
      rw [abs_sub_comm] at hreverse
      have hx39 : |x * 10 ^ digits| ≤ 2 ^ 39 := by linarith [hunits.le]
      exact Or.inr ⟨by linarith [hgrows x], hx39.trans htop⟩
  obtain ⟨y, hy, hclose'⟩ := R.product_near x (10 ^ digits : ℕ) (by rwa [Nat.cast_pow, Nat.cast_ofNat])
  rw [Nat.cast_pow, Nat.cast_ofNat] at hclose'
  refine ⟨y, by rw [hx, Rounding.scale, hy], ?_⟩
  have herror := hunits.trans hclose'
  linarith

theorem round_scale_literal (R : Rounding) {d : Decimal} (hv : d.value * 10 ^ digits = n) (hn : n.natAbs < 2 ^ 38)
    (hdigits : digits ≤ 3) : (R.scale (10 ^ digits) (R.literal d)).round = .integer n := by
  have hpos : (0 : ℚ) < 10 ^ digits := by positivity
  have hsmall : |d.value * 10 ^ digits| < 2 ^ 38 := by
    rw [hv, abs_intCast]
    exact_mod_cast hn
  have hlow : d.value = 0 ∨ 2 ^ (-20 : ℤ) ≤ |d.value| := by
    rw [(eq_div_iff hpos.ne').mpr hv]
    exact div_pow_low hdigits
  obtain ⟨y, hy, herror⟩ := scale_literal_near R hlow hsmall
  rw [hv] at herror
  rw [hy]
  exact Double.round_of_near (herror.trans (by norm_num))

end Exact

end HostPanel.Lib
