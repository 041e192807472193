import Mathlib.Tactic.FieldSimp
import Mathlib.Tactic.Ring
import HostPanel.Lib.Decimal

namespace HostPanel.Lib

/-- A value within the relative error of one rounding. -/
def Close (q x : ℚ) : Prop := |x - q| ≤ |q| / 2 ^ 53

/-- Zero, and the magnitudes where a double has its full precision. -/
def Normal (q : ℚ) : Prop := q = 0 ∨ (2 ^ (-1022 : ℤ) ≤ |q| ∧ |q| ≤ 2 ^ 1023)

/-- A double within the relative error of one rounding. -/
def Double.Near (q : ℚ) (d : Double) : Prop := ∃ x, d = .finite x ∧ Close q x

/-- Quotients of doubles, as far as their relative error goes. -/
structure Division where
  quotient : ℚ → ℚ → Double
  quotient_near : ∀ a b, Normal (a / b) → (quotient a b).Near (a / b)

/-- Quotients of integers that come out even are exact up to 2^53. -/
def Division.Exact (D : Division) : Prop :=
  ∀ a b k : ℤ, b ≠ 0 → a = k * b → k.natAbs ≤ 2 ^ 53 → D.quotient a b = .finite k

/-- Quotients of integers that are multiples of a half are exact as well. -/
def Division.ExactHalves (D : Division) : Prop :=
  ∀ a b k : ℤ, b ≠ 0 → 2 * a = k * b → k.natAbs ≤ 2 ^ 53 → D.quotient a b = .finite (k / 2)

/-- Quotients, products and decimal literals, as far as their relative error
goes. -/
structure Rounding extends Division where
  product : ℚ → ℚ → Double
  literal : Decimal → Double
  product_near : ∀ a b, Normal (a * b) → (product a b).Near (a * b)
  literal_near : ∀ d : Decimal, Normal d.value → (literal d).Near d.value

theorem Close.zero {x : ℚ} (h : Close 0 x) : x = 0 := by
  rw [Close, abs_zero, zero_div, sub_zero] at h
  exact abs_nonpos_iff.mp h

theorem Close.le {q x : ℚ} (h : Close q x) : |x| ≤ |q| + |q| / 2 ^ 53 := by
  calc |x| = |q + (x - q)| := by rw [add_sub_cancel]
    _ ≤ |q| + |x - q| := abs_add_le _ _
    _ ≤ |q| + |q| / 2 ^ 53 := by
      have hxq : |x - q| ≤ |q| / 2 ^ 53 := h
      linarith

theorem Close.neg_iff {q x : ℚ} (h : Close q x) : x < 0 ↔ q < 0 := by
  have hb := abs_le.mp h
  obtain hq | hq := lt_or_ge q 0
  · rw [abs_of_neg hq] at hb
    refine iff_of_true ?_ hq
    have hbound : x ≤ q + -q / 2 ^ 53 := by linarith [hb.2]
    have hsmall : -q / 2 ^ 53 < -q := div_lt_self (by linarith) (by norm_num)
    linarith
  · rw [abs_of_nonneg hq] at hb
    refine iff_of_false (not_lt.mpr ?_) (not_lt.mpr hq)
    have hsmall : q / 2 ^ 53 ≤ q := div_le_self hq (by norm_num)
    linarith [hb.1]

theorem Close.mul_right {q x : ℚ} (h : Close q x) (c : ℚ) : Close (q * c) (x * c) := by
  have hxq : |x - q| ≤ |q| / 2 ^ 53 := h
  rw [Close, ← sub_mul, abs_mul, abs_mul]
  calc |x - q| * |c| ≤ |q| / 2 ^ 53 * |c| := mul_le_mul_of_nonneg_right hxq (abs_nonneg c)
    _ = |q| * |c| / 2 ^ 53 := by ring

theorem Close.trans {q x y : ℚ} (hx : Close q x) (hy : Close x y) : |y - q| ≤ |q| / 2 ^ 51 := by
  have hxq : |x - q| ≤ |q| / 2 ^ 53 := hx
  have hyx : |y - x| ≤ |x| / 2 ^ 53 := hy
  have hxle := hx.le
  have hnonneg := abs_nonneg q
  calc |y - q| = |(y - x) + (x - q)| := by rw [sub_add_sub_cancel]
    _ ≤ |y - x| + |x - q| := abs_add_le _ _
    _ ≤ |q| / 2 ^ 51 := by linarith

theorem abs_nearestEven_sub_le (q : ℚ) : |(nearestEven q : ℚ) - q| ≤ 1 / 2 := by
  have hlow := Int.floor_le q
  have hhigh := Int.lt_floor_add_one q
  unfold nearestEven
  split
  case isTrue hdown =>
    have hhalf : q - ⌊q⌋ ≤ 1 / 2 := hdown.elim le_of_lt (fun h => h.1.le)
    rw [abs_sub_comm, abs_of_nonneg (by linarith)]
    exact hhalf
  case isFalse hup =>
    have hhalf : 1 / 2 ≤ q - ⌊q⌋ := not_lt.mp (fun h => hup (Or.inl h))
    rw [Int.cast_add, Int.cast_one, abs_of_nonneg (by linarith)]
    linarith

theorem nearestEven_intCast (n : ℤ) : nearestEven n = n := by
  rw [nearestEven, Int.floor_intCast, sub_self, if_pos (Or.inl (by norm_num))]

theorem spacing_le {q : ℚ} (h : 2 ^ (-1022 : ℤ) ≤ q) : spacing q ≤ q / 2 ^ 52 := by
  have hpos : 0 < q := lt_of_lt_of_le (zpow_pos two_pos _) h
  have hlog : (-1022 : ℤ) ≤ Int.log 2 q := (Int.zpow_le_iff_le_log (by decide) hpos).mp (by exact_mod_cast h)
  have hmax : max (Int.log 2 q - 52) (-1074) = Int.log 2 q - 52 := max_eq_left (by omega)
  have hpow : ((2 : ℕ) : ℚ) ^ Int.log 2 q ≤ q := Int.zpow_log_le_self (by decide) hpos
  rw [spacing, hmax, zpow_sub₀ two_ne_zero]
  have hcast : (2 : ℚ) ^ (52 : ℤ) = 2 ^ 52 := by norm_cast
  rw [hcast]
  exact div_le_div_of_nonneg_right (by exact_mod_cast hpow) (by positivity)

theorem Double.ofRat_of_multiple {q : ℚ} {m : ℤ} (hm : q = m * spacing |q|) (hq : |q| < 2 ^ 1024) :
    Double.ofRat q = .finite q := by
  have hs := spacing_pos |q|
  have hquotient : q / spacing |q| = m := (div_eq_iff hs.ne').mpr hm
  simp only [Double.ofRat]
  rw [hquotient, nearestEven_intCast, ← hm, if_neg (not_le.mpr hq)]

theorem abs_nearestEven_mul_sub_le {s : ℚ} (q : ℚ) (hs : 0 < s) : |nearestEven (q / s) * s - q| ≤ s / 2 := by
  have hhalf := abs_nearestEven_sub_le (q / s)
  calc |nearestEven (q / s) * s - q| = |(nearestEven (q / s) - q / s) * s| := by
        rw [sub_mul, div_mul_cancel₀ _ hs.ne']
    _ = |(nearestEven (q / s) : ℚ) - q / s| * s := by rw [abs_mul, abs_of_pos hs]
    _ ≤ 1 / 2 * s := mul_le_mul_of_nonneg_right hhalf hs.le
    _ = s / 2 := by ring

theorem Double.ofRat_near {q : ℚ} (h : Normal q) : (Double.ofRat q).Near q := by
  obtain rfl | ⟨hlow, hhigh⟩ := h
  · refine ⟨0, Double.ofRat_of_multiple (m := 0) ?_ ?_, ?_⟩
    · rw [Int.cast_zero, zero_mul]
    · rw [abs_zero]
      positivity
    · rw [Close, sub_zero, abs_zero, zero_div]
  · have hclose : Close q (nearestEven (q / spacing |q|) * spacing |q|) := by
      have herror := abs_nearestEven_mul_sub_le q (spacing_pos |q|)
      have hspacing := spacing_le hlow
      rw [Close]
      linarith
    refine ⟨_, ?_, hclose⟩
    have hfinite : |(nearestEven (q / spacing |q|) * spacing |q| : ℚ)| < 2 ^ 1024 := by
      have hpow : (2 : ℚ) ^ 1024 = 2 ^ 1023 + 2 ^ 1023 := by rw [pow_succ, mul_two]
      have hpos : (0 : ℚ) < 2 ^ 1023 := by positivity
      have herror : |q| / 2 ^ 53 ≤ |q| / 2 := div_le_div_of_nonneg_left (abs_nonneg q) two_pos (by norm_num)
      rw [hpow]
      generalize (2 : ℚ) ^ 1023 = top at hhigh hpos
      linarith [hclose.le]
    simp only [Double.ofRat]
    rw [if_neg (not_le.mpr hfinite)]

/-- An integer up to 2^53 lies on the grid of its magnitude. -/
theorem exists_eq_mul_spacing {n : ℤ} (h : n.natAbs ≤ 2 ^ 53) (hn : n ≠ 0) : ∃ m : ℤ, (n : ℚ) = m * spacing |(n : ℚ)| := by
  have hpos : 0 < n.natAbs := Int.natAbs_pos.mpr hn
  have habs : |(n : ℚ)| = (n.natAbs : ℕ) := by rw [← Int.cast_abs, Int.abs_eq_natAbs, Int.cast_natCast]
  have hlog : Int.log 2 |(n : ℚ)| = Nat.log 2 n.natAbs := by rw [habs, Int.log_natCast]
  have hmax : max (Int.log 2 |(n : ℚ)| - 52) (-1074) = (Nat.log 2 n.natAbs : ℤ) - 52 := by
    rw [hlog]
    exact max_eq_left (by omega)
  obtain hlt | hge := Nat.lt_or_ge n.natAbs (2 ^ 53)
  · -- the spacing is a fraction of one
    have hlog52 : Nat.log 2 n.natAbs ≤ 52 := Nat.lt_succ_iff.mp (Nat.log_lt_of_lt_pow hpos.ne' hlt)
    refine ⟨n * 2 ^ (52 - Nat.log 2 n.natAbs), ?_⟩
    have hexp : ((Nat.log 2 n.natAbs : ℤ) - 52) = -((52 - Nat.log 2 n.natAbs : ℕ) : ℤ) := by omega
    rw [spacing, hmax, hexp, zpow_neg, zpow_natCast]
    push_cast
    field_simp
  · have heq : n.natAbs = 2 ^ 53 := le_antisymm h hge
    have hlog53 : Nat.log 2 n.natAbs = 53 := by rw [heq, Nat.log_pow (by decide)]
    have hspacing : spacing |(n : ℚ)| = 2 := by
      rw [spacing, hmax, hlog53]
      norm_num
    obtain ⟨m, hm⟩ : ∃ m : ℤ, n = m * 2 := by
      obtain h | h := Int.natAbs_eq n
      · exact ⟨2 ^ 52, by omega⟩
      · exact ⟨-2 ^ 52, by omega⟩
    refine ⟨m, ?_⟩
    rw [hspacing, hm]
    push_cast
    ring

theorem abs_intCast_lt {n : ℤ} (h : n.natAbs ≤ 2 ^ 53) : |(n : ℚ)| < 2 ^ 1024 := by
  have hle : |(n : ℚ)| ≤ 2 ^ 53 := by
    rw [← Int.cast_abs, Int.abs_eq_natAbs]
    exact_mod_cast h
  have hpow : (2 : ℚ) ^ 53 < 2 ^ 1024 := pow_lt_pow_right₀ (by norm_num) (by norm_num)
  exact lt_of_le_of_lt hle hpow

theorem Double.ofRat_intCast {n : ℤ} (h : n.natAbs ≤ 2 ^ 53) : Double.ofRat n = .finite n := by
  obtain rfl | hn := eq_or_ne n 0
  · exact Double.ofRat_of_multiple (m := 0) (by simp) (by simp)
  · obtain ⟨m, hm⟩ := exists_eq_mul_spacing h hn
    exact Double.ofRat_of_multiple hm (abs_intCast_lt h)

/-- Half of a magnitude has half its spacing. -/
theorem spacing_half {q : ℚ} (h : 1 ≤ q) : spacing (q / 2) = spacing q / 2 := by
  have hpos : 0 < q := lt_of_lt_of_le one_pos h
  have hnonneg : 0 ≤ Int.log 2 q := (Int.zpow_le_iff_le_log (by decide) hpos).mp (by simpa using h)
  have hlog : Int.log 2 (q / 2) = Int.log 2 q - 1 := by
    have hlow : (2 : ℚ) ^ Int.log 2 q ≤ q := Int.zpow_log_le_self (by decide) hpos
    have hhigh : q < (2 : ℚ) ^ (Int.log 2 q + 1) := Int.lt_zpow_succ_log_self (by decide) q
    rw [zpow_add_one₀ two_ne_zero] at hhigh
    refine le_antisymm (Int.lt_add_one_iff.mp ?_) ?_
    · refine (Int.lt_zpow_iff_log_lt (by decide) (half_pos hpos)).mp ?_
      push_cast
      rw [sub_add_cancel]
      linarith
    · refine (Int.zpow_le_iff_le_log (by decide) (half_pos hpos)).mp ?_
      push_cast
      rw [zpow_sub_one₀ two_ne_zero]
      linarith
  have hmax : max (Int.log 2 q - 1 - 52) (-1074) = max (Int.log 2 q - 52) (-1074) - 1 := by omega
  rw [spacing, spacing, hlog, hmax, zpow_sub_one₀ two_ne_zero]
  rfl

theorem Double.ofRat_half {k : ℤ} (h : k.natAbs ≤ 2 ^ 53) : Double.ofRat ((k : ℚ) / 2) = .finite (k / 2) := by
  obtain rfl | hk := eq_or_ne k 0
  · exact Double.ofRat_of_multiple (m := 0) (by simp) (by simp)
  · obtain ⟨m, hm⟩ := exists_eq_mul_spacing h hk
    have hone : 1 ≤ |(k : ℚ)| := by exact_mod_cast Int.one_le_abs hk
    have habs : |(k : ℚ) / 2| = |(k : ℚ)| / 2 := by rw [abs_div, abs_two]
    refine Double.ofRat_of_multiple (m := m) ?_ ?_
    · rw [habs, spacing_half hone, ← mul_div_assoc, ← hm]
    · rw [habs]
      exact (half_le_self (abs_nonneg _)).trans_lt (abs_intCast_lt h)

/-- Doubles rounded to the nearest, ties to even. -/
def Rounding.double : Rounding where
  quotient a b := Double.ofRat (a / b)
  quotient_near _ _ h := Double.ofRat_near h
  product a b := Double.ofRat (a * b)
  literal d := Double.ofRat d.value
  product_near _ _ h := Double.ofRat_near h
  literal_near _ h := Double.ofRat_near h

theorem Rounding.double_exact : Rounding.double.Exact := by
  intro a b k hb hk hsmall
  have hquotient : (a : ℚ) / b = k := by
    rw [hk, Int.cast_mul]
    exact mul_div_cancel_right₀ _ (Int.cast_ne_zero.mpr hb)
  change Double.ofRat ((a : ℚ) / b) = .finite k
  rw [hquotient, Double.ofRat_intCast hsmall]

theorem Rounding.double_exactHalves : Rounding.double.ExactHalves := by
  intro a b k hb hk hsmall
  have hbq : (b : ℚ) ≠ 0 := Int.cast_ne_zero.mpr hb
  have hquotient : (a : ℚ) / b = k / 2 := by
    rw [div_eq_div_iff hbq two_ne_zero, mul_comm (a : ℚ)]
    exact_mod_cast hk
  change Double.ofRat ((a : ℚ) / b) = .finite (k / 2)
  rw [hquotient, Double.ofRat_half hsmall]

/-- Quotients of moderate integers are normal. -/
theorem normal_div {a b : ℤ} (ha : a.natAbs ≤ 2 ^ 53) (hb : 0 < b) (hb' : b ≤ 2 ^ 53) : Normal ((a : ℚ) / b) := by
  obtain rfl | hne := eq_or_ne a 0
  · exact Or.inl (by simp)
  · right
    have hbq : (0 : ℚ) < b := by exact_mod_cast hb
    have hbq' : (b : ℚ) ≤ 2 ^ 53 := by exact_mod_cast hb'
    have hb1 : (1 : ℚ) ≤ b := by exact_mod_cast hb
    have ha1 : (1 : ℚ) ≤ |(a : ℚ)| := by
      rw [← Int.cast_abs]
      exact_mod_cast Int.one_le_abs hne
    have haq : |(a : ℚ)| ≤ 2 ^ 53 := by
      rw [← Int.cast_abs, Int.abs_eq_natAbs]
      exact_mod_cast ha
    rw [abs_div, abs_of_pos hbq]
    constructor
    · calc (2 : ℚ) ^ (-1022 : ℤ) ≤ 2 ^ (-53 : ℤ) := zpow_le_zpow_right₀ (by norm_num) (by norm_num)
        _ = 1 / 2 ^ 53 := by norm_num
        _ ≤ |(a : ℚ)| / b := div_le_div₀ (abs_nonneg _) ha1 hbq hbq'
    · calc |(a : ℚ)| / b ≤ 2 ^ 53 / 1 := div_le_div₀ (by positivity) haq one_pos hb1
        _ = 2 ^ 53 := div_one _
        _ ≤ 2 ^ 1023 := pow_le_pow_right₀ (by norm_num) (by norm_num)

namespace Double

/-- `Math.floor`. -/
def floor : Double → Number
  | finite x => .integer ⌊x⌋
  | infinite negative => .other (if negative then "-Infinity" else "Infinity")

theorem round_of_near {n : ℤ} {x : ℚ} (h : |x - n| < 1 / 2) : (finite x).round = .integer n := by
  have hb := abs_lt.mp h
  have hfloor : ⌊x + 1 / 2⌋ = n := Int.floor_eq_iff.mpr ⟨by linarith, by linarith⟩
  rw [round, hfloor]

end Double

namespace Number

/-- The sum of two numbers that are integers, infinite or NaN. -/
def plus : Number → Number → Number
  | integer a, integer b => add a b
  | integer _, other text => other text
  | other text, integer _ => other text
  | other text, other text' => other (if text = text' then text else "NaN")

/-- The negation of a number that is an integer, infinite or NaN. -/
def negated : Number → Number
  | integer a => integer (-a)
  | other text => other (if text = "Infinity" then "-Infinity" else if text = "-Infinity" then "Infinity" else text)

def isPositive : Number → Bool
  | integer a => 0 < a
  | other text => text = "Infinity"

/-- The quotient of two numbers that are integers or infinite, rounded down. -/
def floorQuotient (D : Division) : Number → Number → Number
  | integer a, integer b => (D.quotient a b).floor
  | integer _, other _ => integer 0
  | other text, integer _ => other text
  | other _, other _ => other "NaN"

/-- The quotient of a number that is an integer or infinite, rounded to the
nearest integer. -/
def roundQuotient (D : Division) : Number → ℤ → Number
  | integer a, b => (D.quotient a b).round
  | other text, _ => other text

theorem isPositive_integer {n : ℤ} : (integer n).isPositive = true ↔ 0 < n := decide_eq_true_iff

theorem ofExact_eq_zero_iff {n m : ℤ} (h : ofExact n = .integer m) : m = 0 ↔ n = 0 := by
  by_cases hn : n.natAbs ≤ 2 ^ 53
  · rw [ofExact_of_le hn] at h
    rw [integer.inj h]
  · have hlarge := ofExact_large (not_le.mp hn) h
    omega

theorem sumFrom_of_nonneg {acc : ℤ} {xs : List ℤ} (hacc : 0 ≤ acc) (hxs : ∀ x ∈ xs, 0 ≤ x) (hsum : acc + xs.sum ≤ 2 ^ 53) :
    sumFrom acc xs = .integer (acc + xs.sum) := by
  induction xs generalizing acc with
  | nil => rw [sumFrom_nil, List.sum_nil, add_zero]
  | cons x xs ih =>
    have hx := hxs x List.mem_cons_self
    have htail : ∀ y ∈ xs, 0 ≤ y := fun y hy => hxs y (List.mem_cons_of_mem x hy)
    have hrest : 0 ≤ xs.sum := List.sum_nonneg htail
    rw [List.sum_cons, ← add_assoc] at hsum
    have hadd : add acc x = .integer (acc + x) := ofExact_of_le (by omega)
    rw [sumFrom_cons hadd, ih (by omega) htail hsum, List.sum_cons, add_assoc]

theorem foldl_plus_other (text : String) (xs : List ℤ) :
    (xs.map integer).foldl plus (.other text) = .other text := by
  induction xs with
  | nil => rfl
  | cons x xs ih => exact ih

theorem foldl_plus_integer (acc : ℤ) (xs : List ℤ) :
    (xs.map integer).foldl plus (.integer acc) = sumFrom acc xs := by
  induction xs generalizing acc with
  | nil => rfl
  | cons x xs ih =>
    rw [List.map_cons, List.foldl_cons, plus]
    cases hadd : add acc x with
    | integer n => rw [sumFrom_cons hadd, ih]
    | other text => rw [sumFrom, hadd, foldl_plus_other]

end Number

/-- A quotient that is not even keeps its floor within one part of it. -/
theorem floor_eq_of_near {n b : ℤ} {x : ℚ} (hb : 0 < b) (hmod : n % b ≠ 0) (h : |x - n / b| < 1 / b) : ⌊x⌋ = n / b := by
  have hbq : (0 : ℚ) < b := by exact_mod_cast hb
  have hdivision := Int.emod_add_mul_ediv n b
  have hpos := (Int.emod_nonneg n hb.ne').lt_of_ne' hmod
  have hlt := Int.emod_lt_of_pos n hb
  have hsplit : (n : ℚ) / b = (n / b : ℤ) + (n % b : ℤ) / b := by
    rw [eq_comm, ← eq_sub_iff_add_eq', div_eq_iff hbq.ne', sub_mul, div_mul_cancel₀ _ hbq.ne']
    have hcast : (n : ℚ) = (n % b : ℤ) + b * (n / b : ℤ) := by exact_mod_cast hdivision.symm
    linarith
  -- the quotient is at least one part in `b` away from either integer
  have hlow : 1 / (b : ℚ) ≤ (n % b : ℤ) / b := by
    have hone : (1 : ℚ) ≤ (n % b : ℤ) := by exact_mod_cast hpos
    exact div_le_div_of_nonneg_right hone hbq.le
  have hhigh : ((n % b : ℤ) : ℚ) / b ≤ 1 - 1 / b := by
    rw [div_le_iff₀ hbq, sub_mul, one_div_mul_cancel hbq.ne', one_mul]
    have hle : (n % b : ℤ) ≤ b - 1 := by omega
    exact_mod_cast hle
  have herror := abs_lt.mp h
  exact Int.floor_eq_iff.mpr ⟨by linarith, by linarith⟩

theorem Close.lt_part {a b : ℤ} {x : ℚ} (h : Close ((a : ℚ) / b) x) (ha : a.natAbs < 2 ^ 53) (hb : 0 < b) :
    |x - a / b| < 1 / b := by
  have hbq : (0 : ℚ) < b := by exact_mod_cast hb
  have haq : |(a : ℚ)| < 2 ^ 53 := by
    rw [← Int.cast_abs, Int.abs_eq_natAbs]
    exact_mod_cast ha
  calc |x - (a : ℚ) / b| ≤ |(a : ℚ) / b| / 2 ^ 53 := h
    _ = |(a : ℚ)| / 2 ^ 53 / b := by
      rw [abs_div, abs_of_pos hbq]
      ring
    _ < 1 / b := by
      refine div_lt_div_of_pos_right ?_ hbq
      rw [div_lt_one (by positivity)]
      exact haq

/-- A quotient of integers below 2^53 never reaches the next integer by being
rounded, so its floor is that of the exact quotient. -/
theorem Division.floor_quotient (D : Division) (hexact : D.Exact) {a b : ℤ} (ha : 0 ≤ a) (ha' : a < 2 ^ 53) (hb : 0 < b)
    (hb' : b ≤ 2 ^ 53) : (D.quotient a b).floor = .integer (a / b) := by
  by_cases hmod : a % b = 0
  · have hmul : a = a / b * b := (Int.ediv_mul_cancel (Int.dvd_of_emod_eq_zero hmod)).symm
    have hk : (a / b).natAbs ≤ 2 ^ 53 := by
      have hle := Int.ediv_le_self b ha
      have hnonneg := Int.ediv_nonneg ha hb.le
      omega
    rw [hexact a b (a / b) hb.ne' hmul hk, Double.floor, Int.floor_intCast]
  · obtain ⟨x, hx, hclose⟩ := D.quotient_near a b (normal_div (by omega) hb hb')
    rw [hx, Double.floor, floor_eq_of_near hb hmod (hclose.lt_part (by omega) hb)]

/-- `Math.round` of a quotient by an even number rounds the exact quotient: a tie
is exact, and anything else stays on its side of the nearest tie. -/
theorem Division.round_quotient (D : Division) (hexact : D.ExactHalves) {a h : ℤ} (ha : a.natAbs < 2 ^ 53) (hh : 0 < h)
    (hh' : 2 * h ≤ 2 ^ 53) : (D.quotient a (2 * h : ℤ)).round = .integer ((a + h) / (2 * h)) := by
  have hb : 0 < 2 * h := by omega
  have hbq : (0 : ℚ) < (2 * h : ℤ) := by exact_mod_cast hb
  have hhalf : ((a + h : ℤ) : ℚ) / (2 * h : ℤ) = a / (2 * h : ℤ) + 1 / 2 := by
    have hhq : (h : ℚ) ≠ 0 := Int.cast_ne_zero.mpr hh.ne'
    push_cast
    field_simp
  by_cases hmod : (a + h) % (2 * h) = 0
  · obtain ⟨n, hn⟩ := Int.dvd_of_emod_eq_zero hmod
    have hmul : a = (2 * n - 1) * h := by
      rw [sub_mul, one_mul, mul_right_comm, ← hn, add_sub_cancel_right]
    have htie : 2 * a = (2 * n - 1) * (2 * h) := by
      rw [hmul]
      ring
    have hsmall : (2 * n - 1).natAbs ≤ 2 ^ 53 := by
      have hle : (2 * n - 1).natAbs ≤ (2 * n - 1).natAbs * h.natAbs :=
        Nat.le_mul_of_pos_right _ (Int.natAbs_pos.mpr hh.ne')
      rw [← Int.natAbs_mul, ← hmul] at hle
      omega
    rw [hexact a (2 * h) (2 * n - 1) hb.ne' htie hsmall, Double.round, hn, Int.mul_ediv_cancel_left _ hb.ne']
    congr 1
    refine Int.floor_eq_iff.mpr ⟨?_, ?_⟩ <;> push_cast <;> linarith
  · obtain ⟨x, hx, hclose⟩ := D.quotient_near a (2 * h : ℤ) (normal_div (by omega) hb hh')
    have herror := hclose.lt_part ha hb
    rw [hx, Double.round, floor_eq_of_near hb hmod]
    rw [hhalf, add_sub_add_right_eq_sub]
    exact herror

end HostPanel.Lib
