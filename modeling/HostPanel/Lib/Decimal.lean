import Mathlib.Data.Int.Log
import Mathlib.Data.Rat.Floor
import Mathlib.Tactic.Positivity
import Mathlib.Tactic.Linarith
import HostPanel.Lib.Double

namespace HostPanel.Lib

/-- Distance between neighbouring doubles at a magnitude of `q`. -/
def spacing (q : ℚ) : ℚ := 2 ^ max (Int.log 2 q - 52) (-1074)

/-- The nearest integer, ties to the even one. -/
def nearestEven (q : ℚ) : ℤ :=
  if q - ⌊q⌋ < 1 / 2 ∨ (q - ⌊q⌋ = 1 / 2 ∧ ⌊q⌋ % 2 = 0) then ⌊q⌋ else ⌊q⌋ + 1

/-- A double that is not NaN, by its exact value. -/
inductive Double where
  | finite (q : ℚ)
  | infinite (negative : Bool)

namespace Double

/-- The double nearest to a rational number. -/
def ofRat (q : ℚ) : Double :=
  let x := nearestEven (q / spacing |q|) * spacing |q|
  if 2 ^ 1024 ≤ |x| then .infinite (decide (q < 0)) else .finite x

/-- The product with a positive integer that is a double. -/
def scale (n : ℕ) : Double → Double
  | finite x => ofRat (x * n)
  | infinite negative => infinite negative

/-- `Math.round`. -/
def round : Double → Number
  | finite x => .integer ⌊x + 1 / 2⌋
  | infinite negative => .other (if negative then "-Infinity" else "Infinity")

end Double

/-- A decimal number as it is written: sign, digits, digits behind the point. -/
structure Decimal where
  negative : Bool
  whole : List Char
  fraction : List Char
deriving DecidableEq

namespace Decimal

/-- The digits before and behind the point, `\d+(\.\d+)?`. -/
def ofDigits? (negative : Bool) (cs : List Char) : Option Decimal :=
  match cs.takeWhile Char.isDigit, cs.dropWhile Char.isDigit with
  | [], _ => none
  | whole, [] => some ⟨negative, whole, []⟩
  | whole, c :: fraction =>
    if c = '.' ∧ fraction ≠ [] ∧ fraction.all Char.isDigit then some ⟨negative, whole, fraction⟩ else none

/-- A text that is a decimal number, `^-?\d+(\.\d+)?$`. -/
def ofString? (text : String) : Option Decimal :=
  match text.toList with
  | '-' :: cs => ofDigits? true cs
  | cs => ofDigits? false cs

def value (d : Decimal) : ℚ :=
  (if d.negative then -1 else 1) * (Nat.ofDigitChars 10 (d.whole ++ d.fraction) 0 / 10 ^ d.fraction.length)

def trunc (d : Decimal) : ℤ := (if d.negative then -1 else 1) * (Nat.ofDigitChars 10 d.whole 0 : ℤ)

end Decimal

/-- `Math.trunc`; nothing for NaN and the infinities. What prints with an
exponent and is no integer is smaller than one. -/
def Number.trunc : Number → Option ℤ
  | .integer n => some n
  | .other text =>
    match Decimal.ofString? text with
    | some d => some d.trunc
    | none => if 'e' ∈ text.toList then some 0 else none

@[simp] theorem Number.trunc_integer (n : ℤ) : (Number.integer n).trunc = some n := rfl

example : (["900.5", "-0.5", "1.5e-7", "NaN", "-Infinity"].map (fun text => (Number.other text).trunc)) =
    [some 900, some 0, some 0, none, none] := by decide

theorem spacing_pos (q : ℚ) : 0 < spacing q := zpow_pos two_pos _

theorem nearestEven_nonneg {q : ℚ} (h : 0 ≤ q) : 0 ≤ nearestEven q := by
  have hfloor : 0 ≤ ⌊q⌋ := Int.floor_nonneg.mpr h
  unfold nearestEven
  split <;> omega

theorem nearestEven_nonpos {q : ℚ} (h : q ≤ 0) : nearestEven q ≤ 0 := by
  have hfloor : ⌊q⌋ ≤ 0 := by exact_mod_cast (Int.floor_le q).trans h
  unfold nearestEven
  split
  case isTrue => exact hfloor
  case isFalse hup =>
    -- rounding up from 0 would need a positive number
    have hne : ⌊q⌋ ≠ 0 := by
      intro h0
      refine hup (Or.inl ?_)
      rw [h0, Int.cast_zero, sub_zero]
      linarith
    omega

namespace Double

theorem ofRat_nonneg {q x : ℚ} (h : 0 ≤ q) (hx : ofRat q = .finite x) : 0 ≤ x := by
  simp only [ofRat] at hx
  split at hx
  · cases hx
  · cases hx
    have hs := spacing_pos |q|
    have hn : (0 : ℚ) ≤ nearestEven (q / spacing |q|) := by exact_mod_cast nearestEven_nonneg (by positivity)
    positivity

theorem ofRat_nonpos {q x : ℚ} (h : q ≤ 0) (hx : ofRat q = .finite x) : x ≤ 0 := by
  simp only [ofRat] at hx
  split at hx
  · cases hx
  · cases hx
    have hs := spacing_pos |q|
    have hquotient : q / spacing |q| ≤ 0 := div_nonpos_of_nonpos_of_nonneg h hs.le
    have hn : (nearestEven (q / spacing |q|) : ℚ) ≤ 0 := by exact_mod_cast nearestEven_nonpos hquotient
    exact mul_nonpos_of_nonpos_of_nonneg hn hs.le

theorem round_scale_nonneg {q : ℚ} {factor : ℕ} {n : ℤ} (h : 0 ≤ q)
    (hn : ((ofRat q).scale factor).round = .integer n) : 0 ≤ n := by
  cases hq : ofRat q with
  | infinite negative =>
    rw [hq] at hn
    cases hn
  | finite x =>
    have hx := ofRat_nonneg h hq
    rw [hq, scale] at hn
    cases hp : ofRat (x * factor) with
    | infinite negative =>
      rw [hp] at hn
      cases hn
    | finite y =>
      have hy := ofRat_nonneg (by positivity) hp
      rw [hp, round] at hn
      cases hn
      exact Int.floor_nonneg.mpr (by linarith)

theorem round_scale_nonpos {q : ℚ} {factor : ℕ} {n : ℤ} (h : q ≤ 0)
    (hn : ((ofRat q).scale factor).round = .integer n) : n ≤ 0 := by
  cases hq : ofRat q with
  | infinite negative =>
    rw [hq] at hn
    cases hn
  | finite x =>
    have hx := ofRat_nonpos h hq
    rw [hq, scale] at hn
    cases hp : ofRat (x * factor) with
    | infinite negative =>
      rw [hp] at hn
      cases hn
    | finite y =>
      have hy := ofRat_nonpos (mul_nonpos_of_nonpos_of_nonneg hx factor.cast_nonneg) hp
      rw [hp, round] at hn
      cases hn
      have hlt : ⌊y + 1 / 2⌋ < 1 := Int.floor_lt.mpr (by push_cast; linarith)
      omega

end Double

namespace Decimal

theorem ofDigits?_negative {negative : Bool} {cs : List Char} {d : Decimal} (h : ofDigits? negative cs = some d) :
    d.negative = negative := by
  unfold ofDigits? at h
  split at h
  · cases h
  · cases h
    rfl
  · split at h
    · cases h
      rfl
    · cases h

theorem value_nonneg {text : String} {d : Decimal} (h : ofString? text = some d)
    (hsign : text.toList.head? ≠ some '-') : 0 ≤ d.value := by
  have hnegative : d.negative = false := by
    unfold ofString? at h
    split at h
    · rename_i cs hcs
      rw [hcs] at hsign
      exact absurd rfl hsign
    · exact ofDigits?_negative h
  rw [value, hnegative]
  simp only [Bool.false_eq_true, if_false, one_mul]
  positivity

/-- A text with a sign is no positive number. -/
theorem value_nonpos {text : String} {d : Decimal} (h : ofString? text = some d)
    (hsign : text.toList.head? = some '-') : d.value ≤ 0 := by
  have hnegative : d.negative = true := by
    obtain ⟨cs, hcs⟩ : ∃ cs, text.toList = '-' :: cs := by
      cases ht : text.toList with
      | nil =>
        rw [ht] at hsign
        cases hsign
      | cons c cs =>
        rw [ht] at hsign
        cases hsign
        exact ⟨cs, rfl⟩
    rw [ofString?, hcs] at h
    exact ofDigits?_negative h
  rw [value, hnegative]
  have hmagnitude : (0 : ℚ) ≤ Nat.ofDigitChars 10 (d.whole ++ d.fraction) 0 / 10 ^ d.fraction.length := by positivity
  simp only [if_true]
  linarith

end Decimal

end HostPanel.Lib
