import Mathlib.Data.Nat.Log
import Mathlib.Tactic.NormNum
import Mathlib.Tactic.Positivity

namespace HostPanel.Lib

/-- A JavaScript number, as far as `Number.isInteger` tells them apart: an
integer, or a fraction, infinity or NaN together with how it prints. -/
inductive Number where
  | integer (n : ℤ)
  | other (text : String)
deriving DecidableEq

namespace Number

/-- Distance between neighbouring doubles at a magnitude of `n`. -/
def ulp (n : ℕ) : ℕ := 2 ^ (Nat.log2 n - 52)

/-- The double nearest to a natural number, ties to the even significand. -/
def nearest (n : ℕ) : ℕ :=
  let q := n / ulp n
  let r := n % ulp n
  if 2 * r < ulp n ∨ (2 * r = ulp n ∧ q % 2 = 0) then q * ulp n else (q + 1) * ulp n

/-- From here on a double is infinite. -/
@[irreducible] def limit : ℕ := 2 ^ 1024

theorem lt_limit : 2 ^ 53 < limit := by decide +kernel

/-- What a sum, difference or product of integer doubles with exact value `n`
evaluates to. -/
def ofExact (n : ℤ) : Number :=
  if limit ≤ nearest n.natAbs then .other (if 0 ≤ n then "Infinity" else "-Infinity")
  else .integer (if 0 ≤ n then nearest n.natAbs else -(nearest n.natAbs : ℤ))

def add (a b : ℤ) : Number := ofExact (a + b)

def sub (a b : ℤ) : Number := ofExact (a - b)

def mul (a b : ℤ) : Number := ofExact (a * b)

theorem nearest_of_lt {n : ℕ} (h : n < 2 ^ 53) : nearest n = n := by
  have hu : ulp n = 1 := by
    have hl : Nat.log2 n < 53 := by
      rw [Nat.log2_eq_log_two]
      exact Nat.log_lt_of_lt_pow' (by decide) h
    have he : Nat.log2 n - 52 = 0 := by omega
    rw [ulp, he, pow_zero]
  have hm : n % 1 = 0 := Nat.mod_one n
  simp [nearest, hu, hm]

theorem le_nearest {n : ℕ} (h : 2 ^ 53 ≤ n) : 2 ^ 53 ≤ nearest n := by
  have hl : 53 ≤ Nat.log2 n := by
    rw [Nat.log2_eq_log_two]
    exact Nat.le_log_of_pow_le (by decide) h
  have hn : n ≠ 0 := by
    rintro rfl
    exact absurd h (by decide)
  have hq : 2 ^ 52 ≤ n / ulp n := by
    rw [Nat.le_div_iff_mul_le (by unfold ulp; positivity), ulp, ← pow_add]
    have he : 52 + (Nat.log2 n - 52) = Nat.log2 n := by omega
    rw [he]
    exact Nat.log2_self_le hn
  have hu : 2 ≤ ulp n := by
    calc 2 = 2 ^ 1 := (pow_one 2).symm
      _ ≤ 2 ^ (Nat.log2 n - 52) := Nat.pow_le_pow_right (by decide) (by omega)
  have hlow : 2 ^ 53 ≤ n / ulp n * ulp n := by
    calc 2 ^ 53 = 2 ^ 52 * 2 := by norm_num
      _ ≤ n / ulp n * ulp n := Nat.mul_le_mul hq hu
  simp only [nearest]
  split
  · exact hlow
  · exact hlow.trans (Nat.mul_le_mul_right _ (Nat.le_succ _))

theorem ofExact_of_le {n : ℤ} (h : n.natAbs ≤ 2 ^ 53) : ofExact n = .integer n := by
  have hn : nearest n.natAbs = n.natAbs := by
    obtain hlt | heq := Nat.lt_or_eq_of_le h
    · exact nearest_of_lt hlt
    · rw [heq]
      decide +kernel
  have hb : ¬ limit ≤ nearest n.natAbs := by
    rw [hn]
    exact Nat.not_le.mpr (h.trans_lt lt_limit)
  rw [ofExact, if_neg hb, hn]
  congr 1
  split <;> omega

/-- Beyond that, the result is still as far from zero, with the same sign. -/
theorem ofExact_large {n m : ℤ} (h : 2 ^ 53 < n.natAbs) (hm : ofExact n = .integer m) :
    (0 < n → 2 ^ 53 ≤ m) ∧ (n < 0 → m ≤ -2 ^ 53) := by
  have hl := le_nearest h.le
  unfold ofExact at hm
  split at hm
  · cases hm
  · injection hm with hm
    subst hm
    constructor
    · intro hp
      rw [if_pos hp.le]
      exact_mod_cast hl
    · intro hneg
      rw [if_neg (not_le.mpr hneg)]
      have hl' : (2 ^ 53 : ℤ) ≤ nearest n.natAbs := by exact_mod_cast hl
      omega

theorem eq_of_ofExact {n m : ℤ} (h : ofExact n = .integer m) (hm : m.natAbs < 2 ^ 53) : m = n := by
  by_cases hn : n.natAbs ≤ 2 ^ 53
  · rw [ofExact_of_le hn] at h
    injection h with h
    exact h.symm
  · obtain ⟨hpos, hneg⟩ := ofExact_large (not_le.mp hn) h
    obtain h0 | h0 | h0 := lt_trichotomy n 0
    · have := hneg h0
      omega
    · subst h0
      exact absurd (by decide) hn
    · have := hpos h0
      omega

theorem ofExact_nonneg {n m : ℤ} (h : 0 ≤ n) (hm : ofExact n = .integer m) : 0 ≤ m := by
  unfold ofExact at hm
  rw [if_pos h] at hm
  split at hm
  · cases hm
  · cases hm
    exact Int.natCast_nonneg _

/-- A running sum of doubles, as a loop accumulates it. -/
def sumFrom : ℤ → List ℤ → Number
  | acc, [] => .integer acc
  | acc, x :: xs =>
    match add acc x with
    | .integer n => sumFrom n xs
    | .other text => .other text

theorem sumFrom_nil (acc : ℤ) : sumFrom acc [] = .integer acc := rfl

theorem sumFrom_cons {acc n x : ℤ} {xs : List ℤ} (h : add acc x = .integer n) :
    sumFrom acc (x :: xs) = sumFrom n xs := by
  rw [sumFrom, h]

theorem sumFrom_nonneg {acc m : ℤ} {xs : List ℤ} (hacc : 0 ≤ acc) (hxs : ∀ x ∈ xs, 0 ≤ x)
    (hm : sumFrom acc xs = .integer m) : 0 ≤ m := by
  induction xs generalizing acc with
  | nil =>
    cases hm
    exact hacc
  | cons x xs ih =>
    cases hadd : add acc x with
    | other text =>
      rw [sumFrom, hadd] at hm
      cases hm
    | integer n =>
      rw [sumFrom_cons hadd] at hm
      have hn := ofExact_nonneg (Int.add_nonneg hacc (hxs x List.mem_cons_self)) hadd
      exact ih hn (fun y hy => hxs y (List.mem_cons_of_mem x hy)) hm

theorem sumFrom_of_bounded {b : ℕ} {acc : ℤ} {xs : List ℤ} (hb : ∀ x ∈ xs, x.natAbs ≤ b)
    (hn : acc.natAbs + xs.length * b ≤ 2 ^ 53) : sumFrom acc xs = .integer (acc + xs.sum) := by
  induction xs generalizing acc with
  | nil => rw [sumFrom_nil, List.sum_nil, add_zero]
  | cons x xs ih =>
    have hx : x.natAbs ≤ b := hb x List.mem_cons_self
    have hlen : (x :: xs).length * b = xs.length * b + b := by rw [List.length_cons, Nat.succ_mul]
    have htri : (acc + x).natAbs ≤ acc.natAbs + x.natAbs := Int.natAbs_add_le acc x
    have hadd : add acc x = .integer (acc + x) := ofExact_of_le (by omega)
    rw [sumFrom_cons hadd, ih (fun y hy => hb y (List.mem_cons_of_mem x hy)) (by omega), List.sum_cons, add_assoc]

theorem nearest_le_succ (n : ℕ) : nearest n ≤ (n / ulp n + 1) * ulp n := by
  simp only [nearest]
  split
  · exact Nat.mul_le_mul_right _ (Nat.le_succ _)
  · exact le_rfl

/-- Just above a power of two a number is rounded down to it. -/
theorem nearest_of_near {n k : ℕ} (hk : 53 ≤ k) (h : 2 ^ k ≤ n) (h' : n < 2 ^ k + 2 ^ (k - 53)) :
    nearest n = 2 ^ k := by
  obtain ⟨d, rfl⟩ := Nat.exists_eq_add_of_le h
  have hd : d < 2 ^ (k - 53) := Nat.lt_of_add_lt_add_left h'
  have hhalf : 2 ^ (k - 52) = 2 * 2 ^ (k - 53) := by
    rw [← pow_succ']
    congr 1
    omega
  have hsmall : (2 : ℕ) ^ (k - 53) ≤ 2 ^ k := Nat.pow_le_pow_right (by decide) (by omega)
  have hlog : Nat.log2 (2 ^ k + d) = k := by
    rw [Nat.log2_eq_log_two]
    refine Nat.log_eq_of_pow_le_of_lt_pow h ?_
    rw [pow_succ]
    omega
  have hulp : ulp (2 ^ k + d) = 2 ^ (k - 52) := by rw [ulp, hlog]
  have hpow : 2 ^ k = 2 ^ (k - 52) * 2 ^ 52 := by
    rw [← pow_add]
    congr 1
    omega
  have hlt : d < 2 ^ (k - 52) := by omega
  have hdiv : (2 ^ k + d) / 2 ^ (k - 52) = 2 ^ 52 := by
    rw [hpow, Nat.mul_add_div (by positivity), Nat.div_eq_of_lt hlt, add_zero]
  have hmod : (2 ^ k + d) % 2 ^ (k - 52) = d := by
    rw [hpow, Nat.mul_add_mod, Nat.mod_eq_of_lt hlt]
  have hdown : 2 * d < 2 ^ (k - 52) := by omega
  simp only [nearest, hulp, hdiv, hmod, if_pos (Or.inl hdown)]
  rw [hpow, mul_comm]

theorem nearest_le_two_pow {n k : ℕ} (hk : 53 ≤ k) (h : n < 2 ^ k + 2 ^ (k - 53)) : nearest n ≤ 2 ^ k := by
  obtain hlow | hhigh := lt_or_ge n (2 ^ k)
  · obtain hexact | hlarge := lt_or_ge n (2 ^ 53)
    · rw [nearest_of_lt hexact]
      exact hlow.le
    · have hn : n ≠ 0 := fun he => by omega
      have hlog : 53 ≤ Nat.log2 n := by
        rw [Nat.log2_eq_log_two]
        exact Nat.le_log_of_pow_le (by decide) hlarge
      have hnext : n < 2 ^ (Nat.log2 n + 1) := Nat.lt_log2_self
      have hle : 2 ^ (Nat.log2 n + 1) ≤ 2 ^ k := by
        apply Nat.pow_le_pow_right (by decide)
        exact Nat.log2_lt hn |>.mpr hlow
      have hsplit : 2 ^ (Nat.log2 n + 1) = 2 ^ 53 * ulp n := by
        rw [ulp, ← pow_add]
        congr 1
        omega
      have hq : n / ulp n < 2 ^ 53 := by
        rw [Nat.div_lt_iff_lt_mul (by unfold ulp; positivity), ← hsplit]
        exact hnext
      calc nearest n ≤ (n / ulp n + 1) * ulp n := nearest_le_succ n
        _ ≤ 2 ^ 53 * ulp n := Nat.mul_le_mul_right _ hq
        _ ≤ 2 ^ k := hsplit ▸ hle
  · exact (nearest_of_near hk hhigh h).le

/-- What is added to a power of two, if it is small enough, is lost. -/
theorem ofExact_absorbs {n : ℤ} {k : ℕ} (hk : 53 ≤ k) (hlimit : 2 ^ k < limit)
    (h : n.natAbs < 2 ^ k + 2 ^ (k - 53)) :
    ∃ m, ofExact n = .integer m ∧ m.natAbs ≤ 2 ^ k := by
  have hle := nearest_le_two_pow hk h
  have hfinite : ¬ limit ≤ nearest n.natAbs := Nat.not_le.mpr (hle.trans_lt hlimit)
  refine ⟨_, by rw [ofExact, if_neg hfinite], ?_⟩
  split
  · exact hle
  · rw [Int.natAbs_neg]
    exact hle

end Number

end HostPanel.Lib
