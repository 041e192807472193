import HostPanel.Lib.Double

namespace HostPanel.Lib

/-- Sums and products of integer doubles, as far as exactness can rely on them:
right up to 2^53, and beyond it at least that far from zero. -/
structure Arithmetic where
  add : ℤ → ℤ → Number
  mul : ℤ → ℤ → Number
  add_exact : ∀ a b : ℤ, (a + b).natAbs ≤ 2 ^ 53 → add a b = .integer (a + b)
  mul_exact : ∀ a b : ℤ, (a * b).natAbs ≤ 2 ^ 53 → mul a b = .integer (a * b)
  add_large : ∀ a b m : ℤ, 2 ^ 53 < (a + b).natAbs → add a b = .integer m → 2 ^ 53 ≤ m.natAbs
  mul_large : ∀ a b m : ℤ, 2 ^ 53 < (a * b).natAbs → mul a b = .integer m → 2 ^ 53 ≤ m.natAbs

namespace Number

theorem natAbs_of_ofExact_large {n m : ℤ} (h : 2 ^ 53 < n.natAbs) (hm : ofExact n = .integer m) :
    2 ^ 53 ≤ m.natAbs := by
  obtain ⟨hpos, hneg⟩ := ofExact_large h hm
  obtain h0 | h0 | h0 := lt_trichotomy n 0
  · have := hneg h0
    omega
  · subst h0
    exact absurd h (by decide)
  · have := hpos h0
    omega

end Number

namespace Arithmetic

/-- Doubles rounded to the nearest, ties to even. -/
def double : Arithmetic where
  add := Number.add
  mul := Number.mul
  add_exact _ _ h := Number.ofExact_of_le h
  mul_exact _ _ h := Number.ofExact_of_le h
  add_large _ _ _ h hm := Number.natAbs_of_ofExact_large h hm
  mul_large _ _ _ h hm := Number.natAbs_of_ofExact_large h hm

variable (A : Arithmetic)

theorem add_of_small {a b m : ℤ} (h : A.add a b = .integer m) (hm : m.natAbs < 2 ^ 53) : m = a + b := by
  by_cases hab : (a + b).natAbs ≤ 2 ^ 53
  · rw [A.add_exact a b hab] at h
    exact (Number.integer.inj h).symm
  · exact absurd hm (Nat.not_lt.mpr (A.add_large a b m (not_le.mp hab) h))

theorem mul_add_of_small {a b c g m : ℤ} (hmul : A.mul a b = .integer g) (hadd : A.add g c = .integer m)
    (hc : c.natAbs ≤ 2 ^ 31) (hm : m.natAbs ≤ 2 ^ 31) : m = a * b + c := by
  have hsum : m = g + c := A.add_of_small hadd (by omega)
  by_cases hab : (a * b).natAbs ≤ 2 ^ 53
  · rw [A.mul_exact a b hab] at hmul
    rw [hsum, Number.integer.inj hmul]
  · -- the product would be too far away for the sum to come back
    have hg := A.mul_large a b g (not_le.mp hab) hmul
    omega

/-- A running sum, as a loop accumulates it. -/
def sumFrom : ℤ → List ℤ → Number
  | acc, [] => .integer acc
  | acc, x :: xs =>
    match A.add acc x with
    | .integer n => sumFrom n xs
    | .other text => .other text

theorem sumFrom_cons {acc n x : ℤ} {xs : List ℤ} (h : A.add acc x = .integer n) :
    A.sumFrom acc (x :: xs) = A.sumFrom n xs := by
  rw [sumFrom, h]

theorem sumFrom_of_bounded {b : ℕ} {acc : ℤ} {xs : List ℤ} (hb : ∀ x ∈ xs, x.natAbs ≤ b)
    (hn : acc.natAbs + xs.length * b ≤ 2 ^ 53) : A.sumFrom acc xs = .integer (acc + xs.sum) := by
  induction xs generalizing acc with
  | nil => rw [sumFrom, List.sum_nil, add_zero]
  | cons x xs ih =>
    have hx : x.natAbs ≤ b := hb x List.mem_cons_self
    have hlen : (x :: xs).length * b = xs.length * b + b := by rw [List.length_cons, Nat.succ_mul]
    have htri : (acc + x).natAbs ≤ acc.natAbs + x.natAbs := Int.natAbs_add_le acc x
    have hadd : A.add acc x = .integer (acc + x) := A.add_exact _ _ (by omega)
    rw [A.sumFrom_cons hadd, ih (fun y hy => hb y (List.mem_cons_of_mem x hy)) (by omega), List.sum_cons, add_assoc]

end Arithmetic

end HostPanel.Lib
