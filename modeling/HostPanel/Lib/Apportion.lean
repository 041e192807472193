import Mathlib.Algebra.Order.BigOperators.Group.List
import Mathlib.Algebra.Order.Ring.Int
import Mathlib.Tactic.Linarith
import Mathlib.Tactic.Ring

namespace HostPanel.Lib

/-- One more unit for each of the first `k` entries. -/
def topUp : ℕ → List ℤ → List ℤ
  | k + 1, x :: xs => (x + 1) :: topUp k xs
  | _, xs => xs

/-- Each party's exact share of the total, rounded down. -/
def floors (total : ℤ) (ratios : List ℤ) : List ℤ := ratios.map (fun ratio => total * ratio / ratios.sum)

/-- The units that the floors leave over. -/
def leftover (total : ℤ) (ratios : List ℤ) : ℤ := total - (floors total ratios).sum

/-- The floors, and one unit of what is left over for each of the first parties. -/
def apportion (total : ℤ) (ratios : List ℤ) : List ℤ := topUp (leftover total ratios).toNat (floors total ratios)

theorem topUp_zero (xs : List ℤ) : topUp 0 xs = xs := by
  cases xs <;> rfl

theorem length_topUp (k : ℕ) (xs : List ℤ) : (topUp k xs).length = xs.length := by
  induction xs generalizing k with
  | nil => cases k <;> rfl
  | cons x xs ih =>
    cases k with
    | zero => rfl
    | succ k => rw [topUp, List.length_cons, List.length_cons, ih]

theorem sum_topUp {k : ℕ} {xs : List ℤ} (h : k ≤ xs.length) : (topUp k xs).sum = xs.sum + k := by
  induction xs generalizing k with
  | nil =>
    obtain rfl := Nat.le_zero.mp h
    rw [topUp_zero, Nat.cast_zero, add_zero]
  | cons x xs ih =>
    cases k with
    | zero => rw [topUp_zero, Nat.cast_zero, add_zero]
    | succ k =>
      have hsum := ih (Nat.le_of_succ_le_succ h)
      rw [topUp, List.sum_cons, List.sum_cons, hsum]
      push_cast
      ring

theorem getElem?_topUp (k i : ℕ) (xs : List ℤ) :
    (topUp k xs)[i]? = xs[i]?.map (fun x => if i < k then x + 1 else x) := by
  induction xs generalizing k i with
  | nil => cases k <;> rfl
  | cons x xs ih =>
    cases k with
    | zero => simp [topUp_zero]
    | succ k =>
      cases i with
      | zero => simp [topUp]
      | succ i => simp [topUp, ih]

theorem mem_topUp {k : ℕ} {xs : List ℤ} {y : ℤ} (h : y ∈ topUp k xs) : ∃ x ∈ xs, y = x ∨ y = x + 1 := by
  obtain ⟨i, hi⟩ := List.mem_iff_getElem?.mp h
  rw [getElem?_topUp] at hi
  obtain ⟨x, hx, hy⟩ := Option.map_eq_some_iff.mp hi
  refine ⟨x, List.mem_of_getElem? hx, ?_⟩
  split at hy
  · exact Or.inr hy.symm
  · exact Or.inl hy.symm

theorem sum_ediv_add_sum_emod (total s : ℤ) (ratios : List ℤ) :
    s * (ratios.map (fun ratio => total * ratio / s)).sum + (ratios.map (fun ratio => total * ratio % s)).sum =
      total * ratios.sum := by
  induction ratios with
  | nil => simp
  | cons ratio ratios ih =>
    have hdivision := Int.mul_ediv_add_emod (total * ratio) s
    simp only [List.map_cons, List.sum_cons, mul_add]
    linarith

theorem sum_emod_nonneg {s : ℤ} (hs : 0 < s) (total : ℤ) (ratios : List ℤ) :
    0 ≤ (ratios.map (fun ratio => total * ratio % s)).sum := by
  refine List.sum_nonneg (fun x hx => ?_)
  obtain ⟨ratio, _, rfl⟩ := List.mem_map.mp hx
  exact Int.emod_nonneg _ hs.ne'

theorem sum_emod_lt {s : ℤ} (hs : 0 < s) (total : ℤ) {ratios : List ℤ} (hne : ratios ≠ []) :
    (ratios.map (fun ratio => total * ratio % s)).sum < ratios.length * s := by
  induction ratios with
  | nil => exact absurd rfl hne
  | cons ratio ratios ih =>
    have hhead := Int.emod_lt_of_pos (total * ratio) hs
    simp only [List.map_cons, List.sum_cons, List.length_cons]
    push_cast
    obtain rfl | htail := eq_or_ne ratios []
    · simpa using hhead
    · have hrest := ih htail
      linarith

variable {total : ℤ} {ratios : List ℤ}

theorem leftover_mul_sum (total : ℤ) (ratios : List ℤ) :
    ratios.sum * leftover total ratios = (ratios.map (fun ratio => total * ratio % ratios.sum)).sum := by
  have hdivision := sum_ediv_add_sum_emod total ratios.sum ratios
  rw [leftover, floors, mul_sub]
  linarith

theorem leftover_nonneg (hpos : 0 < ratios.sum) (total : ℤ) : 0 ≤ leftover total ratios := by
  have hnonneg := sum_emod_nonneg hpos total ratios
  rw [← leftover_mul_sum] at hnonneg
  exact nonneg_of_mul_nonneg_right hnonneg hpos

theorem leftover_lt (hpos : 0 < ratios.sum) (total : ℤ) : leftover total ratios < ratios.length := by
  have hne : ratios ≠ [] := by
    rintro rfl
    exact absurd hpos (by decide)
  have hlt := sum_emod_lt hpos total hne
  rw [← leftover_mul_sum, mul_comm] at hlt
  exact lt_of_mul_lt_mul_right hlt hpos.le

theorem leftover_toNat_le (hpos : 0 < ratios.sum) (total : ℤ) :
    (leftover total ratios).toNat ≤ (floors total ratios).length := by
  have hlt := leftover_lt hpos total
  rw [floors, List.length_map]
  omega

theorem length_apportion (total : ℤ) (ratios : List ℤ) : (apportion total ratios).length = ratios.length := by
  rw [apportion, length_topUp, floors, List.length_map]

theorem getElem?_apportion (hpos : 0 < ratios.sum) (total : ℤ) {i : ℕ} (hi : i < ratios.length) :
    (apportion total ratios)[i]? =
      some (total * ratios[i] / ratios.sum + if (i : ℤ) < leftover total ratios then 1 else 0) := by
  have hnonneg := leftover_nonneg hpos total
  have hfloor : (floors total ratios)[i]? = some (total * ratios[i] / ratios.sum) := by
    rw [floors, List.getElem?_map, List.getElem?_eq_getElem hi, Option.map_some]
  rw [apportion, getElem?_topUp, hfloor, Option.map_some]
  by_cases hlt : (i : ℤ) < leftover total ratios
  · rw [if_pos (by omega), if_pos hlt]
  · rw [if_neg (by omega), if_neg hlt, add_zero]

/-- Nothing is lost and nothing invented. -/
theorem sum_apportion (hpos : 0 < ratios.sum) (total : ℤ) : (apportion total ratios).sum = total := by
  have hnonneg := leftover_nonneg hpos total
  rw [apportion, sum_topUp (leftover_toNat_le hpos total), Int.toNat_of_nonneg hnonneg, leftover]
  ring

theorem floors_nonneg (htotal : 0 ≤ total) (hratios : ∀ ratio ∈ ratios, 0 ≤ ratio) : ∀ x ∈ floors total ratios, 0 ≤ x := by
  intro x hx
  obtain ⟨ratio, hratio, rfl⟩ := List.mem_map.mp hx
  exact Int.ediv_nonneg (mul_nonneg htotal (hratios ratio hratio)) (List.sum_nonneg hratios)

theorem floors_zero (ratios : List ℤ) : floors 0 ratios = List.replicate ratios.length 0 := by
  rw [floors, List.eq_replicate_iff]
  refine ⟨List.length_map _, fun x hx => ?_⟩
  obtain ⟨ratio, _, rfl⟩ := List.mem_map.mp hx
  rw [zero_mul, Int.zero_ediv]

theorem apportion_zero (ratios : List ℤ) : apportion 0 ratios = List.replicate ratios.length 0 := by
  have hleft : leftover 0 ratios = 0 := by
    rw [leftover, floors_zero, List.sum_eq_zero (fun x hx => List.eq_of_mem_replicate hx), sub_zero]
  rw [apportion, hleft, Int.toNat_zero, topUp_zero, floors_zero]

end HostPanel.Lib
