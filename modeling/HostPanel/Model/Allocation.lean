import HostPanel.Lib.Apportion
import HostPanel.Lib.Rounding
import HostPanel.Model.Money

namespace HostPanel.Model

open HostPanel.Lib

def negate (a : Money) : Except Failure Money := money (.integer (-a.amount)) a.currency

/-- Apply a percentage in integer basis points. -/
def percentageBps (D : Division) (a : Money) (bps : Number) : Except Failure Money :=
  match bps with
  | .integer n =>
    if n < 0 then .error (moneyError ("bps must be a non-negative integer, got " ++ Number.text bps))
    else money (Number.roundQuotient D (Number.mul a.amount n) 10000) a.currency
  | .other _ => .error (moneyError ("bps must be a non-negative integer, got " ++ Number.text bps))

/-- A ratio that passes the check of `allocate`. -/
def ratio? : Number → Option ℤ
  | .integer ratio => if 0 ≤ ratio then some ratio else none
  | .other _ => none

/-- The shares before the remainder is handed out. -/
def floorShares (D : Division) (totalAbs : ℤ) (ratios : List ℤ) : List Number :=
  ratios.map (fun ratio => Number.floorQuotient D (Number.mul totalAbs ratio) (Number.sumFrom 0 ratios))

/-- What is left of the total after the floors. -/
def remainder (D : Division) (totalAbs : ℤ) (ratios : List ℤ) : Number :=
  Number.plus (.integer totalAbs) ((floorShares D totalAbs ratios).foldl Number.plus (.integer 0)).negated

/-- The loop over the remainder, for at most `fuel` rounds. -/
def handOut : ℕ → ℕ → Number → List Number → Option (List Number)
  | 0, _, remainder, shares => if remainder.isPositive then none else some shares
  | fuel + 1, i, remainder, shares =>
    if remainder.isPositive then
      handOut fuel ((i + 1) % shares.length) (remainder.plus (.integer (-1)))
        (shares.modify i (fun share => share.plus (.integer 1)))
    else some shares

/-- A share with the sign of the total. -/
def signed (total : ℤ) (share : Number) : Number :=
  match share with
  | .integer n => Number.mul n (if total < 0 then -1 else 1)
  | .other _ => if total < 0 then share.negated else share

/-- Split an amount by ratios; `none` when the loop over the remainder takes more
than `fuel` rounds. -/
def allocate (D : Division) (fuel : ℕ) (total : Money) (ratios : List Number) : Option (Except Failure (List Money)) :=
  if ratios = [] then some (.error (moneyError "allocate() requires at least one ratio"))
  else
    match ratios.mapM ratio? with
    | none => some (.error (moneyError "allocate() ratios must be non-negative integers"))
    | some rs =>
      if Number.sumFrom 0 rs = .integer 0 then some (.error (moneyError "allocate() ratios must not all be zero"))
      else
        let totalAbs : ℤ := total.amount.natAbs
        let shares := handOut fuel 0 (remainder D totalAbs rs) (floorShares D totalAbs rs)
        shares.map (fun shares => shares.mapM (fun share => money (signed total.amount share) total.currency))

theorem mapM_ratio? {ratios : List ℤ} (h : ∀ ratio ∈ ratios, 0 ≤ ratio) :
    (ratios.map Number.integer).mapM ratio? = some ratios := by
  induction ratios with
  | nil => rfl
  | cons ratio ratios ih =>
    have hhead : ratio? (.integer ratio) = some ratio := if_pos (h ratio List.mem_cons_self)
    rw [List.map_cons, List.mapM_cons, hhead, ih (fun r hr => h r (List.mem_cons_of_mem ratio hr))]
    rfl

/-- Totals and ratios whose products and sum stay below 2^53. -/
structure Splits (totalAbs : ℤ) (ratios : List ℤ) : Prop where
  total_nonneg : 0 ≤ totalAbs
  nonneg : ∀ ratio ∈ ratios, 0 ≤ ratio
  sum_pos : 0 < ratios.sum
  sum_le : ratios.sum ≤ 2 ^ 53
  mul_lt : ∀ ratio ∈ ratios, totalAbs * ratio < 2 ^ 53

section Splits

variable {D : Division} {totalAbs : ℤ} {ratios : List ℤ}

theorem Splits.total_lt (h : Splits totalAbs ratios) : totalAbs < 2 ^ 53 := by
  obtain ⟨ratio, hratio, hpos⟩ : ∃ ratio ∈ ratios, 0 < ratio := by
    by_contra hnone
    push Not at hnone
    have hsum : ratios.sum = 0 :=
      List.sum_eq_zero (fun ratio hratio => le_antisymm (hnone ratio hratio) (h.nonneg ratio hratio))
    exact h.sum_pos.ne' hsum
  have hle : totalAbs ≤ totalAbs * ratio := le_mul_of_one_le_right h.total_nonneg hpos
  exact lt_of_le_of_lt hle (h.mul_lt ratio hratio)

theorem Splits.sumFrom (h : Splits totalAbs ratios) : Number.sumFrom 0 ratios = .integer ratios.sum := by
  rw [Number.sumFrom_of_nonneg le_rfl h.nonneg (by rw [zero_add]; exact h.sum_le), zero_add]

theorem Splits.floors_le (h : Splits totalAbs ratios) : ∀ x ∈ floors totalAbs ratios, 0 ≤ x ∧ x ≤ totalAbs := by
  have hfloors := floors_nonneg h.total_nonneg h.nonneg
  have hleft := leftover_nonneg h.sum_pos totalAbs
  rw [leftover] at hleft
  intro x hx
  have hsingle := List.single_le_sum hfloors x hx
  exact ⟨hfloors x hx, by omega⟩

theorem Splits.floorShares (h : Splits totalAbs ratios) (hexact : D.Exact) :
    floorShares D totalAbs ratios = (floors totalAbs ratios).map .integer := by
  rw [Model.floorShares, h.sumFrom, floors, List.map_map]
  refine List.map_congr_left (fun ratio hratio => ?_)
  have hnonneg := mul_nonneg h.total_nonneg (h.nonneg ratio hratio)
  have hlt := h.mul_lt ratio hratio
  have hmul : Number.mul totalAbs ratio = .integer (totalAbs * ratio) := Number.ofExact_of_le (by omega)
  rw [hmul]
  exact D.floor_quotient hexact hnonneg hlt h.sum_pos h.sum_le

theorem Splits.remainder (h : Splits totalAbs ratios) (hexact : D.Exact) :
    remainder D totalAbs ratios = .integer (leftover totalAbs ratios) := by
  have hleft := leftover_nonneg h.sum_pos totalAbs
  have htotal := h.total_lt
  have hnonneg : 0 ≤ (floors totalAbs ratios).sum := List.sum_nonneg (floors_nonneg h.total_nonneg h.nonneg)
  rw [leftover] at hleft
  have hsum : Number.sumFrom 0 (floors totalAbs ratios) = .integer (floors totalAbs ratios).sum := by
    rw [Number.sumFrom_of_nonneg le_rfl (floors_nonneg h.total_nonneg h.nonneg) (by omega), zero_add]
  rw [Model.remainder, h.floorShares hexact, Number.foldl_plus_integer, hsum]
  exact Number.ofExact_of_le (by omega)

end Splits

theorem handOut_zero (fuel i : ℕ) (shares : List Number) : handOut fuel i (.integer 0) shares = some shares := by
  cases fuel <;> rfl

theorem modify_length_append {α : Type} {f : α → α} {xs ys : List α} {x : α} {i : ℕ} (h : i = xs.length) :
    (xs ++ x :: ys).modify i f = xs ++ f x :: ys := by
  subst h
  induction xs with
  | nil => exact List.modify_zero_cons f x ys
  | cons y xs ih => rw [List.cons_append, List.length_cons, List.modify_succ_cons, ih, List.cons_append]

/-- Fewer units than there are parties go to the first of them, in one pass. -/
theorem handOut_topUp {fuel k : ℕ} (pre : List ℤ) {xs : List ℤ} (hfuel : k ≤ fuel) (hk : k ≤ xs.length) (hsmall : k ≤ 2 ^ 53)
    (hxs : ∀ x ∈ xs, 0 ≤ x ∧ x < 2 ^ 53) :
    handOut fuel pre.length (.integer k) ((pre ++ xs).map .integer) = some ((pre ++ topUp k xs).map .integer) := by
  induction k generalizing fuel pre xs with
  | zero => rw [Nat.cast_zero, handOut_zero, topUp_zero]
  | succ k ih =>
    obtain ⟨fuel, rfl⟩ : ∃ n, fuel = n + 1 := ⟨fuel - 1, by omega⟩
    obtain ⟨x, xs, rfl⟩ : ∃ x xs', xs = x :: xs' := List.exists_cons_of_length_pos (by omega)
    have hx := hxs x List.mem_cons_self
    have hpositive : (Number.integer ((k + 1 : ℕ) : ℤ)).isPositive = true := by simp [Number.isPositive]
    have hminus : (Number.integer ((k + 1 : ℕ) : ℤ)).plus (.integer (-1)) = .integer k := by
      have hsub : ((k + 1 : ℕ) : ℤ) + -1 = k := by omega
      rw [Number.plus, Number.add, hsub]
      exact Number.ofExact_of_le (by omega)
    have hplus : (Number.integer x).plus (.integer 1) = .integer (x + 1) := Number.ofExact_of_le (by omega)
    have hmodify : ((pre ++ x :: xs).map Number.integer).modify pre.length (fun share => share.plus (.integer 1)) =
        (pre ++ [x + 1] ++ xs).map .integer := by
      rw [List.map_append, List.map_cons, modify_length_append (by rw [List.length_map]), hplus]
      simp
    rw [handOut, if_pos hpositive, hminus, hmodify, topUp]
    obtain rfl | hpos := Nat.eq_zero_or_pos k
    · rw [Nat.cast_zero, handOut_zero, topUp_zero, List.append_assoc, List.singleton_append]
    · have hlength : 0 < xs.length := by
        rw [List.length_cons] at hk
        omega
      have hindex : (pre.length + 1) % ((pre ++ x :: xs).map Number.integer).length = (pre ++ [x + 1]).length := by
        rw [List.length_map, List.length_append, List.length_cons, List.length_append, List.length_singleton]
        exact Nat.mod_eq_of_lt (by omega)
      have hrest : ∀ y ∈ xs, _ := fun y hy => hxs y (List.mem_cons_of_mem x hy)
      rw [hindex, ih (pre ++ [x + 1]) (by omega) (Nat.le_of_succ_le_succ hk) (by omega) hrest, List.append_assoc,
        List.singleton_append]

theorem mapM_money {currency : String} {total : ℤ} (hcurrency : isCurrencyCode currency = true) {xs : List ℤ}
    (hxs : ∀ x ∈ xs, 0 ≤ x ∧ x ≤ 2 ^ 53) :
    (xs.map Number.integer).mapM (fun share => money (signed total share) currency) =
      .ok (xs.map (fun x => ⟨if total < 0 then -x else x, toUpperCase currency⟩)) := by
  induction xs with
  | nil => rfl
  | cons x xs ih =>
    have hx := hxs x List.mem_cons_self
    have hsigned : signed total (.integer x) = .integer (if total < 0 then -x else x) := by
      by_cases hneg : total < 0
      · have hmul : x * -1 = -x := mul_neg_one x
        simp only [signed, if_pos hneg, Number.mul, hmul]
        exact Number.ofExact_of_le (by omega)
      · simp only [signed, if_neg hneg, Number.mul, mul_one]
        exact Number.ofExact_of_le (by omega)
    have hmoney : money (signed total (.integer x)) currency = .ok ⟨if total < 0 then -x else x, toUpperCase currency⟩ :=
      money_ok_iff.mpr ⟨_, hsigned, hcurrency, rfl⟩
    rw [List.map_cons, List.mapM_cons, hmoney, ih (fun y hy => hxs y (List.mem_cons_of_mem x hy))]
    rfl

/-- The shares are the exact ones, with the sign of the total. -/
theorem allocate_apportion {D : Division} (hexact : D.Exact) (total : Money) {ratios : List ℤ} {fuel : ℕ}
    (h : Splits total.amount.natAbs ratios) (hcurrency : isCurrencyCode total.currency = true)
    (hfuel : leftover total.amount.natAbs ratios ≤ fuel) :
    allocate D fuel total (ratios.map .integer) = some (.ok ((apportion total.amount.natAbs ratios).map
      (fun share => ⟨if total.amount < 0 then -share else share, toUpperCase total.currency⟩))) := by
  have hne : ratios.map Number.integer ≠ [] := by
    intro hnil
    rw [List.map_eq_nil_iff] at hnil
    subst hnil
    exact absurd h.sum_pos (by decide)
  have hsum : Number.sumFrom 0 ratios ≠ .integer 0 := by
    rw [h.sumFrom]
    intro hzero
    exact h.sum_pos.ne' (Number.integer.inj hzero)
  have hfloors := h.floors_le
  have htotal := h.total_lt
  have hleft := leftover_nonneg h.sum_pos (total.amount.natAbs : ℤ)
  have hle : leftover total.amount.natAbs ratios ≤ total.amount.natAbs := by
    have hsum := List.sum_nonneg (fun x hx => (hfloors x hx).1)
    rw [leftover]
    omega
  have hloop := handOut_topUp [] (Int.toNat_le.mpr hfuel) (leftover_toNat_le h.sum_pos _) (by omega)
    (fun x hx => ⟨(hfloors x hx).1, lt_of_le_of_lt (hfloors x hx).2 htotal⟩)
  rw [Int.toNat_of_nonneg hleft, List.nil_append, List.nil_append] at hloop
  have hshares : ∀ x ∈ apportion total.amount.natAbs ratios, 0 ≤ x ∧ x ≤ 2 ^ 53 := by
    intro x hx
    obtain ⟨y, hy, hxy⟩ := mem_topUp hx
    have hbound := hfloors y hy
    omega
  simp only [allocate, if_neg hne, mapM_ratio? h.nonneg, if_neg hsum, h.remainder hexact, h.floorShares hexact]
  rw [List.length_nil] at hloop
  rw [hloop, Option.map_some]
  exact congrArg some (mapM_money hcurrency hshares)

end HostPanel.Model
