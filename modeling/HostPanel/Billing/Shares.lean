import HostPanel.Model.Allocation

namespace HostPanel.Billing

open HostPanel.Lib HostPanel.Model

theorem splits_of_abs {total : ℤ} {ratios : List ℤ} (hnonneg : ∀ ratio ∈ ratios, 0 ≤ ratio) (hpos : 0 < ratios.sum)
    (hsum : ratios.sum ≤ 2 ^ 53) (hsmall : ∀ ratio ∈ ratios, |total| * ratio < 2 ^ 53) :
    Splits total.natAbs ratios where
  total_nonneg := Int.natCast_nonneg _
  nonneg := hnonneg
  sum_pos := hpos
  sum_le := hsum
  mul_lt ratio hratio := by
    rw [← Int.abs_eq_natAbs]
    exact hsmall ratio hratio

theorem abs_signed {total x : ℤ} (h : 0 ≤ x) : |if total < 0 then -x else x| = x := by
  split
  · rw [abs_neg, abs_of_nonneg h]
  · exact abs_of_nonneg h

theorem sum_map_signed (total : ℤ) (xs : List ℤ) :
    (xs.map (fun x => if total < 0 then -x else x)).sum = if total < 0 then -xs.sum else xs.sum := by
  split
  · exact (List.sum_neg xs).symm
  · rw [List.map_id']

/-- The opposite total leaves each party the opposite share. -/
theorem negate_shares {total : Money} (hcurrency : isCurrencyCode total.currency = true) (ratios : List ℤ) :
    List.Forall₂ (fun share opposite => negate share = .ok opposite)
      ((apportion total.amount.natAbs ratios).map
        (fun x => (⟨if total.amount < 0 then -x else x, toUpperCase total.currency⟩ : Money)))
      ((apportion total.amount.natAbs ratios).map
        (fun x => (⟨if -total.amount < 0 then -x else x, toUpperCase total.currency⟩ : Money))) := by
  rw [List.forall₂_map_left_iff, List.forall₂_map_right_iff, List.forall₂_same]
  intro x hx
  refine money_ok_iff.mpr ⟨_, rfl, isCurrencyCode_toUpperCase hcurrency, ?_⟩
  rw [toUpperCase_toUpperCase hcurrency]
  obtain hneg | hzero | hpos := lt_trichotomy total.amount 0
  · have hopposite : ¬ -total.amount < 0 := by omega
    rw [if_neg hopposite, if_pos hneg, neg_neg]
  · rw [hzero, Int.natAbs_zero, Nat.cast_zero, apportion_zero] at hx
    obtain rfl := List.eq_of_mem_replicate hx
    simp
  · have hopposite : -total.amount < 0 := by omega
    rw [if_pos hopposite, if_neg (not_lt.mpr hpos.le)]

/-- Splitting an amount neither loses nor invents a unit: the shares are the
exact ones rounded down, and one unit more for as many of the first parties as
there are units left. -/
theorem allocate_fair (D : Division) (hexact : D.Exact) (total : Money) (ratios : List ℤ)
    (hcurrency : isCurrencyCode total.currency = true) (hnonneg : ∀ ratio ∈ ratios, 0 ≤ ratio)
    (hpos : 0 < ratios.sum) (hsum : ratios.sum ≤ 2 ^ 53) (hsmall : ∀ ratio ∈ ratios, |total.amount| * ratio < 2 ^ 53) :
    ∃ left : ℤ, remainder D |total.amount| ratios = .integer left ∧ 0 ≤ left ∧ left < ratios.length ∧
      ∃ shares : List Money,
        (∀ fuel : ℕ, left ≤ fuel → allocate D fuel total (ratios.map .integer) = some (.ok shares)) ∧
        shares.length = ratios.length ∧ (shares.map Money.amount).sum = total.amount ∧
        (∀ i (hi : i < ratios.length), ∃ share, shares[i]? = some share ∧
          |share.amount| = |total.amount| * ratios[i] / ratios.sum + if (i : ℤ) < left then 1 else 0) ∧
        ∃ opposite opposites, negate total = .ok opposite ∧
          (∀ fuel : ℕ, left ≤ fuel → allocate D fuel opposite (ratios.map .integer) = some (.ok opposites)) ∧
          List.Forall₂ (fun share share' => negate share = .ok share') shares opposites := by
  have hsplits := splits_of_abs hnonneg hpos hsum hsmall
  have hleft := leftover_nonneg hpos |total.amount|
  refine ⟨leftover |total.amount| ratios, ?_, hleft, leftover_lt hpos _,
    (apportion total.amount.natAbs ratios).map
      (fun x => ⟨if total.amount < 0 then -x else x, toUpperCase total.currency⟩), ?_, ?_, ?_, ?_,
    ⟨-total.amount, toUpperCase total.currency⟩,
    (apportion total.amount.natAbs ratios).map
      (fun x => ⟨if -total.amount < 0 then -x else x, toUpperCase total.currency⟩), ?_, ?_, negate_shares hcurrency ratios⟩
  case refine_1 =>
    have hremainder := hsplits.remainder hexact
    rwa [← Int.abs_eq_natAbs] at hremainder
  case refine_2 =>
    intro fuel hfuel
    rw [Int.abs_eq_natAbs] at hfuel
    exact allocate_apportion hexact total hsplits hcurrency hfuel
  case refine_3 => rw [List.length_map, length_apportion]
  case refine_4 =>
    have hamounts : Money.amount ∘
        (fun x : ℤ => (⟨if total.amount < 0 then -x else x, toUpperCase total.currency⟩ : Money)) =
          fun x => if total.amount < 0 then -x else x := rfl
    rw [List.map_map, hamounts, sum_map_signed, sum_apportion hpos]
    split <;> omega
  case refine_5 =>
    intro i hi
    have hfloor : 0 ≤ |total.amount| * ratios[i] / ratios.sum :=
      Int.ediv_nonneg (mul_nonneg (abs_nonneg _) (hnonneg _ (List.getElem_mem hi))) hpos.le
    rw [← Int.abs_eq_natAbs, List.getElem?_map, getElem?_apportion hpos _ hi]
    refine ⟨_, rfl, abs_signed ?_⟩
    split <;> omega
  case refine_6 => exact money_ok_iff.mpr ⟨_, rfl, hcurrency, rfl⟩
  case refine_7 =>
    intro fuel hfuel
    have hopposite : Splits (-total.amount).natAbs ratios := by rwa [Int.natAbs_neg]
    have hallocate := allocate_apportion hexact ⟨-total.amount, toUpperCase total.currency⟩ hopposite
      (isCurrencyCode_toUpperCase hcurrency) (show _ ≤ (fuel : ℤ) by rwa [Int.natAbs_neg, ← Int.abs_eq_natAbs])
    rwa [Int.natAbs_neg, toUpperCase_toUpperCase hcurrency] at hallocate

/-- A hundred cents owed, among three. -/
theorem allocate_fair_thirds :
    ∃ shares : List Money,
      allocate Rounding.double.toDivision 3 ⟨-100, "USD"⟩ ([1, 1, 1].map .integer) = some (.ok shares) ∧
      shares.length = 3 ∧ (shares.map Money.amount).sum = -100 := by
  obtain ⟨left, _, _, hlt, shares, hallocate, hlength, hsum, _⟩ :=
    allocate_fair Rounding.double.toDivision Rounding.double_exact ⟨-100, "USD"⟩ [1, 1, 1]
      (by decide) (by decide) (by decide) (by decide) (by decide)
  exact ⟨shares, hallocate 3 hlt.le, hlength, hsum⟩

/-- The units that are handed out one by one after the floors. -/
def unitsLeft (D : Division) (totalAbs : ℤ) (ratios : List ℤ) : ℤ :=
  match remainder D totalAbs ratios with
  | .integer left => left
  | .other _ => 0

theorem handOut_of_not_positive {fuel i : ℕ} {left : Number} (h : left.isPositive = false) (shares : List Number) :
    handOut fuel i left shares = some shares := by
  cases fuel <;> simp [handOut, h]

theorem handOut_infinite {fuel i : ℕ} {text : String} (h : (Number.other text).isPositive = true) (shares : List Number) :
    handOut fuel i (.other text) shares = none := by
  induction fuel generalizing i shares with
  | zero => exact if_pos h
  | succ fuel ih =>
    rw [handOut, if_pos h]
    exact ih _

theorem plus_one {v : ℤ} (h : 0 ≤ v ∧ v ≤ 2 ^ 53) :
    ∃ v', (Number.integer v).plus (.integer 1) = .integer v' ∧ 1 ≤ v' ∧ v' ≤ 2 ^ 53 := by
  obtain hlt | heq := lt_or_eq_of_le h.2
  · exact ⟨v + 1, Number.ofExact_of_le (by omega), by omega, by omega⟩
  · -- here the sum is rounded back
    subst heq
    exact ⟨2 ^ 53, by decide +kernel, by decide, le_rfl⟩

/-- A unit once received is kept. -/
theorem handOut_keeps {fuel i j : ℕ} {left : Number} {shares shares' : List Number} {v : ℤ}
    (h : handOut fuel i left shares = some shares') (hj : shares[j]? = some (.integer v)) (hv : 1 ≤ v ∧ v ≤ 2 ^ 53) :
    ∃ v', shares'[j]? = some (.integer v') ∧ 1 ≤ v' := by
  induction fuel generalizing i left shares v with
  | zero =>
    rw [handOut] at h
    split at h
    · cases h
    · cases h
      exact ⟨v, hj, hv.1⟩
  | succ fuel ih =>
    rw [handOut] at h
    split at h
    · by_cases hij : i = j
      · obtain ⟨v', hplus, hv'⟩ := plus_one ⟨by omega, hv.2⟩
        refine ih (v := v') h ?_ hv'
        rw [hij, List.getElem?_modify_eq, hj]
        exact congrArg some hplus
      · refine ih h ?_ hv
        rw [List.getElem?_modify_ne _ _ hij, hj]
    · cases h
      exact ⟨v, hj, hv.1⟩

/-- A party whose turn comes before the units run out receives one. -/
theorem handOut_reaches {fuel i j : ℕ} {left v : ℤ} {shares shares' : List Number}
    (h : handOut fuel i (.integer left) shares = some shares') (hj : shares[j]? = some (.integer v))
    (hv : 0 ≤ v ∧ v ≤ 2 ^ 53) (hsmall : j < 2 ^ 53) (hij : i ≤ j) (hleft : (j : ℤ) - i < left) :
    ∃ v', shares'[j]? = some (.integer v') ∧ 1 ≤ v' := by
  have hpositive : (Number.integer left).isPositive = true := decide_eq_true (by omega)
  induction fuel generalizing i left shares with
  | zero =>
    rw [handOut, if_pos hpositive] at h
    cases h
  | succ fuel ih =>
    rw [handOut, if_pos hpositive] at h
    obtain rfl | hlt := Nat.eq_or_lt_of_le hij
    · obtain ⟨v', hplus, hv'⟩ := plus_one hv
      refine handOut_keeps (v := v') h ?_ hv'
      rw [List.getElem?_modify_eq, hj]
      exact congrArg some hplus
    · have hnext : (i + 1) % shares.length = i + 1 := Nat.mod_eq_of_lt (by
        have hlen := (List.getElem?_eq_some_iff.mp hj).1
        omega)
      rw [hnext] at h
      cases hminus : (Number.integer left).plus (.integer (-1)) with
      | other text =>
        -- a remainder that overflows is infinite
        have hinfinite : (Number.other text).isPositive = true := by
          change Number.ofExact (left + -1) = .other text at hminus
          rw [Number.ofExact, if_pos (show (0 : ℤ) ≤ left + -1 by omega)] at hminus
          split at hminus
          · injection hminus with htext
            rw [← htext]
            decide
          · cases hminus
        rw [hminus, handOut_infinite hinfinite] at h
        cases h
      | integer left' =>
        rw [hminus] at h
        have hbound : (j : ℤ) - (i + 1 : ℕ) < left' := by
          by_cases hexact : (left + -1).natAbs ≤ 2 ^ 53
          · have heq : Number.ofExact (left + -1) = .integer (left + -1) := Number.ofExact_of_le hexact
            have hleft' : left' = left + -1 := Number.integer.inj (hminus.symm.trans heq)
            omega
          · have hlarge := (Number.ofExact_large (not_le.mp hexact) hminus).1 (by omega)
            omega
        refine ih h ?_ hlt hbound (decide_eq_true (by omega))
        rw [List.getElem?_modify_ne _ _ hlt.ne, hj]

/-- A party whose turn does not come keeps its floor. -/
theorem handOut_misses {fuel i j : ℕ} {left : ℤ} {shares shares' : List Number}
    (h : handOut fuel i (.integer left) shares = some shares') (hlength : j < shares.length) (hsmall : j < 2 ^ 53)
    (hij : i ≤ j) (hleft : left ≤ (j : ℤ) - i) : shares'[j]? = shares[j]? := by
  obtain hzero | hpos := le_or_gt left 0
  · have hdone : (Number.integer left).isPositive = false := decide_eq_false (not_lt.mpr hzero)
    rw [handOut_of_not_positive hdone] at h
    cases h
    rfl
  · induction fuel generalizing i left shares with
    | zero =>
      rw [handOut, if_pos (Number.isPositive_integer.mpr hpos)] at h
      cases h
    | succ fuel ih =>
      rw [handOut, if_pos (Number.isPositive_integer.mpr hpos)] at h
      have hminus : (Number.integer left).plus (.integer (-1)) = .integer (left + -1) := Number.ofExact_of_le (by omega)
      have hnext : (i + 1) % shares.length = i + 1 := Nat.mod_eq_of_lt (by omega)
      rw [hnext, hminus] at h
      have hother : (shares.modify i (fun share => share.plus (.integer 1)))[j]? = shares[j]? :=
        List.getElem?_modify_ne _ _ (by omega)
      obtain hlast | hmore := le_or_gt (left + -1) 0
      · have hdone : (Number.integer (left + -1)).isPositive = false := decide_eq_false (not_lt.mpr hlast)
        rw [handOut_of_not_positive hdone] at h
        cases h
        exact hother
      · rw [ih h (by rwa [List.length_modify]) (by omega) (by omega) hmore, hother]

theorem mapM_ratio?_eq {ratios rs : List ℤ} (h : (ratios.map Number.integer).mapM ratio? = some rs) : rs = ratios := by
  induction ratios generalizing rs with
  | nil =>
    cases h
    rfl
  | cons ratio ratios ih =>
    rw [List.map_cons, List.mapM_cons] at h
    obtain ⟨r, hr, h⟩ := Option.bind_eq_some_iff.mp h
    obtain ⟨rest, hrest, h⟩ := Option.bind_eq_some_iff.mp h
    cases h
    rw [ih hrest]
    simp only [ratio?] at hr
    split at hr
    · cases hr
      rfl
    · cases hr

theorem mapM_money_getElem? {total : ℤ} {currency : String} {xs : List Number} {shares : List Money} {i : ℕ} {x : Number}
    (h : xs.mapM (fun share => money (signed total share) currency) = .ok shares) (hx : xs[i]? = some x) :
    ∃ share, shares[i]? = some share ∧ money (signed total x) currency = .ok share := by
  induction xs generalizing shares i with
  | nil => cases hx
  | cons y xs ih =>
    rw [List.mapM_cons] at h
    obtain ⟨share, hshare, h⟩ := except_bind_ok.mp h
    obtain ⟨rest, hrest, h⟩ := except_bind_ok.mp h
    cases h
    cases i with
    | zero =>
      cases hx
      exact ⟨share, rfl, hshare⟩
    | succ i =>
      obtain ⟨found, hfound, hmoney⟩ := ih hrest hx
      exact ⟨found, hfound, hmoney⟩

theorem floorShares_zero (D : Division) (totalAbs : ℤ) {ratios : List ℤ} {i : ℕ} (hi : ratios[i]? = some 0) :
    (floorShares D totalAbs ratios)[i]? = some (.integer 0) := by
  have hmul : Number.mul totalAbs 0 = .integer 0 := by
    rw [Number.mul, mul_zero]
    exact Number.ofExact_of_le (by decide)
  rw [floorShares, List.getElem?_map, hi, Option.map_some, hmul]
  cases Number.sumFrom 0 ratios with
  | other text => rfl
  | integer s =>
    have hzero : ((0 : ℤ) : ℚ) / s = 0 := by rw [Int.cast_zero, zero_div]
    obtain ⟨x, hx, hclose⟩ := D.quotient_near ((0 : ℤ) : ℚ) s (Or.inl hzero)
    rw [hzero] at hclose
    rw [Number.floorQuotient, hx, Double.floor, hclose.zero, Int.floor_zero]

theorem amount_eq_zero_iff {total v : ℤ} {currency : String} {share : Money}
    (h : money (signed total (.integer v)) currency = .ok share) : share.amount = 0 ↔ v = 0 := by
  obtain ⟨n, hn, _, rfl⟩ := money_ok_iff.mp h
  have hproduct : v * (if total < 0 then -1 else 1) = 0 ↔ v = 0 := by
    split <;> omega
  rw [← hproduct]
  exact Number.ofExact_eq_zero_iff hn

/-- A party without weight receives nothing exactly when the units left after
the floors are spent before its turn. -/
theorem zero_weight_share_iff (D : Division) (fuel : ℕ) (total : Money) (ratios : List ℤ) {shares : List Money} {i : ℕ}
    (hlength : ratios.length < 2 ^ 32) (h : allocate D fuel total (ratios.map .integer) = some (.ok shares))
    (hi : ratios[i]? = some 0) :
    ∃ share, shares[i]? = some share ∧ (share.amount = 0 ↔ unitsLeft D |total.amount| ratios ≤ i) := by
  have hbound : i < ratios.length := (List.getElem?_eq_some_iff.mp hi).1
  unfold allocate at h
  split at h
  · cases h
  · split at h
    · cases h
    · rename_i rs hrs
      obtain rfl := mapM_ratio?_eq hrs
      split at h
      · cases h
      · obtain ⟨handed, hhanded, h⟩ := Option.map_eq_some_iff.mp h
        have hfloor := floorShares_zero D total.amount.natAbs hi
        have hlen := (List.getElem?_eq_some_iff.mp hfloor).1
        rw [unitsLeft, Int.abs_eq_natAbs]
        cases hleft : remainder D total.amount.natAbs rs with
        | integer left =>
          rw [hleft] at hhanded
          change ∃ share, shares[i]? = some share ∧ (share.amount = 0 ↔ left ≤ i)
          obtain hle | hlt := le_or_gt left i
          · -- its turn does not come
            have hkept := handOut_misses hhanded hlen (by omega) i.zero_le (by omega)
            rw [hfloor] at hkept
            obtain ⟨share, hshare, hmoney⟩ := mapM_money_getElem? h hkept
            exact ⟨share, hshare, iff_of_true ((amount_eq_zero_iff hmoney).mpr rfl) hle⟩
          · obtain ⟨v, hv, hone⟩ := handOut_reaches hhanded hfloor ⟨le_rfl, by decide⟩ (by omega) i.zero_le (by omega)
            obtain ⟨share, hshare, hmoney⟩ := mapM_money_getElem? h hv
            refine ⟨share, hshare, iff_of_false ?_ (not_le.mpr hlt)⟩
            rw [amount_eq_zero_iff hmoney]
            omega
        | other text =>
          rw [hleft] at hhanded
          cases hpositive : (Number.other text).isPositive with
          | true =>
            rw [handOut_infinite hpositive] at hhanded
            cases hhanded
          | false =>
            rw [handOut_of_not_positive hpositive] at hhanded
            cases hhanded
            obtain ⟨share, hshare, hmoney⟩ := mapM_money_getElem? h hfloor
            exact ⟨share, hshare, iff_of_true ((amount_eq_zero_iff hmoney).mpr rfl) (Int.natCast_nonneg i)⟩

theorem allocate_one_cent {ratios : List ℤ} (h : Splits 1 ratios) :
    allocate Rounding.double.toDivision 1 ⟨1, "USD"⟩ (ratios.map .integer) =
      some (.ok ((apportion 1 ratios).map (fun share => ⟨share, "USD"⟩))) := by
  have hleft : leftover 1 ratios ≤ (1 : ℕ) := by
    have hnonneg := List.sum_nonneg (floors_nonneg h.total_nonneg h.nonneg)
    rw [leftover]
    omega
  exact allocate_apportion Rounding.double_exact ⟨1, "USD"⟩ h (by decide) hleft

/-- One cent goes to the first party, whatever its weight. -/
theorem zero_weight_receives_unit :
    allocate Rounding.double.toDivision 1 ⟨1, "USD"⟩ ([0, 1, 1].map .integer) =
      some (.ok [⟨1, "USD"⟩, ⟨0, "USD"⟩, ⟨0, "USD"⟩]) :=
  allocate_one_cent ⟨by decide, by decide, by decide, by decide, by decide⟩

theorem zero_weight_share_last :
    ∃ share, [(⟨1, "USD"⟩ : Money), ⟨0, "USD"⟩, ⟨0, "USD"⟩][2]? = some share ∧
      (share.amount = 0 ↔ unitsLeft Rounding.double.toDivision |1| [1, 1, 0] ≤ (2 : ℕ)) :=
  zero_weight_share_iff Rounding.double.toDivision 1 ⟨1, "USD"⟩ [1, 1, 0] (by decide)
    (allocate_one_cent ⟨by decide, by decide, by decide, by decide, by decide⟩) rfl

end HostPanel.Billing
