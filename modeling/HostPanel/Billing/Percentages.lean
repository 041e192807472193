import HostPanel.Model.Allocation

namespace HostPanel.Billing

open HostPanel.Lib HostPanel.Model

/-- The nearest whole number of minor units, ties rounded up. -/
def nearestShare (amount bps : ℤ) : ℤ := ⌊(amount * bps : ℚ) / 10000 + 1 / 2⌋

theorem nearestShare_eq (amount bps : ℤ) : nearestShare amount bps = (amount * bps + 5000) / 10000 := by
  have hquotient : (amount * bps : ℚ) / 10000 + 1 / 2 = ((amount * bps + 5000 : ℤ) : ℚ) / (10000 : ℕ) := by
    push_cast
    ring
  rw [nearestShare, hquotient, Rat.floor_intCast_div_natCast]
  rfl

theorem abs_nearestShare_sub_le (amount bps : ℤ) : |(nearestShare amount bps : ℚ) - amount * bps / 10000| ≤ 1 / 2 := by
  have hlow := Int.floor_le ((amount * bps : ℚ) / 10000 + 1 / 2)
  have hhigh := Int.lt_floor_add_one ((amount * bps : ℚ) / 10000 + 1 / 2)
  rw [nearestShare]
  exact abs_le.mpr ⟨by linarith, by linarith⟩

theorem nearestShare_mono {a b bps : ℤ} (hbps : 0 ≤ bps) (h : a ≤ b) : nearestShare a bps ≤ nearestShare b bps := by
  rw [nearestShare_eq, nearestShare_eq]
  have hmul : a * bps ≤ b * bps := mul_le_mul_of_nonneg_right h hbps
  exact Int.ediv_le_ediv (by decide) (by omega)

theorem nearestShare_whole (amount : ℤ) : nearestShare amount 10000 = amount := by
  rw [nearestShare_eq]
  omega

theorem abs_nearestShare_add_le (a b bps : ℤ) :
    |nearestShare a bps + nearestShare b bps - nearestShare (a + b) bps| ≤ 1 := by
  rw [nearestShare_eq, nearestShare_eq, nearestShare_eq, add_mul]
  refine abs_le.mpr ⟨?_, ?_⟩ <;> omega

theorem percentageBps_ok {D : Division} (hexact : D.ExactHalves) {a : Money} {bps : ℤ}
    (hcurrency : isCurrencyCode a.currency = true) (hbps : 0 ≤ bps) (hsmall : |a.amount * bps| < 2 ^ 53) :
    percentageBps D a (.integer bps) = .ok ⟨nearestShare a.amount bps, toUpperCase a.currency⟩ := by
  have hlt : (a.amount * bps).natAbs < 2 ^ 53 := by
    rw [Int.abs_eq_natAbs] at hsmall
    exact_mod_cast hsmall
  have hmul : Number.mul a.amount bps = .integer (a.amount * bps) := Number.ofExact_of_le hlt.le
  have hround := D.round_quotient hexact hlt (h := 5000) (by decide) (by norm_num)
  have hnumber : Number.roundQuotient D (Number.mul a.amount bps) 10000 = .integer (nearestShare a.amount bps) := by
    rw [hmul, nearestShare_eq]
    exact hround
  rw [percentageBps, if_neg (not_lt.mpr hbps)]
  exact money_ok_iff.mpr ⟨_, hnumber, hcurrency, rfl⟩

theorem add_amount {a b total : Money} (h : add a b = .ok total) (hsmall : |total.amount| < 2 ^ 53) :
    total.amount = a.amount + b.amount := by
  obtain ⟨_, n, hsum, _, rfl⟩ := (add_ok_iff.trans (and_congr_right fun _ => money_ok_iff)).mp h
  rw [Int.abs_eq_natAbs] at hsmall
  exact Number.eq_of_ofExact hsum (by exact_mod_cast hsmall)

theorem add_currency {a b total : Money} (h : add a b = .ok total) :
    a.currency = b.currency ∧ isCurrencyCode total.currency = true := by
  obtain ⟨hsame, n, _, hcode, rfl⟩ := (add_ok_iff.trans (and_congr_right fun _ => money_ok_iff)).mp h
  exact ⟨hsame, isCurrencyCode_toUpperCase hcode⟩

/-- A percentage rounds the exact share to the nearest unit. So it is off by half
a unit at most, grows with the amount, is the whole amount at 10000 basis points,
and splitting the amount in two changes the sum by one unit at most. -/
theorem percentageBps_rounds (D : Division) (hexact : D.ExactHalves) (bps : ℤ) (hbps : 0 ≤ bps) :
    (∀ a : Money, isCurrencyCode a.currency = true → |a.amount * bps| < 2 ^ 53 →
      ∃ share, percentageBps D a (.integer bps) = .ok share ∧
        share.amount = ⌊(a.amount * bps : ℚ) / 10000 + 1 / 2⌋ ∧
        |(share.amount : ℚ) - a.amount * bps / 10000| ≤ 1 / 2) ∧
      (∀ a b : Money, isCurrencyCode a.currency = true → isCurrencyCode b.currency = true → |a.amount * bps| < 2 ^ 53 →
        |b.amount * bps| < 2 ^ 53 → a.amount ≤ b.amount →
        ∃ share share', percentageBps D a (.integer bps) = .ok share ∧ percentageBps D b (.integer bps) = .ok share' ∧
          share.amount ≤ share'.amount) ∧
      (∀ a : Money, (∃ amount currency, money amount currency = .ok a) → |a.amount * 10000| < 2 ^ 53 →
        percentageBps D a (.integer 10000) = .ok a) ∧
      ∀ a b total : Money, isCurrencyCode a.currency = true → add a b = .ok total → |a.amount * bps| < 2 ^ 53 →
        |b.amount * bps| < 2 ^ 53 → |total.amount * bps| < 2 ^ 53 →
        ∃ share share' shared, percentageBps D a (.integer bps) = .ok share ∧
          percentageBps D b (.integer bps) = .ok share' ∧ percentageBps D total (.integer bps) = .ok shared ∧
          |share.amount + share'.amount - shared.amount| ≤ 1 := by
  refine ⟨?_, ?_, ?_, ?_⟩
  case refine_1 =>
    intro a hcurrency hsmall
    exact ⟨_, percentageBps_ok hexact hcurrency hbps hsmall, rfl, abs_nearestShare_sub_le a.amount bps⟩
  case refine_2 =>
    intro a b hcurrency hcurrency' hsmall hsmall' hle
    exact ⟨_, _, percentageBps_ok hexact hcurrency hbps hsmall, percentageBps_ok hexact hcurrency' hbps hsmall',
      nearestShare_mono hbps hle⟩
  case refine_3 =>
    rintro a ⟨amount, currency, hbuilt⟩ hsmall
    obtain ⟨n, _, hcode, rfl⟩ := money_ok_iff.mp hbuilt
    have hok : percentageBps D ⟨n, toUpperCase currency⟩ (.integer 10000) =
        .ok ⟨nearestShare n 10000, toUpperCase (toUpperCase currency)⟩ :=
      percentageBps_ok hexact (isCurrencyCode_toUpperCase hcode) (by decide) hsmall
    rw [hok, nearestShare_whole, toUpperCase_toUpperCase hcode]
  case refine_4 =>
    intro a b total hcurrency hadd hsmall hsmall' hsmallTotal
    obtain ⟨hsame, hcode⟩ := add_currency hadd
    refine ⟨_, _, _, percentageBps_ok hexact hcurrency hbps hsmall,
      percentageBps_ok hexact (hsame ▸ hcurrency) hbps hsmall', percentageBps_ok hexact hcode hbps hsmallTotal, ?_⟩
    change |nearestShare a.amount bps + nearestShare b.amount bps - nearestShare total.amount bps| ≤ 1
    obtain hpos | rfl := hbps.lt_or_eq
    · -- the sum is below 2^53, so it was added up exactly
      have hle : |total.amount| ≤ |total.amount * bps| := by
        rw [abs_mul, abs_of_pos hpos]
        exact le_mul_of_one_le_right (abs_nonneg _) hpos
      rw [add_amount hadd (hle.trans_lt hsmallTotal)]
      exact abs_nearestShare_add_le a.amount b.amount bps
    · simp [nearestShare_eq]

/-- A tenth of an amount owed, where the tie goes up to zero. -/
theorem percentageBps_rounds_owed :
    (∃ share, percentageBps Rounding.double.toDivision ⟨-5, "USD"⟩ (.integer 1000) = .ok share ∧
      share.amount = ⌊((-5 : ℤ) * (1000 : ℤ) : ℚ) / 10000 + 1 / 2⌋) ∧
      percentageBps Rounding.double.toDivision ⟨-5, "USD"⟩ (.integer 10000) = .ok ⟨-5, "USD"⟩ := by
  obtain ⟨hround, _, hwhole, _⟩ :=
    percentageBps_rounds Rounding.double.toDivision Rounding.double_exactHalves 1000 (by decide)
  obtain ⟨share, hshare, hamount, _⟩ := hround ⟨-5, "USD"⟩ (by decide) (by decide)
  exact ⟨⟨share, hshare, hamount⟩, hwhole ⟨-5, "USD"⟩ ⟨.integer (-5), "usd", by rfl⟩ (by decide)⟩

end HostPanel.Billing
