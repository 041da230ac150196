import BenchGate.Proofs.Binary64.Difference
import BenchGate.Proofs.Binary64.Scientific

/-!
# What rounding loses

Rounding moves a number by half of its last place at most (`abs_nearest_sub_le_half`). For a
multiple of the least double, as every sum of doubles is, that is a small part of the number
(`abs_nearest_sub_le_mul`). Numbers are lost altogether at the two ends of the range only, and both
ends are known exactly: what rounds to zero (`round_eq_zero_iff`), and what rounds to a finite
double (`abs_round_lt_overflow_iff`). At each end a tie decides which side the end itself is on.
-/

namespace BenchGate.Binary64

variable {q : ℚ}

/-- From zero on there is only one overflow. -/
theorem round_of_nonneg (h : 0 ≤ q) : round q = min overflow (nearest q) :=
  max_eq_right (le_min (by linarith [overflow_pos]) (by linarith [overflow_pos, nearest_nonneg h]))

/-- The last place of a number that begins with a known power of two. -/
theorem lastPlace_eq_max {k : ℤ} (hlow : (2 : ℚ) ^ k ≤ |q|) (hhigh : |q| < 2 ^ (k + 1)) :
    lastPlace q = max (k - 52) leastExponent := by
  have hpos : 0 < |q| := (zpow_pos (by norm_num) k).trans_le hlow
  have hlog : k ≤ Int.log 2 |q| :=
    (Int.zpow_le_iff_le_log (by norm_num) hpos).1 (by rwa [Nat.cast_ofNat])
  have hlog' : Int.log 2 |q| < k + 1 :=
    (Int.lt_zpow_iff_log_lt (by norm_num) hpos).1 (by rwa [Nat.cast_ofNat])
  rw [lastPlace, show Int.log 2 |q| = k by omega]

/-! ## Ties -/

/-- Half-way between two whole numbers the even one is taken. -/
theorem nearestEven_add_half (n : ℤ) : nearestEven (n + 1 / 2) = n + n % 2 := by
  have hfloor : ⌊(n : ℚ) + 1 / 2⌋ = n := by
    rw [Int.floor_eq_iff]
    constructor <;> linarith
  rw [nearestEven, hfloor, add_sub_cancel_left, if_neg (lt_irrefl _), if_neg (lt_irrefl _)]

/-- Half-way between two multiples of the last place the even one is taken. -/
theorem nearest_add_half {n : ℤ} (h : q = (n + 1 / 2) * 2 ^ lastPlace q) :
    nearest q = (n + n % 2 : ℤ) * 2 ^ lastPlace q := by
  have hquot : q / 2 ^ lastPlace q = n + 1 / 2 :=
    (div_eq_iff (zpow_ne_zero _ (by norm_num))).2 h
  rw [nearest, hquot, nearestEven_add_half]

/-! ## Underflow -/

/-- The place of half the least double is that of the least double. -/
theorem lastPlace_half_leastPositive : lastPlace (leastPositive / 2) = leastExponent := by
  have hhalf : |leastPositive / 2| = 2 ^ (-1075 : ℤ) := by
    rw [abs_of_pos (half_pos leastPositive_pos), leastPositive, leastExponent,
      show (-1074 : ℤ) = -1075 + 1 from rfl, zpow_add₀ (by norm_num : (2 : ℚ) ≠ 0)]
    norm_num
  rw [lastPlace_eq_max hhalf.ge (hhalf.trans_lt (zpow_lt_zpow_right₀ (by norm_num) (by decide)))]
  decide

/-- Half the least double is a tie that goes to zero. -/
theorem nearest_half_leastPositive : nearest (leastPositive / 2) = 0 := by
  have htie : leastPositive / 2 =
      (((0 : ℤ) : ℚ) + 1 / 2) * 2 ^ lastPlace (leastPositive / 2) := by
    rw [lastPlace_half_leastPositive, leastPositive]
    ring
  rw [nearest_add_half htie]
  simp

/-- From zero on, what rounds to zero is what is not above half the least double. -/
theorem nearest_eq_zero_iff (h : 0 ≤ q) : nearest q = 0 ↔ q ≤ leastPositive / 2 := by
  constructor
  · intro hzero
    have hclosest := abs_nearest_sub_le q (n := 1) (by norm_num) (le_refl leastExponent)
    rw [hzero, zero_sub, abs_neg, abs_of_nonneg h, Int.cast_one, one_mul] at hclosest
    change q ≤ |leastPositive - q| at hclosest
    have hpos := leastPositive_pos
    rcases le_total q leastPositive with hle | hle
    · rw [abs_of_nonneg (sub_nonneg.2 hle)] at hclosest
      linarith
    · rw [abs_of_nonpos (sub_nonpos.2 hle)] at hclosest
      linarith
  · intro hle
    exact le_antisymm (nearest_half_leastPositive ▸ nearest_mono hle) (nearest_nonneg h)

/-- What rounds to zero is what is not further from it than half the least double. -/
theorem round_eq_zero_iff : round q = 0 ↔ |q| ≤ leastPositive / 2 := by
  have hnonneg : ∀ {q : ℚ}, 0 ≤ q → (round q = 0 ↔ q ≤ leastPositive / 2) := by
    intro q hq
    rw [round_of_nonneg hq, ← nearest_eq_zero_iff hq, min_eq_iff]
    constructor
    · rintro (⟨hzero, -⟩ | ⟨hzero, -⟩)
      · exact absurd hzero overflow_pos.ne'
      · exact hzero
    · intro hzero
      exact .inr ⟨hzero, hzero.trans_le overflow_pos.le⟩
  rcases le_total 0 q with hq | hq
  · rw [abs_of_nonneg hq, hnonneg hq]
  · rw [abs_of_nonpos hq, ← hnonneg (neg_nonneg.2 hq), round_neg, neg_eq_zero]

/-! ## Overflow -/

/-- Half a last place of the greatest finite doubles. -/
def halfPlace : ℚ := 2 ^ (970 : ℕ)

theorem halfPlace_pos : 0 < halfPlace :=
  pow_pos (by norm_num) _

/-- Where the finite doubles end, half a last place below the overflow. -/
def finiteEnd : ℚ := overflow - halfPlace

/-- A power of two from there on, in halves of the last place. -/
theorem zpow_eq_mul_halfPlace (k : ℕ) : (2 : ℚ) ^ ((k + 970 : ℕ) : ℤ) = 2 ^ k * halfPlace := by
  rw [zpow_natCast, pow_add, halfPlace]

theorem overflow_eq_mul : overflow = 2 ^ 54 * halfPlace := by
  rw [← zpow_eq_mul_halfPlace 54, overflow, zpow_natCast]

theorem finiteEnd_eq_mul : finiteEnd = (2 ^ 54 - 1) * halfPlace := by
  rw [finiteEnd, overflow_eq_mul]
  ring

theorem finiteEnd_pos : 0 < finiteEnd := by
  rw [finiteEnd_eq_mul]
  exact mul_pos (by norm_num) halfPlace_pos

theorem lastPlace_finiteEnd : lastPlace finiteEnd = 971 := by
  have habs : |finiteEnd| = (2 ^ 54 - 1) * halfPlace := by
    rw [abs_of_pos finiteEnd_pos, finiteEnd_eq_mul]
  have hlow : (2 : ℚ) ^ (1023 : ℤ) ≤ |finiteEnd| := by
    rw [habs]
    exact (zpow_eq_mul_halfPlace 53).trans_le
      (mul_le_mul_of_nonneg_right (by norm_num) halfPlace_pos.le)
  have hhigh : |finiteEnd| < 2 ^ (1023 + 1 : ℤ) := by
    rw [habs]
    exact (mul_lt_mul_of_pos_right (by norm_num) halfPlace_pos).trans_eq
      (zpow_eq_mul_halfPlace 54).symm
  rw [lastPlace_eq_max hlow hhigh]
  decide

/-- The end itself is a tie that goes to infinity. -/
theorem nearest_finiteEnd : nearest finiteEnd = overflow := by
  have hplace : (2 : ℚ) ^ lastPlace finiteEnd = 2 * halfPlace := by
    rw [lastPlace_finiteEnd]
    exact (zpow_eq_mul_halfPlace 1).trans (by rw [pow_one])
  have htie : finiteEnd = (((2 ^ 53 - 1 : ℤ) : ℚ) + 1 / 2) * 2 ^ lastPlace finiteEnd := by
    rw [hplace, finiteEnd_eq_mul]
    push_cast
    ring
  rw [nearest_add_half htie, hplace, overflow_eq_mul]
  norm_num
  ring

/-- What rounds to less than the overflow is what is below their end. Below it the greatest finite
double is closer than the overflow. -/
theorem nearest_lt_overflow_iff : nearest q < overflow ↔ q < finiteEnd := by
  have hhalf := halfPlace_pos
  constructor
  · intro hlt
    by_contra hle
    have hover : overflow ≤ nearest q := nearest_finiteEnd ▸ nearest_mono (not_lt.1 hle)
    exact hover.not_gt hlt
  · intro hlt
    by_contra hover
    have hgreatest : ((2 ^ 53 - 1 : ℤ) : ℚ) * 2 ^ (971 : ℤ) = overflow - 2 * halfPlace := by
      rw [show (971 : ℤ) = (1 + 970 : ℕ) from rfl, zpow_eq_mul_halfPlace 1, overflow_eq_mul]
      push_cast
      ring
    have hclosest := abs_nearest_sub_le q (n := 2 ^ 53 - 1) (e := 971) (by norm_num) (by decide)
    have hover := not_lt.1 hover
    rw [finiteEnd] at hlt
    rw [hgreatest, abs_of_nonneg (by linarith : 0 ≤ nearest q - q)] at hclosest
    rcases abs_cases (overflow - 2 * halfPlace - q) with ⟨habs, -⟩ | ⟨habs, -⟩ <;>
      rw [habs] at hclosest <;> linarith

/-- What rounds to a finite double is what is between their ends. -/
theorem abs_round_lt_overflow_iff : |round q| < overflow ↔ |q| < finiteEnd := by
  have hnonneg : ∀ {q : ℚ}, 0 ≤ q → (round q < overflow ↔ q < finiteEnd) := by
    intro q hq
    rw [round_of_nonneg hq, min_lt_iff, ← nearest_lt_overflow_iff]
    exact or_iff_right (lt_irrefl _)
  rcases le_total 0 q with hq | hq
  · rw [abs_of_nonneg hq, abs_of_nonneg (round_nonneg hq), hnonneg hq]
  · have hq' := neg_nonneg.2 hq
    rw [abs_of_nonpos hq, ← hnonneg hq', ← abs_neg, ← round_neg, abs_of_nonneg (round_nonneg hq')]

/-! ## Relative error -/

/-- A number is half a unit at most from the whole number it rounds to. -/
theorem abs_nearestEven_sub_le_half (q : ℚ) : |nearestEven q - q| ≤ 1 / 2 := by
  have hfloor := Int.floor_le q
  have hceil := Int.lt_floor_add_one q
  have hbelow := abs_nearestEven_sub_le q ⌊q⌋
  have habove := abs_nearestEven_sub_le q (⌊q⌋ + 1)
  rw [abs_sub_comm (⌊q⌋ : ℚ), abs_of_nonneg (sub_nonneg.2 hfloor)] at hbelow
  push_cast at habove
  rw [abs_of_nonneg (sub_nonneg.2 hceil.le)] at habove
  linarith

/-- Rounding moves a number by half of its last place at most. -/
theorem abs_nearest_sub_le_half (q : ℚ) : |nearest q - q| ≤ 2 ^ lastPlace q / 2 := by
  have hpos : (0 : ℚ) < 2 ^ lastPlace q := zpow_pos (by norm_num) _
  have hscale : nearest q - q = (nearestEven (q / 2 ^ lastPlace q) - q / 2 ^ lastPlace q) *
      2 ^ lastPlace q := by
    rw [nearest, sub_mul, div_mul_cancel₀ _ hpos.ne']
  calc |nearest q - q| = |nearestEven (q / 2 ^ lastPlace q) - q / 2 ^ lastPlace q| *
        2 ^ lastPlace q := by rw [hscale, abs_mul, abs_of_pos hpos]
    _ ≤ 1 / 2 * 2 ^ lastPlace q :=
        mul_le_mul_of_nonneg_right (abs_nearestEven_sub_le_half _) hpos.le
    _ = 2 ^ lastPlace q / 2 := by ring

/-- The unit of relative errors: half a place of 53. -/
def unitRoundOff : ℚ := 1 / 2 ^ 53

theorem unitRoundOff_pos : 0 < unitRoundOff := by
  norm_num [unitRoundOff]

/-- Rounding a multiple of the least double moves it by a unit of its size at most. In the least
place there is nothing to round. -/
theorem abs_nearest_sub_le_mul {k : ℤ} (h : q = k * leastPositive) :
    |nearest q - q| ≤ |q| * unitRoundOff := by
  rcases eq_or_ne q 0 with rfl | hne
  · simp
  by_cases hplace : lastPlace q = leastExponent
  · have hself : q = k * 2 ^ lastPlace q := by rw [hplace, ← leastPositive, ← h]
    rw [nearest_eq_self hself, sub_self, abs_zero]
    exact mul_nonneg (abs_nonneg q) unitRoundOff_pos.le
  · have hlog : lastPlace q = Int.log 2 |q| - 52 := by
      unfold lastPlace at hplace ⊢
      omega
    have hlead : (2 : ℚ) ^ Int.log 2 |q| ≤ |q| := by
      exact_mod_cast Int.zpow_log_le_self (b := 2) (by norm_num) (abs_pos.2 hne)
    calc |nearest q - q| ≤ 2 ^ lastPlace q / 2 := abs_nearest_sub_le_half q
      _ = 2 ^ Int.log 2 |q| * unitRoundOff := by
          rw [hlog, zpow_sub₀ (by norm_num : (2 : ℚ) ≠ 0), unitRoundOff,
            show (52 : ℤ) = (52 : ℕ) from rfl, zpow_natCast]
          ring
      _ ≤ |q| * unitRoundOff := mul_le_mul_of_nonneg_right hlead unitRoundOff_pos.le

end BenchGate.Binary64
