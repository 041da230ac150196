import BenchGate.Proofs.Binary64.Closest

/-!
# What a difference and a quotient tell

Rounding a difference never hides which of two doubles is the larger one, since no two of them are
closer than the least double (`Float.sub_pos_iff`). A quotient may round to one although its parts
differ, but it is never on the wrong side of one (`Float.lt_of_lt_div`, `Float.lt_of_div_lt`).
-/

namespace BenchGate.Binary64

/-- The least double, above zero. -/
def leastPositive : ℚ := 2 ^ leastExponent

theorem leastPositive_pos : 0 < leastPositive :=
  zpow_pos (by norm_num) _

/-- What is at least the least double does not round to zero. -/
theorem le_round {q : ℚ} (h : leastPositive ≤ q) : leastPositive ≤ round q := by
  have hself : round leastPositive = leastPositive := by
    have hle : |((1 : ℤ) : ℚ) * 2 ^ leastExponent| ≤ overflow := by
      rw [Int.cast_one, one_mul, abs_of_pos (zpow_pos (by norm_num) _), overflow, ← zpow_natCast]
      exact zpow_le_zpow_right₀ (by norm_num) (by decide)
    simpa [leastPositive] using
      round_eq_self (n := 1) (e := leastExponent) (by norm_num) le_rfl hle
  exact hself ▸ round_mono h

/-- So it is below zero. -/
theorem round_le {q : ℚ} (h : q ≤ -leastPositive) : round q ≤ -leastPositive := by
  have hround := le_round (le_neg.1 h)
  rwa [round_neg, le_neg] at hround

end BenchGate.Binary64

namespace Float

open BenchGate BenchGate.Binary64

variable {x y z : Float}

/-- A finite double is a multiple of the least one. -/
theorem exists_multiple (h : x.isFinite = true) : ∃ k : ℤ, x.value = k * leastPositive := by
  obtain ⟨n, e, hvalue, -, he⟩ := exists_places h
  refine ⟨n * 2 ^ (e - leastExponent).toNat, ?_⟩
  rw [hvalue, Int.cast_mul, mul_assoc, leastPositive, zpow_eq_mul_zpow he]

/-- A finite double is its own rounding. -/
theorem round_value (h : x.isFinite = true) : Binary64.round x.value = x.value := by
  obtain ⟨n, e, hvalue, hn, he⟩ := exists_places h
  rw [hvalue]
  exact round_eq_self hn he (hvalue ▸ (isFinite_iff.1 h).2.le)

section
variable (hx : x.isFinite = true) (hy : y.isFinite = true)
include hx hy

/-- Two doubles that differ are at least the least double apart. -/
theorem leastPositive_le_sub (h : y.value < x.value) : leastPositive ≤ x.value - y.value := by
  obtain ⟨m, hm⟩ := exists_multiple hx
  obtain ⟨n, hn⟩ := exists_multiple hy
  rw [hm, hn, mul_lt_mul_iff_left₀ leastPositive_pos, Int.cast_lt] at h
  have hone : (1 : ℚ) ≤ m - n := by exact_mod_cast (by omega : 1 ≤ m - n)
  calc leastPositive = 1 * leastPositive := (one_mul _).symm
    _ ≤ (m - n) * leastPositive := mul_le_mul_of_nonneg_right hone leastPositive_pos.le
    _ = x.value - y.value := by rw [hm, hn, sub_mul]

/-- A difference is above zero when the first double is the larger one. -/
theorem sub_pos_iff : 0 < x - y ↔ y < x := by
  obtain ⟨hvalue, hnum⟩ := value_sub hx hy
  rw [pos_iff, hvalue, lt_iff]
  constructor
  · rintro ⟨-, hpos⟩
    refine ⟨isNaN_of_isFinite hy, isNaN_of_isFinite hx, lt_of_not_ge fun hle => ?_⟩
    have hround := round_mono (sub_nonpos.2 hle)
    rw [round_zero] at hround
    exact hround.not_gt hpos
  · rintro ⟨-, -, hlt⟩
    exact ⟨hnum, leastPositive_pos.trans_le (le_round (leastPositive_le_sub hx hy hlt))⟩

end

/-! ## Quotients and one -/

/-- A small natural number as a double. -/
theorem value_natLit (n : ℕ) (hn : n < 2 ^ 53) :
    (OfNat.ofNat n : Float).value = n ∧ (OfNat.ofNat n : Float).isFinite = true := by
  have hvalue := value_ofNat hn
  exact ⟨hvalue.1, isFinite_iff.2 ⟨hvalue.2, hvalue.1 ▸ natCast_lt_overflow hn⟩⟩

theorem value_one : (1 : Float).value = 1 ∧ (1 : Float).isFinite = true := by
  simpa using value_natLit 1 (by norm_num)

/-- A quotient by one is the dividend. -/
protected theorem div_one (h : x.isFinite = true) : x / 1 = x := by
  obtain ⟨hone, hone'⟩ := value_one
  have hzero : (1 : Float).value ≠ 0 := by
    rw [hone]
    exact one_ne_zero
  obtain ⟨hvalue, hnum⟩ := value_div h hone' hzero
  refine eq_of_value hnum (isNaN_of_isFinite h) ?_ ?_
  · rw [hvalue, hone, div_one, round_value h]
  · rw [negative_div h hone' hzero, show (ofFloat 1).negative = false by decide +kernel,
      Bool.xor_false]

/-- One times a number above zero is the number. -/
theorem one_mul_of_pos (h : 0 < x) : 1 * x = x := by
  obtain ⟨hone, hone'⟩ := value_one
  rcases isFinite_or_eq_infinity (Float.le_of_lt h) with hfin | rfl
  · obtain ⟨hvalue, hnum⟩ := value_mul hone' hfin
    have heq : (1 * x).value = x.value := by rw [hvalue, hone, one_mul, round_value hfin]
    exact eq_of_value_ne_zero hnum (pos_iff.1 h).1 heq (heq ▸ (pos_iff.1 h).2.ne')
  · exact mul_infinity (by decide +kernel) hone'

section
variable (hx : x.isFinite = true) (hy : y.isFinite = true) (hpos : 0 < y)
include hx hy hpos

/-- A quotient above a number from one on has a dividend above its divisor. -/
theorem lt_of_lt_div (hz : 1 ≤ z) (h : z < x / y) : y < x := by
  have hypos := (pos_iff.1 hpos).2
  obtain ⟨hvalue, -⟩ := value_div hx hy hypos.ne'
  refine lt_iff.2 ⟨isNaN_of_isFinite hy, isNaN_of_isFinite hx, lt_of_not_ge fun hle => ?_⟩
  have hround := round_mono ((div_le_one hypos).2 hle)
  rw [← hvalue, ← value_one.1, round_value value_one.2] at hround
  exact ((le_iff.1 hz).2.2.trans_lt (lt_iff.1 h).2.2).not_ge hround

/-- A quotient below a number up to one has a dividend below its divisor. -/
theorem lt_of_div_lt (hz : z ≤ 1) (h : x / y < z) : x < y := by
  have hypos := (pos_iff.1 hpos).2
  obtain ⟨hvalue, -⟩ := value_div hx hy hypos.ne'
  refine lt_iff.2 ⟨isNaN_of_isFinite hx, isNaN_of_isFinite hy, lt_of_not_ge fun hle => ?_⟩
  have hround := round_mono ((one_le_div hypos).2 hle)
  rw [← hvalue, ← value_one.1, round_value value_one.2] at hround
  exact ((lt_iff.1 h).2.2.trans_le (le_iff.1 hz).2.2).not_ge hround

/-- The quotient of a double by a smaller one is not below one. -/
theorem one_le_div_of_le (h : y ≤ x) : 1 ≤ x / y := by
  have hypos := (pos_iff.1 hpos).2
  obtain ⟨hvalue, hnum⟩ := value_div hx hy hypos.ne'
  refine le_iff.2 ⟨isNaN_of_isFinite value_one.2, hnum, ?_⟩
  have hround := round_mono ((one_le_div hypos).2 (le_iff.1 h).2.2)
  rwa [← hvalue, ← value_one.1, round_value value_one.2] at hround

end

end Float
