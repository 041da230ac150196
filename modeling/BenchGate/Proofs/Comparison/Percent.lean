import BenchGate.Comparison.Classification
import BenchGate.Proofs.Binary64.Difference

/-!
# Ratios as changes in percent

A ratio from zero on is a change of at least minus one hundred percent (`percentOfRatio_range`), and
the change has the sign that the ratio shows: it is not negative from one on, negative below one and
positive above (`percentOfRatio_nonneg`, `percentOfRatio_neg`, `percentOfRatio_pos_iff`), also where
the difference from one is as small as it can be. Of two changes the larger one is that of the
larger ratio (`lt_of_percentOfRatio_lt`).
-/

namespace BenchGate

open Binary64

variable {ratio : Float}

theorem percentOfRatio_infinity : percentOfRatio infinity = infinity :=
  Float.toBits_inj.1 (by decide +kernel)

theorem value_hundred : (100 : Float).value = 100 ∧ (100 : Float).isFinite = true := by
  simpa using Float.value_natLit 100 (by norm_num)

/-- One less than a finite number from zero on is still finite. -/
theorem value_sub_one (h : 0 ≤ ratio) (hfin : ratio.isFinite = true) :
    (ratio - 1).value = Binary64.round (ratio.value - 1) ∧ (ratio - 1).isFinite = true := by
  obtain ⟨hone, hone'⟩ := Float.value_one
  obtain ⟨hsub, hnum⟩ := Float.value_sub hfin hone'
  have hnonneg := (Float.nonneg_iff.1 h).2
  have hlt := (abs_lt.1 (Float.isFinite_iff.1 hfin).2).2
  have hupper := round_mono (show ratio.value - 1 ≤ ratio.value by linarith)
  have hlower := round_mono (show -1 ≤ ratio.value - 1 by linarith)
  rw [Float.round_value hfin] at hupper
  rw [round_neg, ← hone, Float.round_value hone', hone] at hlower
  have hover : 1 < overflow := one_lt_pow₀ (by norm_num) (by norm_num)
  rw [hone] at hsub
  refine ⟨hsub, Float.isFinite_iff.2 ⟨hnum, ?_⟩⟩
  rw [hsub, abs_lt]
  exact ⟨by linarith, by linarith⟩

/-- The change of a finite ratio: two steps, each of which is rounded. -/
theorem value_percentOfRatio (h : 0 ≤ ratio) (hfin : ratio.isFinite = true) :
    (percentOfRatio ratio).value = Binary64.round (100 * Binary64.round (ratio.value - 1)) ∧
      (percentOfRatio ratio).isNaN = false := by
  obtain ⟨hhundred, hhundred'⟩ := value_hundred
  obtain ⟨hsub, hfin'⟩ := value_sub_one h hfin
  have hmul := Float.value_mul hhundred' hfin'
  rwa [hhundred, hsub] at hmul

/-- A ratio from zero on is a change of at least minus one hundred percent. -/
theorem percentOfRatio_range (h : 0 ≤ ratio) :
    -100 ≤ percentOfRatio ratio ∧ percentOfRatio ratio ≤ infinity := by
  obtain ⟨hhundred, hhundred'⟩ := value_hundred
  rcases Float.isFinite_or_eq_infinity h with hfin | rfl
  · obtain ⟨hvalue, hnum⟩ := value_percentOfRatio h hfin
    refine ⟨Float.le_iff.2 ⟨?_, hnum, ?_⟩, Float.le_infinity hnum⟩
    · rw [Float.isNaN_neg]
      exact Float.isNaN_of_isFinite hhundred'
    have hlower : Binary64.round (-1) = -1 := by
      rw [round_neg, ← Float.value_one.1, Float.round_value Float.value_one.2]
    have hsub := round_mono (show -1 ≤ ratio.value - 1 by linarith [(Float.nonneg_iff.1 h).2])
    rw [hlower] at hsub
    have hmul := round_mono (show -100 ≤ 100 * Binary64.round (ratio.value - 1) by linarith)
    rwa [round_neg, ← hvalue, ← hhundred, Float.round_value hhundred', ← Float.value_neg] at hmul
  · rw [percentOfRatio_infinity]
    exact ⟨by decide +kernel, by decide +kernel⟩

/-- A ratio from one on is no decrease. -/
theorem percentOfRatio_nonneg (h : 1 ≤ ratio) : 0 ≤ percentOfRatio ratio := by
  have hpos : 0 ≤ ratio := Float.le_trans (by decide +kernel) h
  rcases Float.isFinite_or_eq_infinity hpos with hfin | rfl
  · obtain ⟨hvalue, hnum⟩ := value_percentOfRatio hpos hfin
    have hle := (Float.le_iff.1 h).2.2
    rw [Float.value_one.1] at hle
    rw [Float.nonneg_iff, hvalue]
    exact ⟨hnum, round_nonneg (mul_nonneg (by norm_num) (round_nonneg (sub_nonneg.2 hle)))⟩
  · rw [percentOfRatio_infinity]
    decide +kernel

/-- A ratio below one is a decrease, however close to one it is. -/
theorem percentOfRatio_neg (h : 0 ≤ ratio) (hlt : ratio < 1) : percentOfRatio ratio < 0 := by
  have hfin := Float.isFinite_of_le h (Float.le_of_lt hlt) Float.value_one.2
  obtain ⟨hvalue, hnum⟩ := value_percentOfRatio h hfin
  have hleast := leastPositive_pos
  have happart := Float.leastPositive_le_sub Float.value_one.2 hfin (Float.lt_iff.1 hlt).2.2
  rw [Float.value_one.1] at happart
  have hsub := round_le (show ratio.value - 1 ≤ -leastPositive by linarith)
  have hmul := round_le (show 100 * Binary64.round (ratio.value - 1) ≤ -leastPositive by linarith)
  rw [Float.lt_iff, Float.value_zero, hvalue]
  exact ⟨hnum, by decide +kernel, by linarith⟩

/-- A ratio above one is an increase, however close to one it is, and no other ratio is. -/
theorem percentOfRatio_pos_iff (h : 0 ≤ ratio) : 0 < percentOfRatio ratio ↔ 1 < ratio := by
  have hone : (1 : Float).isNaN = false := Float.isNaN_of_isFinite Float.value_one.2
  rcases Float.isFinite_or_eq_infinity h with hfin | rfl
  · obtain ⟨hvalue, hnum⟩ := value_percentOfRatio h hfin
    rw [Float.pos_iff, hvalue, Float.lt_iff, Float.value_one.1]
    constructor
    · rintro ⟨-, hpos⟩
      refine ⟨hone, (Float.nonneg_iff.1 h).1, ?_⟩
      by_contra hle
      have hsub := round_mono (show ratio.value - 1 ≤ 0 by linarith)
      rw [round_zero] at hsub
      have hmul := round_mono (show 100 * Binary64.round (ratio.value - 1) ≤ 0 by linarith)
      rw [round_zero] at hmul
      exact hpos.not_ge hmul
    · rintro ⟨-, -, hlt⟩
      have hleast := leastPositive_pos
      have happart := Float.leastPositive_le_sub hfin Float.value_one.2
        (by rwa [Float.value_one.1])
      rw [Float.value_one.1] at happart
      have hsub := le_round happart
      have hmul := le_round
        (show leastPositive ≤ 100 * Binary64.round (ratio.value - 1) by linarith)
      exact ⟨hnum, hleast.trans_le hmul⟩
  · rw [percentOfRatio_infinity]
    decide +kernel

/-- The factors of a change may change places. -/
theorem sub_one_mul_hundred (h : 0 ≤ ratio) : (ratio - 1) * 100 = percentOfRatio ratio := by
  obtain ⟨-, hhundred⟩ := value_hundred
  rcases Float.isFinite_or_eq_infinity h with hfin | rfl
  · exact Float.mul_comm (value_sub_one h hfin).2 hhundred
  · rw [percentOfRatio_infinity]
    exact Float.toBits_inj.1 (by decide +kernel)

/-- A change from zero on grows with its ratio. -/
theorem percentOfRatio_le_percentOfRatio {ratio' : Float} (h : 0 ≤ ratio) (hle : ratio ≤ ratio') :
    percentOfRatio ratio ≤ percentOfRatio ratio' := by
  rcases Float.isFinite_or_eq_infinity (Float.le_trans h hle) with hfin | rfl
  · obtain ⟨hvalue, hnum⟩ := value_percentOfRatio h (Float.isFinite_of_le h hle hfin)
    obtain ⟨hvalue', hnum'⟩ := value_percentOfRatio (Float.le_trans h hle) hfin
    refine Float.le_iff.2 ⟨hnum, hnum', ?_⟩
    rw [hvalue, hvalue']
    have hsub := round_mono (sub_le_sub_right (Float.le_iff.1 hle).2.2 1)
    exact round_mono (mul_le_mul_of_nonneg_left hsub (by norm_num))
  · rw [percentOfRatio_infinity]
    exact Float.le_infinity (Float.le_iff.1 (percentOfRatio_range h).2).1

/-- The larger change is that of the larger ratio. -/
theorem lt_of_percentOfRatio_lt {ratio' : Float} (h : 0 ≤ ratio) (h' : 0 ≤ ratio')
    (hlt : percentOfRatio ratio < percentOfRatio ratio') : ratio < ratio' := by
  have hnum := (Float.nonneg_iff.1 h).1
  have hnum' := (Float.nonneg_iff.1 h').1
  rw [← Float.not_le hnum' hnum]
  exact fun hle => Float.not_le_of_lt hlt (percentOfRatio_le_percentOfRatio h' hle)

/-- A change is finite, or infinity. -/
theorem isFinite_or_eq_infinity_percentOfRatio (h : 0 ≤ ratio) :
    (percentOfRatio ratio).isFinite = true ∨ percentOfRatio ratio = infinity := by
  obtain ⟨hlow, -⟩ := percentOfRatio_range h
  obtain ⟨-, hnum, hlow⟩ := Float.le_iff.1 hlow
  rw [Float.value_neg, value_hundred.1] at hlow
  rcases le_total 0 (percentOfRatio ratio).value with hpos | hneg
  · exact Float.isFinite_or_eq_infinity (Float.nonneg_iff.2 ⟨hnum, hpos⟩)
  · have hover : (100 : ℚ) < overflow := by
      calc (100 : ℚ) < 2 ^ 7 := by norm_num
        _ ≤ 2 ^ 1024 := pow_le_pow_right₀ (by norm_num) (by norm_num)
    refine .inl (Float.isFinite_iff.2 ⟨hnum, abs_lt.2 ⟨by linarith, by linarith⟩⟩)

end BenchGate
