import BenchGate.Proofs.Binary64.Sign

/-!
# The double nearest to a number

`Float.IsNearest` says that a double is what a rational number rounds to, with a sign that also
tells zeros apart; there is only one such double (`Float.IsNearest.eq`). No other double is closer
to the number (`Float.IsNearest.abs_sub_le`), so that `Binary64.round` is a rounding to the nearest.
-/

namespace BenchGate.Binary64

/-! ## No multiple of the last place is closer -/

/-- No whole number is closer to `q` than the one `q` rounds to. -/
theorem abs_nearestEven_sub_le (q : ℚ) (n : ℤ) : |nearestEven q - q| ≤ |n - q| := by
  have hlo := Int.floor_le q
  have hhi := Int.lt_floor_add_one q
  -- every whole number is at or below the floor, or above it
  have hn : (n : ℚ) ≤ ⌊q⌋ ∨ (⌊q⌋ : ℚ) + 1 ≤ n := by
    rcases le_or_gt n ⌊q⌋ with h | h
    · exact .inl (by exact_mod_cast h)
    · exact .inr (by exact_mod_cast h)
  have hdist : min (q - ⌊q⌋) (⌊q⌋ + 1 - q) ≤ |n - q| := by
    rcases hn with h | h
    · rw [abs_sub_comm, abs_of_nonneg (by linarith)]
      exact (min_le_left _ _).trans (by linarith)
    · rw [abs_of_nonneg (by linarith)]
      exact (min_le_right _ _).trans (by linarith)
  refine le_trans ?_ hdist
  have hbelow : |(⌊q⌋ : ℚ) - q| = q - ⌊q⌋ := by rw [abs_sub_comm, abs_of_nonneg (by linarith)]
  have habove : |(⌊q⌋ : ℚ) + 1 - q| = ⌊q⌋ + 1 - q := abs_of_nonneg (by linarith)
  unfold nearestEven
  split_ifs with h h'
  · rw [hbelow]
    exact le_min le_rfl (by linarith)
  · push_cast
    rw [habove]
    exact le_min (by linarith) le_rfl
  · rcases Int.emod_two_eq_zero_or_one ⌊q⌋ with hm | hm
    · rw [hm, add_zero, hbelow]
      exact le_min le_rfl (by linarith)
    · rw [hm]
      push_cast
      rw [habove]
      exact le_min (by linarith) le_rfl

/-- No multiple of the last place of `q` is closer to `q` than the one `q` rounds to. -/
theorem abs_nearest_sub_le_of_multiple (q : ℚ) (n : ℤ) :
    |nearest q - q| ≤ |n * 2 ^ lastPlace q - q| := by
  have hpos : (0 : ℚ) < 2 ^ lastPlace q := zpow_pos (by norm_num) _
  have hscale : ∀ k : ℤ,
      |(k : ℚ) * 2 ^ lastPlace q - q| = |k - q / 2 ^ lastPlace q| * 2 ^ lastPlace q := by
    intro k
    rw [← abs_of_pos hpos, ← abs_mul, abs_of_pos hpos, sub_mul, div_mul_cancel₀ _ hpos.ne']
  rw [nearest, hscale, hscale]
  exact mul_le_mul_of_nonneg_right (abs_nearestEven_sub_le _ n) hpos.le

/-- No number of 53 binary places is closer to `q` than the one `q` rounds to. A number with smaller
places than the last one of `q` is too small: the power of two with which `q` begins lies between
it and `q`. -/
theorem abs_nearest_sub_le (q : ℚ) {n e : ℤ} (hn : |n| < 2 ^ 53) (he : leastExponent ≤ e) :
    |nearest q - q| ≤ |n * 2 ^ e - q| := by
  rcases eq_or_ne q 0 with rfl | hq
  · rw [nearest_zero, sub_zero, abs_zero]
    exact abs_nonneg _
  rcases le_or_gt (lastPlace q) e with hle | hlt
  · rw [← zpow_eq_mul_zpow hle, ← mul_assoc]
    exact_mod_cast abs_nearest_sub_le_of_multiple q (n * 2 ^ (e - lastPlace q).toNat)
  have hplace : lastPlace q = Int.log 2 |q| - 52 := by
    unfold lastPlace at hlt ⊢
    omega
  have hsmall : |(n : ℚ) * 2 ^ e| ≤ 2 ^ 52 * 2 ^ lastPlace q := by
    have hn' : |(n : ℚ)| ≤ 2 ^ 53 := by exact_mod_cast hn.le
    have htwo : (2 : ℚ) ^ 53 * 2 ^ e = 2 ^ 52 * 2 ^ (e + 1) := by
      rw [zpow_add₀ (by norm_num : (2 : ℚ) ≠ 0)]
      ring
    rw [abs_mul, abs_of_pos (zpow_pos (by norm_num : (0 : ℚ) < 2) e)]
    calc |(n : ℚ)| * 2 ^ e ≤ 2 ^ 53 * 2 ^ e :=
          mul_le_mul_of_nonneg_right hn' (zpow_pos (by norm_num) e).le
      _ = 2 ^ 52 * 2 ^ (e + 1) := htwo
      _ ≤ 2 ^ 52 * 2 ^ lastPlace q :=
          mul_le_mul_of_nonneg_left (zpow_le_zpow_right₀ (by norm_num) (by omega)) (by norm_num)
  have hlarge : (2 : ℚ) ^ 52 * 2 ^ lastPlace q ≤ |q| := by
    have := Int.zpow_log_le_self (b := 2) (by norm_num) (abs_pos.2 hq)
    rw [show Int.log 2 |q| = 52 + lastPlace q by omega, Nat.cast_ofNat,
      zpow_add₀ (by norm_num : (2 : ℚ) ≠ 0)] at this
    exact_mod_cast this
  rcases le_total 0 q with h0 | h0
  · rw [abs_of_nonneg h0] at hlarge
    calc |nearest q - q| ≤ |((2 ^ 52 : ℤ) : ℚ) * 2 ^ lastPlace q - q| :=
          abs_nearest_sub_le_of_multiple q _
      _ = q - 2 ^ 52 * 2 ^ lastPlace q := by
          rw [Int.cast_pow, Int.cast_ofNat, abs_sub_comm, abs_of_nonneg (by linarith)]
      _ ≤ q - n * 2 ^ e := by linarith [(abs_le.1 hsmall).2]
      _ ≤ |n * 2 ^ e - q| := by rw [abs_sub_comm]; exact le_abs_self _
  · rw [abs_of_nonpos h0] at hlarge
    calc |nearest q - q| ≤ |((-2 ^ 52 : ℤ) : ℚ) * 2 ^ lastPlace q - q| :=
          abs_nearest_sub_le_of_multiple q _
      _ = -(2 ^ 52 * 2 ^ lastPlace q) - q := by
          rw [Int.cast_neg, Int.cast_pow, Int.cast_ofNat, neg_mul, abs_of_nonneg (by linarith)]
      _ ≤ n * 2 ^ e - q := by linarith [(abs_le.1 hsmall).1]
      _ ≤ |n * 2 ^ e - q| := le_abs_self _

/-- A number that rounds to less than the overflow is rounded to its places only. -/
theorem round_eq_nearest_of_abs_lt {q : ℚ} (h : |round q| < overflow) : round q = nearest q := by
  have hle : ∀ {q : ℚ}, |round q| < overflow → nearest q ≤ overflow := by
    intro q h
    by_contra hlt
    rw [round_eq_overflow_of_le_nearest (not_le.1 hlt).le, abs_of_pos overflow_pos] at h
    exact lt_irrefl _ h
  have hneg : -nearest q ≤ overflow := by
    rw [← nearest_neg]
    exact hle (by rwa [round_neg, abs_neg])
  exact round_eq_nearest (abs_le.2 ⟨by linarith, hle h⟩)

end BenchGate.Binary64

namespace Float

open BenchGate BenchGate.Binary64 Float.Model Float.Model.UnpackedFloat

variable {x y : Float} {negative : Bool} {q : ℚ}

/-- A finite double is a number of 53 binary places. -/
theorem exists_places (h : x.isFinite = true) :
    ∃ n e : ℤ, x.value = n * 2 ^ e ∧ |n| < 2 ^ 53 ∧ leastExponent ≤ e := by
  have hdouble := isDouble_toModel x
  change x.toModel.unpack.isFinite = true at h
  rw [value_eq]
  cases hunpack : x.toModel.unpack with
  | notANumber | infinity => rw [hunpack] at h; cases h
  | zero s => exact ⟨0, 0, by simp [unpackedValue], by norm_num, by decide⟩
  | finite s m e hm =>
    rw [hunpack] at hdouble
    obtain ⟨⟨hlt, hlow, -⟩, -⟩ := hdouble
    cases s
    · exact ⟨-m, e, by simp [unpackedValue, signed], by rw [abs_neg]; exact_mod_cast hlt, hlow⟩
    · exact ⟨m, e, by simp [unpackedValue, signed], by exact_mod_cast hlt, hlow⟩

/-- A double is what a number rounds to, and has a sign. -/
structure IsNearest (x : Float) (negative : Bool) (q : ℚ) : Prop where
  isNaN : x.isNaN = false
  value : x.value = Binary64.round q
  negative : (ofFloat x).negative = negative

namespace IsNearest

/-- Only one double is nearest to a number. -/
protected theorem eq (hx : x.IsNearest negative q) (hy : y.IsNearest negative q) : x = y :=
  eq_of_value hx.isNaN hy.isNaN (hx.value.trans hy.value.symm) (hx.negative.trans hy.negative.symm)

/-- The double nearest to the opposite. -/
protected theorem neg (h : x.IsNearest negative q) : (-x).IsNearest (!negative) (-q) where
  isNaN := (isNaN_neg x).trans h.isNaN
  value := by rw [value_neg, h.value, round_neg]
  negative := by rw [negative_neg h.isNaN, h.negative]

/-- The double that a rounded number is packed to. -/
theorem of_rounds {u : UnpackedFloat} (h : Rounds u q) :
    (Float.ofModel (Float.Model.pack u)).IsNearest (unpackedNegative u) q where
  isNaN := (value_pack h).2
  value := (value_pack h).1
  negative := negative_pack h.isRounded

/-- No finite double is closer to a number than the finite one that is nearest to it. -/
theorem abs_sub_le (h : x.IsNearest negative q) (hx : x.isFinite = true)
    (hy : y.isFinite = true) : |x.value - q| ≤ |y.value - q| := by
  have hround : |Binary64.round q| < overflow := h.value ▸ (isFinite_iff.1 hx).2
  obtain ⟨n, e, hvalue, hn, he⟩ := exists_places hy
  rw [h.value, round_eq_nearest_of_abs_lt hround, hvalue]
  exact abs_nearest_sub_le q hn he

end IsNearest

end Float
