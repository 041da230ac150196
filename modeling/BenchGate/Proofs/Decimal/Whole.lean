import BenchGate.Proofs.Decimal.Fixed

/-!
# The nearest whole number

`roundHalfUp` works on the mantissa and the exponent of a double. Of a finite double it is the floor
of the number half above its value (`Float.value_roundHalfUp`), without an error of its own: what
stands in front of the point of a double is a whole number of 53 binary digits at most, and these
are doubles (`Float.value_ofInt`).
-/

namespace Float

open BenchGate BenchGate.Binary64 Float.Model Float.Model.UnpackedFloat

variable {x : Float} {negative : Bool} {mantissa : ℕ} {exponent : ℤ}

/-- A whole number of at most 53 binary digits is a double. -/
theorem value_ofInt {n : ℤ} (hn : n.natAbs < 2 ^ 53) :
    (Float.ofInt n).value = n ∧ (Float.ofInt n).isNaN = false := by
  cases n with
  | ofNat n => exact value_ofNat hn
  | negSucc n =>
    obtain ⟨hvalue, hnum⟩ := value_ofNat (n := n + 1) hn
    change (-Float.ofNat (n + 1)).value = _ ∧ (-Float.ofNat (n + 1)).isNaN = false
    rw [value_neg, isNaN_neg, hvalue, Int.cast_negSucc]
    exact ⟨rfl, hnum⟩

/-- The mantissa of a double has at most 53 binary digits. -/
theorem mantissa_lt (h : ofFloat x = .finite negative mantissa exponent) : mantissa < 2 ^ 53 := by
  have hdouble := isDouble_toModel x
  unfold ofFloat at h
  cases hunpack : x.toModel.unpack with
  | notANumber | infinity => simp [hunpack] at h
  | zero s =>
    rw [hunpack] at h
    cases h
    norm_num
  | finite s m e hm =>
    rw [hunpack] at h hdouble
    cases h
    exact hdouble.1.1

/-- A double with places behind its point is at most `2 ^ 52`. -/
theorem abs_value_le_of_exponent_neg (h : ofFloat x = .finite negative mantissa exponent)
    (hexponent : exponent < 0) : |x.value| ≤ 2 ^ 52 := by
  have hmantissa : (mantissa : ℚ) ≤ 2 ^ 53 := by exact_mod_cast (mantissa_lt h).le
  have hpower : (2 : ℚ) ^ exponent ≤ 2 ^ (-1 : ℤ) :=
    zpow_le_zpow_right₀ (by norm_num) (by omega)
  have hpos : (0 : ℚ) < 2 ^ exponent := zpow_pos (by norm_num) _
  have habs : |x.value| = mantissa * 2 ^ exponent := by
    have hnonneg : (0 : ℚ) ≤ mantissa * 2 ^ exponent := by positivity
    rw [value, h]
    cases negative
    · exact abs_of_nonneg hnonneg
    · exact (abs_neg _).trans (abs_of_nonneg hnonneg)
  calc |x.value| = mantissa * 2 ^ exponent := habs
    _ ≤ 2 ^ 53 * 2 ^ (-1 : ℤ) := mul_le_mul hmantissa hpower hpos.le (by norm_num)
    _ = 2 ^ 52 := by norm_num

/-- The floor of a number half above a fraction, in whole numbers. -/
theorem floor_add_half_eq_fdiv (n : ℤ) (k : ℕ) :
    ⌊(n : ℚ) * 2 ^ (-(k : ℤ)) + 1 / 2⌋ = (2 * n + (2 ^ k : ℕ)).fdiv (2 * (2 ^ k : ℕ)) := by
  have hquotient : (n : ℚ) * 2 ^ (-(k : ℤ)) + 1 / 2 =
      ((2 * n + (2 ^ k : ℕ) : ℤ) : ℚ) / ((2 * 2 ^ k : ℕ) : ℚ) := by
    rw [zpow_neg, zpow_natCast]
    push_cast
    field_simp
  rw [hquotient, Rat.floor_intCast_div_natCast, Int.fdiv_eq_ediv_of_nonneg _ (by positivity),
    Nat.cast_mul, Nat.cast_ofNat]

/-- The nearest whole number is the floor of the number half above. -/
theorem value_roundHalfUp (h : x.isFinite = true) :
    (roundHalfUp x).value = ⌊x.value + 1 / 2⌋ ∧ (roundHalfUp x).isNaN = false := by
  obtain ⟨negative, mantissa, exponent, hx⟩ := exists_ofFloat h
  have hvalue : x.value = ((if negative then -mantissa else mantissa : ℤ) : ℚ) * 2 ^ exponent := by
    rw [value, hx]
    cases negative <;> simp [toRat]
  unfold roundHalfUp
  rw [hx]
  dsimp only
  generalize (if negative then -mantissa else mantissa : ℤ) = signed at hvalue ⊢
  split_ifs with hwhole
  · -- all places stand in front of the point
    obtain ⟨k, rfl⟩ := Int.eq_ofNat_of_zero_le hwhole
    have hint : x.value = ((signed * 2 ^ k : ℤ) : ℚ) := by
      rw [hvalue]
      push_cast
      rfl
    rw [hint, Int.floor_intCast_add, show ⌊(1 / 2 : ℚ)⌋ = 0 by norm_num, add_zero]
    exact ⟨rfl, isNaN_of_isFinite h⟩
  · obtain ⟨k, hk⟩ := Int.eq_ofNat_of_zero_le (show 0 ≤ -exponent by omega)
    obtain ⟨hlow, hhigh⟩ := abs_le.1 (abs_value_le_of_exponent_neg hx (not_le.1 hwhole))
    have hlow' : -2 ^ 52 ≤ ⌊x.value + 1 / 2⌋ := Int.le_floor.2 (by push_cast; linarith)
    have hhigh' : ⌊x.value + 1 / 2⌋ < 2 ^ 52 + 1 := Int.floor_lt.2 (by push_cast; linarith)
    have hfloor := floor_add_half_eq_fdiv signed k
    rw [show -(k : ℤ) = exponent by omega, ← hvalue] at hfloor
    rw [hk, Int.toNat_natCast, Nat.pow_eq, ← hfloor]
    exact value_ofInt (by omega)

theorem roundHalfUp_infinity : roundHalfUp BenchGate.infinity = BenchGate.infinity := by
  rw [roundHalfUp, ofFloat_infinity]

end Float
