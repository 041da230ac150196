import BenchGate.Proofs.Binary64.Closest

/-!
# Decimal numbers as doubles

A decimal `m · 10 ^ e` becomes a double in one of three ways: for few digits and a small power of
ten by one product or quotient of doubles, in general by one product or quotient of numbers of any
size, and far outside the range of doubles at once. In every one of them the result is rounded once
only, so that it is the double nearest to the decimal (`Float.isNearest_ofScientific`).
-/

namespace BenchGate.Binary64

open Float.Model Float.Model.UnpackedFloat

/-! ## Far outside the range -/

/-- Half the least double and everything below it rounds to zero. -/
theorem nearest_eq_zero {q : ℚ} (h0 : 0 ≤ q) (h : q < 2 ^ (-1075 : ℤ)) : nearest q = 0 := by
  rcases h0.eq_or_lt with rfl | hpos
  · exact nearest_zero
  have hlog : Int.log 2 |q| < -1075 := by
    refine (Int.lt_zpow_iff_log_lt (by norm_num) (abs_pos.2 hpos.ne')).1 ?_
    rw [abs_of_pos hpos]
    exact_mod_cast h
  have hplace : lastPlace q = -1074 := by
    unfold lastPlace leastExponent
    omega
  have hquot : q / 2 ^ (-1074 : ℤ) < 1 / 2 := by
    rw [div_lt_iff₀ (by positivity)]
    refine h.trans_eq ?_
    rw [show (-1074 : ℤ) = -1075 + 1 from rfl, zpow_add₀ (by norm_num : (2 : ℚ) ≠ 0)]
    ring
  have hfloor : ⌊q / 2 ^ (-1074 : ℤ)⌋ = 0 := by
    rw [Int.floor_eq_zero_iff]
    exact ⟨by positivity, hquot.trans (by norm_num)⟩
  rw [nearest, hplace, nearestEven, hfloor, Int.cast_zero, sub_zero, if_pos hquot]
  simp

/-- A power of ten whose exponent is too large is beyond the overflow. -/
theorem overflow_le_of_exponent {m : ℕ} {e : ℤ} (hm : 0 < m) (he : 2048 < e) :
    overflow ≤ (m : ℚ) * 10 ^ e := by
  have hm' : (1 : ℚ) ≤ m := by exact_mod_cast hm
  calc overflow = (2 : ℚ) ^ (1024 : ℤ) := by
        rw [overflow, show (1024 : ℤ) = (1024 : ℕ) from rfl, zpow_natCast]
    _ ≤ 2 ^ e := zpow_le_zpow_right₀ (by norm_num) (by omega)
    _ ≤ 10 ^ e := zpow_le_zpow_left₀ (by omega) (by norm_num) (by norm_num)
    _ ≤ m * 10 ^ e := le_mul_of_one_le_left (by positivity) hm'

/-- A power of ten whose exponent is too small for the mantissa is below half the least double. -/
theorem lt_least_of_exponent {m : ℕ} {e : ℤ} (he : e < -(2048 + m.log2)) :
    (m : ℚ) * 10 ^ e < 2 ^ (-1075 : ℤ) := by
  have hm : (m : ℚ) ≤ 2 ^ ((m.log2 : ℤ) + 1) := by
    exact_mod_cast (Nat.lt_log2_self (n := m)).le
  have hten : (10 : ℚ) ^ e ≤ 2 ^ e := by
    obtain ⟨k, hk⟩ := Int.eq_ofNat_of_zero_le (show 0 ≤ -e by omega)
    rw [show e = -(k : ℤ) by omega, zpow_neg, zpow_neg, zpow_natCast, zpow_natCast]
    exact inv_anti₀ (by positivity) (pow_le_pow_left₀ (by norm_num) (by norm_num) k)
  calc (m : ℚ) * 10 ^ e ≤ 2 ^ ((m.log2 : ℤ) + 1) * 2 ^ e :=
        mul_le_mul hm hten (by positivity) (by positivity)
    _ = 2 ^ ((m.log2 : ℤ) + 1 + e) := (zpow_add₀ (by norm_num) _ _).symm
    _ < 2 ^ (-1075 : ℤ) := zpow_lt_zpow_right₀ (by norm_num) (by omega)

/-! ## In the range -/

/-- The product with a power of ten, of a mantissa that was given enough places first. -/
theorem mul_pow_ten_rounds {m : ℕ} (hm : 0 < m) (hm' : 0 < m <<< 53) (k : ℕ)
    (hk : 0 < 10 ^ k) :
    Rounds (mul .binary64 (.finite .positive (m <<< 53) (-53) hm')
      (.finite .positive (10 ^ k) 0 hk)) ((m : ℚ) * 10 ^ (k : ℤ)) := by
  have hplaces : 53 ≤ (m <<< 53 * 10 ^ k).log2 := by
    refine (Nat.le_log2 (Nat.mul_pos hm' hk).ne').2 ?_
    calc 2 ^ 53 ≤ m <<< 53 := by rw [Nat.shiftLeft_eq]; exact Nat.le_mul_of_pos_left _ hm
      _ ≤ m <<< 53 * 10 ^ k := Nat.le_mul_of_pos_right _ hk
  have hvalue : (m : ℚ) * (10 : ℚ) ^ (k : ℤ) =
      ((m <<< 53 * 10 ^ k : ℕ) : ℚ) * (2 : ℚ) ^ ((-53 : ℤ) + 0) := by
    rw [Nat.shiftLeft_eq, zpow_natCast, add_zero, zpow_neg]
    push_cast
    field_simp
  rw [hvalue]
  exact roundWithAccuracy_rounds .positive (locates_exact _) (by omega)

/-- The quotient by a power of ten. -/
theorem div_pow_ten_rounds {m : ℕ} (hm : 0 < m) (k : ℕ) (hk : 0 < 10 ^ k) :
    Rounds (div .binary64 (.finite .positive m 0 hm) (.finite .positive (10 ^ k) 0 hk))
      ((m : ℚ) * 10 ^ (-k : ℤ)) := by
  have hvalue : (m : ℚ) * 10 ^ (-k : ℤ) = m * 2 ^ (0 : ℤ) / ((10 ^ k : ℕ) * 2 ^ (0 : ℤ)) := by
    rw [zpow_neg, zpow_natCast, zpow_zero, mul_one, mul_one, div_eq_mul_inv]
    push_cast
    rfl
  rw [hvalue]
  exact divCore_rounds .positive hm hk 0 0

/-! ## Natural numbers -/

/-- Whether a double is a natural number. -/
def isNat : Binary64 → ℕ → Bool
  | .finite false mantissa exponent, n =>
    (quotient mantissa exponent).1 = n * (quotient mantissa exponent).2
  | _, _ => false

theorem toRat_of_isNat {x : Binary64} {n : ℕ} (h : x.isNat n = true) : x.toRat = n := by
  unfold isNat at h
  split at h
  · next mantissa exponent =>
    have hpos : (0 : ℚ) < (quotient mantissa exponent).2 := by
      exact_mod_cast quotient_snd_pos mantissa exponent
    have hcast : ((quotient mantissa exponent).1 : ℚ) = n * (quotient mantissa exponent).2 := by
      exact_mod_cast of_decide_eq_true h
    change (mantissa : ℚ) * 2 ^ exponent = n
    rw [← quotient_eq, hcast, mul_div_cancel_right₀ _ hpos.ne']
  · cases h

end BenchGate.Binary64

namespace Float

open BenchGate BenchGate.Binary64 Float.Model Float.Model.UnpackedFloat

/-- The double nearest to a decimal, without a shortcut. -/
theorem isNearest_ofModel_ofScientific (m : ℕ) (e : ℤ) :
    (Float.ofModel (Float.Model.ofScientific m e)).IsNearest false ((m : ℚ) * 10 ^ e) := by
  unfold Float.Model.ofScientific UnpackedFloat.ofScientific
  split_ifs with hm hlarge hsmall he
  · exact .of_rounds (u := .zero .positive) ⟨rfl, trivial, by simp [hm, unpackedValue]⟩
  · have hover := overflow_le_of_exponent (Nat.pos_of_ne_zero hm) (by simpa using hlarge)
    rw [ofModel_pack_infinity]
    exact ⟨isNaN_infinity, by rw [value_infinity, round_eq_overflow hover], by decide +kernel⟩
  · have hzero := nearest_eq_zero (by positivity)
      (lt_least_of_exponent (m := m) (e := e) (by simpa using hsmall))
    exact .of_rounds (u := .zero .positive) ⟨rfl, trivial, hzero.symm⟩
  · obtain ⟨k, rfl⟩ := Int.eq_ofNat_of_zero_le he
    have hrounds := mul_pow_ten_rounds (Nat.pos_of_ne_zero hm)
      (by simpa [Nat.pos_iff_ne_zero] using hm) k (by positivity)
    have hnearest := IsNearest.of_rounds hrounds
    rw [unpackedNegative_mul rfl rfl] at hnearest
    exact hnearest
  · obtain ⟨k, hk⟩ := Int.eq_ofNat_of_zero_le (show 0 ≤ -e by omega)
    obtain rfl : e = -(k : ℤ) := by omega
    have hnearest := IsNearest.of_rounds (div_pow_ten_rounds (Nat.pos_of_ne_zero hm) k
      (by positivity))
    have hten : (0 : ℚ) < unpackedValue (.finite .positive (10 ^ k) 0 (by positivity)) :=
      mul_zpow_pos (by positivity) 0
    rw [unpackedNegative_div rfl rfl hten.ne'] at hnearest
    simp only [neg_neg]
    exact hnearest

/-- The small powers of ten are doubles. -/
theorem value_powerOfTen (e : Fin exactlyRepresentablePowersOfTen.size) :
    exactlyRepresentablePowersOfTen[e].value = 10 ^ e.val ∧
      exactlyRepresentablePowersOfTen[e].isFinite = true ∧
      (ofFloat exactlyRepresentablePowersOfTen[e]).negative = false := by
  have hall : ∀ e : Fin exactlyRepresentablePowersOfTen.size,
      (ofFloat exactlyRepresentablePowersOfTen[e]).isNat (10 ^ e.val) = true ∧
        exactlyRepresentablePowersOfTen[e].isFinite = true ∧
        (ofFloat exactlyRepresentablePowersOfTen[e]).negative = false := by
    decide +kernel
  obtain ⟨hnat, hrest⟩ := hall e
  refine ⟨(toRat_of_isNat hnat).trans ?_, hrest⟩
  push_cast
  rfl

/-- A natural number has no sign. -/
theorem negative_toFloat {n : ℕ} (h : n < 2 ^ 53) :
    (ofFloat n.toUInt64.toFloat).negative = false := by
  rcases Nat.eq_zero_or_pos n with rfl | hn
  · decide +kernel
  · have hpos : 0 < n.toUInt64.toFloat.value := by
      rw [(value_toFloat h).1]
      exact_mod_cast hn
    rw [negative_of_value hpos.ne', decide_eq_false hpos.not_gt]

/-- Reading a decimal gives the double nearest to it. -/
theorem isNearest_ofScientific (m : ℕ) (below : Bool) (e : ℕ) :
    (Float.ofScientific m below e).IsNearest false
      ((m : ℚ) * 10 ^ (if below then -(e : ℤ) else e)) := by
  unfold Float.ofScientific
  split
  · -- few digits and a small power of ten, both of them doubles
    next h =>
    have hsize : e < exactlyRepresentablePowersOfTen.size := by
      rw [show exactlyRepresentablePowersOfTen.size = 23 from rfl]
      omega
    obtain ⟨hvalue, hnum⟩ := value_toFloat h.1
    have hfinite : m.toUInt64.toFloat.isFinite = true :=
      isFinite_iff.2 ⟨hnum, hvalue ▸ natCast_lt_overflow h.1⟩
    obtain ⟨hten, hfinite', hsign⟩ := value_powerOfTen ⟨e, hsize⟩
    have hne : exactlyRepresentablePowersOfTen[(⟨e, hsize⟩ : Fin _)].value ≠ 0 := by
      rw [hten]
      positivity
    cases below
    · have hmul := value_mul hfinite hfinite'
      rw [hvalue, hten] at hmul
      refine ⟨hmul.2, hmul.1, (negative_mul hfinite hfinite').trans ?_⟩
      rw [negative_toFloat h.1, hsign]
      rfl
    · have hdiv := value_div hfinite hfinite' hne
      rw [hvalue, hten] at hdiv
      simp only [if_true, zpow_neg, zpow_natCast, ← div_eq_mul_inv]
      refine ⟨hdiv.2, hdiv.1, (negative_div hfinite hfinite' hne).trans ?_⟩
      rw [negative_toFloat h.1, hsign]
      rfl
  · cases below
    · exact isNearest_ofModel_ofScientific m e
    · simp only [if_true, Int.negOfNat_eq]
      exact isNearest_ofModel_ofScientific m (-(e : ℤ))

end Float
