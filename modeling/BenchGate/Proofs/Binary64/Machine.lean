import BenchGate.Proofs.Binary64.Nearest

/-!
# How doubles are rounded

The operations on doubles hold a result as a mantissa with two more bits, shift it to its last
binary place and round there. This module shows that what comes out is `nearest`, the rounding of
rational numbers. `Locates` is the invariant of the shifts: mantissa and round bit are the floor of
twice the number, and the sticky bit says whether that floor left anything out
(`Locates.shiftRight`, `Locates.roundedMantissa`). `roundWithAccuracy_rounds` is the main
statement; the operations reach it through `normalize_rounds` or directly.
-/

namespace BenchGate.Binary64

open Float.Model Float.Model.UnpackedFloat

/-! ## Mantissas with two more bits -/

/-- A mantissa with its two bits says where a number lies, to half a unit and beyond. -/
structure Locates (em : ExtendedMantissa) (q : ℚ) : Prop where
  floor : ⌊2 * q⌋ = 2 * em.mantissa + em.roundBit.toNat
  sticky : em.stickyBit = true ↔ (⌊2 * q⌋ : ℚ) ≠ 2 * q

namespace Locates

variable {em : ExtendedMantissa} {q : ℚ}

/-- The mantissa is the floor of the number. -/
theorem floor_eq (h : Locates em q) : ⌊q⌋ = em.mantissa := by
  have hlo := Int.floor_le (2 * q)
  have hhi := Int.lt_floor_add_one (2 * q)
  have hbit : (em.roundBit.toNat : ℚ) ≤ 1 := by exact_mod_cast Bool.toNat_le em.roundBit
  have hbit' : (0 : ℚ) ≤ em.roundBit.toNat := Nat.cast_nonneg _
  rw [h.floor] at hlo hhi
  push_cast at hlo hhi
  rw [Int.floor_eq_iff]
  push_cast
  constructor <;> linarith

/-- A shift by one place halves the number and loses nothing about where it lies. -/
theorem shiftRightOne (h : Locates em q) : Locates em.shiftRightOne (q / 2) := by
  have hhalf : 2 * (q / 2) = q := by ring
  have hfloor := h.floor_eq
  constructor
  · rw [hhalf, hfloor]
    simp only [ExtendedMantissa.shiftRightOne]
    rcases Nat.mod_two_eq_zero_or_one em.mantissa with h2 | h2 <;> simp [h2] <;> omega
  · rw [hhalf, hfloor]
    have hf := h.floor
    have hs := h.sticky
    rw [hf] at hs
    simp only [ExtendedMantissa.shiftRightOne]
    cases hr : em.roundBit with
    | false => simpa [hr] using hs
    | true =>
      simp only [Bool.true_or, true_iff]
      intro heq
      have : ⌊(2 : ℚ) * em.mantissa⌋ = 2 * em.mantissa := by
        exact_mod_cast Int.floor_intCast (R := ℚ) (2 * em.mantissa)
      rw [← heq, Int.cast_natCast, this, hr] at hf
      simp at hf

/-- A shift by any number of places. -/
theorem shiftRight (h : Locates em q) (n : ℕ) : Locates (em >>> n) (q / 2 ^ n) := by
  change Locates (n.repeat ExtendedMantissa.shiftRightOne em) _
  induction n with
  | zero => simpa [Nat.repeat] using h
  | succ n ih =>
    rw [Nat.repeat, pow_succ, ← div_div]
    exact ih.shiftRightOne

/-- The two bits are enough to round. -/
theorem roundedMantissa (h : Locates em q) : (em.roundedMantissa : ℤ) = nearestEven q := by
  have hfloor := h.floor_eq
  have hf := h.floor
  have hs := h.sticky
  have hlo := Int.floor_le (2 * q)
  have hhi := Int.lt_floor_add_one (2 * q)
  rw [hf] at hs hlo hhi
  push_cast at hs hlo hhi
  unfold nearestEven
  rw [hfloor]
  obtain ⟨m, r, s⟩ := em
  cases r <;> cases s <;>
    simp only [ExtendedMantissa.roundedMantissa, ExtendedMantissa.accuracy,
      Accuracy.roundToNearestEven, Bool.toNat_false, Bool.toNat_true, Nat.cast_zero, Nat.cast_one,
      Bool.false_eq_true, false_iff, not_not, true_iff, Int.cast_natCast] at hs hlo hhi ⊢
  · rw [if_pos (by linarith)]
  · rw [if_pos (by linarith)]
  · rw [if_neg (by linarith), if_neg (by linarith)]
    push_cast
    rfl
  · have hlt : 2 * (m : ℚ) + 1 < 2 * q := lt_of_le_of_ne hlo hs
    rw [if_neg (by linarith), if_pos (by linarith)]
    push_cast
    rfl

end Locates

/-- A mantissa without a remainder locates itself. -/
theorem locates_exact (m : ℕ) : Locates (.ofMantissaAndAccuracy m .exact) m := by
  have h : ⌊2 * (m : ℚ)⌋ = 2 * m := by exact_mod_cast Int.floor_intCast (R := ℚ) (2 * m)
  constructor <;> simp [ExtendedMantissa.ofMantissaAndAccuracy, h]

/-- A quotient with its remainder locates the fraction. -/
theorem locates_fraction (m : ℕ) {n d : ℕ} (h : n < d) :
    Locates (.ofMantissaAndAccuracy m (accuracyOfFraction n d)) (m + n / d) := by
  have hd : (0 : ℚ) < d := by exact_mod_cast (Nat.zero_le n).trans_lt h
  have hlt : (n : ℚ) / d < 1 := (div_lt_one hd).2 (by exact_mod_cast h)
  unfold accuracyOfFraction
  rcases Nat.eq_zero_or_pos n with rfl | hn
  · simpa using locates_exact m
  have hpos : (0 : ℚ) < n / d := div_pos (by exact_mod_cast hn) hd
  rw [if_neg hn.ne']
  -- twice the fraction is below, at or above one, as the doubled remainder is to the divisor
  rcases lt_trichotomy (2 * n) d with hc | hc | hc
  · have hfrac : 2 * ((n : ℚ) / d) < 1 := by
      rw [← mul_div_assoc, div_lt_one hd]; exact_mod_cast hc
    have hfloor : ⌊2 * ((m : ℚ) + n / d)⌋ = 2 * m := by
      rw [Int.floor_eq_iff]; push_cast; constructor <;> linarith
    rw [Nat.compare_eq_lt.2 hc]
    constructor
    · simpa [ExtendedMantissa.ofMantissaAndAccuracy] using hfloor
    · simp only [ExtendedMantissa.ofMantissaAndAccuracy, true_iff, hfloor]
      push_cast
      linarith
  · have hfrac : 2 * ((n : ℚ) / d) = 1 := by
      rw [← mul_div_assoc, div_eq_one_iff_eq hd.ne']; exact_mod_cast hc
    have hval : 2 * ((m : ℚ) + n / d) = ((2 * m + 1 : ℤ) : ℚ) := by push_cast; linarith
    rw [Nat.compare_eq_eq.2 hc]
    constructor <;> rw [hval, Int.floor_intCast] <;> simp [ExtendedMantissa.ofMantissaAndAccuracy]
  · have hfrac : 1 < 2 * ((n : ℚ) / d) := by
      rw [← mul_div_assoc, one_lt_div hd]; exact_mod_cast hc
    have hfloor : ⌊2 * ((m : ℚ) + n / d)⌋ = 2 * m + 1 := by
      rw [Int.floor_eq_iff]; push_cast; constructor <;> linarith
    rw [Nat.compare_eq_gt.2 hc]
    constructor
    · simpa [ExtendedMantissa.ofMantissaAndAccuracy] using hfloor
    · simp only [ExtendedMantissa.ofMantissaAndAccuracy, true_iff, hfloor]
      push_cast
      linarith

/-! ## Unpacked numbers -/

/-- A number with a sign. -/
def signed : Sign → ℚ → ℚ
  | .positive, q => q
  | .negative, q => -q

/-- The value of an unpacked number. An infinity counts as the power of two at which doubles
overflow, and what is no number as zero. -/
def unpackedValue : UnpackedFloat → ℚ
  | .notANumber => 0
  | .infinity s => signed s overflow
  | .zero _ => 0
  | .finite s m e _ => signed s (m * 2 ^ e)

/-- A mantissa of at most 53 places, and of 53 unless its last place is that of the subnormal
numbers. The exponent may be too large for a double. -/
def IsRounded : UnpackedFloat → Prop
  | .finite _ m e _ => m < 2 ^ 53 ∧ -1074 ≤ e ∧ (2 ^ 52 ≤ m ∨ e = -1074)
  | _ => True

/-- An unpacked number is the rounding of `q`, whatever the exponent. -/
structure Rounds (u : UnpackedFloat) (q : ℚ) : Prop where
  isFinite : u.isFinite = true
  isRounded : IsRounded u
  value : unpackedValue u = nearest q

theorem signed_signed (s : Sign) (q : ℚ) : signed s (signed s q) = q := by
  cases s
  · exact neg_neg q
  · rfl

theorem abs_signed (s : Sign) (q : ℚ) : |signed s q| = |q| := by
  cases s
  · exact abs_neg q
  · rfl

theorem nearest_signed (s : Sign) (q : ℚ) : nearest (signed s q) = signed s (nearest q) := by
  cases s
  · exact nearest_neg q
  · rfl

theorem round_signed (s : Sign) (q : ℚ) : round (signed s q) = signed s (round q) := by
  cases s
  · exact round_neg q
  · rfl

/-- The last place that the machine shifts to. -/
theorem targetExponent_eq (m : ℕ) (e : ℤ) :
    Format.binary64.targetExponent (totalExponent m e) = max (m.log2 + e - 52) (-1074) := by
  simp only [Format.targetExponent, totalExponent, Format.mantissaBits, Format.minExponent]
  norm_num
  omega

/-- A number is below the power of two after its floor. -/
theorem lt_two_pow_of_floor {m : ℕ} {q : ℚ} (h : ⌊q⌋ = m) : q < 2 ^ (m.log2 + 1) := by
  have hlt := Int.lt_floor_add_one q
  rw [h, Int.cast_natCast] at hlt
  refine hlt.trans_le ?_
  exact_mod_cast (Nat.lt_log2_self (n := m) : m < 2 ^ (m.log2 + 1))

/-- A number from one on is not below the power of two before its floor. -/
theorem two_pow_le_of_floor {m : ℕ} {q : ℚ} (h : ⌊q⌋ = m) (hm : m ≠ 0) : 2 ^ m.log2 ≤ q := by
  refine le_trans ?_ (Int.floor_le q)
  rw [h]
  exact_mod_cast Nat.log2_self_le hm

/-- A mantissa that is the floor of a positive number shows the last place of that number. A
mantissa of zero does so because its last place is that of the subnormal numbers. -/
theorem lastPlace_of_floor {m : ℕ} {e : ℤ} {q : ℚ} (hq : 0 < q) (hm : ⌊q⌋ = m)
    (he : e ≤ max (m.log2 + e - 52) (-1074)) :
    lastPlace (q * 2 ^ e) = max (m.log2 + e - 52) (-1074) := by
  have hscale : (0 : ℚ) < 2 ^ e := zpow_pos (by norm_num) e
  have hpos : 0 < |q * 2 ^ e| := abs_pos.2 (mul_pos hq hscale).ne'
  have habs : |q * 2 ^ e| = q * 2 ^ e := abs_of_pos (mul_pos hq hscale)
  have hbelow : q < 2 ^ (m.log2 + 1 : ℤ) := by
    exact_mod_cast lt_two_pow_of_floor hm
  have hlog : Int.log 2 |q * 2 ^ e| < m.log2 + 1 + e := by
    refine (Int.lt_zpow_iff_log_lt (by norm_num) hpos).1 ?_
    rw [habs]
    push_cast
    rw [zpow_add₀ (by norm_num : (2 : ℚ) ≠ 0)]
    exact mul_lt_mul_of_pos_right hbelow hscale
  unfold lastPlace leastExponent
  rcases Nat.eq_zero_or_pos m with rfl | hmpos
  · have : q < (2 : ℚ) ^ (0 : ℤ) := by simpa [hm] using Int.lt_floor_add_one q
    have hlog' : Int.log 2 |q * 2 ^ e| < e := by
      refine (Int.lt_zpow_iff_log_lt (by norm_num) hpos).1 ?_
      rw [habs]
      push_cast
      simpa using mul_lt_mul_of_pos_right this hscale
    have := Nat.log2_zero
    omega
  · have habove : (2 : ℚ) ^ (m.log2 : ℤ) ≤ q := by
      exact_mod_cast two_pow_le_of_floor hm hmpos.ne'
    have hlog' : (m.log2 : ℤ) + e ≤ Int.log 2 |q * 2 ^ e| := by
      refine (Int.zpow_le_iff_le_log (by norm_num) hpos).1 ?_
      rw [habs]
      push_cast
      rw [zpow_add₀ (by norm_num : (2 : ℚ) ≠ 0)]
      exact mul_le_mul_of_nonneg_right habove hscale.le
    omega

/-- A mantissa that fits in 53 places is not shifted again. -/
theorem shiftToTargetExponent_of_lt {r : ℕ} {t : ℤ} (hr : r < 2 ^ 53) (ht : -1074 ≤ t) :
    shiftToTargetExponent .binary64 r t .exact = (⟨r, false, false⟩, t) := by
  have hlog : r.log2 ≤ 52 := by
    rcases Nat.eq_zero_or_pos r with rfl | hpos
    · decide
    · have := (Nat.log2_lt hpos.ne').2 hr
      omega
  have hshift : (max ((r.log2 : ℤ) + t - 52) (-1074) - t).toNat = 0 := by omega
  simp only [shiftToTargetExponent, shiftToExponent, targetExponent_eq, hshift]
  simp [HShiftRight.hShiftRight, Nat.repeat, ExtendedMantissa.ofMantissaAndAccuracy]

/-- A mantissa that rounding has carried to 54 places is shifted once more, without a loss. -/
theorem shiftToTargetExponent_carry {t : ℤ} (ht : -1074 ≤ t) :
    shiftToTargetExponent .binary64 (2 ^ 53) t .exact = (⟨2 ^ 52, false, false⟩, t + 1) := by
  have hshift : (max (((2 ^ 53 : ℕ).log2 : ℤ) + t - 52) (-1074) - t).toNat = 1 := by
    rw [Nat.log2_two_pow]
    omega
  simp only [shiftToTargetExponent, shiftToExponent, targetExponent_eq, hshift]
  simp [HShiftRight.hShiftRight, Nat.repeat, ExtendedMantissa.ofMantissaAndAccuracy,
    ExtendedMantissa.shiftRightOne]

/-! ## Rounding -/

section
variable {m : ℕ} {e : ℤ} {acc : Accuracy} {q : ℚ}

/-- What the first shift and the rounding after it give: the mantissa of the nearest multiple of the
last place, of 53 places or carried to the power of two after them. -/
theorem firstShift_spec (hloc : Locates (.ofMantissaAndAccuracy m acc) q)
    (he : e ≤ max (m.log2 + e - 52) (-1074)) :
    ∃ r : ℕ, ∃ t : ℤ, (shiftToTargetExponent .binary64 m e acc).1.roundedMantissa = r ∧
      (shiftToTargetExponent .binary64 m e acc).2 = t ∧ (r : ℚ) * 2 ^ t = nearest (q * 2 ^ e) ∧
      r ≤ 2 ^ 53 ∧ -1074 ≤ t ∧ (2 ^ 52 ≤ r ∨ t = -1074) := by
  have hfloor : ⌊q⌋ = m := by
    have := hloc.floor_eq
    cases acc with
    | exact => exact this
    | inexact o => cases o <;> exact this
  have hq : 0 ≤ q := Int.floor_nonneg.1 (by omega)
  obtain ⟨k, hk⟩ : ∃ k : ℕ, (max ((m.log2 : ℤ) + e - 52) (-1074) - e).toNat = k := ⟨_, rfl⟩
  have hround := (hloc.shiftRight k).roundedMantissa
  refine ⟨(ExtendedMantissa.ofMantissaAndAccuracy m acc >>> k).roundedMantissa, e + k, ?_, ?_, ?_,
    ?_, by omega, ?_⟩
  · simp only [shiftToTargetExponent, shiftToExponent, targetExponent_eq, hk]
  · simp only [shiftToTargetExponent, shiftToExponent, targetExponent_eq, hk]
  · rcases hq.eq_or_lt with rfl | hpos
    · rw [zero_div, nearestEven_zero] at hround
      rw [Nat.cast_eq_zero.1 hround]
      simp
    · have hplace := lastPlace_of_floor hpos hfloor he
      have hplace' : lastPlace (q * 2 ^ e) = e + k := by omega
      have hquot : q * 2 ^ e / 2 ^ (e + (k : ℤ)) = q / 2 ^ k := by
        rw [zpow_add₀ (by norm_num : (2 : ℚ) ≠ 0), zpow_natCast]
        exact mul_div_mul_comm q _ _ _ ▸ by
          field_simp
      rw [nearest, hplace', hquot, ← hround]
      push_cast
      rfl
  · have hle : q / 2 ^ k ≤ ((2 ^ 53 : ℤ) : ℚ) := by
      rw [div_le_iff₀ (by positivity)]
      refine (lt_two_pow_of_floor hfloor).le.trans ?_
      rw [Int.cast_pow, Int.cast_ofNat, ← pow_add]
      exact pow_le_pow_right₀ (by norm_num) (by omega)
    have := nearestEven_mono hle
    rw [nearestEven_intCast, ← hround] at this
    exact_mod_cast this
  · by_cases ht : e + k = -1074
    · exact .inr ht
    left
    have hlog : m.log2 = 52 + k := by omega
    have hne : m ≠ 0 := by
      rintro rfl
      have := Nat.log2_zero
      omega
    have hle : ((2 ^ 52 : ℤ) : ℚ) ≤ q / 2 ^ k := by
      rw [le_div_iff₀ (by positivity), Int.cast_pow, Int.cast_ofNat, ← pow_add, ← hlog]
      exact two_pow_le_of_floor hfloor hne
    have := nearestEven_mono hle
    rw [nearestEven_intCast, ← hround] at this
    exact_mod_cast this

/-- The unpacked number of a mantissa and an exponent. -/
def ofShifted (s : Sign) (p : ExtendedMantissa × ℤ) : UnpackedFloat :=
  if h : p.1.mantissa = 0 then .zero s else .finite s p.1.mantissa p.2 (Nat.pos_of_ne_zero h)

/-- The machine shifts, rounds, and shifts once more. -/
theorem roundWithAccuracy_eq (s : Sign) : roundWithAccuracy .binary64 s m e acc =
    ofShifted s (shiftToTargetExponent .binary64
      (shiftToTargetExponent .binary64 m e acc).1.roundedMantissa
      (shiftToTargetExponent .binary64 m e acc).2 .exact) :=
  rfl

/-- The machine rounds to the nearest multiple of the last place. It is right wherever the mantissa
has enough places, that is, where its exponent is not above the last place. -/
theorem roundWithAccuracy_rounds (s : Sign) (hloc : Locates (.ofMantissaAndAccuracy m acc) q)
    (he : e ≤ max (m.log2 + e - 52) (-1074)) :
    Rounds (roundWithAccuracy .binary64 s m e acc) (signed s (q * 2 ^ e)) := by
  obtain ⟨r, t, hr, ht, hval, hle, hlow, hfull⟩ := firstShift_spec hloc he
  have hsigned := nearest_signed s (q * 2 ^ e)
  rw [← hval] at hsigned
  rw [roundWithAccuracy_eq, hr, ht]
  rcases hle.lt_or_eq with hlt | rfl
  · rw [shiftToTargetExponent_of_lt hlt hlow]
    by_cases h0 : r = 0
    · subst h0
      exact ⟨rfl, trivial, by rw [hsigned]; cases s <;> simp [ofShifted, unpackedValue, signed]⟩
    · simp only [ofShifted, h0, dite_false]
      exact ⟨rfl, ⟨hlt, hlow, hfull⟩, hsigned.symm⟩
  · rw [shiftToTargetExponent_carry hlow]
    refine ⟨rfl, ⟨by norm_num, by omega, .inl le_rfl⟩, ?_⟩
    rw [hsigned]
    change signed s (((2 ^ 52 : ℕ) : ℚ) * 2 ^ (t + 1)) = _
    congr 1
    rw [zpow_add₀ (by norm_num : (2 : ℚ) ≠ 0)]
    push_cast
    ring

end

/-- More places to the left of the last one do not change a number. -/
theorem shiftLeft_mul_zpow (m k : ℕ) (e : ℤ) :
    ((m <<< k : ℕ) : ℚ) * 2 ^ (e - k) = m * 2 ^ e := by
  rw [Nat.shiftLeft_eq]
  push_cast
  rw [mul_assoc, ← zpow_natCast, ← zpow_add₀ (by norm_num : (2 : ℚ) ≠ 0)]
  congr 2
  omega

/-- More places are so many more binary digits. -/
theorem log2_shiftLeft {m : ℕ} (hm : m ≠ 0) (k : ℕ) : (m <<< k).log2 = m.log2 + k := by
  induction k with
  | zero => rfl
  | succ k ih =>
    have hne : m <<< k ≠ 0 := by simpa [Nat.shiftLeft_eq] using hm
    rw [Nat.shiftLeft_succ, Nat.log2_two_mul hne, ih]
    rfl

/-- A positive mantissa with any exponent: the machine first gives it enough places. -/
theorem round_rounds (s : Sign) {m : ℕ} (hm : 0 < m) (e : ℤ) :
    Rounds (Float.Model.UnpackedFloat.round .binary64 s m e) (signed s (m * 2 ^ e)) := by
  simp only [Float.Model.UnpackedFloat.round, decreaseExponent, targetExponent_eq]
  obtain ⟨k, hk⟩ : ∃ k : ℕ, (e - max ((m.log2 : ℤ) + e - 52) (-1074)).toNat = k := ⟨_, rfl⟩
  have hlog : (m <<< k).log2 = m.log2 + k := log2_shiftLeft hm.ne' k
  rw [hk, ← shiftLeft_mul_zpow m k e]
  exact roundWithAccuracy_rounds s (locates_exact _) (by rw [hlog]; push_cast; omega)

/-- The result of a sum or difference before rounding: a mantissa with a sign. -/
theorem normalize_rounds (m e : ℤ) (zero : Sign) :
    Rounds (UnpackedFloat.normalize .binary64 m e zero) (m * 2 ^ e) := by
  rcases lt_trichotomy m 0 with hm | rfl | hm
  · have hpos : 0 < (-m).toNat := by omega
    have hcast : (m : ℚ) = -(((-m).toNat : ℕ) : ℚ) := by
      have : ((-m).toNat : ℤ) = -m := by omega
      rw [← Int.cast_natCast, this]
      push_cast
      ring
    rw [UnpackedFloat.normalize, Int.compare_eq_lt.2 hm, hcast, neg_mul]
    exact round_rounds .negative hpos e
  · rw [UnpackedFloat.normalize, Int.compare_eq_eq.2 rfl]
    exact ⟨rfl, trivial, by simp [unpackedValue]⟩
  · have hpos : 0 < m.toNat := by omega
    have hcast : (m : ℚ) = ((m.toNat : ℕ) : ℚ) := by
      rw [← Int.cast_natCast, Int.toNat_of_nonneg hm.le]
    rw [UnpackedFloat.normalize, Int.compare_eq_gt.2 hm, hcast]
    exact round_rounds .positive hpos e

end BenchGate.Binary64
