import BenchGate.Proofs.Decimal.Numeral

/-!
# Counts are written in full

A whole number below `2 ^ 53` has no other whole number in the interval of its double. The search
for a short decimal goes from coarse grids to fine ones, and the grid of the whole numbers offers
the number itself, so that what is found is the number with some zeros at its end
(`Decimal.shortest_of_whole`). The layout puts these zeros back: the numeral of a count is the count
(`numeral_ofCount`).
-/

namespace BenchGate

open Binary64 Literal

namespace Decimal

variable {mantissa : ℕ} {exponent : ℤ}

/-- Zeros are moved from the digits to the scale. -/
theorem scale_le_scale_trim (d : Decimal) : d.scale ≤ d.trim.scale := by
  fun_induction trim d with
  | case1 d h ih => exact (Int.le_add_one le_rfl).trans ih
  | case2 d h => exact le_rfl

/-! ## The grids of a whole number -/

/-- A double lies in its own interval. -/
theorem within_self (h : 0 < mantissa) : Within mantissa exponent (mantissa * 2 ^ exponent) := by
  obtain ⟨hlow, hhigh⟩ := @between_ends mantissa exponent h
  unfold Within
  split_ifs
  · exact ⟨hlow.le, hhigh.le⟩
  · exact ⟨hlow, hhigh⟩

/-- A grid that the double itself lies on offers a decimal. -/
theorem neighbour?_ne_none_of_mem {scale : ℤ} {n : ℕ} (h : 0 < mantissa)
    (hn : (n : ℚ) * 10 ^ scale = mantissa * 2 ^ exponent) :
    neighbour? (quotient mantissa exponent).1 (quotient mantissa exponent).2
      (Interval.around mantissa exponent) scale ≠ none := by
  have hb : 0 < (quotient mantissa exponent).2 := quotient_snd_pos mantissa exponent
  have hbelow : (quotient mantissa exponent).1 * Nat.pow 10 (-scale).toNat /
      ((quotient mantissa exponent).2 * Nat.pow 10 scale.toNat) = n := by
    have hb' : ((quotient mantissa exponent).2 : ℚ) ≠ 0 := Nat.cast_ne_zero.2 hb.ne'
    refine Nat.div_eq_of_eq_mul_left (Nat.mul_pos hb (Nat.pow_pos (by norm_num))) ?_
    rw [← quotient_eq, zpow_ten, eq_div_iff hb', mul_div_assoc', div_mul_eq_mul_div,
      div_eq_iff (by positivity)] at hn
    simp only [Nat.pow_eq]
    exact_mod_cast (by linarith : ((quotient mantissa exponent).1 : ℚ) * (10 ^ (-scale).toNat : ℕ) =
      n * ((quotient mantissa exponent).2 * (10 ^ scale.toNat : ℕ)))
  exact neighbour?_ne_none_of_holds hbelow (.inl (holds_iff.2 (hn ▸ within_self h)))

/-- The leading place of a quotient is its first one. -/
theorem lt_zpow_leadingExponent {a b : ℕ} (hb : 0 < b) :
    (a / b : ℚ) < 10 ^ (leadingExponent a b + 1) := by
  have hb' : (0 : ℚ) < b := Nat.cast_pos.2 hb
  have hwidth : 0 < width b := Nat.length_toDigits_pos
  unfold leadingExponent
  simp only
  split_ifs with h
  · have hhigh : (a : ℚ) < (10 ^ width a : ℕ) := by exact_mod_cast lt_pow_width a
    have hlow : ((10 ^ (width b - 1) : ℕ) : ℚ) ≤ b := by exact_mod_cast pow_width_le hb
    rw [div_lt_iff₀ hb']
    calc (a : ℚ) < (10 ^ width a : ℕ) := hhigh
      _ = 10 ^ ((width a : ℤ) - width b + 1) * (10 ^ (width b - 1) : ℕ) := by
        push_cast
        rw [← zpow_natCast, ← zpow_natCast, ← zpow_add₀ (by norm_num)]
        congr 1
        omega
      _ ≤ 10 ^ ((width a : ℤ) - width b + 1) * b :=
        mul_le_mul_of_nonneg_left hlow (zpow_nonneg (by norm_num) _)
  · rw [leQuotient_iff hb, not_le, Nat.cast_one, one_mul] at h
    rwa [sub_add_cancel]

section
variable {n : ℕ} (h : IsReduced mantissa exponent) (hn : (mantissa * 2 ^ exponent : ℚ) = n)
  (hlt : n < 2 ^ 53)
include h hn hlt

/-- Below `2 ^ 53` the last place of a double is one at most. -/
theorem zpow_exponent_le_one : (2 : ℚ) ^ exponent ≤ 1 := by
  rcases h.full with hfull | hleast
  · have hfull' : (2 ^ 52 : ℚ) ≤ mantissa := by exact_mod_cast hfull
    have hlt' : (n : ℚ) < 2 ^ 53 := by exact_mod_cast hlt
    have hpow : (2 : ℚ) ^ exponent < 2 ^ (1 : ℤ) := by
      have hmul := mul_le_mul_of_nonneg_right hfull' (zpow_nonneg zero_le_two exponent)
      linarith
    have hexponent := (zpow_lt_zpow_iff_right₀ (by norm_num : (1 : ℚ) < 2)).1 hpow
    exact zpow_le_one_of_nonpos₀ (by norm_num) (by omega)
  · rw [hleast]
    exact zpow_le_one_of_nonpos₀ (by norm_num) (by decide)

/-- No other whole number is in the interval. -/
theorem Within.eq_whole {m : ℕ} (hm : Within mantissa exponent m) : m = n := by
  have hunit := zpow_exponent_le_one h hn hlt
  have hnear : |(m : ℚ) - n| < 1 := by
    rw [← hn]
    rcases hm.abs_sub_lt h.pos with hlt | ⟨heq, -⟩ <;> linarith
  have hnear' : |(m : ℤ) - n| < 1 := by exact_mod_cast hnear
  have hzero := Int.abs_lt_one_iff.1 hnear'
  omega

/-- The search stops at the grid of the whole numbers or before, and what it offers there is the
number. -/
theorem search_of_whole {leading : ℤ} (left digits : ℕ) (hdigits : digits ≤ leading)
    (hleft : leading < digits + left) :
    let d := search (quotient mantissa exponent).1 (quotient mantissa exponent).2
      (Interval.around mantissa exponent) leading left digits
    0 ≤ d.scale ∧ d.value = n := by
  induction left generalizing digits with
  | zero =>
    rw [Nat.cast_zero, add_zero] at hleft
    exact absurd hdigits (not_le.2 hleft)
  | succ left ih =>
    rw [search]
    split
    · next m hm =>
      obtain ⟨k, hk⟩ := Int.eq_ofNat_of_zero_le (sub_nonneg.2 hdigits)
      have hwithin := holds_iff.1 (holds_of_neighbour? hm)
      rw [hk, zpow_natCast] at hwithin
      have hwhole : m * 10 ^ k = n := Within.eq_whole h hn hlt (by exact_mod_cast hwithin)
      refine ⟨sub_nonneg.2 hdigits, ?_⟩
      rw [value, hk, zpow_natCast, ← hwhole]
      push_cast
      rfl
    · next hnone =>
      refine ih _ ?_ (by push_cast at hleft ⊢; linarith)
      by_contra hlast
      have hgrid : leading - digits = 0 := by
        push_cast at hlast
        omega
      refine neighbour?_ne_none_of_mem (n := n) h.pos ?_ hnone
      rw [hgrid, zpow_zero, mul_one, hn]

/-- The leading place of a whole number is among those that the search tries. -/
theorem leadingExponent_of_whole :
    0 ≤ leadingExponent (quotient mantissa exponent).1 (quotient mantissa exponent).2 ∧
      leadingExponent (quotient mantissa exponent).1 (quotient mantissa exponent).2 < 16 := by
  have hnum : 0 < (quotient mantissa exponent).1 := Nat.mul_pos h.pos (Nat.pow_pos (by norm_num))
  have hden := quotient_snd_pos mantissa exponent
  have hle := zpow_leadingExponent_le hnum hden
  have hgt := lt_zpow_leadingExponent (a := (quotient mantissa exponent).1) hden
  rw [quotient_eq, hn] at hle hgt
  have hlt' : (n : ℚ) < 10 ^ (16 : ℤ) := by
    have hlt' : (n : ℚ) < 2 ^ 53 := by exact_mod_cast hlt
    exact hlt'.trans (by norm_num)
  have hone : (10 : ℚ) ^ (0 : ℤ) ≤ n := by
    have hpos := mul_zpow_pos h.pos exponent
    rw [hn] at hpos
    exact_mod_cast hpos
  have hlow := (zpow_lt_zpow_iff_right₀ (by norm_num : (1 : ℚ) < 10)).1 (hone.trans_lt hgt)
  exact ⟨Int.lt_add_one_iff.1 hlow,
    (zpow_lt_zpow_iff_right₀ (by norm_num : (1 : ℚ) < 10)).1 (hle.trans_lt hlt')⟩

/-- The shortest decimal of a whole number is the number, with zeros at its end in the scale. -/
theorem shortest_of_whole :
    0 ≤ (shortest mantissa exponent).scale ∧ (shortest mantissa exponent).value = n := by
  obtain ⟨hleading, hfew⟩ := leadingExponent_of_whole h hn hlt
  rw [shortest, if_neg h.pos.ne', value_trim]
  obtain ⟨hscale, hvalue⟩ :=
    search_of_whole h hn hlt mostDigits 0 hleading (hfew.trans (by decide))
  exact ⟨hscale.trans (scale_le_scale_trim _), hvalue⟩

end

/-! ## Zeros at the end -/

/-- Zeros after the digits of a number multiply it by ten. -/
theorem toDigits_append_replicate {n : ℕ} (hn : 0 < n) (k : ℕ) :
    Nat.toDigits 10 n ++ List.replicate k '0' = Nat.toDigits 10 (n * 10 ^ k) := by
  induction k with
  | zero => simp
  | succ k ih =>
    have hpos : 0 < n * 10 ^ k := Nat.mul_pos hn (by positivity)
    have hzero : Nat.toDigits 10 0 = ['0'] := rfl
    have hstep := Nat.toDigits_append_toDigits (by norm_num : 1 < 10) hpos (by norm_num : 0 < 10)
    rw [hzero, ← ih, List.append_assoc, ← List.replicate_succ'] at hstep
    rw [hstep, pow_succ]
    congr 1
    ring

/-- A whole number that is not too large is laid out in full. -/
theorem layout_of_whole {d : Decimal} {n : ℕ} (hscale : 0 ≤ d.scale) (hvalue : d.value = n)
    (hn : 0 < n) (hlt : n < 10 ^ 21) : d.layout = Nat.toDigits 10 n := by
  obtain ⟨k, hk⟩ := Int.eq_ofNat_of_zero_le hscale
  have hwhole : d.digits * 10 ^ k = n := by
    rw [value, hk, zpow_natCast] at hvalue
    exact_mod_cast hvalue
  have hdigits : 0 < d.digits := Nat.pos_of_mul_pos_right (hwhole ▸ hn)
  have hdigitsAll := toDigits_append_replicate hdigits k
  rw [hwhole] at hdigitsAll
  have hlength : (Nat.toDigits 10 d.digits).length + k ≤ 21 := by
    rw [← List.length_replicate (n := k) (a := '0'), ← List.length_append, hdigitsAll]
    exact (Nat.length_toDigits_le_iff (by norm_num) (by norm_num)).2 hlt
  unfold layout
  simp only [positionalLimit]
  rw [if_pos (by omega), hk, Int.toNat_natCast, hdigitsAll]

end Decimal

/-- The numeral of a whole number below `2 ^ 53` is the number in full. -/
theorem numeral_ofNat {n : ℕ} (hlt : n < 2 ^ 53) : numeral (.ofNat n) = toString n := by
  rcases Nat.eq_zero_or_pos n with rfl | hpos
  · decide +kernel
  · obtain ⟨hvalue, hnum⟩ := Float.value_ofNat hlt
    have hpos' : (0 : ℚ) < n := Nat.cast_pos.2 hpos
    have hfinite : (Float.ofNat n).isFinite = true := by
      refine Float.isFinite_iff.2 ⟨hnum, ?_⟩
      rw [hvalue, abs_of_pos hpos']
      exact lt_of_lt_of_le (by exact_mod_cast hlt) (pow_le_pow_right₀ (by norm_num) (by norm_num))
    obtain ⟨negative, mantissa, exponent, hfloat, hreduced, hparts⟩ :=
      Float.exists_of_isFinite hfinite (hvalue ▸ hpos'.ne')
    have hproduct := mul_zpow_pos hreduced.pos exponent
    obtain rfl : negative = false := by
      refine Bool.eq_false_iff.2 fun hnegative => ?_
      rw [hvalue, hnegative, withSign, if_pos rfl] at hparts
      linarith
    rw [hvalue, withSign, if_neg Bool.false_ne_true] at hparts
    obtain ⟨hscale, hshortest⟩ := Decimal.shortest_of_whole hreduced hparts.symm hlt
    rw [numeral, numeralChars, hfloat, Nat.toString_eq_ofList_toDigits]
    simp only [Bool.false_eq_true, false_and, if_false, List.nil_append]
    rw [Decimal.layout_of_whole hscale hshortest hpos (hlt.trans (by norm_num))]

/-- A count is written in full. -/
theorem numeral_ofCount (n : ℕ) : numeral (ofCount n) = toString (min n largestCount) :=
  numeral_ofNat ((min_le_right n largestCount).trans_lt (by decide))

end BenchGate
