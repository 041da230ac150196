import BenchGate.Proofs.Binary64.Difference
import BenchGate.Proofs.Decimal.Numeral

/-!
# The sign of a number in text

A double that is not below zero is written without a minus sign, also in its exponent where the
shortest text is used, since only numbers below one have a negative exponent
(`Decimal.minus_not_mem_layout`, `minus_not_mem_fixed`). A double below zero begins with one, even
if all its digits are zeros (`head_fixed`).
-/

namespace BenchGate

open Binary64

namespace Decimal

/-- A decimal of at least one has a point to the right of its first digit. -/
theorem point_pos_of_one_le {d : Decimal} (h : 1 ≤ d.value) :
    0 < (width d.digits : ℤ) + d.scale := by
  by_contra hpoint
  have hten : (0 : ℚ) < 10 ^ d.scale := zpow_pos (by norm_num) _
  have hlt : (d.digits : ℚ) < 10 ^ (width d.digits : ℤ) := by
    exact_mod_cast lt_pow_width d.digits
  have hvalue : d.value < 1 := by
    calc d.value = d.digits * 10 ^ d.scale := rfl
      _ < 10 ^ (width d.digits : ℤ) * 10 ^ d.scale := mul_lt_mul_of_pos_right hlt hten
      _ = 10 ^ ((width d.digits : ℤ) + d.scale) := (zpow_add₀ (by norm_num) _ _).symm
      _ ≤ 10 ^ (0 : ℤ) := zpow_le_zpow_right₀ (by norm_num) (by omega)
      _ = 1 := zpow_zero _
  exact hvalue.not_ge h

/-- A decimal of at least one is laid out without a minus sign. -/
theorem minus_not_mem_layout {d : Decimal} (h : 1 ≤ d.value) : '-' ∉ d.layout := by
  have hpoint := point_pos_of_one_le h
  have hdigits := not_mem_of_isDigit (c := '-') rfl (isDigits_toDigits d.digits).isDigit
  unfold width at hpoint
  unfold layout
  simp only
  generalize Nat.toDigits 10 d.digits = digits at *
  have htake : ∀ k, '-' ∉ digits.take k := fun k hmem => hdigits (List.mem_of_mem_take hmem)
  have hdrop : ∀ k, '-' ∉ digits.drop k := fun k hmem => hdigits (List.mem_of_mem_drop hmem)
  split
  · simp [hdigits]
  split
  · simp [htake, hdrop]
  split
  · next hsmall => exact absurd hsmall.2 hpoint.not_ge
  · have hsign : ¬(digits.length + d.scale - 1 < 0) := by omega
    have hexponent := not_mem_of_isDigit (c := '-') rfl
      (isDigits_toDigits (digits.length + d.scale - 1).natAbs).isDigit
    have hfraction : '-' ∉ if (digits.drop 1).isEmpty then [] else '.' :: digits.drop 1 := by
      split_ifs
      · exact List.not_mem_nil
      · exact List.not_mem_cons_of_ne_of_not_mem (by decide) (hdrop 1)
    rw [if_neg hsign, List.mem_append, List.mem_append]
    refine not_or.2 ⟨not_or.2 ⟨htake 1, hfraction⟩, ?_⟩
    simpa using hexponent

end Decimal

section
variable {x : Float}

/-- A double whose value is not negative has no minus sign, unless it is a zero. -/
theorem not_negative_of_nonneg {negative : Bool} {mantissa : ℕ} {exponent : ℤ} (h : 0 ≤ x)
    (hx : ofFloat x = .finite negative mantissa exponent) :
    ¬(negative = true ∧ mantissa ≠ 0) := by
  rintro ⟨rfl, hmantissa⟩
  have hvalue : x.value = -(mantissa * 2 ^ exponent) := by
    rw [Float.value, hx, toRat, if_pos rfl]
  have hpos := mul_zpow_pos (Nat.pos_of_ne_zero hmantissa) exponent
  have hnonneg := (Float.nonneg_iff.1 h).2
  linarith

/-- Its value is that of its mantissa. -/
theorem value_of_nonneg {negative : Bool} {mantissa : ℕ} {exponent : ℤ} (h : 0 ≤ x)
    (hx : ofFloat x = .finite negative mantissa exponent) : x.value = mantissa * 2 ^ exponent := by
  have hsign := not_negative_of_nonneg h hx
  rw [Float.value, hx, toRat]
  split_ifs with hnegative
  · have hzero : mantissa = 0 := by simpa [hnegative] using hsign
    simp [hzero]
  · rfl

/-- A double whose value is negative has a minus sign and is no zero. -/
theorem negative_of_neg {negative : Bool} {mantissa : ℕ} {exponent : ℤ} (h : x < 0)
    (hx : ofFloat x = .finite negative mantissa exponent) : negative = true ∧ mantissa ≠ 0 := by
  have hneg := (Float.lt_iff.1 h).2.2
  rw [Float.value_zero, Float.value, hx] at hneg
  have hscale : (0 : ℚ) < 2 ^ exponent := zpow_pos (by norm_num) _
  cases negative with
  | false => exact absurd hneg (mul_nonneg (Nat.cast_nonneg _) hscale.le).not_gt
  | true =>
    refine ⟨rfl, ?_⟩
    rintro rfl
    simp [toRat] at hneg

/-- An infinity shows its sign. -/
theorem value_of_infinite {negative : Bool} (hx : ofFloat x = .infinite negative) :
    x.value = if negative then -overflow else overflow := by
  rw [Float.value, hx]
  rfl

/-- The shortest text of a double above one has no minus sign. -/
theorem minus_not_mem_numeral (h : 1 < x) : '-' ∉ (numeral x).toList := by
  have hvalue := (Float.lt_iff.1 h).2.2
  rw [Float.value_one.1] at hvalue
  have hover := overflow_pos
  rw [numeral, String.toList_ofList]
  cases hx : ofFloat x with
  | nan =>
    rw [numeralChars, hx]
    decide
  | infinite negative =>
    rw [numeralChars, hx]
    cases negative with
    | false => decide
    | true =>
      rw [value_of_infinite hx, if_pos rfl] at hvalue
      linarith
  | finite negative mantissa exponent =>
    have hfin := Float.isFinite_of_ofFloat hx
    obtain ⟨negative', mantissa', exponent', hx', hreduced, hvalue'⟩ :=
      Float.exists_of_isFinite hfin (by linarith)
    obtain ⟨rfl, rfl, rfl⟩ := Binary64.finite.inj (hx.symm.trans hx')
    have hpositive : negative = false := by
      have hnonneg : 0 ≤ x := Float.nonneg_iff.2 ⟨Float.isNaN_of_isFinite hfin, by linarith⟩
      have hsign := not_negative_of_nonneg hnonneg hx
      simpa [hreduced.pos.ne'] using hsign
    subst hpositive
    -- a decimal below one would not round to a double above one
    have hshortest : 1 ≤ (Decimal.shortest mantissa exponent).value := by
      by_contra hlt
      have hround := round_mono (not_le.1 hlt).le
      have hnearest := (Float.isNearest_shortest hfin hx hreduced hvalue').value
      rw [Literal.withSign, if_neg Bool.false_ne_true] at hnearest
      rw [← hnearest, ← Float.value_one.1, Float.round_value Float.value_one.2,
        Float.value_one.1] at hround
      linarith
    simpa [numeralChars, hx] using Decimal.minus_not_mem_layout hshortest

/-- A double that is not below zero is written without a minus sign. -/
theorem minus_not_mem_fixed {places : ℕ} (h : 0 ≤ x) : '-' ∉ (fixed places x).toList := by
  have hvalue := (Float.nonneg_iff.1 h).2
  have hover := overflow_pos
  cases hx : ofFloat x with
  | nan => simp [fixed, numeral, numeralChars, hx]
  | infinite negative =>
    cases negative with
    | false => simp [fixed, numeral, numeralChars, hx]
    | true =>
      rw [value_of_infinite hx, if_pos rfl] at hvalue
      linarith
  | finite negative mantissa exponent =>
    have hsign := not_negative_of_nonneg h hx
    rcases Decimal.fixed_cases places hx with ⟨hlarge, hfixed⟩ | ⟨body, hbody, hfixed⟩
    · have hb : (0 : ℚ) < (quotient mantissa exponent).2 :=
        Nat.cast_pos.2 (quotient_snd_pos mantissa exponent)
      have hten : (10 : ℚ) ^ 21 ≤ x.value := by
        rw [value_of_nonneg h hx, ← quotient_eq, le_div_iff₀ hb]
        exact_mod_cast hlarge
      rw [hfixed]
      refine minus_not_mem_numeral (Float.lt_iff.2 ⟨Float.isNaN_of_isFinite Float.value_one.2,
        (Float.nonneg_iff.1 h).1, ?_⟩)
      rw [Float.value_one.1]
      linarith
    · rw [hfixed, if_neg hsign, List.nil_append]
      intro hmem
      rcases hbody _ hmem with hdigit | hpoint
      · cases hdigit
      · cases hpoint

/-- A double below zero is written with a minus sign in front. -/
theorem head_fixed {places : ℕ} (h : x < 0) : (fixed places x).toList.head? = some '-' := by
  have hvalue := (Float.lt_iff.1 h).2.2
  rw [Float.value_zero] at hvalue
  have hover := overflow_pos
  cases hx : ofFloat x with
  | nan =>
    rw [Float.value, hx] at hvalue
    exact absurd hvalue (lt_irrefl 0)
  | infinite negative =>
    cases negative with
    | false =>
      rw [value_of_infinite hx, if_neg Bool.false_ne_true] at hvalue
      linarith
    | true => simp [fixed, numeral, numeralChars, hx]
  | finite negative mantissa exponent =>
    have hsign := negative_of_neg h hx
    rcases Decimal.fixed_cases places hx with ⟨-, hfixed⟩ | ⟨body, -, hfixed⟩
    · simp [hfixed, numeral, numeralChars, hx, hsign]
    · simp [hfixed, hsign]

end

end BenchGate
