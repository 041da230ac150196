import BenchGate.Decimal.Shortest
import BenchGate.Proofs.Binary64.Closest

/-!
# The shortest decimal reads back

The interval of a double holds only numbers that round to it (`nearest_of_within`), the search for
a short decimal stops in the interval (`holds_search`) because a grid of seventeen digits is finer
than the interval is long (`neighbour?_ne_none_of_digits`), and dropping zeros changes no number.
Together, `nearest_shortest`: what `Decimal.shortest` finds rounds to the double it was found for.
-/

namespace BenchGate.Binary64

/-! ## The numbers that round to a double -/

/-- A number rounds to a whole number that is nearer than a half, or no farther and even. -/
theorem nearestEven_eq {q : ℚ} {n : ℤ} (h : |q - n| < 1 / 2 ∨ |q - n| = 1 / 2 ∧ n % 2 = 0) :
    nearestEven q = n := by
  have hlo := Int.floor_le q
  have hhi := Int.lt_floor_add_one q
  have hle : |q - n| ≤ 1 / 2 := h.elim le_of_lt fun h => h.1.le
  obtain ⟨hge, hle⟩ := abs_le.1 hle
  -- the whole number is the floor or the number after it
  have hn : n = ⌊q⌋ ∨ n = ⌊q⌋ + 1 := by
    have h₁ : (n : ℚ) < ⌊q⌋ + 2 := by linarith
    have h₂ : (⌊q⌋ : ℚ) - 1 < n := by linarith
    have h₁' : n < ⌊q⌋ + 2 := by exact_mod_cast h₁
    have h₂' : ⌊q⌋ - 1 < n := by exact_mod_cast h₂
    omega
  unfold nearestEven
  rcases hn with rfl | rfl
  · rw [abs_of_nonneg (by linarith)] at h
    rcases h with h | ⟨h, heven⟩
    · rw [if_pos h]
    · rw [if_neg (by linarith), if_neg (by linarith), heven, add_zero]
  · push_cast at h hge hle ⊢
    rw [abs_sub_comm, abs_of_nonneg (by linarith)] at h
    rcases h with h | ⟨h, heven⟩
    · rw [if_neg (by linarith), if_pos (by linarith)]
    · rw [if_neg (by linarith), if_neg (by linarith)]
      omega

/-- A positive number with its leading place given by two powers of two. -/
theorem lastPlace_eq {q : ℚ} {e : ℤ} (he : leastExponent ≤ e) (hq : 0 < q)
    (hlow : 2 ^ 52 * 2 ^ e ≤ q ∨ e = leastExponent) (hhigh : q < 2 ^ 53 * 2 ^ e) :
    lastPlace q = e := by
  have hlog : Int.log 2 |q| < 53 + e := by
    refine (Int.lt_zpow_iff_log_lt (by norm_num) (abs_pos.2 hq.ne')).1 ?_
    rw [abs_of_pos hq]
    push_cast
    rw [zpow_add₀ (by norm_num : (2 : ℚ) ≠ 0)]
    exact_mod_cast hhigh
  unfold lastPlace
  rcases hlow with hlow | rfl
  · have hlog' : 52 + e ≤ Int.log 2 |q| := by
      refine (Int.zpow_le_iff_le_log (by norm_num) (abs_pos.2 hq.ne')).1 ?_
      rw [abs_of_pos hq]
      push_cast
      rw [zpow_add₀ (by norm_num : (2 : ℚ) ≠ 0)]
      exact_mod_cast hlow
    omega
  · omega

/-- A positive number rounds to a multiple of its last place that is nearer than half of the place,
or no farther and even. -/
theorem nearest_eq {q : ℚ} {n e : ℤ} (hplace : lastPlace q = e)
    (h : |q - n * 2 ^ e| < 2 ^ e / 2 ∨ |q - n * 2 ^ e| = 2 ^ e / 2 ∧ n % 2 = 0) :
    nearest q = n * 2 ^ e := by
  have hpos : (0 : ℚ) < 2 ^ e := zpow_pos (by norm_num) _
  have habs : |q / 2 ^ e - n| = |q - n * 2 ^ e| / 2 ^ e := by
    rw [← abs_of_pos hpos, ← abs_div, abs_of_pos hpos, sub_div, mul_div_cancel_right₀ _ hpos.ne']
  rw [nearest, hplace, nearestEven_eq (n := n)]
  rw [habs, div_lt_iff₀ hpos, div_eq_iff hpos.ne']
  rwa [one_div_mul_eq_div]

/-- A mantissa and an exponent as a positive finite double has them. -/
structure IsReduced (mantissa : ℕ) (exponent : ℤ) : Prop where
  pos : 0 < mantissa
  lt : mantissa < 2 ^ 53
  least_le : leastExponent ≤ exponent
  full : 2 ^ 52 ≤ mantissa ∨ exponent = leastExponent

end BenchGate.Binary64

namespace BenchGate.Decimal

open Binary64

variable {mantissa : ℕ} {exponent : ℤ}

/-! ## The interval of a double -/

/-- The interval in quarters of the last place, with its ends when the mantissa is even. -/
def Within (mantissa : ℕ) (exponent : ℤ) (q : ℚ) : Prop :=
  if mantissa % 2 = 0 then
    (Interval.around mantissa exponent).low * 2 ^ (exponent - 2) ≤ q ∧
      q ≤ (Interval.around mantissa exponent).high * 2 ^ (exponent - 2)
  else
    (Interval.around mantissa exponent).low * 2 ^ (exponent - 2) < q ∧
      q < (Interval.around mantissa exponent).high * 2 ^ (exponent - 2)

theorem quarter_pos (exponent : ℤ) : (0 : ℚ) < 2 ^ (exponent - 2) := zpow_pos (by norm_num) _

/-- The last place in its quarters. -/
theorem zpow_eq_quarters (exponent : ℤ) : (2 : ℚ) ^ exponent = 4 * 2 ^ (exponent - 2) := by
  rw [zpow_sub₀ (by norm_num)]
  ring

/-- Below a power of two the interval is only half as long. -/
theorem cast_low (h : 0 < mantissa) : ((Interval.around mantissa exponent).low : ℚ) =
    4 * mantissa - if mantissa = 2 ^ 52 ∧ exponent ≠ leastExponent then 1 else 2 := by
  simp only [Interval.around, Nat.pow_eq]
  split_ifs
  · rw [Nat.cast_sub (by omega)]
    push_cast
    rfl
  · rw [Nat.cast_sub (by omega)]
    push_cast
    rfl

theorem cast_high : ((Interval.around mantissa exponent).high : ℚ) = 4 * mantissa + 2 := by
  simp [Interval.around]

/-- A double is between the ends of its interval. -/
theorem between_ends (h : 0 < mantissa) :
    ((Interval.around mantissa exponent).low : ℚ) * 2 ^ (exponent - 2) < mantissa * 2 ^ exponent ∧
      (mantissa : ℚ) * 2 ^ exponent <
        (Interval.around mantissa exponent).high * 2 ^ (exponent - 2) := by
  have hu := quarter_pos exponent
  rw [cast_low h, cast_high, zpow_eq_quarters exponent]
  constructor
  · split_ifs <;> linarith
  · linarith

/-- No number of the interval is farther from the double than half the last place. -/
theorem Within.abs_sub_lt {q : ℚ} (h : 0 < mantissa) (hq : Within mantissa exponent q) :
    |q - mantissa * 2 ^ exponent| < 2 ^ exponent / 2 ∨
      |q - mantissa * 2 ^ exponent| = 2 ^ exponent / 2 ∧ (mantissa : ℤ) % 2 = 0 := by
  have hu := quarter_pos exponent
  have hlow : (4 * mantissa - 2) * 2 ^ (exponent - 2) ≤
      ((Interval.around mantissa exponent).low : ℚ) * 2 ^ (exponent - 2) := by
    refine mul_le_mul_of_nonneg_right ?_ hu.le
    rw [cast_low h]
    split_ifs <;> linarith
  unfold Within at hq
  rw [cast_high] at hq
  rw [zpow_eq_quarters exponent]
  split_ifs at hq with heven
  · have hle : |q - mantissa * (4 * 2 ^ (exponent - 2))| ≤ 4 * 2 ^ (exponent - 2) / 2 :=
      abs_le.2 ⟨by linarith, by linarith⟩
    exact hle.lt_or_eq.imp_right fun heq => ⟨heq, by omega⟩
  · exact .inl (abs_lt.2 ⟨by linarith, by linarith⟩)

/-- Below a power of two the numbers of its interval are within a quarter. -/
theorem Within.sub_quarter_le {q : ℚ} (hpower : mantissa = 2 ^ 52 ∧ exponent ≠ leastExponent)
    (hq : Within mantissa exponent q) :
    (mantissa : ℚ) * 2 ^ exponent - 2 ^ (exponent - 2) ≤ q := by
  obtain ⟨rfl, -⟩ := id hpower
  unfold Within at hq
  rw [cast_low (by norm_num), if_pos hpower, if_pos (by norm_num)] at hq
  rw [zpow_eq_quarters exponent]
  linarith [hq.1]

/-- Every number of the interval of a double rounds to the double. -/
theorem nearest_of_within {q : ℚ} (h : IsReduced mantissa exponent)
    (hq : Within mantissa exponent q) : nearest q = mantissa * 2 ^ exponent := by
  have habs := hq.abs_sub_lt h.pos
  have hle : |q - mantissa * 2 ^ exponent| ≤ 2 ^ exponent / 2 :=
    habs.elim le_of_lt fun habs => habs.1.le
  obtain ⟨hlo, hhi⟩ := abs_le.1 hle
  have hunit : (0 : ℚ) < 2 ^ exponent := zpow_pos (by norm_num) _
  have hpos : (1 : ℚ) ≤ mantissa := by exact_mod_cast h.pos
  have hlt : (mantissa : ℚ) + 1 ≤ 2 ^ 53 := by exact_mod_cast h.lt
  have hq0 : 0 < q := by nlinarith
  have hqhigh : q < 2 ^ 53 * 2 ^ exponent := by nlinarith
  by_cases hbelow : q < 2 ^ 52 * 2 ^ exponent ∧ exponent ≠ leastExponent
  · -- only the least mantissa reaches below its power of two, where the places are half as large
    obtain ⟨hqlow, hleast⟩ := hbelow
    have hm : mantissa = 2 ^ 52 := by
      have hfull := h.full.resolve_right hleast
      by_contra hne
      have hgt : (2 : ℚ) ^ 52 + 1 ≤ mantissa := by
        exact_mod_cast Nat.succ_le_of_lt (lt_of_le_of_ne hfull (Ne.symm hne))
      nlinarith
    have hquarter := hq.sub_quarter_le ⟨hm, hleast⟩
    have hhalf : (2 : ℚ) ^ (exponent - 1) = 2 * 2 ^ (exponent - 2) := by
      rw [show exponent - 1 = exponent - 2 + 1 by ring, zpow_add_one₀ (by norm_num)]
      ring
    have hu := quarter_pos exponent
    rw [zpow_eq_quarters] at hqlow hquarter ⊢
    rw [hm] at hquarter ⊢
    push_cast at hquarter ⊢
    have hplace : lastPlace q = exponent - 1 := by
      have hleast' := h.least_le
      refine lastPlace_eq (by omega) hq0 (.inl ?_) ?_ <;> rw [hhalf] <;> linarith
    have hnearest := nearest_eq (n := 2 ^ 53) hplace (by
      push_cast
      rw [hhalf, abs_sub_comm, abs_of_nonneg (by linarith)]
      refine (le_iff_lt_or_eq.1 ?_).imp_right fun heq => ⟨heq, by norm_num⟩
      linarith)
    rw [hnearest, hhalf]
    push_cast
    ring
  · have hplace := lastPlace_eq h.least_le hq0 (by
      by_contra hnot
      push Not at hnot
      exact hbelow hnot) hqhigh
    exact_mod_cast nearest_eq (n := mantissa) hplace (by exact_mod_cast habs)

/-! ## Comparing with a decimal -/

/-- The number of a decimal. -/
def value (d : Decimal) : ℚ := d.digits * 10 ^ d.scale

/-- A power of ten as a quotient of two natural numbers. -/
theorem zpow_ten (scale : ℤ) :
    (10 : ℚ) ^ scale = (10 ^ scale.toNat : ℕ) / (10 ^ (-scale).toNat : ℕ) := by
  rcases le_total 0 scale with h | h
  · obtain ⟨k, rfl⟩ := Int.eq_ofNat_of_zero_le h
    simp
  · obtain ⟨k, hk⟩ := Int.eq_ofNat_of_zero_le (neg_nonneg.2 h)
    obtain rfl : scale = -(k : ℤ) := by omega
    simp

theorem quotientLE_iff {a b n : ℕ} {scale : ℤ} (hb : 0 < b) :
    quotientLE a b n scale = true ↔ (a : ℚ) / b ≤ n * 10 ^ scale := by
  have hb' : (0 : ℚ) < b := by exact_mod_cast hb
  have hten : (0 : ℚ) < (10 ^ (-scale).toNat : ℕ) := by positivity
  rw [quotientLE, decide_eq_true_iff, zpow_ten, mul_div_assoc', div_le_div_iff₀ hb' hten]
  simp only [Nat.pow_eq]
  norm_cast

theorem leQuotient_iff {a b n : ℕ} {scale : ℤ} (hb : 0 < b) :
    leQuotient a b n scale = true ↔ (n : ℚ) * 10 ^ scale ≤ a / b := by
  have hb' : (0 : ℚ) < b := by exact_mod_cast hb
  have hten : (0 : ℚ) < (10 ^ (-scale).toNat : ℕ) := by positivity
  rw [leQuotient, decide_eq_true_iff, zpow_ten, mul_div_assoc', div_le_div_iff₀ hten hb']
  simp only [Nat.pow_eq]
  norm_cast

/-- The search looks for the decimals of the interval. -/
theorem holds_iff {n : ℕ} {scale : ℤ} :
    (Interval.around mantissa exponent).holds n scale = true ↔
      Within mantissa exponent (n * 10 ^ scale) := by
  have hunit := quotient_eq 1 (exponent - 2)
  have hpos := quotient_snd_pos 1 (exponent - 2)
  have hscaled : ∀ k : ℕ, ((k * (quotient 1 (exponent - 2)).1 : ℕ) : ℚ) /
      (quotient 1 (exponent - 2)).2 = k * 2 ^ (exponent - 2) := fun k => by
    rw [Nat.cast_mul, mul_div_assoc, hunit, Nat.cast_one, one_mul]
  have hclosed : (Interval.around mantissa exponent).closed = decide (mantissa % 2 = 0) := rfl
  have hunits : (Interval.around mantissa exponent).unit = quotient 1 (exponent - 2) := rfl
  unfold Within Interval.holds
  rw [hclosed, hunits]
  by_cases heven : mantissa % 2 = 0
  · simp only [heven, decide_true, if_true, Bool.and_eq_true, quotientLE_iff hpos,
      leQuotient_iff hpos, hscaled]
  · simp only [heven, decide_false, if_false, Bool.and_eq_true, Bool.not_eq_true',
      ← Bool.not_eq_true, quotientLE_iff hpos, leQuotient_iff hpos, hscaled, not_le,
      Bool.false_eq_true]

/-! ## The search -/

/-- What a grid offers is a decimal of the interval. -/
theorem holds_of_neighbour? {a b n : ℕ} {i : Interval} {scale : ℤ}
    (h : neighbour? a b i scale = some n) : i.holds n scale = true := by
  unfold neighbour? at h
  simp only at h
  split at h
  · next hbelow habove =>
    split_ifs at h <;> cases h
    · exact hbelow
    · exact habove
  · next hbelow _ =>
    cases h
    exact hbelow
  · next _ habove =>
    cases h
    exact habove
  · cases h

/-- A grid offers a decimal if one of the neighbours is in the interval. -/
theorem neighbour?_ne_none_of_holds {a b n : ℕ} {i : Interval} {scale : ℤ}
    (hn : a * Nat.pow 10 (-scale).toNat / (b * Nat.pow 10 scale.toNat) = n)
    (h : i.holds n scale = true ∨ i.holds (n + 1) scale = true) :
    neighbour? a b i scale ≠ none := by
  unfold neighbour?
  simp only [hn]
  split
  · split_ifs <;> simp
  · simp
  · simp
  · next hfalse hfalse' =>
    rw [hfalse, hfalse'] at h
    simp at h

/-- Where a grid is still to try that offers a decimal of the interval, the search ends in it. -/
theorem holds_search {a b : ℕ} {i : Interval} {leading : ℤ} (left digits : ℕ)
    (h : ∃ k < left, neighbour? a b i (leading - (digits + k : ℕ)) ≠ none) :
    i.holds (search a b i leading left digits).digits
      (search a b i leading left digits).scale = true := by
  induction left generalizing digits with
  | zero =>
    obtain ⟨k, hk, -⟩ := h
    exact absurd hk (Nat.not_lt_zero k)
  | succ left ih =>
    rw [search]
    split
    · next n hn => exact holds_of_neighbour? hn
    · next hnone =>
      obtain ⟨k, hk, hne⟩ := h
      cases k with
      | zero => exact absurd hnone hne
      | succ k =>
        refine ih _ ⟨k, Nat.lt_of_succ_lt_succ hk, ?_⟩
        rwa [Nat.add_right_comm, Nat.add_assoc]

/-- One of the two neighbours of a double on a grid is in its interval, if the grid is finer than
the interval is long. -/
theorem within_or_within {n : ℕ} {g : ℚ} (h : IsReduced mantissa exponent) (hg : g < 2 ^ exponent)
    (hpower : mantissa = 2 ^ 52 → g < 3 / 4 * 2 ^ exponent)
    (hbelow : n * g ≤ mantissa * 2 ^ exponent) (habove : mantissa * 2 ^ exponent < (n + 1) * g) :
    Within mantissa exponent (n * g) ∨ Within mantissa exponent ((n + 1) * g) := by
  have hu := quarter_pos exponent
  have hquarters := zpow_eq_quarters exponent
  obtain ⟨hlow, hhigh⟩ := @between_ends mantissa exponent h.pos
  have hlength : g < (Interval.around mantissa exponent).high * 2 ^ (exponent - 2) -
      (Interval.around mantissa exponent).low * 2 ^ (exponent - 2) := by
    rw [cast_low h.pos, cast_high]
    split_ifs with hp
    · have hfiner := hpower hp.1
      linarith
    · linarith
  unfold Within
  rcases lt_or_ge ((Interval.around mantissa exponent).low * 2 ^ (exponent - 2) : ℚ) (n * g) with
    hn | hn
  · left
    split_ifs
    · exact ⟨hn.le, hbelow.trans hhigh.le⟩
    · exact ⟨hn, hbelow.trans_lt hhigh⟩
  · have hn' : (n + 1) * g < (Interval.around mantissa exponent).high * 2 ^ (exponent - 2) := by
      linarith
    right
    split_ifs
    · exact ⟨(hlow.trans habove).le, hn'.le⟩
    · exact ⟨hlow.trans habove, hn'⟩

/-- A grid that is fine enough offers a decimal. -/
theorem neighbour?_ne_none {scale : ℤ} (h : IsReduced mantissa exponent)
    (hg : (10 : ℚ) ^ scale < 2 ^ exponent)
    (hpower : mantissa = 2 ^ 52 → (10 : ℚ) ^ scale < 3 / 4 * 2 ^ exponent) :
    neighbour? (quotient mantissa exponent).1 (quotient mantissa exponent).2
      (Interval.around mantissa exponent) scale ≠ none := by
  generalize hnum : (quotient mantissa exponent).1 * Nat.pow 10 (-scale).toNat = num
  generalize hden : (quotient mantissa exponent).2 * Nat.pow 10 scale.toNat = den
  have hden0 : 0 < den := by
    rw [← hden]
    exact Nat.mul_pos (quotient_snd_pos _ _) (Nat.pow_pos (by norm_num))
  have hpos : (0 : ℚ) < 10 ^ scale := by positivity
  -- the double in units of the grid
  have hunits : (num : ℚ) / den * 10 ^ scale = mantissa * 2 ^ exponent := by
    rw [← quotient_eq, ← hnum, ← hden, zpow_ten]
    have h₁ : (0 : ℚ) < (quotient mantissa exponent).2 := by
      exact_mod_cast quotient_snd_pos mantissa exponent
    simp only [Nat.pow_eq]
    push_cast
    field_simp
  have hden' : (0 : ℚ) < den := by exact_mod_cast hden0
  have hbelow : ((num / den : ℕ) : ℚ) * 10 ^ scale ≤ mantissa * 2 ^ exponent := by
    rw [← hunits]
    exact mul_le_mul_of_nonneg_right Nat.cast_div_le hpos.le
  have habove : (mantissa : ℚ) * 2 ^ exponent < ((num / den : ℕ) + 1) * 10 ^ scale := by
    rw [← hunits]
    refine mul_lt_mul_of_pos_right ((div_lt_iff₀' hden').2 ?_) hpos
    exact_mod_cast Nat.lt_mul_div_succ num hden0
  have hor := within_or_within h hg hpower hbelow habove
  rw [show (((num / den : ℕ) : ℚ) + 1) = ((num / den + 1 : ℕ) : ℚ) by push_cast; rfl] at hor
  rw [← holds_iff, ← holds_iff] at hor
  exact neighbour?_ne_none_of_holds (by rw [hnum, hden]) hor

/-! ## Seventeen digits -/

theorem lt_pow_width (n : ℕ) : n < 10 ^ width n :=
  (Nat.length_toDigits_le_iff (by norm_num) Nat.length_toDigits_pos).1 le_rfl

theorem pow_width_le {n : ℕ} (h : 0 < n) : 10 ^ (width n - 1) ≤ n := by
  have hpos : 0 < width n := Nat.length_toDigits_pos
  rcases Nat.eq_zero_or_pos (width n - 1) with h0 | h0
  · rw [h0]
    exact h
  · by_contra hlt
    have hle : width n ≤ width n - 1 :=
      (Nat.length_toDigits_le_iff (by norm_num) h0).2 (not_le.1 hlt)
    omega

/-- The leading place of a quotient is not above it. -/
theorem zpow_leadingExponent_le {a b : ℕ} (ha : 0 < a) (hb : 0 < b) :
    (10 : ℚ) ^ leadingExponent a b ≤ a / b := by
  have hwidth : 0 < width a := Nat.length_toDigits_pos
  unfold leadingExponent
  simp only
  split_ifs with h
  · simpa using (leQuotient_iff hb).1 h
  · have hlow : ((10 ^ (width a - 1) : ℕ) : ℚ) ≤ a := by exact_mod_cast pow_width_le ha
    have hhigh : (b : ℚ) ≤ (10 ^ width b : ℕ) := by exact_mod_cast (lt_pow_width b).le
    calc (10 : ℚ) ^ ((width a : ℤ) - width b - 1)
        = (10 ^ (width a - 1) : ℕ) / (10 ^ width b : ℕ) := by
          rw [show (width a : ℤ) - width b - 1 = (width a - 1 : ℕ) - (width b : ℕ) by omega,
            zpow_sub₀ (by norm_num), zpow_natCast, zpow_natCast]
          push_cast
          rfl
      _ ≤ a / b := div_le_div₀ (Nat.cast_nonneg a) hlow (by exact_mod_cast hb) hhigh

/-- Zeros at the end of the digits do not count. -/
@[simp]
theorem value_trim (d : Decimal) : d.trim.value = d.value := by
  fun_induction trim d with
  | case1 d h ih =>
    have hdigits : d.digits = d.digits / 10 * 10 := by omega
    rw [ih, value, value, zpow_add_one₀ (by norm_num), hdigits]
    simp only [Nat.mul_div_cancel _ (by norm_num : 0 < 10)]
    push_cast
    ring
  | case2 d h => rfl

/-- A grid on which a double has seventeen digits is fine enough. -/
theorem neighbour?_ne_none_of_digits {scale : ℤ} (h : IsReduced mantissa exponent)
    (hscale : (10 : ℚ) ^ scale * 10 ^ 16 ≤ mantissa * 2 ^ exponent) :
    neighbour? (quotient mantissa exponent).1 (quotient mantissa exponent).2
      (Interval.around mantissa exponent) scale ≠ none := by
  have hunit : (0 : ℚ) < 2 ^ exponent := zpow_pos (by norm_num) _
  refine neighbour?_ne_none h ?_ fun hm => ?_
  · have hlt : (mantissa : ℚ) < 2 ^ 53 := by exact_mod_cast h.lt
    have hprod : (mantissa : ℚ) * 2 ^ exponent < 10 ^ 16 * 2 ^ exponent :=
      mul_lt_mul_of_pos_right (by linarith) hunit
    linarith
  · have hm' : (mantissa : ℚ) = 4503599627370496 := by exact_mod_cast hm
    rw [hm'] at hscale
    linarith

/-- The shortest decimal of a double rounds to it. -/
theorem nearest_shortest (h : IsReduced mantissa exponent) :
    nearest (shortest mantissa exponent).value = mantissa * 2 ^ exponent := by
  have hnum : 0 < (quotient mantissa exponent).1 :=
    Nat.mul_pos h.pos (Nat.pow_pos (by norm_num))
  have hleading := zpow_leadingExponent_le hnum (quotient_snd_pos mantissa exponent)
  rw [quotient_eq] at hleading
  have hlast : (10 : ℚ) ^ (leadingExponent (quotient mantissa exponent).1
      (quotient mantissa exponent).2 - (0 + 16 : ℕ)) * 10 ^ 16 ≤ mantissa * 2 ^ exponent := by
    refine le_trans (le_of_eq ?_) hleading
    rw [zpow_sub₀ (by norm_num), zpow_natCast, div_mul_cancel₀ _ (by norm_num)]
  have hsearch := holds_search mostDigits 0
    ⟨16, by decide, neighbour?_ne_none_of_digits h hlast⟩
  rw [shortest, if_neg h.pos.ne']
  simp only
  rw [value_trim]
  exact nearest_of_within h (holds_iff.1 hsearch)

end BenchGate.Decimal
