import Mathlib
import BenchGate.Binary64

/-!
# The nearest double of a rational number

Every operation on doubles is the exact operation followed by one rounding. `Binary64.round` is
that rounding as a function of rational numbers: to the nearest multiple of the last binary place,
a tie going to the even multiple, and to `± 2 ^ 1024`, which stands for an infinity, from the
overflow on. Later modules use four facts about it: it is monotone (`round_mono`), it is odd
(`round_neg`), it never leaves `± 2 ^ 1024` (`abs_round_le`), and it keeps every number that has a
double of its own (`round_eq_self`).
-/

namespace BenchGate.Binary64

/-! ## Whole numbers -/

/-- The whole number nearest to `q`; a tie goes to the even neighbour. -/
def nearestEven (q : ℚ) : ℤ :=
  if q - ⌊q⌋ < 1 / 2 then ⌊q⌋
  else if 1 / 2 < q - ⌊q⌋ then ⌊q⌋ + 1
  else ⌊q⌋ + ⌊q⌋ % 2

/-- A number rounds to its floor or to the whole number after it. -/
theorem nearestEven_bounds (q : ℚ) : ⌊q⌋ ≤ nearestEven q ∧ nearestEven q ≤ ⌊q⌋ + 1 := by
  have h0 := Int.emod_nonneg ⌊q⌋ (by norm_num : (2 : ℤ) ≠ 0)
  have h1 := Int.emod_lt_of_pos ⌊q⌋ (by norm_num : (0 : ℤ) < 2)
  unfold nearestEven
  split_ifs <;> omega

/-- A whole number rounds to itself. -/
@[simp] theorem nearestEven_intCast (n : ℤ) : nearestEven n = n := by
  simp [nearestEven]

@[simp] theorem nearestEven_zero : nearestEven 0 = 0 := by
  simpa using nearestEven_intCast 0

/-- Rounding to a whole number keeps the order. With one floor the fractions decide; with two, the
whole number between them separates the results. -/
theorem nearestEven_mono : Monotone nearestEven := by
  intro p q h
  have hfloor : ⌊p⌋ ≤ ⌊q⌋ := Int.floor_le_floor h
  rcases hfloor.eq_or_lt with heq | hlt
  · unfold nearestEven
    rw [heq]
    have h1 := Int.emod_lt_of_pos ⌊q⌋ (by norm_num : (0 : ℤ) < 2)
    have h0 := Int.emod_nonneg ⌊q⌋ (by norm_num : (2 : ℤ) ≠ 0)
    split_ifs <;> first | omega | linarith
  · have hp := (nearestEven_bounds p).2
    have hq := (nearestEven_bounds q).1
    omega

/-- The floor of the opposite of a number that is not whole. -/
theorem floor_neg_of_ne {q : ℚ} (h : (⌊q⌋ : ℚ) ≠ q) : ⌊-q⌋ = -⌊q⌋ - 1 := by
  have hlo : (⌊q⌋ : ℚ) < q := lt_of_le_of_ne (Int.floor_le q) h
  have hhi := Int.lt_floor_add_one q
  rw [Int.floor_eq_iff]
  push_cast
  constructor <;> linarith

/-- Rounding to a whole number does not look at the sign. -/
theorem nearestEven_neg (q : ℚ) : nearestEven (-q) = -nearestEven q := by
  by_cases h : (⌊q⌋ : ℚ) = q
  · rw [← h, ← Int.cast_neg, nearestEven_intCast, nearestEven_intCast]
  · have hm := Int.emod_two_eq_zero_or_one ⌊q⌋
    have hm' := Int.emod_two_eq_zero_or_one (-⌊q⌋ - 1)
    unfold nearestEven
    rw [floor_neg_of_ne h]
    push_cast
    split_ifs <;> first | omega | linarith

/-! ## Multiples of the last binary place -/

/-- The exponent of the last binary place of a number: 53 places from the leading one, but never
below that of the subnormal numbers. -/
def lastPlace (q : ℚ) : ℤ := max (Int.log 2 |q| - 52) leastExponent

/-- The multiple of the last binary place that is nearest to `q`. -/
def nearest (q : ℚ) : ℚ := nearestEven (q / 2 ^ lastPlace q) * 2 ^ lastPlace q

@[simp] theorem lastPlace_neg (q : ℚ) : lastPlace (-q) = lastPlace q := by
  simp [lastPlace]

/-- Rounding does not look at the sign. -/
theorem nearest_neg (q : ℚ) : nearest (-q) = -nearest q := by
  unfold nearest
  rw [lastPlace_neg, neg_div, nearestEven_neg]
  push_cast
  ring

@[simp] theorem nearest_zero : nearest 0 = 0 := by
  simp [nearest]

/-- A multiple of the last place that is not above a number is not above what it rounds to. -/
theorem le_nearest {q : ℚ} {n : ℤ} (h : n * 2 ^ lastPlace q ≤ q) :
    n * 2 ^ lastPlace q ≤ nearest q := by
  have hpos : (0 : ℚ) < 2 ^ lastPlace q := zpow_pos (by norm_num) _
  have hn : (n : ℚ) ≤ q / 2 ^ lastPlace q := (le_div_iff₀ hpos).2 h
  have := nearestEven_mono hn
  rw [nearestEven_intCast] at this
  exact mul_le_mul_of_nonneg_right (by exact_mod_cast this) hpos.le

/-- A multiple of the last place that is not below a number is not below what it rounds to. -/
theorem nearest_le {q : ℚ} {n : ℤ} (h : q ≤ n * 2 ^ lastPlace q) :
    nearest q ≤ n * 2 ^ lastPlace q := by
  have hneg : ((-n : ℤ) : ℚ) * 2 ^ lastPlace (-q) ≤ -q := by
    rw [lastPlace_neg]; push_cast; linarith
  have := le_nearest hneg
  rw [lastPlace_neg, nearest_neg] at this
  push_cast at this
  linarith

/-- A multiple of its last place rounds to itself. -/
theorem nearest_eq_self {q : ℚ} {n : ℤ} (h : q = n * 2 ^ lastPlace q) : nearest q = q :=
  le_antisymm ((nearest_le h.le).trans_eq h.symm) (h.trans_le (le_nearest h.ge))

/-- A power of two is a multiple of every smaller power of two. -/
theorem zpow_eq_mul_zpow {k g : ℤ} (h : g ≤ k) :
    ((2 ^ (k - g).toNat : ℤ) : ℚ) * 2 ^ g = 2 ^ k := by
  push_cast
  rw [← zpow_natCast, ← zpow_add₀ (by norm_num : (2 : ℚ) ≠ 0)]
  congr 1
  omega

/-- Rounding keeps the order of numbers that are not negative. Where the last places differ, the
power of two with which the larger number begins separates the results. -/
theorem nearest_le_nearest_of_nonneg {p q : ℚ} (hp : 0 ≤ p) (h : p ≤ q) :
    nearest p ≤ nearest q := by
  rcases hp.eq_or_lt with rfl | hp
  · rw [nearest_zero]
    simpa using le_nearest (n := 0) (by simpa using h)
  have hq : 0 < q := hp.trans_le h
  have hlog : Int.log 2 |p| ≤ Int.log 2 |q| :=
    Int.log_mono_right (abs_pos.2 hp.ne') (by rwa [abs_of_pos hp, abs_of_pos hq])
  rcases eq_or_ne (lastPlace p) (lastPlace q) with heq | hne
  · have hpos : (0 : ℚ) < 2 ^ lastPlace q := zpow_pos (by norm_num) _
    unfold nearest
    rw [heq]
    have := nearestEven_mono (div_le_div_of_nonneg_right h hpos.le)
    exact mul_le_mul_of_nonneg_right (by exact_mod_cast this) hpos.le
  · have hplace : lastPlace q = Int.log 2 |q| - 52 ∧ lastPlace p < lastPlace q ∧
        Int.log 2 |p| < Int.log 2 |q| := by
      unfold lastPlace at hne ⊢
      omega
    obtain ⟨hq', hlt, hloglt⟩ := hplace
    have hple : p ≤ 2 ^ Int.log 2 |q| := by
      have := Int.lt_zpow_succ_log_self (b := 2) (by norm_num) |p|
      rw [abs_of_pos hp] at this hloglt
      refine this.le.trans ?_
      exact_mod_cast zpow_le_zpow_right₀ (by norm_num : (1 : ℚ) ≤ 2) (by omega)
    have hleq : (2 : ℚ) ^ Int.log 2 |q| ≤ q := by
      have := Int.zpow_log_le_self (b := 2) (by norm_num) (abs_pos.2 hq.ne')
      rw [abs_of_pos hq] at this ⊢
      exact_mod_cast this
    calc nearest p ≤ 2 ^ Int.log 2 |q| := by
          rw [← zpow_eq_mul_zpow (by omega : lastPlace p ≤ Int.log 2 |q|)] at hple ⊢
          exact nearest_le hple
      _ ≤ nearest q := by
          rw [← zpow_eq_mul_zpow (by omega : lastPlace q ≤ Int.log 2 |q|)] at hleq ⊢
          exact le_nearest hleq

/-- What is not negative rounds to what is not negative. -/
theorem nearest_nonneg {q : ℚ} (h : 0 ≤ q) : 0 ≤ nearest q := by
  simpa using nearest_le_nearest_of_nonneg le_rfl h

/-- Rounding keeps the order. -/
theorem nearest_mono : Monotone nearest := by
  intro p q h
  rcases le_total 0 p with hp | hp
  · exact nearest_le_nearest_of_nonneg hp h
  · have hp' : nearest p ≤ 0 := by
      have := nearest_nonneg (neg_nonneg.2 hp)
      rw [nearest_neg] at this
      linarith
    rcases le_total 0 q with hq | hq
    · exact hp'.trans (nearest_nonneg hq)
    · have := nearest_le_nearest_of_nonneg (neg_nonneg.2 hq) (neg_le_neg h)
      rw [nearest_neg, nearest_neg] at this
      linarith

/-- A whole number below `2 ^ 53` in units of a place that doubles have rounds to itself. -/
theorem nearest_mul_zpow {n : ℤ} {e : ℤ} (hn : |n| < 2 ^ 53) (he : leastExponent ≤ e) :
    nearest (n * 2 ^ e) = n * 2 ^ e := by
  rcases eq_or_ne n 0 with rfl | hn0
  · simp
  have hplace : lastPlace ((n : ℚ) * 2 ^ e) ≤ e := by
    have habs : |(n : ℚ) * 2 ^ e| < (2 : ℕ) ^ (53 + e) := by
      rw [abs_mul, abs_of_pos (zpow_pos (by norm_num : (0 : ℚ) < 2) e)]
      push_cast
      rw [zpow_add₀ (by norm_num : (2 : ℚ) ≠ 0)]
      refine mul_lt_mul_of_pos_right ?_ (zpow_pos (by norm_num) e)
      exact_mod_cast hn
    have hpos : 0 < |(n : ℚ) * 2 ^ e| := by
      rw [abs_pos]
      exact mul_ne_zero (by exact_mod_cast hn0) (zpow_ne_zero e (by norm_num))
    have := (Int.lt_zpow_iff_log_lt (by norm_num) hpos).1 habs
    unfold lastPlace
    omega
  refine nearest_eq_self (n := n * 2 ^ (e - lastPlace ((n : ℚ) * 2 ^ e)).toNat) ?_
  rw [Int.cast_mul, mul_assoc, zpow_eq_mul_zpow hplace]

/-! ## Overflow -/

/-- The least power of two that no finite double has; it stands for an infinity. -/
def overflow : ℚ := 2 ^ (1024 : ℕ)

theorem overflow_pos : 0 < overflow := by
  norm_num [overflow]

/-- The value of the double that a number rounds to. -/
def round (q : ℚ) : ℚ := max (-overflow) (min overflow (nearest q))

/-- Below the overflow only the nearest multiple of the last place counts. -/
theorem round_eq_nearest {q : ℚ} (h : |nearest q| ≤ overflow) : round q = nearest q := by
  rw [abs_le] at h
  rw [round, min_eq_right h.2, max_eq_right h.1]

/-- From the overflow on it does not count. -/
theorem round_eq_overflow_of_le_nearest {q : ℚ} (h : overflow ≤ nearest q) :
    round q = overflow := by
  have := overflow_pos
  rw [round, min_eq_left h, max_eq_right (by linarith)]

/-- Rounding to a double does not look at the sign. -/
theorem round_neg (q : ℚ) : round (-q) = -round q := by
  have := overflow_pos
  unfold round
  rw [nearest_neg]
  rcases le_total overflow (nearest q) with h | h <;>
    rcases le_total (nearest q) (-overflow) with h' | h' <;>
    simp only [max_def, min_def] <;> split_ifs <;> linarith

/-- Rounding to a double keeps the order. -/
theorem round_mono : Monotone round :=
  fun _ _ h => max_le_max_left _ (min_le_min_left _ (nearest_mono h))

@[simp] theorem round_zero : round 0 = 0 := by
  simp [round, overflow_pos.le]

/-- What is not negative rounds to a double that is not negative. -/
theorem round_nonneg {q : ℚ} (h : 0 ≤ q) : 0 ≤ round q := by
  simpa using round_mono h

/-- No double is beyond an infinity. -/
theorem abs_round_le (q : ℚ) : |round q| ≤ overflow := by
  have := overflow_pos
  rw [abs_le, round]
  exact ⟨le_max_left _ _, max_le (by linarith) (min_le_left _ _)⟩

/-- A number of at most 53 binary digits in units of a place that doubles have, and in their
range, rounds to itself. -/
theorem round_eq_self {n : ℤ} {e : ℤ} (hn : |n| < 2 ^ 53) (he : leastExponent ≤ e)
    (hr : |(n : ℚ) * 2 ^ e| ≤ overflow) : round (n * 2 ^ e) = n * 2 ^ e := by
  have hself := nearest_mul_zpow hn he
  rw [← hself] at hr
  exact (round_eq_nearest hr).trans hself

/-- What is beyond the overflow is rounded to it. -/
theorem round_eq_overflow {q : ℚ} (h : overflow ≤ q) : round q = overflow := by
  have heq : ((1 : ℤ) : ℚ) * 2 ^ (1024 : ℤ) = overflow := by
    rw [Int.cast_one, one_mul, overflow, show (1024 : ℤ) = (1024 : ℕ) from rfl, zpow_natCast]
  have hself : round overflow = overflow := by
    rw [← heq]
    refine round_eq_self (by norm_num) (by decide) ?_
    rw [heq, abs_of_pos overflow_pos]
  exact le_antisymm ((le_abs_self _).trans (abs_round_le q)) (hself ▸ round_mono h)

end BenchGate.Binary64
