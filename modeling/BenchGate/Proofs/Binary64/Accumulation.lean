import BenchGate.Proofs.Binary64.RoundOff

/-!
# Sums that are rounded again and again

Numbers from zero on are added one after another, and every sum is rounded. `upperSum` and
`lowerSum` say how large and how small the sum of `k` numbers may have become, in units of their
bounds. The first two sums are bounded by once and twice a number of 53 places, which rounding
cannot pass; every later one may move by a unit of what is there (`round_add_le`, `le_round_add`). A
sum that is `2 ^ 53` times as large as its terms may be does not grow any more
(`round_add_le_of_stagnant`). `Float.addUp_le`, `Float.addUp_le_two_pow` and `Float.le_addUp` say
what this means for the sum of a list.
-/

namespace BenchGate.Binary64

/-! ## Numbers of 53 places -/

/-- A number of 53 binary places; below the overflow it is a double. -/
def HasPlaces (d : ℚ) : Prop := ∃ n e : ℤ, d = n * 2 ^ e ∧ |n| < 2 ^ 53 ∧ leastExponent ≤ e

variable {d q ε : ℚ}

namespace HasPlaces

theorem nearest_eq (h : HasPlaces d) : nearest d = d := by
  obtain ⟨n, e, rfl, hn, he⟩ := h
  exact nearest_mul_zpow hn he

/-- The least double is the least of them above zero. -/
theorem leastPositive_le (h : HasPlaces d) (hd : 0 < d) : leastPositive ≤ d := by
  obtain ⟨n, e, rfl, -, he⟩ := h
  have hn : (1 : ℚ) ≤ n := by
    exact_mod_cast (Int.cast_pos (R := ℚ)).1 ((mul_pos_iff_of_pos_right (by positivity)).1 hd)
  calc leastPositive ≤ 2 ^ e := zpow_le_zpow_right₀ (by norm_num) he
    _ ≤ n * 2 ^ e := le_mul_of_one_le_left (by positivity) hn

/-- No number of 53 places is closer to a number than the one it rounds to. -/
theorem abs_nearest_sub_le (h : HasPlaces d) (q : ℚ) : |nearest q - q| ≤ |d - q| := by
  obtain ⟨n, e, rfl, hn, he⟩ := h
  exact Binary64.abs_nearest_sub_le q hn he

/-- Doubling needs no place more. -/
theorem two_mul (h : HasPlaces d) : HasPlaces (2 * d) := by
  obtain ⟨n, e, rfl, hn, he⟩ := h
  refine ⟨n, e + 1, ?_, hn, by omega⟩
  rw [zpow_add₀ (by norm_num : (2 : ℚ) ≠ 0), zpow_one]
  ring

/-- What is above a number of 53 places by a part of it rounds to what is above it by twice that
part. -/
theorem round_le_mul (h : HasPlaces d) (hd : 0 ≤ d) (hε : 0 ≤ ε) (h0 : 0 ≤ q)
    (hq : q ≤ d * (1 + ε)) : round q ≤ d * (1 + 2 * ε) := by
  have hpart : 0 ≤ d * ε := mul_nonneg hd hε
  rw [round_of_nonneg h0]
  refine (min_le_right _ _).trans ?_
  rcases le_total q d with hle | hle
  · calc nearest q ≤ nearest d := nearest_mono hle
      _ = d := h.nearest_eq
      _ ≤ d * (1 + 2 * ε) := by linarith
  · have hclosest := h.abs_nearest_sub_le q
    rw [abs_of_nonpos (sub_nonpos.2 hle)] at hclosest
    linarith [le_abs_self (nearest q - q)]

/-- What is below a double by a part of it rounds to what is below it by twice that part. -/
theorem mul_le_round (h : HasPlaces d) (hd : 0 ≤ d) (hd' : d ≤ overflow) (hε : 0 ≤ ε) (h0 : 0 ≤ q)
    (hq : d * (1 - ε) ≤ q) : d * (1 - 2 * ε) ≤ round q := by
  have hpart : 0 ≤ d * ε := mul_nonneg hd hε
  rw [round_of_nonneg h0]
  refine le_min (by linarith) ?_
  rcases le_total d q with hle | hle
  · calc d * (1 - 2 * ε) ≤ d := by linarith
      _ = nearest d := h.nearest_eq.symm
      _ ≤ nearest q := nearest_mono hle
  · have hclosest := h.abs_nearest_sub_le q
    rw [abs_of_nonneg (sub_nonneg.2 hle)] at hclosest
    linarith [neg_abs_le (nearest q - q)]

end HasPlaces

/-! ## One addition -/

/-- How large the sum of `k` numbers may have become, in units of their upper bound. -/
def upperSum (k : ℕ) : ℚ := k * (1 + (k - 2 : ℕ) * unitRoundOff)

/-- How small the sum of `k` numbers may have become, in units of their lower bound. -/
def lowerSum (k : ℕ) : ℚ := k * (1 - (k - 2 : ℕ) * unitRoundOff)

/-- The first sums are exact. -/
theorem upperSum_of_le_two {k : ℕ} (hk : k ≤ 2) : upperSum k = k ∧ lowerSum k = k := by
  rw [upperSum, lowerSum, Nat.sub_eq_zero_of_le hk]
  simp

/-- Adding one more number, and a unit of the sum. -/
theorem upperSum_step {k : ℕ} (hk : 2 ≤ k) (hk' : k ≤ 2 ^ 53) :
    (upperSum k + 1) * (1 + unitRoundOff) ≤ upperSum (k + 1) := by
  obtain ⟨j, rfl⟩ := Nat.exists_eq_add_of_le' hk
  have hunit := unitRoundOff_pos
  have hsmall : ((j : ℚ) + 2) * unitRoundOff ≤ 1 := by
    have hj : (j : ℚ) + 2 ≤ 2 ^ 53 := by exact_mod_cast hk'
    rw [unitRoundOff, mul_one_div, div_le_one (by positivity)]
    exact hj
  have hslack : 0 ≤ (j : ℚ) * unitRoundOff * (1 - (j + 2) * unitRoundOff) :=
    mul_nonneg (by positivity) (sub_nonneg.2 hsmall)
  rw [upperSum, upperSum, show j + 2 - 2 = j by omega, show j + 2 + 1 - 2 = j + 1 by omega]
  push_cast
  linarith

/-- Adding one more number, less a unit of the sum. -/
theorem lowerSum_step {k : ℕ} (hk : 2 ≤ k) :
    lowerSum (k + 1) ≤ (lowerSum k + 1) * (1 - unitRoundOff) := by
  obtain ⟨j, rfl⟩ := Nat.exists_eq_add_of_le' hk
  have hunit := unitRoundOff_pos
  have hslack : 0 ≤ (j : ℚ) * unitRoundOff * (1 + (j + 2) * unitRoundOff) := by positivity
  rw [lowerSum, lowerSum, show j + 2 - 2 = j by omega, show j + 2 + 1 - 2 = j + 1 by omega]
  push_cast
  linarith

section
variable {s x bound : ℚ} {k : ℕ} (hbound : HasPlaces bound)
  (hmultiple : ∃ i : ℤ, s + x = i * leastPositive)
include hbound

/-- Once or twice a number of 53 places is one. -/
theorem HasPlaces.natCast_mul (hk : k ≤ 1) : HasPlaces ((k + 1 : ℕ) * bound) := by
  interval_cases k
  · simpa using hbound
  · simpa using hbound.two_mul

include hmultiple

/-- A sum of at most `2 ^ 53` numbers keeps below its bound. -/
theorem round_add_le (hk : k ≤ 2 ^ 53) (hs0 : 0 ≤ s) (hx0 : 0 ≤ x)
    (hs : s ≤ upperSum k * bound) (hx : x ≤ bound) : round (s + x) ≤ upperSum (k + 1) * bound := by
  have hnonneg : 0 ≤ s + x := add_nonneg hs0 hx0
  have hb : 0 ≤ bound := hx0.trans hx
  rw [round_of_nonneg hnonneg]
  refine (min_le_right _ _).trans ?_
  rcases Nat.lt_or_ge k 2 with hfew | hmany
  · -- the bound of this sum has 53 places itself
    have hsum : s + x ≤ (k + 1 : ℕ) * bound := by
      rw [(upperSum_of_le_two hfew.le).1] at hs
      push_cast
      linarith
    rw [(upperSum_of_le_two (k := k + 1) hfew).1]
    exact (nearest_mono hsum).trans_eq (hbound.natCast_mul (by omega)).nearest_eq
  · obtain ⟨i, hi⟩ := hmultiple
    have herror := (le_abs_self _).trans (abs_nearest_sub_le_mul hi)
    rw [abs_of_nonneg hnonneg] at herror
    calc nearest (s + x) ≤ (s + x) * (1 + unitRoundOff) := by linarith
      _ ≤ ((upperSum k + 1) * bound) * (1 + unitRoundOff) :=
          mul_le_mul_of_nonneg_right (by linarith) (by linarith [unitRoundOff_pos])
      _ = ((upperSum k + 1) * (1 + unitRoundOff)) * bound := by ring
      _ ≤ upperSum (k + 1) * bound := mul_le_mul_of_nonneg_right (upperSum_step hmany hk) hb

/-- A sum of numbers keeps above its bound, or overflows. -/
theorem le_round_add (hb : 0 ≤ bound) (hs0 : 0 ≤ s) (hs : min overflow (lowerSum k * bound) ≤ s)
    (hx : bound ≤ x) : min overflow (lowerSum (k + 1) * bound) ≤ round (s + x) := by
  have hnonneg : 0 ≤ s + x := add_nonneg hs0 (hb.trans hx)
  rcases min_le_iff.1 hs with hover | hs
  · rw [round_eq_overflow (hover.trans (le_add_of_nonneg_right (hb.trans hx)))]
    exact min_le_left _ _
  rw [round_of_nonneg hnonneg]
  refine min_le_min_left _ ?_
  rcases Nat.lt_or_ge k 2 with hfew | hmany
  · have hsum : (k + 1 : ℕ) * bound ≤ s + x := by
      rw [(upperSum_of_le_two hfew.le).2] at hs
      push_cast
      linarith
    rw [(upperSum_of_le_two (k := k + 1) hfew).2]
    exact (hbound.natCast_mul (by omega)).nearest_eq.symm.trans_le (nearest_mono hsum)
  · obtain ⟨i, hi⟩ := hmultiple
    have herror := (neg_le_abs _).trans (abs_nearest_sub_le_mul hi)
    rw [abs_of_nonneg hnonneg] at herror
    have hunit : 0 ≤ 1 - unitRoundOff := by norm_num [unitRoundOff]
    calc lowerSum (k + 1) * bound ≤ ((lowerSum k + 1) * (1 - unitRoundOff)) * bound :=
          mul_le_mul_of_nonneg_right (lowerSum_step hmany) hb
      _ = ((lowerSum k + 1) * bound) * (1 - unitRoundOff) := by ring
      _ ≤ (s + x) * (1 - unitRoundOff) := mul_le_mul_of_nonneg_right (by linarith) hunit
      _ ≤ nearest (s + x) := by linarith

end

/-! ## Sums that do not grow -/

/-- A power of two does not grow by one that is `2 ^ 53` times as small: half of the last place is
a tie that goes back. -/
theorem nearest_stagnant {p : ℤ} (hp : leastExponent ≤ p) :
    nearest (2 ^ 53 * 2 ^ p + 2 ^ p) = 2 ^ 53 * 2 ^ p := by
  have hpos : (0 : ℚ) < 2 ^ p := zpow_pos (by norm_num) p
  have hpower : ∀ k : ℕ, (2 : ℚ) ^ (p + k) = 2 ^ k * 2 ^ p := by
    intro k
    rw [zpow_add₀ (by norm_num : (2 : ℚ) ≠ 0), zpow_natCast, mul_comm]
  have habs : |(2 : ℚ) ^ 53 * 2 ^ p + 2 ^ p| = (2 ^ 53 + 1) * 2 ^ p := by
    rw [abs_of_pos (by positivity)]
    ring
  have hplace : lastPlace ((2 : ℚ) ^ 53 * 2 ^ p + 2 ^ p) = p + 1 := by
    have hlow : (2 : ℚ) ^ (p + 53) ≤ |2 ^ 53 * 2 ^ p + 2 ^ p| := by
      rw [habs]
      exact (hpower 53).trans_le (mul_le_mul_of_nonneg_right (by norm_num) hpos.le)
    have hhigh : |2 ^ 53 * 2 ^ p + 2 ^ p| < (2 : ℚ) ^ (p + 53 + 1) := by
      rw [habs, add_assoc]
      exact (mul_lt_mul_of_pos_right (by norm_num) hpos).trans_eq (hpower 54).symm
    rw [lastPlace_eq_max hlow hhigh]
    omega
  have htwo : (2 : ℚ) ^ (p + 1) = 2 * 2 ^ p := by
    simpa using hpower 1
  have htie : (2 : ℚ) ^ 53 * 2 ^ p + 2 ^ p =
      (((2 ^ 52 : ℤ) : ℚ) + 1 / 2) * 2 ^ lastPlace ((2 : ℚ) ^ 53 * 2 ^ p + 2 ^ p) := by
    rw [hplace, htwo]
    push_cast
    ring
  rw [nearest_add_half htie, hplace, htwo]
  norm_num
  ring

/-- A sum that is `2 ^ 53` times as large as the numbers may be stays there. -/
theorem round_add_le_of_stagnant {s x : ℚ} {p : ℤ} (hp : leastExponent ≤ p) (h : 0 ≤ s + x)
    (hs : s ≤ 2 ^ 53 * 2 ^ p) (hx : x ≤ 2 ^ p) : round (s + x) ≤ 2 ^ 53 * 2 ^ p := by
  rw [round_of_nonneg h]
  exact (min_le_right _ _).trans ((nearest_mono (add_le_add hs hx)).trans_eq (nearest_stagnant hp))

/-- That is what more than `2 ^ 53` numbers may add up to. -/
theorem two_pow_le_upperSum {k : ℕ} (hk : 2 ^ 53 < k) : 2 ^ 54 ≤ upperSum k := by
  obtain ⟨j, rfl⟩ := Nat.exists_eq_add_of_lt hk
  have hunit := unitRoundOff_pos
  calc (2 : ℚ) ^ 54 ≤ (2 ^ 53 + 1) * (1 + (2 ^ 53 - 1) * unitRoundOff) := by
        norm_num [unitRoundOff]
    _ ≤ (2 ^ 53 + j + 1) * (1 + (2 ^ 53 - 1 + j) * unitRoundOff) := by
        gcongr <;> linarith [Nat.cast_nonneg (α := ℚ) j]
    _ = upperSum (2 ^ 53 + j + 1) := by
        rw [upperSum, show 2 ^ 53 + j + 1 - 2 = 2 ^ 53 - 1 + j by omega]
        push_cast
        norm_num

/-- The power of two after a number. -/
theorem exists_zpow_ge (h : leastPositive ≤ d) :
    ∃ p : ℤ, leastExponent ≤ p ∧ d ≤ 2 ^ p ∧ (2 : ℚ) ^ p ≤ 2 * d := by
  have hpos : 0 < d := leastPositive_pos.trans_le h
  have hlow := Int.zpow_log_le_self (b := 2) (by norm_num) hpos
  have hhigh := Int.lt_zpow_succ_log_self (b := 2) (by norm_num) d
  have hleast : leastExponent ≤ Int.log 2 d :=
    (Int.zpow_le_iff_le_log (by norm_num) hpos).1 (by rwa [Nat.cast_ofNat])
  rw [Nat.cast_ofNat] at hlow hhigh
  refine ⟨Int.log 2 d + 1, by omega, hhigh.le, ?_⟩
  rw [zpow_add₀ (by norm_num : (2 : ℚ) ≠ 0), zpow_one]
  linarith

end BenchGate.Binary64

namespace Float

open BenchGate BenchGate.Binary64

variable {x : Float} {xs : List Float} {bound : ℚ}

theorem hasPlaces_value (h : x.isFinite = true) : HasPlaces x.value :=
  exists_places h

/-- From zero on every double is a multiple of the least one, an infinity too. -/
theorem exists_multiple_of_nonneg (h : 0 ≤ x) : ∃ k : ℤ, x.value = k * leastPositive := by
  rcases isFinite_or_eq_infinity h with hfin | rfl
  · exact exists_multiple hfin
  · refine ⟨2 ^ (1024 - leastExponent).toNat, ?_⟩
    rw [value_infinity, leastPositive, zpow_eq_mul_zpow (by decide), overflow, ← zpow_natCast]
    rfl

/-- So is a sum of two of them. -/
theorem exists_multiple_add {y : Float} (hx : 0 ≤ x) (hy : 0 ≤ y) :
    ∃ k : ℤ, x.value + y.value = k * leastPositive := by
  obtain ⟨k, hk⟩ := exists_multiple_of_nonneg hx
  obtain ⟨k', hk'⟩ := exists_multiple_of_nonneg hy
  refine ⟨k + k', ?_⟩
  rw [hk, hk']
  push_cast
  ring

/-! ## The sum of a list -/

/-- Some doubles, added from the first to the last. -/
def addUp (xs : List Float) : Float := xs.foldl (· + ·) 0

/-- What every addition keeps holds of the sum. -/
theorem value_addUp_induction {P : ℕ → ℚ → Prop} (h : ∀ x ∈ xs, 0 ≤ x) (hzero : P 0 0)
    (hstep : ∀ k < xs.length, ∀ s x : Float, 0 ≤ s → x ∈ xs → P k s.value →
      P (k + 1) (Binary64.round (s.value + x.value))) :
    0 ≤ addUp xs ∧ P xs.length (addUp xs).value := by
  induction xs using List.reverseRecOn with
  | nil =>
    refine ⟨Float.le_refl (by decide +kernel), ?_⟩
    rwa [addUp, List.foldl_nil, value_zero]
  | append_singleton xs x ih =>
    obtain ⟨hxs, hx⟩ := List.forall_mem_append.1 h
    have hx := List.forall_mem_singleton.1 hx
    obtain ⟨hnonneg, hsum⟩ := ih hxs fun k hk s y hs hy =>
      hstep k (by rw [List.length_append]; omega) s y hs (List.mem_append_left _ hy)
    have happend : addUp (xs ++ [x]) = addUp xs + x := by
      rw [addUp, List.foldl_append, List.foldl_cons, List.foldl_nil, addUp]
    rw [happend, (value_add_of_nonneg hnonneg hx).1, List.length_append, List.length_singleton]
    exact ⟨Float.add_nonneg hnonneg hx, hstep _ (by simp) _ x hnonneg (by simp) hsum⟩

theorem addUp_nonneg (h : ∀ x ∈ xs, 0 ≤ x) : 0 ≤ addUp xs :=
  (value_addUp_induction (P := fun _ _ => True) h trivial fun _ _ _ _ _ _ _ => trivial).1

/-- A sum that is not finite is infinity. -/
theorem addUp_eq_infinity (h : ∀ x ∈ xs, 0 ≤ x) (hsum : (addUp xs).isFinite = false) :
    addUp xs = BenchGate.infinity := by
  refine (isFinite_or_eq_infinity (addUp_nonneg h)).resolve_left ?_
  rw [hsum]
  exact Bool.false_ne_true

section
variable (hplaces : HasPlaces bound) (h0 : 0 ≤ bound)
include hplaces h0

/-- A sum does not grow beyond `2 ^ 54` times the greatest of its terms. -/
theorem addUp_le_two_pow (h : ∀ x ∈ xs, 0 ≤ x ∧ x.value ≤ bound) :
    (addUp xs).value ≤ 2 ^ 54 * bound := by
  rcases h0.eq_or_lt with rfl | hpos
  · rw [mul_zero]
    refine (value_addUp_induction (P := fun _ s => s ≤ 0) (fun x hx => (h x hx).1) le_rfl ?_).2
    intro _ _ s x hs hx hsum
    rw [le_antisymm hsum (nonneg_iff.1 hs).2,
      le_antisymm (h x hx).2 (nonneg_iff.1 (h x hx).1).2, add_zero, round_zero]
  · obtain ⟨p, hp, hle, hle'⟩ := exists_zpow_ge (hplaces.leastPositive_le hpos)
    have hsum := (value_addUp_induction (P := fun _ s => s ≤ 2 ^ 53 * 2 ^ p)
      (fun x hx => (h x hx).1) (by positivity) fun _ _ s x hs hx hsum =>
        round_add_le_of_stagnant hp
          (add_nonneg (nonneg_iff.1 hs).2 (nonneg_iff.1 (h x hx).1).2) hsum
          ((h x hx).2.trans hle)).2
    linarith

/-- How large a sum may have become. -/
theorem addUp_le (h : ∀ x ∈ xs, 0 ≤ x ∧ x.value ≤ bound) :
    (addUp xs).value ≤ upperSum xs.length * bound := by
  rcases le_or_gt xs.length (2 ^ 53) with hfew | hmany
  · refine (value_addUp_induction (P := fun k s => s ≤ upperSum k * bound)
      (fun x hx => (h x hx).1) ?_ ?_).2
    · rw [(upperSum_of_le_two (by omega : 0 ≤ 2)).1, Nat.cast_zero, zero_mul]
    · intro k hk s x hs hx hsum
      exact round_add_le hplaces (exists_multiple_add hs (h x hx).1) (hk.le.trans hfew)
        (nonneg_iff.1 hs).2 (nonneg_iff.1 (h x hx).1).2 hsum (h x hx).2
  · exact (addUp_le_two_pow hplaces h0 h).trans
      (mul_le_mul_of_nonneg_right (two_pow_le_upperSum hmany) h0)

/-- How small a sum may have become, unless it overflowed. -/
theorem le_addUp (h : ∀ x ∈ xs, bound ≤ x.value) (hxs : ∀ x ∈ xs, 0 ≤ x) :
    min overflow (lowerSum xs.length * bound) ≤ (addUp xs).value := by
  refine (value_addUp_induction (P := fun k s => min overflow (lowerSum k * bound) ≤ s)
    hxs ?_ ?_).2
  · rw [(upperSum_of_le_two (by omega : 0 ≤ 2)).2, Nat.cast_zero, zero_mul]
    exact min_le_right _ _
  · intro k hk s x hs hx hsum
    exact le_round_add hplaces (exists_multiple_add hs (hxs x hx)) h0 (nonneg_iff.1 hs).2 hsum
      (h x hx)

end

end Float
