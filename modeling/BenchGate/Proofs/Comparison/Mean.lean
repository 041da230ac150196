import BenchGate.Proofs.Binary64.Accumulation
import BenchGate.Proofs.Binary64.Extremes
import BenchGate.Proofs.Comparison.Rows

/-!
# How close the mean is to the extremes

The least and the greatest ratio are ratios themselves (`Summary.isExtreme_ofRows`), but the mean is
the quotient of a sum that was rounded once for each row. It may lie outside of them, by a part that
grows with the number of rows (`margin`), and by no more (`Summary.ofComparisons_mean`). For one or
two rows there is no such part. When the sum overflows the mean is infinity.
`Measurement.mean_outside_ratios` gives runs whose mean is outside, and whose verdict is not the one
that their ratios suggest.
-/

namespace BenchGate

open Binary64

/-! ## Extremes -/

/-- A double is one of some doubles, and on one side of all of them. -/
structure IsExtreme (r : ℚ → ℚ → Prop) (x : Float) (xs : List Float) : Prop where
  mem : x ∈ xs
  rel : ∀ y ∈ xs, r x.value y.value

/-- An operation takes the one of two numbers that is on one side. -/
structure Selects (op : Float → Float → Float) (r : ℚ → ℚ → Prop) : Prop where
  eq_or : ∀ x y, op x y = x ∨ op x y = y
  rel_left : ∀ x y, x.isNaN = false → y.isNaN = false → r (op x y).value x.value
  rel_right : ∀ x y, x.isNaN = false → y.isNaN = false → r (op x y).value y.value

theorem selects_least : Selects least (· ≤ ·) where
  eq_or := Float.least_eq_or
  rel_left := fun x y hx hy => by
    rw [Float.value_least hx hy]
    exact min_le_left _ _
  rel_right := fun x y hx hy => by
    rw [Float.value_least hx hy]
    exact min_le_right _ _

theorem selects_greatest : Selects greatest (· ≥ ·) where
  eq_or := Float.greatest_eq_or
  rel_left := fun x y hx hy => by
    rw [Float.value_greatest hx hy]
    exact le_max_left _ _
  rel_right := fun x y hx hy => by
    rw [Float.value_greatest hx hy]
    exact le_max_right _ _

/-- What is selected from a list, one after the other, is its extreme. -/
theorem Selects.isExtreme_foldl {op : Float → Float → Float} {r : ℚ → ℚ → Prop} [IsPreorder ℚ r]
    (h : Selects op r) {xs : List Float} {start : Float} (hstart : start.isNaN = false)
    (hxs : ∀ x ∈ xs, x.isNaN = false) : IsExtreme r (xs.foldl op start) (start :: xs) := by
  induction xs generalizing start with
  | nil => exact ⟨List.mem_singleton_self _, List.forall_mem_singleton.2 (refl_of r _)⟩
  | cons x xs ih =>
    obtain ⟨hx, hxs⟩ := List.forall_mem_cons.1 hxs
    have hnum : (op start x).isNaN = false := by
      rcases h.eq_or start x with heq | heq <;> rw [heq] <;> assumption
    obtain ⟨hmem, hrel⟩ := ih hnum hxs
    obtain ⟨hfirst, hrest⟩ := List.forall_mem_cons.1 hrel
    constructor
    · rcases List.mem_cons.1 hmem with heq | hmem
      · rw [List.foldl_cons, heq]
        rcases h.eq_or start x with heq | heq <;> rw [heq] <;> simp
      · exact List.mem_cons_of_mem _ (List.mem_cons_of_mem _ hmem)
    · exact List.forall_mem_cons.2 ⟨trans_of r hfirst (h.rel_left _ _ hstart hx),
        List.forall_mem_cons.2 ⟨trans_of r hfirst (h.rel_right _ _ hstart hx), hrest⟩⟩

/-! ## Means -/

/-- The mean of some doubles, as a quotient of their sum. -/
def mean (xs : List Float) : Float := Float.addUp xs / ofCount xs.length

/-- How far rounding may take the mean of `n` numbers from them, as a part of them. -/
def margin (n : ℕ) : ℚ := (n - 2 : ℕ) / 2 ^ 52

theorem margin_nonneg (n : ℕ) : 0 ≤ margin n := by
  unfold margin
  positivity

theorem margin_of_le_two {n : ℕ} (h : n ≤ 2) : margin n = 0 := by
  rw [margin, Nat.sub_eq_zero_of_le h, Nat.cast_zero, zero_div]

/-- A sum is off by half the margin, and its quotient by the other half. -/
theorem upperSum_eq_margin (n : ℕ) :
    upperSum n = n * (1 + margin n / 2) ∧ lowerSum n = n * (1 - margin n / 2) := by
  rw [upperSum, lowerSum, margin, unitRoundOff]
  constructor <;> ring

/-- More numbers than are counted exactly have a margin of almost two. -/
theorem le_margin {n : ℕ} (h : largestCount < n) : (2 ^ 53 - 2) / 2 ^ 52 ≤ margin n := by
  have hn : 2 ^ 53 - 2 ≤ n - 2 := by
    unfold largestCount at h
    omega
  have hcast : ((2 ^ 53 - 2 : ℕ) : ℚ) ≤ (n - 2 : ℕ) := by exact_mod_cast hn
  rw [margin]
  exact div_le_div_of_nonneg_right (le_trans (by norm_num) hcast) (by norm_num)

section
variable {xs : List Float} {bound : ℚ} (hne : xs ≠ [])
include hne

/-- A mean is the rounded quotient of a sum that did not overflow. -/
theorem value_mean (hsum : (Float.addUp xs).isFinite = true) :
    (mean xs).value =
      Binary64.round ((Float.addUp xs).value / (min xs.length largestCount : ℕ)) := by
  have hcount := (Float.pos_iff.1 (Float.ofCount_pos.2 (List.length_pos_iff.2 hne))).2
  rw [mean, (Float.value_div hsum (Float.isFinite_ofCount _) hcount.ne').1,
    (Float.value_ofCount _).1]

/-- The mean of a sum that overflowed is infinity. -/
theorem mean_eq_infinity (h : ∀ x ∈ xs, 0 ≤ x) (hsum : (Float.addUp xs).isFinite = false) :
    mean xs = infinity := by
  rw [mean, Float.addUp_eq_infinity h hsum,
    Float.infinity_div (Float.ofCount_pos.2 (List.length_pos_iff.2 hne)) (Float.isFinite_ofCount _)]

theorem mean_nonneg (h : ∀ x ∈ xs, 0 ≤ x) : 0 ≤ mean xs :=
  Float.div_nonneg (Float.addUp_nonneg h) (Float.ofCount_pos.2 (List.length_pos_iff.2 hne))
    (Float.isFinite_ofCount _)

/-- The mean of a sum that did not overflow is finite. -/
theorem isFinite_mean (h : ∀ x ∈ xs, 0 ≤ x) (hsum : (Float.addUp xs).isFinite = true) :
    (mean xs).isFinite = true := by
  have hone : (1 : ℚ) ≤ (min xs.length largestCount : ℕ) := by
    exact_mod_cast le_min (List.length_pos_iff.2 hne) (by decide)
  have hmean := mean_nonneg hne h
  refine Float.isFinite_of_le hmean ?_ hsum
  refine Float.le_iff.2 ⟨(Float.nonneg_iff.1 hmean).1, Float.isNaN_of_isFinite hsum, ?_⟩
  rw [value_mean hne hsum]
  refine (round_mono ?_).trans_eq (Float.round_value hsum)
  exact div_le_self (Float.nonneg_iff.1 (Float.addUp_nonneg h)).2 hone

/-- A mean is finite when the sum did not overflow. -/
theorem isFinite_mean_iff (h : ∀ x ∈ xs, 0 ≤ x) :
    (mean xs).isFinite = true ↔ (Float.addUp xs).isFinite = true := by
  refine ⟨fun hmean => ?_, isFinite_mean hne h⟩
  by_contra hsum
  rw [mean_eq_infinity hne h (by simpa using hsum)] at hmean
  exact absurd hmean (by decide +kernel)

variable (hplaces : HasPlaces bound) (h0 : 0 ≤ bound)
include hplaces h0

/-- Before it is rounded, the quotient of a sum is above a bound of its numbers by half the margin
at most. -/
theorem div_length_le (h : ∀ x ∈ xs, 0 ≤ x ∧ x.value ≤ bound) :
    (Float.addUp xs).value / xs.length ≤ bound * (1 + margin xs.length / 2) := by
  have hlen : (0 : ℚ) < xs.length := by exact_mod_cast List.length_pos_iff.2 hne
  have hle := Float.addUp_le hplaces h0 h
  rw [(upperSum_eq_margin _).1] at hle
  rw [div_le_iff₀ hlen]
  linarith

/-- It is below such a bound by half the margin at most, if the sum did not overflow. -/
theorem le_div_length (h : ∀ x ∈ xs, bound ≤ x.value) (hxs : ∀ x ∈ xs, 0 ≤ x)
    (hsum : (Float.addUp xs).isFinite = true) :
    bound * (1 - margin xs.length / 2) ≤ (Float.addUp xs).value / xs.length := by
  have hlen : (0 : ℚ) < xs.length := by exact_mod_cast List.length_pos_iff.2 hne
  have hlt := (abs_lt.1 (Float.isFinite_iff.1 hsum).2).2
  have hle := (min_le_iff.1 (Float.le_addUp hplaces h0 h hxs)).resolve_left (not_le.2 hlt)
  rw [(upperSum_eq_margin _).2] at hle
  rw [le_div_iff₀ hlen]
  linarith

omit hne in
/-- The sum of any number of doubles, divided by the largest count, is little above twice a bound of
them: it does not grow beyond `2 ^ 54` times the bound. -/
theorem div_largestCount_le (h : ∀ x ∈ xs, 0 ≤ x ∧ x.value ≤ bound) :
    (Float.addUp xs).value / (largestCount : ℕ) ≤ 2 * bound * (1 + 1 / (2 ^ 53 - 1)) := by
  have hle := Float.addUp_le_two_pow hplaces h0 h
  have hcount : ((largestCount : ℕ) : ℚ) = 2 ^ 53 - 1 := by norm_num [largestCount]
  rw [hcount, div_le_iff₀ (by norm_num)]
  linarith

/-- A mean is above a bound of its numbers by a margin at most, if the sum did not overflow. -/
theorem mean_le (h : ∀ x ∈ xs, 0 ≤ x ∧ x.value ≤ bound)
    (hsum : (Float.addUp xs).isFinite = true) :
    (mean xs).value ≤ bound * (1 + margin xs.length) := by
  have hmargin := margin_nonneg xs.length
  have hsum0 := (Float.nonneg_iff.1 (Float.addUp_nonneg fun x hx => (h x hx).1)).2
  rw [value_mean hne hsum]
  rcases le_or_gt xs.length largestCount with hfew | hmany
  · rw [min_eq_left hfew]
    have hround := hplaces.round_le_mul h0 (div_nonneg hmargin zero_le_two)
      (div_nonneg hsum0 (Nat.cast_nonneg _)) (div_length_le hne hplaces h0 h)
    linarith
  · rw [min_eq_right hmany.le]
    have hround := hplaces.two_mul.round_le_mul (by linarith) (by norm_num)
      (div_nonneg hsum0 (Nat.cast_nonneg _)) (div_largestCount_le hplaces h0 h)
    calc Binary64.round ((Float.addUp xs).value / (largestCount : ℕ)) ≤
          bound * (2 * (1 + 2 * (1 / (2 ^ 53 - 1)))) := by linarith
      _ ≤ bound * (1 + (2 ^ 53 - 2) / 2 ^ 52) := mul_le_mul_of_nonneg_left (by norm_num) h0
      _ ≤ bound * (1 + margin xs.length) :=
          mul_le_mul_of_nonneg_left (by linarith [le_margin hmany]) h0

/-- A mean is below a bound of its numbers by a margin at most. -/
theorem le_mean (hb : bound < overflow) (h : ∀ x ∈ xs, bound ≤ x.value) (hxs : ∀ x ∈ xs, 0 ≤ x) :
    bound * (1 - margin xs.length) ≤ (mean xs).value := by
  have hmargin := margin_nonneg xs.length
  cases hsum : (Float.addUp xs).isFinite with
  | false =>
    have hsmaller : bound * (1 - margin xs.length) ≤ bound :=
      mul_le_of_le_one_right h0 (by linarith)
    rw [mean_eq_infinity hne hxs hsum, Float.value_infinity]
    linarith
  | true =>
    have hsum0 := (Float.nonneg_iff.1 (Float.addUp_nonneg hxs)).2
    rw [value_mean hne hsum]
    rcases le_or_gt xs.length largestCount with hfew | hmany
    · rw [min_eq_left hfew]
      have hround := hplaces.mul_le_round h0 hb.le (div_nonneg hmargin zero_le_two)
        (div_nonneg hsum0 (Nat.cast_nonneg _)) (le_div_length hne hplaces h0 h hxs hsum)
      linarith
    · -- such a margin takes away more than the bound
      have hwide := le_margin hmany
      refine (mul_nonpos_of_nonneg_of_nonpos h0 (by linarith)).trans ?_
      exact round_nonneg (div_nonneg hsum0 (Nat.cast_nonneg _))

end

namespace Summary

variable {rows : List Comparison}

/-- The ratios of some rows. -/
def ratios (rows : List Comparison) : List Float := rows.map (·.ratio)

/-- The least and the greatest ratio of a summary are those of its rows. -/
theorem isExtreme_ofRows (hne : rows ≠ []) (h : ∀ x ∈ ratios rows, x.isNaN = false) :
    IsExtreme (· ≤ ·) (ofRows rows).minRatio (ratios rows) ∧
      IsExtreme (· ≥ ·) (ofRows rows).maxRatio (ratios rows) := by
  obtain ⟨c, rest, rfl⟩ := List.exists_cons_of_ne_nil hne
  obtain ⟨hc, hrest⟩ := List.forall_mem_cons.1 h
  have hleast := selects_least.isExtreme_foldl hc hrest
  have hgreatest := selects_greatest.isExtreme_foldl hc hrest
  -- the infinities that the folds start with are neutral
  rw [List.foldl_map] at hleast hgreatest
  simp only [ofRows, List.foldl_cons, Float.least_infinity, Float.greatest_neg_infinity]
  exact ⟨hleast, hgreatest⟩

/-- The mean of a summary is that of its ratios. -/
theorem meanRatio_ofRows (rows : List Comparison) :
    (ofRows rows).meanRatio = mean (ratios rows) := by
  rw [mean, Float.addUp, ratios, List.foldl_map, List.length_map]
  rfl

/-- Some rows have a summary. -/
theorem ofComparisons_of_ne_nil (hne : rows ≠ []) : ofComparisons rows = .ok (ofRows rows) := by
  rw [ofComparisons, if_neg (by simpa using hne)]

theorem meanRatio_nonneg (hne : rows ≠ []) (h : ∀ c ∈ rows, 0 ≤ c.ratio) :
    0 ≤ (ofRows rows).meanRatio := by
  rw [meanRatio_ofRows]
  exact mean_nonneg (by simpa [ratios] using hne) (List.forall_mem_map.2 h)

/-- The mean lies between the extremes, up to a margin. It lies above them only where the sum of the
ratios overflows, and is infinity then. -/
structure MeanIsNear (rows : List Comparison) (s : Summary) : Prop where
  minRatio_le : s.minRatio.value * (1 - margin rows.length) ≤ s.meanRatio.value
  le_maxRatio : s.meanRatio.isFinite = true →
    s.meanRatio.value ≤ s.maxRatio.value * (1 + margin rows.length)
  overflows : s.meanRatio.isFinite = false → s.meanRatio = infinity ∧
    overflow ≤ rows.length * (s.maxRatio.value * (1 + margin rows.length))

section
variable (hne : rows ≠ []) (h : ∀ c ∈ rows, 0 ≤ c.ratio ∧ c.ratio.isFinite = true)
include hne h

/-- The mean of some rows is near their ratios: each extreme is one of them, so that it is a bound
of 53 places for all. -/
theorem meanIsNear_ofRows : MeanIsNear rows (ofRows rows) := by
  have hratios : ∀ x ∈ ratios rows, 0 ≤ x ∧ x.isFinite = true := by simpa [ratios] using h
  have hnonneg : ∀ x ∈ ratios rows, 0 ≤ x := fun x hx => (hratios x hx).1
  have hne' : ratios rows ≠ [] := by simpa [ratios] using hne
  have hlength : (ratios rows).length = rows.length := List.length_map _
  obtain ⟨hleast, hgreatest⟩ := isExtreme_ofRows hne fun x hx =>
    Float.isNaN_of_isFinite (hratios x hx).2
  obtain ⟨hleast0, hleastfin⟩ := hratios _ hleast.mem
  obtain ⟨hgreatest0, hgreatestfin⟩ := hratios _ hgreatest.mem
  have hgreatest0 := (Float.nonneg_iff.1 hgreatest0).2
  have hbound : ∀ x ∈ ratios rows, 0 ≤ x ∧ x.value ≤ (ofRows rows).maxRatio.value :=
    fun x hx => ⟨hnonneg x hx, hgreatest.rel x hx⟩
  have hfinite := isFinite_mean_iff hne' hnonneg
  rw [← meanRatio_ofRows] at hfinite
  constructor
  case minRatio_le =>
    rw [meanRatio_ofRows, ← hlength]
    exact le_mean hne' (Float.hasPlaces_value hleastfin) (Float.nonneg_iff.1 hleast0).2
      (abs_lt.1 (Float.isFinite_iff.1 hleastfin).2).2 hleast.rel hnonneg
  case le_maxRatio =>
    intro hmean
    rw [meanRatio_ofRows, ← hlength]
    exact mean_le hne' (Float.hasPlaces_value hgreatestfin) hgreatest0 hbound (hfinite.1 hmean)
  case overflows =>
    intro hmean
    rw [← Bool.not_eq_true, hfinite, Bool.not_eq_true] at hmean
    refine ⟨meanRatio_ofRows rows ▸ mean_eq_infinity hne' hnonneg hmean, ?_⟩
    have hsum := Float.addUp_le (Float.hasPlaces_value hgreatestfin) hgreatest0 hbound
    rw [Float.addUp_eq_infinity hnonneg hmean, Float.value_infinity, (upperSum_eq_margin _).1,
      hlength] at hsum
    have hpart : 0 ≤ (rows.length : ℚ) * ((ofRows rows).maxRatio.value * margin rows.length) :=
      mul_nonneg (Nat.cast_nonneg _) (mul_nonneg hgreatest0 (margin_nonneg _))
    linarith

/-- Each extreme is the ratio of a row. -/
theorem exists_extremes : (∃ c ∈ rows, c.ratio = (ofRows rows).minRatio) ∧
    ∃ c ∈ rows, c.ratio = (ofRows rows).maxRatio := by
  have hnum : ∀ x ∈ ratios rows, x.isNaN = false :=
    List.forall_mem_map.2 fun c hc => Float.isNaN_of_isFinite (h c hc).2
  obtain ⟨hleast, hgreatest⟩ := isExtreme_ofRows hne hnum
  exact ⟨List.mem_map.1 hleast.mem, List.mem_map.1 hgreatest.mem⟩

theorem isNaN_meanRatio : (ofRows rows).meanRatio.isNaN = false :=
  (Float.nonneg_iff.1 (meanRatio_nonneg hne fun c hc => (h c hc).1)).1

/-- The mean of one or two ratios lies between them, unless their sum overflows. -/
theorem meanRatio_between (hfew : rows.length ≤ 2) :
    (ofRows rows).minRatio ≤ (ofRows rows).meanRatio ∧ ((ofRows rows).meanRatio.isFinite = true →
      (ofRows rows).meanRatio ≤ (ofRows rows).maxRatio) := by
  obtain ⟨⟨first, hfirst, hmin⟩, last, hlast, hmax⟩ := exists_extremes hne h
  have hmean := isNaN_meanRatio hne h
  obtain ⟨hlow, hhigh, -⟩ := meanIsNear_ofRows hne h
  rw [margin_of_le_two hfew, sub_zero, mul_one] at hlow
  rw [margin_of_le_two hfew, add_zero, mul_one] at hhigh
  constructor
  · exact Float.le_iff.2 ⟨hmin ▸ Float.isNaN_of_isFinite (h first hfirst).2, hmean, hlow⟩
  · intro hfinite
    exact Float.le_iff.2 ⟨hmean, hmax ▸ Float.isNaN_of_isFinite (h last hlast).2, hhigh hfinite⟩

/-- The mean of equal ratios is near to them, unless their sum overflows. -/
theorem abs_meanRatio_sub_le {r : ℚ} (hr : ∀ c ∈ rows, c.ratio.value = r)
    (hfinite : (ofRows rows).meanRatio.isFinite = true) :
    |(ofRows rows).meanRatio.value - r| ≤ r * margin rows.length := by
  obtain ⟨⟨first, hfirst, hmin⟩, last, hlast, hmax⟩ := exists_extremes hne h
  obtain ⟨hlow, hhigh, -⟩ := meanIsNear_ofRows hne h
  have hhigh := hhigh hfinite
  rw [← hmin, hr first hfirst] at hlow
  rw [← hmax, hr last hlast] at hhigh
  rw [abs_le]
  constructor <;> linarith

/-- A limit that all ratios are above by the margin is reached by the mean. -/
theorem le_meanRatio {limit : Float} (hnum : limit.isNaN = false)
    (hlimit : ∀ c ∈ rows, limit.value ≤ c.ratio.value * (1 - margin rows.length)) :
    limit ≤ (ofRows rows).meanRatio := by
  obtain ⟨⟨first, hfirst, hmin⟩, -⟩ := exists_extremes hne h
  have hlow := hlimit first hfirst
  rw [hmin] at hlow
  exact Float.le_iff.2
    ⟨hnum, isNaN_meanRatio hne h, hlow.trans (meanIsNear_ofRows hne h).minRatio_le⟩

/-- A limit that all ratios are below by the margin is not, unless their sum overflows. -/
theorem not_le_meanRatio {limit : Float} (hfinite : (ofRows rows).meanRatio.isFinite = true)
    (hlimit : ∀ c ∈ rows, c.ratio.value * (1 + margin rows.length) < limit.value) :
    ¬limit ≤ (ofRows rows).meanRatio := by
  obtain ⟨-, last, hlast, hmax⟩ := exists_extremes hne h
  intro hreached
  have hhigh := hlimit last hlast
  rw [hmax] at hhigh
  exact (((meanIsNear_ofRows hne h).le_maxRatio hfinite).trans_lt hhigh).not_ge
    (Float.le_iff.1 hreached).2.2

end

end Summary

/-- The limit of the mean is objected to when the mean reaches it. -/
theorem Verdict.aggregate_mem_failures_iff {t : Thresholds} {summary : Summary} {count : Float} :
    .aggregate summary.meanRatio t.meanRatio ∈ (ofSummary t summary count).failures ↔
      t.meanRatio ≤ summary.meanRatio := by
  simp [ofSummary]

namespace Summary

variable {rows : List Comparison}

/-- The mean of some ratios, finite and from zero on, lies between the least and the greatest one up
to a margin, exactly so for one or two of them, and is near to what all of them are equal to. The
limit of the mean is objected to when all ratios are above it by the margin, and is not when all are
below it by the margin and the mean is finite. -/
theorem ofComparisons_mean (hne : rows ≠ [])
    (h : ∀ c ∈ rows, 0 ≤ c.ratio ∧ c.ratio.isFinite = true) :
    ∃ s, ofComparisons rows = .ok s ∧ MeanIsNear rows s ∧
      (rows.length ≤ 2 → s.minRatio ≤ s.meanRatio ∧
        (s.meanRatio.isFinite = true → s.meanRatio ≤ s.maxRatio)) ∧
      (∀ r, (∀ c ∈ rows, c.ratio.value = r) → s.meanRatio.isFinite = true →
        |s.meanRatio.value - r| ≤ r * margin rows.length) ∧
      ∀ (t : Thresholds) (count : Float),
        (t.meanRatio.isNaN = false →
          (∀ c ∈ rows, t.meanRatio.value ≤ c.ratio.value * (1 - margin rows.length)) →
          .aggregate s.meanRatio t.meanRatio ∈ (Verdict.ofSummary t s count).failures) ∧
        (s.meanRatio.isFinite = true →
          (∀ c ∈ rows, c.ratio.value * (1 + margin rows.length) < t.meanRatio.value) →
          .aggregate s.meanRatio t.meanRatio ∉ (Verdict.ofSummary t s count).failures) := by
  have hsummary : ofComparisons rows = .ok (ofRows rows) := by
    rw [ofComparisons, if_neg (by simpa using hne)]
  refine ⟨ofRows rows, hsummary, meanIsNear_ofRows hne h, meanRatio_between hne h,
    fun r => abs_meanRatio_sub_le hne h, ?_⟩
  intro t count
  rw [Verdict.aggregate_mem_failures_iff]
  exact ⟨le_meanRatio hne h, not_le_meanRatio hne h⟩

/-- Three benchmarks that took twice as long, of three rows whose margin is one part in `2 ^ 52`. -/
def doubled : List Comparison := [.ofTimes 0 10 20, .ofTimes 1 10 20, .ofTimes 2 10 20]

/-- A limit of one is reached by them. -/
theorem ofComparisons_mean_doubled :
    ∃ s, ofComparisons doubled = .ok s ∧ MeanIsNear doubled s ∧
      .aggregate s.meanRatio 1 ∈ (Verdict.ofSummary { meanRatio := 1 } s 0).failures := by
  have hratio : ∀ c ∈ doubled, c.ratio = 2 := by
    simp only [doubled, List.forall_mem_cons]
    exact ⟨Float.toBits_inj.1 (by decide +kernel), Float.toBits_inj.1 (by decide +kernel),
      Float.toBits_inj.1 (by decide +kernel), List.forall_mem_nil _⟩
  have hfinite : ∀ c ∈ doubled, 0 ≤ c.ratio ∧ c.ratio.isFinite = true := by
    intro c hc
    rw [hratio c hc]
    decide +kernel
  obtain ⟨s, hs, hnear, -, -, hlimit⟩ := @ofComparisons_mean doubled (by simp [doubled]) hfinite
  refine ⟨s, hs, hnear, (hlimit { meanRatio := 1 } 0).1 (by decide +kernel) fun c hc => ?_⟩
  rw [hratio c hc, Float.value_one.1, (Float.value_natLit 2 (by norm_num)).1]
  norm_num [doubled, margin]

end Summary

/-- The mean outside of the ratios, on either side. Of 21 benchmarks that took 53 seconds after 50
every ratio is at the limit of the mean, but the mean is below it and the run passes. Of ten that
took a little less than 1.06 seconds after one every ratio is below the limit, but the mean is not
and the run fails. Of two that took `1e308` seconds after one the sum of the ratios overflows. -/
theorem Measurement.mean_outside_ratios :
    (∃ m, ofRuns {} false (List.replicate 21 50) (List.replicate 21 53) = .ok m ∧
      (∀ c ∈ m.comparisons, c.ratio = ({} : Thresholds).meanRatio) ∧
      m.summary.meanRatio < m.summary.minRatio ∧ m.verdict.passed = true) ∧
    (∃ m, ofRuns {} false (List.replicate 10 1) (List.replicate 10 1.0599999999999998) = .ok m ∧
      (∀ c ∈ m.comparisons, c.ratio < ({} : Thresholds).meanRatio) ∧
      m.summary.maxRatio < m.summary.meanRatio ∧ m.verdict.passed = false) ∧
    ∃ m, ofRuns {} false [1, 1] [1e308, 1e308] = .ok m ∧
      (∀ c ∈ m.comparisons, c.ratio.isFinite = true) ∧ m.summary.meanRatio = infinity := by
  refine ⟨⟨_, rfl, ?_, ?_, ?_⟩, ⟨_, rfl, ?_, ?_, ?_⟩, ⟨_, rfl, ?_, ?_⟩⟩
  all_goals decide +kernel

end BenchGate
