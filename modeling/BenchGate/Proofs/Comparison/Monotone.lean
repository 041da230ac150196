import BenchGate.Proofs.Binary64.Arithmetic
import BenchGate.Proofs.Comparison.Rows
import BenchGate.Proofs.Config.Thresholds
import BenchGate.Proofs.Timing.Text

/-!
# A slower run has no better verdict

Two comparisons are measured with the same thresholds; in the first, every baseline is at least as
long and every latest time at most as long as in the second. Then the first is nowhere worse
(`Samples.measure_mono`): rounding keeps the order of sums, differences, products and quotients, so
every figure of the first is at or below that of the second. `Comparison.IsNoSlower` is what holds
of two rows at one position, and everything else follows from it along the rows.
-/

namespace BenchGate

/-- The place of a kind of change, from better to worse. -/
def Kind.rank : Kind → ℕ
  | speedup => 0
  | withinNoise => 1
  | slowdown => 2
  | regression => 3

/-! ## One benchmark -/

/-- A pair of times is that of a benchmark no slower than another: both are finite and not
negative, the baselines are above zero, and the first has the longer baseline and the shorter
latest time. -/
structure IsNoSlower (p q : Float × Float) : Prop where
  baseline_pos : 0 < q.1
  baseline_le : q.1 ≤ p.1
  baseline_finite : p.1.isFinite = true
  latest_nonneg : 0 ≤ p.2
  latest_le : p.2 ≤ q.2
  latest_finite : q.2.isFinite = true

namespace Comparison

/-- Two rows are those of pairs of times, the first no slower than the second. -/
structure IsNoSlower (c d : Comparison) : Prop where
  times : BenchGate.IsNoSlower (c.baseline, c.latest) (d.baseline, d.latest)
  ratio_left : c.ratio = c.latest / c.baseline
  ratio_right : d.ratio = d.latest / d.baseline

section
variable {t : Thresholds} {c d : Comparison} (h : c.IsNoSlower d)
include h

theorem IsNoSlower.ratio_nonneg : 0 ≤ c.ratio := by
  rw [h.ratio_left]
  exact Float.div_nonneg h.times.latest_nonneg
    (Float.lt_of_lt_of_le h.times.baseline_pos h.times.baseline_le) h.times.baseline_finite

/-- The ratio of the row that is no slower is no larger. -/
theorem IsNoSlower.ratio_le : c.ratio ≤ d.ratio := by
  rw [h.ratio_left, h.ratio_right]
  exact Float.div_le_div h.times.latest_nonneg h.times.latest_le h.times.baseline_pos
    h.times.baseline_le h.times.baseline_finite

/-- A row that is no slower than another regresses only if the other does. -/
theorem IsNoSlower.regression (hratio : 0 < t.regressionRatio)
    (hc : c.latest > c.baseline * t.regressionRatio ∧
      c.latest - c.baseline > t.regressionAbsolute) :
    d.latest > d.baseline * t.regressionRatio ∧
      d.latest - d.baseline > t.regressionAbsolute := by
  obtain ⟨hpos, hbaseline, hfin, hnonneg, hlatest, hfin'⟩ := h.times
  have hfinLatest := Float.isFinite_of_le hnonneg hlatest hfin'
  have hfinBaseline := Float.isFinite_of_le (Float.le_of_lt hpos) hbaseline hfin
  constructor
  · calc d.baseline * t.regressionRatio ≤ c.baseline * t.regressionRatio :=
          Float.mul_le_mul_right hpos hbaseline hfin hratio
      _ < c.latest := hc.1
      _ ≤ d.latest := hlatest
  · calc t.regressionAbsolute < c.latest - c.baseline := hc.2
      _ ≤ d.latest - d.baseline :=
          Float.sub_le_sub hfinLatest hfin' hfin hfinBaseline hlatest hbaseline

/-- The kind of a row that is no slower is no worse. -/
theorem IsNoSlower.kind_le (hratio : 0 < t.regressionRatio) :
    (t.kind c).rank ≤ (t.kind d).rank := by
  have hregression := h.regression hratio
  have hslowdown : c.ratio > t.slowdownRatio → d.ratio > t.slowdownRatio :=
    fun hc => Float.lt_of_lt_of_le hc h.ratio_le
  have hspeedup : d.ratio < t.speedupRatio → c.ratio < t.speedupRatio :=
    Float.lt_of_le_of_lt h.ratio_le
  -- a worse kind of the first row needs a test that holds of it and fails for the second
  unfold Thresholds.kind
  split_ifs <;> first
    | decide
    | exact absurd (hregression ‹_›) ‹_›
    | exact absurd (hslowdown ‹_›) ‹_›
    | exact absurd (hspeedup ‹_›) ‹_›

end

end Comparison

/-! ## All benchmarks -/

section
variable {t : Thresholds} {rows rows' : List Comparison}
  (h : List.Forall₂ Comparison.IsNoSlower rows rows')
include h

/-- Adding ratios keeps a sum from zero on, and no larger. -/
theorem foldl_ratio_le {sum sum' : Float} (hsum : 0 ≤ sum) (hle : sum ≤ sum') :
    0 ≤ rows.foldl (fun sum row => sum + row.ratio) sum ∧
      rows.foldl (fun sum row => sum + row.ratio) sum ≤
        rows'.foldl (fun sum row => sum + row.ratio) sum' := by
  induction h generalizing sum sum' with
  | nil => exact ⟨hsum, hle⟩
  | cons hrow _ ih =>
    exact ih (Float.add_nonneg hsum hrow.ratio_nonneg)
      (Float.add_le_add hsum hrow.ratio_nonneg hle hrow.ratio_le)

/-- The total of the ratios is a number from zero on, and no larger. -/
theorem total_ratio_le :
    0 ≤ Summary.total (·.ratio) rows ∧
      Summary.total (·.ratio) rows ≤ Summary.total (·.ratio) rows' := by
  have hzero : (0 : Float) ≤ 0 := by decide +kernel
  exact foldl_ratio_le h hzero hzero

/-- The mean ratio is no larger. -/
theorem meanRatio_le (hne : rows ≠ []) :
    (Summary.ofRows rows).meanRatio ≤ (Summary.ofRows rows').meanRatio := by
  obtain ⟨hnonneg, hle⟩ := total_ratio_le h
  have hpos : 0 < ofCount rows.length := Float.ofCount_pos.2 (List.length_pos_iff.2 hne)
  simp only [Summary.ofRows, ← h.length_eq]
  exact Float.div_le_div hnonneg hle hpos
    (Float.le_refl (Float.value_ofCount _).2) (Float.isFinite_ofCount _)

/-- The least ratio is no larger. -/
theorem minRatio_le : (Summary.ofRows rows).minRatio ≤ (Summary.ofRows rows').minRatio :=
  List.rel_foldl (P := fun m m' : Float => m ≤ m')
    (fun _ _ hm _ _ hcd => Float.least_le_least hm hcd.ratio_le) (by decide +kernel) h

/-- The largest ratio is no larger. -/
theorem maxRatio_le : (Summary.ofRows rows).maxRatio ≤ (Summary.ofRows rows').maxRatio :=
  List.rel_foldl (P := fun m m' : Float => m ≤ m')
    (fun _ _ hm _ _ hcd => Float.greatest_le_greatest hm hcd.ratio_le) (by decide +kernel) h

/-- The kinds are no worse. -/
theorem classifications_le (hratio : 0 < t.regressionRatio) :
    List.Forall₂ (fun x y => x.kind.rank ≤ y.kind.rank)
      (Findings.ofComparisons t rows).classifications
      (Findings.ofComparisons t rows').classifications := by
  simp only [Findings.ofComparisons, List.forall₂_map_left_iff, List.forall₂_map_right_iff]
  exact h.imp fun _ _ hcd => hcd.kind_le hratio

end

/-- Of classifications that are no worse no more are regressions. -/
theorem countP_regression_le {xs ys : List Classification}
    (h : List.Forall₂ (fun x y => x.kind.rank ≤ y.kind.rank) xs ys) :
    xs.countP (·.kind = .regression) ≤ ys.countP (·.kind = .regression) := by
  induction h with
  | nil => exact le_rfl
  | @cons x y xs ys hxy _ ih =>
    have hkind : x.kind = .regression → y.kind = .regression := by
      intro hx
      rw [hx] at hxy
      cases hy : y.kind <;> rw [hy] at hxy <;> first | rfl | exact absurd hxy (by decide)
    simp only [List.countP_cons, decide_eq_true_eq]
    split_ifs with hx hy
    · omega
    · exact absurd (hkind hx) hy
    · omega
    · omega

/-! ## Measurements -/

/-- The rows of two lists of pairs. -/
theorem forall₂_ofPairs {ps qs : List (Float × Float)} (h : List.Forall₂ IsNoSlower ps qs) :
    List.Forall₂ Comparison.IsNoSlower (Comparison.ofPairs ps) (Comparison.ofPairs qs) := by
  obtain ⟨hlen, hget⟩ := List.forall₂_iff_get.1 h
  refine List.forall₂_iff_get.2 ⟨by simpa [Comparison.ofPairs] using hlen, fun i hi hi' => ?_⟩
  have hp : i < ps.length := by simpa [Comparison.ofPairs] using hi
  have hq : i < qs.length := by simpa [Comparison.ofPairs] using hi'
  have hpair := hget i hp hq
  simp only [Comparison.ofPairs, List.get_eq_getElem, List.getElem_map, List.getElem_zipIdx]
  exact ⟨hpair, rfl, rfl⟩

/-- Every figure and the verdict of one measurement are no worse than those of another. -/
structure Measurement.IsNoWorse (m m' : Measurement) : Prop where
  ratios : List.Forall₂ (fun c d => c.ratio ≤ d.ratio) m.comparisons m'.comparisons
  kinds : List.Forall₂ (fun x y => x.kind.rank ≤ y.kind.rank) m.findings.classifications
    m'.findings.classifications
  regressionCount : m.findings.regressionCount ≤ m'.findings.regressionCount
  minRatio : m.summary.minRatio ≤ m'.summary.minRatio
  maxRatio : m.summary.maxRatio ≤ m'.summary.maxRatio
  meanRatio : m.summary.meanRatio ≤ m'.summary.meanRatio
  passed : m'.verdict.passed = true → m.verdict.passed = true

/-- Pairs that are no slower give a measurement that is no worse. -/
theorem Measurement.ofPairs_isNoWorse {t : Thresholds} (hratio : 0 < t.regressionRatio)
    {ps qs : List (Float × Float)} (h : List.Forall₂ IsNoSlower ps qs) (hne : ps ≠ []) :
    (ofPairs t ps).IsNoWorse (ofPairs t qs) := by
  have hrows := forall₂_ofPairs h
  have hne' : Comparison.ofPairs ps ≠ [] := mt Comparison.ofPairs_eq_nil_iff.1 hne
  have hkinds := classifications_le hrows hratio
  have hcount : (Findings.ofComparisons t (Comparison.ofPairs ps)).regressionCount ≤
      (Findings.ofComparisons t (Comparison.ofPairs qs)).regressionCount :=
    Float.ofCount_le_ofCount (countP_regression_le hkinds)
  have hmean := meanRatio_le hrows hne'
  refine ⟨hrows.imp fun _ _ hrow => hrow.ratio_le, hkinds, hcount, minRatio_le hrows,
    maxRatio_le hrows, hmean, ?_⟩
  simp only [ofPairs, ofSummary, Verdict.passed_iff]
  rintro ⟨hnone, hbelow⟩
  exact ⟨fun hpos => hnone (Float.lt_of_lt_of_le hpos hcount),
    fun hreached => hbelow (Float.le_trans hreached hmean)⟩

/-! ## Samples -/

/-- A sample is so many times, all of them finite and not negative. -/
structure IsSample (n : ℕ) (times : Timings) : Prop where
  length : times.length = n
  isDuration : ∀ time ∈ times, Timings.IsDuration time

section
variable {n : ℕ} {xs ys xs' ys' : Timings}

/-- The faster times of two samples are a sample. -/
theorem IsSample.fastest (h : IsSample n xs) (h' : IsSample n ys) :
    IsSample n (List.zipWith least xs ys) :=
  ⟨by rw [List.length_zipWith, h.length, h'.length, min_self],
    Timings.isDuration_of_fastest h.isDuration h'.isDuration⟩

/-- The faster times of samples in order are in order. -/
theorem forall₂_fastest (h : List.Forall₂ (· ≤ ·) xs ys) (h' : List.Forall₂ (· ≤ ·) xs' ys') :
    List.Forall₂ (· ≤ ·) (List.zipWith least xs xs') (List.zipWith least ys ys') := by
  induction h generalizing xs' ys' with
  | nil => exact .nil
  | cons hxy _ ih =>
    cases h' with
    | nil => exact .nil
    | cons hxy' hrest => exact .cons (Float.least_le_least hxy hxy') (ih hrest)

/-- Pairs are related when their parts are. -/
theorem forall₂_zip_zip {R S : Float → Float → Prop} (h : List.Forall₂ R xs ys)
    (h' : List.Forall₂ S xs' ys') :
    List.Forall₂ (fun p q => R p.1 q.1 ∧ S p.2 q.2) (xs.zip xs') (ys.zip ys') := by
  induction h generalizing xs' ys' with
  | nil => exact .nil
  | cons hxy _ ih =>
    cases h' with
    | nil => exact .nil
    | cons hxy' hrest => exact .cons ⟨hxy, hxy'⟩ (ih hrest)

end

namespace Samples

/-- All four samples are samples of so many times. -/
structure IsSound (n : ℕ) (s : Samples) : Prop where
  baseline : IsSample n s.baseline.1 ∧ IsSample n s.baseline.2
  latest : IsSample n s.latest.1 ∧ IsSample n s.latest.2

/-- Time by time, the baselines are at least as long and the latest times at most as long. -/
structure IsNoSlower (s r : Samples) : Prop where
  baseline : List.Forall₂ (· ≤ ·) r.baseline.1 s.baseline.1 ∧
    List.Forall₂ (· ≤ ·) r.baseline.2 s.baseline.2
  latest : List.Forall₂ (· ≤ ·) s.latest.1 r.latest.1 ∧
    List.Forall₂ (· ≤ ·) s.latest.2 r.latest.2

section
variable {t : Thresholds} {allowLengthMismatch : Bool} {n : ℕ} {s r : Samples} {m : Measurement}

/-- Sound samples agree in length. -/
theorem IsSound.agreeInLength (h : s.IsSound n) : s.AgreeInLength where
  baseline := h.baseline.1.length.trans h.baseline.2.length.symm
  latest := h.latest.1.length.trans h.latest.2.length.symm
  runs := (h.baseline.1.fastest h.baseline.2).length.trans
    (h.latest.1.fastest h.latest.2).length.symm

/-- The pairs of samples that are no slower, if the baselines of the other ones are above zero. -/
theorem forall₂_pairs (hs : s.IsSound n) (hr : r.IsSound n) (h : s.IsNoSlower r)
    (hpos : ∀ pair ∈ r.pairs, ¬pair.1 ≤ 0) :
    List.Forall₂ BenchGate.IsNoSlower s.pairs r.pairs := by
  have hsb := hs.baseline.1.fastest hs.baseline.2
  have hsl := hs.latest.1.fastest hs.latest.2
  have hrl := hr.latest.1.fastest hr.latest.2
  -- what is known of each time joins what is known of two times at one position
  have hbaseline := (List.forall₂_and_left _ _).2
    ⟨hsb.isDuration, (forall₂_fastest h.baseline.1 h.baseline.2).flip⟩
  have hlatest := (List.forall₂_and_left _ _).2
    ⟨hsl.isDuration, ((List.forall₂_and_left _ _).2
      ⟨hrl.isDuration, (forall₂_fastest h.latest.1 h.latest.2).flip⟩).flip⟩
  have hpairs := (List.forall₂_and_left _ _).2 ⟨hpos, (forall₂_zip_zip hbaseline hlatest).flip⟩
  refine hpairs.flip.imp fun p q hpq => ?_
  obtain ⟨hq, ⟨hbaseline, hle⟩, hlatest, hlatest', hle'⟩ := hpq
  have hnum : q.1.isNaN = false := (Float.le_iff.1 hle).1
  exact ⟨(Float.not_le hnum (by decide +kernel)).1 hq, hle, hbaseline.isFinite, hlatest.nonneg,
    hle', hlatest'.isFinite⟩

/-- Samples that are no slower than others have a measurement if those have, and it is no worse. -/
theorem measure_mono {document : Datum} {config : Config}
    (hconfig : Config.ofDatum document = .ok config) (hs : s.IsSound n) (hr : r.IsSound n)
    (h : s.IsNoSlower r) (hm : r.measure config.thresholds allowLengthMismatch = .ok m) :
    ∃ m', s.measure config.thresholds allowLengthMismatch = .ok m' ∧ m'.IsNoWorse m := by
  obtain ⟨-, hpos, hne, rfl⟩ := measure_eq_ok_iff.1 hm
  have hpairs := forall₂_pairs hs hr h hpos
  have hne' : s.pairs ≠ [] := by
    rintro hnil
    rw [hnil] at hpairs
    exact hne (List.forall₂_nil_left_iff.1 hpairs)
  have hpos' : ∀ pair ∈ s.pairs, ¬pair.1 ≤ 0 :=
    ((List.forall₂_and_left _ _).1 (hpairs.imp fun _ _ hpair =>
      ⟨Float.not_le_of_lt (Float.lt_of_lt_of_le hpair.baseline_pos hpair.baseline_le), hpair⟩)).1
  exact ⟨_, measure_eq_ok_iff.2 ⟨.inr hs.agreeInLength, hpos', hne', rfl⟩,
    Measurement.ofPairs_isNoWorse (Config.ofDatum_isValid hconfig).regressionRatio hpairs hne'⟩

end

/-- Samples of a run that became faster. -/
def faster : Samples where
  baseline := ([10, 2], [11, 1.5])
  latest := ([9, 1], [10, 1.5])

/-- Samples of a run that became slower. -/
def slower : Samples where
  baseline := ([8, 1], [9, 1])
  latest := ([20, 1.5], [16, 2])

/-- The faster samples are judged no worse than the slower ones. -/
theorem measure_mono_faster :
    ∃ m m', slower.measure {} false = .ok m ∧ faster.measure {} false = .ok m' ∧
      m'.IsNoWorse m := by
  have hsound : faster.IsSound 2 ∧ slower.IsSound 2 := by
    refine ⟨⟨⟨?_, ?_⟩, ⟨?_, ?_⟩⟩, ⟨⟨?_, ?_⟩, ⟨?_, ?_⟩⟩⟩ <;>
      exact ⟨rfl, by decide +kernel⟩
  have hle : faster.IsNoSlower slower := by
    refine ⟨⟨?_, ?_⟩, ⟨?_, ?_⟩⟩ <;>
      exact .cons (by decide +kernel) (.cons (by decide +kernel) .nil)
  have hm : slower.measure {} false = .ok (.ofPairs {} slower.pairs) :=
    measure_eq_ok_iff.2 ⟨.inr hsound.2.agreeInLength, by decide +kernel,
      by simp [pairs, fastestBaseline, fastestLatest, slower], rfl⟩
  have hdefault : Config.ofDatum .null = .ok {} := rfl
  obtain ⟨m', hm', hworse⟩ := measure_mono hdefault hsound.1 hsound.2 hle hm
  exact ⟨_, m', hm, hm', hworse⟩

end Samples

end BenchGate
