import BenchGate.Proofs.Comparison.Monotone

/-!
# When a verdict passes

For times that were read, the verdict on a measurement passes exactly when no pair of times is a
regression and the mean ratio lies below its limit (`Measurement.passed_iff`). The mean is a number
then, so that not reaching the limit is lying below it.
-/

namespace BenchGate

/-- A pair of times is a regression: slower by the factor and by the amount of time. -/
def Thresholds.Regresses (t : Thresholds) (pair : Float × Float) : Prop :=
  pair.1 * t.regressionRatio < pair.2 ∧ t.regressionAbsolute < pair.2 - pair.1

/-- The mean ratio of some pairs of times, the ratios being added from the first pair to the
last. -/
def meanRatioOf (pairs : List (Float × Float)) : Float :=
  pairs.foldl (fun sum pair => sum + pair.2 / pair.1) 0 / ofCount pairs.length

section
variable {t : Thresholds} {pairs : List (Float × Float)}

/-- A row is a regression if its times are. -/
theorem Thresholds.kind_eq_regression_iff {c : Comparison} :
    t.kind c = .regression ↔ t.Regresses (c.baseline, c.latest) := by
  unfold kind
  split_ifs with h <;> simp only [false_iff, true_iff]
  · exact h
  all_goals exact h

namespace Comparison

/-- The rows of pairs, without their positions. -/
theorem exists_ofPairs {P : Float × Float → Prop} :
    (∃ c ∈ ofPairs pairs, P (c.baseline, c.latest)) ↔ ∃ pair ∈ pairs, P pair := by
  constructor
  · rintro ⟨c, hc, hP⟩
    obtain ⟨⟨pair, index⟩, hpair, rfl⟩ := List.mem_map.1 hc
    exact ⟨pair, List.fst_mem_of_mem_zipIdx hpair, hP⟩
  · rintro ⟨pair, hpair, hP⟩
    obtain ⟨index, hindex⟩ := List.mem_iff_getElem?.1 hpair
    exact ⟨ofTimes index pair.1 pair.2, List.mem_map.2
      ⟨(pair, index), List.mk_mem_zipIdx_iff_getElem?.2 hindex, rfl⟩, hP⟩

/-- The ratios of the rows of pairs. -/
theorem map_ratio_ofPairs :
    (ofPairs pairs).map (·.ratio) = pairs.map fun pair => pair.2 / pair.1 := by
  conv_rhs => rw [← List.zipIdx_map_fst 0 pairs, List.map_map]
  rw [ofPairs, List.map_map]
  rfl

end Comparison

/-- The mean ratio of the rows is that of the pairs. -/
theorem meanRatio_ofPairs :
    (Summary.ofRows (Comparison.ofPairs pairs)).meanRatio = meanRatioOf pairs := by
  have hlength : (Comparison.ofPairs pairs).length = pairs.length := by simp [Comparison.ofPairs]
  have htotal : Summary.total (·.ratio) (Comparison.ofPairs pairs) =
      pairs.foldl (fun sum pair => sum + pair.2 / pair.1) 0 := by
    rw [Summary.total, ← List.foldl_map, Comparison.map_ratio_ofPairs, List.foldl_map]
  rw [meanRatioOf, Summary.ofRows, hlength, htotal]

/-- There are regressions among the findings if there are among the pairs. -/
theorem regressionCount_pos_iff :
    0 < (Findings.ofComparisons t (Comparison.ofPairs pairs)).regressionCount ↔
      ∃ pair ∈ pairs, t.Regresses pair := by
  simp only [Findings.ofComparisons, Float.ofCount_pos, List.countP_map, List.countP_pos_iff,
    Function.comp_apply, decide_eq_true_eq, ← Comparison.exists_ofPairs,
    ← Thresholds.kind_eq_regression_iff]
  rfl

/-- Of times whose baselines are above zero the mean ratio is a number. -/
theorem isNaN_meanRatioOf (htimes : ∀ pair ∈ pairs, Timings.IsDuration pair.1 ∧
    Timings.IsDuration pair.2) (hpos : ∀ pair ∈ pairs, 0 < pair.1) (hne : pairs ≠ []) :
    (meanRatioOf pairs).isNaN = false := by
  have hself : List.Forall₂ IsNoSlower pairs pairs := by
    refine List.forall₂_same.2 fun pair hpair => ?_
    obtain ⟨hbaseline, hlatest⟩ := htimes pair hpair
    exact ⟨hpos pair hpair, Float.le_refl (Float.isNaN_of_isFinite hbaseline.isFinite),
      hbaseline.isFinite, hlatest.nonneg,
      Float.le_refl (Float.isNaN_of_isFinite hlatest.isFinite), hlatest.isFinite⟩
  have hne' : Comparison.ofPairs pairs ≠ [] := mt Comparison.ofPairs_eq_nil_iff.1 hne
  have hle := meanRatio_le (forall₂_ofPairs hself) hne'
  rw [meanRatio_ofPairs] at hle
  exact (Float.le_iff.1 hle).1

/-- When the verdict on times passes. -/
theorem Measurement.passed_iff (ht : t.IsValid) (htimes : ∀ pair ∈ pairs,
    Timings.IsDuration pair.1 ∧ Timings.IsDuration pair.2) (hpos : ∀ pair ∈ pairs, 0 < pair.1)
    (hne : pairs ≠ []) : (ofPairs t pairs).verdict.passed = true ↔
      (∀ pair ∈ pairs, ¬t.Regresses pair) ∧ meanRatioOf pairs < t.meanRatio := by
  have hlimit : t.meanRatio.isNaN = false := (Float.pos_iff.1 ht.meanRatio).1
  simp only [ofPairs, ofSummary, Verdict.passed_iff, regressionCount_pos_iff, meanRatio_ofPairs,
    Float.not_le hlimit (isNaN_meanRatioOf htimes hpos hne)]
  simp only [not_exists, not_and]

end

end BenchGate
