import BenchGate.Proofs.Result
import BenchGate.Run.Measurement

/-!
# From the times of two runs to their rows

`Measurement.ofRuns_eq` says how the comparison of two runs ends: with the failure of the first of
three checks, or with what the pairs of times give. `Samples.measure_eq_ok_iff` is the case of
success, from the four samples on; the statements about verdicts start from it.
-/

namespace BenchGate

/-- There is a row for each pair. -/
theorem Comparison.ofPairs_eq_nil_iff {pairs : List (Float × Float)} :
    ofPairs pairs = [] ↔ pairs = [] := by
  rw [ofPairs, List.map_eq_nil_iff, List.zipIdx_eq_nil_iff]

namespace Measurement

/-- What some pairs of times give. -/
def ofPairs (t : Thresholds) (pairs : List (Float × Float)) : Measurement :=
  ofSummary t (Comparison.ofPairs pairs) (Summary.ofRows (Comparison.ofPairs pairs))

variable {t : Thresholds} {allowLengthMismatch : Bool} {baseline latest : Timings}

/-- How the comparison of two runs ends. -/
theorem ofRuns_eq : ofRuns t allowLengthMismatch baseline latest =
    if baseline.length ≠ latest.length ∧ !allowLengthMismatch then
      .error (.runLengths baseline.length latest.length)
    else
      match (baseline.zip latest).zipIdx.find? fun pair => pair.1.1 ≤ 0 with
      | some ((time, _), index) => .error (.baselineNotPositive index time)
      | none =>
        if (baseline.zip latest).isEmpty then .error .noBenchmarks
        else .ok (ofPairs t (baseline.zip latest)) := by
  unfold ofRuns Comparison.ofRuns Summary.ofComparisons
  have hempty : (Comparison.ofPairs (baseline.zip latest)).isEmpty =
      (baseline.zip latest).isEmpty := by
    rw [Bool.eq_iff_iff, List.isEmpty_iff, List.isEmpty_iff, Comparison.ofPairs_eq_nil_iff]
  by_cases hlen : baseline.length ≠ latest.length ∧ !allowLengthMismatch
  · simp only [if_pos hlen]
    rfl
  · simp only [if_neg hlen]
    cases (baseline.zip latest).zipIdx.find? fun pair => decide (pair.1.1 ≤ 0) with
    | some pair => rfl
    | none =>
      change (if _ then _ else _ : Except _ _).bind _ = _
      rw [hempty]
      split_ifs <;> rfl

/-- The search for a baseline that is not above zero looks at all pairs. -/
theorem find?_eq_none_iff (pairs : List (Float × Float)) :
    (pairs.zipIdx.find? fun pair => decide (pair.1.1 ≤ 0)) = none ↔
      ∀ pair ∈ pairs, ¬pair.1 ≤ 0 := by
  rw [List.find?_eq_none]
  constructor
  · intro h pair hpair
    obtain ⟨index, hindex⟩ := List.mem_iff_getElem?.1 hpair
    simpa using h (pair, index) (List.mk_mem_zipIdx_iff_getElem?.2 hindex)
  · intro h pair hpair
    simpa using h pair.1 (List.fst_mem_of_mem_zipIdx hpair)

/-- When two runs have a measurement, and which. -/
theorem ofRuns_eq_ok_iff {m : Measurement} :
    ofRuns t allowLengthMismatch baseline latest = .ok m ↔
      (baseline.length = latest.length ∨ allowLengthMismatch = true) ∧
        (∀ pair ∈ baseline.zip latest, ¬pair.1 ≤ 0) ∧ baseline.zip latest ≠ [] ∧
          m = ofPairs t (baseline.zip latest) := by
  rw [ofRuns_eq, ← find?_eq_none_iff]
  by_cases hlen : baseline.length ≠ latest.length ∧ !allowLengthMismatch
  · rw [if_pos hlen]
    have hnot : ¬(baseline.length = latest.length ∨ allowLengthMismatch = true) := by
      simpa using hlen
    simp only [reduceCtorEq, hnot, false_and]
  · rw [if_neg hlen]
    have hlen' : baseline.length = latest.length ∨ allowLengthMismatch = true := by
      simpa [imp_iff_not_or] using hlen
    cases hfind : (baseline.zip latest).zipIdx.find? fun pair => decide (pair.1.1 ≤ 0) with
    | some pair => simp only [reduceCtorEq, false_and, and_false]
    | none =>
      simp only [hlen', true_and, List.isEmpty_iff]
      split_ifs with hempty
      · simp only [hempty, ne_eq, not_true_eq_false, false_and]
      · simp only [Except.ok.injEq, hempty, ne_eq, not_false_eq_true, true_and, eq_comm]

end Measurement

/-- The four samples of a comparison, two of each run. -/
structure Samples where
  baseline : Timings × Timings
  latest : Timings × Timings

namespace Samples

/-- The measurement of some samples: the faster times of each run, compared. -/
def measure (t : Thresholds) (allowLengthMismatch : Bool) (s : Samples) :
    Except ComparisonError Measurement := do
  let baseline ← Timings.fastest allowLengthMismatch s.baseline.1 s.baseline.2
  let latest ← Timings.fastest allowLengthMismatch s.latest.1 s.latest.2
  Measurement.ofRuns t allowLengthMismatch baseline latest

/-- The faster times of the baseline. -/
def fastestBaseline (s : Samples) : Timings := List.zipWith least s.baseline.1 s.baseline.2

/-- The faster times of the latest run. -/
def fastestLatest (s : Samples) : Timings := List.zipWith least s.latest.1 s.latest.2

/-- The pairs of times that are compared. -/
def pairs (s : Samples) : List (Float × Float) := s.fastestBaseline.zip s.fastestLatest

/-- The samples of each run are equally long, and so are the runs. -/
structure AgreeInLength (s : Samples) : Prop where
  baseline : s.baseline.1.length = s.baseline.2.length
  latest : s.latest.1.length = s.latest.2.length
  runs : s.fastestBaseline.length = s.fastestLatest.length

/-- When the faster times of two samples are taken, and which. -/
theorem fastest_eq_ok_iff {allowLengthMismatch : Bool} {first second times : Timings} :
    Timings.fastest allowLengthMismatch first second = .ok times ↔
      (first.length = second.length ∨ allowLengthMismatch = true) ∧
        times = List.zipWith least first second := by
  unfold Timings.fastest
  split_ifs with hlen
  · have hnot : ¬(first.length = second.length ∨ allowLengthMismatch = true) := by
      simpa using hlen
    simp only [hnot, false_and]
  · have hlen' : first.length = second.length ∨ allowLengthMismatch = true := by
      simpa [imp_iff_not_or] using hlen
    simp only [hlen', true_and, Except.ok.injEq, eq_comm]

/-- When samples have a measurement, and which. -/
theorem measure_eq_ok_iff {t : Thresholds} {allowLengthMismatch : Bool} {s : Samples}
    {m : Measurement} : s.measure t allowLengthMismatch = .ok m ↔
      (allowLengthMismatch = true ∨ s.AgreeInLength) ∧ (∀ pair ∈ s.pairs, ¬pair.1 ≤ 0) ∧
        s.pairs ≠ [] ∧ m = .ofPairs t s.pairs := by
  have hmeasure : s.measure t allowLengthMismatch = .ok m ↔
      ∃ baseline, Timings.fastest allowLengthMismatch s.baseline.1 s.baseline.2 = .ok baseline ∧
        ∃ latest, Timings.fastest allowLengthMismatch s.latest.1 s.latest.2 = .ok latest ∧
          Measurement.ofRuns t allowLengthMismatch baseline latest = .ok m := by
    unfold measure
    simp only [bind, Except.bind_eq_ok_iff]
  simp only [hmeasure, fastest_eq_ok_iff, Measurement.ofRuns_eq_ok_iff]
  constructor
  · rintro ⟨_, ⟨hbaseline, rfl⟩, _, ⟨hlatest, rfl⟩, hruns, hrest⟩
    refine ⟨?_, hrest⟩
    cases allowLengthMismatch with
    | true => exact .inl rfl
    | false =>
      simp only [Bool.false_eq_true, or_false] at hbaseline hlatest hruns
      exact .inr ⟨hbaseline, hlatest, hruns⟩
  · rintro ⟨hlen, hrest⟩
    exact ⟨_, ⟨hlen.symm.imp_left (·.baseline), rfl⟩, _, ⟨hlen.symm.imp_left (·.latest), rfl⟩,
      hlen.symm.imp_left (·.runs), hrest⟩

end Samples

/-- A run passes when nothing regressed and the mean stayed below its limit. -/
theorem Verdict.passed_iff {t : Thresholds} {summary : Summary} {count : Float} :
    (ofSummary t summary count).passed = true ↔ ¬0 < count ∧ ¬t.meanRatio ≤ summary.meanRatio := by
  unfold ofSummary
  split_ifs with hcount hmean hmean
  · exact ⟨(nomatch ·), fun h => absurd hcount h.1⟩
  · exact ⟨(nomatch ·), fun h => absurd hcount h.1⟩
  · exact ⟨(nomatch ·), fun h => absurd hmean h.2⟩
  · exact ⟨fun _ => ⟨hcount, hmean⟩, fun _ => rfl⟩

end BenchGate
