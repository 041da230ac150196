import BenchGate.Proofs.Binary64.RoundOff
import BenchGate.Proofs.Comparison.Direction

/-!
# Which ratios are finite

A baseline above zero is not enough for a finite ratio: the quotient of a long time and a very short
one may lie beyond all doubles, and is infinity then. `Comparison.ofRuns_ratio` says for every row
of two runs which of both it is. Baselines of a second and more always give finite ratios;
`Comparison.ofRuns_infinite` is the row of one second after the shortest time there is.
-/

namespace Float

open BenchGate

/-- A finite double lies between the ends of the finite doubles. -/
theorem abs_value_lt_finiteEnd {x : Float} (h : x.isFinite = true) :
    |x.value| < Binary64.finiteEnd := by
  rw [← Binary64.abs_round_lt_overflow_iff, round_value h]
  exact (isFinite_iff.1 h).2

end Float

namespace BenchGate.Comparison

open Binary64 Timings

/-! ## One row -/

section
variable {c : Comparison} (h : c.IsSound)
include h

/-- A ratio is finite when the exact quotient is below the end of the finite doubles. -/
theorem IsSound.isFinite_ratio_iff :
    c.ratio.isFinite = true ↔ c.latest.value < finiteEnd * c.baseline.value := by
  have hpos := (Float.pos_iff.1 h.baseline_pos).2
  have hquot : 0 ≤ c.latest.value / c.baseline.value :=
    div_nonneg (Float.nonneg_iff.1 h.latest.nonneg).2 hpos.le
  obtain ⟨hvalue, hnum⟩ := Float.value_div h.latest.isFinite h.baseline.isFinite hpos.ne'
  rw [h.ratio, Float.isFinite_iff, hvalue, abs_round_lt_overflow_iff, abs_of_nonneg hquot,
    div_lt_iff₀ hpos]
  exact and_iff_right hnum

/-- A ratio that is not finite is infinity. -/
theorem IsSound.ratio_eq_infinity (hratio : c.ratio.isFinite = false) : c.ratio = infinity := by
  refine (Float.isFinite_or_eq_infinity h.ratio_nonneg).resolve_left ?_
  rw [hratio]
  exact Bool.false_ne_true

/-- A baseline of a second or more has a finite ratio. -/
theorem IsSound.isFinite_ratio_of_one_le (hone : 1 ≤ c.baseline) : c.ratio.isFinite = true := by
  rw [h.isFinite_ratio_iff]
  have hbaseline := (Float.le_iff.1 hone).2.2
  rw [Float.value_one.1] at hbaseline
  calc c.latest.value < finiteEnd :=
        (le_abs_self _).trans_lt (Float.abs_value_lt_finiteEnd h.latest.isFinite)
    _ ≤ finiteEnd * c.baseline.value := le_mul_of_one_le_right finiteEnd_pos.le hbaseline

end

/-! ## All rows of two runs -/

/-- Every ratio of two runs is the quotient of two times, and either finite or infinity: finite
exactly when the latest time is below the baseline times `2 ^ 1024 - 2 ^ 970`, so always when the
baseline is a second or more. -/
theorem ofRuns_ratio {allowLengthMismatch : Bool} {baseline latest : Timings}
    {rows : List Comparison} (hbaseline : ∀ time ∈ baseline, IsDuration time)
    (hlatest : ∀ time ∈ latest, IsDuration time)
    (hrows : ofRuns allowLengthMismatch baseline latest = .ok rows) :
    ∀ c ∈ rows,
      (c.ratio.isFinite = true ↔
        c.latest.value < (2 ^ (1024 : ℕ) - 2 ^ (970 : ℕ)) * c.baseline.value) ∧
      (c.ratio.isFinite = false → c.ratio = infinity) ∧
      (1 ≤ c.baseline → c.ratio.isFinite = true) := by
  intro c hc
  have hsound : c.IsSound :=
    IsMeasured.isSound ⟨allowLengthMismatch, baseline, latest, rows, hbaseline, hlatest, hrows, hc⟩
  exact ⟨hsound.isFinite_ratio_iff, hsound.ratio_eq_infinity, hsound.isFinite_ratio_of_one_le⟩

/-- The shortest time above zero. -/
def shortest : Float := .ofBits 1

/-- Of two benchmarks the first has a finite ratio and the second, whose baseline is the shortest
time there is, has not. -/
theorem ofRuns_ratio_both :
    (ofTimes 0 2 3).ratio.isFinite = true ∧ (ofTimes 1 shortest 1).ratio = infinity := by
  have htimes : ∀ time ∈ [2, shortest, 3, 1], IsDuration time := by decide +kernel
  have hall := @ofRuns_ratio false [2, shortest] [3, 1] [ofTimes 0 2 3, ofTimes 1 shortest 1]
    (fun time htime => htimes time (List.mem_append_left [3, 1] htime))
    (fun time htime => htimes time (List.mem_append_right [2, shortest] htime)) rfl
  obtain ⟨-, -, hfirst⟩ := hall (ofTimes 0 2 3) (by simp)
  obtain ⟨-, hsecond, -⟩ := hall (ofTimes 1 shortest 1) (by simp)
  exact ⟨hfirst (by decide +kernel), hsecond (by decide +kernel)⟩

/-- Both times can be read from files, the baseline is above zero, and the ratio is infinity. -/
theorem ofRuns_infinite :
    parse "old.txt" "5e-324" = .ok [shortest] ∧ parse "new.txt" "1" = .ok [1] ∧
      ∃ c : Comparison, ofRuns false [shortest] [1] = .ok [c] ∧ 0 < c.baseline ∧
        c.ratio.isFinite = false ∧ c.ratio = infinity := by
  refine ⟨by decide +kernel, by decide +kernel, ofTimes 0 shortest 1, rfl, by decide +kernel,
    by decide +kernel, Float.toBits_inj.1 (by decide +kernel)⟩

end BenchGate.Comparison
