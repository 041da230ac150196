/-!
# Thresholds

The limits that decide which changes are reported and which fail a run.
-/

namespace BenchGate

/-- A benchmark regresses when its latest time exceeds `regressionRatio` times the baseline and
is more than `regressionAbsolute` seconds above it. Ratios above `slowdownRatio` and below
`speedupRatio` are reported. A mean ratio of `meanRatio` or more fails the run. -/
structure Thresholds where
  regressionRatio : Float := 1.2
  regressionAbsolute : Float := 5.0
  slowdownRatio : Float := 1.1
  speedupRatio : Float := 0.9
  meanRatio : Float := 1.06
deriving Inhabited

end BenchGate
