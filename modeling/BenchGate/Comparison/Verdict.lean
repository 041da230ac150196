import BenchGate.Comparison.Classification

/-!
# Verdicts

A run fails for two independent reasons: a benchmark regressed, or the mean ratio reached its
limit, as it does when every benchmark became slightly slower.
-/

namespace BenchGate

/-- Why a run fails. -/
inductive Objection where
  | regression (count : Float)
  | aggregate (meanRatio threshold : Float)
deriving Inhabited

/-- Whether a run passes, and if not, why. -/
structure Verdict where
  passed : Bool
  regressionCount : Float
  meanRatio : Float
  failures : List Objection
deriving Inhabited

/-- The verdict on a run. The limit of the mean is reached when the mean equals it. -/
def Verdict.ofSummary (t : Thresholds) (summary : Summary) (regressionCount : Float) : Verdict :=
  let failures :=
    (if regressionCount > 0 then [.regression regressionCount] else []) ++
      (if summary.meanRatio ≥ t.meanRatio then [.aggregate summary.meanRatio t.meanRatio] else [])
  { passed := failures.isEmpty, regressionCount, meanRatio := summary.meanRatio, failures }

/-- The mean change in words, as `4.2% slower` or `3.0% faster`. -/
def meanChange (meanRatio : Float) : String :=
  let percent := percentOfRatio meanRatio
  if percent > 0 then fixed 1 percent ++ "% slower" else fixed 1 (-percent) ++ "% faster"

/-- A reason in words. -/
def Objection.describe : Objection → String
  | regression count => numeral count ++ " benchmark(s) regressed beyond the blocking threshold"
  | aggregate meanRatio threshold =>
    "Mean relative duration " ++ fixed 3 meanRatio ++ "x reached the " ++ fixed 3 threshold ++
      "x limit (" ++ meanChange meanRatio ++ " on average)"

end BenchGate
