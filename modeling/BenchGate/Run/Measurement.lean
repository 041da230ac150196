import BenchGate.Report.Lines

/-!
# Measurements

Everything that follows from the times of two runs alone: the comparisons, their summary, the
findings, the report and the verdict. `Measurement.ofRuns` is a function of the times and the
thresholds; no delivery or file can change what it says.
-/

namespace BenchGate

/-- What two runs say. -/
structure Measurement where
  comparisons : List Comparison
  summary : Summary
  findings : Findings
  report : Option String
  verdict : Verdict
deriving Inhabited

namespace Measurement

/-- What comparisons and their summary say. -/
def ofSummary (t : Thresholds) (comparisons : List Comparison) (summary : Summary) : Measurement :=
  let findings := Findings.ofComparisons t comparisons
  { comparisons
    summary
    findings
    report := Report.build? t findings.messages summary
    verdict := Verdict.ofSummary t summary findings.regressionCount }

/-- The measurement of the times of two runs. -/
def ofRuns (t : Thresholds) (allowLengthMismatch : Bool) (baseline latest : Timings) :
    Except ComparisonError Measurement := do
  let comparisons ← Comparison.ofRuns allowLengthMismatch baseline latest
  let summary ← Summary.ofComparisons comparisons
  return ofSummary t comparisons summary

/-- What is printed about a measurement: a line for each benchmark and two for the run. -/
def lines (m : Measurement) : List String :=
  m.comparisons.map Comparison.line ++ [m.summary.ratioLine, m.summary.totalLine]

end Measurement

end BenchGate
