import BenchGate.Decimal.Numeral

/-!
# Failures of comparing timings
-/

namespace BenchGate

/-- Why two runs cannot be compared. -/
inductive ComparisonError where
  | sampleLengths (first second : Nat)
  | runLengths (baseline latest : Nat)
  | baselineNotPositive (index : Nat) (value : Float)
  | noBenchmarks

/-- The text of a failure. -/
def ComparisonError.message : ComparisonError → String
  | sampleLengths first second =>
    "Timing samples differ in length: " ++ toString first ++ " vs " ++ toString second
  | runLengths baseline latest =>
    "Baseline has " ++ toString baseline ++ " benchmarks but latest has " ++ toString latest
  | baselineNotPositive index value =>
    "Baseline time for benchmark #" ++ toString index ++ " must be positive, got " ++ numeral value
  | noBenchmarks => "No benchmarks to compare: timing sequences are empty"

end BenchGate
