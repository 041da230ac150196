import BenchGate.Comparison.Error
import BenchGate.Timing.Text

/-!
# Comparing two runs

A run is measured twice; of each benchmark the faster time counts (`Timings.fastest`), which
leaves out slowdowns of the machine. `Comparison.ofRuns` pairs the times of two runs, and
`Summary.ofComparisons` adds them up. Samples and runs have to be equally long unless the caller
allows them to differ; then each step looks at the common part only.

Positions and counts are doubles like every other number of a report, so that a report that is
read back is made of the same numbers.
-/

namespace BenchGate

/-- The faster of two samples of one run, benchmark by benchmark. -/
def Timings.fastest (allowLengthMismatch : Bool) (first second : Timings) :
    Except ComparisonError Timings :=
  if first.length ≠ second.length ∧ !allowLengthMismatch then
    .error (.sampleLengths first.length second.length)
  else .ok (List.zipWith least first second)

/-- One benchmark in two runs. -/
structure Comparison where
  index : Float
  baseline : Float
  latest : Float
  ratio : Float
deriving Inhabited

namespace Comparison

/-- The benchmark at a position, with its times in the two runs. -/
def ofTimes (index : Nat) (baseline latest : Float) : Comparison where
  index := .ofNat index
  baseline := baseline
  latest := latest
  ratio := latest / baseline

/-- The benchmarks with some pairs of times, in order. -/
def ofPairs (pairs : List (Float × Float)) : List Comparison :=
  pairs.zipIdx.map fun ((baseline, latest), index) => ofTimes index baseline latest

/-- The benchmarks of two runs, in order. Every baseline has to be above zero. -/
def ofRuns (allowLengthMismatch : Bool) (baseline latest : Timings) :
    Except ComparisonError (List Comparison) :=
  if baseline.length ≠ latest.length ∧ !allowLengthMismatch then
    .error (.runLengths baseline.length latest.length)
  else
    let pairs := baseline.zip latest
    match pairs.zipIdx.find? fun pair => pair.1.1 ≤ 0 with
    | some ((time, _), index) => .error (.baselineNotPositive index time)
    | none => .ok (ofPairs pairs)

end Comparison

/-- Totals of the times and the mean, least and greatest ratio. -/
structure Summary where
  count : Float
  totalBaseline : Float
  totalLatest : Float
  meanRatio : Float
  minRatio : Float
  maxRatio : Float
deriving Inhabited

namespace Summary

/-- The total of a column, added from the first row to the last. -/
def total (column : Comparison → Float) (rows : List Comparison) : Float :=
  rows.foldl (fun sum row => sum + column row) 0

/-- The summary of some rows. Without a row it says nothing. -/
def ofRows (rows : List Comparison) : Summary where
  count := ofCount rows.length
  totalBaseline := total (·.baseline) rows
  totalLatest := total (·.latest) rows
  meanRatio := total (·.ratio) rows / ofCount rows.length
  minRatio := rows.foldl (fun m row => least m row.ratio) infinity
  maxRatio := rows.foldl (fun m row => greatest m row.ratio) (-infinity)

/-- The summary of at least one comparison. -/
def ofComparisons (rows : List Comparison) : Except ComparisonError Summary :=
  if rows.isEmpty then .error .noBenchmarks else .ok (ofRows rows)

end Summary

end BenchGate
