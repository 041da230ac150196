import BenchGate.Comparison.Basic
import BenchGate.Decimal.Numeral
import BenchGate.Thresholds

/-!
# Kinds of change

A benchmark has regressed only when it is slower both by a factor and by an amount of time, so
that short benchmarks with a large relative jitter do not fail a run. Softer slowdowns and
speedups are reported and fail nothing. Every change that is not noise has a line in the report.
-/

namespace BenchGate

/-- The change of one benchmark, from better to worse. -/
inductive Kind where
  | speedup
  | withinNoise
  | slowdown
  | regression
deriving DecidableEq, Repr, Inhabited

/-- The word for a kind of change in a report file. -/
def Kind.word : Kind → String
  | speedup => "speedup"
  | withinNoise => "within_noise"
  | slowdown => "slowdown"
  | regression => "regression"

/-- A ratio as a change in percent. -/
def percentOfRatio (ratio : Float) : Float := 100 * (ratio - 1)

namespace Thresholds

/-- The kind of change of a benchmark. A regression is looked for first. -/
def kind (t : Thresholds) (c : Comparison) : Kind :=
  if c.latest > c.baseline * t.regressionRatio ∧
      c.latest - c.baseline > t.regressionAbsolute then .regression
  else if c.ratio > t.slowdownRatio then .slowdown
  else if c.ratio < t.speedupRatio then .speedup
  else .withinNoise

end Thresholds

/-- The line that reports a change; noise has none. -/
def Kind.line? (kind : Kind) (index percent : Float) : Option String :=
  let place := numeral index
  let change := fixed 1 percent
  match kind with
  | regression => some ("🚫 Benchmark #" ++ place ++ " is too slow: +" ++ change ++ "%")
  | slowdown =>
    some ("⚠️Potential non-blocking slowdown in benchmark #" ++ place ++ ": +" ++ change ++ "%")
  | speedup => some ("🔥 Potential speedup in benchmark #" ++ place ++ ": " ++ change ++ "%")
  | withinNoise => none

/-- What is said about one benchmark. -/
structure Classification where
  index : Float
  kind : Kind
  percent : Float
  message : Option String
deriving Inhabited

/-- The classification of a benchmark. -/
def Classification.ofComparison (t : Thresholds) (c : Comparison) : Classification :=
  let kind := t.kind c
  let percent := percentOfRatio c.ratio
  { index := c.index, kind, percent, message := kind.line? c.index percent }

/-- What is said about a run: every benchmark, the lines to report in the order of the
benchmarks, and how many benchmarks regressed. -/
structure Findings where
  classifications : List Classification
  messages : List String
  regressionCount : Float
deriving Inhabited

/-- The findings of a comparison. -/
def Findings.ofComparisons (t : Thresholds) (rows : List Comparison) : Findings :=
  let classifications := rows.map (Classification.ofComparison t)
  { classifications
    messages := classifications.filterMap (·.message)
    regressionCount := ofCount (classifications.countP (·.kind = .regression)) }

end BenchGate
