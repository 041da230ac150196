import BenchGate.Comparison.Verdict

/-!
# Lines of a run's output, and the report

The lines printed for each benchmark and for the whole run, and the report that is posted as a
comment: the findings, the mean change and a footer, separated by blank lines. A run without
findings has no report.
-/

namespace BenchGate

/-- The line of one benchmark. -/
def Comparison.line (c : Comparison) : String :=
  "[" ++ numeral c.index ++ "] " ++ fixed 3 c.ratio ++ "x Baseline: " ++ fixed 3 c.baseline ++
    ", Latest: " ++ fixed 3 c.latest

/-- The line of the mean, least and greatest ratio. -/
def Summary.ratioLine (s : Summary) : String :=
  "Average: " ++ fixed 3 s.meanRatio ++ "x, Min: " ++ fixed 3 s.minRatio ++ "x, Max: " ++
    fixed 3 s.maxRatio ++ "x"

/-- The line of the total times. -/
def Summary.totalLine (s : Summary) : String :=
  "Total Baseline: " ++ fixed 3 s.totalBaseline ++ " s, Latest: " ++ fixed 3 s.totalLatest ++ " s"

namespace Report

/-- The line of the mean change. -/
def meanLine (s : Summary) : String :=
  numeral s.count ++ " benchmarks, " ++ meanChange s.meanRatio ++ " on average."

/-- The change from which on slowdowns are reported, in whole percent. -/
def reportedPercent (t : Thresholds) : Float := roundHalfUp ((t.slowdownRatio - 1) * 100)

/-- The closing line. -/
def footer (t : Thresholds) : String :=
  "Deviations greater than " ++ numeral (reportedPercent t) ++
    "% from the baseline are reported. See run output for more details."

/-- What separates the parts of a report. -/
def separator : String := "\n\n"

/-- The report of a run, if anything was found. -/
def build? (t : Thresholds) (messages : List String) (s : Summary) : Option String :=
  if messages.isEmpty then none
  else some (separator.intercalate (messages ++ [meanLine s, footer t]))

end Report

end BenchGate
