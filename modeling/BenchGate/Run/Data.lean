import BenchGate.Run.Measurement

/-!
# Data of a run

Each run is measured in two files. The data phase reads them in order and stops at the first
check that fails; it prints the files it tried and changes nothing.
-/

namespace BenchGate

/-- What is compared, and how. -/
structure Plan where
  baseline : String × String
  latest : String × String
  thresholds : Thresholds := {}
  allowLengthMismatch : Bool := false
deriving Inhabited

/-- Why there is no measurement. -/
inductive DataError where
  | timing (cause : TimingError)
  | comparison (cause : ComparisonError)

namespace DataError

/-- What kind of failure this is. -/
def name : DataError → String
  | timing _ => "TimingInputError"
  | comparison (.sampleLengths ..) | comparison (.runLengths ..) => "SampleMismatchError"
  | comparison (.baselineNotPositive ..) => "InvalidBaselineError"
  | comparison .noBenchmarks => "EmptyInputError"

/-- The text of a failure. -/
def message : DataError → String
  | timing cause => cause.message
  | comparison cause => cause.message

end DataError

namespace Plan

/-- The times of one run, and the files tried. -/
def readRun (p : Plan) (tree : Tree) (files : String × String) :
    List String × Except DataError Timings :=
  match Timings.read tree files.1 with
  | .error e => ([files.1], .error (.timing e))
  | .ok first =>
    ([files.1, files.2],
      match Timings.read tree files.2 with
      | .error e => .error (.timing e)
      | .ok second => (Timings.fastest p.allowLengthMismatch first second).mapError .comparison)

/-- The measurement of a plan, and the files tried. -/
def measure (p : Plan) (tree : Tree) : List String × Except DataError Measurement :=
  match p.readRun tree p.baseline with
  | (files, .error e) => (files, .error e)
  | (files, .ok baseline) =>
    match p.readRun tree p.latest with
    | (more, .error e) => (files ++ more, .error e)
    | (more, .ok latest) =>
      (files ++ more,
        (Measurement.ofRuns p.thresholds p.allowLengthMismatch baseline latest).mapError
          .comparison)

end Plan

end BenchGate
