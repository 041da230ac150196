import BenchGate.Files.Error

/-!
# Failures of reading timings
-/

namespace BenchGate

/-- Why a timing file gives no timings. A word is named by its position, the first being `0`. -/
inductive TimingFault where
  | notFound
  | unreadable (cause : FileError)
  | invalid (word : String) (position : Nat)
  | negative (word : String) (position : Nat)
deriving DecidableEq, Repr

/-- The source of timings and what is wrong with it. -/
structure TimingError where
  source : String
  fault : TimingFault
deriving DecidableEq, Repr

/-- The text of a failure. -/
def TimingError.message (e : TimingError) : String :=
  match e.fault with
  | .notFound => "Timing file not found: " ++ e.source
  | .unreadable cause => "Failed to read " ++ e.source ++ ": " ++ cause.message e.source
  | .invalid word position =>
    "Invalid timing \"" ++ word ++ "\" at position " ++ toString position ++ " in " ++ e.source
  | .negative word position =>
    "Negative timing \"" ++ word ++ "\" at position " ++ toString position ++ " in " ++ e.source

end BenchGate
