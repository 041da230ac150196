import BenchGate.Decimal.Literal
import BenchGate.Files.Tree
import BenchGate.Text.Blank
import BenchGate.Timing.Error

/-!
# Timings in text

A timing file holds one duration in seconds for each benchmark, in the order of the benchmarks,
separated by blanks. Each is a decimal literal whose nearest double is finite and not below zero;
the first word that is not decides the failure.
-/

namespace BenchGate

/-- Durations in seconds, one for each benchmark. -/
abbrev Timings := List Float

namespace Timings

/-- The duration a word stands for, or what is wrong with it. -/
def ofWord (word : List Char) (position : Nat) : Except TimingFault Float :=
  match Literal.ofChars? word with
  | none => .error (.invalid (.ofList word) position)
  | some literal =>
    let value := literal.toFloat
    if !value.isFinite then .error (.invalid (.ofList word) position)
    else if value < 0 then .error (.negative (.ofList word) position)
    else .ok value

/-- The durations of a text. -/
def parse (source text : String) : Except TimingError Timings :=
  match (Text.words text.toList).zipIdx.mapM fun (word, position) => ofWord word position with
  | .ok values => .ok values
  | .error fault => .error { source, fault }

/-- The durations of the file at a path. -/
def read (tree : Tree) (path : String) : Except TimingError Timings :=
  match tree.read path with
  | .ok content => parse path (Utf8.decode content)
  | .error .missing => .error ⟨path, .notFound⟩
  | .error cause => .error ⟨path, .unreadable cause⟩

end Timings

end BenchGate
