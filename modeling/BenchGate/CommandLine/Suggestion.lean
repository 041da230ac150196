import BenchGate.CommandLine.Command
import BenchGate.Text.Utf16

/-!
# Suggestions

A mistyped flag is answered with the known flags that are nearest to it. The distance of two
words is the least number of insertions, deletions, replacements and exchanges of neighbours that
lead from one to the other, no place being edited twice; `distance` fills its table row by row.
-/

namespace BenchGate.CommandLine

/-- A row of the table of distances for the letter `c` of the second word and the letter before
it. `left`, the cells of `row` and those of `older` are the neighbours in this row, the row before
and the one before that; `last` is the letter of the first word to the left. -/
def cells (c : UInt16) (before : Option UInt16) (left : Nat) (last : Option UInt16) :
    (word : List UInt16) → (row older : List Nat) → List Nat
  | x :: word, diagonal :: row, older =>
    let edited := min (min (left + 1) (row.headD 0 + 1)) (diagonal + if x = c then 0 else 1)
    let cell :=
      if before = some x ∧ last = some c then min edited (older.headD 0 + 1) else edited
    cell :: cells c before cell (some x) word row (if last.isSome then older.drop 1 else older)
  | _, _, _ => []

/-- The table after some letters of the second word: the last letter and the last two rows. -/
structure DistanceTable where
  before : Option UInt16 := none
  older : List Nat := []
  row : List Nat

/-- The table with one more letter. -/
def DistanceTable.push (word : List UInt16) (t : DistanceTable) (c : UInt16) : DistanceTable where
  before := some c
  older := t.row
  row :=
    let first := t.row.headD 0 + 1
    first :: cells c t.before first none word t.row t.older

/-- The distance of two words. -/
def distance (a b : List UInt16) : Nat :=
  (b.foldl (DistanceTable.push a) { row := List.range (a.length + 1) }).row.getLastD 0

/-- The greatest distance of a suggestion. -/
def greatestDistance : Nat := 3

/-- The distance of a candidate, if it is near enough: the words may not differ much in length,
and more than two fifths of the longer one have to agree. -/
def nearness? (word candidate : List UInt16) : Option Nat :=
  let longer := max word.length candidate.length
  let d :=
    if longer - min word.length candidate.length > greatestDistance then longer
    else distance word candidate
  if d ≤ greatestDistance ∧ 5 * (longer - d) > 2 * longer then some d else none

/-- The nearest candidates, in alphabetical order. -/
def nearest (word : String) (candidates : List String) : List String :=
  let near := candidates.filterMap fun candidate =>
    (nearness? (Utf16.units word) (Utf16.units candidate)).map (·, candidate)
  let best := (near.map Prod.fst).min?
  ((near.filter fun n => some n.1 = best).map Prod.snd).mergeSort fun a b => a ≤ b

/-- The names of all flags that the comparison may be called with. -/
def flagNames : List String :=
  (compareCommand.flags ++ [helpFlag] ++ mainCommand.flags).map (·.name)

/-- The suggestions for a flag that is not known; letters have none. -/
def suggestions (given : String) : List String :=
  match given.toList with
  | '-' :: '-' :: name => (nearest (.ofList name) flagNames).map ("--" ++ ·)
  | _ => []

/-- The suggestions in words. -/
def suggestionText : List String → String
  | [] => ""
  | [one] => "\n(Did you mean " ++ one ++ "?)"
  | several => "\n(Did you mean one of " ++ ", ".intercalate several ++ "?)"

end BenchGate.CommandLine
