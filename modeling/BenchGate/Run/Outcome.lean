import BenchGate.Json.Writer
import BenchGate.Run.Measurement

/-!
# Outcomes and their files

The outcome of a run is its measurement and whether a comment was posted. `Outcome.document` is
the text of the file that later steps read: one indented document, in which numbers that are not
finite are null. The inner records keep the order of their declaration unless the caller asks for
the order of their names.
-/

namespace BenchGate

/-- What a run found and did. -/
structure Outcome extends Measurement where
  commented : Bool
deriving Inhabited

/-- In which order the members of the inner records of a file stand. -/
inductive MemberOrder where
  | declared
  | byName
deriving DecidableEq, Repr

/-- A record with its members in an order. -/
def MemberOrder.arrange (order : MemberOrder) (members : List (String × Json.Document)) :
    Json.Document :=
  match order with
  | declared => .record members
  | byName => .record (members.mergeSort fun a b => a.1 ≤ b.1)

/-- The members of a comparison in a file. -/
def Comparison.members (c : Comparison) : List (String × Json.Document) :=
  [("index", .number c.index), ("baseline", .number c.baseline), ("latest", .number c.latest),
    ("ratio", .number c.ratio)]

/-- The members of a summary in a file. -/
def Summary.members (s : Summary) : List (String × Json.Document) :=
  [("count", .number s.count), ("totalBaseline", .number s.totalBaseline),
    ("totalLatest", .number s.totalLatest), ("meanRatio", .number s.meanRatio),
    ("minRatio", .number s.minRatio), ("maxRatio", .number s.maxRatio)]

/-- A text, or null. -/
def Json.ofText? : Option String → Document
  | some value => ofText value
  | none => .null

/-- The members of a classification in a file. -/
def Classification.members (c : Classification) : List (String × Json.Document) :=
  [("index", .number c.index), ("kind", Json.ofText c.kind.word), ("percent", .number c.percent),
    ("message", Json.ofText? c.message)]

/-- The members of a reason in a file. -/
def Objection.members : Objection → List (String × Json.Document)
  | regression count => [("kind", Json.ofText "regression"), ("count", .number count)]
  | aggregate meanRatio threshold =>
    [("kind", Json.ofText "aggregate_regression"), ("meanRatio", .number meanRatio),
      ("threshold", .number threshold)]

namespace Outcome

/-- An outcome as structured data. -/
def toDatum (order : MemberOrder) (o : Outcome) : Json.Document :=
  .record [
    ("passed", .bool o.verdict.passed),
    ("failures", .list (o.verdict.failures.map fun x => order.arrange x.members)),
    ("summary", order.arrange o.summary.members),
    ("records", .list (o.comparisons.map fun x => order.arrange x.members)),
    ("classifications",
      .list (o.findings.classifications.map fun x => order.arrange x.members)),
    ("report", Json.ofText? o.report),
    ("commented", .bool o.commented)]

/-- The text of the file of an outcome. -/
def document (order : MemberOrder) (o : Outcome) : String :=
  Json.write (.indented 2) (o.toDatum order) ++ "\n"

end Outcome

end BenchGate
