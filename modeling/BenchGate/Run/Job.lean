import BenchGate.Console.Line
import BenchGate.Delivery.Send
import BenchGate.Run.Data
import BenchGate.Run.Outcome

/-!
# Jobs

A job measures, posts the report and writes the outcome, in this order; a step that fails ends
it. A regression is no failure of the job: it stands in the outcome, after everything was printed
and posted. `Job.run` gives all that a job does: the lines printed, the requests made and the
files afterwards.
-/

namespace BenchGate

/-- What a job does. -/
structure Job where
  plan : Plan
  delivery : Delivery
  outputPath : Option String := none

/-- Why a job has no outcome. -/
inductive Failure where
  | data (cause : DataError)
  | delivery (cause : DeliveryError)
  | output (path : String) (cause : FileError)

namespace Failure

/-- What kind of failure this is. -/
def name : Failure → String
  | data cause => cause.name
  | delivery _ => "NotificationError"
  | output .. => "ReportWriteError"

/-- The text of a failure. -/
def message (explain : Explanations) : Failure → String
  | data cause => cause.message
  | delivery cause => cause.message explain
  | output path cause => "Failed to write report to " ++ path ++ ": " ++ cause.message path

end Failure

/-- Writes the file of an outcome. -/
def Outcome.save (o : Outcome) (order : MemberOrder) (tree : Tree) (path : String) :
    Except Failure Tree :=
  (tree.write path (Utf8.encode (o.document order))).mapError (.output path)

/-- All that a job did. -/
structure Run where
  lines : List Line
  requests : List Request
  tree : Tree
  result : Except Failure Outcome

namespace Job

/-- The line for a file that is about to be read. -/
def readingLine (path : String) : Line := .ofText ("Reading " ++ path)

/-- The line that shows a report. -/
def reportLine (report : String) : Line :=
  .ofText ("Sending warnings and errors as a PR comment:\n" ++ report)

/-- The line for a report that goes nowhere. -/
def skippedLine : Line := .ofText "No pull request given, skipping PR comment." .dim

/-- Posts a report, if there is one and a pull request to post it to: the lines printed, the
requests made, and whether a comment was posted. -/
def deliver (d : Delivery) (tree : Tree) (reply : Reply) :
    Option String → List Line × List Request × Except DeliveryError Bool
  | none => ([], [], .ok false)
  | some report =>
    if d.pullRequest = "" then ([reportLine report, skippedLine], [], .ok false)
    else
      let (requests, sent) := d.send tree reply report
      ([reportLine report], requests, sent.map fun _ => true)

/-- Writes an outcome, if there is a path to write it to. -/
def save (job : Job) (tree : Tree) (outcome : Outcome) : Except Failure Tree :=
  match Delivery.present job.outputPath with
  | none => .ok tree
  | some path => outcome.save .declared tree path

/-- Runs a job on a tree, with the reply that a request will get. -/
def run (job : Job) (tree : Tree) (reply : Reply) : Run :=
  match job.plan.measure tree with
  | (files, .error e) =>
    { lines := files.map readingLine, requests := [], tree, result := .error (.data e) }
  | (files, .ok measurement) =>
    let (posted, requests, commented) := deliver job.delivery tree reply measurement.report
    let lines := files.map readingLine ++ measurement.lines.map (Line.ofText ·) ++ posted
    match commented with
    | .error e => { lines, requests, tree, result := .error (.delivery e) }
    | .ok commented =>
      let outcome : Outcome := { measurement with commented }
      match job.save tree outcome with
      | .error e => { lines, requests, tree, result := .error e }
      | .ok tree => { lines, requests, tree, result := .ok outcome }

end Job

end BenchGate
