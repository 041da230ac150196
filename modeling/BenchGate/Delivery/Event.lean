import BenchGate.Files.Tree
import BenchGate.Issue
import BenchGate.Json.Reader

/-!
# Events

The file of an event names the commit a comment belongs to: the text at `pull_request.head.sha`,
unit by unit. Other members do not matter. The first place at which the document stops having that
shape is reported.
-/

namespace BenchGate

/-- Why an event names no commit. -/
inductive EventError where
  | unreadable (path : String) (cause : FileError)
  | malformed (text : String)
  | incomplete (issue : Issue)
deriving DecidableEq, Repr

/-- The text of a failure. -/
def EventError.message (explain : Explanations) : EventError → String
  | unreadable path cause => "Failed to read event payload " ++ path ++ ": " ++ cause.message path
  | malformed text => "Invalid JSON in event payload: " ++ explain.json text
  | incomplete issue => "Event payload is missing the pull request head: " ++ issue.message

namespace Event

/-- The commit that a document names. -/
def headCommit (document : Json.Document) : Except Issue (List UInt16) := do
  let event ← Datum.expectRecord [] (some document)
  let request ← Datum.expectRecord ["pull_request"] (Datum.lookup event "pull_request")
  let head ← Datum.expectRecord ["pull_request", "head"] (Datum.lookup request "head")
  let path := ["pull_request", "head", "sha"]
  let commit ← Datum.expectText path (Datum.lookup head "sha")
  if commit = [] then .error ⟨path, .brokenRule "Head commit SHA must not be empty"⟩
  else .ok commit

/-- The commit that the text of an event names. -/
def parse (text : String) : Except EventError (List UInt16) :=
  match Json.read? text with
  | none => .error (.malformed text)
  | some document =>
    match headCommit document with
    | .ok commit => .ok commit
    | .error issue => .error (.incomplete issue)

/-- The commit that the event at a path names. -/
def read (tree : Tree) (path : String) : Except EventError (List UInt16) :=
  match tree.read path with
  | .ok content => parse (Utf8.decode content)
  | .error cause => .error (.unreadable path cause)

end Event

end BenchGate
