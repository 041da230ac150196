import BenchGate.Datum

/-!
# Issues

What is wrong with a document, and where. A value is missing, of another kind than expected, or
breaks a rule. A text that is no document at all has no issues; what there is to say about it is
what its reader says.
-/

namespace BenchGate

/-- What is wrong with a value. -/
inductive Complaint where
  | missing
  | wrongKind (expected received : String)
  | brokenRule (rule : String)
deriving DecidableEq, Repr

/-- The text of a complaint. -/
def Complaint.message : Complaint → String
  | missing => "Required"
  | wrongKind expected received => "Expected " ++ expected ++ ", received " ++ received
  | brokenRule rule => rule

/-- A complaint about the value at a path of member names. -/
structure Issue where
  path : List String
  complaint : Complaint
deriving DecidableEq, Repr

namespace Issue

/-- The path of an issue; the document itself is its root. -/
def place (i : Issue) : String := if i.path.isEmpty then "root" else ".".intercalate i.path

/-- The text of an issue. -/
def message (i : Issue) : String := i.place ++ ": " ++ i.complaint.message

/-- The text of several issues. -/
def summary (issues : List Issue) : String := "; ".intercalate (issues.map message)

end Issue

/-- What the readers of the two formats say about a text that they refuse. -/
structure Explanations where
  json : String → String := fun _ => "not a JSON document"
  yaml : String → String := fun _ => "not a YAML document"
deriving Inhabited

namespace Datum

variable {τ : Type}

/-- The complaint about a value that is not of the expected kind. -/
def complaint (expected : String) : Option (Datum τ) → Complaint
  | none => .missing
  | some d => .wrongKind expected d.kindName

/-- The members of a value that has to be a record. -/
def expectRecord (path : List String) :
    Option (Datum τ) → Except Issue (List (String × Datum τ))
  | some (.record members) => .ok members
  | d => .error ⟨path, complaint "object" d⟩

/-- A value that has to be a text. -/
def expectText (path : List String) : Option (Datum τ) → Except Issue τ
  | some (.text value) => .ok value
  | d => .error ⟨path, complaint "string" d⟩

/-- A value that has to be a number; the undefined number is none. -/
def expectNumber (path : List String) : Option (Datum τ) → Except Issue Float
  | some (.number value) =>
    if value.isNaN then .error ⟨path, complaint "number" (some (.number value : Datum τ))⟩
    else .ok value
  | d => .error ⟨path, complaint "number" d⟩

end Datum

end BenchGate
