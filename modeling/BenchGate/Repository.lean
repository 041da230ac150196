/-!
# Repository names

A repository is named `owner/repo`: two names of ASCII letters, digits, `_`, `.` and `-` with one
slash between them.
-/

namespace BenchGate.Repository

/-- A character of an owner's or repository's name. -/
def isNameChar (c : Char) : Bool := c.isAlphanum || c = '_' || c = '.' || c = '-'

/-- Whether a text names a repository. -/
def isName (text : String) : Bool :=
  let (owner, rest) := text.toList.span isNameChar
  match rest with
  | '/' :: name => owner ≠ [] && name ≠ [] && name.all isNameChar
  | _ => false

end BenchGate.Repository
