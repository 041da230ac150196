import BenchGate.Yaml.Alias
import BenchGate.Yaml.Token.Reader

/-!
# Reading YAML

`Yaml.read?` reads the one document of a text. A text without a document is null; one with two
documents, or with anything wrong in it, is refused. Directives before the document choose the
version and shorten tags; they need a `---` after them.
-/

namespace BenchGate.Yaml

/-! ## Directives -/

/-- The words of a directive. -/
def directiveWords (text : List Char) : List String :=
  (((text.map fun c => if c = '\t' then ' ' else c).splitOn ' ').map String.ofList).filter (· ≠ "")

/-- Whether a text is a version: two numbers with a point between them. -/
def isVersion (text : String) : Bool :=
  match text.toList.span Char.isDigit with
  | (_ :: _, '.' :: minor) => minor ≠ [] && minor.all Char.isDigit
  | _ => false

namespace Directives

/-- Obeys a directive. One of an unknown name and one for an unknown version change nothing. -/
def push? (d : Directives) (t : Token) : Option Directives :=
  match directiveWords t.text with
  | ["%TAG", handle, begins] => some { d with handles := d.handles ++ [(handle, begins)] }
  | "%TAG" :: _ => none
  | ["%YAML", "1.1"] => some { d with version := .old }
  | ["%YAML", "1.2"] => some { d with version := .current }
  | ["%YAML", version] => if isVersion version then some d else none
  | "%YAML" :: _ => none
  | _ => some d

end Directives

/-! ## Documents -/

/-- What follows the start of a document: its node, or the first token after it. -/
def DocumentLayout.follower (d : DocumentLayout) : Option Follower :=
  match d.root with
  | some n => some (.ofLayout n)
  | none => d.tail.head?.map .ofToken

/-- The data of a document; `fuel` bounds its depth. -/
def DocumentLayout.read? (d : DocumentLayout) (fuel : Nat) (directives : Directives)
    (hasDirectives : Bool) : Option Datum := do
  let p ← Properties.read? { mark := .documentStart, outerIndent := 0, atLineStart := true }
    d.follower d.start
  if hasDirectives ∧ p.mark.isNone then none
  if p.mark.isSome ∧ d.root.any Layout.isBlock ∧ !p.hasBreak then none
  let node ← match d.root with
    | some n => n.node? directives fuel true p
    | none => p.empty? directives
  node.datum?

/-- What was read of a text's parts: the directives before its document, and the document. -/
structure Parts where
  directives : Directives := {}
  hasDirectives : Bool := false
  document : Option DocumentLayout := none

/-- One more part; there is only one document. -/
def Parts.push? (p : Parts) : Part → Option Parts
  | .directive t =>
    (p.directives.push? t).map fun directives =>
      if p.document.isSome then p else { p with directives, hasDirectives := true }
  | .document d => if p.document.isSome then none else some { p with document := some d }

/-- The document of a text. -/
def read? (text : String) : Option Datum := do
  let tokens ← Token.ofText? text.toList
  let parts ← (← Layout.ofTokens? tokens).foldlM Parts.push? {}
  match parts.document with
  | none => if parts.hasDirectives then none else return .null
  | some d => d.read? (tokens.length + 1) parts.directives parts.hasDirectives

end BenchGate.Yaml
