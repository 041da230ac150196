import BenchGate.Yaml.Token.Scalar

/-!
# Block scalars

A block scalar holds the lines below its header as they are, without their indentation. The
header says whether line breaks are kept or folded into spaces, which of the line breaks at the
end count, and perhaps the indentation.
-/

namespace BenchGate.Yaml.Scalar

/-- Which line breaks at the end of a block scalar count: one, none or all. -/
inductive Chomp where
  | clip
  | strip
  | keep
deriving DecidableEq

/-- The header of a block scalar. -/
structure Header where
  isFolded : Bool
  chomp : Option Chomp := none
  indent : Nat := 0

/-- Reads what follows the mark of a header: at most one digit and one sign, in any order. -/
def Header.read? (h : Header) : List Char → Option Header
  | [] => some h
  | c :: rest =>
    if h.chomp.isNone ∧ c = '-' then { h with chomp := some .strip }.read? rest
    else if h.chomp.isNone ∧ c = '+' then { h with chomp := some .keep }.read? rest
    else if h.indent = 0 ∧ '1' ≤ c ∧ c ≤ '9' then { h with indent := c.toNat - 0x30 }.read? rest
    else none

/-- Reads a header. -/
def Header.ofChars? : List Char → Option Header
  | [] => none
  | c :: rest => Header.read? { isFolded := c = '>' } rest

/-- A line of a block scalar: its spaces in front and what follows them. -/
structure BlockLine where
  indent : Nat
  content : List Char

namespace BlockLine

/-- A line of a text. -/
def ofChars (line : List Char) : BlockLine :=
  let (spaces, content) := line.span (· = ' ')
  { indent := spaces.length, content }

/-- Whether a line is blank. -/
def isBlank (l : BlockLine) : Bool := l.content = [] || l.content = ['\r']

/-- The content of a line without a carriage return at its end. -/
def text (l : BlockLine) : List Char :=
  if l.content.getLast? = some '\r' then l.content.dropLast else l.content

/-- The spaces of a line beyond an indentation. -/
def extra (l : BlockLine) (indent : Nat) : List Char := List.replicate (l.indent - indent) ' '

end BlockLine

/-- The indentation to remove: the explicit one, or that of the first line that is not blank. It
has to be that of all blank lines before it at least, and in a collection it cannot be nothing.
`least` is the indentation that a block scalar of explicit indentation has. -/
def trimIndent? (isExplicit isRoot : Bool) (least : Nat) : List BlockLine → Option Nat
  | [] => some least
  | l :: rest =>
    if l.isBlank then
      trimIndent? isExplicit isRoot (if isExplicit then least else max least l.indent) rest
    else if l.indent < least then none
    else
      let trim := if isExplicit then least else l.indent
      if trim = 0 ∧ !isRoot then none else some trim

/-- Joins the lines from the first one that is not blank. `pending` is what separates the next
line from those before, and `wasDeeper` says whether the last line was indented more. -/
def joinLines? (isFolded : Bool) (trim : Nat) (pending : List Char) (wasDeeper : Bool) :
    List BlockLine → Option (List Char)
  | [] => some []
  | l :: rest =>
    let content := l.text
    if content ≠ [] ∧ l.indent < trim then none
    else if !isFolded then
      (joinLines? isFolded trim ['\n'] wasDeeper rest).map
        (pending ++ l.extra trim ++ content ++ ·)
    else if l.indent > trim ∨ content.head? = some '\t' then
      let pending :=
        if pending = [' '] then ['\n']
        else if !wasDeeper ∧ pending = ['\n'] then ['\n', '\n']
        else pending
      (joinLines? isFolded trim ['\n'] true rest).map (pending ++ l.extra trim ++ content ++ ·)
    else if content = [] then
      if pending = ['\n'] then (joinLines? isFolded trim pending wasDeeper rest).map ('\n' :: ·)
      else joinLines? isFolded trim ['\n'] wasDeeper rest
    else (joinLines? isFolded trim [' '] false rest).map (pending ++ content ++ ·)

/-- How many of the lines are not blank lines at the end. -/
def contentLength (lines : List BlockLine) : Nat :=
  (lines.reverse.dropWhile BlockLine.isBlank).length

/-- How many lines count as content when blank lines indented more than the content do. -/
def fullLength (trim : Nat) (lines : List BlockLine) : Nat :=
  (lines.reverse.dropWhile fun l => l.isBlank && l.indent ≤ trim).length

/-- The value of a block scalar in a collection of an indentation. -/
def block? (h : Header) (isRoot : Bool) (indent : Nat) (text : List Char) :
    Option (List Char) := do
  let lines := if text.isEmpty then [] else (splitLines text).map BlockLine.ofChars
  let chomp := h.chomp.getD .clip
  let n := contentLength lines
  if n = 0 then
    return if chomp = .keep ∧ !lines.isEmpty then
      List.replicate (max 1 (lines.length - 1)) '\n' else []
  else
    let trim ← trimIndent? (h.indent ≠ 0) isRoot (indent + h.indent) lines
    let n := max n (fullLength trim lines)
    let (blank, content) := (lines.take n).span BlockLine.isBlank
    let first := blank.flatMap fun l => l.extra trim ++ ['\n']
    let joined ← joinLines? h.isFolded trim [] false content
    let last := (lines.drop n).flatMap fun l => '\n' :: l.extra trim
    let value := first ++ joined
    match chomp with
    | .strip => return value
    | .clip => return value ++ ['\n']
    | .keep =>
      let value := value ++ last
      return if value.getLast? = some '\n' then value else value ++ ['\n']

end BenchGate.Yaml.Scalar
