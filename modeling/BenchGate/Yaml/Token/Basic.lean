import BenchGate.Text.Utf16

/-!
# Tokens of YAML

A token is a piece of the text with its kind. It also knows the indentation of its line up to
where it stands, in which the marks `-`, `?` and `:` at the start of a line take part, and its
offset in the text.
-/

namespace BenchGate.Yaml

/-- What a token is. `documentMode` marks where a document begins without `---`. -/
inductive TokenKind where
  | byteOrderMark
  | space
  | comment
  | newline
  | directive
  | documentMode
  | documentStart
  | documentEnd
  | item
  | question
  | colon
  | recordOpen
  | recordClose
  | listOpen
  | listClose
  | comma
  | anchor
  | tag
  | alias
  | plain
  | singleQuoted
  | doubleQuoted
  | blockHeader
  | blockText
deriving DecidableEq, Repr

/-- A piece of the text. -/
structure Token where
  kind : TokenKind
  text : List Char
  indent : Nat := 0
  offset : Nat := 0
deriving DecidableEq

namespace Token

/-- Whether a token stands between others without a meaning of its own. -/
def isBlank (t : Token) : Bool := t.kind = .space || t.kind = .comment || t.kind = .newline

/-- The length of a token in the units in which offsets count. -/
def length (t : Token) : Nat := (t.text.flatMap Utf16.unitsOfChar).length

end Token

/-! ## Characters -/

/-- The end of the text, or a character that separates tokens. -/
def isGap : Option Char → Bool
  | none => true
  | some c => c = ' ' || c = '\n' || c = '\r' || c = '\t'

/-- The characters that structure a flow collection. -/
def isFlowMark (c : Char) : Bool := c = ',' || c = '[' || c = ']' || c = '\x7b' || c = '\x7d'

/-- The characters an anchor or alias cannot hold. -/
def endsAnchor (c : Char) : Bool :=
  c = ' ' || c = ',' || c = '[' || c = ']' || c = '\x7b' || c = '\x7d' || c = '\n' || c = '\r' ||
    c = '\t'

/-- The characters that stand for themselves in a tag. -/
def isTagChar (c : Char) : Bool :=
  c.isAlphanum || c ∈ ['-', '#', ';', '/', '?', ':', '@', '&', '=', '+', '$', '_', '.', '!', '~',
    '*', '\x27', '(', ')']

/-- Spaces and tabs. -/
def isBlankChar (c : Char) : Bool := c = ' ' || c = '\t'

/-! ## Places of tokens -/

/-- Where the next token stands. -/
structure Place where
  offset : Nat := 0
  indent : Nat := 0
  atLineStart : Bool := true

namespace Place

/-- The place after a token: a line break begins a new line, spaces and marks at the start of a
line indent what follows, and anything else ends the start of the line. -/
def after (p : Place) (t : Token) : Place :=
  let offset := p.offset + t.length
  match t.kind with
  | .newline | .blockText => { offset, indent := 0, atLineStart := true }
  | .space =>
    if p.atLineStart ∧ t.text.head? = some ' ' then { p with offset, indent := p.indent + t.length }
    else { p with offset }
  | .item | .question | .colon =>
    if p.atLineStart then { p with offset, indent := p.indent + t.length } else { p with offset }
  | .documentMode => p
  | _ => { p with offset, atLineStart := false }

/-- Tokens with their places, from a place on. -/
def assign (p : Place) : List Token → List Token
  | [] => []
  | t :: rest => { t with indent := p.indent, offset := p.offset } :: assign (p.after t) rest

end Place

end BenchGate.Yaml
