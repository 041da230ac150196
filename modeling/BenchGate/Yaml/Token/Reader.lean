import BenchGate.Text.Hex
import BenchGate.Yaml.Token.Scalar

/-!
# Reading tokens

`Token.ofText?` cuts a text into tokens. What a character means depends on where it stands: at
the top level between documents, at the start of a line, inside a block or inside a flow
collection. A text gives no tokens if a flow collection or a quoted scalar is not closed or not
indented enough, if a closing bracket has no opening one, or if a block scalar's header is
followed by anything but a comment; no document could be made of it.
-/

namespace BenchGate.Yaml

/-- Where the reader is. -/
inductive Mode where
  | stream
  | blockStart
  | document
  | flow
deriving DecidableEq

/-- What the reader knows: the text that is left, the tokens read, the last one first, the least
indentation of a scalar's further lines, the indentation of this line, how many flow collections
are open, and whether a colon would follow a quoted key in one. -/
structure Reader where
  rest : List Char
  tokens : List Token := []
  leastIndent : Nat := 0
  lineIndent : Nat := 0
  flowDepth : Nat := 0
  afterKey : Bool := false

namespace Reader

/-- Makes a token of the next characters, which may be none. -/
def emit (r : Reader) (kind : TokenKind) (n : Nat) : Reader :=
  { r with rest := r.rest.drop n, tokens := { kind, text := r.rest.take n } :: r.tokens }

/-- Makes a token of the next characters, if there are any. -/
def take (r : Reader) (kind : TokenKind) (n : Nat) : Reader := if n = 0 then r else r.emit kind n

/-- Takes spaces, and tabs if they count as such; gives their number too. -/
def spaces (r : Reader) (tabs : Bool) : Nat × Reader :=
  let n := (r.rest.takeWhile fun c => c = ' ' || (tabs && c = '\t')).length
  (n, r.take .space n)

/-- Takes a line break; gives its length too. -/
def newline (r : Reader) : Nat × Reader :=
  match r.rest with
  | '\n' :: _ => (1, r.take .newline 1)
  | '\r' :: '\n' :: _ => (2, r.take .newline 2)
  | _ => (0, r)

/-- The rest of the line. -/
def line (text : List Char) : List Char :=
  match text.span (· ≠ '\n') with
  | (line, []) => line
  | (line, _) => if line.getLast? = some '\r' then line.dropLast else line

/-- Takes the rest of the line as a comment, if there is any. -/
def comment (r : Reader) : Reader := r.take .comment (line r.rest).length

/-- Whether nothing but a comment is left of the line. -/
def atLineEnd (text : List Char) : Bool :=
  match text.dropWhile isBlankChar with
  | [] => true
  | '#' :: _ => true
  | '\n' :: _ => true
  | '\r' :: '\n' :: _ => true
  | _ => false

/-! ## Between documents -/

/-- A directive's line without its comment. -/
def beforeComment : List Char → List Char
  | c :: '#' :: rest => if isBlankChar c then [] else c :: beforeComment ('#' :: rest)
  | c :: rest => c :: beforeComment rest
  | [] => []

/-- A text without blanks at its end. -/
def trimEnd (text : List Char) : List Char := (text.reverse.dropWhile isBlankChar).reverse

/-- The start of a line inside a document, where marks of documents count. -/
def lineStart (r : Reader) : Mode × Reader :=
  if atDocumentMark r.rest then
    let isStart := r.rest.head? = some '-'
    let r := r.take (if isStart then .documentStart else .documentEnd) 3
    (if isStart then .document else .stream, { r with lineIndent := 0, leastIndent := 0 })
  else
    let (n, r) := r.spaces false
    let leastIndent :=
      if r.leastIndent > n ∧ !isGap (r.rest.drop 1).head? then n else r.leastIndent
    (.blockStart, { r with lineIndent := n, leastIndent })

/-- A line between documents. -/
def stream (r : Reader) : Mode × Reader :=
  let r := if r.rest.head? = some '\ufeff' then r.take .byteOrderMark 1 else r
  if r.rest.head? = some '%' then
    let r := r.take .directive (trimEnd (beforeComment (line r.rest))).length
    (.stream, ((r.spaces true).2).comment)
  else if atLineEnd r.rest then (.stream, (((r.spaces true).2).comment.newline).2)
  else (r.emit .documentMode 0).lineStart

/-! ## Marks and properties -/

/-- The mark of a list item, a key or a value. -/
def mark? (c : Char) : Option TokenKind :=
  if c = '-' then some .item
  else if c = '?' then some .question
  else if c = ':' then some .colon
  else none

/-- Marks at the start of a line indent what follows them. -/
def blockStart (r : Reader) : Mode × Reader :=
  match r.rest with
  | c :: tail =>
    match mark? c with
    | some kind =>
      if isGap tail.head? then
        let (n, r) := (r.take kind 1).spaces true
        (.blockStart,
          { r with leastIndent := r.lineIndent + 1, lineIndent := r.lineIndent + 1 + n })
      else (.document, r)
    | none => (.document, r)
  | [] => (.document, r)

/-- The length of a tag after its first character. -/
def tagLength : List Char → Nat
  | '%' :: a :: b :: rest =>
    if (Hex.value? a).isSome ∧ (Hex.value? b).isSome then tagLength rest + 3 else 0
  | c :: rest => if isTagChar c then tagLength rest + 1 else 0
  | [] => 0

/-- Takes a tag; one in angle brackets goes up to the closing one. -/
def tag (r : Reader) : Reader :=
  match r.rest with
  | _ :: '<' :: rest =>
    let inner := rest.takeWhile fun c => !isGap (some c) && c ≠ '>'
    let isClosed := (rest.drop inner.length).head? = some '>'
    r.take .tag (inner.length + if isClosed then 3 else 2)
  | _ :: rest => r.take .tag (tagLength rest + 1)
  | [] => r

/-- Takes an anchor or an alias. -/
def name (r : Reader) (kind : TokenKind) : Reader :=
  r.take kind (r.rest.takeWhile fun c => !endsAnchor c).length

/-- Takes properties and marks; `fuel` bounds their number. -/
def properties : (fuel : Nat) → Reader → Reader
  | 0, r => r
  | fuel + 1, r =>
    match r.rest with
    | [] => r
    | c :: tail =>
      if c = '!' then properties fuel (r.tag.spaces true).2
      else if c = '&' then properties fuel ((r.name .anchor).spaces true).2
      else
        match mark? c with
        | none => r
        | some kind =>
          let inFlow := r.flowDepth > 0
          if isGap tail.head? ∨ (inFlow ∧ tail.head?.any isFlowMark) then
            let r :=
              if inFlow then { r with afterKey := false }
              else { r with leastIndent := r.lineIndent + 1 }
            properties fuel ((r.take kind 1).spaces true).2
          else r

/-! ## Scalars -/

/-- Where to go on after a scalar. -/
def afterScalar (r : Reader) : Mode := if r.flowDepth > 0 then .flow else .document

/-- Takes a plain scalar, which may be empty. -/
def plain (r : Reader) : Mode × Reader :=
  let r := r.emit .plain (plainLength (r.flowDepth > 0) r.leastIndent 0 0 r.rest)
  (r.afterScalar, r)

/-- Takes a quoted scalar. -/
def quoted? (r : Reader) (mark : Char) : Option (Mode × Reader) := do
  let n ← quotedLength? mark r.leastIndent (r.rest.drop 1)
  let r := r.take (if mark = '"' then .doubleQuoted else .singleQuoted) (n + 1)
  return (r.afterScalar, r)

/-- Takes a block scalar with its header. -/
def block? (r : Reader) : Option (Mode × Reader) :=
  let (explicit, keep) := headerTraits none false (r.rest.drop 1)
  let n := (r.rest.takeWhile fun c => !isGap (some c) && c ≠ '#').length
  let r := ((r.take .blockHeader n).spaces true).2
  if atLineEnd r.rest then
    let r := r.comment.newline.2
    let (text, leastIndent) := blockText r.leastIndent explicit keep r.rest
    some (({ r with leastIndent }.emit .blockText text.length).lineStart)
  else none

/-! ## Inside documents -/

/-- Goes on inside a document. -/
def document? (fuel : Nat) (r : Reader) : Option (Mode × Reader) :=
  let r := (r.spaces true).2.properties fuel
  match r.rest with
  | [] => some (.document, r)
  | c :: _ =>
    if c = '#' ∨ (line r.rest).isEmpty then some r.comment.newline.2.lineStart
    else if c = '\x7b' then
      some (.flow, { r.take .recordOpen 1 with flowDepth := 1, afterKey := false })
    else if c = '[' then some (.flow, { r.take .listOpen 1 with flowDepth := 1, afterKey := false })
    else if c = '\x7d' ∨ c = ']' then none
    else if c = '*' then some (.document, r.name .alias)
    else if c = '"' ∨ c = '\x27' then r.quoted? c
    else if c = '|' ∨ c = '>' then r.block?
    else some r.plain

/-- Takes blanks and line breaks inside a flow collection; `indent` is the indentation of the
line, if one began. -/
def flowGap : (fuel : Nat) → (indent : Option Nat) → Reader → Option Nat × Reader
  | 0, indent, r => (indent, r)
  | fuel + 1, indent, r =>
    let (broken, r) := r.newline
    if broken = 0 then
      let (n, r) := r.spaces true
      if n = 0 then (indent, r) else flowGap fuel indent r
    else
      let (n, r) := r.spaces false
      flowGap fuel (some n) { (r.spaces true).2 with lineIndent := n }

/-- Whether a line of a flow collection is indented enough. The bracket that closes the outermost
one may stand one column to the left. -/
def isFlowIndented (r : Reader) : Option Nat → Bool
  | none => true
  | some indent =>
    let c := r.rest.head?
    let isLow := (indent < r.leastIndent && c ≠ some '#') || (indent = 0 && atDocumentMark r.rest)
    !isLow || (indent + 1 = r.leastIndent && r.flowDepth = 1 && (c = some ']' || c = some '\x7d'))

/-- Takes commas. -/
def commas : (fuel : Nat) → Reader → Reader
  | 0, r => r
  | fuel + 1, r =>
    if r.rest.head? = some ',' then
      commas fuel { ((r.take .comma 1).spaces true).2 with afterKey := false }
    else r

/-- Opens a flow collection inside another. -/
def openFlow (r : Reader) (kind : TokenKind) : Mode × Reader :=
  (.flow, { r.take kind 1 with flowDepth := r.flowDepth + 1, afterKey := false })

/-- Closes a flow collection. -/
def closeFlow (r : Reader) (kind : TokenKind) : Mode × Reader :=
  let r := { r.take kind 1 with flowDepth := r.flowDepth - 1, afterKey := true }
  (r.afterScalar, r)

/-- Goes on inside a flow collection. -/
def flow? (fuel : Nat) (r : Reader) : Option (Mode × Reader) :=
  let (indent, r) := r.flowGap fuel none
  if r.rest.isEmpty ∨ !r.isFlowIndented indent then none
  else
    let r := (r.commas fuel).properties fuel
    match r.rest with
    | [] => none
    | c :: tail =>
      if c = '#' ∨ (line r.rest).isEmpty then some (.flow, r.comment)
      else if c = '\x7b' then some (r.openFlow .recordOpen)
      else if c = '[' then some (r.openFlow .listOpen)
      else if c = '\x7d' then some (r.closeFlow .recordClose)
      else if c = ']' then some (r.closeFlow .listClose)
      else if c = '*' then some (.flow, r.name .alias)
      else if c = '"' ∨ c = '\x27' then { r with afterKey := true }.quoted? c
      else if c = ':' ∧ (r.afterKey ∨ isGap tail.head? ∨ tail.head? = some ',') then
        some (.flow, { ((r.take .colon 1).spaces true).2 with afterKey := false })
      else some { r with afterKey := false }.plain

/-- One step of reading. -/
def step? (fuel : Nat) (r : Reader) : Mode → Option (Mode × Reader)
  | .stream => some r.stream
  | .blockStart => some r.blockStart
  | .document => r.document? fuel
  | .flow => r.flow? fuel

/-- Reads until the text ends; `fuel` bounds the number of steps. -/
def run? : (fuel : Nat) → Mode → Reader → Option (List Token)
  | 0, _, _ => none
  | fuel + 1, mode, r =>
    if r.rest.isEmpty then if r.flowDepth = 0 then some r.tokens.reverse else none
    else
      match r.step? fuel mode with
      | none => none
      | some (mode, r) => run? fuel mode r

end Reader

/-- The tokens of a text, with their places. -/
def Token.ofText? (text : List Char) : Option (List Token) :=
  (Reader.run? (4 * text.length + 4) .stream { rest := text }).map (Place.assign {})

end BenchGate.Yaml
