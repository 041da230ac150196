import BenchGate.Yaml.Token.Basic

/-!
# Where scalars end

A scalar may go on over several lines. Inside a block its lines have to be indented; at the top
level only `---` and `...` end it. The functions here say how many characters a scalar takes.
-/

namespace BenchGate.Yaml

/-- Whether a text begins with the mark of a document's start or end. -/
def atDocumentMark (text : List Char) : Bool :=
  match text with
  | a :: b :: c :: rest => a = b && b = c && (a = '-' || a = '.') && isGap rest.head?
  | _ => false

/-- Whether a line belongs to a scalar whose lines are indented by at least `least`: it does if
it is blank or indented enough, and without a least indentation unless it is the mark of a
document. -/
def continuesScalar (least : Nat) (line : List Char) : Bool :=
  if least = 0 then !atDocumentMark line
  else
    let (spaces, rest) := line.span (· = ' ')
    match rest with
    | '\n' :: _ => true
    | '\r' :: '\n' :: _ => true
    | _ => least ≤ spaces.length

/-- How many characters a plain scalar takes; `here` are those looked at and `taken` those up to
the last one that counts. -/
def plainLength (inFlow : Bool) (least : Nat) (here taken : Nat) : List Char → Nat
  | [] => taken
  | ':' :: rest =>
    if isGap rest.head? ∨ (inFlow ∧ rest.head?.any isFlowMark) then taken
    else plainLength inFlow least (here + 1) (here + 1) rest
  | '\r' :: '\n' :: rest =>
    if rest.head? = some '#' ∨ (inFlow ∧ rest.head?.any isFlowMark) then taken
    else if continuesScalar least rest then plainLength inFlow least (here + 2) taken rest
    else taken
  | '\n' :: rest =>
    if rest.head? = some '#' ∨ (inFlow ∧ rest.head?.any isFlowMark) then taken
    else if continuesScalar least rest then plainLength inFlow least (here + 1) taken rest
    else taken
  | c :: rest =>
    if c = ' ' ∨ c = '\t' ∨ c = '\r' then
      let taken := if c = '\r' then here + 1 else taken
      if rest.head? = some '#' ∨ (inFlow ∧ rest.head?.any isFlowMark) then taken
      else plainLength inFlow least (here + 1) taken rest
    else if inFlow ∧ isFlowMark c then taken
    else plainLength inFlow least (here + 1) (here + 1) rest

/-- The length of the rest of a quoted scalar with its closing mark, if it is closed and all its
lines belong to it; `least` is as for `continuesScalar`. -/
def quotedLength? (mark : Char) (least : Nat) : List Char → Option Nat
  | [] => none
  | c :: rest =>
    if c = '\\' ∧ mark = '"' then
      match rest with
      | [] => none
      | d :: rest =>
        if d = '\n' ∧ !continuesScalar least rest then none
        else (quotedLength? mark least rest).map (· + 2)
    else if c = mark then
      match rest with
      | d :: rest =>
        if mark = '\x27' ∧ d = mark then (quotedLength? mark least rest).map (· + 2) else some 1
      | [] => some 1
    else if c = '\n' ∧ !continuesScalar least rest then none
    else (quotedLength? mark least rest).map (· + 1)

/-! ## Block scalars -/

/-- The explicit indentation of a block scalar's header and whether its blank lines at the end
are kept, read up to the first character that says neither. -/
def headerTraits (indent : Option Nat) (keep : Bool) : List Char → Option Nat × Bool
  | [] => (indent, keep)
  | c :: rest =>
    if c = '+' then headerTraits indent true rest
    else if '1' ≤ c ∧ c ≤ '9' then headerTraits (some (c.toNat - 0x30)) keep rest
    else if c = '-' then headerTraits indent keep rest
    else (indent, keep)

/-- The length of the blank lines in front, and the indentation of the line after them. -/
def leadingBlank (done spaces : Nat) : List Char → Nat × Nat
  | ' ' :: rest => leadingBlank done (spaces + 1) rest
  | '\r' :: '\n' :: rest => leadingBlank (done + spaces + 2) 0 rest
  | '\n' :: rest => leadingBlank (done + spaces + 1) 0 rest
  | _ => (done, spaces)

/-- The length of the lines that belong to a block scalar. -/
def scalarLines (least : Nat) : (atStart : Bool) → List Char → Nat
  | _, [] => 0
  | atStart, c :: rest =>
    if atStart ∧ !continuesScalar least (c :: rest) then 0
    else scalarLines least (c = '\n') rest + 1

/-- The lines of a text, without their line breaks. -/
def splitLines (text : List Char) : List (List Char) :=
  text.foldr (fun c lines =>
    if c = '\n' then [] :: lines
    else
      match lines with
      | line :: rest => (c :: line) :: rest
      | [] => [[c]]) [[]]

/-- Whether a line is made of at most `indent` spaces. -/
def isShallowBlank (indent : Nat) (line : List Char) : Bool :=
  let line := if line.getLast? = some '\r' then line.dropLast else line
  line.all (· = ' ') && line.length ≤ indent

/-- Drops blank lines at the end that are not indented more than the first line, as lines that
come last first; the first line of all stays. -/
def dropShallow (indent : Nat) : List (List Char) → List (List Char)
  | line :: before :: lines =>
    if isShallowBlank indent line then dropShallow indent (before :: lines)
    else line :: before :: lines
  | lines => lines

/-- A block scalar's lines without the shallow blank ones at the end. -/
def trimShallow (indent : Nat) (text : List Char) : List Char :=
  let all := (splitLines text).reverse
  let (isClosed, lines) := match all with
    | [] :: before :: rest => (true, before :: rest)
    | lines => (false, lines)
  let kept := dropShallow indent lines
  if isClosed ∨ kept.length < lines.length then kept.reverse.flatMap (· ++ ['\n'])
  else text

/-- The text of a block scalar and the least indentation its lines were held to. A tab in a line
that is not indented enough is made part of the text, so that it is found to be wrong there. -/
def blockText (least : Nat) (explicit : Option Nat) (keep : Bool) (text : List Char) :
    List Char × Nat :=
  let (blank, indent) := leadingBlank 0 0 text
  let (length, least) :=
    if least ≤ indent then
      let least := match explicit with
        | none => indent
        | some n => n - 1 + max least 1
      (blank + scalarLines least true (text.drop blank), least)
    else (blank, least)
  let (spaces, after) := (text.drop length).span (· = ' ')
  if after.head? = some '\t' then
    let gap := after.takeWhile fun c => isGap (some c)
    (text.take (length + spaces.length + gap.length), least)
  else if keep then (text.take length, least)
  else (trimShallow indent (text.take length), least)

end BenchGate.Yaml
