import BenchGate.Yaml.Layout.Basic

/-!
# Building layouts

`Layout.ofTokens?` finds the layout of a sequence of tokens. A stack holds the nodes that are
still open, the innermost one on top. Each token is given to the top node, which takes it, opens
a node inside itself, or is closed so that the token goes to the node around it. Indentation
alone decides which block a token belongs to; whether the tokens of a node make sense together is
looked at later. A token that no node can take makes the sequence have no layout.
-/

namespace BenchGate.Yaml

/-- An open part of the text: a document, the line that ends one, or a node. -/
inductive Frame where
  | document (d : DocumentLayout)
  | ending (tail : List Token)
  | node (n : Layout)

/-- Whether a part is a flow collection. -/
def Frame.isFlow : Frame → Bool
  | .node (.flow ..) => true
  | _ => false

/-- A complete part of the text. -/
inductive Part where
  | directive (t : Token)
  | document (d : DocumentLayout)

/-- The open parts, the innermost one first, the complete ones, the last one first, and whether
the line holds a key already. -/
structure Builder where
  stack : List Frame := []
  parts : List Part := []
  onKeyLine : Bool := false

/-- What became of a token: it was taken, or the top was closed and the token is still to be
taken. -/
inductive Turn where
  | taken (b : Builder)
  | again (b : Builder)

/-! ## Closing nodes -/

/-- Whether tokens may follow the end of a document on its line: blanks, and a comment after
one. -/
def isLineRest (tokens : List Token) : Bool :=
  (tokens.foldl (fun (ok, spaced) t =>
    (ok && t.isBlank && (t.kind ≠ .comment || spaced), spaced || t.kind ≠ .comment))
    (true, false)).1

/-- In a flow list, what was read as a key without a colon is an item. -/
def unpair (it : Item Layout) : Item Layout :=
  match it.sep with
  | none => it
  | some sep =>
    if it.value.isNone ∧ !hasKind .question it.start ∧ !hasKind .colon sep then
      match it.key with
      | some key =>
        if key.isInline then { start := it.start, value := some (key.appendTail sep) }
        else { start := it.start ++ sep, value := some key }
      | none => { start := it.start ++ sep }
    else it

/-- A flow list with its items told from pairs. -/
def Layout.unpairItems : Layout → Layout
  | .flow opening indent items tail =>
    .flow opening indent (if opening.kind = .listOpen then items.map unpair else items) tail
  | other => other

/-- A node that is to be closed inside another part: a block scalar is as far indented as what it
is in, and a flow collection that is a document is not indented. -/
def Layout.settle (parent : Frame) : Layout → Layout
  | .blockScalar header gap text _ =>
    .blockScalar header gap text (match parent with | .node n => n.indent | _ => 0)
  | .flow opening indent items tail =>
    let indent := match parent with | .document _ => 0 | _ => indent
    (Layout.flow opening indent items tail).unpairItems
  | other => other

/-- Whether the last item of a block holds nothing but blanks that belong to what follows the
block. -/
def isTrailing (indent : Nat) (it : Item Layout) : Bool :=
  it.sep.isNone && it.value.isNone && !it.start.isEmpty && it.start.all Token.isBlank &&
    (indent = 0 || it.start.all fun t => t.kind ≠ .comment || t.indent < indent)

/-- A node without the blanks that belong to what follows it, and these. -/
def Layout.splitTrailing : Layout → Layout × List Token
  | .record offset indent (last :: items) =>
    if isTrailing indent last then (.record offset indent items, last.start)
    else (.record offset indent (last :: items), [])
  | .list offset indent (last :: items) =>
    if isTrailing indent last then (.list offset indent items, last.start)
    else (.list offset indent (last :: items), [])
  | other => (other, [])

/-- Items with blanks for the next one. -/
def pushBlanks (blanks : List Token) (items : List (Item Layout)) : List (Item Layout) :=
  if blanks.isEmpty then items else { start := blanks } :: items

/-- Puts a closed node into the part around it. The second component says whether the line now
holds a key, if that changes. -/
def attach? (n : Layout) : Frame → Option (Frame × Option Bool)
  | .document d =>
    let (n, blanks) := n.splitTrailing
    some (.document { d with root := some n, tail := d.tail ++ blanks }, none)
  | .node (.record offset indent (it :: items)) =>
    if it.value.isSome then
      some (.node (.record offset indent ({ key := some n, sep := some [] } :: it :: items)),
        some true)
    else if it.sep.isSome then
      let (n, blanks) := n.splitTrailing
      let items := pushBlanks blanks ({ it with value := some n } :: items)
      some (.node (.record offset indent items), none)
    else
      some (.node (.record offset indent ({ it with key := some n, sep := some [] } :: items)),
        some !it.isExplicit)
  | .node (.list offset indent (it :: items)) =>
    let (n, blanks) := n.splitTrailing
    let items :=
      if it.value.isSome then { value := some n } :: it :: items
      else { it with value := some n } :: items
    some (.node (.list offset indent (pushBlanks blanks items)), none)
  | .node (.flow opening indent items tail) =>
    let items := match items with
      | [] => [{ key := some n, sep := some [] }]
      | it :: items =>
        if it.value.isSome then { key := some n, sep := some [] } :: it :: items
        else if it.sep.isSome then { it with value := some n } :: items
        else { it with key := some n, sep := some [] } :: items
    some (.node (.flow opening indent items tail), none)
  | _ => none

namespace Builder

/-- Closes the top. -/
def pop? (b : Builder) : Option Builder :=
  match b.stack with
  | [.document d] => some { b with stack := [], parts := .document d :: b.parts }
  | [.ending tail] => if isLineRest tail then some { b with stack := [] } else none
  | .node n :: parent :: rest =>
    (attach? (n.settle parent) parent).map fun (parent, onKeyLine) =>
      { b with stack := parent :: rest, onKeyLine := onKeyLine.getD b.onKeyLine }
  | _ => none

/-- Closes everything; `fuel` bounds the number of open parts. -/
def popAll? : (fuel : Nat) → Builder → Option Builder
  | 0, b => if b.stack.isEmpty then some b else none
  | fuel + 1, b => if b.stack.isEmpty then some b else b.pop? >>= popAll? fuel

/-- Puts a part in the place of the top. -/
def replaceTop (b : Builder) (f : Frame) : Builder := { b with stack := f :: b.stack.drop 1 }

/-- Opens a part. -/
def push (b : Builder) (f : Frame) : Builder := { b with stack := f :: b.stack }

/-- Notes whether the line holds a key. -/
def keyLine (b : Builder) (value : Bool) : Builder := { b with onKeyLine := value }

/-- Closes the top, so that the part around it gets the token. -/
def leave? (b : Builder) : Option Turn := b.pop?.map .again

/-! ## Opening nodes -/

/-- Takes the properties that belong to a key about to begin from the part it is in. -/
def takeProperties : Frame → Frame × List Token
  | .document d =>
    let (start, taken) := splitProperties d.start
    (.document { d with start }, taken)
  | .node (.record offset indent (it :: items)) =>
    match it.sep with
    | some sep =>
      let (sep, taken) := splitProperties sep
      (.node (.record offset indent ({ it with sep := some sep } :: items)), taken)
    | none =>
      let (start, taken) := splitProperties it.start
      (.node (.record offset indent ({ it with start } :: items)), taken)
  | .node (.list offset indent (it :: items)) =>
    let (start, taken) := splitProperties it.start
    (.node (.list offset indent ({ it with start } :: items)), taken)
  | other => (other, [])

/-- The node that a token begins without needing properties. -/
def nodeOf? (t : Token) : Option Layout :=
  match t.kind with
  | .alias | .plain | .singleQuoted | .doubleQuoted => some (.scalar t [])
  | .blockHeader => some (.blockScalar t [] [] t.indent)
  | .recordOpen | .listOpen => some (.flow t t.indent [] [])
  | .item => some (.list t.offset t.indent [{ start := [t] }])
  | _ => none

/-- Opens the node that a token begins inside the top. -/
def open? (b : Builder) (t : Token) : Option Builder :=
  match nodeOf? t with
  | some n => some (b.push (.node n))
  | none =>
    match b.stack with
    | [] => none
    | top :: rest =>
      let (top, start) := takeProperties top
      let openRecord (it : Item Layout) : Builder :=
        { b with
          stack := .node (.record t.offset t.indent [it]) :: top :: rest
          onKeyLine := true }
      match t.kind with
      | .question => some (openRecord { start := start ++ [t], isExplicit := true })
      | .colon => some (openRecord { start, sep := some [t] })
      | _ => none

/-! ## Giving a token to the top -/

/-- The end of a line after a node that is complete but for what follows it on its line. `extend`
adds a token to it. -/
def lineEnd? (b : Builder) (extend : Token → Frame) (t : Token) : Option Turn :=
  match t.kind with
  | .comma | .documentStart | .documentEnd | .listClose | .recordClose | .colon => b.leave?
  | .newline => (((b.keyLine false).replaceTop (extend t)).pop?).map .taken
  | .space | .comment => some (.taken (b.replaceTop (extend t)))
  | _ => none

/-- A token after the start of a document. -/
def giveDocument? (b : Builder) (d : DocumentLayout) (t : Token) : Option Turn :=
  if d.root.isSome then b.lineEnd? (fun t => .document { d with tail := d.tail ++ [t] }) t
  else
    let extended := Turn.taken (b.replaceTop (.document { d with start := d.start ++ [t] }))
    match t.kind with
    | .documentStart => if d.start.all Token.isBlank then some extended else b.leave?
    | .anchor | .tag | .space | .comment | .newline => some extended
    | _ => (b.open? t).map .taken

/-- A token after a scalar. A colon makes the scalar the first key of a record. -/
def giveScalar? (b : Builder) (scalar : Token) (tail : List Token) (t : Token) : Option Turn :=
  match t.kind, b.stack with
  | .colon, _ :: parent :: rest =>
    let (parent, start) := takeProperties parent
    let it : Item Layout :=
      { start, key := some (.scalar scalar []), sep := some (tail ++ [t]) }
    some (.taken {
      b with
      stack := .node (.record scalar.offset scalar.indent [it]) :: parent :: rest
      onKeyLine := true })
  | _, _ => b.lineEnd? (fun t => .node (.scalar scalar (tail ++ [t]))) t

/-- A token after the header of a block scalar. -/
def giveBlockScalar? (b : Builder) (header : Token) (gap : List Token) (indent : Nat)
    (t : Token) : Option Turn :=
  match t.kind with
  | .space | .comment | .newline =>
    some (.taken (b.replaceTop (.node (.blockScalar header (gap ++ [t]) [] indent))))
  | .blockText => ((b.replaceTop (.node (.blockScalar header gap t.text indent))).pop?).map .taken
  | _ => none

/-- The positions of the line breaks after the last token of a separator that counts; comments
count if they are indented more than the record. -/
def trailingBreaks (indent : Nat) (sep : List Token) : List Nat :=
  sep.zipIdx.foldl (fun breaks (t, i) =>
    match t.kind with
    | .newline => breaks ++ [i]
    | .space => breaks
    | .comment => if t.indent > indent then [] else breaks
    | _ => []) []

/-- Of an item without a value, the blank lines before the next item, which belong to that. -/
def splitBlanks (indent : Nat) (it : Item Layout) : Item Layout × List Token :=
  match it.sep, it.value with
  | some sep, none =>
    match trailingBreaks indent sep with
    | _ :: second :: _ => ({ it with sep := some (sep.take second) }, sep.drop second)
    | _ => (it, [])
  | _, _ => (it, [])

/-- A blank in a record. -/
def blankInRecord (it : Item Layout) (items : List (Item Layout)) (t : Token) :
    List (Item Layout) :=
  if it.value.isSome then { start := [t] } :: it :: items
  else
    match it.sep with
    | some sep => { it with sep := some (sep ++ [t]) } :: items
    | none => { it with start := it.start ++ [t] } :: items

/-- A record as the top. -/
def withRecord (b : Builder) (offset indent : Nat) (items : List (Item Layout)) : Builder :=
  b.replaceTop (.node (.record offset indent items))

/-- A record opened by a mark inside a record. -/
def pushRecord (b : Builder) (t : Token) (it : Item Layout) : Builder :=
  b.push (.node (.record t.offset t.indent [it]))

/-- A colon in a record. `start` are the blanks before it that belong to a next item, and
`atNext` says whether one may begin here. -/
def colonInRecord (b : Builder) (offset indent : Nat) (it : Item Layout)
    (items : List (Item Layout)) (start : List Token) (atNext : Bool) (t : Token) : Builder :=
  let put (items : List (Item Layout)) : Builder := b.withRecord offset indent items
  match it.sep with
  | none =>
    if it.isExplicit ∧ !hasKind .newline it.start then
      let (before, start) := splitProperties it.start
      (put ({ it with start := before } :: items)).pushRecord t { start, sep := some [t] }
    else put ({ it with key := none, sep := some [t] } :: items)
  | some sep =>
    if it.isExplicit then
      if it.value.isSome then put ({ sep := some [t] } :: it :: items)
      else if hasKind .colon sep then
        (put (it :: items)).pushRecord t { start, sep := some [t] }
      else if it.key.any Layout.isInline ∧ !hasKind .newline sep then
        let (before, start) := splitProperties it.start
        (put ({ it with start := before, key := none, sep := none } :: items)).pushRecord t
          { start, key := it.key, sep := some (sep ++ [t]) }
      else put ({ it with sep := some (sep ++ start ++ [t]) } :: items)
    else if it.value.isSome ∨ atNext then put ({ start, sep := some [t] } :: it :: items)
    else if hasKind .colon sep then (put (it :: items)).pushRecord t { sep := some [t] }
    else put ({ it with sep := some (sep ++ [t]) } :: items)

/-- A token in a record that is indented enough for it. -/
def giveInside? (b : Builder) (offset indent : Nat) (it : Item Layout)
    (items : List (Item Layout)) (t : Token) : Option Turn :=
  let atIndent := !b.onKeyLine && t.indent = indent
  let atNext := atIndent && (it.sep.isSome || it.isExplicit) && t.kind ≠ .item
  let (it, start) := if atNext then splitBlanks indent it else (it, [])
  let put (items : List (Item Layout)) : Builder := b.withRecord offset indent items
  let begins := atNext || it.value.isSome
  match t.kind with
  | .anchor | .tag =>
    if begins then some (.taken ((put ({ start := start ++ [t] } :: it :: items)).keyLine true))
    else
      match it.sep with
      | some sep => some (.taken (put ({ it with sep := some (sep ++ [t]) } :: items)))
      | none => some (.taken (put ({ it with start := it.start ++ [t] } :: items)))
  | .question =>
    let b :=
      if it.sep.isNone ∧ !it.isExplicit then
        put ({ it with start := it.start ++ [t], isExplicit := true } :: items)
      else if begins then put ({ start := start ++ [t], isExplicit := true } :: it :: items)
      else (put (it :: items)).pushRecord t { start := [t], isExplicit := true }
    some (.taken (b.keyLine true))
  | .colon => some (.taken ((b.colonInRecord offset indent it items start atNext t).keyLine true))
  | .alias | .plain | .singleQuoted | .doubleQuoted =>
    let scalar : Layout := .scalar t []
    if begins then
      some (.taken ((put ({ start, key := some scalar, sep := some [] } :: it :: items)).keyLine
        true))
    else if it.sep.isSome then some (.taken ((put (it :: items)).push (.node scalar)))
    else
      some (.taken ((put ({ it with key := some scalar, sep := some [] } :: items)).keyLine true))
  | _ =>
    match nodeOf? t with
    | none => (put (it :: items)).leave?
    | some n =>
      if n.isBlockList then
        if !it.isExplicit ∧ it.sep.any (fun sep => !hasKind .newline sep) then none
        else some (.taken ((put (it :: items)).push (.node n)))
      else
        let items := if atIndent then { start } :: it :: items else it :: items
        some (.taken ((put items).push (.node n)))

/-- A token in a record. -/
def giveRecord? (b : Builder) (offset indent : Nat) (it : Item Layout)
    (items : List (Item Layout)) (t : Token) : Option Turn :=
  match t.kind with
  | .newline =>
    some (.taken ((b.withRecord offset indent (blankInRecord it items t)).keyLine false))
  | .space | .comment => some (.taken (b.withRecord offset indent (blankInRecord it items t)))
  | _ => if t.indent < indent then b.leave? else b.giveInside? offset indent it items t

/-- A token in a list. -/
def giveList? (b : Builder) (offset indent : Nat) (it : Item Layout)
    (items : List (Item Layout)) (t : Token) : Option Turn :=
  let put (items : List (Item Layout)) : Option Turn :=
    some (.taken (b.replaceTop (.node (.list offset indent items))))
  let extended := put ({ it with start := it.start ++ [t] } :: items)
  let next := put ({ start := [t] } :: it :: items)
  let other : Option Turn :=
    if t.indent > indent then
      match b.open? t with
      | some b => some (.taken b)
      | none => b.leave?
    else b.leave?
  match t.kind with
  | .newline | .space | .comment => if it.value.isSome then next else extended
  | .anchor | .tag => if it.value.isSome ∨ t.indent ≤ indent then other else extended
  | .item =>
    if t.indent ≠ indent then other
    else if it.value.isSome ∨ hasKind .item it.start then next
    else extended
  | _ => other

/-- The items of an open flow collection after a token, if they take it. -/
def flowItems? (items : List (Item Layout)) (t : Token) : Option (List (Item Layout)) :=
  match t.kind, items with
  | .comma, it :: rest | .question, it :: rest =>
    some (if it.sep.isSome then { start := [t] } :: it :: rest
      else { it with start := it.start ++ [t] } :: rest)
  | .comma, [] | .question, [] => some [{ start := [t] }]
  | .colon, it :: rest =>
    some (if it.value.isSome then { sep := some [t] } :: it :: rest
      else
        match it.sep with
        | some sep => { it with sep := some (sep ++ [t]) } :: rest
        | none => { it with key := none, sep := some [t] } :: rest)
  | .colon, [] => some [{ sep := some [t] }]
  | .space, it :: rest | .comment, it :: rest | .newline, it :: rest | .anchor, it :: rest
  | .tag, it :: rest =>
    some (if it.value.isSome then { start := [t] } :: it :: rest
      else
        match it.sep with
        | some sep => { it with sep := some (sep ++ [t]) } :: rest
        | none => { it with start := it.start ++ [t] } :: rest)
  | .space, [] | .comment, [] | .newline, [] | .anchor, [] | .tag, [] => some [{ start := [t] }]
  | _, _ => none

/-- A token in a flow collection that is not closed. -/
def giveOpenFlow? (b : Builder) (opening : Token) (indent : Nat) (items : List (Item Layout))
    (t : Token) : Option Turn :=
  let put (items : List (Item Layout)) : Builder :=
    b.replaceTop (.node (.flow opening indent items []))
  match flowItems? items t with
  | some items => some (.taken (put items))
  | none =>
    match t.kind with
    | .recordClose | .listClose =>
      some (.taken (b.replaceTop (.node (.flow opening indent items [t]))))
    | .alias | .plain | .singleQuoted | .doubleQuoted =>
      let scalar : Layout := .scalar t []
      match items with
      | [] => some (.taken (put [{ key := some scalar, sep := some [] }]))
      | it :: rest =>
        if it.value.isSome then
          some (.taken (put ({ key := some scalar, sep := some [] } :: it :: rest)))
        else if it.sep.isSome then some (.taken (b.push (.node scalar)))
        else some (.taken (put ({ it with key := some scalar, sep := some [] } :: rest)))
    | _ =>
      match b.open? t with
      | some b => some (.taken b)
      | none => b.leave?

/-- Whether a closed flow collection becomes a key of the record around it by a token. -/
def isKeyOf (parent : Frame) (indent : Nat) (t : Token) : Bool :=
  match parent with
  | .node (.record _ outer (it :: _)) =>
    (t.kind = .colon && outer = indent) || (t.kind = .newline && it.sep.isNone)
  | _ => false

/-- A token after a closed flow collection. A colon makes it a key, unless it is in another
one. -/
def giveClosedFlow? (b : Builder) (opening : Token) (indent : Nat) (items : List (Item Layout))
    (tail : List Token) (t : Token) : Option Turn :=
  match b.stack with
  | _ :: parent :: rest =>
    if isKeyOf parent indent t then b.leave?
    else if t.kind = .colon ∧ !parent.isFlow then
      let (parent, start) := takeProperties parent
      let key := (Layout.flow opening indent items (tail.take 1)).unpairItems
      let it : Item Layout := { start, key := some key, sep := some (tail.drop 1 ++ [t]) }
      some (.taken {
        b with
        stack := .node (.record opening.offset indent [it]) :: parent :: rest
        onKeyLine := true })
    else b.lineEnd? (fun t => .node (.flow opening indent items (tail ++ [t]))) t
  | _ => none

/-- A token between documents. -/
def giveStream? (b : Builder) (t : Token) : Option Turn :=
  match t.kind with
  | .directive => some (.taken { b with parts := .directive t :: b.parts })
  | .byteOrderMark | .space | .comment | .newline => some (.taken b)
  | .documentMode => some (.taken (b.push (.document {})))
  | .documentStart => some (.taken (b.push (.document { start := [t] })))
  | _ => none

/-- A token after the end of a document, on its line. -/
def giveEnding? (b : Builder) (tail : List Token) (t : Token) : Option Turn :=
  match t.kind with
  | .documentMode => some (.taken b)
  | .newline => (b.pop?).map .taken
  | _ => some (.taken (b.replaceTop (.ending (tail ++ [t]))))

/-- Gives a token to the top. -/
def give? (b : Builder) (t : Token) : Option Turn :=
  match b.stack with
  | [] => b.giveStream? t
  | .ending tail :: _ => b.giveEnding? tail t
  | .document d :: _ => b.giveDocument? d t
  | .node (.scalar scalar tail) :: _ => b.giveScalar? scalar tail t
  | .node (.blockScalar header gap _ indent) :: _ => b.giveBlockScalar? header gap indent t
  | .node (.record offset indent (it :: items)) :: _ => b.giveRecord? offset indent it items t
  | .node (.list offset indent (it :: items)) :: _ => b.giveList? offset indent it items t
  | .node (.flow opening indent items []) :: _ => b.giveOpenFlow? opening indent items t
  | .node (.flow opening indent items tail) :: _ => b.giveClosedFlow? opening indent items tail t
  | _ => none

/-- Gives a token to the parts from the top on until one takes it; `fuel` bounds their number. -/
def settle? : (fuel : Nat) → Builder → Token → Option Builder
  | 0, _, _ => none
  | fuel + 1, b, t =>
    match b.give? t with
    | none => none
    | some (.taken b) => some b
    | some (.again b) => settle? fuel b t

/-- Whether the top is the end of a document. -/
def isEnding (b : Builder) : Bool :=
  match b.stack with
  | .ending _ :: _ => true
  | _ => false

/-- One more token. -/
def push? (b : Builder) (t : Token) : Option Builder :=
  if t.kind = .documentEnd ∧ !b.isEnding then
    (b.popAll? b.stack.length).map fun b => b.push (.ending [])
  else b.settle? (b.stack.length + 1) t

end Builder

/-- The parts of a text, in order. -/
def Layout.ofTokens? (tokens : List Token) : Option (List Part) := do
  let b ← tokens.foldlM Builder.push? {}
  let b ← b.popAll? b.stack.length
  return b.parts.reverse

end BenchGate.Yaml
