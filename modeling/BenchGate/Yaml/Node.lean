import BenchGate.Text.Percent
import BenchGate.Yaml.Layout.Builder
import BenchGate.Yaml.Properties
import BenchGate.Yaml.Scalar.Block
import BenchGate.Yaml.Scalar.Quoted
import BenchGate.Yaml.Scalar.Schema

/-!
# Nodes

A node is what a layout means: a scalar's value, a list, a record or the name of another node.
`Layout.node?` gives the node of a layout, if the layout is well-formed: keys stand on one line
and in one column, items are separated, brackets match, tags can be resolved, and no record has
two equal scalar keys. Names are not yet replaced by what they stand for.
-/

namespace BenchGate.Yaml

/-- A value with its anchor. Pairs without a value have none. `shape` is the kind of a collection
that is neither a list nor a record of texts. -/
inductive Node where
  | scalar (anchor : Option String) (value : Datum)
  | alias (name : String)
  | list (anchor : Option String) (shape : Option String) (items : List Node)
  | record (anchor : Option String) (shape : Option String) (pairs : List (Node × Option Node))
deriving Inhabited

/-- What the directives of a document say. -/
structure Directives where
  version : Version := .current
  handles : List (String × String) := [("!!", Scalar.tagPrefix)]

/-! ## Tags -/

namespace Directives

/-- The text that percent-encoded characters stand for, if it is one. -/
def decodeSuffix? (suffix : List Char) : Option String :=
  let bytes := Percent.decodeBytes suffix
  let text := Utf8.decode bytes
  if Utf8.encode text = bytes then some text else none

/-- The full name of a tag; `!` alone is no name but asks for a text or a plain collection. -/
def tagName? (d : Directives) (tag : Token) : Option String :=
  match tag.text with
  | ['!'] => some "!"
  | '!' :: '<' :: rest =>
    if rest.getLast? = some '>' ∧ rest ≠ ['!', '>'] ∧ rest ≠ ['!', '!', '>'] then
      some (.ofList rest.dropLast)
    else none
  | text =>
    let (suffix, handle) := text.reverse.span (· ≠ '!')
    let handle := String.ofList handle.reverse
    if suffix = [] then none
    else
      match (d.handles.reverse.find? fun h => h.1 = handle).map Prod.snd with
      | some begins => (decodeSuffix? suffix.reverse).map (begins ++ ·)
      | none => if handle = "!" then some (.ofList text) else none

end Directives

/-! ## Scalars -/

/-- The anchor of properties; it cannot be empty. -/
def Properties.anchorName? (p : Properties) : Option (Option String) :=
  match p.anchor with
  | none => some none
  | some t => if t.text.length ≤ 1 then none else some (some (.ofList (t.text.drop 1)))

/-- The value of a scalar with a tag or, if it is plain, by its looks. -/
def Properties.value? (p : Properties) (d : Directives) (isPlain : Bool) (text : List Char) :
    Option Datum :=
  match p.tag with
  | none => some (if isPlain then Scalar.plainValue d.version text else .text (.ofList text))
  | some tag => do
    let name ← d.tagName? tag
    if name = "!" then return .text (.ofList text) else Scalar.taggedValue? d.version name text

/-- The node of a scalar. -/
def Properties.scalar? (p : Properties) (d : Directives) (isPlain : Bool) (text : List Char) :
    Option Node := do
  return .scalar (← p.anchorName?) (← p.value? d isPlain text)

/-- The node where nothing stands. -/
def Properties.empty? (p : Properties) (d : Directives) : Option Node := p.scalar? d true []

/-- The node of a scalar token. -/
def Token.node? (t : Token) (p : Properties) (d : Directives) : Option Node :=
  match t.kind with
  | .alias =>
    if p.any ∨ t.text.length ≤ 1 then none else some (.alias (.ofList (t.text.drop 1)))
  | .plain => Scalar.plain? t.text >>= p.scalar? d true
  | .singleQuoted => p.scalar? d false (Scalar.single t.text)
  | .doubleQuoted => Scalar.double? t.text >>= p.scalar? d false
  | _ => none

/-- Whether a comment after a block scalar's header has a space before it. -/
def isHeaderRest (gap : List Token) : Bool :=
  (gap.takeWhile fun t => t.kind ≠ .comment).any (fun t => t.kind = .space) ||
    !hasKind .comment gap

/-! ## Keys -/

namespace Node

/-- Whether two nodes are scalars of equal value; the undefined number equals nothing. -/
def isSameScalar : Node → Node → Bool
  | .scalar _ a, .scalar _ b =>
    match a, b with
    | .null, .null => true
    | .bool a, .bool b => a = b
    | .number a, .number b => a == b
    | .text a, .text b => a = b
    | _, _ => false
  | _, _ => false

/-- Whether a key asks to take over the members of its value. -/
def isMerge : Node → Bool
  | .scalar _ (.other kind) => kind = Scalar.mergeKind
  | _ => false

/-- Whether no two keys are equal. -/
def areDistinct : List (Node × Option Node) → Bool
  | [] => true
  | (key, _) :: rest => rest.all (fun pair => !key.isSameScalar pair.1) && areDistinct rest

end Node

/-- Whether there is a line break in a key; `fuel` bounds its depth. -/
def Layout.hasBreak : (fuel : Nat) → Layout → Bool
  | 0, _ => true
  | _ + 1, .scalar t tail => t.text.contains '\n' || hasKind .newline tail
  | fuel + 1, .flow _ _ items _ => items.any fun it =>
    hasKind .newline it.start || it.sep.any (hasKind .newline) ||
      it.key.any (hasBreak fuel) || it.value.any (hasBreak fuel)
  | _, _ => true

/-- The greatest distance from the start of a key to its colon. -/
def longestKey : Nat := 1024

/-- Whether a colon is too far from the start of its key. -/
def isFar (start : Option Nat) (key : Option Layout) (colon : Token) : Bool :=
  let start := start.getD ((key.map Layout.offset).getD colon.offset)
  start + longestKey < colon.offset

/-! ## Collections -/

/-- What a tag makes of a collection. -/
inductive Shape where
  | plain
  | set
  | orderedRecord
  | pairs
deriving DecidableEq

/-- The shape that the tag of properties asks for; unknown tags and those for other collections
ask for nothing. -/
def Properties.shape? (p : Properties) (d : Directives) (isRecord : Bool) : Option Shape :=
  match p.tag with
  | none => some .plain
  | some tag => do
    let name ← d.tagName? tag
    return if isRecord then if name = Scalar.tagPrefix ++ "set" then .set else .plain
      else if name = Scalar.tagPrefix ++ "omap" then .orderedRecord
      else if name = Scalar.tagPrefix ++ "pairs" then .pairs
      else .plain

namespace Node

/-- Whether a node is null or not there. -/
def isNull : Option Node → Bool
  | none => true
  | some (.scalar _ .null) => true
  | _ => false

/-- A record of a shape: the values of a set are null. -/
def ofPairs? (p : Properties) (d : Directives) (pairs : List (Node × Option Node)) :
    Option Node := do
  let anchor ← p.anchorName?
  if areDistinct pairs then
    match ← p.shape? d true with
    | .set =>
      if pairs.all fun pair => isNull pair.2 then some (.record anchor (some "set") pairs)
      else none
    | _ => some (.record anchor none pairs)
  else none

/-- The pair that an item of an ordered record is: a record of at most one member, or the key of
nothing. -/
def pair? : Node → Option (Node × Option Node)
  | .record _ _ [] => some (.scalar none .null, none)
  | .record _ _ [pair] => some pair
  | .record _ _ _ => none
  | key => some (key, none)

/-- A list of a shape. -/
def ofItems? (p : Properties) (d : Directives) (items : List Node) : Option Node := do
  let anchor ← p.anchorName?
  match ← p.shape? d false with
  | .orderedRecord =>
    let pairs ← items.mapM pair?
    if areDistinct pairs then some (.record anchor (some "map") pairs) else none
  | .pairs =>
    let pairs ← items.mapM pair?
    some (.list anchor none (pairs.map fun pair => .record none none [pair]))
  | _ => some (.list anchor none items)

end Node

/-- How a layout's parts become nodes: the node of a layout with its properties. -/
abbrev Compose := Properties → Layout → Option Node

/-- The node of a part that may be missing. -/
def nodeOrEmpty? (d : Directives) (compose : Compose) (p : Properties) :
    Option Layout → Option Node
  | some n => compose p n
  | none => p.empty? d

/-- The node of a key. In the old version, a plain `<<` asks to take over members. -/
def keyNode? (d : Directives) (compose : Compose) (p : Properties) (key : Option Layout) :
    Option Node := do
  match key, ← nodeOrEmpty? d compose p key with
  | some (.scalar t _), .scalar anchor (.text name) =>
    if d.version = .old ∧ t.kind = .plain ∧ p.tag.isNone ∧ name = Scalar.mergeText then
      return .scalar anchor (.other Scalar.mergeKind)
    else return .scalar anchor (.text name)
  | _, node => return node

/-- The pair of an item of a block record, if the item is not empty. -/
def blockPair? (d : Directives) (compose : Compose) (fuel indent : Nat) (it : Item Layout) :
    Option (Option (Node × Option Node)) := do
  let p ← Properties.read? { mark := .question, outerIndent := indent, atLineStart := true }
    (Follower.ofItem it) it.start
  match p.mark with
  | some mark => if mark.indent ≠ indent then none
  | none => if it.key.any fun key => key.isBlockList || key.indent ≠ indent then none
  let isImplicit := p.mark.isNone
  if isImplicit ∧ !p.any ∧ it.sep.isNone then return none
  else
    if isImplicit ∧ (p.lastBreak.isSome ∨ it.key.any (Layout.hasBreak fuel)) then none
    let key ← keyNode? d compose p it.key
    let isBlockKey := match it.key with | some (.blockScalar ..) => true | _ => false
    let q ← Properties.read?
      { mark := .colon, outerIndent := indent, atLineStart := it.key.isNone || isBlockKey }
      (it.value.map Follower.ofLayout) (it.sep.getD [])
    match q.mark with
    | none => if isImplicit then none else return some (key, none)
    | some colon =>
      if isImplicit ∧ ((it.value.any Layout.isBlockRecord ∧ !q.hasBreak) ∨
          isFar p.start it.key colon) then none
      let value ← nodeOrEmpty? d compose q it.value
      return some (key, some value)

/-- The node of an item of a block list, if the item is not empty. -/
def blockItem? (d : Directives) (compose : Compose) (indent : Nat) (it : Item Layout) :
    Option (Option Node) := do
  let p ← Properties.read? { mark := .item, outerIndent := indent, atLineStart := true }
    (it.value.map Follower.ofLayout) it.start
  if p.mark.isNone then if p.any ∨ it.value.isSome then none else return none
  else
    let node ← nodeOrEmpty? d compose p it.value
    return some node

/-- Whether an item of a flow collection may stand where it does: a comma before it unless it is
the first. -/
def isSeparated (isFirst : Bool) (p : Properties) : Bool := p.hasComma = !isFirst

/-- The pair of an item of a flow collection that has a key or a value after a colon. -/
def flowPair? (d : Directives) (compose : Compose) (isRecord : Bool) (indent : Nat)
    (p : Properties) (it : Item Layout) : Option (Node × Option Node) := do
  let key ← keyNode? d compose p it.key
  let q ← Properties.read?
    { mark := .colon, inFlow := true, outerIndent := indent, atLineStart := false }
    (it.value.map Follower.ofLayout) (it.sep.getD [])
  if it.key.any Layout.isBlock ∨ it.value.any Layout.isBlock then none
  match q.mark with
  | none => if it.value.isSome then none else return (key, none)
  | some colon =>
    let isImplicit := !isRecord && p.mark.isNone
    let before := (it.sep.getD []).takeWhile fun t => t.kind ≠ .colon
    if isImplicit ∧ (hasKind .newline before ∨ isFar p.start it.key colon) then none
    let value ← nodeOrEmpty? d compose q it.value
    return (key, some value)

/-- What an item of a flow collection is: a pair, or in a list a single node. -/
inductive FlowItem where
  | single (n : Node)
  | pair (p : Node × Option Node)

/-- The item of a flow collection, if it is not empty. Only the last item may be empty. -/
def flowItem? (d : Directives) (compose : Compose) (fuel : Nat) (isRecord : Bool) (indent : Nat)
    (isFirst isLast : Bool) (it : Item Layout) : Option (Option FlowItem) := do
  let p ← Properties.read?
    { mark := .question, inFlow := true, outerIndent := indent, atLineStart := false }
    (Follower.ofItem it) it.start
  if p.mark.isNone ∧ !p.any ∧ it.sep.isNone ∧ it.value.isNone then
    if (isFirst ∧ p.hasComma) ∨ !isLast then none else return none
  else if p.mark.isNone ∧ !isRecord ∧ it.key.any (Layout.hasBreak fuel) then none
  else if !isSeparated isFirst p then none
  else if !isRecord ∧ it.sep.isNone ∧ p.mark.isNone then
    if it.value.any Layout.isBlock then none
    else
      let node ← nodeOrEmpty? d compose p it.value
      return some (.single node)
  else
    let pair ← flowPair? d compose isRecord indent p it
    return some (.pair pair)

/-- The items of a flow collection. -/
def flowItems? (d : Directives) (compose : Compose) (fuel : Nat) (isRecord : Bool)
    (indent : Nat) (items : List (Item Layout)) : Option (List FlowItem) := do
  let found ← items.zipIdx.mapM fun (it, i) =>
    flowItem? d compose fuel isRecord indent (i = 0) (i + 1 = items.length) it
  return found.filterMap id

/-- Whether the tokens that close a flow collection do: the right bracket comes first. -/
def closes (opening : Token) (tail : List Token) : Bool :=
  match tail with
  | closing :: rest =>
    closing.kind = (if opening.kind = .recordOpen then .recordClose else .listClose) &&
      isLineRest rest
  | [] => false

/-- Whether a block list stands on a line of its own after an anchor or a tag. -/
def Properties.isOnOwnLine (p : Properties) : Bool :=
  match p.last?, p.lastBreak with
  | none, _ => true
  | some t, some offset => t.offset ≤ offset
  | some _, none => false

/-- The node of a layout with its properties; `fuel` bounds its depth. Only the root of a
document can be a block scalar that is not indented. -/
def Layout.node? (d : Directives) : (fuel : Nat) → (isRoot : Bool) → Compose
  | 0, _, _, _ => none
  | fuel + 1, isRoot, p, n =>
    let compose := node? d fuel false
    match n with
    | .scalar t tail => if isLineRest tail then t.node? p d else none
    | .blockScalar header gap text indent => do
      let h ← Scalar.Header.ofChars? header.text
      if isHeaderRest gap then Scalar.block? h isRoot indent text >>= p.scalar? d false else none
    | .record _ indent items => do
      let pairs ← items.reverse.mapM (blockPair? d compose (fuel + 1) indent)
      Node.ofPairs? p d (pairs.filterMap id)
    | .list _ indent items => do
      if !p.isOnOwnLine then none
      let nodes ← items.reverse.mapM (blockItem? d compose indent)
      Node.ofItems? p d (nodes.filterMap id)
    | .flow opening indent items tail => do
      let isRecord := opening.kind = .recordOpen
      let found ← flowItems? d compose (fuel + 1) isRecord indent items.reverse
      if !closes opening tail then none
      else if isRecord then
        Node.ofPairs? p d (found.filterMap fun | .pair pair => some pair | _ => none)
      else
        Node.ofItems? p d (found.map fun
          | .single n => n
          | .pair pair => .record none none [pair])

end BenchGate.Yaml
