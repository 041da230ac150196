import BenchGate.Yaml.Layout.Basic

/-!
# Properties of nodes

Before a node there may be a mark, an anchor, a tag, comments and blanks. `Properties.read?`
reads these tokens and refuses what may not stand there: two anchors or tags, properties before
the mark, a property or comment without a blank around it, and tabs where the text is indented.
-/

namespace BenchGate.Yaml

/-- Where properties stand: the mark that may be among them, whether they are inside a flow
collection, the column of the collection they are in, and whether a line begins with them. -/
structure Surroundings where
  mark : TokenKind
  inFlow : Bool := false
  outerIndent : Nat
  atLineStart : Bool

/-- What follows properties: a node of a certain shape or a token. -/
structure Follower where
  isFlow : Bool := false
  isBlock : Bool := false
  needsGap : Bool := true

namespace Follower

/-- A node that follows. An empty scalar may stand directly after a property. -/
def ofLayout (n : Layout) : Follower where
  isFlow := match n with | .flow .. => true | _ => false
  isBlock := n.isBlock
  needsGap := match n with | .scalar t _ => t.kind ≠ .plain || t.text ≠ [] | _ => true

/-- A token that follows. -/
def ofToken (t : Token) : Follower where
  needsGap := t.kind ≠ .space && t.kind ≠ .newline && t.kind ≠ .comma

/-- What follows the tokens before a key: the key, or the first token around the colon. -/
def ofItem (it : Item Layout) : Option Follower :=
  match it.key with
  | some key => some (ofLayout key)
  | none => (it.sep.bind List.head?).map ofToken

end Follower

/-- What stands before a node: the mark, the anchor, the tag and a comma, whether there is a line
break and whether one follows the anchor or tag, and where the properties begin. -/
structure Properties where
  mark : Option Token := none
  anchor : Option Token := none
  tag : Option Token := none
  hasComma : Bool := false
  hasBreak : Bool := false
  lastBreak : Option Nat := none
  start : Option Nat := none

/-- Reading properties: what was read and what the next token has to obey. -/
structure PropertyReader where
  read : Properties := {}
  atLineStart : Bool
  spaced : Bool
  needsGap : Bool := false
  tab : Option Token := none

namespace Properties

/-- Whether there is an anchor or a tag. -/
def any (p : Properties) : Bool := p.anchor.isSome || p.tag.isSome

/-- The anchor or tag that stands last. -/
def last? (p : Properties) : Option Token :=
  match p.anchor, p.tag with
  | some a, some t => some (if a.offset > t.offset then a else t)
  | some a, none => some a
  | none, tag => tag

end Properties

namespace PropertyReader

/-- Whether a token may stand after those before it. -/
def accepts (r : PropertyReader) (t : Token) : Bool :=
  (!r.needsGap || t.kind = .space || t.kind = .newline || t.kind = .comma) &&
    !(r.tab.isSome && r.atLineStart && t.kind ≠ .comment && t.kind ≠ .newline)

/-- Reads an anchor or a tag. -/
def property (r : PropertyReader) (t : Token) (read : Properties) : PropertyReader :=
  { r with
    read := { read with start := some (read.start.getD t.offset) }
    atLineStart := false
    spaced := false
    needsGap := true }

/-- Reads one token. -/
def push? (around : Surroundings) (next : Option Follower) (r : PropertyReader) (t : Token) :
    Option PropertyReader :=
  if !r.accepts t then none
  else
    let r := { r with needsGap := false, tab := none }
    match t.kind with
    | .space =>
      let countsTabs :=
        !around.inFlow && (around.mark ≠ .documentStart || !next.any Follower.isFlow)
      some { r with
        tab := if countsTabs ∧ '\t' ∈ t.text then some t else none
        spaced := true }
    | .comment => if r.spaced then some { r with atLineStart := false } else none
    | .newline =>
      some { r with
        read := { r.read with
          hasBreak := true
          lastBreak := if r.read.any then some t.offset else r.read.lastBreak }
        atLineStart := true
        spaced := true }
    | .anchor =>
      if r.read.anchor.isSome then none
      else some (r.property t { r.read with anchor := some t })
    | .tag =>
      if r.read.tag.isSome then none else some (r.property t { r.read with tag := some t })
    | kind =>
      if kind = around.mark then
        if r.read.any ∨ r.read.mark.isSome then none
        else
          some { r with
            read := { r.read with mark := some t }
            atLineStart := kind = .item || kind = .question
            spaced := false }
      else if kind = .comma ∧ around.inFlow then
        if r.read.hasComma then none
        else
          some { r with
            read := { r.read with hasComma := true }
            atLineStart := false
            spaced := false }
      else none

end PropertyReader

namespace Properties

/-- Reads the properties before what follows. Without an anchor or tag, they begin where they
end. -/
def read? (around : Surroundings) (next : Option Follower) (tokens : List Token) :
    Option Properties := do
  let r ← tokens.foldlM (PropertyReader.push? around next)
    { atLineStart := around.atLineStart, spaced := around.atLineStart }
  if r.needsGap ∧ next.any Follower.needsGap then none
  else if r.tab.any (fun tab => (r.atLineStart && tab.indent ≤ around.outerIndent) ||
      next.any Follower.isBlock) then none
  else
    return { r.read with
      start := r.read.start.or (tokens.getLast?.map fun t => t.offset + t.length) }

end Properties

end BenchGate.Yaml
