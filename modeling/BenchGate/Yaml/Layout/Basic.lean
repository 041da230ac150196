import BenchGate.Yaml.Token.Basic

/-!
# Layout of YAML

The layout of a document is how its tokens nest: by indentation in blocks, by brackets in flow
collections. It keeps all tokens, since what stands between the values decides whether a document
is well-formed. While a layout grows, its items stand last first, and they stay so.
-/

namespace BenchGate.Yaml

/-- An item of a list or a record: the tokens before its key, the key, the tokens around the
colon, and the value. A list item has neither key nor colon. `isExplicit` says whether the key
has a question mark. -/
structure Item (α : Type) where
  start : List Token := []
  isExplicit : Bool := false
  key : Option α := none
  sep : Option (List Token) := none
  value : Option α := none

/-- A node with all its tokens. The tokens after a scalar, and those that close a flow collection
and follow it, are its `tail`. -/
inductive Layout where
  | scalar (token : Token) (tail : List Token)
  | blockScalar (header : Token) (gap : List Token) (text : List Char) (indent : Nat)
  | record (offset indent : Nat) (items : List (Item Layout))
  | list (offset indent : Nat) (items : List (Item Layout))
  | flow (opening : Token) (indent : Nat) (items : List (Item Layout)) (tail : List Token)

/-- A document: the tokens before its node, the node, and the tokens after it. -/
structure DocumentLayout where
  start : List Token := []
  root : Option Layout := none
  tail : List Token := []

namespace Layout

/-- The column of a node. -/
def indent : Layout → Nat
  | scalar token _ => token.indent
  | blockScalar _ _ _ indent => indent
  | record _ indent _ => indent
  | list _ indent _ => indent
  | flow _ indent _ _ => indent

/-- The offset of a node. -/
def offset : Layout → Nat
  | scalar token _ => token.offset
  | blockScalar header _ _ _ => header.offset
  | record offset _ _ => offset
  | list offset _ _ => offset
  | flow opening _ _ _ => opening.offset

/-- Whether a node is a collection in a block. -/
def isBlock : Layout → Bool
  | record .. => true
  | list .. => true
  | _ => false

/-- Whether a node is a record in a block. -/
def isBlockRecord : Layout → Bool
  | record .. => true
  | _ => false

/-- Whether a node is a list in a block. -/
def isBlockList : Layout → Bool
  | list .. => true
  | _ => false

/-- Whether a node is a scalar on its lines or a flow collection. -/
def isInline : Layout → Bool
  | scalar .. => true
  | flow .. => true
  | _ => false

/-- Adds tokens after a scalar or a flow collection. -/
def appendTail (more : List Token) : Layout → Layout
  | scalar token tail => scalar token (tail ++ more)
  | flow opening indent items tail => flow opening indent items (tail ++ more)
  | other => other

end Layout

/-! ## Tokens between values -/

/-- Whether there is a token of a kind. -/
def hasKind (kind : TokenKind) (tokens : List Token) : Bool := tokens.any fun t => t.kind = kind

/-- Whether a token begins what follows it anew. -/
def beginsProperties (t : Token) : Bool :=
  t.kind = .documentStart || t.kind = .question || t.kind = .colon || t.kind = .item ||
    t.kind = .newline

/-- Splits off the properties of the key that a colon follows: what stands after the last line
break or mark and its spaces. -/
def splitProperties (tokens : List Token) : List Token × List Token :=
  let (after, before) := tokens.reverse.span fun t => !beginsProperties t
  let (spaces, properties) := after.reverse.span fun t => t.kind = .space
  (before.reverse ++ spaces, properties)

end BenchGate.Yaml
