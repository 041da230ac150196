import BenchGate.Decimal.Numeral
import BenchGate.Yaml.Node

/-!
# Aliases

An alias stands for the last node before it that has its anchor, and for nothing if there is
none. `Node.datum?` gives the data of a node with all aliases replaced. Since a few aliases can
stand for a huge text, the number of their uses is limited: an anchored node with others inside
it weighs as much as these, and its weight times its uses has a limit.
-/

namespace BenchGate.Yaml

/-- An anchored node: its name, its data once it is complete, the kind of its data, how often it
is used, and what it weighs. `isLeafy` says whether it holds anything but aliases, and `inner`
are the anchored nodes that its aliases stand for. -/
structure Anchored where
  id : Nat
  name : String
  value : Option Datum := none
  kind : String
  uses : Nat := 1
  weight : Nat := 0
  isLeafy : Bool := true
  inner : List Nat := []

/-- What a node holds, for its weight. -/
structure Load where
  isLeafy : Bool := false
  inner : List Nat := []

/-- The load of two nodes. -/
def Load.add (a b : Load) : Load where
  isLeafy := a.isLeafy || b.isLeafy
  inner := a.inner ++ b.inner

/-- The anchored nodes before some place, the last one first. -/
abbrev Anchors := List Anchored

namespace Anchors

/-- Changes an anchored node. -/
def modify (anchors : Anchors) (id : Nat) (f : Anchored → Anchored) : Anchors :=
  anchors.map fun a => if a.id = id then f a else a

/-- What an anchored node weighs now. -/
def weigh (anchors : Anchors) (a : Anchored) : Nat :=
  (a.inner.filterMap fun id => (anchors.find? fun b => b.id = id).map fun b => b.uses * b.weight)
    |>.foldl max (if a.isLeafy then 1 else 0)

/-- The limit of a weight times the uses of its node. -/
def limit : Nat := 100

/-- Uses an anchored node: its data, or its kind if it is not complete. -/
def use? (anchors : Anchors) (name : String) : Option (Datum × Nat × Anchors) := do
  let a ← anchors.find? fun a => a.name = name
  let weight := if a.weight = 0 then anchors.weigh a else a.weight
  let uses := a.uses + 1
  if uses * weight > limit then none
  else
    return (a.value.getD (.other a.kind), a.id,
      anchors.modify a.id fun a => { a with uses, weight })

/-- Enters a node with an anchor, which is not complete yet. -/
def enter (anchors : Anchors) (anchor : Option String) (kind : String) : Anchors :=
  match anchor with
  | none => anchors
  | some name => { id := anchors.length, name, kind } :: anchors

/-- Completes a node that was entered when there were `id` anchored nodes. -/
def complete (anchors : Anchors) (id : Nat) (anchor : Option String) (value : Datum)
    (load : Load) : Anchors :=
  match anchor with
  | none => anchors
  | some _ =>
    anchors.modify id fun a =>
      { a with value := some value, isLeafy := load.isLeafy, inner := load.inner }

end Anchors

/-- The name that a key gives to a member; lists and records give none. -/
def keyName? : Datum → Option String
  | .null => some ""
  | .bool value => some (if value then "true" else "false")
  | .number value => some (numeral value)
  | .text value => some value
  | _ => none

/-- The members of a record. -/
def membersOf? : Datum → Option (List (String × Datum))
  | .record members => some members
  | _ => none

/-- The members of data that are taken over into a record. -/
def mergedMembers? : Datum → Option (List (String × Datum))
  | .list items => (items.mapM membersOf?).map List.flatten
  | d => membersOf? d

/-- Members with those taken over whose names are not yet there. -/
def takeOver (members more : List (String × Datum)) : List (String × Datum) :=
  more.foldl (fun members m =>
    if members.any fun n => n.1 = m.1 then members else members ++ [m]) members

namespace Node

mutual

/-- The data of a node, what it holds, and the anchored nodes up to its end. -/
def resolve? (anchors : Anchors) : Node → Option (Datum × Load × Anchors)
  | .scalar anchor value =>
    let load : Load := { isLeafy := true }
    let entered := anchors.enter anchor value.kindName
    some (value, load, entered.complete anchors.length anchor value load)
  | .alias name => do
    let (value, id, anchors) ← anchors.use? name
    return (value, { inner := [id] }, anchors)
  | .list anchor shape items => do
    let (values, load, after) ← resolveItems? (anchors.enter anchor "array") items
    let value := (shape.map Datum.other).getD (.list values)
    return (value, load, after.complete anchors.length anchor value load)
  | .record anchor shape pairs => do
    let (members, load, after) ←
      resolvePairs? (anchors.enter anchor (shape.getD "object")) [] pairs
    let value := (shape.map Datum.other).getD (.record members)
    return (value, load, after.complete anchors.length anchor value load)

/-- The data of the items of a list. -/
def resolveItems? (anchors : Anchors) :
    List Node → Option (List Datum × Load × Anchors)
  | [] => some ([], {}, anchors)
  | n :: rest => do
    let (value, load, anchors) ← resolve? anchors n
    let (values, more, anchors) ← resolveItems? anchors rest
    return (value :: values, load.add more, anchors)

/-- The members of a record after those before, the first one first. -/
def resolvePairs? (anchors : Anchors) (members : List (String × Datum)) :
    List (Node × Option Node) → Option (List (String × Datum) × Load × Anchors)
  | [] => some (members, {}, anchors)
  | (key, value) :: rest => do
    let (name, load, anchors) ← resolve? anchors key
    let (value, more, anchors) ← resolveValue? anchors value
    let members ←
      if key.isMerge then (mergedMembers? value).map (takeOver members)
      else
        match keyName? name with
        | some name => some (members ++ [(name, value)])
        | none => some members
    let (members, last, anchors) ← resolvePairs? anchors members rest
    return (members, (load.add more).add last, anchors)

/-- The data of a value, which is null if it is not there. -/
def resolveValue? (anchors : Anchors) :
    Option Node → Option (Datum × Load × Anchors)
  | none => some (.null, { isLeafy := true }, anchors)
  | some n => resolve? anchors n

end

/-- The data of a node with all aliases replaced. -/
def datum? (n : Node) : Option Datum :=
  (n.resolve? []).map Prod.fst

end Node

end BenchGate.Yaml
