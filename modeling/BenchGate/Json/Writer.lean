import BenchGate.Decimal.Numeral
import BenchGate.Json.Document

/-!
# Writing JSON

A document is written on one line without blanks, or over several lines with an indentation.
Texts escape quotation marks, backslashes, control characters and surrogates without a partner, and
nothing else. Numbers are
the shortest that read back; the undefined number and the infinities, which JSON lacks, are
written as `null`.
-/

namespace BenchGate.Json

/-- On one line, or one member a line with `width` blanks for each level. -/
inductive Layout where
  | compact
  | indented (width : Nat)
deriving DecidableEq, Repr

namespace Layout

/-- What separates two parts of a list or record at a depth. -/
def lineBreak : Layout → Nat → List Char
  | compact, _ => []
  | indented width, depth => '\n' :: List.replicate (depth * width) ' '

/-- What stands between a name and its value. -/
def colon : Layout → List Char
  | compact => [':']
  | indented _ => [':', ' ']

end Layout

/-- A character inside a quoted text. -/
def escape (c : Char) : List Char :=
  if c = '"' then ['\\', '"']
  else if c = '\\' then ['\\', '\\']
  else if c = '\x08' then ['\\', 'b']
  else if c = '\t' then ['\\', 't']
  else if c = '\n' then ['\\', 'n']
  else if c = '\x0c' then ['\\', 'f']
  else if c = '\r' then ['\\', 'r']
  else if c.toNat < 0x20 then
    ['\\', 'u', '0', '0', Nat.digitChar (c.toNat / 16), Nat.digitChar (c.toNat % 16)]
  else [c]

/-- A unit written as an escape. -/
def escapeUnit (unit : UInt16) : List Char :=
  let n := unit.toNat
  ['\\', 'u', Nat.digitChar (n / 0x1000), Nat.digitChar (n / 0x100 % 0x10),
    Nat.digitChar (n / 0x10 % 0x10), Nat.digitChar (n % 0x10)]

/-- A quoted text. -/
def quoted (units : List UInt16) : List Char :=
  '"' :: (Utf16.pieces units).flatMap (Sum.elim escape escapeUnit) ++ ['"']

/-- A quotedName name. -/
def quotedName (name : String) : List Char := quoted (Utf16.units name)

/-- A number, or `null` where JSON has no number. -/
def number (x : Float) : List Char := if x.isFinite then numeralChars x else "null".toList

mutual

/-- A document at a depth of nesting. -/
def chars (layout : Layout) (depth : Nat) : Document → List Char
  | .null => "null".toList
  | .bool value => (if value then "true" else "false").toList
  | .number value => number value
  | .text units => quoted units
  | .list [] => ['[', ']']
  | .list (item :: items) =>
    '[' :: layout.lineBreak (depth + 1) ++ chars layout (depth + 1) item ++
      itemChars layout (depth + 1) items ++ layout.lineBreak depth ++ [']']
  | .record [] => ['{', '}']
  | .record ((name, value) :: members) =>
    '{' :: layout.lineBreak (depth + 1) ++ quotedName name ++ layout.colon ++
      chars layout (depth + 1) value ++ memberChars layout (depth + 1) members ++
      layout.lineBreak depth ++ ['}']
  | .other _ => ['{', '}']

/-- The items after the first, each after a comma. -/
def itemChars (layout : Layout) (depth : Nat) : List Document → List Char
  | [] => []
  | item :: items =>
    ',' :: layout.lineBreak depth ++ chars layout depth item ++ itemChars layout depth items

/-- The members after the first, each after a comma. -/
def memberChars (layout : Layout) (depth : Nat) : List (String × Document) → List Char
  | [] => []
  | (name, value) :: members =>
    ',' :: layout.lineBreak depth ++ quotedName name ++ layout.colon ++ chars layout depth value ++
      memberChars layout depth members

end

/-- The text of a document. -/
def write (layout : Layout) (document : Document) : String := .ofList (chars layout 0 document)

end BenchGate.Json
