import BenchGate.Decimal.Literal
import BenchGate.Json.Document
import BenchGate.Text.Hex

/-!
# Reading JSON

`Json.read?` reads one document with blanks around it. Blanks are space, tab, line feed and
carriage return only; a byte order mark is not one. A number has no sign but minus and no zeros
in front; its value is the nearest double. A text holds no control characters; its escapes give
any units. In the name of a member a surrogate without its partner is the replacement character.
-/

namespace BenchGate.Json

/-- What may stand between the parts of a document. -/
def isSpace (c : Char) : Bool := c = ' ' || c = '\t' || c = '\n' || c = '\r'

/-- The text without blanks in front. -/
def skip (text : List Char) : List Char := text.dropWhile isSpace

/-- The code unit of four hexadecimal digits. -/
def codeUnit? (a b c d : Char) : Option UInt16 := (Hex.natOf? [a, b, c, d]).map Nat.toUInt16

/-- The character of an escape of one letter. -/
def shortEscape? (c : Char) : Option Char :=
  match c with
  | '"' => some '"'
  | '\\' => some '\\'
  | '/' => some '/'
  | 'b' => some '\x08'
  | 'f' => some '\x0c'
  | 'n' => some '\n'
  | 'r' => some '\r'
  | 't' => some '\t'
  | _ => none

/-- Reads the units of a text up to its closing quotation mark; `done` is what was read, the last
unit first. -/
def readUnits? (done : List UInt16) : List Char → Option (List UInt16 × List Char)
  | [] => none
  | '"' :: rest => some (done.reverse, rest)
  | '\\' :: 'u' :: a :: b :: c :: d :: rest => do
    let unit ← codeUnit? a b c d
    readUnits? (unit :: done) rest
  | '\\' :: c :: rest =>
    match shortEscape? c with
    | some e => readUnits? ((Utf16.unitsOfChar e).reverse ++ done) rest
    | none => none
  | c :: rest =>
    if c.toNat < 0x20 ∨ c = '\\' then none
    else readUnits? ((Utf16.unitsOfChar c).reverse ++ done) rest

/-- Whether digits may stand before the point: one zero alone, or no zero in front. -/
def isWhole : List Char → Bool
  | ['0'] => true
  | c :: _ => c ≠ '0'
  | [] => false

/-- The characters a number can be made of. -/
def isNumberChar (c : Char) : Bool :=
  c.isDigit || c = '-' || c = '+' || c = '.' || c = 'e' || c = 'E'

/-- Whether a decimal literal is a JSON number: no plus in front, digits before a point without
a zero in front, and digits after it. -/
def isNumber (literal : List Char) : Bool :=
  let unsigned := if literal.head? = some '-' then literal.drop 1 else literal
  let (whole, rest) := unsigned.span Char.isDigit
  isWhole whole &&
    match rest with
    | '.' :: c :: _ => c.isDigit
    | ['.'] => false
    | _ => true

/-- Reads a number. -/
def readNumber? (text : List Char) : Option (Document × List Char) :=
  let (literal, rest) := text.span isNumberChar
  if isNumber literal then
    (Literal.ofChars? literal).map fun l => (.number l.toFloat, rest)
  else none

mutual

/-- Reads a value; `fuel` bounds the nesting. -/
def readValue? : (fuel : Nat) → List Char → Option (Document × List Char)
  | 0, _ => none
  | fuel + 1, text =>
    match skip text with
    | 'n' :: 'u' :: 'l' :: 'l' :: rest => some (.null, rest)
    | 't' :: 'r' :: 'u' :: 'e' :: rest => some (.bool true, rest)
    | 'f' :: 'a' :: 'l' :: 's' :: 'e' :: rest => some (.bool false, rest)
    | '"' :: rest => (readUnits? [] rest).map fun (units, rest) => (.text units, rest)
    | '[' :: rest =>
      match skip rest with
      | ']' :: rest => some (.list [], rest)
      | rest => (readItems? fuel [] rest).map fun (items, rest) => (.list items, rest)
    | '{' :: rest =>
      match skip rest with
      | '}' :: rest => some (.record [], rest)
      | rest => (readMembers? fuel [] rest).map fun (members, rest) => (.record members, rest)
    | rest => readNumber? rest

/-- Reads the items of a list up to its end; `done` holds those before, the last one first. -/
def readItems? : (fuel : Nat) → List Document → List Char → Option (List Document × List Char)
  | 0, _, _ => none
  | fuel + 1, done, text => do
    let (item, rest) ← readValue? fuel text
    match skip rest with
    | ',' :: rest => readItems? fuel (item :: done) rest
    | ']' :: rest => some ((item :: done).reverse, rest)
    | _ => none

/-- Reads the members of a record up to its end; `done` holds those before, the last one
first. -/
def readMembers? : (fuel : Nat) → List (String × Document) → List Char →
    Option (List (String × Document) × List Char)
  | 0, _, _ => none
  | fuel + 1, done, text =>
    match skip text with
    | '"' :: rest => do
      let (name, rest) ← readUnits? [] rest
      match skip rest with
      | ':' :: rest =>
        let (value, rest) ← readValue? fuel rest
        let members := (Utf16.decode name, value) :: done
        match skip rest with
        | ',' :: rest => readMembers? fuel members rest
        | '}' :: rest => some (members.reverse, rest)
        | _ => none
      | _ => none
    | _ => none

end

/-- Reads a document that fills the text. -/
def read? (text : String) : Option Document := do
  let (document, rest) ← readValue? (2 * text.length + 2) text.toList
  if (skip rest).isEmpty then some document else none

end BenchGate.Json
