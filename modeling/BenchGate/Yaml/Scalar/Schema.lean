import BenchGate.Datum
import BenchGate.Decimal.Literal
import BenchGate.Text.Hex

/-!
# What scalars stand for

A plain scalar that looks like null, a truth value or a number is one; any other scalar is a
text. A tag asks for one kind; a scalar that does not look like that kind is a text too. The
current version of YAML knows few spellings, the one before it many more.
-/

namespace BenchGate.Yaml

/-- The version of YAML, which decides about the spellings of values. -/
inductive Version where
  | current
  | old
deriving DecidableEq

namespace Scalar

/-- A sign and what follows it; `true` is minus. -/
abbrev splitSign : List Char → Bool × List Char := Literal.splitSign

/-- Whether a text is one of several. -/
def isOneOf (texts : List String) (text : List Char) : Bool := .ofList text ∈ texts

/-- Whether a text is made of one character at least, all of one class. -/
def isRun (isMember : Char → Bool) (text : List Char) : Bool := text ≠ [] && text.all isMember

/-- A number read as a decimal literal. -/
def ofLiteral? (text : List Char) : Option Datum :=
  (Literal.ofChars? text).map fun l => .number l.toFloat

/-- A natural number with a sign. -/
def ofNat (negative : Bool) (n : Nat) : Datum :=
  .number (Literal.toFloat { negative, mantissa := n, exponent := 0 })

/-- Whether a character is an octal digit. -/
def isOctal (c : Char) : Bool := '0' ≤ c && c ≤ '7'

/-- A null: nothing, a tilde or the word. -/
def null? (text : List Char) : Option Datum :=
  if isOneOf ["", "~", "null", "Null", "NULL"] text then some .null else none

/-- An infinity or the undefined number. -/
def special? (text : List Char) : Option Datum :=
  let (negative, unsigned) := splitSign text
  if isOneOf [".inf", ".Inf", ".INF"] unsigned then
    some (.number (if negative then -infinity else infinity))
  else if isOneOf [".nan", ".NaN", ".NAN"] text then some (.number undefinedNumber)
  else none

/-! ## The current version -/

/-- A truth value. -/
def bool? (text : List Char) : Option Datum :=
  if isOneOf ["true", "True", "TRUE"] text then some (.bool true)
  else if isOneOf ["false", "False", "FALSE"] text then some (.bool false)
  else none

/-- An integer: decimal with a sign, octal after `0o`, or hexadecimal after `0x`. -/
def int? (text : List Char) : Option Datum :=
  match text with
  | '0' :: 'o' :: digits =>
    if isRun isOctal digits then some (ofNat false (Nat.ofDigitChars 8 digits 0)) else none
  | '0' :: 'x' :: digits => if digits = [] then none else (Hex.natOf? digits).map (ofNat false)
  | _ => if isRun Char.isDigit (splitSign text).2 then ofLiteral? text else none

/-- A number with a point or an exponent. -/
def float? (text : List Char) : Option Datum :=
  match special? text with
  | some d => some d
  | none => if (splitSign text).2.all Char.isDigit then none else ofLiteral? text

/-! ## The old version -/

/-- A truth value in the old version. -/
def oldBool? (text : List Char) : Option Datum :=
  if isOneOf ["Y", "y", "yes", "Yes", "YES", "true", "True", "TRUE", "on", "On", "ON"] text then
    some (.bool true)
  else if isOneOf ["N", "n", "no", "No", "NO", "false", "False", "FALSE", "off", "Off", "OFF"]
      text then some (.bool false)
  else none

/-- A text without underscores. -/
def withoutMarks (text : List Char) : List Char := text.filter (· ≠ '_')

/-- Digits of a base, between which underscores may stand. -/
def marked? (isDigit : Char → Bool) (base : Nat) (negative : Bool) (text : List Char) :
    Option Datum :=
  if isRun (fun c => isDigit c || c = '_') text then
    match withoutMarks text with
    | [] => some (.number undefinedNumber)
    | digits =>
      some (ofNat negative (digits.foldl (fun n c => base * n + (Hex.value? c).getD 0) 0))
  else none

/-- An integer in the old version: also binary after `0b`, octal after `0`. -/
def oldInt? (text : List Char) : Option Datum :=
  let (negative, unsigned) := splitSign text
  match unsigned with
  | '0' :: 'b' :: digits => marked? (fun c => c = '0' || c = '1') 2 negative digits
  | '0' :: 'x' :: digits => marked? (fun c => (Hex.value? c).isSome) 16 negative digits
  | '0' :: c :: rest =>
    match marked? isOctal 8 negative (c :: rest) with
    | some d => some d
    | none => marked? Char.isDigit 10 negative unsigned
  | c :: rest => if c.isDigit then marked? Char.isDigit 10 negative (c :: rest) else none
  | [] => none

/-- The value of groups of digits between colons, each sixty times the next. -/
def sexagesimal? (text : List Char) : Option Nat :=
  match text.splitOn ':' with
  | first :: second :: rest =>
    let isMinor (g : List Char) : Bool :=
      g.all Char.isDigit && (g.length = 1 || (g.length = 2 && g.head?.any (· ≤ '5')))
    if first.head?.any Char.isDigit ∧ first.all (fun c => c.isDigit || c = '_') ∧
        (second :: rest).all isMinor then
      some ((first :: second :: rest).foldl
        (fun n g => 60 * n + Literal.natOfDigits (withoutMarks g)) 0)
    else none
  | _ => none

/-- A number of hours, minutes and seconds in the old version. -/
def oldTime? (text : List Char) : Option Datum :=
  let (negative, unsigned) := splitSign text
  match unsigned.span (· ≠ '.') with
  | (whole, []) => (sexagesimal? whole).map (ofNat negative)
  | (whole, _ :: fraction) =>
    if fraction.all fun c => c.isDigit || c = '_' then
      (sexagesimal? whole).map fun n =>
        let digits := withoutMarks fraction
        .number (Literal.toFloat {
          negative
          mantissa := n * Nat.pow 10 digits.length + Literal.natOfDigits digits
          exponent := -digits.length })
    else none

/-- A number with a point or an exponent in the old version. -/
def oldFloat? (text : List Char) : Option Datum :=
  match special? text with
  | some d => some d
  | none =>
    let unsigned := (splitSign text).2
    let hasMark := unsigned.any fun c => c = '.' || c = 'e' || c = 'E'
    let begins := unsigned.head?.any fun c => c.isDigit || c = '.'
    if hasMark ∧ begins ∧ unsigned.all fun c =>
        c.isDigit || c = '_' || c = '.' || c = 'e' || c = 'E' || c = '+' || c = '-' then
      if withoutMarks unsigned = ['.'] then some (.number undefinedNumber)
      else ofLiteral? (withoutMarks text)
    else none

/-- Reads digits, at least `least` and at most `most` of them. -/
def digits? (least most : Nat) (text : List Char) : Option (List Char) :=
  let n := (text.takeWhile Char.isDigit).length
  if least ≤ n then some (text.drop (min n most)) else none

/-- The rest of a text after a character. -/
def after? (c : Char) (text : List Char) : Option (List Char) :=
  match text with
  | d :: rest => if c = d then some rest else none
  | [] => none

/-- Whether a text is a zone, or nothing. -/
def isZone (text : List Char) : Bool :=
  match text.dropWhile fun c => c = ' ' || c = '\t' with
  | [] => text.isEmpty
  | ['Z'] => true
  | sign :: rest =>
    (sign = '-' || sign = '+') &&
      match rest.span Char.isDigit with
      | ([_], more) | (['0', _], more) | (['1', _], more) | (['2', _], more) =>
        match more with
        | [] => true
        | [':', a, b] => a.isDigit && b.isDigit
        | _ => false
      | _ => false

/-- Whether a text is a date, perhaps with a time and a zone. -/
def isDate (text : List Char) : Bool :=
  let date : Option (List Char) := do
    let text ← digits? 4 4 text >>= after? '-' >>= digits? 1 2 >>= after? '-'
    digits? 1 2 text
  match date with
  | none => false
  | some [] => true
  | some (c :: rest) =>
    let time := (c :: rest).dropWhile fun c => c = ' ' || c = '\t'
    let clock := if c = 't' ∨ c = 'T' then some rest else if c = ' ' ∨ c = '\t' then some time
      else none
    let done : Option (List Char) := do
      let text ← clock >>= digits? 1 2 >>= after? ':' >>= digits? 1 2 >>= after? ':'
      let text ← digits? 1 2 text
      match text with
      | '.' :: d :: rest => if d.isDigit then some (rest.dropWhile Char.isDigit) else some text
      | _ => some text
    done.any isZone

/-- A date in the old version. -/
def date? (text : List Char) : Option Datum := if isDate text then some (.other "date") else none

/-! ## Any version -/

/-- What an untagged plain scalar stands for. -/
def plainValue (version : Version) (text : List Char) : Datum :=
  let readers := match version with
    | .current => [null?, bool?, int?, float?]
    | .old => [null?, oldBool?, oldInt?, oldFloat?, oldTime?, date?]
  (readers.findSome? fun read => read text).getD (.text (.ofList text))

/-- The beginning of the tags that YAML itself defines. -/
def tagPrefix : String := "tag:yaml.org,2002:"

/-- Whether a text holds bytes in base 64. -/
def isBase64 (text : List Char) : Bool :=
  let text := text.filter fun c => !(c = ' ' || c = '\t' || c = '\n' || c = '\r' || c = '\x0c')
  let digits := if text.length % 4 = 0 then
      match text.reverse with
      | '=' :: '=' :: rest => rest
      | '=' :: rest => rest
      | all => all
    else text
  digits.length % 4 ≠ 1 && digits.all fun c => c.isAlphanum || c = '+' || c = '/'

/-- The key that asks to take over members. -/
def mergeText : String := "<<"

/-- The kind of the value that such a key has. -/
def mergeKind : String := "symbol"

/-- What a scalar with a tag stands for, if it can. -/
def taggedValue? (version : Version) (tag : String) (text : List Char) : Option Datum :=
  let asText : Datum := .text (.ofList text)
  let readAs (readers : List (List Char → Option Datum)) : Option Datum :=
    some ((readers.findSome? fun read => read text).getD asText)
  let isOld := version = .old
  if tag = tagPrefix ++ "null" then readAs [null?]
  else if tag = tagPrefix ++ "bool" then readAs [if isOld then oldBool? else bool?]
  else if tag = tagPrefix ++ "int" then
    readAs (if isOld then [oldInt?, fun t => if '.' ∈ t then none else oldTime? t] else [int?])
  else if tag = tagPrefix ++ "float" then
    readAs (if isOld then [oldFloat?, fun t => if '.' ∈ t then oldTime? t else none] else [float?])
  else if tag = tagPrefix ++ "binary" then
    if isBase64 text then some (.other "object") else none
  else if tag = tagPrefix ++ "timestamp" then
    if isDate text then some (.other "date") else if isOld then some asText else none
  else if tag = tagPrefix ++ "merge" ∧ (!isOld ∨ .ofList text = mergeText) then
    some (.other mergeKind)
  else some asText

end Scalar

end BenchGate.Yaml
