import BenchGate.Binary64

/-!
# Decimal literals

A decimal literal is an optional sign, digits with an optional point (at least one digit on one
side of it), and an optional exponent. `Literal.ofChars?` reads one that fills its text, and
`Literal.toFloat` is the double nearest to its value, ties going to the even neighbour.
-/

namespace BenchGate

/-- The number `± mantissa · 10 ^ exponent`. -/
structure Literal where
  negative : Bool
  mantissa : Nat
  exponent : Int
deriving DecidableEq, Repr

namespace Literal

/-- The value of a run of decimal digits, the first being the highest. -/
abbrev natOfDigits (digits : List Char) : Nat := Nat.ofDigitChars 10 digits 0

/-- An optional sign and what follows it; `true` is minus. -/
def splitSign : List Char → Bool × List Char
  | '-' :: rest => (true, rest)
  | '+' :: rest => (false, rest)
  | rest => (false, rest)

/-- The value of an exponent part that fills the text; no text is exponent zero. -/
def exponentOf? : List Char → Option Int
  | [] => some 0
  | c :: rest =>
    if c = 'e' ∨ c = 'E' then
      let (negative, digits) := splitSign rest
      if digits ≠ [] ∧ digits.all Char.isDigit then
        some (if negative then -(natOfDigits digits : Int) else natOfDigits digits)
      else none
    else none

/-- The digits after a point, if there is one, and what follows them. -/
def splitFraction : List Char → List Char × List Char
  | '.' :: rest => rest.span Char.isDigit
  | rest => ([], rest)

/-- Reads a literal that fills the text. -/
def ofChars? (text : List Char) : Option Literal :=
  let (negative, unsigned) := splitSign text
  let (whole, afterWhole) := unsigned.span Char.isDigit
  let (fraction, afterFraction) := splitFraction afterWhole
  if whole = [] ∧ fraction = [] then none
  else
    (exponentOf? afterFraction).map fun exponent =>
      { negative, mantissa := natOfDigits (whole ++ fraction),
        exponent := exponent - fraction.length }

/-- The double nearest to the literal. -/
def toFloat (l : Literal) : Float :=
  let magnitude := Float.ofScientific l.mantissa (l.exponent < 0) l.exponent.natAbs
  if l.negative then -magnitude else magnitude

end Literal

end BenchGate
