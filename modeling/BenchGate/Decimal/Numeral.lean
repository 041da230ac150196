import BenchGate.Decimal.Shortest

/-!
# Numbers in text

Two ways of writing a double. `numeral` is the shortest text that reads back, positional while
the number is neither very large nor very small. `fixed` has a given number of places after the
point and rounds the exact value, so that a half goes away from zero.
-/

namespace BenchGate

namespace Decimal

/-- From this place of the point on, a number is written with an exponent. -/
def positionalLimit : Int := 21

/-- A number below one is positional while at most this many places stand before its point's
right neighbour: `0.000001` is, `1e-7` is not. -/
def smallestPlace : Int := -6

/-- Digits as text, with zeros in front up to a width. -/
def padded (width n : Nat) : List Char :=
  let digits := Nat.toDigits 10 n
  List.replicate (width - digits.length) '0' ++ digits

/-- A decimal in positional or exponent notation. With `point` the place of the decimal point
counted from the first digit, a number is positional for `-6 < point ≤ 21`. -/
def layout (d : Decimal) : List Char :=
  let digits := Nat.toDigits 10 d.digits
  let point : Int := digits.length + d.scale
  if digits.length ≤ point ∧ point ≤ positionalLimit then
    digits ++ List.replicate d.scale.toNat '0'
  else if 0 < point ∧ point ≤ positionalLimit then
    digits.take point.toNat ++ '.' :: digits.drop point.toNat
  else if smallestPlace < point ∧ point ≤ 0 then
    '0' :: '.' :: List.replicate (-point).toNat '0' ++ digits
  else
    let exponent := point - 1
    let sign := if exponent < 0 then '-' else '+'
    let fraction := digits.drop 1
    digits.take 1 ++ (if fraction.isEmpty then [] else '.' :: fraction) ++
      'e' :: sign :: Nat.toDigits 10 exponent.natAbs

end Decimal

/-- The characters of a double: the shortest decimal that reads back. Zero has no sign. -/
def numeralChars (x : Float) : List Char :=
  match Binary64.ofFloat x with
  | .nan => "NaN".toList
  | .infinite negative => (if negative then ['-'] else []) ++ "Infinity".toList
  | .finite negative mantissa exponent =>
    (if negative ∧ mantissa ≠ 0 then ['-'] else []) ++
      (Decimal.shortest mantissa exponent).layout

/-- A double in the shortest text that reads back. -/
def numeral (x : Float) : String := .ofList (numeralChars x)

/-- The quotient `a / b` rounded to a whole number, a half going up. -/
def nearestWhole (a b : Nat) : Nat := (2 * a + b) / (2 * b)

/-- A double with `places` digits after the point: the exact value rounded, a half going away
from zero. A negative number keeps its sign even where all digits are zero, `-0` has none, and
from `10 ^ 21` on the shortest text is used. -/
def fixed (places : Nat) (x : Float) : String :=
  match Binary64.ofFloat x with
  | .finite negative mantissa exponent =>
    let (a, b) := Binary64.quotient mantissa exponent
    if Nat.pow 10 21 * b ≤ a then numeral x
    else
      let digits := Decimal.padded (places + 1) (nearestWhole (a * Nat.pow 10 places) b)
      let whole := digits.take (digits.length - places)
      let fraction := digits.drop (digits.length - places)
      .ofList ((if negative ∧ mantissa ≠ 0 then ['-'] else []) ++ whole ++
        (if places = 0 then [] else '.' :: fraction))
  | _ => numeral x

end BenchGate
