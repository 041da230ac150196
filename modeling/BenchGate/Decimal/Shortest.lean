import BenchGate.Binary64

/-!
# The shortest decimal that reads back

A double stands for every real number that rounds to it. `Decimal.shortest` finds, among the
decimals of that interval, one with the fewest digits, and of those the nearest to the double
itself: it looks at one digit, then two, and so on, and on each of these grids only the two
neighbours of the double can be the nearest.
-/

namespace BenchGate

/-- The number `digits · 10 ^ scale`. -/
structure Decimal where
  digits : Nat
  scale : Int
deriving DecidableEq, Repr

namespace Decimal

/-- How many decimal digits a number is written with. -/
def width (n : Nat) : Nat := (Nat.toDigits 10 n).length

/-- The same number without the zeros at the end of its digits. -/
def trim (d : Decimal) : Decimal :=
  if h : d.digits ≠ 0 ∧ d.digits % 10 = 0 then trim ⟨d.digits / 10, d.scale + 1⟩ else d
termination_by d.digits
decreasing_by omega

/-- Whether `a / b ≤ n · 10 ^ scale`, in natural numbers. -/
def quotientLE (a b n : Nat) (scale : Int) : Bool :=
  a * Nat.pow 10 (-scale).toNat ≤ n * Nat.pow 10 scale.toNat * b

/-- Whether `n · 10 ^ scale ≤ a / b`, in natural numbers. -/
def leQuotient (a b n : Nat) (scale : Int) : Bool :=
  n * Nat.pow 10 scale.toNat * b ≤ a * Nat.pow 10 (-scale).toNat

/-- The real numbers that round to `mantissa · 2 ^ exponent`, in quarters of the last binary
place: from `low` to `high`, ends included exactly for an even mantissa, since a tie goes to the
even neighbour. The lower neighbour of a power of two is only half as far away. -/
structure Interval where
  low : Nat
  high : Nat
  unit : Nat × Nat
  closed : Bool

/-- The rounding interval of a positive double. -/
def Interval.around (mantissa : Nat) (exponent : Int) : Interval where
  low :=
    if mantissa = Nat.pow 2 52 ∧ exponent ≠ Binary64.leastExponent then 4 * mantissa - 1
    else 4 * mantissa - 2
  high := 4 * mantissa + 2
  unit := Binary64.quotient 1 (exponent - 2)
  closed := mantissa % 2 = 0

/-- Whether `n · 10 ^ scale` rounds to the double the interval belongs to. -/
def Interval.holds (i : Interval) (n : Nat) (scale : Int) : Bool :=
  if i.closed then
    quotientLE (i.low * i.unit.1) i.unit.2 n scale &&
      leQuotient (i.high * i.unit.1) i.unit.2 n scale
  else
    !leQuotient (i.low * i.unit.1) i.unit.2 n scale &&
      !quotientLE (i.high * i.unit.1) i.unit.2 n scale

/-- The exponent of the leading digit of `a / b`: `10 ^ e ≤ a / b < 10 ^ (e + 1)`. -/
def leadingExponent (a b : Nat) : Int :=
  let guess : Int := (width a : Int) - width b
  if leQuotient a b 1 guess then guess else guess - 1

/-- On the grid `10 ^ scale`, the neighbour of `a / b` that the interval holds; of two the nearer,
and at equal distance the even one. -/
def neighbour? (a b : Nat) (i : Interval) (scale : Int) : Option Nat :=
  let num := a * Nat.pow 10 (-scale).toNat
  let den := b * Nat.pow 10 scale.toNat
  let below := num / den
  let remainder := 2 * (num % den)
  match i.holds below scale, i.holds (below + 1) scale with
  | true, true =>
    if remainder < den ∨ (remainder = den ∧ below % 2 = 0) then some below else some (below + 1)
  | true, false => some below
  | false, true => some (below + 1)
  | false, false => none

/-- Seventeen digits tell any two doubles apart. -/
def mostDigits : Nat := 17

/-- The first grid with a hit, from `digits` digits on, `left` grids being still to try. -/
def search (a b : Nat) (i : Interval) (leading : Int) : (left digits : Nat) → Decimal
  | 0, digits => ⟨a / b, leading - digits⟩
  | left + 1, digits =>
    let scale := leading - digits
    match neighbour? a b i scale with
    | some n => ⟨n, scale⟩
    | none => search a b i leading left (digits + 1)

/-- The decimal with the fewest digits that rounds to `mantissa · 2 ^ exponent`, and the nearest
of those. -/
def shortest (mantissa : Nat) (exponent : Int) : Decimal :=
  if mantissa = 0 then ⟨0, 0⟩
  else
    let (a, b) := Binary64.quotient mantissa exponent
    (search a b (Interval.around mantissa exponent) (leadingExponent a b) mostDigits 0).trim

end Decimal

end BenchGate
