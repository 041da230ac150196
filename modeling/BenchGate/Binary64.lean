/-!
# Doubles by their exact value

Every number of a run is a double. `Binary64.ofFloat` says which one: no number at all, an
infinity, or `± mantissa · 2 ^ exponent` with both parts exact. Writing a double in decimal,
rounding it to a whole number and reading its sign all go through this view, so that what is
printed is decided by integers. `Float.least` and `Float.greatest` are the two extremes that
samples and summaries are built from.
-/

namespace BenchGate

/-- What a double stands for. A finite one is `± mantissa · 2 ^ exponent`; both zeros have
mantissa `0`. -/
inductive Binary64 where
  | nan
  | infinite (negative : Bool)
  | finite (negative : Bool) (mantissa : Nat) (exponent : Int)
deriving DecidableEq, Repr

namespace Binary64

/-- The least exponent of a double: subnormal numbers and zero are multiples of `2 ^ -1074`. -/
def leastExponent : Int := -1074

/-- The exact value of a double. -/
def ofFloat (x : Float) : Binary64 :=
  match x.toModel.unpack with
  | .notANumber => .nan
  | .infinity sign => .infinite (sign matches .negative)
  | .zero sign => .finite (sign matches .negative) 0 leastExponent
  | .finite sign mantissa exponent _ => .finite (sign matches .negative) mantissa exponent

/-- The sign of a double; `-0` is negative and the undefined number is not. -/
def negative : Binary64 → Bool
  | .nan => false
  | .infinite negative => negative
  | .finite negative _ _ => negative

/-- `mantissa · 2 ^ exponent` as a quotient of two natural numbers. -/
def quotient (mantissa : Nat) (exponent : Int) : Nat × Nat :=
  (mantissa * Nat.pow 2 exponent.toNat, Nat.pow 2 (-exponent).toNat)

end Binary64

/-- Positive infinity. -/
def infinity : Float := 1.0 / 0.0

/-- The undefined number. -/
def undefinedNumber : Float := 0.0 / 0.0

/-- The largest of the natural numbers that are doubles up to it, without a gap. -/
def largestCount : Nat := 9007199254740991

/-- A number of things as a double. No run holds more things than `largestCount`; more would count
as that many, so that a count is exact or at least finite. -/
def ofCount (n : Nat) : Float := .ofNat (min n largestCount)

/-- The smaller of two doubles: an undefined operand makes the result undefined, and `-0` lies
below `+0`. -/
def least (x y : Float) : Float :=
  if x.isNaN then x
  else if y.isNaN then y
  else if x < y then x
  else if y < x then y
  else if (Binary64.ofFloat x).negative then x else y

/-- The larger of two doubles: an undefined operand makes the result undefined, and `+0` lies
above `-0`. -/
def greatest (x y : Float) : Float :=
  if x.isNaN then x
  else if y.isNaN then y
  else if y < x then x
  else if x < y then y
  else if (Binary64.ofFloat x).negative then y else x

/-- The nearest whole number, halves going up: `⌊x + 1/2⌋` of the exact value. A double with a
non-negative exponent is whole already. -/
def roundHalfUp (x : Float) : Float :=
  match Binary64.ofFloat x with
  | .finite negative mantissa exponent =>
    if 0 ≤ exponent then x
    else
      let signed : Int := if negative then -mantissa else mantissa
      let unit : Int := Nat.pow 2 (-exponent).toNat
      .ofInt ((2 * signed + unit).fdiv (2 * unit))
  | _ => x

end BenchGate
